import TemplateLint.Proofs.Grammar.Balance
import TemplateLint.Proofs.Grammar.Expression

/-!
Statements keep regions and tags in balance.

A statement begins at the name of its first tag and ends before the end of its last one. In between
it passes whole bodies. The regions that are closed on the way are in balance with the edges that
are passed: a linted region starts behind its opening tag and stops at its closing tag. Main
statement: `goes_of_statement`.
-/

namespace TemplateLint.Grammar

/-! ### Phrases of statements -/

namespace Phrasing

variable {P : Stream → Prop}

lemma inside_phrase (p : Phrase) : Inside Anywhere (phrase p) :=
  fun st a st' _ hr => Expression.inside_read st.bound p st a st' trivial hr

lemma inside_nameTarget : Inside P nameTarget := by
  refine inside_bind inside_expectName fun name => ?_
  exact inside_ite (fun _ => inside_fail _ _) fun _ => inside_pure _

lemma inside_target (attributes : Bool) (role : String) : Inside P (target attributes role) := by
  refine inside_bind
    (Expression.inside_tuple (Expression.inside_primary inside_phrase attributes) false) fun e => ?_
  exact inside_ite (fun _ => inside_pure _) fun _ => inside_fail _ _

end Phrasing

namespace Reading

open Phrasing

section

variable {P : Stream → Prop}

lemma inside_tuple (part : Phrase) : Inside P (tuple part) :=
  Expression.inside_tuple (inside_phrase part) false

lemma inside_expression : Inside P expression := (inside_phrase _).anywhere

lemma inside_signature : Inside P signature := by
  refine inside_bind (inside_expect (by simp)) fun _ => ?_
  refine inside_bind (inside_items fun before => ?_) fun ps => ?_
  · refine inside_bind inside_nameTarget fun name => ?_
    refine inside_bind (inside_skipIf (by simp)) fun b => ?_
    dsimp only
    refine inside_ite (fun _ => ?_) fun _ => ?_
    · exact inside_bind inside_expression fun e => inside_pure _
    · refine inside_ite (fun _ => ?_) fun _ => inside_pure _
      exact inside_bind (inside_failHere _) fun _ => inside_pure _
  · exact inside_bind (inside_expect (by simp)) fun _ => inside_pure _

lemma inside_context : Inside P context := by
  refine inside_current fun t => ?_
  dsimp only
  refine inside_ite (fun hopens => inside_look fun t' => ?_) fun _ => inside_pure _
  refine inside_ite (fun hfits => ?_) fun _ => inside_pure _
  refine inside_skip_skip (fun st hst => ?_) (fun st t hst ht => ?_) (inside_pure _)
  · rw [hst.1.2]
    cases hs : t.shape <;> first | rfl | (rw [hs] at hopens; cases hopens)
  · rw [hst.2] at ht
    cases ht
    exact isEdge_of_fits hfits (by simp)

lemma inside_contextAfterName (default : Bool) : Inside P (contextAfterName default) := by
  refine inside_shape fun s => inside_ite (fun _ => ?_) fun _ => inside_pure _
  exact inside_bind inside_context fun c => inside_pure _

lemma inside_ignores : Inside P inclusion.ignores := by
  refine inside_at? fun s => inside_ite (fun hword => ?_) fun _ => inside_pure _
  refine inside_look fun t => ?_
  refine inside_ite (fun hfits => ?_) fun _ => inside_pure _
  refine inside_skip_skip (fun st hst => ?_) (fun st t' hst ht => ?_) (inside_pure _)
  · rw [hst.1.2]
    exact isEdge_of_fits hword (by simp)
  · rw [hst.2] at ht
    cases ht
    exact isEdge_of_fits hfits (by simp)

lemma inside_importedName : Inside P importedName := by
  refine inside_bind inside_nameTarget fun name => ?_
  dsimp only
  refine inside_ite (fun _ => inside_bind (inside_fail _ _) fun _ => ?_) fun _ => ?_
  all_goals
    refine inside_bind (inside_skipIf (by simp)) fun b => inside_ite (fun _ => ?_) fun _ => ?_
    · exact inside_bind inside_nameTarget fun name => inside_pure _
    · exact inside_pure _

lemma inside_importedNames : Inside P importedNames := by
  refine inside_loop (fun names => ?_) _
  dsimp only
  refine inside_ite (fun _ => inside_bind (inside_expect (by simp)) fun _ => ?_) fun _ => ?_
  all_goals
    refine inside_shape fun s => ?_
    refine inside_ite (fun _ => inside_bind (inside_expect (by simp)) fun _ => ?_) fun _ => ?_
    all_goals
      refine inside_bind inside_context fun c => ?_
      split
      · exact inside_pure _
      · refine inside_bind inside_importedName fun name => inside_bind inside_context fun c => ?_
        split
        · exact inside_pure _
        · exact inside_at? fun s => inside_ite (fun _ => inside_pure _) fun _ => inside_pure _

end

/-! ### Readings -/

/-- From one state of a reading to another one, and from some edges to those left behind, with the
regions closed on the way. -/
structure Goes (s : Progress) (es : List Edge) (rs : List Region) (s' : Progress)
    (es' : List Edge) : Prop where
  leads : s.stream.Leads s'.stream
  regions : s'.regions = s.regions ++ rs
  balanced : Balanced s.opened es rs s'.opened es'

lemma Goes.refl (s : Progress) (es : List Edge) : Goes s es [] s es :=
  ⟨.refl, (List.append_nil _).symm, .refl _ _⟩

lemma Goes.trans {s s' s'' : Progress} {es es' es'' : List Edge} {rs rs' : List Region}
    (h : Goes s es rs s' es') (h' : Goes s' es' rs' s'' es'') :
    Goes s es (rs ++ rs') s'' es'' where
  leads := h.leads.trans h'.leads
  regions := by rw [h'.regions, h.regions, List.append_assoc]
  balanced := h.balanced.trans h'.balanced

lemma Goes.plain {s s' : Progress} {e : Edge} {es es' : List Edge} {rs : List Region}
    (he : e.isPlain) (h : Goes s es rs s' es') : Goes s (e :: es) rs s' es' :=
  ⟨h.leads, h.regions, .plain he h.balanced⟩

/-- Going on without counting what is passed. -/
lemma goes_of_advance {s : Progress} {st : Stream} (h : s.stream.advance = .ok st)
    (es : List Edge) : Goes s es [] { s with stream := st } es :=
  ⟨.single h, (List.append_nil _).symm, .refl _ _⟩

lemma goes_of_within {s : Progress} {st : Stream} (h : s.stream.Within st) :
    Goes s s.stream.edges [] { s with stream := st } st.edges where
  leads := h.leads
  regions := (List.append_nil _).symm
  balanced := by
    rw [h.edges]
    exact .refl _ _

/-- From the given states a reading, if it succeeds, keeps regions and tags in balance and leads to
other given states. -/
def Reads {α : Type} (P : Progress → Prop) (p : Reading α) (Q : Progress → Prop) : Prop :=
  ∀ s a s', P s → p.run s = (.ok a, s') →
    (∃ rs, Goes s s.stream.edges rs s' s'.stream.edges) ∧ Q s'

/-- Any state. -/
def Anyhow : Progress → Prop := fun _ => True

/-- A state at a name. -/
def AtName : Progress → Prop := fun s => s.stream.current.shape.isName

section

variable {α β : Type} {P Q R : Progress → Prop} {p : Reading α} {f : α → Reading β}

lemma run_bind_eq_ok {s s' : Progress} {b : β} (h : (p >>= f).run s = (.ok b, s')) :
    ∃ a s₁, p.run s = (.ok a, s₁) ∧ (f a).run s₁ = (.ok b, s') := by
  have hrun : (p >>= f).run s = ExceptT.bindCont f (p.run s).1 (p.run s).2 := rfl
  rw [hrun] at h
  rcases hp : p.run s with ⟨e | a, s₁⟩ <;> rw [hp] at h
  · cases h
  · exact ⟨a, s₁, rfl, h⟩

lemma run_phrase_eq_ok {q : Phrasing α} {s s' : Progress} {a : α}
    (h : (liftM q : Reading α).run s = (.ok a, s')) :
    ∃ st, q.run s.stream = .ok (a, st) ∧ s' = { s with stream := st } := by
  have hrun : (liftM q : Reading α).run s = (Reading.phrase q).run s := rfl
  rw [hrun] at h
  simp only [Reading.phrase, ExceptT.run_mk, StateT.run] at h
  cases hq : q s.stream with
  | error e =>
    rw [hq] at h
    cases h
  | ok r =>
    rw [hq] at h
    cases h
    exact ⟨r.2, hq, rfl⟩

lemma run_phrase_bind_eq_ok {q : Phrasing α} {s s' : Progress} {b : β}
    (h : ((liftM q : Reading α) >>= f).run s = (.ok b, s')) :
    ∃ a st, q.run s.stream = .ok (a, st) ∧ (f a).run { s with stream := st } = (.ok b, s') := by
  obtain ⟨a, s₁, h₁, h₂⟩ := run_bind_eq_ok h
  obtain ⟨st, hq, rfl⟩ := run_phrase_eq_ok h₁
  exact ⟨a, st, hq, h₂⟩

lemma reads_pure (a : α) : Reads P (pure a) Anyhow := by
  intro s b s' hP h
  cases h
  exact ⟨⟨[], .refl s _⟩, trivial⟩

lemma reads_failHere (cause : Cause) : Reads P (liftM (failHere cause : Phrasing α)) Anyhow := by
  intro s b s' hP h
  obtain ⟨st, h₁, -⟩ := run_phrase_eq_ok h
  cases h₁

lemma reads_fail (cause : Cause) (line : Nat) :
    Reads P (liftM (fail cause line : Phrasing α)) Anyhow := by
  intro s b s' hP h
  obtain ⟨st, h₁, -⟩ := run_phrase_eq_ok h
  cases h₁

lemma reads_bind (hp : Reads P p Q) (hf : ∀ a, Reads Q (f a) R) : Reads P (p >>= f) R := by
  intro s b s' hP h
  obtain ⟨a, s₁, h₁, h₂⟩ := run_bind_eq_ok h
  obtain ⟨⟨rs, hgoes⟩, hQ⟩ := hp s a s₁ hP h₁
  obtain ⟨⟨rs', hgoes'⟩, hR⟩ := hf a s₁ b s' hQ h₂
  exact ⟨⟨rs ++ rs', hgoes.trans hgoes'⟩, hR⟩

lemma reads_map {g : α → β} (hp : Reads P p Q) : Reads P (g <$> p) Anyhow := by
  rw [← bind_pure_comp]
  exact reads_bind hp fun a => reads_pure _

lemma reads_ite {c : Prop} [Decidable c] {q : Reading α} (hp : Reads P p Q) (hq : Reads P q Q) :
    Reads P (if c then p else q) Q := by
  split
  · exact hp
  · exact hq

lemma reads_phrase {q : Phrasing α} (h : Inside Anywhere q) :
    Reads P (liftM q : Reading α) Anyhow := by
  intro s a s' _ hr
  obtain ⟨st, h₁, rfl⟩ := run_phrase_eq_ok hr
  exact ⟨⟨[], goes_of_within (h _ a st trivial h₁)⟩, trivial⟩

lemma isEdge_of_isName {s : Shape} (h : s.isName = true) : s.isEdge = false := by
  cases s <;> first | rfl | cases h

/-- A name can be taken. -/
lemma reads_next : Reads AtName (liftM next : Reading Terminal) Anyhow := by
  intro s a s' hs hr
  obtain ⟨st, h₁, rfl⟩ := run_phrase_eq_ok hr
  have hadvance := (run_next_eq_ok h₁).2
  exact ⟨⟨[], goes_of_within (Stream.within_advance hadvance (isEdge_of_isName hs))⟩, trivial⟩

lemma reads_skip : Reads AtName (liftM skip : Reading Unit) Anyhow := by
  intro s a s' hs hr
  obtain ⟨st, h₁, rfl⟩ := run_phrase_eq_ok hr
  have hadvance := run_skip_eq_ok h₁
  exact ⟨⟨[], goes_of_within (Stream.within_advance hadvance (isEdge_of_isName hs))⟩, trivial⟩

end

/-! ### Bodies -/

/-- How nodes end that are read up to a tag: at the end of the template, or at the name of a tag
that was looked for; the edge that opens this tag has been passed. -/
inductive Ending (search : Search) (s : Progress) (stop : Nat) : List Edge → Prop
  | finish (h : s.stream.current.shape = .finish) : Ending search s stop []
  | tag (w : String) (hw : w ∈ search.ends.headD []) (h : s.stream.current.shape = .name w) :
    Ending search s stop [.opening stop (some w)]

/-- Reading nodes keeps regions and tags in balance up to the tag that ends them. -/
def ReadsNodes (search : Search) (p : Reading (List Node × Nat)) : Prop :=
  ∀ s r s', p.run s = (.ok r, s') → ∃ rs es, Ending search s' r.2 es ∧
    Goes s s.stream.edges rs s' (es ++ s'.stream.edges)

/-- Taking the end of a tag. -/
lemma run_expect_blockEnd {s s' : Progress} {t : Terminal}
    (h : (liftM (expect .blockEnd) : Reading Terminal).run s = (.ok t, s')) :
    Goes s s'.stream.edges [] s' s'.stream.edges ∧
      s.stream.edges = .closing t.place :: s'.stream.edges := by
  obtain ⟨st, h₁, rfl⟩ := run_phrase_eq_ok h
  obtain ⟨t', st₁, ht, h₂⟩ := Phrasing.run_bind_eq_ok h₁
  cases ht
  split at h₂
  · next hfits =>
    obtain ⟨rfl, hadvance⟩ := run_next_eq_ok h₂
    have hs : s.stream.current.shape = .blockEnd := by
      cases hs : s.stream.current.shape <;> rw [hs] at hfits <;> first | rfl | cases hfits
    exact ⟨goes_of_advance hadvance _, Stream.edges_of_blockEnd hadvance hs⟩
  · cases h₂

lemma isPlain_opening {w : String} (h : w ∉ ["lint", "endlint"]) (place : Nat) :
    (Edge.opening place (some w)).isPlain := by
  simp only [List.mem_cons, List.not_mem_nil, or_false, not_or] at h
  simp [Edge.isPlain, Edge.opens, h.1, h.2]

/-- What the body of a tag holds: it begins behind the end of the tag and stops at a tag that was
looked for. -/
structure BodyRead (s : Progress) (b : Body) (w : String) (s' : Progress) : Prop where
  name : s'.stream.current.shape = .name w
  goes : ∃ q es rs, s.stream.edges = .closing q :: es ∧ b.first = q + 1 ∧
    Goes s es rs s' (.opening b.stop (some w) :: s'.stream.edges)

variable {self : Search → Reading (List Node × Nat)} {search : Search}
  (hself : ∀ search, ReadsNodes search (self search))

include hself

lemma bodyRead_of_bodyUpTo {ends : List String} {s s' : Progress} {b : Body}
    (h : (bodyUpTo self search ends).run s = (.ok b, s')) : ∃ w ∈ ends, BodyRead s b w s' := by
  unfold bodyUpTo at h
  obtain ⟨colon, st, hskip, h⟩ := run_phrase_bind_eq_ok h
  obtain ⟨opening, s₂, h₂, h⟩ := run_bind_eq_ok h
  dsimp only at h
  obtain ⟨⟨ns, stop⟩, s₃, h₃, h⟩ := run_bind_eq_ok h
  dsimp only at h
  obtain ⟨shape, s₄, h₄, h⟩ := run_bind_eq_ok h
  have hwithin := inside_skipIf (P := Anywhere) (w := .op .colon) (by simp) _ _ _ trivial hskip
  obtain ⟨hgoes, hedges⟩ := run_expect_blockEnd h₂
  obtain ⟨rs, es, hending, hgoes'⟩ := hself _ _ _ _ h₃
  cases h₄
  split at h
  · obtain ⟨u, st', h₅, -⟩ := run_phrase_bind_eq_ok h
    cases h₅
  · next hshape =>
    cases h
    cases hending with
    | finish hfinish => exact absurd hfinish hshape
    | tag w hw hname =>
      refine ⟨w, hw, hname, opening.place, s₂.stream.edges, rs, ?_, rfl, ?_⟩
      · rw [← hwithin.edges, ← hedges]
      · have hstart := (goes_of_within hwithin).leads
        exact ⟨hstart.trans (hgoes.trans hgoes').leads, (hgoes.trans hgoes').regions,
          (hgoes.trans hgoes').balanced⟩

/-- A body that ends at other tags than those of linted regions. -/
lemma reads_bodyUpTo {ends : List String} (hends : ∀ w ∈ ends, w ∉ ["lint", "endlint"]) :
    Reads Anyhow (bodyUpTo self search ends) AtName := by
  intro s b s' _ h
  obtain ⟨w, hw, hname, q, es, rs, hedges, -, hgoes⟩ := bodyRead_of_bodyUpTo hself h
  have hplain : (Edge.opening b.stop (some w)).isPlain := isPlain_opening (hends w hw) b.stop
  refine ⟨⟨rs, ?_⟩, ?_⟩
  · rw [hedges, ← List.append_nil rs]
    exact .plain rfl (hgoes.trans (.plain hplain (.refl _ _)))
  · rw [AtName, hname]
    rfl

lemma reads_body {tag : String} (htag : tag ∉ ["lint", "endlint"]) :
    Reads Anyhow (body self search tag) Anyhow := by
  refine reads_bind (reads_bodyUpTo hself (by simpa using htag)) fun b => ?_
  exact reads_bind reads_skip fun _ => reads_pure b

/-! ### Statements -/

lemma reads_loop : Reads AtName (loop self search) Anyhow := by
  refine reads_bind reads_next fun tag => ?_
  refine reads_bind (reads_phrase (inside_target _ _)) fun target => ?_
  refine reads_bind (reads_phrase (inside_expect (by simp))) fun _ => ?_
  refine reads_bind (reads_phrase (inside_tuple _)) fun items => ?_
  refine reads_bind (reads_phrase (inside_skipIf (by simp))) fun hasTest => ?_
  refine reads_ite (reads_bind (reads_map (reads_phrase inside_expression)) fun test => ?_)
    (reads_bind (reads_pure none) fun test => ?_)
  all_goals
    refine reads_bind (reads_phrase (inside_skipIf (by simp))) fun isRecursive => ?_
    refine reads_bind (reads_bodyUpTo hself (by simp)) fun b => ?_
    refine reads_bind reads_next fun ending => ?_
    refine reads_ite (reads_bind (reads_pure []) fun other => reads_pure _) ?_
    refine reads_bind (reads_body hself (by simp)) fun b' => ?_
    exact reads_bind (reads_pure _) fun other => reads_pure _

lemma reads_branches (rounds : Nat) : Reads Anyhow (branches self search rounds) Anyhow := by
  induction rounds with
  | zero => exact reads_failHere _
  | succ rounds ih =>
    refine reads_bind (reads_phrase (inside_tuple _)) fun test => ?_
    refine reads_bind (reads_bodyUpTo hself (by simp)) fun b => ?_
    refine reads_bind reads_next fun ending => ?_
    refine reads_ite ?_ (reads_ite ?_ (reads_pure _))
    · refine reads_bind (reads_phrase (inside_line fun n => inside_pure n)) fun start => ?_
      exact reads_bind ih fun more => reads_pure _
    · exact reads_bind (reads_body hself (by simp)) fun b' => reads_pure _

lemma reads_branch : Reads AtName (branch self search) Anyhow := by
  refine reads_bind reads_next fun tag => ?_
  intro s a s' hs h
  obtain ⟨progress, s₁, h₁, h₂⟩ := run_bind_eq_ok h
  cases h₁
  exact reads_bind (reads_branches hself _) (fun more => reads_pure _) s a s' hs h₂

lemma reads_block : Reads AtName (block self search) Anyhow := by
  refine reads_bind reads_next fun tag => ?_
  refine reads_bind (reads_phrase inside_expectName) fun name => ?_
  refine reads_bind (reads_phrase (inside_skipIf (by simp))) fun isScoped => ?_
  refine reads_bind (reads_phrase (inside_skipIf (by simp))) fun isRequired => ?_
  refine reads_bind (reads_phrase (inside_at? fun s => inside_pure _)) fun hasHyphen => ?_
  refine reads_ite (reads_bind (reads_failHere _) fun _ => ?_) ?_
  all_goals
    refine reads_bind (reads_body hself (by simp)) fun b => ?_
    refine reads_ite (reads_bind (reads_failHere _) fun _ => ?_) ?_
    all_goals
      refine reads_bind (reads_phrase (inside_skipIf (by simp))) fun _ => reads_pure _

lemma reads_macroDef : Reads AtName (macroDef self search) Anyhow := by
  refine reads_bind reads_next fun tag => ?_
  refine reads_bind (reads_phrase inside_nameTarget) fun name => ?_
  refine reads_bind (reads_phrase inside_signature) fun parameters => ?_
  exact reads_bind (reads_body hself (by simp)) fun b => reads_pure _

lemma reads_callBlock : Reads AtName (callBlock self search) Anyhow := by
  refine reads_bind reads_next fun tag => ?_
  refine reads_bind (reads_phrase (inside_at? fun s => inside_pure _)) fun hasSignature => ?_
  refine reads_ite (reads_bind (reads_phrase inside_signature) fun parameters => ?_)
    (reads_bind (reads_pure _) fun parameters => ?_)
  all_goals
    refine reads_bind (reads_phrase inside_expression) fun call => ?_
    refine reads_ite (reads_bind (reads_fail _ _) fun _ => ?_) ?_
    all_goals
      exact reads_bind (reads_body hself (by simp)) fun b => reads_pure _

lemma reads_filterBlock : Reads AtName (filterBlock self search) Anyhow := by
  refine reads_bind reads_next fun tag => ?_
  refine reads_bind (reads_phrase (Expression.inside_filter inside_phrase none)) fun first => ?_
  refine reads_bind (reads_phrase (Expression.inside_piped inside_phrase _)) fun filter => ?_
  exact reads_bind (reads_body hself (by simp)) fun b => reads_pure _

lemma reads_assignment : Reads AtName (assignment self search) Anyhow := by
  refine reads_bind reads_next fun tag => ?_
  refine reads_bind (reads_phrase (inside_target _ _)) fun target => ?_
  refine reads_bind (reads_phrase (inside_skipIf (by simp))) fun hasValue => reads_ite ?_ ?_
  · exact reads_bind (reads_phrase (inside_tuple _)) fun value => reads_pure _
  · refine reads_bind (reads_phrase (Expression.inside_piped inside_phrase _)) fun filter => ?_
    exact reads_bind (reads_body hself (by simp)) fun b => reads_pure _

lemma reads_withScope : Reads AtName (withScope self search) Anyhow := by
  refine reads_bind reads_next fun tag => ?_
  refine reads_bind (reads_phrase (inside_items fun _ => ?_)) fun ps => ?_
  · refine inside_bind (inside_target _ _) fun target => ?_
    refine inside_bind (inside_expect (by simp)) fun _ => ?_
    exact inside_bind inside_expression fun value => inside_pure _
  · exact reads_bind (reads_body hself (by simp)) fun b => reads_pure _

lemma reads_autoescape : Reads AtName (autoescape self search) Anyhow := by
  refine reads_bind reads_next fun tag => ?_
  refine reads_bind (reads_phrase inside_expression) fun value => ?_
  exact reads_bind (reads_body hself (by simp)) fun b => reads_pure _

/-- The body of an inspected region may hold linted ones. -/
lemma reads_inspectRegion : Reads AtName (inspectRegion self search) Anyhow := by
  refine reads_bind reads_next fun tag => ?_
  refine reads_bind (reads_body hself (by simp)) fun b => ?_
  refine reads_bind (Q := Anyhow) (fun s u s' _ h => ?_) fun _ => reads_pure _
  cases h
  exact ⟨⟨[_], .refl, rfl, .inspect rfl (.refl _ _)⟩, trivial⟩

omit hself

lemma reads_extend : Reads AtName extend Anyhow := by
  refine reads_bind reads_next fun tag => ?_
  exact reads_bind (reads_phrase inside_expression) fun value => reads_pure _

lemma reads_print : Reads AtName print Anyhow := by
  refine reads_bind reads_next fun tag => ?_
  exact reads_bind (reads_phrase (inside_items fun _ => inside_expression)) fun es => reads_pure _

lemma reads_inclusion : Reads AtName inclusion Anyhow := by
  refine reads_bind reads_next fun tag => ?_
  refine reads_bind (reads_phrase inside_expression) fun template => ?_
  refine reads_bind (reads_phrase inside_ignores) fun ignoreMissing => ?_
  exact reads_bind (reads_phrase (inside_contextAfterName _)) fun withContext => reads_pure _

lemma reads_importModule : Reads AtName importModule Anyhow := by
  refine reads_bind reads_next fun tag => ?_
  refine reads_bind (reads_phrase inside_expression) fun template => ?_
  refine reads_bind (reads_phrase (inside_expect (by simp))) fun _ => ?_
  refine reads_bind (reads_phrase inside_nameTarget) fun target => ?_
  exact reads_bind (reads_phrase (inside_contextAfterName _)) fun withContext => reads_pure _

lemma reads_fromImport : Reads AtName fromImport Anyhow := by
  refine reads_bind reads_next fun tag => ?_
  refine reads_bind (reads_phrase inside_expression) fun template => ?_
  refine reads_bind (reads_phrase (inside_expect (by simp))) fun _ => ?_
  exact reads_bind (reads_phrase inside_importedNames) fun names => reads_pure _

lemma reads_doStatement : Reads AtName doStatement Anyhow := by
  refine reads_bind reads_next fun tag => ?_
  exact reads_bind (reads_phrase (inside_tuple _)) fun value => reads_pure _

lemma reads_loopControl (tag : String) : Reads AtName (loopControl tag) Anyhow :=
  reads_bind reads_next fun _ => reads_pure _

lemma reads_debug : Reads AtName debug Anyhow := reads_bind reads_next fun _ => reads_pure _

/-! ### Tags -/

/-- What reads a statement keeps regions and tags in balance, its first tag included. -/
def ReadsTag {α : Type} (tag : String) (p : Reading α) : Prop :=
  ∀ s a s', s.stream.current.shape = .name tag → p.run s = (.ok a, s') → ∀ place,
    ∃ rs, Goes s (.opening place (some tag) :: s.stream.edges) rs s' s'.stream.edges

lemma Reads.readsTag {α : Type} {tag : String} {p : Reading α} (h : Reads AtName p Anyhow)
    (htag : tag ∉ ["lint", "endlint"]) : ReadsTag tag p := by
  intro s a s' hs hrun place
  have hname : AtName s := by rw [AtName, hs]; rfl
  obtain ⟨⟨rs, hgoes⟩, -⟩ := h s a s' hname hrun
  exact ⟨rs, .plain (isPlain_opening htag place) hgoes⟩

include hself

/-- A linted region gets the number of its tag before its body is read. -/
lemma readsTag_lintRegion : ReadsTag "lint" (lintRegion self search) := by
  intro s ns s' hs h place
  obtain ⟨tag, st, hnext, h⟩ := run_phrase_bind_eq_ok h
  obtain ⟨ordinal, s₂, h₂, h⟩ := run_bind_eq_ok h
  obtain ⟨b, s₃, h₃, h⟩ := run_bind_eq_ok h
  obtain ⟨u, s₄, h₄, h⟩ := run_bind_eq_ok h
  obtain ⟨b', s₅, hbody, h₅⟩ := run_bind_eq_ok h₃
  obtain ⟨u', st', hskip, h₇⟩ := run_phrase_bind_eq_ok h₅
  have htag := Stream.within_advance (run_next_eq_ok hnext).2 (by rw [hs]; rfl)
  cases h₂
  cases h₇
  cases h₄
  cases h
  obtain ⟨w, hw, hname, q, es, rs, hedges, hfirst, hgoes⟩ := bodyRead_of_bodyUpTo hself hbody
  obtain rfl : w = "endlint" := by simpa using hw
  have hend := Stream.within_advance (run_skip_eq_ok hskip) (by rw [hname]; rfl)
  refine ⟨rs ++ [⟨.lint s.opened, tag.line, b.nodes, b.first, b.stop, s₅.opened⟩],
    htag.leads.trans (hgoes.leads.trans hend.leads), ?_, ?_⟩
  · dsimp only
    rw [hgoes.regions, List.append_assoc]
  · dsimp only at hedges
    rw [← htag.edges, hedges]
    refine .block rfl hfirst hgoes.balanced ?_
    rw [hend.edges]
    exact .refl _ _

lemma readsTag_standardStatement {tag : String} {p : Reading Node}
    (h : standardStatement? self search tag = some p) : ReadsTag tag p := by
  unfold standardStatement? at h
  split at h <;> cases h
  · exact (reads_loop hself).readsTag (by simp)
  · exact (reads_branch hself).readsTag (by simp)
  · exact (reads_block hself).readsTag (by simp)
  · exact reads_extend.readsTag (by simp)
  · exact reads_print.readsTag (by simp)
  · exact (reads_macroDef hself).readsTag (by simp)
  · exact reads_inclusion.readsTag (by simp)
  · exact reads_fromImport.readsTag (by simp)
  · exact reads_importModule.readsTag (by simp)
  · exact (reads_assignment hself).readsTag (by simp)
  · exact (reads_withScope hself).readsTag (by simp)
  · exact (reads_autoescape hself).readsTag (by simp)
  · exact (reads_callBlock hself).readsTag (by simp)
  · exact (reads_filterBlock hself).readsTag (by simp)

lemma readsTag_extensionStatement {e : Extension} {tag : String} (htag : tag ∈ e.tags) :
    ReadsTag tag (extensionStatement self search e tag) := by
  cases e with
  | lint =>
    obtain rfl : tag = "lint" := by simpa [Extension.tags] using htag
    exact readsTag_lintRegion hself
  | inspect =>
    obtain rfl : tag = "inspect" := by simpa [Extension.tags] using htag
    exact (reads_inspectRegion hself).readsTag (by simp)
  | doStatement =>
    obtain rfl : tag = "do" := by simpa [Extension.tags] using htag
    exact (reads_map reads_doStatement).readsTag (by simp)
  | loopControls =>
    have hplain : tag ∉ ["lint", "endlint"] := by
      rcases (by simpa [Extension.tags] using htag : tag = "break" ∨ tag = "continue") with
        rfl | rfl <;> simp
    exact (reads_map (reads_loopControl tag)).readsTag hplain
  | debug =>
    obtain rfl : tag = "debug" := by simpa [Extension.tags] using htag
    exact (reads_map reads_debug).readsTag (by simp)

/-- **A statement keeps regions and tags in balance**, from the name of its first tag up to the end
of its last one. -/
theorem goes_of_statement {es : List Extension} {s s' : Progress} {ns : List Node}
    (h : (statement self search es).run s = (.ok ns, s')) (place : Nat) : ∃ rs,
      Goes s (.opening place s.stream.current.shape.name? :: s.stream.edges) rs s'
        s'.stream.edges := by
  obtain ⟨t, s₁, h₁, h⟩ := run_bind_eq_ok h
  cases h₁
  dsimp only at h
  split at h
  · next tag htag =>
    rw [htag]
    split at h
    · next p hp =>
      rw [map_eq_pure_bind] at h
      obtain ⟨n, s₂, h₂, h⟩ := run_bind_eq_ok h
      cases h
      exact readsTag_standardStatement hself hp s n _ htag h₂ place
    · split at h
      · next e he =>
        have hmem : tag ∈ e.tags := by simpa using List.find?_some he
        exact readsTag_extensionStatement hself hmem s ns s' htag h place
      · obtain ⟨st, h₂, -⟩ := run_phrase_eq_ok h
        cases h₂
  · obtain ⟨st, h₂, -⟩ := run_phrase_eq_ok h
    cases h₂

end Reading

end TemplateLint.Grammar
