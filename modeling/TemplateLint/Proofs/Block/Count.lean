import Mathlib
import TemplateLint.Proofs.Block.Edges

/-!
Blocks by counting tags.

A block is closed at the first place at which, counted from its opening tag on, more tags have
closed a block than opened one. The search for this place keeps the difference as a depth. Main
statements: `findOpening_of_drop`, `closedAt_upToClosing`, `Outnumbers.inside`.
-/

namespace TemplateLint.Block

/-! ### Tags by their places -/

def opensTagAt (ts : List Token) (p : Nat) : Bool := ts[p]?.any opensTag

def closesTagAt (ts : List Token) (p : Nat) : Bool := ts[p]?.any closesTag

/-- Whether the token at a place opens a tag of the given name. -/
def opensAt (name : String) (ts : List Token) (p : Nat) : Bool :=
  match ts.drop p with
  | [] => false
  | t :: rest => opensNamed name t rest

/-- How many tags of a name are opened from the place `a` up to the place `b`. -/
def tagsIn (name : String) (ts : List Token) (a b : Nat) : Nat :=
  (List.range' a (b - a)).countP (opensAt name ts)

/-- Every tag that is opened is closed before another one is opened. -/
def Tidy (ts : List Token) : Prop :=
  ∀ p, opensTagAt ts p → ∃ q, p < q ∧ closesTagAt ts q ∧ ∀ r, p < r → r < q → ¬opensTagAt ts r

/-- The tag that is opened at the place `p` ends right before the place `s`. -/
structure EndsBefore (ts : List Token) (p s : Nat) : Prop where
  lt : p + 1 < s
  closes : closesTagAt ts (s - 1)
  first : ∀ q, p < q → q + 1 < s → ¬closesTagAt ts q

/-- From the place `s` on, the tag at `e` is the first one with which more blocks have been closed
than opened. -/
structure Outnumbers (beginTag endTag : String) (ts : List Token) (s e : Nat) : Prop where
  le : s ≤ e
  closes : opensAt endTag ts e
  more : tagsIn beginTag ts s (e + 1) < tagsIn endTag ts s (e + 1)
  first : ∀ x, s ≤ x → x < e → tagsIn endTag ts s (x + 1) ≤ tagsIn beginTag ts s (x + 1)

/-! ### Places -/

variable {name beginTag endTag : String} {t : Token} {ts rest : List Token} {p s e : Nat}

lemma drop_succ_of_drop (h : ts.drop p = t :: rest) : ts.drop (p + 1) = rest := by
  rw [← List.drop_drop, h]
  rfl

lemma getElem?_of_drop (h : ts.drop p = t :: rest) : ts[p]? = some t := by
  have hhead : (ts.drop p)[0]? = ts[p + 0]? := List.getElem?_drop
  rw [h] at hhead
  exact hhead.symm

lemma opensAt_of_drop (h : ts.drop p = t :: rest) (name : String) :
    opensAt name ts p = opensNamed name t rest := by
  rw [opensAt, h]

lemma opensTagAt_of_opensAt (h : opensAt name ts p) : opensTagAt ts p := by
  unfold opensAt at h
  split at h
  · cases h
  · next t rest hdrop =>
    rw [opensTagAt, getElem?_of_drop hdrop]
    exact (Bool.and_eq_true_iff.1 h).1

/-- A tag has one name. -/
lemma opensAt_unique (h : opensAt beginTag ts p) (h' : opensAt endTag ts p) :
    beginTag = endTag := by
  cases hdrop : ts.drop p with
  | nil => simp [opensAt, hdrop] at h
  | cons t rest =>
    rw [opensAt_of_drop hdrop, opensNamed, Bool.and_eq_true, beq_iff_eq] at h h'
    exact Option.some.inj (h.2.symm.trans h'.2)

lemma not_opensTag_of_closesTag (h : closesTag t) : ¬opensTag t := by
  unfold closesTag at h
  unfold opensTag
  simp only [Bool.or_eq_true, beq_iff_eq] at h ⊢
  rcases h with h | h <;> rw [h] <;> decide

lemma not_opensTagAt_of_closesTagAt (h : closesTagAt ts p) : ¬opensTagAt ts p := by
  unfold closesTagAt at h
  unfold opensTagAt
  cases ht : ts[p]? with
  | none => simp
  | some t =>
    rw [ht] at h
    exact not_opensTag_of_closesTag h

/-! ### Counting -/

@[simp] lemma tagsIn_self (name : String) (ts : List Token) (a : Nat) : tagsIn name ts a a = 0 := by
  simp [tagsIn]

lemma tagsIn_add (name : String) (ts : List Token) {a b c : Nat} (hab : a ≤ b) (hbc : b ≤ c) :
    tagsIn name ts a c = tagsIn name ts a b + tagsIn name ts b c := by
  have hsplit : List.range' a (c - a) = List.range' a (b - a) ++ List.range' b (c - b) := by
    have h := List.range'_append_1 (s := a) (m := b - a) (n := c - b)
    rw [show a + (b - a) = b by omega, show b - a + (c - b) = c - a by omega] at h
    exact h.symm
  rw [tagsIn, hsplit, List.countP_append]
  rfl

lemma tagsIn_one (name : String) (ts : List Token) (a : Nat) :
    tagsIn name ts a (a + 1) = if opensAt name ts a then 1 else 0 := by
  simp [tagsIn, List.countP_cons]

/-- Where no tag is opened, none of the given name is. -/
lemma tagsIn_eq_zero {a b : Nat} (h : ∀ r, a ≤ r → r < b → ¬opensTagAt ts r) :
    tagsIn name ts a b = 0 := by
  refine List.countP_eq_zero.2 fun r hr hopens => ?_
  have hr := List.mem_range'_1.1 hr
  exact h r hr.1 (by omega) (opensTagAt_of_opensAt hopens)

lemma tagsIn_succ (name : String) (ts : List Token) {a b : Nat} (h : a < b) :
    tagsIn name ts a b = (if opensAt name ts a then 1 else 0) + tagsIn name ts (a + 1) b := by
  rw [tagsIn_add name ts (Nat.le_add_right a 1) h, tagsIn_one]

/-- A tag with more tags of its name before it stands behind one with fewer. -/
lemma lt_of_tagsIn_lt {q : Nat} (h : tagsIn name ts 0 p < tagsIn name ts 0 q) : p < q := by
  by_contra hle
  have := tagsIn_add name ts (Nat.zero_le q) (Nat.not_lt.1 hle)
  omega

/-- Where the number of closed blocks first exceeds that of opened ones, a block is closed. -/
lemma closes_of_more (hse : s ≤ e)
    (hmore : tagsIn beginTag ts s (e + 1) < tagsIn endTag ts s (e + 1))
    (hfirst : ∀ x, s ≤ x → x < e → tagsIn endTag ts s (x + 1) ≤ tagsIn beginTag ts s (x + 1)) :
    opensAt endTag ts e := by
  by_contra hcloses
  have hend := tagsIn_add endTag ts hse (Nat.le_add_right e 1)
  have hbegin := tagsIn_add beginTag ts hse (Nat.le_add_right e 1)
  rw [tagsIn_one, if_neg hcloses] at hend
  rcases Nat.eq_or_lt_of_le hse with rfl | hlt
  · rw [tagsIn_self] at hend
    omega
  · have hprev := hfirst (e - 1) (by omega) (by omega)
    rw [show e - 1 + 1 = e by omega] at hprev
    omega

/-- If more blocks are closed than opened somewhere then there is a first place of this kind. -/
lemma exists_outnumbers {x : Nat} (hs : s ≤ x)
    (hx : tagsIn beginTag ts s (x + 1) < tagsIn endTag ts s (x + 1)) :
    ∃ e, e ≤ x ∧ Outnumbers beginTag endTag ts s e := by
  have hexists : ∃ e, s ≤ e ∧
      tagsIn beginTag ts s (e + 1) < tagsIn endTag ts s (e + 1) := ⟨x, hs, hx⟩
  obtain ⟨hse, hmore⟩ := Nat.find_spec hexists
  have hfirst : ∀ y, s ≤ y → y < Nat.find hexists →
      tagsIn endTag ts s (y + 1) ≤ tagsIn beginTag ts s (y + 1) :=
    fun y hy hlt => Nat.not_lt.1 fun h => Nat.find_min hexists hlt ⟨hy, h⟩
  exact ⟨Nat.find hexists, Nat.find_min' hexists ⟨hs, hx⟩, hse,
    closes_of_more hse hmore hfirst, hmore, hfirst⟩

/-- A place is the first one, from `s` on, with which `depth + 1` more blocks have been closed than
opened; if there is no place then there is no such one. -/
def ClosedAt (beginTag endTag : String) (ts : List Token) (depth s : Nat) : Option Nat → Prop
  | some e => s ≤ e ∧ tagsIn beginTag ts s (e + 1) + depth < tagsIn endTag ts s (e + 1) ∧
      ∀ x, s ≤ x → x < e → tagsIn endTag ts s (x + 1) ≤ tagsIn beginTag ts s (x + 1) + depth
  | none => ∀ x, s ≤ x → tagsIn endTag ts s (x + 1) ≤ tagsIn beginTag ts s (x + 1) + depth

namespace ClosedAt

variable {depth depth' : Nat} {place? place?' : Option Nat}

lemma unique (h : ClosedAt beginTag endTag ts depth s place?)
    (h' : ClosedAt beginTag endTag ts depth s place?') : place? = place?' := by
  cases place? with
  | none =>
    cases place?' with
    | none => rfl
    | some e => exact absurd (h e h'.1) (Nat.not_le.2 h'.2.1)
  | some e =>
    cases place?' with
    | none => exact absurd (h' e h.1) (Nat.not_le.2 h.2.1)
    | some e' =>
      have hle : e ≤ e' := Nat.not_lt.1 fun hlt =>
        absurd (h.2.2 e' h'.1 hlt) (Nat.not_le.2 h'.2.1)
      have hge : e' ≤ e := Nat.not_lt.1 fun hlt =>
        absurd (h'.2.2 e h.1 hlt) (Nat.not_le.2 h.2.1)
      rw [Nat.le_antisymm hle hge]

lemma outnumbers_iff (h : ClosedAt beginTag endTag ts 0 s place?) (e : Nat) :
    place? = some e ↔ Outnumbers beginTag endTag ts s e := by
  constructor
  · rintro rfl
    exact ⟨h.1, closes_of_more h.1 h.2.1 h.2.2, h.2.1, h.2.2⟩
  · intro he
    have hat : ClosedAt beginTag endTag ts 0 s (some e) := ⟨he.le, he.more, he.first⟩
    exact h.unique hat

lemma of_length_le (h : ts.length ≤ s) : ClosedAt beginTag endTag ts depth s none := by
  intro x _
  rw [tagsIn_eq_zero fun r hr _ => by simp [opensTagAt, List.getElem?_eq_none (h.trans hr)]]
  exact Nat.zero_le _

lemma cons (hd : depth + (if opensAt beginTag ts s then 1 else 0) =
      depth' + if opensAt endTag ts s then 1 else 0)
    (h : ClosedAt beginTag endTag ts depth' (s + 1) place?) :
    ClosedAt beginTag endTag ts depth s place? := by
  have hfront : ∀ x, s ≤ x → (s + 1 ≤ x →
      tagsIn endTag ts (s + 1) (x + 1) ≤ tagsIn beginTag ts (s + 1) (x + 1) + depth') →
      tagsIn endTag ts s (x + 1) ≤ tagsIn beginTag ts s (x + 1) + depth := by
    intro x hx hle
    have hlt : s < x + 1 := by omega
    rw [tagsIn_succ endTag ts hlt, tagsIn_succ beginTag ts hlt]
    rcases Nat.eq_or_lt_of_le hx with rfl | hlt
    · rw [tagsIn_self, tagsIn_self]
      omega
    · have := hle hlt
      omega
  cases place? with
  | none => exact fun x hx => hfront x hx (h x)
  | some e =>
    obtain ⟨hse, hmore, hfirst⟩ := h
    have hlt : s < e + 1 := by omega
    refine ⟨by omega, ?_, fun x hx hlt => hfront x hx fun hx' => hfirst x hx' hlt⟩
    rw [tagsIn_succ endTag ts hlt, tagsIn_succ beginTag ts hlt]
    omega

/-- Places at which no tag is opened make no difference. -/
lemma of_no_tags {a b : Nat} (hab : a ≤ b) (hno : ∀ r, a ≤ r → r < b → ¬opensTagAt ts r)
    (h : ClosedAt beginTag endTag ts depth b place?) :
    ClosedAt beginTag endTag ts depth a place? := by
  induction hab using Nat.decreasingInduction with
  | self => exact h
  | of_succ a hlt ih =>
    have hnone : ∀ name, ¬opensAt name ts a :=
      fun name hopens => hno a le_rfl hlt (opensTagAt_of_opensAt hopens)
    refine cons ?_ (ih fun r hr => hno r (by omega))
    rw [if_neg (hnone _), if_neg (hnone _)]

end ClosedAt

/-! ### Searching is counting -/

/-- The search for an opening tag finds the one that has `k` tags of its name before it. -/
lemma findOpening_of_drop (name : String) {l : List Token} (hl : ts.drop p = l) (k : Nat) :
    match findOpening name k l with
    | some (opening, rest) => ∃ q, p ≤ q ∧ ts.drop q = opening :: rest ∧ opensAt name ts q ∧
        tagsIn name ts p q = k
    | none => tagsIn name ts p ts.length ≤ k := by
  induction l generalizing p k with
  | nil =>
    have hlength := List.drop_eq_nil_iff.1 hl
    rw [findOpening]
    simp [tagsIn, show ts.length - p = 0 by omega]
  | cons t l ih =>
    have hdrop := drop_succ_of_drop hl
    have hat := opensAt_of_drop hl name
    have hlt : p < ts.length := by
      by_contra hge
      rw [List.drop_eq_nil_of_le (by omega)] at hl
      cases hl
    -- what the search behind the first token says about the places from the first one on
    have hskip : ∀ k', k = k' + (if opensAt name ts p then 1 else 0) →
        findOpening name k (t :: l) = findOpening name k' l →
        match findOpening name k (t :: l) with
        | some (opening, rest) => ∃ q, p ≤ q ∧ ts.drop q = opening :: rest ∧ opensAt name ts q ∧
            tagsIn name ts p q = k
        | none => tagsIn name ts p ts.length ≤ k := by
      intro k' hk hfind
      have hrest := ih hdrop k'
      rw [hfind]
      split at hrest
      · obtain ⟨q, hq, hqdrop, hopens, hcount⟩ := hrest
        refine ⟨q, by omega, hqdrop, hopens, ?_⟩
        rw [tagsIn_succ _ _ (by omega)]
        omega
      · rw [tagsIn_succ _ _ hlt]
        omega
    by_cases hnamed : opensNamed name t l
    · have hopens : opensAt name ts p := hat.trans hnamed
      cases k with
      | zero =>
        rw [findOpening, if_pos hnamed]
        exact ⟨p, le_rfl, hl, hopens, tagsIn_self ..⟩
      | succ k => exact hskip k (by rw [if_pos hopens]) (by rw [findOpening, if_pos hnamed])
    · have hopens : ¬opensAt name ts p := by rwa [hat]
      exact hskip k (by rw [if_neg hopens]; rfl) (by cases k <;> rw [findOpening, if_neg hnamed])

/-- The search for the tag that closes the innermost of `depth + 1` open blocks counts tags. -/
lemma closedAt_upToClosing (hne : beginTag ≠ endTag) {l : List Token} (hl : ts.drop s = l)
    (depth : Nat) :
    ClosedAt beginTag endTag ts depth s
      ((upToClosing beginTag endTag depth l).map (s + ·.length)) := by
  induction l generalizing s depth with
  | nil => exact .of_length_le (List.drop_eq_nil_iff.1 hl)
  | cons t l ih =>
    have hbegin := opensAt_of_drop hl beginTag
    have hend := opensAt_of_drop hl endTag
    have hskip : ∀ depth', depth + (if opensAt beginTag ts s then 1 else 0) =
          depth' + (if opensAt endTag ts s then 1 else 0) →
        upToClosing beginTag endTag depth (t :: l) =
          (t :: ·) <$> upToClosing beginTag endTag depth' l →
        ClosedAt beginTag endTag ts depth s
          ((upToClosing beginTag endTag depth (t :: l)).map (s + ·.length)) := by
      intro depth' hd hup
      have hrest := ih (drop_succ_of_drop hl) depth'
      rw [hup]
      refine .cons hd ?_
      cases h : upToClosing beginTag endTag depth' l with
      | none => simpa [h] using hrest
      | some inside => simpa [h, Nat.add_assoc, Nat.add_comm 1] using hrest
    by_cases hb : opensNamed beginTag t l
    · have he : ¬opensAt endTag ts s := fun he => hne (opensAt_unique (hbegin.trans hb) he)
      refine hskip (depth + 1) ?_ (by cases depth <;> rw [upToClosing, if_pos hb])
      rw [if_pos (hbegin.trans hb), if_neg he]
    have hb' : ¬opensAt beginTag ts s := by rwa [hbegin]
    by_cases he : opensNamed endTag t l
    · have he' : opensAt endTag ts s := hend.trans he
      cases depth with
      | zero =>
        rw [show upToClosing beginTag endTag 0 (t :: l) = some [] by
          rw [upToClosing, if_neg hb, if_pos he]]
        refine ⟨le_rfl, ?_, fun x hx hlt => absurd hlt (by simpa using hx)⟩
        simp [tagsIn_one, hb', he']
      | succ depth =>
        refine hskip depth ?_ (by rw [upToClosing, if_neg hb, if_pos he])
        rw [if_neg hb', if_pos he']
    · have he' : ¬opensAt endTag ts s := by rwa [hend]
      refine hskip depth ?_ (by cases depth <;> rw [upToClosing, if_neg hb, if_neg he])
      rw [if_neg hb', if_neg he']

lemma findOpening_eq_none {k : Nat} (hk : tagsIn name ts 0 ts.length ≤ k) :
    findOpening name k ts = none := by
  have hfind := findOpening_of_drop name (List.drop_zero : ts.drop 0 = ts) k
  split at hfind
  · next hsome =>
    -- the tag that is found would be one more
    obtain ⟨q, -, hq, hopens, hcount⟩ := hfind
    have hlt : q < ts.length := by
      by_contra hge
      rw [List.drop_eq_nil_of_le (by omega)] at hq
      cases hq
    rw [tagsIn_add name ts (Nat.zero_le q) hlt.le, tagsIn_succ name ts hlt, if_pos hopens] at hk
    omega
  · assumption

/-- The tokens before a closing tag are the first ones. -/
lemma prefix_of_upToClosing {depth : Nat} {l inside : List Token}
    (h : upToClosing beginTag endTag depth l = some inside) : inside <+: l := by
  fun_induction upToClosing beginTag endTag depth l generalizing inside with
  | case1 => cases h
  | case2 depth t l hb ih | case4 t l hb he depth ih | case5 depth t l hb he ih =>
    obtain ⟨inside', h', rfl⟩ := Option.map_eq_some_iff.1 h
    exact List.cons_prefix_cons.2 ⟨rfl, ih h'⟩
  | case3 t l hb he =>
    cases h
    exact List.nil_prefix

/-! ### Tags that are closed -/

lemma lt_length_of_closesTagAt (h : closesTagAt ts p) : p < ts.length := by
  by_contra hge
  simp [closesTagAt, List.getElem?_eq_none (Nat.not_lt.1 hge)] at h

/-- The tokens after a tag begin behind the first token that closes one. -/
lemma afterTag_of_drop {l : List Token} (hl : ts.drop p = l)
    (hr : ∃ r, p ≤ r ∧ closesTagAt ts r) :
    let s := ts.length - (afterTag l).length
    p < s ∧ s ≤ ts.length ∧ ts.drop s = afterTag l ∧ closesTagAt ts (s - 1) ∧
      ∀ x, p ≤ x → x + 1 < s → ¬closesTagAt ts x := by
  induction l generalizing p with
  | nil =>
    obtain ⟨r, hpr, hr⟩ := hr
    have := lt_length_of_closesTagAt hr
    have := List.drop_eq_nil_iff.1 hl
    omega
  | cons t l ih =>
    have hdrop := drop_succ_of_drop hl
    have hlength : ts.length - p = l.length + 1 := by
      rw [← List.length_drop, hl, List.length_cons]
    have hp : closesTagAt ts p = closesTag t := by
      rw [closesTagAt, getElem?_of_drop hl]
      rfl
    by_cases hc : closesTag t
    · rw [afterTag, if_pos hc, show ts.length - l.length = p + 1 by omega]
      exact ⟨by omega, by omega, hdrop, hp.trans hc, fun x hx hlt => by omega⟩
    · rw [afterTag, if_neg hc]
      obtain ⟨r, hpr, hr⟩ := hr
      have hne : p ≠ r := fun h => hc (hp ▸ h ▸ hr)
      obtain ⟨hlt, hle, htokens, hclose, hfirst⟩ := ih hdrop ⟨r, by omega, hr⟩
      refine ⟨by omega, hle, htokens, hclose, fun x hx hxs => ?_⟩
      rcases Nat.eq_or_lt_of_le hx with rfl | hx'
      · rwa [hp]
      · exact hfirst x hx' hxs

lemma tidy_iff : Tidy ts ↔ ∀ p < ts.length, opensTagAt ts p → ∃ q < ts.length,
    p < q ∧ closesTagAt ts q ∧ ∀ r < q, p < r → ¬opensTagAt ts r := by
  constructor
  · intro h p _ hp
    obtain ⟨q, hpq, hq, hno⟩ := h p hp
    exact ⟨q, lt_length_of_closesTagAt hq, hpq, hq, fun r hrq hpr => hno r hpr hrq⟩
  · intro h p hp
    have hlt : p < ts.length := by
      by_contra hge
      simp [opensTagAt, List.getElem?_eq_none (Nat.not_lt.1 hge)] at hp
    obtain ⟨q, -, hpq, hq, hno⟩ := h p hlt hp
    exact ⟨q, hpq, hq, fun r hpr hrq => hno r hrq hpr⟩

instance (ts : List Token) : Decidable (Tidy ts) := decidable_of_iff' _ tidy_iff

/-- In tidy tokens no tag is opened before another one ends. -/
lemma EndsBefore.not_opensTagAt (h : EndsBefore ts p s) (hts : Tidy ts) (hp : opensTagAt ts p) :
    ∀ r, p < r → r < s → ¬opensTagAt ts r := by
  intro r hr hrs
  obtain ⟨q, hpq, hq, hno⟩ := hts p hp
  rcases Nat.eq_or_lt_of_le (Nat.le_sub_one_of_lt hrs) with rfl | hr'
  · exact not_opensTagAt_of_closesTagAt h.closes
  · exact hno r hr (Nat.not_le.1 fun hle => h.first q hpq (by omega) hq)

/-- A block that begins inside of a closed one is closed before that. -/
lemma Outnumbers.inside {b c q : Nat} (hne : beginTag ≠ endTag)
    (hb : Outnumbers beginTag endTag ts b q) (hp : opensAt beginTag ts p) (hbp : b ≤ p)
    (hpq : p < q) (hpc : p < c) (hno : ∀ r, p < r → r < c → ¬opensTagAt ts r) :
    ∃ r, r < q ∧ Outnumbers beginTag endTag ts c r := by
  have hq : ¬opensAt beginTag ts q := fun h => hne (opensAt_unique h hb.closes)
  have hp' : ¬opensAt endTag ts p := fun h => hne (opensAt_unique hp h)
  have hcq : c ≤ q := Nat.not_lt.1 fun h => hno q hpq h (opensTagAt_of_opensAt hb.closes)
  -- at the end of the outer block as many blocks have been closed as opened
  have heq : tagsIn endTag ts b q = tagsIn beginTag ts b q := by
    have hmore := hb.more
    rw [tagsIn_add beginTag ts hb.le (Nat.le_add_right q 1), tagsIn_one, if_neg hq,
      tagsIn_add endTag ts hb.le (Nat.le_add_right q 1), tagsIn_one, if_pos hb.closes] at hmore
    have hfirst := hb.first (q - 1) (by omega) (by omega)
    rw [show q - 1 + 1 = q by omega] at hfirst
    omega
  -- behind the opening tag of the inner one, one more has been opened
  have hless : tagsIn endTag ts b c < tagsIn beginTag ts b c := by
    have hone : ∀ name, tagsIn name ts b c =
        tagsIn name ts b p + if opensAt name ts p then 1 else 0 := by
      intro name
      rw [tagsIn_add name ts (hbp.trans (Nat.le_add_right p 1)) hpc,
        tagsIn_add name ts hbp (Nat.le_add_right p 1), tagsIn_one,
        tagsIn_eq_zero fun r hr => hno r hr, Nat.add_zero]
    have hle : tagsIn endTag ts b p ≤ tagsIn beginTag ts b p := by
      rcases Nat.eq_or_lt_of_le hbp with rfl | hlt
      · rw [tagsIn_self, tagsIn_self]
      · have hfirst := hb.first (p - 1) (by omega) (by omega)
        rwa [show p - 1 + 1 = p by omega] at hfirst
    rw [hone, hone, if_pos hp, if_neg hp']
    omega
  have hbegin := tagsIn_add beginTag ts (hbp.trans hpc.le) hcq
  have hend := tagsIn_add endTag ts (hbp.trans hpc.le) hcq
  have hlt : c < q := by
    rcases Nat.eq_or_lt_of_le hcq with rfl | h
    · omega
    · exact h
  have hmore : tagsIn beginTag ts c (q - 1 + 1) < tagsIn endTag ts c (q - 1 + 1) := by
    rw [show q - 1 + 1 = q by omega]
    omega
  obtain ⟨r, hr, h⟩ := exists_outnumbers (Nat.le_sub_one_of_lt hlt) hmore
  exact ⟨r, by omega, h⟩

end TemplateLint.Block
