import Mathlib
import TemplateLint.Proofs.Rule.Key
import TemplateLint.Proofs.Rule.Separation

/-!
What a table of rules holds.

Rules make a table only if each of them can be created and has nothing but callbacks under keys of
the vocabulary. Otherwise the first thing that is wrong is reported, and the rules behind it are
not created. A table holds every callback once, under the key that the rule gave it. Main
statement: `build_all_or_none`.
-/

namespace TemplateLint

/-! ### What is wrong with a rule -/

namespace Rule

/-- The failure that creating a rule ends with, if there is one. -/
def creationFailure? (r : Rule) : Option Failure :=
  (Run.performAll r.name creationKey r.creating (.start .empty)).2

/-- What a rule notes down while it is created. -/
def creationEvents (r : Rule) : List Event :=
  (Run.performAll r.name creationKey r.creating (.start .empty)).1.events

/-- What a rule returns by key; nothing if it returns no mapping. -/
def entries (r : Rule) : List (Json × Option Callback) :=
  match r.creation with
  | .mapping entries => entries
  | .other => []

/-- A callback under a key of the vocabulary. -/
structure Accepted (categories : CategoryTable) (entry : Json × Option Callback) : Prop where
  key : (RuleKey.parse? categories entry.1).isSome
  callback : entry.2.isSome

structure Sound (categories : CategoryTable) (r : Rule) : Prop where
  created : r.creationFailure? = none
  mapping : r.creation ≠ .other
  accepted : ∀ entry ∈ r.entries, Accepted categories entry

/-- The first thing that is wrong with a rule: first creating it may fail, then the entries are
looked at in order, the key of each before its callback. -/
inductive Flawed (categories : CategoryTable) (r : Rule) : ConfigFault → Prop
  | createFailed {f : Failure} (hf : r.creationFailure? = some f) :
    Flawed categories r (.createFailed r.source f)
  | notMapping (hf : r.creationFailure? = none) (ho : r.creation = .other) :
    Flawed categories r (.notMapping r.source)
  | badKey {before after : List (Json × Option Callback)} {key : Json} {handler : Option Callback}
    (hf : r.creationFailure? = none)
    (hm : r.creation = .mapping (before ++ (key, handler) :: after))
    (hb : ∀ entry ∈ before, Accepted categories entry)
    (hk : RuleKey.parse? categories key = none) :
    Flawed categories r (.badKey key r.source)
  | notCallable {before after : List (Json × Option Callback)} {key : Json}
    (hf : r.creationFailure? = none)
    (hm : r.creation = .mapping (before ++ (key, none) :: after))
    (hb : ∀ entry ∈ before, Accepted categories entry)
    (hk : (RuleKey.parse? categories key).isSome) :
    Flawed categories r (.notCallable key r.source)

/-- What a rule has for a category and a phase. -/
def registrationsAt (categories : CategoryTable) (r : Rule) (category : String) (phase : Phase) :
    List Registration :=
  r.entries.filterMap fun (key, handler) =>
    if RuleKey.parse? categories key = some (category, phase) then
      handler.map fun callback => ⟨r.name, category, phase, callback⟩
    else none

end Rule

namespace RuleTable

open Rule (Accepted Sound Flawed)

variable {categories : CategoryTable}

/-! ### Registering one rule -/

/-- An entry of a rule as a registration. -/
def registrationOf? (categories : CategoryTable) (r : Rule) (entry : Json × Option Callback) :
    Option Registration :=
  (RuleKey.parse? categories entry.1).bind fun (category, phase) =>
    entry.2.map fun callback => ⟨r.name, category, phase, callback⟩

lemma registrationOf?_eq_some_iff {r : Rule} {entry : Json × Option Callback} {x : Registration} :
    registrationOf? categories r entry = some x ↔
      RuleKey.parse? categories entry.1 = some (x.category, x.phase) ∧
        entry.2 = some x.callback ∧ x.rule = r.name := by
  obtain ⟨key, handler⟩ := entry
  obtain ⟨rule, category, phase, callback⟩ := x
  unfold registrationOf?
  cases RuleKey.parse? categories key <;> cases handler <;> grind

lemma registerAll_cons_of_accepted {r : Rule} {entry : Json × Option Callback}
    (h : Accepted categories entry) (entries : List (Json × Option Callback)) :
    ∃ x, registrationOf? categories r entry = some x ∧
      registerAll categories r (entry :: entries) =
        (registerAll categories r entries).map (x :: ·) := by
  obtain ⟨key, handler⟩ := entry
  obtain ⟨⟨category, phase⟩, hk⟩ := Option.isSome_iff_exists.1 h.key
  obtain ⟨callback, rfl : handler = some callback⟩ := Option.isSome_iff_exists.1 h.callback
  dsimp only at hk
  refine ⟨⟨r.name, category, phase, callback⟩, by simp [registrationOf?, hk], ?_⟩
  simp only [registerAll, hk]
  cases registerAll categories r entries <;> rfl

lemma registerAll_append_of_accepted {r : Rule} {before : List (Json × Option Callback)}
    (h : ∀ entry ∈ before, Accepted categories entry) (after : List (Json × Option Callback)) :
    registerAll categories r (before ++ after) =
      (registerAll categories r after).map (before.filterMap (registrationOf? categories r) ++ ·) := by
  induction before with
  | nil =>
    simp only [List.nil_append, List.filterMap_nil]
    cases registerAll categories r after <;> rfl
  | cons entry before ih =>
    obtain ⟨x, hx, hcons⟩ :=
      registerAll_cons_of_accepted (r := r) (h entry List.mem_cons_self) (before ++ after)
    rw [List.cons_append, hcons, ih fun e he => h e (List.mem_cons_of_mem _ he),
      List.filterMap_cons_some hx]
    cases registerAll categories r after <;> rfl

lemma registerAll_of_accepted {r : Rule} {entries : List (Json × Option Callback)}
    (h : ∀ entry ∈ entries, Accepted categories entry) :
    registerAll categories r entries =
      .ok (entries.filterMap (registrationOf? categories r)) := by
  simpa [registerAll, Except.map] using registerAll_append_of_accepted (r := r) h []

/-- Entries are all accepted, or there is a first one that is not. -/
lemma accepted_or_first (categories : CategoryTable) (entries : List (Json × Option Callback)) :
    (∀ entry ∈ entries, Accepted categories entry) ∨
      ∃ before entry after, entries = before ++ entry :: after ∧
        (∀ e ∈ before, Accepted categories e) ∧ ¬ Accepted categories entry := by
  induction entries with
  | nil => exact .inl (by simp)
  | cons entry entries ih =>
    by_cases hentry : Accepted categories entry
    · rcases ih with hall | ⟨before, bad, after, rfl, hbefore, hbad⟩
      · exact .inl (List.forall_mem_cons.2 ⟨hentry, hall⟩)
      · exact .inr ⟨entry :: before, bad, after, rfl,
          List.forall_mem_cons.2 ⟨hentry, hbefore⟩, hbad⟩
    · exact .inr ⟨[], entry, entries, rfl, by simp, hentry⟩

lemma register_snd (r : Rule) :
    (register categories r).2 = match r.creationFailure? with
      | some f => .error (.createFailed r.source f)
      | none =>
        match r.creation with
        | .other => .error (.notMapping r.source)
        | .mapping entries => registerAll categories r entries :=
  rfl

lemma register_of_flawed {r : Rule} {fault : ConfigFault} (h : Flawed categories r fault) :
    (register categories r).2 = .error fault := by
  rw [register_snd]
  cases h with
  | createFailed hf => rw [hf]
  | notMapping hf ho => rw [hf, ho]
  | badKey hf hm hb hk =>
    rw [hf, hm]
    dsimp only
    rw [registerAll_append_of_accepted hb, registerAll, hk]
    rfl
  | notCallable hf hm hb hk =>
    obtain ⟨place, hk⟩ := Option.isSome_iff_exists.1 hk
    rw [hf, hm]
    dsimp only
    rw [registerAll_append_of_accepted hb, registerAll, hk]
    rfl

lemma register_of_sound {r : Rule} (h : Sound categories r) :
    (register categories r).2 = .ok (r.entries.filterMap (registrationOf? categories r)) := by
  have haccepted := h.accepted
  rw [register_snd, h.created]
  unfold Rule.entries at haccepted ⊢
  cases hc : r.creation with
  | other => exact absurd hc h.mapping
  | mapping entries =>
    rw [hc] at haccepted
    exact registerAll_of_accepted haccepted

/-- A rule is sound, or something is the first that is wrong with it. -/
lemma sound_or_flawed (categories : CategoryTable) (r : Rule) :
    Sound categories r ∨ ∃ fault, Flawed categories r fault := by
  cases hf : r.creationFailure? with
  | some f => exact .inr ⟨_, .createFailed hf⟩
  | none =>
    cases hc : r.creation with
    | other => exact .inr ⟨_, .notMapping hf hc⟩
    | mapping entries =>
      rcases accepted_or_first categories entries with
        hall | ⟨before, ⟨key, handler⟩, after, rfl, hb, hbad⟩
      · exact .inl ⟨hf, by simp [hc], by simpa [Rule.entries, hc] using hall⟩
      · cases hk : RuleKey.parse? categories key with
        | none => exact .inr ⟨_, .badKey hf hc hb hk⟩
        | some place =>
          have hnone : handler = none := by
            cases handler with
            | none => rfl
            | some callback => exact absurd ⟨by simp [hk], rfl⟩ hbad
          subst hnone
          exact .inr ⟨_, .notCallable hf hc hb (by simp [hk])⟩

lemma register_eq_ok_iff {r : Rule} {regs : List Registration} :
    (register categories r).2 = .ok regs ↔
      Sound categories r ∧ regs = r.entries.filterMap (registrationOf? categories r) := by
  rcases sound_or_flawed categories r with h | ⟨fault, h⟩
  · simp [register_of_sound h, h, eq_comm]
  · have hno : ¬ Sound categories r := by
      intro hs
      have := register_of_sound hs
      rw [register_of_flawed h] at this
      cases this
    simp [register_of_flawed h, hno]

lemma partOf_of_sound {r : Rule} (h : Sound categories r) :
    partOf categories r = r.entries.filterMap (registrationOf? categories r) := by
  simp [partOf, register_of_sound h, Except.toOption]

/-! ### Registering all rules -/

/-- Sound rules in front of others add what they note down and what they register. -/
lemma registrationsOf_append {before : List Rule} (h : ∀ q ∈ before, q.Sound categories)
    (rules : List Rule) :
    registrationsOf categories (before ++ rules) =
      (before.flatMap (·.creationEvents) ++ (registrationsOf categories rules).1,
        (registrationsOf categories rules).2.map (before.flatMap (partOf categories) ++ ·)) := by
  induction before with
  | nil =>
    rcases hr : registrationsOf categories rules with ⟨events, fault | regs⟩ <;>
      simp [hr, Except.map]
  | cons q before ih =>
    have hq := register_of_sound (h q List.mem_cons_self)
    rw [← partOf_of_sound (h q List.mem_cons_self)] at hq
    have hreg : register categories q = (q.creationEvents, .ok (partOf categories q)) :=
      Prod.ext rfl hq
    rw [List.cons_append, registrationsOf, hreg]
    simp only [ih fun p hp => h p (List.mem_cons_of_mem _ hp), List.flatMap_cons,
      List.append_assoc]
    cases (registrationsOf categories rules).2 <;> simp [Except.map]

/-- The first rule with a fault ends it: the rules behind it are not created. -/
lemma registrationsOf_of_flawed {before after : List Rule} {r : Rule} {fault : ConfigFault}
    (h : ∀ q ∈ before, q.Sound categories) (hr : r.Flawed categories fault) :
    registrationsOf categories (before ++ r :: after) =
      ((before ++ [r]).flatMap (·.creationEvents), .error fault) := by
  have hreg : register categories r = (r.creationEvents, .error fault) :=
    Prod.ext rfl (register_of_flawed hr)
  rw [registrationsOf_append h, registrationsOf, hreg]
  simp [Except.map]

lemma registrationsOf_of_sound {rules : List Rule} (h : ∀ q ∈ rules, q.Sound categories) :
    registrationsOf categories rules =
      (rules.flatMap (·.creationEvents), .ok (rules.flatMap (partOf categories))) := by
  simpa [registrationsOf, Except.map] using registrationsOf_append h []

/-- Rules are all sound, or there is a first one that is not. -/
lemma sound_or_first (categories : CategoryTable) (rules : List Rule) :
    (∀ q ∈ rules, q.Sound categories) ∨
      ∃ before r after fault, rules = before ++ r :: after ∧
        (∀ q ∈ before, q.Sound categories) ∧ r.Flawed categories fault := by
  induction rules with
  | nil => exact .inl (by simp)
  | cons q rules ih =>
    rcases sound_or_flawed categories q with hq | ⟨fault, hq⟩
    · rcases ih with hall | ⟨before, r, after, fault, rfl, hbefore, hr⟩
      · exact .inl (List.forall_mem_cons.2 ⟨hq, hall⟩)
      · exact .inr ⟨q :: before, r, after, fault, rfl, List.forall_mem_cons.2 ⟨hq, hbefore⟩, hr⟩
    · exact .inr ⟨[], q, rules, fault, rfl, by simp, hq⟩

/-! ### What a table holds -/

/-- Everything that can be registered for: each category, entered and left. -/
def vocabulary (categories : CategoryTable) : List (String × Phase) :=
  categories.names.flatMap fun c => Phase.all.map fun p => (c, p)

/-- Puts a registration behind the others of the same category and phase. -/
def file (es : List ((String × Phase) × List Registration)) (x : Registration) :
    List ((String × Phase) × List Registration) :=
  es.map fun (place, xs) => (place, if place = (x.category, x.phase) then xs ++ [x] else xs)

/-- Registrations filed one after the other. Each category and phase has an entry from the start. -/
def filed (categories : CategoryTable) (regs : List Registration) :
    List ((String × Phase) × List Registration) :=
  regs.foldl file ((vocabulary categories).map (·, []))

/-- What is registered of rules in a table of theirs. -/
structure Holds (categories : CategoryTable) (rules : List Rule) (t : RuleTable) : Prop where
  /-- There is an entry for every category and phase, and registrations are put into them. -/
  entries : filed categories t.registrations =
    (vocabulary categories).map fun place => (place, t.callbacksFor place.1 place.2)
  places : (vocabulary categories).Nodup
  /-- The callbacks for a place are those of the rules, in order, whose keys mean this place. -/
  callbacks : ∀ category phase, t.callbacksFor category phase =
    rules.flatMap fun r => r.registrationsAt categories category phase
  /-- A rule has one of them at most. -/
  single : ∀ r ∈ rules, ∀ category phase,
    (r.registrationsAt categories category phase).length ≤ 1
  unique : ∀ x ∈ t.registrations,
    ∃! place, place ∈ vocabulary categories ∧ x ∈ t.callbacksFor place.1 place.2
  registered : t.registered =
    (vocabulary categories).flatMap fun place => t.callbacksFor place.1 place.2
  /-- What the rules return is registered, all of it once. -/
  all : (t.registered.map fun x => (x.rule, Json.str x.key, some x.callback)).Perm
    (rules.flatMap fun r => r.entries.map fun entry => (r.name, entry.1, entry.2))
  names : t.described.map (·.1) = (rules.map (·.name)).eraseDups
  /-- A name is described by the keys of the rules of this name, in the order of their places. -/
  keys : ∀ name keys, (name, keys) ∈ t.described →
    keys = ((vocabulary categories).flatMap fun place =>
      (rules.filter (·.name = name)).flatMap fun r =>
        (r.registrationsAt categories place.1 place.2).map fun _ =>
          RuleKey.text place.1 place.2) ∧
    (keys.map Json.str).Perm
      ((rules.filter (·.name = name)).flatMap fun r => r.entries.map (·.1))

lemma mem_vocabulary {category : String} {phase : Phase} :
    (category, phase) ∈ vocabulary categories ↔ category ∈ categories.names := by
  cases phase <;> simp [vocabulary, Phase.all]

lemma nodup_vocabulary (h : categories.names.Nodup) : (vocabulary categories).Nodup := by
  refine List.nodup_flatMap.2 ⟨fun c _ => ?_, ?_⟩
  · simp [Phase.all]
  · refine h.imp fun {c c'} hc => ?_
    simp [Function.onFun, List.disjoint_left, Phase.all, hc]

lemma foldl_file (places : List (String × Phase)) (f : String × Phase → List Registration)
    (regs : List Registration) :
    regs.foldl file (places.map fun place => (place, f place)) =
      places.map fun place =>
        (place, f place ++ regs.filter fun x => x.category == place.1 && x.phase == place.2) := by
  induction regs generalizing f with
  | nil => simp
  | cons x regs ih =>
    have hfile : file (places.map fun place => (place, f place)) x = places.map fun place =>
        (place, if place = (x.category, x.phase) then f place ++ [x] else f place) := by
      simp [file]
    rw [List.foldl_cons, hfile, ih]
    refine List.map_congr_left fun place _ => ?_
    by_cases h : place = (x.category, x.phase)
    · simp [h]
    · have hno : (x.category == place.1 && x.phase == place.2) = false := by
        rw [Bool.eq_false_iff]
        intro hx
        simp only [Bool.and_eq_true, beq_iff_eq] at hx
        exact h (Prod.ext hx.1.symm hx.2.symm)
      simp [h, hno]

/-- Filing leaves every entry with the callbacks for its category and phase. -/
lemma filed_registrations (t : RuleTable) :
    filed categories t.registrations = (vocabulary categories).map fun place =>
      (place, t.callbacksFor place.1 place.2) := by
  rw [filed, foldl_file]
  rfl

lemma rule_of_mem_registrationsAt {r : Rule} {category : String} {phase : Phase}
    {x : Registration} (h : x ∈ r.registrationsAt categories category phase) :
    x.rule = r.name ∧ x.category = category ∧ x.phase = phase := by
  obtain ⟨⟨key, handler⟩, -, hx⟩ := List.mem_filterMap.1 h
  dsimp only at hx
  split at hx
  · obtain ⟨callback, -, rfl⟩ := Option.map_eq_some_iff.1 hx
    exact ⟨rfl, rfl, rfl⟩
  · cases hx

lemma filter_registrationsOf (r : Rule) (category : String) (phase : Phase) :
    (r.entries.filterMap (registrationOf? categories r)).filter
        (fun x => x.category == category && x.phase == phase) =
      r.registrationsAt categories category phase := by
  rw [List.filter_filterMap, Rule.registrationsAt]
  refine List.filterMap_congr fun ⟨key, handler⟩ _ => ?_
  unfold registrationOf?
  rcases hk : RuleKey.parse? categories key with _ | ⟨category', phase'⟩
  · simp [hk]
  · by_cases h : category' = category ∧ phase' = phase
    · obtain ⟨rfl, rfl⟩ := h
      cases handler <;> simp [hk]
    · have hoff : (category' == category && phase' == phase) = false := by
        rw [Bool.eq_false_iff]
        simpa using h
      have hno : ¬ (category', phase') = (category, phase) := by simpa using h
      cases handler <;> simp [hk, hoff, hno, Option.filter]

/-- A key is written in one way only, so a rule has one callback at most for each purpose. -/
lemma length_registrationsAt_le {r : Rule} (h : (r.entries.map (·.1)).Nodup) (category : String)
    (phase : Phase) : (r.registrationsAt categories category phase).length ≤ 1 := by
  classical
  set key := Json.str (RuleKey.text category phase)
  have hle : (r.registrationsAt categories category phase).length ≤
      (r.entries.filter fun e => e.1 = key).length := by
    rw [Rule.registrationsAt, List.length_filterMap_eq_countP, ← List.countP_eq_length_filter]
    refine List.countP_mono_left fun ⟨key', handler⟩ _ he => ?_
    have hk : RuleKey.parse? categories key' = some (category, phase) := by
      by_contra hk
      simp [hk] at he
    simpa using RuleKey.eq_text_of_parse? hk
  have hnodup : ((r.entries.filter fun e => e.1 = key).map (·.1)).Nodup :=
    h.sublist (List.filter_sublist.map _)
  have hrepl : (r.entries.filter fun e => e.1 = key).map (·.1) =
      List.replicate (r.entries.filter fun e => e.1 = key).length key := by
    refine List.eq_replicate_iff.2 ⟨by simp, fun k hk => ?_⟩
    obtain ⟨e, he, rfl⟩ := List.mem_map.1 hk
    simpa using (List.mem_filter.1 he).2
  rw [hrepl, List.nodup_replicate] at hnodup
  exact hle.trans hnodup

/-- Sorting by place loses nothing. -/
lemma flatMap_filter_perm {places : List (String × Phase)} (hn : places.Nodup)
    {regs : List Registration} (h : ∀ x ∈ regs, (x.category, x.phase) ∈ places) :
    (places.flatMap fun place =>
      regs.filter fun x => x.category == place.1 && x.phase == place.2).Perm regs := by
  induction places generalizing regs with
  | nil =>
    have hnil : regs = [] := List.eq_nil_iff_forall_not_mem.2 fun x hx => by simpa using h x hx
    simp [hnil]
  | cons place places ih =>
    obtain ⟨hplace, hn⟩ := List.nodup_cons.1 hn
    set here : Registration → Bool := fun x => x.category == place.1 && x.phase == place.2
    have hhere : ∀ x, here x = true ↔ (x.category, x.phase) = place := fun x => by
      simp [here, Prod.ext_iff]
    have hrest : ∀ x ∈ regs.filter (fun x => !here x), (x.category, x.phase) ∈ places := by
      intro x hx
      obtain ⟨hx, hno⟩ := List.mem_filter.1 hx
      refine (List.mem_cons.1 (h x hx)).resolve_left fun he => ?_
      simp [(hhere x).2 he] at hno
    have hsame : (places.flatMap fun p => (regs.filter fun x => !here x).filter fun x =>
        x.category == p.1 && x.phase == p.2) =
        places.flatMap fun p => regs.filter fun x => x.category == p.1 && x.phase == p.2 := by
      refine List.flatMap_congr fun p hp => ?_
      rw [List.filter_filter]
      refine List.filter_congr fun x _ => ?_
      by_cases hx : here x = true
      · have hne : (x.category == p.1 && x.phase == p.2) = false := by
          rw [Bool.eq_false_iff]
          intro hxp
          simp only [Bool.and_eq_true, beq_iff_eq] at hxp
          have hpp : p = place := by rw [← (hhere x).1 hx, hxp.1, hxp.2]
          exact hplace (hpp ▸ hp)
        simp [hne]
      · simp [hx]
    rw [List.flatMap_cons, ← hsame]
    exact ((ih hn hrest).append_left _).trans (List.filter_append_perm here regs)

/-- Of what rules have, what has a name is what the rules of this name have. -/
lemma filter_flatMap_named {α : Type} (label : α → String) {of : Rule → List α}
    {rules : List Rule} (h : ∀ r ∈ rules, ∀ a ∈ of r, label a = r.name) (name : String) :
    (rules.flatMap of).filter (fun a => label a = name) =
      (rules.filter (·.name = name)).flatMap of := by
  induction rules with
  | nil => rfl
  | cons r rules ih =>
    obtain ⟨hr, h⟩ := List.forall_mem_cons.1 h
    rw [List.flatMap_cons, List.filter_append, ih h]
    by_cases hname : r.name = name
    · have hall : (of r).filter (fun a => label a = name) = of r :=
        List.filter_eq_self.2 fun a ha => by simp [hr a ha, hname]
      rw [hall, List.filter_cons_of_pos (by simpa using hname), List.flatMap_cons]
    · have hnone : (of r).filter (fun a => label a = name) = [] :=
        List.filter_eq_nil_iff.2 fun a ha => by simp [hr a ha, hname]
      rw [hnone, List.filter_cons_of_neg (by simpa using hname), List.nil_append]

/-- What a sound rule registers is what it returns. -/
lemma map_partOf {r : Rule} (h : Sound categories r) :
    (partOf categories r).map (fun x => (x.rule, Json.str x.key, some x.callback)) =
      r.entries.map fun entry => (r.name, entry.1, entry.2) := by
  rw [partOf_of_sound h, List.map_filterMap]
  refine List.filterMap_eq_map_iff_forall_eq_some.2 fun ⟨key, handler⟩ he => ?_
  have haccepted := h.accepted _ he
  obtain ⟨⟨category, phase⟩, hk⟩ := Option.isSome_iff_exists.1 haccepted.key
  obtain ⟨callback, rfl : handler = some callback⟩ :=
    Option.isSome_iff_exists.1 haccepted.callback
  dsimp only at hk
  have hkey := RuleKey.eq_text_of_parse? hk
  rw [hkey] at hk ⊢
  simp [registrationOf?, hk, Registration.key]

/-! ### The table of sound rules -/

/-- The table that rules make if they are sound. -/
def ofSound (categories : CategoryTable) (rules : List Rule) : RuleTable :=
  ⟨categories, rules.map (·.name), rules.flatMap (partOf categories)⟩

lemma registered_eq (t : RuleTable) :
    t.registered = (vocabulary t.categories).flatMap fun place =>
      t.callbacksFor place.1 place.2 := by
  simp only [registered, vocabulary, List.flatMap_assoc, List.flatMap_map]

section OfSound

variable {rules : List Rule} (hs : ∀ r ∈ rules, Sound categories r)

include hs

lemma place_mem_vocabulary {x : Registration} (hx : x ∈ (ofSound categories rules).registrations) :
    (x.category, x.phase) ∈ vocabulary categories := by
  obtain ⟨r, hr, hx⟩ := List.mem_flatMap.1 hx
  rw [partOf_of_sound (hs r hr)] at hx
  obtain ⟨entry, -, hx⟩ := List.mem_filterMap.1 hx
  exact mem_vocabulary.2 (RuleKey.mem_names_of_parse? (registrationOf?_eq_some_iff.1 hx).1)

lemma callbacksFor_ofSound (category : String) (phase : Phase) :
    (ofSound categories rules).callbacksFor category phase =
      rules.flatMap fun r => r.registrationsAt categories category phase := by
  rw [callbacksFor, ofSound, List.filter_flatMap]
  refine List.flatMap_congr fun r hr => ?_
  rw [partOf_of_sound (hs r hr), filter_registrationsOf]

lemma registered_ofSound_perm (hc : categories.names.Nodup) :
    ((ofSound categories rules).registered.map fun x =>
        (x.rule, Json.str x.key, some x.callback)).Perm
      (rules.flatMap fun r => r.entries.map fun entry => (r.name, entry.1, entry.2)) := by
  rw [registered_eq]
  refine ((flatMap_filter_perm (nodup_vocabulary hc) fun x => place_mem_vocabulary hs).map _).trans ?_
  rw [ofSound, List.map_flatMap]
  exact .of_eq (List.flatMap_congr fun r hr => map_partOf (hs r hr))

/-- What is registered under a name, by place. -/
lemma keys_ofSound (name : String) :
    ((ofSound categories rules).registered.filter (·.rule == name)).map (·.key) =
      (vocabulary categories).flatMap fun place =>
        (rules.filter (·.name = name)).flatMap fun r =>
          (r.registrationsAt categories place.1 place.2).map fun _ =>
            RuleKey.text place.1 place.2 := by
  rw [registered_eq, List.filter_flatMap, List.map_flatMap]
  refine List.flatMap_congr fun place _ => ?_
  have hrule : ∀ r ∈ rules, ∀ x ∈ r.registrationsAt categories place.1 place.2,
      x.rule = r.name := fun r _ x hx => (rule_of_mem_registrationsAt hx).1
  have hnamed := filter_flatMap_named (fun x : Registration => x.rule) hrule name
  rw [callbacksFor_ofSound hs]
  refine (congrArg (List.map Registration.key) ?_).trans ((congrArg _ hnamed).trans ?_)
  · exact List.filter_congr fun x _ => beq_eq_decide ..
  · rw [List.map_flatMap]
    refine List.flatMap_congr fun r _ => List.map_congr_left fun x hx => ?_
    obtain ⟨-, hcategory, hphase⟩ := rule_of_mem_registrationsAt hx
    rw [Registration.key, hcategory, hphase]

/-- What is registered under a name is what the rules of the name return. -/
lemma keys_ofSound_perm (hc : categories.names.Nodup) (name : String) :
    ((((ofSound categories rules).registered.filter (·.rule == name)).map (·.key)).map
        Json.str).Perm
      ((rules.filter (·.name = name)).flatMap fun r => r.entries.map (·.1)) := by
  have hrule : ∀ r ∈ rules, ∀ e ∈ r.entries.map fun entry => (r.name, entry.1, entry.2),
      e.1 = r.name := by
    intro r _ e he
    obtain ⟨entry, -, rfl⟩ := List.mem_map.1 he
    rfl
  have hnamed :=
    filter_flatMap_named (fun e : String × Json × Option Callback => e.1) hrule name
  have hperm := ((registered_ofSound_perm hs hc).filter fun e => e.1 = name).map (·.2.1)
  rw [hnamed, List.filter_map, List.map_map, List.map_flatMap] at hperm
  simpa [Function.comp_def, beq_eq_decide] using hperm

end OfSound

/-- The table of sound rules holds all that they return. -/
lemma holds_ofSound {rules : List Rule} (hc : categories.names.Nodup)
    (hk : ∀ r ∈ rules, (r.entries.map (·.1)).Nodup) (hs : ∀ r ∈ rules, Sound categories r) :
    Holds categories rules (ofSound categories rules) where
  entries := filed_registrations _
  places := nodup_vocabulary hc
  callbacks := callbacksFor_ofSound hs
  single r hr := length_registrationsAt_le (hk r hr)
  unique x hx := by
    refine ⟨(x.category, x.phase), ⟨place_mem_vocabulary hs hx, ?_⟩, ?_⟩
    · exact List.mem_filter.2 ⟨hx, by simp⟩
    · rintro ⟨category, phase⟩ ⟨-, hmem⟩
      have hplace := (List.mem_filter.1 hmem).2
      simp only [Bool.and_eq_true, beq_iff_eq] at hplace
      rw [hplace.1, hplace.2]
  registered := registered_eq _
  all := registered_ofSound_perm hs hc
  names := by simp [described, ofSound, Function.comp_def]
  keys name keys hd := by
    obtain ⟨n, -, hn⟩ := List.mem_map.1 hd
    obtain ⟨rfl, rfl⟩ := Prod.mk.inj hn
    exact ⟨keys_ofSound hs n, keys_ofSound_perm hs hc n⟩

lemma build_snd_eq_ok_iff {rules : List Rule} {t : RuleTable} :
    (build rules categories).2 = .ok t ↔
      (∀ r ∈ rules, Sound categories r) ∧ t = ofSound categories rules := by
  rw [build_eq_ok_iff]
  refine and_congr_left fun _ => forall₂_congr fun r _ => ?_
  rw [register_eq_ok_iff]
  exact ⟨fun h => h.1, fun h => ⟨h, partOf_of_sound h⟩⟩

lemma build_of_flawed {before after : List Rule} {r : Rule} {fault : ConfigFault}
    (h : ∀ q ∈ before, q.Sound categories) (hr : r.Flawed categories fault) :
    build (before ++ r :: after) categories =
      ((before ++ [r]).flatMap (·.creationEvents), .error fault) := by
  simp [build, registrationsOf_of_flawed h hr, Except.map]

/-- **A table of rules is made of all of them or not at all.** It is made if nothing is wrong with
any rule, and then it holds all that the rules return. Else the fault is that of the first rule with
something wrong, namely the first thing wrong with it; what rules come behind it makes no
difference, and none of them is created. A table and what a rule returns have every name and key
once. -/
theorem build_all_or_none (categories : CategoryTable) (rules : List Rule)
    (hc : categories.names.Nodup) (hk : ∀ r ∈ rules, (r.entries.map (·.1)).Nodup) :
    ((∃ t, (build rules categories).2 = .ok t) ↔ ∀ r ∈ rules, r.Sound categories) ∧
    (∀ t, (build rules categories).2 = .ok t →
      Holds categories rules t ∧
        (build rules categories).1 = rules.flatMap (·.creationEvents)) ∧
    (∀ fault, (build rules categories).2 = .error fault ↔
      ∃ before r after, rules = before ++ r :: after ∧ (∀ q ∈ before, q.Sound categories) ∧
        r.Flawed categories fault) ∧
    ∀ before r after, rules = before ++ r :: after → (∀ q ∈ before, q.Sound categories) →
      ¬ r.Sound categories →
      (build rules categories).1 = (before ++ [r]).flatMap (·.creationEvents) ∧
      ∀ after', build (before ++ r :: after') categories = build rules categories := by
  refine ⟨?made, fun t ht => ?holds, fun fault => ⟨fun h => ?first, ?_⟩, ?none⟩
  case made => simp [build_snd_eq_ok_iff]
  case holds =>
    obtain ⟨hs, rfl⟩ := build_snd_eq_ok_iff.1 ht
    refine ⟨holds_ofSound hc hk hs, ?_⟩
    simp [build, registrationsOf_of_sound hs]
  case first =>
    rcases sound_or_first categories rules with
      hs | ⟨before, r, after, fault', rfl, hbefore, hr⟩
    · rw [build_snd_eq_ok_iff.2 ⟨hs, rfl⟩] at h
      cases h
    · rw [build_of_flawed hbefore hr] at h
      cases h
      exact ⟨before, r, after, rfl, hbefore, hr⟩
  case none =>
    rintro before r after rfl hbefore hr
    obtain ⟨fault, hr⟩ := (sound_or_flawed categories r).resolve_left hr
    simp [build_of_flawed hbefore hr]
  · rintro ⟨before, r, after, rfl, hbefore, hr⟩
    rw [build_of_flawed hbefore hr]

/-- Two rules of one name, and one without callbacks. -/
def namesakes : List Rule :=
  [⟨"twin", none, [], .mapping [(.str "Leaf:exit", some fun _ _ => []),
      (.str "Branch", some fun _ _ => [])]⟩,
    ⟨"silent", none, [], .mapping []⟩,
    ⟨"twin", none, [], .mapping [(.str "Branch", some fun _ _ => [])]⟩]

/-- A rule of which both entries are wrong, the first one by its key. -/
def stray : Rule := ⟨"stray", none, [], .mapping [(.str "Root", none), (.str "Leaf", none)]⟩

def smallVocabulary : CategoryTable := [("Branch", [.branch]), ("Leaf", [.name])]

/-- The namesakes make a table in which the keys of both twins stand under their name. With two
faulty rules behind them there is no table, and the first one's first entry is to blame. -/
theorem build_all_or_none_namesakes :
    smallVocabulary.names.Nodup ∧ (∀ r ∈ namesakes, (r.entries.map (·.1)).Nodup) ∧
    (∃ t, (build namesakes smallVocabulary).2 = .ok t ∧ Holds smallVocabulary namesakes t ∧
      t.described = [("twin", ["Branch", "Branch", "Leaf:exit"]), ("silent", [])]) ∧
    (build (namesakes ++ [stray, ⟨"odd", none, [], .other⟩]) smallVocabulary).2 =
      .error (.badKey (.str "Root") "stray") := by
  have hc : smallVocabulary.names.Nodup := by decide
  have hk : ∀ r ∈ namesakes, (r.entries.map (·.1)).Nodup := by
    simp [namesakes, Rule.entries]
  have hall : ∀ r ∈ namesakes ++ [stray, ⟨"odd", none, [], .other⟩],
      (r.entries.map (·.1)).Nodup := by
    simp [namesakes, stray, Rule.entries]
  have hs : ∀ r ∈ namesakes, r.Sound smallVocabulary := by
    simp only [namesakes, List.forall_mem_cons, List.not_mem_nil, false_implies, implies_true,
      and_true]
    refine ⟨⟨rfl, by simp, ?_⟩, ⟨rfl, by simp, ?_⟩, ⟨rfl, by simp, ?_⟩⟩ <;>
      simp only [Rule.entries, List.forall_mem_cons, List.not_mem_nil, false_implies, implies_true,
        and_true]
    · exact ⟨⟨rfl, rfl⟩, ⟨rfl, rfl⟩⟩
    · exact ⟨rfl, rfl⟩
  have hsmall := build_all_or_none smallVocabulary namesakes hc hk
  obtain ⟨t, ht⟩ := hsmall.1.2 hs
  refine ⟨hc, hk, ⟨t, ht, (hsmall.2.1 t ht).1, ?_⟩, ?_⟩
  · obtain rfl : t = _ := (Except.ok.inj ht).symm
    rfl
  · have hstray : stray.creation =
        .mapping ([] ++ (.str "Root", none) :: [(.str "Leaf", none)]) := rfl
    exact ((build_all_or_none smallVocabulary _ hc hall).2.2.1 _).2
      ⟨namesakes, stray, _, rfl, hs, .badKey rfl hstray (by simp) rfl⟩

end RuleTable

end TemplateLint
