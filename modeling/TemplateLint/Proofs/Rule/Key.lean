import Mathlib.Data.List.Basic
import TemplateLint.Rule.Table

/-!
What rule keys stand for.

A key is read by its ending: if it ends in the suffix for leaving a node, then it is read without
it, even where the whole key is the name of a category too. So a key that is read is the written
form of what it is read as, and of nothing else. What cannot be written is the entering of nodes of
a category whose own name ends in the suffix. Main statement: `parse?_unambiguous`.
-/

namespace TemplateLint.RuleKey

/-- The text ends in the suffix of keys for leaving a node. -/
def EndsInExit (s : String) : Prop := exitSuffix.toList <:+ s.toList

lemma endsInExit_iff {s : String} : EndsInExit s ↔ ∃ category, s = category ++ exitSuffix := by
  constructor
  · rintro ⟨cs, hcs⟩
    refine ⟨String.ofList cs, String.toList_inj.1 ?_⟩
    rw [String.toList_append, String.toList_ofList, hcs]
  · rintro ⟨category, rfl⟩
    exact ⟨category.toList, (String.toList_append ..).symm⟩

/-! ### Splitting keys -/

lemma split_of_not_endsInExit {s : String} (h : ¬EndsInExit s) : split s = (s, .enter) := by
  have hnone : dropSuffix? exitSuffix.toList s.toList = none :=
    if_neg fun hs => h (List.isSuffixOf_iff_suffix.1 hs)
  rw [split, hnone]

lemma split_append (category : String) : split (category ++ exitSuffix) = (category, .exit) := by
  have hsuffix : exitSuffix.toList.isSuffixOf (category ++ exitSuffix).toList :=
    List.isSuffixOf_iff_suffix.2 (endsInExit_iff.2 ⟨category, rfl⟩)
  have hsome : dropSuffix? exitSuffix.toList (category ++ exitSuffix).toList =
      some category.toList := by
    rw [dropSuffix?, if_pos hsuffix]
    simp
  rw [split, hsome]
  simp

/-- Parts come from a key exactly if it is their written form. A name that ends in the suffix is no
part for entering. -/
lemma split_eq_iff {key category : String} {phase : Phase} :
    split key = (category, phase) ↔
      key = text category phase ∧ (EndsInExit category → phase = .exit) := by
  by_cases hkey : EndsInExit key
  · obtain ⟨c, rfl⟩ := endsInExit_iff.1 hkey
    rw [split_append]
    cases phase with
    | enter =>
      have hno : ¬(c ++ exitSuffix = category ∧ ¬EndsInExit category) := by
        rintro ⟨rfl, h⟩
        exact h hkey
      simpa [text] using hno
    | exit =>
      have hinj : c ++ exitSuffix = category ++ exitSuffix ↔ c = category := by
        rw [← String.toList_inj, ← String.toList_inj]
        simp
      simp [text, hinj]
  · rw [split_of_not_endsInExit hkey]
    cases phase with
    | enter =>
      simp only [text, Prod.mk.injEq, and_true]
      exact ⟨fun h => ⟨h, fun hc => absurd (h ▸ hc) hkey⟩, fun h => h.1⟩
    | exit =>
      have hno : key ≠ category ++ exitSuffix :=
        fun h => hkey (endsInExit_iff.2 ⟨category, h⟩)
      simp [text, hno]

/-! ### Reading keys -/

variable {categories : CategoryTable} {key : Json} {category : String} {phase : Phase}

/-- A key is read as what it is the written form of. -/
lemma parse?_eq_some_iff : parse? categories key = some (category, phase) ↔
    key = .str (text category phase) ∧ (EndsInExit category → phase = .exit) ∧
      category ∈ categories.names := by
  cases key with
  | str s =>
    have hsplit : split s = (category, phase) ↔ _ := split_eq_iff
    rcases hs : split s with ⟨c, p⟩
    simp only [parse?, hs, CategoryTable.contains, List.contains_iff_mem]
    grind
  | _ => simp [parse?]

lemma eq_text_of_parse? (h : parse? categories key = some (category, phase)) :
    key = .str (text category phase) :=
  (parse?_eq_some_iff.1 h).1

lemma mem_names_of_parse? (h : parse? categories key = some (category, phase)) :
    category ∈ categories.names :=
  (parse?_eq_some_iff.1 h).2.2

/-- **Rule keys are unambiguous.** A text is a key if it is the name of a category and does not end
in the suffix, or if it is the name of a category with the suffix behind it. A key that is read is
the written form of callbacks for what it is read as, and no other key is read as the same. The
written form of a callback is read as its category and phase, unless the category's own name ends
in the suffix. -/
theorem parse?_unambiguous (categories : CategoryTable) :
    (∀ key : String, (parse? categories (.str key)).isSome ↔
      ¬EndsInExit key ∧ key ∈ categories.names ∨
        ∃ category ∈ categories.names, key = category ++ exitSuffix) ∧
    (∀ key category phase, parse? categories (.str key) = some (category, phase) →
      category ∈ categories.names ∧
        ∀ r : Registration, r.category = category → r.phase = phase → r.key = key) ∧
    (∀ key key' place, parse? categories (.str key) = some place →
      parse? categories (.str key') = some place → key = key') ∧
    ∀ r : Registration, r.category ∈ categories.names → ¬EndsInExit r.category →
      parse? categories (.str r.key) = some (r.category, r.phase) := by
  refine ⟨fun key => ?accepted, fun key category phase h => ?written, ?apart,
    fun r hr hends => ?back⟩
  case accepted =>
    rw [Option.isSome_iff_exists]
    constructor
    · rintro ⟨⟨category, phase⟩, h⟩
      obtain ⟨hkey, hphase, hc⟩ := parse?_eq_some_iff.1 h
      obtain rfl := Json.str.inj hkey
      cases phase with
      | enter => exact .inl ⟨fun hends => by simpa using hphase hends, hc⟩
      | exit => exact .inr ⟨category, hc, rfl⟩
    · rintro (⟨hends, hc⟩ | ⟨category, hc, rfl⟩)
      · exact ⟨(key, .enter), parse?_eq_some_iff.2 ⟨rfl, fun h => absurd h hends, hc⟩⟩
      · exact ⟨(category, .exit), parse?_eq_some_iff.2 ⟨rfl, fun _ => rfl, hc⟩⟩
  case written =>
    obtain ⟨hkey, -, hc⟩ := parse?_eq_some_iff.1 h
    obtain rfl := Json.str.inj hkey
    refine ⟨hc, ?_⟩
    rintro r rfl rfl
    rfl
  case apart =>
    rintro key key' ⟨category, phase⟩ h h'
    exact Json.str.inj ((eq_text_of_parse? h).trans (eq_text_of_parse? h').symm)
  case back => exact parse?_eq_some_iff.2 ⟨rfl, fun h => absurd h hends, hr⟩

/-- A vocabulary in which one name is also the key for leaving nodes of the other. -/
def suffixedVocabulary : CategoryTable := [("Set", [.assign]), ("Set:exit", [.name])]

/-- The name with the suffix is read as the key for leaving nodes of the other category, and it is
the only key for that. With one more suffix it stands for leaving nodes of its own. -/
theorem parse?_unambiguous_suffixed :
    let leaving : Registration := ⟨"r", "Set", .exit, fun _ _ => []⟩
    leaving.category ∈ suffixedVocabulary.names ∧ ¬EndsInExit leaving.category ∧
    leaving.key = "Set:exit" ∧
    parse? suffixedVocabulary (.str "Set:exit") = some ("Set", .exit) ∧
    (∀ key, parse? suffixedVocabulary (.str key) = some ("Set", .exit) → key = "Set:exit") ∧
    (parse? suffixedVocabulary (.str "Set:exit:exit")).isSome := by
  intro leaving
  have hmem : leaving.category ∈ suffixedVocabulary.names := .head _
  have hends : ¬EndsInExit leaving.category := by
    rw [EndsInExit, ← List.isSuffixOf_iff_suffix]
    decide
  have hkey : leaving.key = "Set:exit" := rfl
  obtain ⟨haccepted, -, hapart, hback⟩ := parse?_unambiguous suffixedVocabulary
  have hparse := hback leaving hmem hends
  rw [hkey] at hparse
  refine ⟨hmem, hends, hkey, hparse, fun key h => hapart _ _ _ h hparse, ?_⟩
  exact (haccepted _).2 (.inr ⟨"Set:exit", .tail _ (.head _), rfl⟩)

end TemplateLint.RuleKey
