import TemplateLint.Proofs.Json.Literal

/-!
Values read back from what is written for them.

Reading takes a value off the front of a text and leaves the rest, whatever blanks a style puts
between the parts; what a value is made of is as deep as its text is long, so reading never runs
out. Floating-point numbers are left out, since a word such as `NaN` or a rounded number may stand
for them. Main statement: `parse_render`.
-/

namespace TemplateLint.Json

variable {limit : Option Nat} {st : Style}

/-! ### Blanks -/

/-- A style puts nothing but blanks between the parts, and every character stands for itself. -/
structure Style.Faithful (st : Style) : Prop where
  halves : st.halves = false
  bracketGap : ∀ depth, ∀ c ∈ st.bracketGap depth, isGap c
  commaGap : ∀ depth, ∀ c ∈ st.commaGap depth, isGap c
  colonGap : ∀ c ∈ st.colonGap, isGap c

lemma isGap_newline (depth : Nat) : ∀ c ∈ newline depth, isGap c := by
  intro c hc
  rcases List.mem_cons.1 hc with rfl | hc
  · rfl
  · rw [List.eq_of_mem_replicate hc]
    rfl

lemma faithful_indented (ascii : Bool) : (Style.indented ascii).whole.Faithful where
  halves := rfl
  bracketGap := isGap_newline
  commaGap := isGap_newline
  colonGap := by simp [Style.whole, Style.indented, isGap]

lemma faithful_spaced (ascii : Bool) : (Style.spaced ascii).whole.Faithful where
  halves := rfl
  bracketGap := by simp [Style.whole, Style.spaced]
  commaGap := by simp [Style.whole, Style.spaced, isGap]
  colonGap := by simp [Style.whole, Style.spaced, isGap]

lemma faithful_dense (ascii : Bool) : (Style.dense ascii).whole.Faithful where
  halves := rfl
  bracketGap := by simp [Style.whole, Style.dense]
  commaGap := by simp [Style.whole, Style.dense]
  colonGap := by simp [Style.whole, Style.dense]

lemma isGap_eq_false_of_isDigit {c : Char} (h : c.isDigit) : isGap c = false := by
  by_contra hgap
  rw [Bool.not_eq_false] at hgap
  simp only [isGap, Bool.or_eq_true, beq_iff_eq] at hgap
  rcases hgap with ((rfl | rfl) | rfl) | rfl <;> cases h

lemma skipGaps_append {gap : List Char} (h : ∀ c ∈ gap, isGap c) (cs : List Char) :
    skipGaps (gap ++ cs) = skipGaps cs :=
  List.dropWhile_append_of_pos h

lemma skipGaps_cons {c : Char} (h : isGap c = false) (cs : List Char) :
    skipGaps (c :: cs) = c :: cs := by
  simp [skipGaps, h]

section

variable {gap : List Char} (h : ∀ c ∈ gap, isGap c)

include h

lemma parseValue_gap (fuel : Nat) (cs : List Char) :
    parseValue limit fuel (gap ++ cs) = parseValue limit fuel cs := by
  cases fuel with
  | zero => simp only [parseValue]
  | succ fuel => simp only [parseValue, skipGaps_append h]

lemma parseItems_gap (fuel : Nat) (cs : List Char) :
    parseItems limit fuel (gap ++ cs) = parseItems limit fuel cs := by
  cases fuel with
  | zero => simp only [parseItems]
  | succ fuel => simp only [parseItems, skipGaps_append h]

lemma parseMember_gap (fuel : Nat) (cs : List Char) :
    parseMember limit fuel (gap ++ cs) = parseMember limit fuel cs := by
  cases fuel with
  | zero => simp only [parseMember]
  | succ fuel => simp only [parseMember, skipGaps_append h]

lemma parseMembers_gap (fuel : Nat) (cs : List Char) :
    parseMembers limit fuel (gap ++ cs) = parseMembers limit fuel cs := by
  cases fuel with
  | zero => simp only [parseMembers]
  | succ fuel => simp only [parseMembers, skipGaps_append h]

/-- A number ends at blanks, and where something else that ends it comes after them. -/
lemma endsNumber_gap {cs : List Char} (hcs : EndsNumber cs) : EndsNumber (gap ++ cs) := by
  cases gap with
  | nil => exact hcs
  | cons c gap =>
    intro d hd
    obtain rfl : c = d := by simpa using hd
    have hgap : isGap c := h c (.head _)
    simp only [isGap, Bool.or_eq_true, beq_iff_eq] at hgap
    rcases hgap with ((rfl | rfl) | rfl) | rfl <;> decide

end

/-! ### Values that reading gives back -/

/-- A value without floating-point numbers, whose integers all have few enough digits. -/
inductive Plain (limit : Option Nat) : Json → Prop where
  | null : Plain limit .null
  | bool (b : Bool) : Plain limit (.bool b)
  | int {i : Int} : Fits limit i → Plain limit (.int i)
  | str (s : String) : Plain limit (.str s)
  | arr {xs : List Json} : (∀ x ∈ xs, Plain limit x) → Plain limit (.arr xs)
  | obj {ms : List (String × Json)} : (∀ m ∈ ms, Plain limit m.2) → Plain limit (.obj ms)

@[simp] lemma plain_str (s : String) : Plain limit (.str s) := .str s

@[simp] lemma plain_int {i : Int} : Plain limit (.int i) ↔ Fits limit i :=
  ⟨fun h => by cases h; assumption, .int⟩

@[simp] lemma plain_arr {xs : List Json} : Plain limit (.arr xs) ↔ ∀ x ∈ xs, Plain limit x :=
  ⟨fun h => by cases h; assumption, .arr⟩

@[simp] lemma plain_obj {ms : List (String × Json)} :
    Plain limit (.obj ms) ↔ ∀ m ∈ ms, Plain limit m.2 :=
  ⟨fun h => by cases h; assumption, .obj⟩

/-- Reading the text of a value gives the value, whatever comes after. -/
def ReadsBack (limit : Option Nat) (st : Style) (j : Json) : Prop :=
  ∀ depth fuel rest, (renderAt st depth j).length < fuel → EndsNumber rest →
    parseValue limit fuel (renderAt st depth j ++ rest) = some (j, rest)

/-- The text of a value starts with no blank and no closing bracket. -/
lemma head_renderAt (st : Style) (depth : Nat) {j : Json} (h : Plain limit j) :
    ∃ c cs, renderAt st depth j = c :: cs ∧ isGap c = false ∧ c ≠ ']' := by
  cases h with
  | null => exact ⟨_, _, by rw [renderAt], rfl, by decide⟩
  | bool b => cases b <;> exact ⟨_, _, by rw [renderAt], rfl, by decide⟩
  | @int i _ =>
    cases i with
    | ofNat n =>
      obtain ⟨c, cs, hcs, hdigit⟩ := Text.Decimal.digits_eq_cons n
      refine ⟨c, cs, by rw [renderAt]; exact hcs, isGap_eq_false_of_isDigit hdigit, ?_⟩
      rintro rfl
      cases hdigit
    | negSucc n => exact ⟨'-', _, by rw [renderAt]; rfl, rfl, by decide⟩
  | str s => exact ⟨'"', _, by rw [renderAt, renderStr]; rfl, rfl, by decide⟩
  | @arr xs _ =>
    cases xs with
    | nil => exact ⟨_, _, by rw [renderAt], rfl, by decide⟩
    | cons x xs => exact ⟨'[', _, by rw [renderAt]; rfl, rfl, by decide⟩
  | @obj ms _ =>
    cases ms with
    | nil => exact ⟨_, _, by rw [renderAt], rfl, by decide⟩
    | cons m ms => exact ⟨'{', _, by rw [renderAt]; rfl, rfl, by decide⟩

lemma endsNumber_bracket (rest : List Char) : EndsNumber (']' :: rest) := by
  rintro c ⟨⟩
  decide

lemma endsNumber_brace (rest : List Char) : EndsNumber ('}' :: rest) := by
  rintro c ⟨⟩
  decide

lemma endsNumber_comma (rest : List Char) : EndsNumber (',' :: rest) := by
  rintro c ⟨⟩
  decide

lemma endsNumber_items (depth : Nat) (xs : List Json) {rest : List Char} (h : EndsNumber rest) :
    EndsNumber (renderItems st depth xs ++ rest) := by
  cases xs with
  | nil => simpa [renderItems] using h
  | cons x xs =>
    rw [renderItems]
    exact endsNumber_comma _

lemma endsNumber_members (depth : Nat) (ms : List (String × Json)) {rest : List Char}
    (h : EndsNumber rest) : EndsNumber (renderMembers st depth ms ++ rest) := by
  cases ms with
  | nil => simpa [renderMembers] using h
  | cons m ms =>
    rw [renderMembers]
    exact endsNumber_comma _

/-! ### Values without parts -/

lemma readsBack_null : ReadsBack limit st .null := by
  intro depth fuel rest hfuel _
  obtain ⟨fuel, rfl⟩ := Nat.exists_eq_add_one_of_ne_zero (Nat.ne_zero_of_lt hfuel)
  rw [renderAt]
  rfl

lemma readsBack_bool (b : Bool) : ReadsBack limit st (.bool b) := by
  intro depth fuel rest hfuel _
  obtain ⟨fuel, rfl⟩ := Nat.exists_eq_add_one_of_ne_zero (Nat.ne_zero_of_lt hfuel)
  cases b <;>
  · rw [renderAt]
    rfl

/-- A digit, or a sign before no infinity, begins a number. -/
lemma parseValue_number {c : Char} {cs : List Char}
    (h : c.isDigit ∨ c = '-' ∧ cs.head? ≠ some 'I') (fuel : Nat) :
    parseValue limit (fuel + 1) (c :: cs) = parseNumber limit (c :: cs) := by
  have hgap : isGap c = false := by
    rcases h with hdigit | ⟨rfl, -⟩
    · exact isGap_eq_false_of_isDigit hdigit
    · rfl
  rw [parseValue, skipGaps_cons hgap]
  split
  all_goals
    first
    | rfl
    | next hcons =>
      obtain ⟨rfl, rfl⟩ := List.cons.inj hcons
      simp at h

lemma readsBack_int {i : Int} (hi : Fits limit i) : ReadsBack limit st (.int i) := by
  intro depth fuel rest hfuel hrest
  obtain ⟨fuel, rfl⟩ := Nat.exists_eq_add_one_of_ne_zero (Nat.ne_zero_of_lt hfuel)
  rw [renderAt, ← parseNumber_ofInt hi hrest]
  cases i with
  | ofNat n =>
    obtain ⟨c, cs, hcs, hc⟩ := Text.Decimal.digits_eq_cons n
    rw [Text.Decimal.ofInt, hcs]
    exact parseValue_number (.inl hc) fuel
  | negSucc n =>
    obtain ⟨c, cs, hcs, hc⟩ := Text.Decimal.digits_eq_cons (n + 1)
    rw [Text.Decimal.ofInt, hcs]
    refine parseValue_number (.inr ⟨rfl, ?_⟩) fuel
    rintro ⟨⟩
    cases hc

lemma readsBack_str (hst : st.Faithful) (s : String) : ReadsBack limit st (.str s) := by
  intro depth fuel rest hfuel _
  obtain ⟨fuel, rfl⟩ := Nat.exists_eq_add_one_of_ne_zero (Nat.ne_zero_of_lt hfuel)
  have hread := parseStr_renderStr hst.halves s.toList rest
  have htext : renderAt st depth (.str s) ++ rest =
      '"' :: (s.toList.flatMap (escapeChar st) ++ '"' :: rest) := by
    rw [renderAt, renderStr]
    simp
  rw [htext, parseValue, skipGaps_cons rfl]
  simp only [hread]
  simp

/-! ### Arrays and objects -/

/-- Reading the items after the first, up to the bracket. -/
lemma parseItems_renderItems (hst : st.Faithful) {xs : List Json}
    (ih : ∀ x ∈ xs, ReadsBack limit st x) (depth fuel : Nat) {gap : List Char}
    (hgap : ∀ c ∈ gap, isGap c) (rest : List Char)
    (hfuel : (renderItems st depth xs).length < fuel) :
    parseItems limit fuel (renderItems st depth xs ++ (gap ++ ']' :: rest)) = some (xs, rest) := by
  induction xs generalizing fuel with
  | nil =>
    obtain ⟨fuel, rfl⟩ := Nat.exists_eq_add_one_of_ne_zero (Nat.ne_zero_of_lt hfuel)
    rw [renderItems, List.nil_append, parseItems_gap hgap]
    rfl
  | cons x xs ihxs =>
    obtain ⟨fuel, rfl⟩ := Nat.exists_eq_add_one_of_ne_zero (Nat.ne_zero_of_lt hfuel)
    have hlength : (renderItems st depth (x :: xs)).length =
        1 + (st.commaGap depth).length + (renderAt st depth x).length +
          (renderItems st depth xs).length := by
      rw [renderItems]
      simp only [List.length_append, List.length_cons]
      omega
    have htext : renderItems st depth (x :: xs) ++ (gap ++ ']' :: rest) =
        ',' :: (st.commaGap depth ++ (renderAt st depth x ++
          (renderItems st depth xs ++ (gap ++ ']' :: rest)))) := by
      rw [renderItems]
      simp
    have hend : EndsNumber (renderItems st depth xs ++ (gap ++ ']' :: rest)) :=
      endsNumber_items depth xs (endsNumber_gap hgap (endsNumber_bracket rest))
    have hfirst := ih x (.head _) depth fuel _ (by omega) hend
    have hlater := ihxs (fun y hy => ih y (.tail _ hy)) fuel (by omega)
    rw [htext, parseItems, skipGaps_cons rfl]
    simp only [parseValue_gap (hst.commaGap depth), hfirst, Option.bind_eq_bind, Option.bind_some,
      hlater]
    rfl

/-- Reading a member: its key, a colon and its value. -/
lemma parseMember_render (hst : st.Faithful) {x : Json} (ih : ReadsBack limit st x) (k : String)
    (depth fuel : Nat) {rest : List Char} (hrest : EndsNumber rest)
    (hfuel : (renderAt st depth x).length + 1 < fuel) :
    parseMember limit fuel (renderStr st k ++ ':' :: (st.colonGap ++ (renderAt st depth x ++ rest)))
      = some ((k, x), rest) := by
  obtain ⟨fuel, rfl⟩ := Nat.exists_eq_add_one_of_ne_zero (Nat.ne_zero_of_lt hfuel)
  have hkey := parseStr_renderStr hst.halves k.toList
    (':' :: (st.colonGap ++ (renderAt st depth x ++ rest)))
  have hvalue := ih depth fuel rest (by omega) hrest
  have htext : renderStr st k ++ ':' :: (st.colonGap ++ (renderAt st depth x ++ rest)) =
      '"' :: (k.toList.flatMap (escapeChar st) ++
        '"' :: ':' :: (st.colonGap ++ (renderAt st depth x ++ rest))) := by
    rw [renderStr]
    simp
  rw [htext, parseMember, skipGaps_cons rfl]
  simp only [hkey, Option.bind_eq_bind, Option.bind_some, skipGaps_cons (c := ':') rfl,
    parseValue_gap hst.colonGap, hvalue]
  simp

/-- Reading the members after the first, up to the brace. -/
lemma parseMembers_renderMembers (hst : st.Faithful) {ms : List (String × Json)}
    (ih : ∀ m ∈ ms, ReadsBack limit st m.2) (depth fuel : Nat) {gap : List Char}
    (hgap : ∀ c ∈ gap, isGap c) (rest : List Char)
    (hfuel : (renderMembers st depth ms).length < fuel) :
    parseMembers limit fuel (renderMembers st depth ms ++ (gap ++ '}' :: rest)) =
      some (ms, rest) := by
  induction ms generalizing fuel with
  | nil =>
    obtain ⟨fuel, rfl⟩ := Nat.exists_eq_add_one_of_ne_zero (Nat.ne_zero_of_lt hfuel)
    rw [renderMembers, List.nil_append, parseMembers_gap hgap]
    rfl
  | cons m ms ihms =>
    obtain ⟨k, x⟩ := m
    obtain ⟨fuel, rfl⟩ := Nat.exists_eq_add_one_of_ne_zero (Nat.ne_zero_of_lt hfuel)
    have hlength : (renderMembers st depth ((k, x) :: ms)).length =
        2 + (st.commaGap depth).length + (renderStr st k).length + st.colonGap.length +
          (renderAt st depth x).length + (renderMembers st depth ms).length := by
      rw [renderMembers]
      simp only [List.length_append, List.length_cons]
      omega
    have htext : renderMembers st depth ((k, x) :: ms) ++ (gap ++ '}' :: rest) =
        ',' :: (st.commaGap depth ++ (renderStr st k ++ ':' :: (st.colonGap ++
          (renderAt st depth x ++ (renderMembers st depth ms ++ (gap ++ '}' :: rest)))))) := by
      rw [renderMembers]
      simp
    have hend : EndsNumber (renderMembers st depth ms ++ (gap ++ '}' :: rest)) :=
      endsNumber_members depth ms (endsNumber_gap hgap (endsNumber_brace rest))
    have hvalue : ReadsBack limit st x := ih (k, x) (.head _)
    have hfirst := parseMember_render hst hvalue k depth fuel hend (by omega)
    have hlater := ihms (fun m hm => ih m (.tail _ hm)) fuel (by omega)
    rw [htext, parseMembers, skipGaps_cons rfl]
    simp only [parseMember_gap (hst.commaGap depth), hfirst, Option.bind_eq_bind, Option.bind_some,
      hlater]
    rfl

lemma readsBack_arr (hst : st.Faithful) {xs : List Json} (hplain : ∀ x ∈ xs, Plain limit x)
    (ih : ∀ x ∈ xs, ReadsBack limit st x) : ReadsBack limit st (.arr xs) := by
  intro depth fuel rest hfuel hrest
  obtain ⟨fuel, rfl⟩ := Nat.exists_eq_add_one_of_ne_zero (Nat.ne_zero_of_lt hfuel)
  cases xs with
  | nil =>
    rw [renderAt]
    rfl
  | cons x xs =>
    have hlength : (renderAt st depth (.arr (x :: xs))).length =
        2 + (st.bracketGap (depth + 1)).length + (renderAt st (depth + 1) x).length +
          (renderItems st (depth + 1) xs).length + (st.bracketGap depth).length := by
      rw [renderAt]
      simp only [List.length_append, List.length_cons, List.length_nil]
      omega
    have htext : renderAt st depth (.arr (x :: xs)) ++ rest =
        '[' :: (st.bracketGap (depth + 1) ++ (renderAt st (depth + 1) x ++
          (renderItems st (depth + 1) xs ++ (st.bracketGap depth ++ ']' :: rest)))) := by
      rw [renderAt]
      simp
    have hend : EndsNumber
        (renderItems st (depth + 1) xs ++ (st.bracketGap depth ++ ']' :: rest)) :=
      endsNumber_items _ xs (endsNumber_gap (hst.bracketGap depth) (endsNumber_bracket rest))
    have hfirst := ih x (.head _) (depth + 1) fuel _ (by omega) hend
    have hlater := parseItems_renderItems hst (fun y hy => ih y (.tail _ hy)) (depth + 1) fuel
      (hst.bracketGap depth) rest (by omega)
    obtain ⟨c, cs, hcs, hgap, hc⟩ := head_renderAt st (depth + 1) (hplain x (.head _))
    rw [htext, parseValue, skipGaps_cons rfl]
    simp only [skipGaps_append (hst.bracketGap (depth + 1))]
    rw [hcs] at hfirst ⊢
    simp only [List.cons_append, skipGaps_cons hgap] at hfirst ⊢
    split
    · next hcons => exact absurd (List.cons.inj hcons).1 hc
    · simp only [hfirst, Option.bind_eq_bind, Option.bind_some, hlater]
      rfl

lemma readsBack_obj (hst : st.Faithful) {ms : List (String × Json)}
    (ih : ∀ m ∈ ms, ReadsBack limit st m.2) : ReadsBack limit st (.obj ms) := by
  intro depth fuel rest hfuel hrest
  obtain ⟨fuel, rfl⟩ := Nat.exists_eq_add_one_of_ne_zero (Nat.ne_zero_of_lt hfuel)
  cases ms with
  | nil =>
    rw [renderAt]
    rfl
  | cons m ms =>
    obtain ⟨k, x⟩ := m
    have hlength : (renderAt st depth (.obj ((k, x) :: ms))).length =
        3 + (st.bracketGap (depth + 1)).length + (renderStr st k).length + st.colonGap.length +
          (renderAt st (depth + 1) x).length + (renderMembers st (depth + 1) ms).length +
          (st.bracketGap depth).length := by
      rw [renderAt]
      simp only [List.length_append, List.length_cons, List.length_nil]
      omega
    have htext : renderAt st depth (.obj ((k, x) :: ms)) ++ rest =
        '{' :: (st.bracketGap (depth + 1) ++ (renderStr st k ++ ':' :: (st.colonGap ++
          (renderAt st (depth + 1) x ++ (renderMembers st (depth + 1) ms ++
            (st.bracketGap depth ++ '}' :: rest)))))) := by
      rw [renderAt]
      simp
    have hend : EndsNumber
        (renderMembers st (depth + 1) ms ++ (st.bracketGap depth ++ '}' :: rest)) :=
      endsNumber_members _ ms (endsNumber_gap (hst.bracketGap depth) (endsNumber_brace rest))
    have hvalue : ReadsBack limit st x := ih (k, x) (.head _)
    have hfirst := parseMember_render hst hvalue k (depth + 1) fuel hend (by omega)
    have hlater := parseMembers_renderMembers hst (fun m hm => ih m (.tail _ hm)) (depth + 1) fuel
      (hst.bracketGap depth) rest (by omega)
    have hquote : ∀ tail, skipGaps (renderStr st k ++ tail) = renderStr st k ++ tail :=
      fun _ => skipGaps_cons rfl _
    rw [htext, parseValue, skipGaps_cons rfl]
    simp only [skipGaps_append (hst.bracketGap (depth + 1)), hquote]
    split
    · next hcons => exact absurd (List.cons.inj hcons).1 (by decide)
    · simp only [hfirst, Option.bind_eq_bind, Option.bind_some, hlater]
      rfl

/-- The text of a value is read back in front of whatever ends a number. -/
lemma readsBack (hst : st.Faithful) {j : Json} (hj : Plain limit j) : ReadsBack limit st j := by
  induction hj with
  | null => exact readsBack_null
  | bool b => exact readsBack_bool b
  | int hi => exact readsBack_int hi
  | str s => exact readsBack_str hst s
  | @arr xs hplain ih => exact readsBack_arr hst hplain ih
  | @obj ms _ ih => exact readsBack_obj hst ih

/-- **A value is read back from its text**, with blanks or without, in ASCII or not. -/
theorem parse_render (hst : st.Faithful) {j : Json} (hj : Plain limit j) :
    parseWithin? limit (render st j) = some j := by
  have hread := readsBack hst hj 0 ((renderAt st 0 j).length + 1) [] (Nat.lt_succ_self _)
    (fun _ h => by cases h)
  rw [List.append_nil] at hread
  simp [parseWithin?, render, hread, skipGaps]

end TemplateLint.Json
