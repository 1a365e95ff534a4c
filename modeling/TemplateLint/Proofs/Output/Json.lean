import Mathlib.Data.List.Basic
import TemplateLint.Output.Json
import TemplateLint.Proofs.Json.Printable
import TemplateLint.Proofs.Path.Text

/-!
What results written as JSON say.

The text is read back as the document it was written from, whatever its layout, and the document
holds every report, every failure and the counts. So nothing of these is lost or confused. Main
statement: `results_faithful`.
-/

namespace TemplateLint

lemma Severity.text_injective : Function.Injective Severity.text := by
  intro a b h
  cases a <;> cases b <;> first | rfl | exact absurd h (by decide)

lemma Json.ofOption_int_injective : Function.Injective (Json.ofOption .int) := by
  intro a b h
  cases a <;> cases b <;> simp_all [Json.ofOption]

/-- The paths of all failures have names only. -/
def Results.Normal (r : Results) : Prop := ∀ f ∈ r.failed, f.1.Normal

namespace Output.Json

open TemplateLint (Json)
open TemplateLint.Json (Plain Fits IsPrintable parseWithin? parse?)

variable {r r' : Results} {limit : Option Nat}

/-! ### Documents -/

lemma diagnostic_injective : Function.Injective diagnostic := by
  intro a b h
  simp only [diagnostic, Json.obj.injEq, List.cons.injEq, Prod.mk.injEq, Json.str.injEq, true_and,
    and_true] at h
  obtain ⟨hrule, hseverity, hline, hfilename, hmessage, hsource⟩ := h
  cases a
  cases b
  simp_all [Severity.text_injective.eq_iff, Json.ofOption_int_injective.eq_iff]

lemma report_injective : Function.Injective report := by
  intro a b h
  simp only [report, Json.obj.injEq, List.cons.injEq, Prod.mk.injEq, Json.str.injEq,
    Json.arr.injEq, true_and, and_true] at h
  obtain ⟨hfilename, -, hlogs, hwarnings, hfatals⟩ := h
  have hmap := List.map_injective_iff.2 diagnostic_injective
  exact (Report.mk.injEq ..).mpr ⟨hfilename, hmap hlogs, hmap hwarnings, hmap hfatals⟩

/-- The failure that an entry tells of. -/
def failure? : Json → Option (Path × String)
  | .obj [(_, .str path), (_, .str error)] => some (Path.ofString path, error)
  | _ => none

lemma failure?_failure {f : Path × String} (h : f.1.Normal) : failure? (failure f) = some f := by
  simp [failure, failure?, Path.ofString_toString h]

/-- Failures with paths of names are told apart. -/
lemma failed_eq (hr : r.Normal) (hr' : r'.Normal)
    (h : r.failed.map failure = r'.failed.map failure) : r.failed = r'.failed := by
  have hback : ∀ q : Results, q.Normal → (q.failed.map failure).map failure? = q.failed.map some :=
    fun q hq => by
      rw [List.map_map]
      exact List.map_congr_left fun f hf => failure?_failure (hq f hf)
  have hsome := (hback r hr).symm.trans ((congrArg (List.map failure?) h).trans (hback r' hr'))
  exact List.map_injective_iff.2 (fun _ _ => Option.some.inj) hsome

/-- What results say: everything but the names of the templates that were linted. -/
structure SameContent (r r' : Results) : Prop where
  reports : r.reports = r'.reports
  failed : r.failed = r'.failed
  total : r.total = r'.total
  linted : r.linted.length = r'.linted.length

lemma sameContent_of_document (hr : r.Normal) (hr' : r'.Normal) (h : document r = document r') :
    SameContent r r' := by
  simp only [document, Json.obj.injEq, List.cons.injEq, Prod.mk.injEq, Json.int.injEq,
    Json.arr.injEq, true_and, and_true] at h
  obtain ⟨-, htotal, hlinted, -, hreports, hfailed⟩ := h
  exact {
    reports := List.map_injective_iff.2 report_injective hreports
    failed := failed_eq hr hr' hfailed
    total := Int.ofNat.inj htotal
    linted := Int.ofNat.inj hlinted }

/-! ### Reading the text back -/

/-- Whether a reader with a limit on digits takes all lines and counts. -/
structure Readable (limit : Option Nat) (r : Results) : Prop where
  lines : ∀ d ∈ r.diagnostics, ∀ n ∈ d.line, Fits limit n
  total : Fits limit r.total
  linted : Fits limit r.linted.length
  failed : Fits limit r.failed.length

lemma readable_none (r : Results) : Readable none r where
  lines _ _ n _ := Json.fits_none n
  total := Json.fits_none _
  linted := Json.fits_none _
  failed := Json.fits_none _

lemma plain_diagnostic {d : Diagnostic} (h : ∀ n ∈ d.line, Fits limit n) :
    Plain limit (diagnostic d) := by
  have hline : Plain limit (Json.ofOption .int d.line) := by
    cases hd : d.line with
    | none => exact .null
    | some n => exact .int (h n hd)
  simp [diagnostic, hline]

lemma plain_report {x : Report} (h : ∀ d ∈ x.diagnostics, ∀ n ∈ d.line, Fits limit n) :
    Plain limit (report x) := by
  have hall : ∀ d ∈ x.logs ++ x.warnings ++ x.fatals, Plain limit (diagnostic d) :=
    fun d hd => plain_diagnostic (h d hd)
  simp only [List.forall_mem_append] at hall
  simp only [report, Json.plain_obj, Json.plain_arr, Json.plain_str, List.forall_mem_cons,
    List.forall_mem_map]
  exact ⟨trivial, trivial, hall.1.1, hall.1.2, hall.2, List.forall_mem_nil _⟩

lemma plain_failure (f : Path × String) : Plain limit (failure f) := by simp [failure]

lemma plain_document (h : Readable limit r) : Plain limit (document r) := by
  have hreports : ∀ x ∈ r.reports, Plain limit (report x) := fun x hx =>
    plain_report fun d hd => h.lines d (List.mem_flatMap.2 ⟨x, hx, hd⟩)
  simp only [document, Json.plain_obj, Json.plain_arr, Json.plain_str, Json.plain_int,
    List.forall_mem_cons, List.forall_mem_map]
  exact ⟨trivial, h.total, h.linted, h.failed, hreports, fun f _ => plain_failure f,
    List.forall_mem_nil _⟩

lemma parse_results (h : Readable limit r) (pretty : Bool) :
    parseWithin? limit (results r pretty) = some (document r) := by
  cases pretty with
  | true => exact Json.parse_render (Json.faithful_indented true) (plain_document h)
  | false => exact Json.parse_render (Json.faithful_spaced true) (plain_document h)

/-- Every character of the text is in ASCII, and the text is one line if it is not indented. -/
lemma isPrintable_results (r : Results) : ∀ c ∈ (results r false).toList, IsPrintable c := by
  have hadmits : (Json.Style.spaced true).whole.Admits IsPrintable :=
    { printable := fun _ h => h
      bracketGap := fun _ => List.forall_mem_nil _
      commaGap := fun _ => List.forall_mem_singleton.2 (by decide)
      colonGap := List.forall_mem_singleton.2 (by decide) }
  exact Json.forall_mem_render hadmits rfl (plain_document (readable_none r))

lemma ascii_newline (depth : Nat) : ∀ c ∈ Json.newline depth, c.toNat < 0x80 := by
  intro c hc
  rcases List.mem_cons.1 hc with rfl | hc
  · decide
  · rw [List.eq_of_mem_replicate hc]
    decide

lemma ascii_results (r : Results) (pretty : Bool) :
    ∀ c ∈ (results r pretty).toList, c.toNat < 0x80 := by
  have hprintable : ∀ c, IsPrintable c → c.toNat < 0x80 := fun c hc =>
    Nat.lt_succ_of_lt hc.2
  cases pretty with
  | true =>
    have hadmits : (Json.Style.indented true).whole.Admits (·.toNat < 0x80) :=
      { printable := hprintable
        bracketGap := ascii_newline
        commaGap := ascii_newline
        colonGap := List.forall_mem_singleton.2 (by decide) }
    exact Json.forall_mem_render hadmits rfl (plain_document (readable_none r))
  | false => exact fun c hc => hprintable c (isPrintable_results r c hc)

/-- **Results written as JSON are told in full.** The text is in ASCII, and one line without a
break unless it is indented; it is read back as the document, also by a reader with a limit on the
digits of a number if the numbers keep to it; and results with one text, in whatever layouts, have
the same reports, failures and counts. -/
theorem results_faithful (hr : r.Normal) (pretty : Bool) :
    (∀ c ∈ (results r pretty).toList, c.toNat < 0x80) ∧
    (∀ c ∈ (results r false).toList, IsPrintable c) ∧
    parseWithin? none (results r pretty) = some (document r) ∧
    (∀ limit, Readable limit r → parseWithin? limit (results r pretty) = some (document r)) ∧
    ∀ r' pretty', r'.Normal → results r pretty = results r' pretty' → SameContent r r' := by
  have hread := parse_results (readable_none r) pretty
  refine ⟨ascii_results r pretty, isPrintable_results r, hread,
    fun _ h => parse_results h pretty, ?_⟩
  intro r' pretty' hr' htext
  rw [htext, parse_results (readable_none r') pretty'] at hread
  exact sameContent_of_document hr hr' (Option.some.inj hread).symm

/-- Results with an entry of rare characters and a failure. -/
def sample (template : String) : Results where
  reports := [{
    filename := "a.html"
    logs := []
    warnings := []
    fatals := [⟨.fatal, "names", some 2, "\x7b\x7b a \x7d\x7d", "a.html", "\"😀\" \\ \n \u2028"⟩]}]
  linted := [Path.ofString template]
  failed := [(Path.ofString "d/b.html", "unexpected end of template")]

/-- Only the name of the template that was linted is not told. -/
theorem results_faithful_sample :
    (sample "a.html").Normal ∧ (sample "c.html").Normal ∧
    SameContent (sample "a.html") (sample "c.html") := by
  have hnormal : ∀ template, (sample template).Normal := fun template f hf => by
    rw [List.mem_singleton.1 hf]
    exact Path.normal_ofString _
  exact ⟨hnormal _, hnormal _, (results_faithful (hnormal _) false).2.2.2.2 (sample "c.html") false
    (hnormal _) rfl⟩

end Output.Json

end TemplateLint
