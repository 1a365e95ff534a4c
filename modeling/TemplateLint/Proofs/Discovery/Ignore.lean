import Mathlib.Data.List.Induction
import TemplateLint.Discovery
import TemplateLint.Proofs.FileTree.Listing
import TemplateLint.Proofs.Text.Lines

/-!
Which files are left out.

An ignore file lists the lines of its text that are neither empty nor comments, without the blanks
around them (`Lists`). The ignore files below a directory are read into a map from directories to
patterns, and the map has for each directory what its own ignore file lists
(`findIgnoreFiles_does`). A file is left out if a given pattern matches it, or one that is listed
for a directory between the target and the file (`ignores_iff`).
-/

namespace TemplateLint

open TemplateLint.Path

variable {dir p file d target : Path} {ns ms : List String} {g : String}

namespace IgnoreMap

variable {m : IgnoreMap}

/-- Adding patterns for a directory adds them there and nowhere else. -/
lemma get_add (m : IgnoreMap) (dir d : Path) (gs : List String) :
    (m.add dir gs).get d = m.get d ++ if d = dir then gs else [] := by
  unfold add
  split_ifs with hany hd hd
  · subst hd
    unfold get
    induction m with
    | nil => cases hany
    | cons e m ih =>
      by_cases he : e.1 = d
      · simp [he]
      · have hrest : m.any (·.1 == d) := by simpa [he] using hany
        simpa [he] using ih hrest
  · unfold get
    have hfind : (m.map fun e => if e.1 == dir then (dir, e.2 ++ gs) else e).find? (·.1 == d) =
        m.find? (·.1 == d) := by
      clear hany
      induction m with
      | nil => rfl
      | cons e m ih =>
        rw [List.map_cons, List.find?_cons, List.find?_cons]
        by_cases he : e.1 = dir
        · subst he
          have hne : (e.1 == d) = false := beq_false_of_ne (Ne.symm hd)
          rw [if_pos (beq_self_eq_true e.1)]
          simp only [hne]
          exact ih
        · rw [if_neg (by simpa using he)]
          cases e.1 == d
          · exact ih
          · rfl
    rw [hfind, List.append_nil]
  · subst hd
    have hnone : m.find? (·.1 == d) = none := by
      rw [List.find?_eq_none]
      intro e he hed
      exact hany (List.any_eq_true.2 ⟨e, he, hed⟩)
    simp [get, hnone]
  · have hne : ¬dir = d := Ne.symm hd
    unfold get
    rw [List.find?_append, List.append_nil]
    cases m.find? (·.1 == d) with
    | some e => rfl
    | none => simp [hne]

end IgnoreMap

namespace Ignore

/-- **The directories upward from one below the target** are those of the initial names. -/
theorem mem_upward : d ∈ upward dir (dir.below ms) ↔
    ∃ k ≤ ms.length, d = dir.below (ms.take k) := by
  induction ms using List.reverseRecOn with
  | nil =>
    rw [upward, if_pos (.inl (below_nil dir)), List.mem_singleton]
    simp
  | append_singleton ms n ih =>
    have hnot : ¬(dir.below (ms ++ [n]) = dir ∨ (dir.below (ms ++ [n])).names = []) := by simp
    have hall : (ms ++ [n]).take (ms.length + 1) = ms ++ [n] := List.take_of_length_le (by simp)
    rw [upward, if_neg hnot, below_snoc, parent_child, List.mem_cons, ih, List.length_append,
      List.length_singleton]
    constructor
    · rintro (rfl | ⟨k, hk, rfl⟩)
      · exact ⟨ms.length + 1, le_rfl, by rw [hall, below_snoc]⟩
      · exact ⟨k, by omega, by rw [List.take_append_of_le_length hk]⟩
    · rintro ⟨k, hk, rfl⟩
      rcases Nat.lt_or_ge ms.length k with hlt | hle
      · obtain rfl : k = ms.length + 1 := by omega
        exact .inl (by rw [hall, below_snoc])
      · exact .inr ⟨k, hle, by rw [List.take_append_of_le_length hle]⟩

/-- A file is left out just if a pattern of a directory above it, or a given one, matches. -/
theorem ignores_iff {given : List String} {map : IgnoreMap} :
    ignores file target given map ↔ (∃ g ∈ given, Pattern.Matches file g target) ∨
      ∃ d ∈ upward target file.parent, ∃ g ∈ map.get d, Pattern.Matches file g d := by
  unfold ignores reason?
  cases hgiven : given.find? fun g => Pattern.Matches file g target with
  | some g =>
    have hmem := List.mem_of_find?_eq_some hgiven
    have hmatches : Pattern.Matches file g target := by simpa using List.find?_some hgiven
    simp only [Option.isSome_some, true_iff]
    exact .inl ⟨g, hmem, hmatches⟩
  | none =>
    have hnone := List.find?_eq_none.1 hgiven
    simp only [List.isSome_findSome?, List.any_eq_true, Option.isSome_map, List.find?_isSome]
    constructor
    · rintro ⟨d, hd, g, hg, hmatches⟩
      exact .inr ⟨d, hd, g, hg, hmatches⟩
    · rintro (⟨g, hg, hmatches⟩ | ⟨d, hd, g, hg, hmatches⟩)
      · exact absurd hmatches (hnone g hg)
      · exact ⟨d, hd, g, hg, hmatches⟩

end Ignore

namespace Discovery

section Telling

variable {α β : Type} {x : Telling α} {f : α → Telling β} {a : α} {o : Except Fault β} {e : Fault}

/-- What work comes to, whatever has been told before. -/
def ComesTo (x : Telling α) (o : Except Fault α) : Prop := ∀ log, (x.run log).1 = o

/-- What work comes to, and what it tells. -/
def Does (x : Telling α) (o : Except Fault α) (told : Log) : Prop :=
  ∀ log, x.run log = (o, log ++ told)

variable {told told' : Log}

lemma Does.comesTo {o : Except Fault α} (h : Does x o told) : ComesTo x o :=
  fun log => by rw [h log]

lemma does_pure (a : α) : Does (pure a) (.ok a) [] := fun log => by
  rw [List.append_nil]
  rfl

lemma does_throw (e : Fault) : Does (throw e : Telling α) (.error e) [] := fun log => by
  rw [List.append_nil]
  rfl

lemma does_tell (level : Level) (message : String) :
    Does (tell level message) (.ok ()) [⟨level, .discovery, message⟩] := fun _ => rfl

lemma does_modify (records : Log) :
    Does (modify (· ++ records) : Telling Unit) (.ok ()) records := fun _ => rfl

/-- The run of one work after another. -/
lemma run_bind (x : Telling α) (f : α → Telling β) (log : Log) : (x >>= f).run log =
    match x.run log with
    | (.ok a, log') => (f a).run log'
    | (.error e, log') => (.error e, log') := by
  change (ExceptT.bind x f).run log = _
  unfold ExceptT.bind
  change (x.run log >>= fun r => ExceptT.bindCont f r.1 r.2 : Id _) = _
  rcases x.run log with ⟨e | a, log'⟩ <;> rfl

/-- Work that succeeds has succeeded in its first part. -/
lemma exists_of_run_bind {log : Log} {b : β} (h : ((x >>= f).run log).1 = .ok b) :
    ∃ a log', x.run log = (.ok a, log') ∧ ((f a).run log').1 = .ok b := by
  rw [run_bind] at h
  rcases hx : x.run log with ⟨e | a, log'⟩ <;> rw [hx] at h
  · cases h
  · exact ⟨a, log', rfl, h⟩

lemma Does.bind (hx : Does x (.ok a) told) (hf : Does (f a) o told') :
    Does (x >>= f) o (told ++ told') := fun log => by
  rw [run_bind, hx log, ← List.append_assoc]
  exact hf _

lemma Does.bind_error (hx : Does x (.error e) told) : Does (x >>= f) (.error e) told :=
  fun log => by rw [run_bind, hx log]

end Telling

/-! ### Ignore files -/

variable {t : FileTree} {files : List Path}

/-- A pattern is listed in an ignore file: it is what a line of the text has between blanks, and the
line is no comment. -/
def Lists (t : FileTree) (file : Path) (g : String) : Prop :=
  ∃ bytes text line, t.bytes file = .ok bytes ∧ Text.Utf8.decodeBuffered bytes = .ok text ∧
    Text.IsLine line text ∧ Text.IsCore g.toList line ∧ g ≠ "" ∧ g.toList.head? ≠ some '#'

/-- What is read from a file as an ignore file. -/
def listedIn (t : FileTree) (file : Path) : List String :=
  match t.bytes file with
  | .ok bytes =>
    match Text.Utf8.decodeBuffered bytes with
    | .ok cs => patternsIn cs
    | .error _ => []
  | .error _ => []

lemma patternOf?_eq_some_iff {line : List Char} :
    patternOf? line = some g ↔ line = g.toList ∧ g ≠ "" ∧ g.toList.head? ≠ some '#' := by
  constructor
  · intro h
    unfold patternOf? at h
    split at h
    · cases h
    · cases h
    · next hempty hcomment =>
      obtain rfl := Option.some.inj h
      rw [String.toList_ofList]
      refine ⟨rfl, by simpa using hempty, fun hhead => ?_⟩
      obtain ⟨rest, hrest⟩ := List.head?_eq_some_iff.1 hhead
      exact hcomment rest hrest
  · rintro ⟨rfl, hempty, hcomment⟩
    unfold patternOf?
    split
    · next hnil => exact absurd (String.toList_eq_nil_iff.1 hnil) hempty
    · next hhead => exact absurd (by rw [hhead, List.head?_cons]) hcomment
    · rw [String.ofList_toList]

/-- **The patterns in a text** are its lines without blanks around them, but for comments. -/
theorem mem_patternsIn {cs : List Char} : g ∈ patternsIn cs ↔ ∃ line, Text.IsLine line cs ∧
    Text.IsCore g.toList line ∧ g ≠ "" ∧ g.toList.head? ≠ some '#' := by
  unfold patternsIn
  rw [List.mem_filterMap]
  constructor
  · rintro ⟨core, hmem, hg⟩
    obtain ⟨line, hline, rfl⟩ := List.mem_map.1 hmem
    obtain ⟨htrim, hempty, hcomment⟩ := patternOf?_eq_some_iff.1 hg
    have hne : g.toList ≠ [] := mt String.toList_eq_nil_iff.1 hempty
    have hline' : line ≠ [] := by
      rintro rfl
      exact hne htrim.symm
    exact ⟨line, (Text.mem_lines_iff hline').1 hline, (Text.trim_eq_iff hne).1 htrim, hempty,
      hcomment⟩
  · rintro ⟨line, hline, hg, hempty, hcomment⟩
    have hne : g.toList ≠ [] := mt String.toList_eq_nil_iff.1 hempty
    have htrim := (Text.trim_eq_iff hne).2 hg
    have hline' : line ≠ [] := by
      rintro rfl
      exact hne htrim.symm
    exact ⟨_, List.mem_map.2 ⟨line, (Text.mem_lines_iff hline').2 hline, rfl⟩,
      patternOf?_eq_some_iff.2 ⟨htrim, hempty, hcomment⟩⟩

lemma mem_listedIn : g ∈ listedIn t file ↔ Lists t file g := by
  unfold listedIn Lists
  cases hbytes : t.bytes file with
  | error f => simp
  | ok bytes =>
    dsimp only
    cases hdecode : Text.Utf8.decodeBuffered bytes with
    | error f => simp [hdecode]
    | ok cs => simp [hdecode, mem_patternsIn]

/-- A file can be read as an ignore file, if it is a file at all. -/
def Readable (t : FileTree) (file : Path) : Prop :=
  ∀ bytes, t.bytes file = .ok bytes → (Text.Utf8.decodeBuffered bytes).isOk

/-- Why a file is refused as an ignore file. -/
def refusal? (t : FileTree) (file : Path) : Option Text.Utf8.Fault :=
  match t.bytes file with
  | .ok bytes =>
    match Text.Utf8.decodeBuffered bytes with
    | .ok _ => none
    | .error f => some f
  | .error _ => none

lemma refusal?_eq_none_iff : refusal? t file = none ↔ Readable t file := by
  unfold refusal? Readable
  cases t.bytes file with
  | error e => simp
  | ok bytes =>
    cases hdecode : Text.Utf8.decodeBuffered bytes <;>
      simp [hdecode, Except.isOk, Except.toBool]

/-- The warning that an ignore file cannot be opened. -/
def unopened (file : Path) (e : FileTree.Fault) : Record :=
  ⟨.warning, .discovery, s!"Failed to read ignore file {file}: {e.message file}"⟩

/-- An ignore file that cannot be opened has no patterns, and is warned of. -/
lemma readIgnoreFile_unopened {e : FileTree.Fault} (h : t.bytes file = .error e) :
    Does (readIgnoreFile t file) (.ok []) [unopened file e] := by
  unfold readIgnoreFile
  rw [h]
  exact (does_tell _ _).bind (does_pure _)

lemma readIgnoreFile_does (h : Readable t file) :
    ∃ told, Does (readIgnoreFile t file) (.ok (listedIn t file)) told ∧
      ∀ e, t.bytes file = .error e → unopened file e ∈ told := by
  cases hbytes : t.bytes file with
  | error f =>
    refine ⟨[unopened file f], ?_, fun e he => ?_⟩
    · rw [listedIn, hbytes]
      exact readIgnoreFile_unopened hbytes
    · cases he
      exact List.mem_singleton.2 rfl
  | ok bytes =>
    have hok := h bytes hbytes
    refine ⟨[], ?_, by simp⟩
    unfold readIgnoreFile listedIn
    rw [hbytes]
    dsimp only
    cases hdecode : Text.Utf8.decodeBuffered bytes with
    | error f =>
      rw [hdecode] at hok
      cases hok
    | ok cs => exact does_pure _

lemma readIgnoreFile_refuses {f : Text.Utf8.Fault} (h : refusal? t file = some f) :
    Does (readIgnoreFile t file) (.error (.undecodable f)) [] := by
  unfold refusal? at h
  unfold readIgnoreFile
  cases hbytes : t.bytes file with
  | error e =>
    rw [hbytes] at h
    cases h
  | ok bytes =>
    rw [hbytes] at h
    dsimp only at h ⊢
    cases hdecode : Text.Utf8.decodeBuffered bytes with
    | error f' =>
      rw [hdecode] at h
      cases h
      exact does_throw _
    | ok cs =>
      rw [hdecode] at h
      cases h

lemma listedIn_of_not_isFile (h : ¬t.isFile file) : listedIn t file = [] := by
  unfold listedIn FileTree.bytes
  cases hfind : t.find file with
  | error f => rfl
  | ok found =>
    obtain ⟨q, c⟩ := found
    cases c with
    | directory => rfl
    | file bytes => exact absurd (FileTree.isFile_iff.2 ⟨q, _, hfind, by simp⟩) h
    | rule r => exact absurd (FileTree.isFile_iff.2 ⟨q, _, hfind, by simp⟩) h
    | locked => rfl

lemma readable_of_not_isFile (h : ¬t.isFile file) : Readable t file := by
  intro bytes hbytes
  unfold FileTree.bytes at hbytes
  split at hbytes
  · next q _ hfind => exact absurd (FileTree.isFile_iff.2 ⟨q, _, hfind, by simp⟩) h
  · next q _ hfind => exact absurd (FileTree.isFile_iff.2 ⟨q, _, hfind, by simp⟩) h
  · cases hbytes
  · cases hbytes
  · cases hbytes

/-- One ignore file: what it lists is added for its directory. -/
lemma addIgnoreFiles_cons (h : Readable t file) (m : IgnoreMap) (files : List Path) :
    ∃ (m' : IgnoreMap) (told : Log),
      (∀ d g, g ∈ m'.get d ↔ g ∈ m.get d ∨ file.parent = d ∧ g ∈ listedIn t file) ∧
      (t.isFile file → ∀ e, t.bytes file = .error e → unopened file e ∈ told) ∧
      ∀ o told', Does (addIgnoreFiles t m' files) o told' →
        Does (addIgnoreFiles t m (file :: files)) o (told ++ told') := by
  rw [addIgnoreFiles]
  by_cases hfile : t.isFile file
  · rw [if_neg (by simp [hfile])]
    obtain ⟨told, hread, hwarned⟩ := readIgnoreFile_does h
    by_cases hempty : (listedIn t file).isEmpty
    · refine ⟨m, told, fun d g => ?_, fun _ => hwarned, fun o told' ho => hread.bind ?_⟩
      · rw [List.isEmpty_iff.1 hempty]
        simp
      · rwa [if_pos hempty]
    · refine ⟨m.add file.parent (listedIn t file), told ++ [⟨.debug, .discovery,
        s!"Loaded {(listedIn t file).length} pattern(s) from {file}"⟩], fun d g => ?_,
        fun _ e he => List.mem_append_left _ (hwarned e he), fun o told' ho => ?_⟩
      · rw [IgnoreMap.get_add, List.mem_append]
        by_cases hd : d = file.parent
        · simp [hd]
        · simp [hd, Ne.symm hd]
      · rw [List.append_assoc]
        refine hread.bind ?_
        rw [if_neg hempty]
        exact (does_tell _ _).bind ho
  · refine ⟨m, [], fun d g => ?_, fun hfile' => absurd hfile' hfile, fun o told' ho => ?_⟩
    · rw [listedIn_of_not_isFile hfile]
      simp
    · rwa [if_pos (by simp [hfile])]

/-- Ignore files that can be read: the map gets what they list. -/
lemma addIgnoreFiles_does (h : ∀ file ∈ files, Readable t file) (m : IgnoreMap) :
    ∃ (m' : IgnoreMap) (told : Log), Does (addIgnoreFiles t m files) (.ok m') told ∧
      (∀ d g, g ∈ m'.get d ↔
        g ∈ m.get d ∨ ∃ file ∈ files, file.parent = d ∧ g ∈ listedIn t file) ∧
      ∀ file ∈ files, t.isFile file → ∀ e, t.bytes file = .error e → unopened file e ∈ told := by
  induction files generalizing m with
  | nil => exact ⟨m, [], does_pure m, by simp, by simp⟩
  | cons file files ih =>
    obtain ⟨hfile, hfiles⟩ := List.forall_mem_cons.1 h
    obtain ⟨m₁, told₁, hget, hwarned, hstep⟩ := addIgnoreFiles_cons hfile m files
    obtain ⟨m₂, told₂, hrest, hget', hwarned'⟩ := ih hfiles m₁
    refine ⟨m₂, _, hstep _ _ hrest, fun d g => ?_, List.forall_mem_cons.2 ⟨?_, ?_⟩⟩
    · rw [hget', hget, or_assoc, List.exists_mem_cons_iff]
    · exact fun hpresent e he => List.mem_append_left _ (hwarned hpresent e he)
    · exact fun file' hfile' hpresent e he =>
        List.mem_append_right _ (hwarned' file' hfile' hpresent e he)

/-- **The first ignore file that is refused ends the work.** -/
theorem addIgnoreFiles_refuses {f : Text.Utf8.Fault} (h : files.findSome? (refusal? t) = some f)
    (m : IgnoreMap) :
    ∃ told, Does (addIgnoreFiles t m files) (.error (.undecodable f)) told := by
  induction files generalizing m with
  | nil => simp at h
  | cons file files ih =>
    rw [List.findSome?_cons] at h
    cases hfile : refusal? t file with
    | none =>
      rw [hfile] at h
      obtain ⟨m', told, -, -, hstep⟩ :=
        addIgnoreFiles_cons (refusal?_eq_none_iff.1 hfile) m files
      obtain ⟨told', hrest⟩ := ih h m'
      exact ⟨_, hstep _ _ hrest⟩
    | some f' =>
      rw [hfile] at h
      cases h
      have hpresent : t.isFile file := by
        by_contra hnot
        rw [refusal?_eq_none_iff.2 (readable_of_not_isFile hnot)] at hfile
        cases hfile
      rw [addIgnoreFiles, if_neg (by simp [hpresent])]
      exact ⟨_, (readIgnoreFile_refuses hfile).bind_error⟩

/-- The name of ignore files, and the pattern that finds them at all levels. -/
def ignoreName : String := ".templintignore"

def ignorePattern : String := "**/.templintignore"

/-- The ignore files at all levels below a directory, in order. -/
def ignoreFiles (t : FileTree) (dir : Path) : List Path :=
  if t.isDirectory dir then sort (t.select [.everywhere, .exact ignoreName] false dir) else []

lemma glob_ignorePattern (t : FileTree) (dir : Path) :
    t.glob dir ignorePattern = .ok (ignoreFiles t dir) := by
  have hpattern : FileTree.GlobPattern.ofString ignorePattern =
      .ok ⟨[.everywhere, .exact ignoreName], false⟩ := rfl
  unfold FileTree.glob
  rw [hpattern]
  rfl

/-- The ignore files below a directory: where there is one, at any level. -/
lemma mem_ignoreFiles : file ∈ ignoreFiles t dir ↔
    ∃ ns, Downward ns ∧ file = (dir.below ns).child ignoreName ∧ t.holds file := by
  unfold ignoreFiles
  by_cases hdir : t.isDirectory dir
  · rw [if_pos hdir, mem_sort, FileTree.mem_select_everywhere hdir]
  · rw [if_neg hdir]
    refine ⟨fun h => absurd h List.not_mem_nil, ?_⟩
    rintro ⟨ns, -, rfl, hholds⟩
    rw [← below_snoc] at hholds
    have hholds' : t.holds (dir.below ([] ++ (ns ++ [ignoreName]))) := hholds
    have habove := FileTree.isDirectory_of_holds (by simp) hholds'
    rw [below_nil] at habove
    exact absurd habove hdir

/-- No ignore file is refused if all that there could be can be read. -/
lemma findSome?_refusal_eq_none_iff : (ignoreFiles t dir).findSome? (refusal? t) = none ↔
    ∀ ns, Downward ns → Readable t ((dir.below ns).child ignoreName) := by
  simp only [List.findSome?_eq_none_iff, refusal?_eq_none_iff]
  constructor
  · intro h ns hns
    by_cases hholds : t.holds ((dir.below ns).child ignoreName)
    · exact h _ (mem_ignoreFiles.2 ⟨ns, hns, rfl, hholds⟩)
    · exact readable_of_not_isFile fun hfile => hholds (FileTree.holds_of_isFile hfile)
  · intro h file hfile
    obtain ⟨ns, hns, rfl, -⟩ := mem_ignoreFiles.1 hfile
    exact h ns hns

lemma findIgnoreFiles_eq (hdir : t.isDirectory dir) : findIgnoreFiles t dir [ignorePattern] =
    addIgnoreFiles t [] (ignoreFiles t dir) >>= pure := by
  unfold findIgnoreFiles
  rw [if_neg (by simp [hdir]), List.foldlM_cons, glob_ignorePattern]
  rfl

/-- What is told warns of every ignore file below a directory that cannot be opened. -/
def Warns (t : FileTree) (dir : Path) (told : Log) : Prop :=
  ∀ ns, Downward ns → t.isFile ((dir.below ns).child ignoreName) →
    ∀ e, t.bytes ((dir.below ns).child ignoreName) = .error e →
      unopened ((dir.below ns).child ignoreName) e ∈ told

/-- **The map of ignore files** has for each directory what its ignore file lists. -/
theorem findIgnoreFiles_does (hdir : t.isDirectory dir)
    (h : ∀ ns, Downward ns → Readable t ((dir.below ns).child ignoreName)) :
    ∃ (m : IgnoreMap) (told : Log), Does (findIgnoreFiles t dir [ignorePattern]) (.ok m) told ∧
      (∀ ns, Downward ns → ∀ g, g ∈ m.get (dir.below ns) ↔
        Lists t ((dir.below ns).child ignoreName) g) ∧ Warns t dir told := by
  have hreadable : ∀ file ∈ ignoreFiles t dir, Readable t file := by
    intro file hfile
    obtain ⟨ns, hns, rfl, -⟩ := mem_ignoreFiles.1 hfile
    exact h ns hns
  have hown : ∀ ns, Downward ns → t.isFile ((dir.below ns).child ignoreName) →
      (dir.below ns).child ignoreName ∈ ignoreFiles t dir := fun ns hns hfile =>
    mem_ignoreFiles.2 ⟨ns, hns, rfl, FileTree.holds_of_isFile hfile⟩
  obtain ⟨m, told, hm, hget, hwarned⟩ := addIgnoreFiles_does hreadable []
  refine ⟨m, told, ?_, fun ns hns g => ?_, fun ns hns hfile e he =>
    hwarned _ (hown ns hns hfile) hfile e he⟩
  · rw [findIgnoreFiles_eq hdir, ← List.append_nil told]
    exact hm.bind (does_pure m)
  · rw [hget, ← mem_listedIn]
    constructor
    · rintro (hnone | ⟨file, hfile, hparent, hg⟩)
      · cases hnone
      · obtain ⟨ms, -, rfl, -⟩ := mem_ignoreFiles.1 hfile
        rw [parent_child] at hparent
        rwa [← hparent]
    · intro hg
      refine .inr ⟨(dir.below ns).child ignoreName, hown ns hns ?_, parent_child _ _, hg⟩
      by_contra hfile
      rw [listedIn_of_not_isFile hfile] at hg
      cases hg

/-- An ignore file that is refused, at any level, ends the search. -/
lemma findIgnoreFiles_refuses {f : Text.Utf8.Fault} (hdir : t.isDirectory dir)
    (h : (ignoreFiles t dir).findSome? (refusal? t) = some f) :
    ∃ told, Does (findIgnoreFiles t dir [ignorePattern]) (.error (.undecodable f)) told := by
  obtain ⟨told, hrefused⟩ := addIgnoreFiles_refuses h []
  rw [findIgnoreFiles_eq hdir]
  exact ⟨told, hrefused.bind_error⟩

/-- **What is kept are the files that are not left out**, in their order. -/
theorem keep_does (s : Settings) (target : Path) (m : IgnoreMap) (files : List Path) :
    ∃ told, Does (keep s target m files)
      (.ok (files.filter fun file => !Ignore.ignores file target s.ignorePatterns m)) told := by
  induction files with
  | nil => exact ⟨[], does_pure []⟩
  | cons file files ih =>
    obtain ⟨told, hkeep⟩ := ih
    rw [keep, List.filter_cons]
    unfold Ignore.ignores
    cases Ignore.reason? file target s.ignorePatterns m with
    | none => exact ⟨_, hkeep.bind (does_pure _)⟩
    | some r => exact ⟨_, (does_modify _).bind hkeep⟩

/-! ### Where the files lie -/

/-- **Everything that is collected lies below the directory that it is named from**, whatever the
settings. -/
theorem below_of_collect {s : Settings} {log : Log}
    (h : ((collect t s target).run log).1 = .ok files) :
    ∀ p ∈ files, ∃ ns, p = (if t.isDirectory target then target else target.parent).below ns := by
  unfold collect at h
  split_ifs at h with hfile hdir
  · -- a single file
    obtain ⟨m, log', -, h⟩ := exists_of_run_bind h
    obtain ⟨told, hkeep⟩ := keep_does s target.parent m [target]
    obtain ⟨kept, log'', hrun, h⟩ := exists_of_run_bind h
    rw [hkeep log'] at hrun
    cases hrun
    have hfiles : [target].filter (fun file =>
        !Ignore.ignores file target.parent s.ignorePatterns m) = files := by
      split_ifs at h <;> exact Except.ok.inj h
    intro p hp
    rw [← hfiles] at hp
    obtain rfl := List.mem_singleton.1 (List.mem_filter.1 hp).1
    rw [if_neg fun hdir => FileTree.not_isDirectory_of_isFile hfile hdir]
    exact exists_below_parent p
  · cases h
    simp
  · have hdir' : t.isDirectory target := by simpa using hdir
    obtain ⟨m, log', -, h⟩ := exists_of_run_bind h
    obtain ⟨told, hkeep⟩ := keep_does s target m
      ((t.filesBelow target).filter fun f => isTemplate f s.templateSuffixes)
    obtain ⟨kept, log'', hrun, h⟩ := exists_of_run_bind h
    rw [hkeep log'] at hrun
    cases hrun
    obtain rfl := Except.ok.inj h
    intro p hp
    have hbelow := (List.mem_filter.1 (List.mem_filter.1 hp).1).1
    obtain ⟨ns, -, rfl, -⟩ := (FileTree.mem_filesBelow hdir').1 hbelow
    exact ⟨ns, by rw [if_pos hdir']⟩

end Discovery

end TemplateLint
