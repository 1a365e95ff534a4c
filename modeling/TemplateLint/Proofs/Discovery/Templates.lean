import Mathlib
import TemplateLint.Proofs.Discovery.Ignore
import TemplateLint.Proofs.Path.Text

/-!
The templates of a directory.

The templates that are collected below a directory are the files there that have a suffix of a
template and that no pattern leaves out, in the order of their paths. The order in which entries are
listed plays no part, an ignore file has an effect on what lies below its own directory only, and
with more patterns there are not more templates. Main statement: `collect_exact`.
-/

namespace TemplateLint

open TemplateLint.Path

namespace Discovery

variable {t t' : FileTree} {s : Settings} {dir p q : Path} {ns ms : List String} {c : Content}
  {files : List Path}

/-- The names lead from a directory to a template that no pattern leaves out. -/
structure Chosen (t : FileTree) (s : Settings) (dir : Path) (ns : List String) : Prop where
  downward : Downward ns
  isFile : t.isFile (dir.below ns)
  /-- Its name has one of the suffixes, up to case. -/
  suffix : ∃ x ∈ s.templateSuffixes, ∃ y, IsSuffix y (dir.below ns).name ∧
    Text.lowered x = Text.lowered y
  /-- No pattern that is given matches, as seen from the directory. -/
  given : ∀ g ∈ s.ignorePatterns, ¬Pattern.Matches (dir.below ns) g dir
  /-- No pattern matches that an ignore file lists between the directory and the template, as seen
  from the directory of the ignore file. -/
  listed : ∀ k < ns.length, ∀ g, Lists t ((dir.below (ns.take k)).child ignoreName) g →
    ¬Pattern.Matches (dir.below ns) g (dir.below (ns.take k))

lemma isTemplate_iff {file : Path} {suffixes : List String} : isTemplate file suffixes ↔
    ∃ x ∈ suffixes, ∃ y, IsSuffix y file.name ∧ Text.lowered x = Text.lowered y := by
  simp [isTemplate, isSuffix_iff]

/-- A file below a directory is left out if a given pattern matches it or a listed one. -/
lemma not_ignores_iff {m : IgnoreMap} (hns : Downward ns) (hne : ns ≠ [])
    (hm : ∀ ms, Downward ms → ∀ g, g ∈ m.get (dir.below ms) ↔
      Lists t ((dir.below ms).child ignoreName) g) :
    ¬Ignore.ignores (dir.below ns) dir s.ignorePatterns m ↔
      (∀ g ∈ s.ignorePatterns, ¬Pattern.Matches (dir.below ns) g dir) ∧
      ∀ k < ns.length, ∀ g, Lists t ((dir.below (ns.take k)).child ignoreName) g →
        ¬Pattern.Matches (dir.below ns) g (dir.below (ns.take k)) := by
  obtain ⟨ms, n, rfl⟩ := (List.eq_nil_or_concat ns).resolve_left hne
  rw [List.concat_eq_append] at hns ⊢
  have htake : ∀ k ≤ ms.length, (ms ++ [n]).take k = ms.take k := fun k hk =>
    List.take_append_of_le_length hk
  have hdown : ∀ k, Downward (ms.take k) := fun k n hn =>
    hns n (List.mem_append.2 (.inl (List.mem_of_mem_take hn)))
  rw [Ignore.ignores_iff, below_snoc, parent_child, ← below_snoc, not_or]
  push Not
  refine and_congr_right fun _ => ?_
  constructor
  · intro h k hk g hg
    rw [List.length_append, List.length_singleton] at hk
    have hk' : k ≤ ms.length := by omega
    rw [htake k hk'] at hg ⊢
    simpa using h _ (Ignore.mem_upward.2 ⟨k, hk', rfl⟩) g ((hm _ (hdown k) g).2 hg)
  · intro h d hd g hg
    obtain ⟨k, hk, rfl⟩ := Ignore.mem_upward.1 hd
    have hlength : k < (ms ++ [n]).length := by
      rw [List.length_append, List.length_singleton]
      omega
    have hlisted := h k hlength g
    rw [htake k hk] at hlisted
    simpa using hlisted ((hm _ (hdown k) g).1 hg)

/-- **What is collected** if all ignore files can be read. -/
theorem collect_does (ht : t.Sound) (hs : s.ignoreFilePatterns = [ignorePattern])
    (hdir : t.isDirectory dir)
    (h : ∀ ns, Downward ns → Readable t ((dir.below ns).child ignoreName)) :
    ∃ files told, Does (collect t s dir) (.ok files) told ∧
      (files.Pairwise fun p q => p.parts < q.parts) ∧
      (∀ p, p ∈ files ↔ ∃ ns, p = dir.below ns ∧ Chosen t s dir ns) ∧ Warns t dir told := by
  obtain ⟨m, warned, hm, hget, hwarned⟩ := findIgnoreFiles_does hdir h
  have hnot : ¬t.isFile dir := fun hfile => FileTree.not_isDirectory_of_isFile hfile hdir
  set found := (t.filesBelow dir).filter fun file => isTemplate file s.templateSuffixes
  obtain ⟨told, hkeep⟩ := keep_does s dir m found
  set files := found.filter fun file => !Ignore.ignores file dir s.ignorePatterns m
  have hcollect : ∃ told', Does (collect t s dir) (.ok files) (warned ++ told') := by
    unfold collect
    rw [if_neg hnot, if_neg (by simp [hdir]), hs]
    exact ⟨_, hm.bind (hkeep.bind ((does_tell _ _).bind (does_pure _)))⟩
  obtain ⟨told', hcollect⟩ := hcollect
  refine ⟨files, _, hcollect, ?_, fun p => ?_,
    fun ns hns hfile e he => List.mem_append_left _ (hwarned ns hns hfile e he)⟩
  · exact ((FileTree.pairwise_filesBelow ht hdir).filter _).filter _
  · rw [List.mem_filter, List.mem_filter, FileTree.mem_filesBelow hdir, Bool.not_eq_true',
      ← Bool.not_eq_true]
    have hne : ∀ ns, t.isFile (dir.below ns) → ns ≠ [] := by
      rintro ns hfile rfl
      rw [below_nil] at hfile
      exact hnot hfile
    constructor
    · rintro ⟨⟨⟨ns, hns, rfl, hfile⟩, hsuffix⟩, hkept⟩
      obtain ⟨hgiven, hlisted⟩ := (not_ignores_iff hns (hne ns hfile) hget).1 hkept
      exact ⟨ns, rfl, hns, hfile, isTemplate_iff.1 hsuffix, hgiven, hlisted⟩
    · rintro ⟨ns, rfl, hns, hfile, hsuffix, hgiven, hlisted⟩
      exact ⟨⟨⟨ns, hns, rfl, hfile⟩, isTemplate_iff.2 hsuffix⟩,
        (not_ignores_iff hns (hne ns hfile) hget).2 ⟨hgiven, hlisted⟩⟩

lemma collect_directory_refuses {f : Text.Utf8.Fault} (hs : s.ignoreFilePatterns = [ignorePattern])
    (hdir : t.isDirectory dir) (h : (ignoreFiles t dir).findSome? (refusal? t) = some f) :
    ∃ told, Does (collect t s dir) (.error (.undecodable f)) told := by
  have hnot : ¬t.isFile dir := fun hfile => FileTree.not_isDirectory_of_isFile hfile hdir
  unfold collect
  rw [if_neg hnot, if_neg (by simp [hdir]), hs]
  obtain ⟨told, hrefused⟩ := findIgnoreFiles_refuses hdir h
  exact ⟨told, hrefused.bind_error⟩

/-- **When templates are collected**: if no ignore file below the directory is refused. -/
theorem readable_of_collect (hs : s.ignoreFilePatterns = [ignorePattern])
    (hdir : t.isDirectory dir) {log : Log} (h : ((collect t s dir).run log).1 = .ok files) :
    ∀ ns, Downward ns → Readable t ((dir.below ns).child ignoreName) := by
  rw [← findSome?_refusal_eq_none_iff]
  cases hrefused : (ignoreFiles t dir).findSome? (refusal? t) with
  | none => rfl
  | some f =>
    obtain ⟨told, hcollect⟩ := collect_directory_refuses hs hdir hrefused
    rw [hcollect log] at h
    cases h

/-- The templates that are collected are those that are chosen, in the order of their paths. -/
lemma chosen_of_collect (ht : t.Sound) (hs : s.ignoreFilePatterns = [ignorePattern])
    (hdir : t.isDirectory dir) {log : Log} (h : ((collect t s dir).run log).1 = .ok files) :
    (files.Pairwise fun p q => p.parts < q.parts) ∧
      ∀ p, p ∈ files ↔ ∃ ns, p = dir.below ns ∧ Chosen t s dir ns := by
  obtain ⟨files', told, hcollect, hordered, hmem, -⟩ :=
    collect_does ht hs hdir (readable_of_collect hs hdir h)
  rw [hcollect log] at h
  cases h
  exact ⟨hordered, hmem⟩

/-! ### The order of the entries -/

section

variable (hfind : ∀ p, t'.find p = t.find p)

include hfind

lemma readIgnoreFile_congr (file : Path) : readIgnoreFile t' file = readIgnoreFile t file := by
  unfold readIgnoreFile
  rw [FileTree.bytes_congr hfind]

lemma addIgnoreFiles_congr (m : IgnoreMap) (files : List Path) :
    addIgnoreFiles t' m files = addIgnoreFiles t m files := by
  induction files generalizing m with
  | nil => rfl
  | cons file files ih =>
    rw [addIgnoreFiles, addIgnoreFiles, FileTree.isFile_congr hfind, readIgnoreFile_congr hfind]
    simp only [ih]

/-- **The order in which entries are listed plays no part** in what is collected and told. -/
lemma collect_congr (ht : t.Sound) (ht' : t'.Sound) (hs : s.ignoreFilePatterns = [ignorePattern])
    (hdir : t.isDirectory dir) : collect t' s dir = collect t s dir := by
  have hdir' : t'.isDirectory dir := by rwa [FileTree.isDirectory_congr hfind]
  have hnot : ¬t.isFile dir := fun hfile => FileTree.not_isDirectory_of_isFile hfile hdir
  have hglob : t'.glob dir ignorePattern = t.glob dir ignorePattern := by
    rw [glob_ignorePattern, glob_ignorePattern, ignoreFiles, ignoreFiles, if_pos hdir, if_pos hdir']
    refine congrArg _ (sort_eq_of_same (a := dir.anchor)
      (FileTree.nodup_select_everywhere _ _ _) (FileTree.nodup_select_everywhere _ _ _)
      (fun q hq => ?_) fun q => ?_)
    · obtain ⟨ns, -, rfl, -⟩ := (FileTree.mem_select_everywhere hdir').1 hq
      rfl
    · rw [FileTree.mem_select_everywhere hdir, FileTree.mem_select_everywhere hdir']
      simp only [FileTree.holds, hfind]
  have hmap : findIgnoreFiles t' dir [ignorePattern] = findIgnoreFiles t dir [ignorePattern] := by
    unfold findIgnoreFiles
    simp only [FileTree.isDirectory_congr hfind, List.foldlM_cons, List.foldlM_nil, hglob,
      addIgnoreFiles_congr hfind]
  unfold collect
  rw [FileTree.isFile_congr hfind, if_neg hnot, if_neg hnot, FileTree.isDirectory_congr hfind, hs,
    hmap, FileTree.filesBelow_congr ht ht' hfind hdir]

end

/-! ### More patterns -/

/-- A template that is chosen stays so where no more patterns are listed for it. -/
lemma Chosen.of_subset (h : Chosen t s dir ns) (hfile : t'.isFile (dir.below ns))
    (hlisted : ∀ k < ns.length, ∀ g, Lists t' ((dir.below (ns.take k)).child ignoreName) g →
      Lists t ((dir.below (ns.take k)).child ignoreName) g) : Chosen t' s dir ns :=
  ⟨h.downward, hfile, h.suffix, h.given, fun k hk g hg => h.listed k hk g (hlisted k hk g hg)⟩

/-- Two trees have the same under a path. -/
def SameAt (t t' : FileTree) (p : Path) : Prop :=
  ∀ q c, t'.find p = .ok (q, c) ↔ t.find p = .ok (q, c)

namespace SameAt

lemma bytes_eq_ok_iff (h : SameAt t t' p) {bytes : List UInt8} :
    t'.bytes p = .ok bytes ↔ t.bytes p = .ok bytes := by
  unfold FileTree.bytes
  cases hfind : t.find p with
  | ok found =>
    have hfind' : t'.find p = .ok found := (h found.1 found.2).2 hfind
    rw [hfind']
  | error e =>
    cases hfind' : t'.find p with
    | ok found =>
      have hsame : t.find p = .ok found := (h found.1 found.2).1 hfind'
      rw [hfind] at hsame
      cases hsame
    | error e' => simp

lemma isFile_iff (h : SameAt t t' p) : t'.isFile p ↔ t.isFile p := by
  simp only [FileTree.isFile_iff, h _ _]

lemma lists_iff (h : SameAt t t' p) {g : String} : Lists t' p g ↔ Lists t p g := by
  simp only [Lists, h.bytes_eq_ok_iff]

lemma readable_iff (h : SameAt t t' p) : Readable t' p ↔ Readable t p := by
  simp only [Readable, h.bytes_eq_ok_iff]

end SameAt

lemma downward_snoc (hns : Downward ns) : Downward (ns ++ [ignoreName]) :=
  downward_append.2 ⟨hns, downward_singleton.2 (by decide)⟩

/-- An ignore file that is put into the tree changes what is there, and nothing else. -/
lemma place_ignoreFile (ht : t.Sound) (hdir : t.isDirectory dir) (hms : Downward ms)
    {new : Content} (hnew : new ≠ .directory)
    (h : t.place ((dir.below ms).child ignoreName) new = .ok t') :
    t'.Sound ∧ t'.isDirectory dir ∧
      ∀ ns, Downward ns → ns ≠ ms ++ [ignoreName] → SameAt t t' (dir.below ns) := by
  obtain ⟨d, hd, hplace, rfl⟩ := FileTree.eq_set_of_place (by decide) h
  obtain ⟨top, htop⟩ := FileTree.isDirectory_iff.1 hdir
  have hd' : d = top.below ms := FileTree.place_below htop hms hd
  have hq : (d.child ignoreName).names ≠ [] := by simp
  refine ⟨FileTree.sound_set ht _ _,
    FileTree.isDirectory_iff.2 ⟨top, (FileTree.leadsTo_set hnew hq hplace).2 htop⟩,
    fun ns hns hne => ?_⟩
  have hother : top.below ns ≠ d.child ignoreName := by
    rw [hd', ← below_snoc]
    exact fun heq => hne (top.below_injective heq)
  exact fun q c => FileTree.find_set_below hnew hq hplace htop hns hother

lemma sameAt_elsewhere (hns : Downward ns)
    (h : ∀ ns, Downward ns → ns ≠ ms ++ [ignoreName] → SameAt t t' (dir.below ns))
    (hne : ns ≠ ms) : SameAt t t' ((dir.below ns).child ignoreName) := by
  rw [← below_snoc]
  exact h _ (downward_snoc hns) fun heq => hne (List.append_cancel_right heq)

lemma downward_take (hns : Downward ns) (k : Nat) : Downward (ns.take k) :=
  fun n hn => hns n (List.mem_of_mem_take hn)

/-- What is to be known of the templates that are collected below a directory. -/
structure Exact (t : FileTree) (s : Settings) (dir : Path) (files : List Path) : Prop where
  ordered : files.Pairwise fun p q => p.parts < q.parts
  once : files.Nodup
  mem : ∀ p, p ∈ files ↔ ∃ ns, p = dir.below ns ∧ Chosen t s dir ns
  /-- An ignore file that is put into the tree has no effect on files outside of its directory. -/
  outside : ∀ ms new t' log files', Downward ms → new ≠ .directory →
    t.place ((dir.below ms).child ignoreName) new = .ok t' →
    ((collect t' s dir).run log).1 = .ok files' →
    ∀ p, p.relativeTo? (dir.below ms) = none → (p ∈ files' ↔ p ∈ files)
  /-- With more patterns in an ignore file no file is added. -/
  moreListed : ∀ ms new t' log files', Downward ms → new ≠ .directory →
    t.place ((dir.below ms).child ignoreName) new = .ok t' →
    (∀ g, Lists t ((dir.below ms).child ignoreName) g →
      Lists t' ((dir.below ms).child ignoreName) g) →
    ((collect t' s dir).run log).1 = .ok files' → ∀ p ∈ files', t.isFile p → p ∈ files
  /-- With more patterns given no file is added. -/
  moreGiven : ∀ gs log files', s.ignorePatterns ⊆ gs →
    ((collect t { s with ignorePatterns := gs } dir).run log).1 = .ok files' → files' ⊆ files

/-- The templates that are chosen are exactly those that have to be. -/
lemma exact_of_chosen (ht : t.Sound) (hs : s.ignoreFilePatterns = [ignorePattern])
    (hdir : t.isDirectory dir) (hordered : files.Pairwise fun p q => p.parts < q.parts)
    (hmem : ∀ p, p ∈ files ↔ ∃ ns, p = dir.below ns ∧ Chosen t s dir ns) :
    Exact t s dir files where
  ordered := hordered
  once := hordered.imp fun {p q} (hlt : p.parts < q.parts) (heq : p = q) =>
    lt_irrefl p.parts (heq ▸ hlt)
  mem := hmem
  outside ms new t' log files' hms hnew hplace hcollect p hp := by
    obtain ⟨ht', hdir', hsame⟩ := place_ignoreFile ht hdir hms hnew hplace
    have hmem' := (chosen_of_collect ht' hs hdir' hcollect).2
    rw [hmem, hmem']
    have houtside : ∀ ns, p = dir.below ns → ∀ rest, ns ≠ ms ++ rest := by
      rintro ns rfl rest rfl
      exact relativeTo?_eq_none_iff.1 hp rest (below_append dir ms rest)
    have htake : ∀ ns, p = dir.below ns → ∀ k, ns.take k ≠ ms := by
      rintro ns hns k rfl
      exact houtside ns hns (ns.drop k) (List.take_append_drop k ns).symm
    refine exists_congr fun ns => and_congr_right fun hns => ?_
    constructor
    · intro h
      have hfile := (hsame ns h.downward (houtside ns hns _)).isFile_iff
      exact h.of_subset (hfile.1 h.isFile) fun k _ g =>
        (sameAt_elsewhere (downward_take h.downward k) hsame (htake ns hns k)).lists_iff.2
    · intro h
      have hfile := (hsame ns h.downward (houtside ns hns _)).isFile_iff
      exact h.of_subset (hfile.2 h.isFile) fun k _ g =>
        (sameAt_elsewhere (downward_take h.downward k) hsame (htake ns hns k)).lists_iff.1
  moreListed ms new t' log files' hms hnew hplace hmore hcollect p hp hfile := by
    obtain ⟨ht', hdir', hsame⟩ := place_ignoreFile ht hdir hms hnew hplace
    obtain ⟨ns, rfl, h⟩ := ((chosen_of_collect ht' hs hdir' hcollect).2 p).1 hp
    refine (hmem _).2 ⟨ns, rfl, h.of_subset hfile fun k _ g hg => ?_⟩
    by_cases htake : ns.take k = ms
    · rw [htake] at hg ⊢
      exact hmore g hg
    · exact (sameAt_elsewhere (downward_take h.downward k) hsame htake).lists_iff.2 hg
  moreGiven gs log files' hgs hcollect p hp := by
    obtain ⟨ns, rfl, h⟩ := ((chosen_of_collect ht (s := { s with ignorePatterns := gs }) hs hdir
      hcollect).2 p).1 hp
    exact (hmem _).2 ⟨ns, rfl, h.downward, h.isFile, h.suffix, fun g hg => h.given g (hgs hg),
      h.listed⟩

/-- **Discovery is exact.** For every tree and every directory in it, and with the default pattern
for ignore files: the order of the entries plays no part, templates are collected just if all ignore
files below the directory can be read, and then they are exactly the files that are chosen, in
their order. -/
theorem collect_exact (t : FileTree) (ht : t.Sound) (s : Settings)
    (hs : s.ignoreFilePatterns = ({} : Settings).ignoreFilePatterns) (dir : Path)
    (hdir : t.isDirectory dir) :
    (∀ t' : FileTree, t'.entries.Perm t.entries → collect t' s dir = collect t s dir) ∧
    ((∃ files, ComesTo (collect t s dir) (.ok files)) ↔
      ∀ ns, Downward ns → Readable t ((dir.below ns).child ignoreName)) ∧
    ∀ log files, ((collect t s dir).run log).1 = .ok files → Exact t s dir files := by
  have hs' : s.ignoreFilePatterns = [ignorePattern] := hs
  refine ⟨fun t' hperm => ?_, ⟨?_, fun h => ?_⟩, fun log files h => ?_⟩
  · exact collect_congr (FileTree.find_eq_of_perm ht hperm) ht (FileTree.sound_of_perm ht hperm)
      hs' hdir
  · rintro ⟨files, hfiles⟩
    exact readable_of_collect hs' hdir (hfiles [])
  · obtain ⟨files, told, hfiles, -⟩ := collect_does ht hs' hdir h
    exact ⟨files, hfiles.comesTo⟩
  · obtain ⟨hordered, hmem⟩ := chosen_of_collect ht hs' hdir h
    exact exact_of_chosen ht hs' hdir hordered hmem

lemma readable_of_entries (ht : t.Sound) (hdir : t.isDirectory dir)
    (h : ∀ q bytes, (q, Content.file bytes) ∈ t.entries → q.name = ignoreName →
      (Text.Utf8.decodeBuffered bytes).isOk) (hns : Downward ns) :
    Readable t ((dir.below ns).child ignoreName) := by
  intro bytes hbytes
  unfold FileTree.bytes at hbytes
  split at hbytes
  · next q bytes' hfind =>
    cases hbytes
    obtain ⟨top, htop⟩ := FileTree.isDirectory_iff.1 hdir
    rw [← below_snoc] at hfind
    have hq := FileTree.place_below htop (downward_snoc hns) hfind
    have hplace : t.follow q [] = .ok (q, .file bytes) := FileTree.follow_place hfind
    rw [hq, below_snoc, FileTree.follow_nil_child] at hplace
    cases hat : t.at? ((top.below ns).child ignoreName) with
    | none =>
      rw [hat] at hplace
      cases hplace
    | some c =>
      rw [hat] at hplace
      cases hplace
      exact h _ bytes ((FileTree.at?_eq_some_iff ht).1 hat) (name_child _ _)
  · cases hbytes
    rfl
  · cases hbytes
  · cases hbytes
  · cases hbytes

/-- A directory with two templates, a text, and an ignore file. -/
def ignoringFiles (bytes : List UInt8) : FileTree := ⟨[(⟨.here, ["t"]⟩, .directory),
  (⟨.here, ["t", "b.html"]⟩, .file []), (⟨.here, ["t", "a.html"]⟩, .file []),
  (⟨.here, ["t", "notes.txt"]⟩, .file []), (⟨.here, ["t", ignoreName]⟩, .file bytes)]⟩

lemma ignoringFiles_has (bytes : List UInt8) : (ignoringFiles bytes).isDirectory ⟨.here, ["t"]⟩ ∧
    (ignoringFiles bytes).isFile ⟨.here, ["t", "a.html"]⟩ ∧
    (ignoringFiles bytes).isFile ⟨.here, ["t", "notes.txt"]⟩ ∧
    (ignoringFiles bytes).bytes ⟨.here, ["t", ignoreName]⟩ = .ok bytes := by
  have hdir : (ignoringFiles bytes).LeadsTo ⟨.here, ["t"]⟩ ⟨.here, ["t"]⟩ :=
    FileTree.find_child_of_at? (FileTree.leadsTo_here _) (by decide) rfl
  have hfile : (ignoringFiles bytes).find ⟨.here, ["t", "a.html"]⟩ =
      .ok (⟨.here, ["t", "a.html"]⟩, .file []) :=
    FileTree.find_child_of_at? hdir (by decide) rfl
  have hnotes : (ignoringFiles bytes).find ⟨.here, ["t", "notes.txt"]⟩ =
      .ok (⟨.here, ["t", "notes.txt"]⟩, .file []) :=
    FileTree.find_child_of_at? hdir (by decide) rfl
  have hignore : (ignoringFiles bytes).find ⟨.here, ["t", ignoreName]⟩ =
      .ok (⟨.here, ["t", ignoreName]⟩, .file bytes) :=
    FileTree.find_child_of_at? hdir (by decide) rfl
  exact ⟨FileTree.isDirectory_iff.2 ⟨_, hdir⟩,
    FileTree.isFile_iff.2 ⟨_, _, hfile, Content.noConfusion⟩,
    FileTree.isFile_iff.2 ⟨_, _, hnotes, Content.noConfusion⟩, by rw [FileTree.bytes, hignore]⟩

lemma sound_ignoringFiles (bytes : List UInt8) : (ignoringFiles bytes).Sound := by
  have hpaths : [(⟨.here, ["t"]⟩ : Path), ⟨.here, ["t", "b.html"]⟩, ⟨.here, ["t", "a.html"]⟩,
    ⟨.here, ["t", "notes.txt"]⟩, ⟨.here, ["t", ignoreName]⟩].Nodup := by decide
  exact hpaths

lemma readable_ignoringFiles {bytes : List UInt8} (h : (Text.Utf8.decodeBuffered bytes).isOk)
    (hns : Downward ns) :
    Readable (ignoringFiles bytes) (((⟨.here, ["t"]⟩ : Path).below ns).child ignoreName) := by
  refine readable_of_entries (sound_ignoringFiles bytes) (ignoringFiles_has bytes).1
    (fun q bytes' hmem hname => ?_) hns
  simp only [ignoringFiles, List.mem_cons, Prod.mk.injEq, reduceCtorEq, and_false,
    Content.file.injEq, List.not_mem_nil, or_false, false_or] at hmem
  rcases hmem with ⟨rfl, rfl⟩ | ⟨rfl, rfl⟩ | ⟨rfl, rfl⟩ | ⟨rfl, rfl⟩
  · exact absurd hname (by decide)
  · exact absurd hname (by decide)
  · exact absurd hname (by decide)
  · exact h

/-- Of the two templates the one is left out that the ignore file names, and the text is none. -/
theorem collect_exact_ignoring :
    let t := ignoringFiles (Text.Utf8.encode "b.html".toList)
    let dir : Path := ⟨.here, ["t"]⟩
    t.Sound ∧ t.isDirectory dir ∧ ∃ files, ((collect t {} dir).run []).1 = .ok files ∧
      Exact t {} dir files ∧ dir.child "a.html" ∈ files ∧ dir.child "b.html" ∉ files ∧
      t.isFile (dir.child "notes.txt") ∧ dir.child "notes.txt" ∉ files := by
  intro t dir
  have ht : t.Sound := sound_ignoringFiles _
  obtain ⟨hdir, hfile, hnotes, hbytes⟩ := ignoringFiles_has (Text.Utf8.encode "b.html".toList)
  have hdecoded : Text.Utf8.decodeBuffered (Text.Utf8.encode "b.html".toList) =
      .ok "b.html".toList := rfl
  have hlisted : listedIn t (dir.child ignoreName) = ["b.html"] := by
    have hbytes' : t.bytes (dir.child ignoreName) = .ok (Text.Utf8.encode "b.html".toList) := hbytes
    rw [listedIn, hbytes']
    dsimp only
    rw [hdecoded]
    rfl
  have hreadable : ∀ ns, Downward ns → Readable t ((dir.below ns).child ignoreName) :=
    fun ns hns => readable_ignoringFiles (by rw [hdecoded]; rfl) hns
  obtain ⟨-, hreturns, hexact⟩ := collect_exact t ht {} rfl dir hdir
  obtain ⟨files, hfiles⟩ := hreturns.2 hreadable
  have hbooks := hexact [] files (hfiles [])
  refine ⟨ht, hdir, files, hfiles [], hbooks, ?_, fun hmem => ?_, hnotes, fun hmem => ?_⟩
  · have hsuffix : isTemplate (dir.below ["a.html"]) ({} : Settings).templateSuffixes := by
      decide +kernel
    refine (hbooks.mem _).2 ⟨["a.html"], rfl, by simp [Downward], hfile, isTemplate_iff.1 hsuffix,
      by simp, fun k hk g hg => ?_⟩
    obtain rfl : k = 0 := by simpa using hk
    have hg' : g ∈ listedIn t (dir.child ignoreName) := mem_listedIn.2 hg
    rw [hlisted] at hg'
    obtain rfl := List.mem_singleton.1 hg'
    have hmatch : Pattern.Matches ⟨.here, ["t", "a.html"]⟩ "b.html" ⟨.here, ["t"]⟩ = false := rfl
    exact ne_true_of_eq_false hmatch
  · obtain ⟨ns, hns, h⟩ := (hbooks.mem _).1 hmem
    obtain rfl : ns = ["b.html"] := (dir.below_injective hns).symm
    have hmatch : Pattern.Matches ⟨.here, ["t", "b.html"]⟩ "b.html" ⟨.here, ["t"]⟩ = true := rfl
    have hg : "b.html" ∈ listedIn t (dir.child ignoreName) := by
      rw [hlisted]
      exact List.mem_singleton.2 rfl
    exact h.listed 0 (by simp) "b.html" (mem_listedIn.1 hg) hmatch
  · obtain ⟨ns, hns, h⟩ := (hbooks.mem _).1 hmem
    obtain rfl : ns = ["notes.txt"] := (dir.below_injective hns).symm
    have hsuffix : isTemplate (dir.below ["notes.txt"]) ({} : Settings).templateSuffixes =
        false := by
      decide +kernel
    exact Bool.eq_false_iff.1 hsuffix (isTemplate_iff.2 h.suffix)

end Discovery

end TemplateLint
