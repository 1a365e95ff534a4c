import Mathlib
import TemplateLint.Proofs.Discovery.Templates

/-!
Ignore files that cannot be read.

Templates are collected for every target, a directory, a single file or nothing at all, unless an
ignore file is refused: then the first one that is refused, in the order of their paths, ends the
search. An ignore file that cannot be opened is only warned of, and one without patterns, for this
reason or another, is as good as absent. Main statement: `collect_enduring`.
-/

namespace TemplateLint

open TemplateLint.Path

namespace FileTree

variable {t t' : FileTree} {p q : Path} {c : Content} {n : String}

lemma isDirectory_parent (h : t.isFile p) : t.isDirectory p.parent := by
  have hnames : p.names ≠ [] := by
    intro hnil
    obtain ⟨q, c, hfind, hne⟩ := isFile_iff.1 h
    rw [find, hnil, follow_nil] at hfind
    cases hfind
    exact hne rfl
  have hholds : t.holds (p.parent.below ([] ++ [p.name])) := by
    rw [List.nil_append, ← child_eq_below, child_name_parent hnames]
    exact holds_of_isFile h
  have hdir := isDirectory_of_holds (by simp) hholds
  rwa [below_nil] at hdir

lemma isFile_of_place {new : Content} (hn : n ≠ "..") (hnew : new ≠ .directory)
    (hnot : ¬t.holds (p.child n)) (h : t.place (p.child n) new = .ok t') (hq : t.isFile q) :
    t'.isFile q := by
  obtain ⟨d, hd, hplace, rfl⟩ := eq_set_of_place hn h
  have habsent : t.at? (d.child n) = none := by
    have hsome := (holds_child_iff hd hn).not.1 hnot
    simpa using hsome
  obtain ⟨x, c, hfind, hne⟩ := isFile_iff.1 hq
  have hx : x ≠ d.child n := by
    rintro rfl
    have hfollow : t.follow (d.child n) [] = .ok (d.child n, c) := follow_place hfind
    rw [follow_nil_child, habsent] at hfollow
    cases hfollow
  have hfind' : (t.set (d.child n) new).find q = .ok (x, c) :=
    (follow_set hnew (by simp) hplace hx).2 hfind
  exact isFile_iff.2 ⟨x, c, hfind', hne⟩

end FileTree

namespace Discovery

variable {t t' : FileTree} {s : Settings} {target file p : Path} {ns ms : List String}
  {files files' : List Path}

/-- The directory whose ignore files hold for a target. -/
def scope (t : FileTree) (target : Path) : Path :=
  if t.isFile target then target.parent else target

lemma scope_of_isFile (h : t.isFile target) : scope t target = target.parent := if_pos h

lemma scope_of_not_isFile (h : ¬t.isFile target) : scope t target = target := if_neg h

/-! ### Single files -/

/-- No pattern leaves out a file that is given itself. Only its own directory counts. -/
structure Spared (t : FileTree) (s : Settings) (file : Path) : Prop where
  given : ∀ g ∈ s.ignorePatterns, ¬Pattern.Matches file g file.parent
  listed : ∀ g, Lists t (file.parent.child ignoreName) g → ¬Pattern.Matches file g file.parent

lemma not_ignores_iff_spared {m : IgnoreMap}
    (hm : ∀ g, g ∈ m.get file.parent ↔ Lists t (file.parent.child ignoreName) g) :
    ¬Ignore.ignores file file.parent s.ignorePatterns m ↔ Spared t s file := by
  have hupward : Ignore.upward file.parent file.parent = [file.parent] := by
    rw [Ignore.upward, if_pos (.inl rfl)]
  rw [Ignore.ignores_iff, hupward, not_or]
  simp only [List.mem_singleton, exists_eq_left, hm]
  push Not
  constructor
  · rintro ⟨hgiven, hlisted⟩
    exact ⟨fun g hg => by simpa using hgiven g hg, fun g hg => by simpa using hlisted g hg⟩
  · intro h
    exact ⟨fun g hg => by simpa using h.given g hg, fun g hg => by simpa using h.listed g hg⟩

/-- **What is collected for a single file**: the file, unless a pattern leaves it out. -/
theorem collect_file_does (hs : s.ignoreFilePatterns = [ignorePattern]) (hfile : t.isFile file)
    (h : ∀ ns, Downward ns → Readable t ((file.parent.below ns).child ignoreName)) :
    ∃ files told, Does (collect t s file) (.ok files) told ∧
      (files.Pairwise fun p q => p.parts < q.parts) ∧
      (∀ p, p ∈ files ↔ p = file ∧ Spared t s file) ∧ Warns t file.parent told := by
  obtain ⟨m, warned, hm, hget, hwarned⟩ :=
    findIgnoreFiles_does (FileTree.isDirectory_parent hfile) h
  have hown : ∀ g, g ∈ m.get file.parent ↔ Lists t (file.parent.child ignoreName) g := by
    intro g
    have hget' := hget [] (by simp [Downward]) g
    rwa [below_nil] at hget'
  obtain ⟨told, hkeep⟩ := keep_does s file.parent m [file]
  set files := [file].filter fun file' => !Ignore.ignores file' file.parent s.ignorePatterns m
  have hcollect : ∃ told', Does (collect t s file) (.ok files) (warned ++ (told ++ told')) := by
    unfold collect
    rw [if_pos hfile, hs]
    -- whether the file is left out changes only what is told
    by_cases hempty : files.isEmpty
    · refine ⟨[⟨.info, .discovery, s!"{file} is ignored by patterns"⟩] ++ [],
        hm.bind (hkeep.bind ?_)⟩
      rw [if_pos hempty]
      exact (does_tell _ _).bind (does_pure _)
    · refine ⟨[], hm.bind (hkeep.bind ?_)⟩
      rw [if_neg hempty]
      exact does_pure _
  obtain ⟨told', hcollect⟩ := hcollect
  refine ⟨files, _, hcollect, ?_, fun p => ?_,
    fun ns hns hfile e he => List.mem_append_left _ (hwarned ns hns hfile e he)⟩
  · exact (List.pairwise_singleton _ file).filter _
  · rw [List.mem_filter, List.mem_singleton, Bool.not_eq_true', ← Bool.not_eq_true]
    refine and_congr_right ?_
    rintro rfl
    exact not_ignores_iff_spared hown

/-! ### All targets -/

/-- The paths that are collected for a target: the templates of a directory, or a single file. -/
def Selected (t : FileTree) (s : Settings) (target p : Path) : Prop :=
  (t.isFile target ∧ p = target ∧ Spared t s target) ∨
    (t.isDirectory target ∧ ∃ ns, p = target.below ns ∧ Chosen t s target ns)

lemma selected_of_isFile (h : t.isFile target) :
    Selected t s target p ↔ p = target ∧ Spared t s target := by
  simp [Selected, h, FileTree.not_isDirectory_of_isFile h]

lemma selected_of_isDirectory (h : t.isDirectory target) :
    Selected t s target p ↔ ∃ ns, p = target.below ns ∧ Chosen t s target ns := by
  have hnot : ¬t.isFile target := fun hfile => FileTree.not_isDirectory_of_isFile hfile h
  simp [Selected, h, hnot]

/-- **Every target is collected** if no ignore file is refused. -/
theorem collect_selected (ht : t.Sound) (hs : s.ignoreFilePatterns = [ignorePattern])
    (h : (ignoreFiles t (scope t target)).findSome? (refusal? t) = none) :
    ∃ files told, Does (collect t s target) (.ok files) told ∧
      (files.Pairwise fun p q => p.parts < q.parts) ∧
      (∀ p, p ∈ files ↔ Selected t s target p) ∧ Warns t (scope t target) told := by
  have hreadable := findSome?_refusal_eq_none_iff.1 h
  by_cases hfile : t.isFile target
  · rw [scope_of_isFile hfile] at hreadable
    obtain ⟨files, told, hfiles, hordered, hmem, hwarned⟩ := collect_file_does hs hfile hreadable
    rw [scope_of_isFile hfile]
    exact ⟨files, told, hfiles, hordered, fun p => (hmem p).trans (selected_of_isFile hfile).symm,
      hwarned⟩
  · rw [scope_of_not_isFile hfile] at hreadable
    by_cases hdir : t.isDirectory target
    · obtain ⟨files, told, hfiles, hordered, hmem, hwarned⟩ := collect_does ht hs hdir hreadable
      rw [scope_of_not_isFile hfile]
      exact ⟨files, told, hfiles, hordered,
        fun p => (hmem p).trans (selected_of_isDirectory hdir).symm, hwarned⟩
    · refine ⟨[], [], ?_, List.Pairwise.nil, fun p => by simp [Selected, hfile, hdir],
        fun ns _ hpresent => ?_⟩
      · unfold collect
        rw [if_neg hfile, if_pos (by simp [hdir])]
        exact does_pure []
      · have hholds := FileTree.holds_of_isFile hpresent
        rw [scope_of_not_isFile hfile, ← below_snoc, ← List.nil_append (ns ++ _)] at hholds
        have habove := FileTree.isDirectory_of_holds (by simp) hholds
        rw [below_nil] at habove
        exact absurd habove hdir

lemma collect_refuses {f : Text.Utf8.Fault} (hs : s.ignoreFilePatterns = [ignorePattern])
    (h : (ignoreFiles t (scope t target)).findSome? (refusal? t) = some f) :
    ∃ told, Does (collect t s target) (.error (.undecodable f)) told := by
  by_cases hfile : t.isFile target
  · rw [scope_of_isFile hfile] at h
    obtain ⟨told, hrefused⟩ := findIgnoreFiles_refuses (FileTree.isDirectory_parent hfile) h
    unfold collect
    rw [if_pos hfile, hs]
    exact ⟨told, hrefused.bind_error⟩
  · rw [scope_of_not_isFile hfile] at h
    have hdir : t.isDirectory target := by
      by_contra hnot
      rw [ignoreFiles, if_neg hnot] at h
      cases h
    exact collect_directory_refuses hs hdir h

/-- The paths that are collected are those that are selected, in their order, and ignore files that
cannot be opened are warned of. -/
lemma selected_of_collect (ht : t.Sound) (hs : s.ignoreFilePatterns = [ignorePattern])
    (h : ComesTo (collect t s target) (.ok files)) :
    (ignoreFiles t (scope t target)).findSome? (refusal? t) = none ∧
      (files.Pairwise fun p q => p.parts < q.parts) ∧
      (∀ p, p ∈ files ↔ Selected t s target p) ∧
      ∀ log, Warns t (scope t target) ((collect t s target).run log).2 := by
  cases hrefused : (ignoreFiles t (scope t target)).findSome? (refusal? t) with
  | some f =>
    obtain ⟨told, hcollect⟩ := collect_refuses hs hrefused
    have hrun := (h []).symm.trans (hcollect.comesTo [])
    cases hrun
  | none =>
    obtain ⟨files', told, hcollect, hordered, hmem, hwarned⟩ := collect_selected ht hs hrefused
    have hrun := (h []).symm.trans (hcollect.comesTo [])
    cases hrun
    refine ⟨rfl, hordered, hmem, fun log ns hns hfile e he => ?_⟩
    rw [hcollect log]
    exact List.mem_append_right _ (hwarned ns hns hfile e he)

/-! ### Ignore files without effect -/

/-- A new ignore file that lists nothing. -/
structure Idle (t t' : FileTree) (dir : Path) (ms : List String) : Prop where
  sound : t'.Sound
  before : t.isDirectory dir
  after : t'.isDirectory dir
  absent : ¬t.holds ((dir.below ms).child ignoreName)
  silent : ∀ g, ¬Lists t' ((dir.below ms).child ignoreName) g
  sameAt : ∀ ns, Downward ns → ns ≠ ms ++ [ignoreName] → SameAt t t' (dir.below ns)

namespace Idle

variable {dir : Path}

lemma of_place (ht : t.Sound) (hms : Downward ms) {new : Content} (hnew : new ≠ .directory)
    (hnot : ¬t.holds ((dir.below ms).child ignoreName))
    (h : t.place ((dir.below ms).child ignoreName) new = .ok t')
    (hsilent : ∀ g, ¬Lists t' ((dir.below ms).child ignoreName) g) : Idle t t' dir ms := by
  have hdir : t.isDirectory dir := by
    obtain ⟨d, hd, -, -⟩ := FileTree.eq_set_of_place (by decide) h
    by_cases hnil : ms = []
    · subst hnil
      rw [below_nil] at hd
      exact FileTree.isDirectory_iff.2 ⟨d, hd⟩
    · have hholds : t.holds (dir.below ([] ++ ms)) := FileTree.holds_iff.2 ⟨d, .directory, hd⟩
      have habove := FileTree.isDirectory_of_holds hnil hholds
      rwa [below_nil] at habove
  obtain ⟨ht', hdir', hsame⟩ := place_ignoreFile ht hdir hms hnew h
  exact ⟨ht', hdir, hdir', hnot, hsilent, hsame⟩

variable (h : Idle t t' dir ms)

include h

/-- Every directory lists what it has listed before. -/
lemma lists_iff (hns : Downward ns) {g : String} : Lists t' ((dir.below ns).child ignoreName) g ↔
    Lists t ((dir.below ns).child ignoreName) g := by
  by_cases hne : ns = ms
  · subst hne
    refine iff_of_false (h.silent g) fun hg => ?_
    have hfile : ¬t.isFile ((dir.below ns).child ignoreName) := fun hfile =>
      h.absent (FileTree.holds_of_isFile hfile)
    rw [← mem_listedIn, listedIn_of_not_isFile hfile] at hg
    cases hg
  · exact (sameAt_elsewhere hns h.sameAt hne).lists_iff

/-- Ignore files that can be read with the new one can be read without it. -/
lemma findSome?_eq_none (hreadable : (ignoreFiles t' dir).findSome? (refusal? t') = none) :
    (ignoreFiles t dir).findSome? (refusal? t) = none := by
  rw [findSome?_refusal_eq_none_iff] at *
  intro ns hns
  by_cases hne : ns = ms
  · subst hne
    exact readable_of_not_isFile fun hfile => h.absent (FileTree.holds_of_isFile hfile)
  · exact (sameAt_elsewhere hns h.sameAt hne).readable_iff.1 (hreadable ns hns)

lemma spared_iff (hdir : dir = file.parent) : Spared t' s file ↔ Spared t s file := by
  subst hdir
  have hown : ∀ g, Lists t' ((file.parent.below []).child ignoreName) g ↔ _ :=
    fun g => h.lists_iff (by simp [Downward])
  rw [below_nil] at hown
  constructor
  · intro hspared
    exact ⟨hspared.given, fun g hg => hspared.listed g ((hown g).2 hg)⟩
  · intro hspared
    exact ⟨hspared.given, fun g hg => hspared.listed g ((hown g).1 hg)⟩

/-- But for the ignore file itself the same templates are chosen. -/
lemma chosen_iff : Chosen t s dir ns ↔ Chosen t' s dir ns ∧ ns ≠ ms ++ [ignoreName] := by
  constructor
  · intro hchosen
    have hne : ns ≠ ms ++ [ignoreName] := by
      rintro rfl
      have hholds := FileTree.holds_of_isFile hchosen.isFile
      rw [below_snoc] at hholds
      exact h.absent hholds
    have hfile := (h.sameAt ns hchosen.downward hne).isFile_iff
    exact ⟨hchosen.of_subset (hfile.2 hchosen.isFile) fun k _ g =>
      (h.lists_iff (downward_take hchosen.downward k)).1, hne⟩
  · rintro ⟨hchosen, hne⟩
    have hfile := (h.sameAt ns hchosen.downward hne).isFile_iff
    exact hchosen.of_subset (hfile.1 hchosen.isFile) fun k _ g =>
      (h.lists_iff (downward_take hchosen.downward k)).2

end Idle

/-- **A new ignore file that lists nothing has no effect** on what is selected. -/
theorem Idle.selected_iff (h : Idle t t' (scope t target) ms)
    (hkept : t.isFile target → t'.isFile target) :
    Selected t s target p ↔
      Selected t' s target p ∧ p ≠ ((scope t target).below ms).child ignoreName := by
  by_cases hfile : t.isFile target
  · have hne : target ≠ ((scope t target).below ms).child ignoreName := by
      intro heq
      have hholds := FileTree.holds_of_isFile hfile
      rw [heq] at hholds
      exact h.absent hholds
    have hspared := h.spared_iff (s := s) (scope_of_isFile hfile)
    rw [selected_of_isFile hfile, selected_of_isFile (hkept hfile), hspared]
    constructor
    · rintro ⟨rfl, hp⟩
      exact ⟨⟨rfl, hp⟩, hne⟩
    · exact And.left
  · rw [scope_of_not_isFile hfile] at *
    rw [selected_of_isDirectory h.before, selected_of_isDirectory h.after, ← below_snoc]
    constructor
    · rintro ⟨ns, rfl, hchosen⟩
      obtain ⟨hchosen', hne⟩ := h.chosen_iff.1 hchosen
      exact ⟨⟨ns, rfl, hchosen'⟩, fun heq => hne (target.below_injective heq)⟩
    · rintro ⟨⟨ns, rfl, hchosen⟩, hne⟩
      exact ⟨ns, rfl, h.chosen_iff.2 ⟨hchosen, fun heq => hne (congrArg _ heq)⟩⟩

/-- **A new ignore file that lists nothing has no effect** on what is collected, except that it may
be collected itself. -/
theorem Idle.collect_eq (ht : t.Sound) (hs : s.ignoreFilePatterns = [ignorePattern])
    (h : Idle t t' (scope t target) ms) (hkept : t.isFile target → t'.isFile target)
    (hcollect : ComesTo (collect t' s target) (.ok files')) :
    ComesTo (collect t s target)
      (.ok (files'.filter (· ≠ ((scope t target).below ms).child ignoreName))) := by
  have hscope : scope t' target = scope t target := by
    by_cases hfile : t.isFile target
    · rw [scope_of_isFile hfile, scope_of_isFile (hkept hfile)]
    · have hafter := h.after
      rw [scope_of_not_isFile hfile] at hafter ⊢
      exact scope_of_not_isFile fun hfile' => FileTree.not_isDirectory_of_isFile hfile' hafter
  obtain ⟨hreadable, hordered', hmem', -⟩ := selected_of_collect h.sound hs hcollect
  rw [hscope] at hreadable
  obtain ⟨files, told, hfiles, hordered, hmem, -⟩ :=
    collect_selected ht hs (h.findSome?_eq_none hreadable)
  have hsame : files = files'.filter (· ≠ ((scope t target).below ms).child ignoreName) :=
    eq_of_ordered hordered (hordered'.filter _) fun p => by
      rw [hmem, List.mem_filter, hmem', h.selected_iff hkept, decide_eq_true_iff]
  rw [← hsame]
  exact hfiles.comesTo

/-- What bad ignore files do to the collection for a target. -/
structure Enduring (t : FileTree) (s : Settings) (target : Path) : Prop where
  /-- The first ignore file that is not UTF-8 ends it. -/
  refused : ∀ f, (ignoreFiles t (scope t target)).findSome? (refusal? t) = some f →
    ComesTo (collect t s target) (.error (.undecodable f))
  /-- Otherwise there is a list: the templates that no pattern leaves out. -/
  returned : (ignoreFiles t (scope t target)).findSome? (refusal? t) = none →
    ∃ files, ComesTo (collect t s target) (.ok files) ∧ ∀ p, p ∈ files ↔ Selected t s target p
  /-- An ignore file that cannot be opened has no patterns, and is warned of. -/
  unopened : ∀ file e, t.bytes file = .error e →
    (∀ g, ¬Lists t file g) ∧ Does (readIgnoreFile t file) (.ok []) [unopened file e]
  /-- Where a list is returned, all ignore files that cannot be opened have been warned of. -/
  warned : ∀ files, ComesTo (collect t s target) (.ok files) →
    ∀ log, Warns t (scope t target) ((collect t s target).run log).2
  /-- With an ignore file that has no patterns the same is collected as without it. -/
  idle : ∀ ms new t' files', Downward ms → new ≠ .directory →
    ¬t.holds (((scope t target).below ms).child ignoreName) →
    t.place (((scope t target).below ms).child ignoreName) new = .ok t' →
    (∀ g, ¬Lists t' (((scope t target).below ms).child ignoreName) g) →
    ComesTo (collect t' s target) (.ok files') → ComesTo (collect t s target)
      (.ok (files'.filter (· ≠ ((scope t target).below ms).child ignoreName)))

/-- **Collecting endures all ignore files but those that are not UTF-8.** For every tree, every
target in it and all settings with the default pattern for ignore files, a list is returned unless
an ignore file is refused, and ignore files without patterns play no part in it. -/
theorem collect_enduring (t : FileTree) (ht : t.Sound) (s : Settings)
    (hs : s.ignoreFilePatterns = ({} : Settings).ignoreFilePatterns) (target : Path) :
    Enduring t s target where
  refused f h := by
    obtain ⟨told, hrefused⟩ := collect_refuses hs h
    exact hrefused.comesTo
  returned h := by
    obtain ⟨files, told, hfiles, -, hmem, -⟩ := collect_selected ht hs h
    exact ⟨files, hfiles.comesTo, hmem⟩
  unopened file e h := by
    refine ⟨?_, readIgnoreFile_unopened h⟩
    rintro g ⟨bytes, text, line, hbytes, -⟩
    rw [h] at hbytes
    cases hbytes
  warned files h := (selected_of_collect ht hs h).2.2.2
  idle ms new t' files' hms hnew hnot hplace hsilent hcollect :=
    (Idle.of_place ht hms hnew hnot hplace hsilent).collect_eq ht hs
      (FileTree.isFile_of_place (by decide) hnew hnot hplace) hcollect

/-- With an empty ignore file there is a list of templates. -/
theorem collect_enduring_empty : let t := ignoringFiles []
    t.Sound ∧ Enduring t {} ⟨.here, ["t"]⟩ ∧
      ∃ files, ComesTo (collect t {} ⟨.here, ["t"]⟩) (.ok files) := by
  intro t
  have ht : t.Sound := sound_ignoringFiles []
  have henduring : Enduring t {} ⟨.here, ["t"]⟩ := collect_enduring t ht {} rfl ⟨.here, ["t"]⟩
  have hscope : scope t ⟨.here, ["t"]⟩ = ⟨.here, ["t"]⟩ := scope_of_not_isFile fun hfile =>
    FileTree.not_isDirectory_of_isFile hfile (ignoringFiles_has []).1
  have hreadable : (ignoreFiles t (scope t ⟨.here, ["t"]⟩)).findSome? (refusal? t) = none := by
    rw [hscope, findSome?_refusal_eq_none_iff]
    exact fun ns hns => readable_ignoringFiles rfl hns
  obtain ⟨files, hfiles, -⟩ := henduring.returned hreadable
  exact ⟨ht, henduring, files, hfiles⟩

/-- **Not every ignore file is endured**: with the one byte 255 in it no list is returned. -/
theorem not_collect_returned : ¬∀ t : FileTree, t.Sound → ∀ s : Settings,
    s.ignoreFilePatterns = ({} : Settings).ignoreFilePatterns → ∀ target,
      ∃ files, ComesTo (collect t s target) (.ok files) := by
  intro hall
  obtain ⟨files, hfiles⟩ := hall (ignoringFiles [255]) (sound_ignoringFiles _) {} rfl ⟨.here, ["t"]⟩
  obtain ⟨hdir, -, -, hbytes⟩ := ignoringFiles_has [255]
  have hreadable := readable_of_collect rfl hdir (hfiles []) [] (by simp [Downward])
  rw [below_nil] at hreadable
  have hok : (Text.Utf8.decodeBuffered [255]).isOk = true := hreadable [255] hbytes
  have hnot : (Text.Utf8.decodeBuffered [255]).isOk = false := rfl
  rw [hnot] at hok
  cases hok

end Discovery

end TemplateLint
