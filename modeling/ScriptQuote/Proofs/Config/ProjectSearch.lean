import ScriptQuote.Proofs.Config.Contribution
import ScriptQuote.Proofs.FileTree
import ScriptQuote.Session

/-!
# The search for the project file

The search goes up from a directory until it meets a project file or cannot go
further, which is at the root, the only directory that is its own parent.
Nothing in this bounds the way up but the names of the directory, and they are
what the library goes through.

* The way up.  `Climbs` is the search as it goes, one parent after the other.
  `climbs_iff` says that it always ends, and with the answer of `projectFile?`.
* The directory.  A path is resolved before the search by its components alone;
  where it leads somewhere, it leads to that directory (`resolve_of_locate`).
* The answer.  It is the nearest file (`projectFile?_eq_some_iff`) or there is
  none on the way (`projectFile?_eq_none_iff`), and nothing else in the tree
  counts (`projectFile?_congr`).
-/

namespace ScriptQuote

/-! ## The directory -/

namespace FileTree

variable {t : FileTree} {place q : Place} {parts : List Text}

/-- A way that leads somewhere leads where its components say, each of them
going up or down by one. -/
theorem eq_foldl_of_walk
    (hparts : ∀ name ∈ parts, (name.isEmpty || name == Path.dot) = false)
    (h : t.walk place parts = .ok q) :
    q = parts.foldl (fun p name =>
      if name == Path.dotDot then p.dropLast else p ++ [name]) place := by
  induction parts generalizing place with
  | nil =>
    cases h
    rfl
  | cons name rest ih =>
    obtain ⟨hname, hrest⟩ := List.forall_mem_cons.mp hparts
    rw [walk] at h
    split at h
    · cases h
    · cases h
    · rw [if_neg (by rw [hname]; exact Bool.false_ne_true)] at h
      rw [List.foldl_cons]
      split_ifs at h ⊢ with hup hthere
      · exact ih hrest h
      · exact ih hrest h

/-- Without links, a path that leads somewhere leads to the place that it is
resolved to. -/
theorem resolve_of_locate {base : Place} {text : Text}
    (h : t.locate base (Path.ofText text) = .ok place) :
    resolve base (Path.ofText text) = place := by
  refine (eq_foldl_of_walk ?_ h).symm
  intro name hname
  rw [Path.ofText, List.mem_filter, Bool.not_eq_true'] at hname
  exact hname.2

end FileTree

namespace Config

variable {t t' : FileTree} {directory : Place} {names : List Text} {p : Path}
  {r : Option Path}

/-! ## The way up -/

/-- The search from a path upwards: it stops at the first directory with a
project file, and in vain at a path that is its own parent. -/
inductive Climbs (t : FileTree) : Path → Option Path → Prop
  | found {p : Path} (h : HasProjectFile t p.parts) :
      Climbs t p (some (p.child projectFileName))
  | top {p : Path} (h : ¬ HasProjectFile t p.parts) (htop : p.parent = p) :
      Climbs t p none
  | up {p : Path} {r : Option Path} (h : ¬ HasProjectFile t p.parts)
      (hup : p.parent ≠ p) (hrest : Climbs t p.parent r) : Climbs t p r

theorem climbs_of_hasProjectFile (h : HasProjectFile t p.parts) :
    Climbs t p r ↔ some (p.child projectFileName) = r := by
  constructor
  · intro hclimb
    cases hclimb with
    | found => rfl
    | top hnot => exact absurd h hnot
    | up hnot => exact absurd h hnot
  · rintro rfl
    exact .found h

theorem climbs_of_parent_eq (h : ¬ HasProjectFile t p.parts) (htop : p.parent = p) :
    Climbs t p r ↔ none = r := by
  constructor
  · intro hclimb
    cases hclimb with
    | found hfile => exact absurd hfile h
    | top => rfl
    | up _ hup => exact absurd htop hup
  · rintro rfl
    exact .top h htop

theorem climbs_of_parent_ne (h : ¬ HasProjectFile t p.parts) (hup : p.parent ≠ p) :
    Climbs t p r ↔ Climbs t p.parent r := by
  constructor
  · intro hclimb
    cases hclimb with
    | found hfile => exact absurd hfile h
    | top _ htop => exact absurd htop hup
    | up _ _ hrest => exact hrest
  · exact .up h hup

theorem parent_pathOf_concat (directory : Place) (name : Text) :
    (FileTree.pathOf (directory ++ [name])).parent = FileTree.pathOf directory := by
  rw [FileTree.pathOf, Path.parent, List.dropLast_concat]
  rfl

/-- Only the root is its own parent. -/
theorem parent_pathOf_concat_ne (directory : Place) (name : Text) :
    (FileTree.pathOf (directory ++ [name])).parent ≠
      FileTree.pathOf (directory ++ [name]) := by
  rw [parent_pathOf_concat]
  intro h
  have hlength := congrArg (fun p : Path => p.parts.length) h
  simp [FileTree.pathOf] at hlength

theorem nearestFrom_of_hasProjectFile (h : HasProjectFile t names.reverse) :
    nearestFrom t names = some (names.reverse ++ [projectFileName]) := by
  cases names with
  | nil => exact if_pos h
  | cons name above => exact if_pos h

theorem nearestFrom_nil_of_not (h : ¬ HasProjectFile t []) :
    nearestFrom t [] = none := if_neg h

theorem nearestFrom_cons_of_not {name : Text} {above : List Text}
    (h : ¬ HasProjectFile t (name :: above).reverse) :
    nearestFrom t (name :: above) = nearestFrom t above := if_neg h

/-- By induction on the names from the bottom up: the search always ends, and
with the file that going through the names comes to. -/
theorem climbs_nearestFrom :
    Climbs t (FileTree.pathOf names.reverse) r ↔
      (nearestFrom t names).map FileTree.pathOf = r := by
  induction names with
  | nil =>
    by_cases hfile : HasProjectFile t []
    · rw [climbs_of_hasProjectFile hfile, nearestFrom_of_hasProjectFile hfile]
      rfl
    · rw [climbs_of_parent_eq hfile rfl, nearestFrom_nil_of_not hfile]
      rfl
  | cons name above ih =>
    by_cases hfile : HasProjectFile t (name :: above).reverse
    · rw [climbs_of_hasProjectFile hfile, nearestFrom_of_hasProjectFile hfile]
      rfl
    · rw [nearestFrom_cons_of_not hfile, ← ih]
      rw [List.reverse_cons] at hfile ⊢
      rw [climbs_of_parent_ne hfile (parent_pathOf_concat_ne _ name),
        parent_pathOf_concat]

theorem climbs_iff :
    Climbs t (FileTree.pathOf directory) r ↔
      (projectFile? t directory).map FileTree.pathOf = r := by
  rw [projectFile?, ← climbs_nearestFrom, List.reverse_reverse]

/-! ## The answer -/

theorem hasProjectFile_iff {above : Place} :
    HasProjectFile t above ↔
      ∃ content, t.node? (above ++ [projectFileName]) = some (.file content) :=
  FileTree.isFile_iff

theorem nearestFrom_eq_none_iff :
    nearestFrom t names = none ↔ ∀ above, above <+: names.reverse →
      ¬ HasProjectFile t above := by
  induction names with
  | nil =>
    by_cases hfile : HasProjectFile t ([] : Place).reverse
    · simpa [nearestFrom_of_hasProjectFile hfile] using hfile
    · simpa [nearestFrom_nil_of_not hfile] using hfile
  | cons name above ih =>
    by_cases hfile : HasProjectFile t (name :: above).reverse
    · rw [nearestFrom_of_hasProjectFile hfile]
      constructor
      · intro h
        cases h
      · intro h
        exact absurd hfile (h _ List.prefix_rfl)
    · rw [nearestFrom_cons_of_not hfile, ih]
      rw [List.reverse_cons] at hfile ⊢
      constructor
      · intro h below hbelow
        rcases List.prefix_concat_iff.mp hbelow with rfl | hway
        · exact hfile
        · exact h below hway
      · intro h below hbelow
        exact h below (List.prefix_concat_iff.mpr (Or.inr hbelow))

/-- The search is in vain exactly if no directory on the way up has a project file. -/
theorem projectFile?_eq_none_iff :
    projectFile? t directory = none ↔
      ∀ above, above <+: directory → ¬ HasProjectFile t above := by
  rw [projectFile?, nearestFrom_eq_none_iff, List.reverse_reverse]

/-- Which file is nearest hangs on the project files on the way up alone. -/
theorem IsNearest.congr {above : Place}
    (h : ∀ below, below <+: directory →
      (HasProjectFile t below ↔ HasProjectFile t' below))
    (hnear : IsNearest t directory above) : IsNearest t' directory above where
  onTheWay := hnear.onTheWay
  hasFile := (h above hnear.onTheWay).mp hnear.hasFile
  lowest below hbelow hfile := hnear.lowest below hbelow ((h below hbelow).mpr hfile)

theorem projectFile?_congr
    (h : ∀ above, above <+: directory →
      (HasProjectFile t above ↔ HasProjectFile t' above)) :
    projectFile? t directory = projectFile? t' directory := by
  apply Option.ext
  intro place
  rw [projectFile?_eq_some_iff, projectFile?_eq_some_iff]
  constructor
  · rintro ⟨above, hnear, hplace⟩
    exact ⟨above, hnear.congr h, hplace⟩
  · rintro ⟨above, hnear, hplace⟩
    exact ⟨above, hnear.congr fun below hbelow => (h below hbelow).symm, hplace⟩

/-- A session refuses a path that no directory can have. -/
theorem run_directoryPlace (s : Session) (text : Text) :
    (Session.directoryPlace text).run.run s =
      if FileTree.hasNull (Path.ofText text) then
        (.error (.action (.file .embeddedNull)), s)
      else (.ok (FileTree.resolve s.root (Path.ofText text)), s) := by
  cases hnull : FileTree.hasNull (Path.ofText text) <;>
    simp only [Session.directoryPlace, hnull, if_true, if_false,
      Bool.false_eq_true] <;> rfl

theorem run_findProject (s : Session) (text : Text) :
    (Session.step (.findProject text)).run.run s =
      if FileTree.hasNull (Path.ofText text) then
        (.error (.action (.file .embeddedNull)), s)
      else
        (.ok (.projectFile
          ((projectFile? s.world.tree
            (FileTree.resolve s.root (Path.ofText text))).map
            FileTree.pathOf)), s) := by
  rw [Session.step, ExceptT.run_bind, StateT.run_bind, run_directoryPlace]
  split <;> rfl

/-- The search from any directory ends, with one answer.  It is the project file
of the lowest directory on the way up from there that has one, and none exactly
if none of them has a file of that name.  Two trees with the same project files
on the way give the same answer.  The search starts where the path leads, if it
leads anywhere, and a session tells what it comes to. -/
theorem search_finds_nearest (t : FileTree) (base : Place) (text : Text) :
    let directory := FileTree.resolve base (Path.ofText text)
    (∀ r, Climbs t (FileTree.pathOf directory) r ↔
      (projectFile? t directory).map FileTree.pathOf = r) ∧
    (∀ place, projectFile? t directory = some place ↔
      ∃ above, IsNearest t directory above ∧ place = above ++ [projectFileName]) ∧
    (projectFile? t directory = none ↔ ∀ above, above <+: directory →
      ∀ content, t.node? (above ++ [projectFileName]) ≠ some (.file content)) ∧
    (∀ t' : FileTree,
      (∀ above, above <+: directory →
        (HasProjectFile t above ↔ HasProjectFile t' above)) →
      projectFile? t directory = projectFile? t' directory) ∧
    (∀ place, t.locate base (Path.ofText text) = .ok place → directory = place) ∧
    ∀ s : Session, s.world.tree = t → s.root = base →
      (Session.step (.findProject text)).run.run s =
        if FileTree.hasNull (Path.ofText text) then
          (.error (.action (.file .embeddedNull)), s)
        else (.ok (.projectFile
          ((projectFile? t directory).map FileTree.pathOf)), s) := by
  intro directory
  refine ⟨fun r => climbs_iff, fun place => projectFile?_eq_some_iff, ?_,
    fun t' h => projectFile?_congr h, fun place h => FileTree.resolve_of_locate h, ?_⟩
  · rw [projectFile?_eq_none_iff]
    simp only [hasProjectFile_iff, not_exists, ne_eq]
  · rintro s rfl rfl
    exact run_findProject s text

/-- A project file in `a`, and a directory of its name in `a/b`. -/
def projectBelowDirectory : FileTree where
  nodes := [(["a"], .directory), (["a", ".psquote.toml"], .file []),
    (["a", "b"], .directory), (["a", "b", ".psquote.toml"], .directory)]

/-- From a directory that is missing below `a/b`, the search comes to the file
in `a`, whatever stands in `b`. -/
theorem search_finds_nearest_missing :
    projectFile? projectBelowDirectory
        (FileTree.resolve ["a", "x"] (Path.ofText "../b/./c")) =
        some (["a", ".psquote.toml"] : Place) ∧
      projectFile? (projectBelowDirectory.set ["b", ".psquote.toml"] (.file []))
          (FileTree.resolve ["a", "x"] (Path.ofText "../b/./c")) =
        some (["a", ".psquote.toml"] : Place) ∧
      FileTree.resolve ["a"] (Path.ofText "b/..") = (["a"] : Place) := by
  have hfound : projectFile? projectBelowDirectory
      (FileTree.resolve ["a", "x"] (Path.ofText "../b/./c")) =
        some (["a", ".psquote.toml"] : Place) := by
    decide
  have hsame : ∀ above,
      above <+: FileTree.resolve ["a", "x"] (Path.ofText "../b/./c") →
      (HasProjectFile projectBelowDirectory above ↔
        HasProjectFile (projectBelowDirectory.set ["b", ".psquote.toml"]
          (.file [])) above) := by
    intro above habove
    have hne : above ++ [projectFileName] ≠ (["b", ".psquote.toml"] : Place) := by
      intro h
      obtain rfl : above = (["b"] : Place) := (List.append_inj' h rfl).1
      exact absurd habove (by decide)
    rw [hasProjectFile_iff, hasProjectFile_iff,
      FileTree.node?_set (List.cons_ne_nil _ _), if_neg hne]
  refine ⟨hfound, ?_, ?_⟩
  · rw [← (search_finds_nearest _ ["a", "x"] "../b/./c").2.2.2.1 _ hsame, hfound]
  · exact (search_finds_nearest projectBelowDirectory ["a"] "b/..").2.2.2.2.1
      ["a"] rfl

end Config

end ScriptQuote
