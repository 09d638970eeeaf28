import ScriptQuote.Config.Scope
import ScriptQuote.Proofs.Fallible

/-!
# The files that contribute

Which files make up a configuration is a question about the tree of files alone, and it
can be answered before any of them is read.

There are three groups.

* The nearest project file.  `IsNearest` says it of all directories on the way up at
  once; `projectFile?_eq_some_iff` is about the search that goes up one by one.
* The files of all scopes.  `Contributes` has one case for each scope.
  `contributions` lists them, the least scope first; `mem_contributions` and
  `pairwise_contributions` say that it has them all, each scope at most once.
* Loading.  `load_eq_ok_iff` makes it one fold over that list.
-/

namespace ScriptQuote.Config

variable {s : Surroundings} {t : FileTree} {directory above : Place} {place : Place}

/-! ## The nearest project file -/

/-- There is a project file in the directory. -/
def HasProjectFile (t : FileTree) (directory : Place) : Prop :=
  t.isFile (directory ++ [projectFileName]) = true

/-- Of a directory and those above it, `above` is the lowest one that has a
project file. -/
structure IsNearest (t : FileTree) (directory above : Place) : Prop where
  onTheWay : above <+: directory
  hasFile : HasProjectFile t above
  lowest : ∀ below, below <+: directory → HasProjectFile t below →
    below.length ≤ above.length

theorem isNearest_nil_iff :
    IsNearest t [] above ↔ above = [] ∧ HasProjectFile t [] := by
  constructor
  · intro h
    have habove := List.prefix_nil.mp h.onTheWay
    exact ⟨habove, habove ▸ h.hasFile⟩
  · rintro ⟨rfl, h⟩
    exact ⟨List.prefix_rfl, h, fun below hbelow _ => hbelow.length_le⟩

theorem isNearest_self (h : HasProjectFile t directory) :
    IsNearest t directory above ↔ above = directory := by
  constructor
  · intro hnear
    exact hnear.onTheWay.eq_of_length_le (hnear.lowest directory List.prefix_rfl h)
  · rintro rfl
    exact ⟨List.prefix_rfl, h, fun below hbelow _ => hbelow.length_le⟩

theorem isNearest_concat {name : Text}
    (h : ¬ HasProjectFile t (directory ++ [name])) :
    IsNearest t (directory ++ [name]) above ↔ IsNearest t directory above := by
  have hway : ∀ below, HasProjectFile t below →
      (below <+: directory ++ [name] ↔ below <+: directory) := by
    intro below hbelow
    rw [List.prefix_concat_iff]
    refine ⟨?_, Or.inr⟩
    rintro (rfl | hprefix)
    · exact absurd hbelow h
    · exact hprefix
  constructor
  · rintro ⟨hon, hfile, hlowest⟩
    exact ⟨(hway above hfile).mp hon, hfile,
      fun below hbelow hb => hlowest below ((hway below hb).mpr hbelow) hb⟩
  · rintro ⟨hon, hfile, hlowest⟩
    exact ⟨(hway above hfile).mpr hon, hfile,
      fun below hbelow hb => hlowest below ((hway below hb).mp hbelow) hb⟩

/-- The search goes up from the bottom, so it comes to the nearest file first. -/
theorem nearestFrom_eq_some_iff {names : List Text} :
    nearestFrom t names = some place ↔
      ∃ above, IsNearest t names.reverse above ∧
        place = above ++ [projectFileName] := by
  induction names with
  | nil =>
    simp only [nearestFrom, List.reverse_nil, isNearest_nil_iff]
    split
    · rename_i h
      constructor
      · intro hplace
        cases hplace
        exact ⟨[], ⟨rfl, h⟩, rfl⟩
      · rintro ⟨_, ⟨rfl, -⟩, rfl⟩
        rfl
    · rename_i h
      constructor
      · intro hplace
        cases hplace
      · rintro ⟨_, ⟨rfl, hfile⟩, -⟩
        exact absurd hfile h
  | cons name names ih =>
    simp only [nearestFrom, List.reverse_cons]
    split
    · rename_i h
      constructor
      · intro hplace
        cases hplace
        exact ⟨_, (isNearest_self h).mpr rfl, rfl⟩
      · rintro ⟨above, hnear, rfl⟩
        rw [(isNearest_self h).mp hnear]
    · rename_i h
      rw [ih]
      constructor <;> rintro ⟨above, hnear, rfl⟩
      · exact ⟨above, (isNearest_concat h).mpr hnear, rfl⟩
      · exact ⟨above, (isNearest_concat h).mp hnear, rfl⟩

theorem projectFile?_eq_some_iff :
    projectFile? t directory = some place ↔
      ∃ above, IsNearest t directory above ∧ place = above ++ [projectFileName] := by
  rw [projectFile?, nearestFrom_eq_some_iff, List.reverse_reverse]

/-! ## The files of all scopes -/

/-- A file that contributes to a configuration. -/
structure Contribution where
  /-- The scope that it was found in. -/
  scope : Scope
  /-- The path by which it was found. -/
  path : Path
  /-- Where it stands. -/
  place : Place

/-- What is told of a file that contributed. -/
def Contribution.source (f : Contribution) : Source := ⟨f.scope.name, f.path.text⟩

/-- The files that contribute: the user's and the one that the environment
names, if they are files, and the nearest one of the project. -/
inductive Contributes (s : Surroundings) (t : FileTree) (directory : Place) :
    Contribution → Prop
  | user {place : Place} (h : t.locateFile? s.cwd (userFile s.homes) = some place) :
      Contributes s t directory ⟨.user, userFile s.homes, place⟩
  | project {above : Place} (h : IsNearest t directory above) :
      Contributes s t directory ⟨.project,
        FileTree.pathOf (above ++ [projectFileName]),
        above ++ [projectFileName]⟩
  | environment {text : Text} {path : Path} {place : Place}
      (hset : s.override = some text)
      (hne : text ≠ []) (hpath : (Path.ofText text).expandHome s.homes = .ok path)
      (h : t.locateFile? s.cwd path = some place) :
      Contributes s t directory ⟨.environment, path, place⟩

/-- The path that the environment names, if it names one and its home directory
is found. -/
def environmentPath? (s : Surroundings) : Option Path :=
  match s.override with
  | none => none
  | some text =>
    if text.isEmpty then none else ((Path.ofText text).expandHome s.homes).toOption

/-- The file that contributes in a scope, if there is one. -/
def contribution? (s : Surroundings) (t : FileTree) (directory : Place) :
    Scope → Option Contribution
  | .user =>
    (t.locateFile? s.cwd (userFile s.homes)).map fun place =>
      ⟨.user, userFile s.homes, place⟩
  | .project =>
    (projectFile? t directory).map fun place =>
      ⟨.project, FileTree.pathOf place, place⟩
  | .environment =>
    (environmentPath? s).bind fun path =>
      (t.locateFile? s.cwd path).map fun place => ⟨.environment, path, place⟩

/-- The files that contribute, the least scope first. -/
def contributions (s : Surroundings) (t : FileTree) (directory : Place) :
    List Contribution :=
  (contribution? s t directory .user).toList ++
    (contribution? s t directory .project).toList ++
    (contribution? s t directory .environment).toList

theorem environmentPath?_eq_some_iff {path : Path} :
    environmentPath? s = some path ↔
      ∃ text, s.override = some text ∧ text ≠ [] ∧
        (Path.ofText text).expandHome s.homes = .ok path := by
  rw [environmentPath?]
  cases s.override with
  | none => simp
  | some text =>
    by_cases hempty : text = []
    · simp [hempty]
    · have htext : text.isEmpty = false := by simpa using hempty
      cases h : (Path.ofText text).expandHome s.homes <;>
        simp [htext, hempty, h, Except.toOption]

theorem contributes_iff {scope : Scope} {f : Contribution} :
    contribution? s t directory scope = some f ↔ Contributes s t directory f ∧
      f.scope = scope := by
  cases scope with
  | user =>
    rw [contribution?, Option.map_eq_some_iff]
    constructor
    · rintro ⟨place, h, rfl⟩
      exact ⟨.user h, rfl⟩
    · rintro ⟨⟨h⟩ | _ | _, hscope⟩ <;> cases hscope
      exact ⟨_, h, rfl⟩
  | project =>
    rw [contribution?, Option.map_eq_some_iff]
    constructor
    · rintro ⟨place, hplace, rfl⟩
      obtain ⟨above, hnear, rfl⟩ := projectFile?_eq_some_iff.mp hplace
      exact ⟨.project hnear, rfl⟩
    · rintro ⟨_ | ⟨h⟩ | _, hscope⟩ <;> cases hscope
      exact ⟨_, projectFile?_eq_some_iff.mpr ⟨_, h, rfl⟩, rfl⟩
  | environment =>
    rw [contribution?, Option.bind_eq_some_iff]
    simp only [environmentPath?_eq_some_iff, Option.map_eq_some_iff]
    constructor
    · rintro ⟨path, ⟨text, hset, hne, hpath⟩, place, h, rfl⟩
      exact ⟨.environment hset hne hpath h, rfl⟩
    · rintro ⟨_ | _ | ⟨hset, hne, hpath, h⟩, hscope⟩ <;> cases hscope
      exact ⟨_, ⟨_, hset, hne, hpath⟩, _, h, rfl⟩

/-- The list has every file that contributes. -/
theorem mem_contributions {f : Contribution} :
    f ∈ contributions s t directory ↔ Contributes s t directory f := by
  simp only [contributions, List.mem_append, Option.mem_toList, contributes_iff]
  constructor
  · rintro ((⟨h, -⟩ | ⟨h, -⟩) | ⟨h, -⟩) <;> exact h
  · intro h
    cases hscope : f.scope with
    | user => exact Or.inl (Or.inl ⟨h, rfl⟩)
    | project => exact Or.inl (Or.inr ⟨h, rfl⟩)
    | environment => exact Or.inr ⟨h, rfl⟩

/-- How far a scope counts. -/
def Scope.rank : Scope → Nat
  | user => 0
  | project => 1
  | environment => 2

/-- Each scope has at most one file in the list, and the scopes are in order. -/
theorem pairwise_contributions (s : Surroundings) (t : FileTree) (directory : Place) :
    (contributions s t directory).Pairwise fun f g =>
      f.scope.rank < g.scope.rank := by
  have hone : ∀ o : Option Contribution,
      o.toList.Pairwise fun f g => f.scope.rank < g.scope.rank := by
    intro o
    cases o <;> simp
  have hscope : ∀ {scope f}, f ∈ (contribution? s t directory scope).toList →
      f.scope = scope :=
    fun h => (contributes_iff.mp (Option.mem_toList.mp h)).2
  rw [contributions, List.pairwise_append, List.pairwise_append]
  refine ⟨⟨hone _, hone _, ?_⟩, hone _, ?_⟩
  · intro f hf g hg
    rw [hscope hf, hscope hg]
    decide
  · intro f hf g hg
    rw [hscope hg]
    rcases List.mem_append.mp hf with hf | hf <;> rw [hscope hf] <;> decide

/-! ## Loading -/

/-- Lays the configuration of a file that contributes over another one. -/
def loadContribution (homes : Path.Homes) (t : FileTree) (base : Config)
    (f : Contribution) : Except LoadFault Config :=
  loadFile homes t f.scope f.path f.place base

theorem loadPath_eq_foldlM (scope : Scope) (path : Path) (base : Config) :
    loadPath s t scope path base =
      ((t.locateFile? s.cwd path).map fun place =>
        (⟨scope, path, place⟩ : Contribution)).toList.foldlM
        (loadContribution s.homes t) base := by
  rw [foldlM_toList, loadPath]
  cases t.locateFile? s.cwd path <;> rfl

theorem loadProject_eq_foldlM (base : Config) :
    loadProject s t directory base =
      (contribution? s t directory .project).toList.foldlM
        (loadContribution s.homes t) base := by
  rw [foldlM_toList, loadProject, contribution?]
  cases projectFile? t directory <;> rfl

/-- The path that the environment names, if it names one, has a home directory
that is found. -/
def HomeFound (s : Surroundings) : Prop :=
  ∀ text, s.override = some text → text ≠ [] →
    ∃ path, (Path.ofText text).expandHome s.homes = .ok path

theorem loadEnvironment_eq_ok_iff {base c : Config} :
    loadEnvironment s t base = .ok c ↔
      HomeFound s ∧
        (contribution? s t directory .environment).toList.foldlM
          (loadContribution s.homes t) base =
          .ok c := by
  rw [loadEnvironment, contribution?, environmentPath?, HomeFound]
  cases s.override with
  | none =>
    refine ⟨fun h => ⟨fun text htext => ?_, h⟩, And.right⟩
    cases htext
  | some text =>
    by_cases hempty : text = []
    · subst hempty
      refine ⟨fun h => ⟨fun text htext hne => ?_, h⟩, And.right⟩
      exact absurd (Option.some.inj htext).symm hne
    · have htext : text.isEmpty = false := by simpa using hempty
      simp only [htext, Bool.false_eq_true, if_false]
      cases hpath : (Path.ofText text).expandHome s.homes with
      | error e =>
        constructor
        · intro h
          cases h
        · rintro ⟨hfound, -⟩
          obtain ⟨path, hok⟩ := hfound text rfl hempty
          rw [hpath] at hok
          cases hok
      | ok path =>
        rw [Except.toOption, Option.bind_some, ← loadPath_eq_foldlM]
        refine ⟨fun h => ⟨fun text' htext' _ => ⟨path, ?_⟩, h⟩, And.right⟩
        rw [← Option.some.inj htext', hpath]

/-- Loading lays the files that contribute over each other, the least scope first. -/
theorem load_eq_ok_iff {c : Config} :
    load s t directory = .ok c ↔
      HomeFound s ∧
        (contributions s t directory).foldlM (loadContribution s.homes t)
          .empty = .ok c := by
  rw [contributions, List.foldlM_append, List.foldlM_append, load]
  simp only [bind_eq_ok_iff, @loadEnvironment_eq_ok_iff s t directory,
    loadProject_eq_foldlM, loadPath_eq_foldlM]
  constructor
  · rintro ⟨c₁, huser, c₂, hproject, hfound, henvironment⟩
    exact ⟨hfound, c₂, ⟨c₁, huser, hproject⟩, henvironment⟩
  · rintro ⟨hfound, c₂, ⟨c₁, huser, hproject⟩, henvironment⟩
    exact ⟨c₁, huser, c₂, hproject, hfound, henvironment⟩

end ScriptQuote.Config
