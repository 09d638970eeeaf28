import ScriptQuote.FileTree
import Mathlib.Tactic.SplitIfs

/-!
# Trees of files that grow

The operations that go by paths are made of one change, `set`, so what they
leave alone can be read off what stands at each place before and after
(`node?_set`).

* Growing.  `Grows` is what these operations have in common: directories stay,
  and no file loses what it held.  A path that leads somewhere goes on to lead
  there (`walk_of_grows`, `target?_of_grows`).
* Making directories and opening files.  Both only add to the tree, whether they
  fail or not.  `openForAppend_cases` says which file is opened.
* Adding to a file.  `Adds` is a change at the end of one file, and
  `adds_append` says that adding bytes is no more than that.
-/

namespace ScriptQuote.FileTree

variable {t t' t'' : FileTree} {cwd place p q : Place} {path : Path}
  {parts : List Text} {content bytes : List UInt8}

/-! ## One change -/

theorem node?_of_ne_nil (hplace : place ≠ []) :
    t.node? place = (t.nodes.find? fun n => n.1 == place).map Prod.snd := by
  rw [node?, if_neg (by simpa using hplace)]

theorem name_of_find? {nodes : List (Place × Node)} {m : Place × Node}
    (h : (nodes.find? fun n => n.1 == place) = some m) : m.1 = place := by
  have hbeq : (m.1 == place) = true :=
    List.find?_some (p := fun n : Place × Node => n.1 == place) h
  exact eq_of_beq hbeq

/-- A change is seen at its place and nowhere else. -/
theorem node?_set (hplace : place ≠ []) (n : Node) (p : Place) :
    (t.set place n).node? p = if p = place then some n else t.node? p := by
  by_cases hp : p = []
  · rw [hp, if_neg (Ne.symm hplace)]
    rfl
  rw [node?_of_ne_nil hp, node?_of_ne_nil hp, set, node?_of_ne_nil hplace,
    Option.isSome_map]
  split
  · rename_i hthere
    have hname : ∀ m : Place × Node,
        (if m.1 == place then (place, n) else m).1 = m.1 := by
      intro m
      split
      · rename_i hm
        exact (eq_of_beq hm).symm
      · rfl
    simp only [List.find?_map, Function.comp_def, hname]
    by_cases h : p = place
    · obtain ⟨m, hm⟩ := Option.isSome_iff_exists.mp hthere
      have hmp := name_of_find? hm
      subst h
      simp [hm, hmp]
    · cases hm : t.nodes.find? fun n => n.1 == p with
      | none => simp [h]
      | some m =>
        have hmp := name_of_find? hm
        simp [h, hmp]
  · rename_i hnot
    rw [Bool.not_eq_true, Option.isSome_eq_false_iff,
      Option.isNone_iff_eq_none] at hnot
    by_cases h : p = place
    · subst h
      simp [hnot]
    · have hne : (place == p) = false := beq_false_of_ne (Ne.symm h)
      simp [h, hne]

theorem isFile_iff :
    t.isFile place = true ↔
      ∃ content, t.node? place = some (.file content) := by
  unfold isFile
  split
  · rename_i content h
    exact ⟨fun _ => ⟨content, h⟩, fun _ => rfl⟩
  · rename_i h
    constructor
    · intro hfile
      cases hfile
    · intro hfile
      obtain ⟨content, hcontent⟩ := hfile
      exact absurd hcontent (h content)

theorem content?_of_node? (h : t.node? place = some (.file content)) :
    t.content? place = some content := by
  rw [content?, h]

/-! ## Growing -/

/-- Nothing is lost: directories stay, and files hold what they held, with more
behind it or not. -/
structure Grows (t t' : FileTree) : Prop where
  directory : ∀ p, t.node? p = some .directory → t'.node? p = some .directory
  file : ∀ p content, t.node? p = some (.file content) →
    ∃ more, t'.node? p = some (.file (content ++ more))

theorem Grows.refl (t : FileTree) : Grows t t where
  directory _ h := h
  file _ _ h := ⟨[], by rw [List.append_nil, h]⟩

theorem Grows.trans (h : Grows t t') (h' : Grows t' t'') : Grows t t'' where
  directory p hp := h'.directory p (h.directory p hp)
  file p content hp := by
    obtain ⟨more, hmore⟩ := h.file p content hp
    obtain ⟨more', hmore'⟩ := h'.file p (content ++ more) hmore
    exact ⟨more ++ more', by rw [hmore', List.append_assoc]⟩

theorem Grows.isFile (h : Grows t t') (hfile : t.isFile place = true) :
    t'.isFile place = true := by
  obtain ⟨content, hcontent⟩ := isFile_iff.mp hfile
  obtain ⟨more, hmore⟩ := h.file place content hcontent
  exact isFile_iff.mpr ⟨content ++ more, hmore⟩

theorem Grows.isSome_node? (h : Grows t t') (hthere : (t.node? p).isSome = true) :
    (t'.node? p).isSome = true := by
  obtain ⟨n, hn⟩ := Option.isSome_iff_exists.mp hthere
  cases n with
  | directory =>
    rw [h.directory p hn]
    rfl
  | file content =>
    obtain ⟨more, hmore⟩ := h.file p content hn
    rw [hmore]
    rfl

/-- A walk needs nothing but the directories on its way and something at each
place it comes to. -/
theorem walk_of_grows (h : Grows t t') (hwalk : t.walk place parts = .ok q) :
    t'.walk place parts = .ok q := by
  induction parts generalizing place with
  | nil => exact hwalk
  | cons name rest ih =>
    rw [walk] at hwalk ⊢
    split at hwalk
    · cases hwalk
    · cases hwalk
    · rename_i hdirectory
      rw [h.directory place hdirectory]
      simp only
      split_ifs at hwalk with hhere hup hthere
      · rw [if_pos hhere]
        exact ih hwalk
      · rw [if_neg hhere, if_pos hup]
        exact ih hwalk
      · rw [if_neg hhere, if_neg hup, if_pos (h.isSome_node? hthere)]
        exact ih hwalk

/-- The place that the last component of a path names in the directory that the
others lead to. -/
def target? (t : FileTree) (cwd : Place) (path : Path) : Option Place :=
  match t.parentOf cwd path with
  | .ok (directory, name) => some (directory ++ [name])
  | .error _ => none

theorem parentOf_of_grows (h : Grows t t') {r : Place × Text}
    (hparent : t.parentOf cwd path = .ok r) : t'.parentOf cwd path = .ok r := by
  unfold parentOf at hparent ⊢
  split at hparent
  · cases hparent
  · split at hparent
    · cases hparent
    · rename_i directory hwalk
      rw [walk_of_grows h hwalk]
      simp only
      split at hparent
      · rename_i hdirectory
        rw [h.directory directory hdirectory]
        exact hparent
      · cases hparent
      · cases hparent

theorem target?_of_grows (h : Grows t t')
    (htarget : t.target? cwd path = some place) :
    t'.target? cwd path = some place := by
  unfold target? at htarget
  split at htarget
  · rename_i hparent
    rw [target?, parentOf_of_grows h hparent]
    exact htarget
  · cases htarget

/-! ## Making directories and opening files -/

theorem ne_nil_of_node?_eq_none (h : t.node? place = none) : place ≠ [] := by
  intro hnil
  subst hnil
  cases h

/-- Nothing is lost where nothing was. -/
theorem grows_set (h : t.node? place = none) (n : Node) :
    Grows t (t.set place n) := by
  have hkept : ∀ p m, t.node? p = some m → (t.set place n).node? p = some m := by
    intro p m hm
    rw [node?_set (ne_nil_of_node?_eq_none h), if_neg]
    · exact hm
    · intro hp
      rw [hp, h] at hm
      cases hm
  exact ⟨fun p hp => hkept p _ hp, fun p content hp =>
    ⟨[], by rw [List.append_nil, hkept p _ hp]⟩⟩

theorem grows_makeDirectory (h : t.makeDirectory cwd path = .ok t') : Grows t t' := by
  unfold makeDirectory at h
  split at h
  · cases h
  · split at h
    · cases h
    · split_ifs at h with htaken
      cases h
      rw [Bool.or_eq_true, not_or, Bool.not_eq_true, Bool.not_eq_true,
        Option.isSome_eq_false_iff, Option.isNone_iff_eq_none] at htaken
      exact grows_set htaken.2 .directory

theorem grows_ensureChild (t : FileTree) (cwd : Place) (path : Path) :
    Grows t (t.ensureChild cwd path).1 := by
  unfold ensureChild
  split
  · exact grows_makeDirectory ‹_›
  · exact Grows.refl t
  · split <;> exact Grows.refl t

/-- What was made on the way to a directory stays if the making fails later on. -/
theorem grows_ensureDirectory (t : FileTree) (cwd : Place) (path : Path) :
    Grows t (t.ensureDirectory cwd path).1 := by
  fun_induction ensureDirectory t cwd path with
  | case1 path t' h => exact grows_makeDirectory h
  | case2 => exact Grows.refl t
  | case3 path _ _ _ t' hparent ih =>
    rw [hparent] at ih
    exact ih.trans (grows_ensureChild t' cwd path)
  | case4 path _ _ _ t' e hparent ih =>
    rw [hparent] at ih
    exact ih
  | case5 path _ _ _ => exact grows_ensureChild t cwd path

/-- The file that is opened is where the path says, and it is there afterwards. -/
theorem openForAppend_cases (h : t.openForAppend cwd path = .ok (t', place)) :
    Grows t t' ∧ t'.isFile place = true ∧ t'.target? cwd path = some place := by
  unfold openForAppend at h
  split_ifs at h
  split at h
  · cases h
  · split at h
    · cases h
    · rename_i directory name hparent
      have htarget : t.target? cwd path = some (directory ++ [name]) := by
        rw [target?, hparent]
      split_ifs at h
      split at h
      · cases h
      · rename_i content hfile
        cases h
        exact ⟨Grows.refl t, isFile_iff.mpr ⟨content, hfile⟩, htarget⟩
      · rename_i hfree
        cases h
        have hgrows := grows_set hfree (.file [])
        refine ⟨hgrows, isFile_iff.mpr ⟨[], ?_⟩, target?_of_grows hgrows htarget⟩
        rw [node?_set (ne_nil_of_node?_eq_none hfree), if_pos rfl]

/-! ## Adding to a file -/

/-- Some bytes come to the end of one file, and nothing else changes. -/
structure Adds (t t' : FileTree) (place : Place) (bytes : List UInt8) : Prop where
  here : ∃ content, t.node? place = some (.file content) ∧
    t'.node? place = some (.file (content ++ bytes))
  elsewhere : ∀ p, p ≠ place → t'.node? p = t.node? p

theorem adds_append (h : t.isFile place = true) (bytes : List UInt8) :
    Adds t (t.append place bytes) place bytes := by
  obtain ⟨content, hcontent⟩ := isFile_iff.mp h
  have hplace : place ≠ [] := by
    intro hnil
    subst hnil
    cases hcontent
  have happend : t.append place bytes = t.set place (.file (content ++ bytes)) := by
    rw [append, content?_of_node? hcontent]
  rw [happend]
  refine ⟨⟨content, hcontent, ?_⟩, ?_⟩
  · rw [node?_set hplace, if_pos rfl]
  · intro p hp
    rw [node?_set hplace, if_neg hp]

theorem Adds.grows (h : Adds t t' place bytes) : Grows t t' := by
  obtain ⟨held, hbefore, hafter⟩ := h.here
  refine ⟨?_, ?_⟩
  · intro p hp
    by_cases hplace : p = place
    · rw [hplace, hbefore] at hp
      cases hp
    · rw [h.elsewhere p hplace, hp]
  · intro p content hp
    by_cases hplace : p = place
    · rw [hplace, hbefore] at hp
      cases hp
      exact ⟨bytes, hplace ▸ hafter⟩
    · exact ⟨[], by rw [List.append_nil, h.elsewhere p hplace, hp]⟩

end ScriptQuote.FileTree
