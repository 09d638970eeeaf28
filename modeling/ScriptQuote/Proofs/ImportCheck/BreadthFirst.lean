import ScriptQuote.ImportCheck.Finding
import ScriptQuote.Proofs.Fallible
import Mathlib

/-!
# Findings by depth

The check visits a tree by a queue, so what it finds comes in an order of its
own.  Here the same imports are listed by recursion over the blocks of a source,
each with the depth that it stands at, and the two lists are compared.

* Lists by depth.  `ByDepth` says that one list has the entries of another one
  sorted by depth, and those of one depth as they were.  So it has them all, as
  often as the other one does (`ByDepth.perm`).
* The imports of a source.  `importsIn` goes through all nested blocks in the
  order of the source and tells every import with its depth; `bannedIn` keeps
  those of the two modules.
* The queue.  `walk_eq_append` takes one level off it: what the queue holds
  comes first, and then it holds the children of all that.  `byDepth_walk` is
  the induction over the levels.
-/

namespace ScriptQuote.ImportCheck

/-! ## Lists by depth -/

section ByDepth

variable {α : Type} {entries told more : List (Nat × α)} {depth : Nat}

/-- The entries, least depth first, and those of the same depth in the order
that they had. -/
structure ByDepth (entries told : List (Nat × α)) : Prop where
  ascending : told.Pairwise fun a b => a.1 ≤ b.1
  sameDepth : ∀ depth, (told.filter fun e => e.1 == depth) =
    entries.filter fun e => e.1 == depth

theorem ByDepth.perm (h : ByDepth entries told) : told.Perm entries := by
  classical
  rw [List.perm_iff_count]
  intro e
  have hcount : ∀ l : List (Nat × α),
      (l.filter fun a => a.1 == e.1).count e = l.count e :=
    fun l => List.count_filter (p := fun a : Nat × α => a.1 == e.1)
      (beq_self_eq_true e.1)
  rw [← hcount told, h.sameDepth, hcount entries]

/-- What is kept of the entries is kept in the same order. -/
theorem ByDepth.filter (h : ByDepth entries told) (p : Nat × α → Bool) :
    ByDepth (entries.filter p) (told.filter p) where
  ascending := h.ascending.filter p
  sameDepth depth := by rw [List.filter_comm, h.sameDepth, List.filter_comm]

theorem filter_depth_eq_nil (h : ∀ e ∈ entries, e.1 ≠ depth) :
    (entries.filter fun e => e.1 == depth) = [] := by
  rw [List.filter_eq_nil_iff]
  intro e he
  rw [beq_iff_eq]
  exact h e he

theorem filter_depth_eq_self (h : ∀ e ∈ entries, e.1 = depth) :
    (entries.filter fun e => e.1 == depth) = entries := by
  rw [List.filter_eq_self]
  intro e he
  rw [beq_iff_eq]
  exact h e he

end ByDepth

/-! ## The imports of a source -/

/-- What a statement itself imports, banned or not. -/
def Stmt.imports : Stmt → List Finding
  | .importNames line modules => modules.map fun m => ⟨line, .module, m⟩
  | .importFrom line (some m) => [⟨line, .members, m⟩]
  | .importFrom _ none => []
  | .simple _ => []
  | .compound _ _ _ _ _ => []

mutual

/-- What a statement and all statements in it import, in the order of the source
and with the depth at which it stands.  What is in a compound statement is one
deeper, and the body of a clause two. -/
def Stmt.importsAt (depth : Nat) : Stmt → List (Nat × Finding)
  | .compound _ body clauses otherwise cleanup =>
    importsIn (depth + 1) body ++ importsInClauses (depth + 1) clauses ++
      importsIn (depth + 1) otherwise ++ importsIn (depth + 1) cleanup
  | .importNames line modules =>
    (Stmt.importNames line modules).imports.map fun f => (depth, f)
  | .importFrom line source =>
    (Stmt.importFrom line source).imports.map fun f => (depth, f)
  | .simple _ => []

/-- What the statements of a block import. -/
def importsIn (depth : Nat) : List Stmt → List (Nat × Finding)
  | [] => []
  | s :: rest => s.importsAt depth ++ importsIn depth rest

/-- What the statements of some clauses import. -/
def importsInClauses (depth : Nat) : List (List Stmt) → List (Nat × Finding)
  | [] => []
  | body :: rest => importsIn (depth + 1) body ++ importsInClauses depth rest

end

/-- Is it one of the two modules that is imported? -/
def Finding.isOfBanned (f : Finding) : Bool :=
  f.name == Text.ofString "shlex" || f.name == Text.ofString "pipes"

/-- The imports of a source that are banned, in the order of the source and with
their depths. -/
def bannedIn (statements : List Stmt) : List (Nat × Finding) :=
  (importsIn 0 statements).filter fun e => e.2.isOfBanned

namespace Node

/-- What a node itself imports. -/
def imports : Node → List Finding
  | .statement s => s.imports
  | .clause _ => []

/-- What a node and all below it import. -/
def importsAt (depth : Nat) : Node → List (Nat × Finding)
  | .statement s => s.importsAt depth
  | .clause body => importsIn (depth + 1) body

end Node

variable {depth : Nat} {ns : List Node}

theorem importsIn_eq_flatMap (depth : Nat) (ss : List Stmt) :
    importsIn depth ss = (ss.map Node.statement).flatMap (Node.importsAt depth) := by
  induction ss with
  | nil => rfl
  | cons s rest ih =>
    rw [importsIn, ih]
    rfl

theorem importsInClauses_eq_flatMap (depth : Nat) (cs : List (List Stmt)) :
    importsInClauses depth cs =
      (cs.map Node.clause).flatMap (Node.importsAt depth) := by
  induction cs with
  | nil => rfl
  | cons body rest ih =>
    rw [importsInClauses, ih]
    rfl

/-- The recursion in terms of nodes: a node comes before those right below it,
which are one deeper. -/
theorem Node.importsAt_eq (depth : Nat) (n : Node) :
    n.importsAt depth =
      n.imports.map (fun f => (depth, f)) ++
        n.children.flatMap (Node.importsAt (depth + 1)) := by
  match n with
  | .statement (.compound _ body clauses otherwise cleanup) =>
    simp [Node.importsAt, Stmt.importsAt, Node.imports, Stmt.imports, Node.children,
      importsIn_eq_flatMap, importsInClauses_eq_flatMap]
  | .statement (.importNames _ _) =>
    simp [Node.importsAt, Stmt.importsAt, Node.imports, Node.children]
  | .statement (.importFrom _ _) =>
    simp [Node.importsAt, Stmt.importsAt, Node.imports, Node.children]
  | .statement (.simple _) => rfl
  | .clause body =>
    simp [Node.importsAt, Node.imports, Node.children, importsIn_eq_flatMap]

theorem Node.size_le_sizes {n : Node} (h : n ∈ ns) : n.size ≤ Node.sizes ns := by
  induction ns with
  | nil => cases h
  | cons m ns ih =>
    rw [Node.sizes]
    rcases List.mem_cons.mp h with rfl | h
    · exact Nat.le_add_right _ _
    · exact Nat.le_trans (ih h) (Nat.le_add_left _ _)

/-- Nothing below a node is less deep than the node. -/
theorem Node.le_of_mem_importsAt {depth : Nat} {n : Node} {e : Nat × Finding}
    (h : e ∈ n.importsAt depth) : depth ≤ e.1 := by
  rw [Node.importsAt_eq, List.mem_append] at h
  rcases h with hown | hbelow
  · obtain ⟨f, -, rfl⟩ := List.mem_map.mp hown
    exact Nat.le_refl depth
  · obtain ⟨c, hc, he⟩ := List.mem_flatMap.mp hbelow
    have hsmaller : c.size < n.size := by
      rw [Node.size_eq_children n]
      have := Node.size_le_sizes hc
      omega
    exact Nat.le_of_succ_le (Node.le_of_mem_importsAt he)
termination_by n.size

/-- At the depth of some nodes are their own imports. -/
theorem filter_importsAt_self (depth : Nat) (ns : List Node) :
    ((ns.flatMap (Node.importsAt depth)).filter fun e => e.1 == depth) =
      (ns.flatMap Node.imports).map fun f => (depth, f) := by
  induction ns with
  | nil => rfl
  | cons n ns ih =>
    have hown : ∀ e ∈ n.imports.map fun f => (depth, f), e.1 = depth := by
      intro e he
      obtain ⟨f, -, rfl⟩ := List.mem_map.mp he
      rfl
    have hbelow : ∀ e ∈ n.children.flatMap (Node.importsAt (depth + 1)),
        e.1 ≠ depth := by
      intro e he
      obtain ⟨c, -, he⟩ := List.mem_flatMap.mp he
      have := Node.le_of_mem_importsAt he
      omega
    rw [List.flatMap_cons, List.filter_append, Node.importsAt_eq, List.filter_append,
      filter_depth_eq_self hown, filter_depth_eq_nil hbelow, List.append_nil, ih,
      List.flatMap_cons, List.map_append]

/-- At any other depth are the imports of what is right below the nodes, and
further down. -/
theorem filter_importsAt_of_ne {k : Nat} (hk : k ≠ depth) (ns : List Node) :
    ((ns.flatMap (Node.importsAt depth)).filter fun e => e.1 == k) =
      ((ns.flatMap Node.children).flatMap (Node.importsAt (depth + 1))).filter
        fun e => e.1 == k := by
  induction ns with
  | nil => rfl
  | cons n ns ih =>
    have hown : ∀ e ∈ n.imports.map fun f => (depth, f), e.1 ≠ k := by
      intro e he
      obtain ⟨f, -, rfl⟩ := List.mem_map.mp he
      exact hk.symm
    rw [List.flatMap_cons, List.filter_append, Node.importsAt_eq, List.filter_append,
      filter_depth_eq_nil hown, List.nil_append, ih,
        List.flatMap_cons, List.flatMap_append,
      List.filter_append]

/-! ## The queue -/

/-- What a queue holds is visited first, and all that is right below comes
behind what waits. -/
theorem walk_append (xs ys : List Node) :
    Node.walk (xs ++ ys) = xs ++ Node.walk (ys ++ xs.flatMap Node.children) := by
  induction xs generalizing ys with
  | nil => rw [List.nil_append, List.flatMap_nil, List.append_nil, List.nil_append]
  | cons x xs ih =>
    rw [List.cons_append, Node.walk, List.append_assoc, ih, List.flatMap_cons,
      List.append_assoc, List.cons_append]

/-- A level is visited as a whole, and then the level below it. -/
theorem walk_eq_append (ns : List Node) :
    Node.walk ns = ns ++ Node.walk (ns.flatMap Node.children) := by
  have happend := walk_append ns []
  rwa [List.append_nil, List.nil_append] at happend

theorem sizes_eq_children (ns : List Node) :
    Node.sizes ns = ns.length + Node.sizes (ns.flatMap Node.children) := by
  induction ns with
  | nil => rfl
  | cons n ns ih =>
    rw [Node.sizes, Node.size_eq_children n, ih, List.flatMap_cons, Node.sizes_append,
      List.length_cons]
    omega

/-- A level comes before what is below it. -/
theorem byDepth_level {told : List (Nat × Finding)}
    (h : ByDepth
      ((ns.flatMap Node.children).flatMap (Node.importsAt (depth + 1))) told) :
    ByDepth (ns.flatMap (Node.importsAt depth))
      ((ns.flatMap Node.imports).map (fun f => (depth, f)) ++ told) := by
  have hown : ∀ e ∈ (ns.flatMap Node.imports).map fun f => (depth, f),
      e.1 = depth := by
    intro e he
    obtain ⟨f, -, rfl⟩ := List.mem_map.mp he
    rfl
  have hbelow : ∀ e ∈ told, depth + 1 ≤ e.1 := by
    intro e he
    obtain ⟨c, -, hc⟩ := List.mem_flatMap.mp (h.perm.mem_iff.mp he)
    exact Node.le_of_mem_importsAt hc
  constructor
  · refine List.pairwise_append.mpr ⟨?_, h.ascending, ?_⟩
    · exact List.pairwise_map.mpr (List.pairwise_of_forall fun _ _ =>
        Nat.le_refl depth)
    · intro a ha b hb
      have := hown a ha
      have := hbelow b hb
      omega
  · intro k
    rw [List.filter_append]
    by_cases hk : k = depth
    · subst hk
      rw [filter_importsAt_self, filter_depth_eq_self hown, filter_depth_eq_nil,
        List.append_nil]
      intro e he
      have := hbelow e he
      omega
    · rw [filter_importsAt_of_ne hk, h.sameDepth, filter_depth_eq_nil,
        List.nil_append]
      intro e he
      rw [hown e he]
      exact Ne.symm hk

/-- By induction on what the queue holds: the walk tells the imports of some
nodes, and of all below them, by depth. -/
theorem byDepth_walk (depth : Nat) (ns : List Node) :
    ∃ told : List (Nat × Finding),
      (Node.walk ns).flatMap Node.imports = told.map Prod.snd ∧
      ByDepth (ns.flatMap (Node.importsAt depth)) told := by
  by_cases hns : ns = []
  · subst hns
    exact ⟨[], by rw [Node.walk]; rfl, List.Pairwise.nil, fun _ => rfl⟩
  · have hfewer : Node.sizes (ns.flatMap Node.children) < Node.sizes ns := by
      have hlength := List.length_pos_iff.mpr hns
      rw [sizes_eq_children ns]
      omega
    obtain ⟨told, htold, hdepth⟩ :=
      byDepth_walk (depth + 1) (ns.flatMap Node.children)
    refine ⟨_, ?_, byDepth_level hdepth⟩
    have hown : ∀ fs : List Finding,
        (fs.map fun f => (depth, f)).map Prod.snd = fs := by
      intro fs
      rw [List.map_map]
      exact List.map_id fs
    rw [walk_eq_append, List.flatMap_append, htold, List.map_append, hown]
termination_by Node.sizes ns

/-- Of what a node imports, the check tells what is banned. -/
theorem Node.findings_eq_filter (n : Node) :
    n.findings = n.imports.filter Finding.isOfBanned := by
  have hbanned : ∀ m, isBanned m =
      (m == Text.ofString "shlex" || m == Text.ofString "pipes") := by
    intro m
    rw [isBanned, bannedModules, List.contains_cons, List.contains_cons,
      List.contains_nil, Bool.or_false]
  match n with
  | .statement (.importNames line modules) =>
    have hname : isBanned = fun m => Finding.isOfBanned ⟨line, .module, m⟩ :=
      funext hbanned
    rw [findings, Stmt.findings, imports, Stmt.imports, List.filter_map, hname]
    rfl
  | .statement (.importFrom line (some m)) =>
    rw [findings, Stmt.findings, hbanned, imports, Stmt.imports,
      List.filter_cons, List.filter_nil]
    rfl
  | .statement (.importFrom _ none) => rfl
  | .statement (.simple _) => rfl
  | .statement (.compound _ _ _ _ _) => rfl
  | .clause _ => rfl

theorem byDepth_findings (tree : List Stmt) :
    ∃ told : List (Nat × Finding), findings tree = told.map Prod.snd ∧
      ByDepth (bannedIn tree) told := by
  obtain ⟨all, hall, hdepth⟩ := byDepth_walk 0 (tree.map Node.statement)
  rw [← importsIn_eq_flatMap] at hdepth
  refine ⟨all.filter fun e => e.2.isOfBanned, ?_, hdepth.filter _⟩
  have hfindings : Node.findings = fun n => n.imports.filter Finding.isOfBanned :=
    funext Node.findings_eq_filter
  calc findings tree
      = ((Node.walk (tree.map Node.statement)).flatMap Node.imports).filter
        Finding.isOfBanned := by
        rw [findings, hfindings, List.filter_flatMap]
    _ = (all.map Prod.snd).filter Finding.isOfBanned := by rw [hall]
    _ = (all.filter fun e => e.2.isOfBanned).map Prod.snd := List.filter_map

/-- What the check of a source comes to, if it comes to anything. -/
theorem checkWith_eq_ok_iff {parser : Parser} {source : List Char}
    {found : List Finding} :
    checkWith parser source = .ok found ↔
      ∃ tree, parser source = .ok tree ∧ findings tree = found := by
  rw [checkWith, map_eq_ok_iff]

/-- Whichever source a tree is read from, and by whichever parser, the check
tells exactly the banned imports that recursion over the blocks of the tree
comes to, each as often as it stands there: the less deep ones first, and those
of one depth in the order of the source. -/
theorem findings_by_depth (tree : List Stmt) :
    ∃ told : List (Nat × Finding),
      (∀ (parser : Parser) (source : List Char), parser source = .ok tree →
        checkWith parser source = .ok (told.map Prod.snd)) ∧
      told.Perm (bannedIn tree) ∧
      (told.Pairwise fun a b => a.1 ≤ b.1) ∧
      ∀ depth, (told.filter fun e => e.1 == depth) =
        (bannedIn tree).filter fun e => e.1 == depth := by
  obtain ⟨told, htold, hdepth⟩ := byDepth_findings tree
  refine ⟨told, ?_, hdepth.perm, hdepth.ascending, hdepth.sameDepth⟩
  intro parser source hparse
  exact checkWith_eq_ok_iff.mpr ⟨tree, hparse, htold⟩

/-- An import in a handler, one in the branch beside it, and one behind them all. -/
def importsInHandler : List Char :=
  "try: x\nexcept: import os, shlex\nelse:\n from pipes import a\nimport pipes\n".toList

/-- The tree of that source. -/
def importsInHandlerTree : List Stmt :=
  [.compound 1 [.simple 1] [[.importNames 2 ["os", "shlex"]]]
    [.importFrom 4 (some (Text.ofString "pipes"))] [], .importNames 5 ["pipes"]]

/-- Its imports by depth. -/
def importsInHandlerByDepth : List (Nat × Finding) :=
  [(0, ⟨5, .module, "pipes"⟩), (1, ⟨4, .members, "pipes"⟩),
    (2, ⟨2, .module, "shlex"⟩)]

/-- A handler stands a level deeper than the branch beside it, and its import
comes after the one in the branch although it stands before it. -/
theorem findings_by_depth_handler :
    python importsInHandler = .ok importsInHandlerTree ∧
      bannedIn importsInHandlerTree = importsInHandlerByDepth.reverse ∧
      checkWith python importsInHandler =
        .ok (importsInHandlerByDepth.map Prod.snd) := by
  have hparse : python importsInHandler = .ok importsInHandlerTree := by cbv
  have hbanned : bannedIn importsInHandlerTree =
      importsInHandlerByDepth.reverse := by cbv
  obtain ⟨told, hcheck, hperm, hascending, -⟩ :=
    findings_by_depth importsInHandlerTree
  have hentries : told.Perm importsInHandlerByDepth :=
    (hbanned ▸ hperm).trans (List.reverse_perm _)
  have hdistinct : ∀ a ∈ importsInHandlerByDepth, ∀ b ∈ importsInHandlerByDepth,
      a.1 = b.1 → a = b := by decide
  have htold : told = importsInHandlerByDepth := by
    refine hentries.eq_of_pairwise ?_ hascending (by decide)
    intro a b ha hb hab hba
    exact hdistinct a (hentries.mem_iff.mp ha) b hb (Nat.le_antisymm hab hba)
  exact ⟨hparse, hbanned, htold ▸ hcheck python importsInHandler hparse⟩

end ScriptQuote.ImportCheck
