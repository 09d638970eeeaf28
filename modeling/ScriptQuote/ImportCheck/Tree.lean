import ScriptQuote.Text.Basic

/-!
# Statements of Python sources

A source as far as imports matter: which statements import something, on which line,
and how statements are nested.  Handlers of a try statement and cases of a match
statement are a level of their own between the statement and their bodies, while an
alternative condition is a statement inside the branch before it.

`Node.walk` visits a tree breadth first, by a queue.  `Node.size` is what the queue
loses on each visit.
-/

namespace ScriptQuote.ImportCheck

/-- A statement. -/
inductive Stmt
  /-- Imports modules by their names. -/
  | importNames (line : Nat) (modules : List Text)
  /-- Imports from a module; without a name, from the package itself. -/
  | importFrom (line : Nat) (source : Option Text)
  /-- Imports nothing and holds no statements. -/
  | simple (line : Nat)
  /-- Holds statements: a body, clauses of their own level, what is done
  otherwise, and what is done at the end. -/
  | compound (line : Nat) (body : List Stmt) (clauses : List (List Stmt))
      (otherwise cleanup : List Stmt)

/-- A node of the tree: a statement, or a clause with its statements. -/
inductive Node
  | statement (s : Stmt)
  | clause (body : List Stmt)

namespace Node

/-- The nodes right below a node, in the order of the source. -/
def children : Node → List Node
  | .statement (.compound _ body clauses otherwise cleanup) =>
    body.map statement ++ clauses.map clause ++ otherwise.map statement ++
      cleanup.map statement
  | .statement _ => []
  | .clause body => body.map statement

end Node

mutual

/-- The number of nodes of a statement. -/
def Stmt.size : Stmt → Nat
  | .importNames _ _ => 1
  | .importFrom _ _ => 1
  | .simple _ => 1
  | .compound _ body clauses otherwise cleanup =>
    1 + sizeAll body + sizeClauses clauses + sizeAll otherwise + sizeAll cleanup

/-- The number of nodes of some statements. -/
def sizeAll : List Stmt → Nat
  | [] => 0
  | s :: rest => s.size + sizeAll rest

/-- The number of nodes of some clauses. -/
def sizeClauses : List (List Stmt) → Nat
  | [] => 0
  | body :: rest => 1 + sizeAll body + sizeClauses rest

end

namespace Node

/-- The number of nodes at and below a node. -/
def size : Node → Nat
  | .statement s => s.size
  | .clause body => 1 + sizeAll body

/-- The number of nodes at and below some nodes. -/
def sizes : List Node → Nat
  | [] => 0
  | n :: ns => n.size + sizes ns

theorem sizes_append (xs ys : List Node) :
    sizes (xs ++ ys) = sizes xs + sizes ys := by
  induction xs with
  | nil => simp [sizes]
  | cons n rest ih =>
    simp only [List.cons_append, sizes, ih]
    omega

theorem sizes_map_statement (ss : List Stmt) :
    sizes (ss.map statement) = sizeAll ss := by
  induction ss with
  | nil => rfl
  | cons s rest ih =>
    simp only [sizes, List.map_cons, size, sizeAll] at ih ⊢
    omega

theorem sizes_map_clause (cs : List (List Stmt)) :
    sizes (cs.map clause) = sizeClauses cs := by
  induction cs with
  | nil => rfl
  | cons c rest ih =>
    simp only [sizes, List.map_cons, size, sizeClauses] at ih ⊢
    omega

/-- A node counts for itself on top of what is below it. -/
theorem size_eq_children (n : Node) : n.size = 1 + sizes n.children := by
  match n with
  | .statement (.compound _ body clauses otherwise cleanup) =>
    simp only [size, Stmt.size, children, sizes_append, sizes_map_statement,
      sizes_map_clause]
    omega
  | .statement (.importNames _ _) => rfl
  | .statement (.importFrom _ _) => rfl
  | .statement (.simple _) => rfl
  | .clause body => simp only [size, children, sizes_map_statement]

/-- Visits the nodes of a queue and all below them, breadth first. -/
def walk : List Node → List Node
  | [] => []
  | n :: queue => n :: walk (queue ++ n.children)
termination_by queue => sizes queue
decreasing_by
  have h := size_eq_children n
  rw [sizes_append]
  simp only [sizes]
  omega

end Node

end ScriptQuote.ImportCheck
