/-!
Finitely branching trees, in document order: a node comes before its children, and these come from
left to right.
-/

set_option autoImplicit false

namespace ViewDoc

/-- A tree with a value at every node. -/
inductive Tree (α : Type) where
  | node (value : α) (children : List (Tree α))
  deriving Repr, Inhabited

namespace Tree

variable {α β : Type}

/-- The value at the root. -/
def value : Tree α -> α
  | .node a _ => a

/-- The subtrees below the root. -/
def children : Tree α -> List (Tree α)
  | .node _ cs => cs

mutual

/-- The tree and all subtrees below it, in document order. -/
def walk : Tree α -> List (Tree α)
  | .node a cs => .node a cs :: walkAll cs

/-- All subtrees of a list of trees, in document order. -/
def walkAll : List (Tree α) -> List (Tree α)
  | [] => []
  | t :: rest => walk t ++ walkAll rest

end

mutual

/-- The tree with every value replaced. -/
def map (f : α -> β) : Tree α -> Tree β
  | .node a cs => .node (f a) (mapAll f cs)

/-- The trees with every value replaced. -/
def mapAll (f : α -> β) : List (Tree α) -> List (Tree β)
  | [] => []
  | t :: rest => map f t :: mapAll f rest

end

mutual

/-- The values with their positions below a position, in document order. -/
def located (place : List Nat) : Tree α -> List (List Nat × α)
  | .node a cs => (place, a) :: locatedAll place 0 cs

/-- The same for trees that are children numbered from `i`. -/
def locatedAll (place : List Nat) (i : Nat) : List (Tree α) -> List (List Nat × α)
  | [] => []
  | t :: rest => located (place ++ [i]) t ++ locatedAll place (i + 1) rest

end

/-- The positions of all nodes with their values, in document order. A position tells the number of
the child to take at every step from the root. -/
def positions (t : Tree α) : List (List Nat × α) :=
  t.located []

/-- The subtree at a position. -/
def at? (t : Tree α) : List Nat -> Option (Tree α)
  | [] => some t
  | i :: rest =>
    match t.children[i]? with
    | some c => c.at? rest
    | none => none

/-- The values on the way from the root to a position, with both ends. -/
def along (t : Tree α) : List Nat -> List α
  | [] => [t.value]
  | i :: rest =>
    t.value ::
      match t.children[i]? with
      | some c => c.along rest
      | none => []

/-- The number of nodes. -/
def size (t : Tree α) : Nat :=
  t.walk.length

/-- A property of trees holds when it passes from the children to every node. -/
@[elab_as_elim]
theorem induct {motive : Tree α -> Prop}
    (node : ∀ a cs, (∀ c ∈ cs, motive c) -> motive (.node a cs)) (t : Tree α) : motive t :=
  @Tree.rec α motive (fun cs => ∀ c ∈ cs, motive c) node (by simp)
    (fun _ _ head tail => List.forall_mem_cons.mpr ⟨head, tail⟩) t

end Tree

end ViewDoc
