import Mathlib.Logic.Relation
import ViewDoc.Canonical.Basic
import ViewDoc.Proofs.Tree.Positions
import ViewDoc.Scope.Data
/-!
Where consumers of a document go from a node: to its children, and from a list to the node that it
names for its empty state. The main statement is that every step leads to a node of lower rank when
no node leads back to itself.
-/

set_option autoImplicit false

namespace ViewDoc

/-- An id under which a list looks for the node of its empty state: the text that it gives, with or
without the blanks around it. -/
def ListDecl.NamesEmpty (l : ListDecl) (id : String) : Prop :=
  ∃ s, l.emptyNodeId = .str s ∧ (id = s ∨ id = Text.trim s)

namespace CanonicalDocument

open Relation (TransGen)

/-- A node leads to its children, and a list to the node for its empty state. -/
inductive LeadsTo (d : CanonicalDocument) : CanonicalNode -> CanonicalNode -> Prop where
  | child {t c : CanonicalNode} (below : c ∈ t.children) : LeadsTo d t c
  | empty {t c : CanonicalNode} {l : ListDecl} {id : String} (list : t.value.list = some l)
      (named : l.NamesEmpty id) (found : d.node? id = some c) : LeadsTo d t c

/-- No node of the document leads back to itself. -/
def Acyclic (d : CanonicalDocument) : Prop :=
  ∀ t ∈ d.root.walk, ¬ TransGen d.LeadsTo t t

open Classical in
/-- The number of nodes that a node leads to in one step or more. -/
noncomputable def rank (d : CanonicalDocument) (t : CanonicalNode) : Nat :=
  (d.root.walk.filter fun c => TransGen d.LeadsTo t c).length

variable {d : CanonicalDocument} {t c : CanonicalNode}

theorem LeadsTo.mem_walk (leads : d.LeadsTo t c) (mem : t ∈ d.root.walk) : c ∈ d.root.walk := by
  cases leads with
  | child below => exact Tree.mem_walk_of_mem_children mem below
  | empty list named found => exact List.mem_of_find?_eq_some found

/-- Every step goes to a node of lower rank. -/
theorem Acyclic.rank_lt (acyclic : d.Acyclic) (leads : d.LeadsTo t c) (mem : t ∈ d.root.walk) :
    d.rank c < d.rank t := by
  classical
  have inner := leads.mem_walk mem
  have onward (n : CanonicalNode) (reached : TransGen d.LeadsTo c n) : TransGen d.LeadsTo t n :=
    .head leads reached
  have nested : (d.root.walk.filter fun n => TransGen d.LeadsTo c n) =
      (d.root.walk.filter fun n => TransGen d.LeadsTo t n).filter
        fun n => TransGen d.LeadsTo c n := by
    rw [List.filter_filter]
    refine List.filter_congr fun n _ => ?_
    simpa using onward n
  rw [rank, rank, nested, List.length_filter_lt_length_iff_exists]
  refine ⟨c, List.mem_filter.mpr ⟨inner, ?_⟩, ?_⟩
  · simpa using TransGen.single leads
  · simpa using acyclic c inner

theorem Acyclic.rank_lt_size (acyclic : d.Acyclic) (mem : t ∈ d.root.walk) :
    d.rank t < d.root.size := by
  classical
  rw [rank, Tree.size, List.length_filter_lt_length_iff_exists]
  exact ⟨t, mem, by simpa using acyclic t mem⟩

end CanonicalDocument

end ViewDoc
