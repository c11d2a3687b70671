import ViewDoc.Proofs.Nesting.Markup
import ViewDoc.Proofs.Nesting.Rank
import ViewDoc.Proofs.Nesting.Values
import ViewDoc.Validation
import ViewDoc.View.Render
/-!
When rendering and drafting end. A view is drawn within every budget above the rank of its node,
because each level of the recursion goes to a node of lower rank. The main statement is that a budget
of the size of the tree suffices for both when no node leads back to itself. Validation lets documents
through in which one does.
-/

set_option autoImplicit false

namespace ViewDoc

theorem ListDecl.emptyNodeId_plan {l : ListDecl} {scope : Value} {ctx : Context} {p : ListPlan}
    (planned : l.plan scope ctx = .ok p) : p.emptyNodeId = l.emptyNodeId.word? := by
  obtain ⟨v, -, rest⟩ := Fault.exists_of_bind_ok planned
  split at rest
  · obtain ⟨es, -, done⟩ := Fault.exists_of_bind_ok rest
    cases done
    rfl
  · cases rest
    rfl

theorem ListDecl.namesEmpty_of_word? {l : ListDecl} {id : String}
    (word : l.emptyNodeId.word? = some id) : l.NamesEmpty id := by
  cases given : l.emptyNodeId with
  | str s =>
    rw [given, Value.word?, Value.asText?, Option.bind_some, Text.trimmed?] at word
    split at word
    · cases word
    · exact ⟨s, given, .inr (Option.some.inj word).symm⟩
  | _ => simp [given, Value.word?, Value.asText?] at word

namespace Stage

variable (s : Stage) (frame : Frame)

theorem shallow_resolve (v : Value) : (s.resolve frame v).Shallow :=
  .ofExcept (Value.shallow_resolve _ _ v)

theorem shallow_noteStylesheets (v : Value) : (noteStylesheets v).Shallow := by
  cases v with
  | list items => exact .forM_note _ _
  | _ => exact .pure ()

theorem shallow_propsOf (omitted : List String) (props : Entries) :
    (s.propsOf frame omitted props).Shallow := by
  induction props with
  | nil => exact .pure []
  | cons p rest ih =>
    obtain ⟨key, v⟩ := p
    rw [propsOf]
    split
    · exact ih
    · refine .bind (s.shallow_resolve frame v) fun shown => ?_
      split
      · exact .bind (shallow_noteStylesheets shown) fun _ => ih
      · exact .bind ih fun _ => .pure _

theorem shallow_eventsOf (events : List (String × EventBinding)) :
    (s.eventsOf frame events).Shallow := by
  induction events with
  | nil => exact .pure []
  | cons e rest ih =>
    obtain ⟨key, e⟩ := e
    refine .bind (s.shallow_resolve frame _) fun params => ?_
    exact .bind ih fun _ => .pure _

theorem shallow_elementOf (n : CanonicalFields) (r : Resolution) :
    (s.elementOf frame n r).Shallow := by
  refine .bind (s.shallow_propsOf frame _ _) fun props => ?_
  refine .bind (s.shallow_resolve frame _) fun style => ?_
  exact .bind (s.shallow_eventsOf frame _) fun events => .pure _

theorem shallow_resolutionOf (n : CanonicalFields) : (s.resolutionOf n).Shallow := by
  refine .bind (.forM_note _ _) fun _ => ?_
  exact .bind (.forM_note _ _) fun _ => .pure _

theorem shallow_routePathOf (n : CanonicalFields) : Shallow (s.routePathOf frame n) := by
  refine .bind (Value.shallow_resolveOne _ _) fun v => ?_
  split <;> exact .ok _

theorem shallow_candidateOf (c : CanonicalNode) : Shallow (candidateOf frame c) :=
  .bind (Value.shallow_resolveOne _ _) fun _ => .ok _

section

variable {s} {draw : Frame -> CanonicalNode -> Noted ViewNote View} {t : CanonicalNode}
  (each : ∀ frame c, s.document.LeadsTo t c -> (draw frame c).Shallow)

include each

theorem shallow_routeViews : (s.routeViews draw frame t.value t.children).Shallow := by
  refine .bind (.ofExcept (s.shallow_routePathOf frame _)) fun path => ?_
  have candidates : Shallow (t.children.mapM (candidateOf frame)) :=
    .mapM fun c _ => shallow_candidateOf frame c
  refine .bind (.ofExcept candidates) fun candidates => ?_
  dsimp only
  split
  · rename_i child chosen
    obtain ⟨i, -, found⟩ := Option.bind_eq_some_iff.mp chosen
    exact .bind (each _ child (.child (List.mem_of_getElem? found))) fun _ => .pure _
  · refine .bind (.ofExcept (Value.shallow_resolveOne _ _)) fun text => ?_
    exact .pure _

theorem shallow_listViews {l : ListDecl} (list : t.value.list = some l) :
    (s.listViews draw frame l t.children).Shallow := by
  refine .bind_ofExcept (l.shallow_plan _ _) fun plan planned => ?_
  have named := ListDecl.emptyNodeId_plan planned
  split
  · split
    · rename_i c found
      obtain ⟨id, word, found⟩ := Option.bind_eq_some_iff.mp found
      have leads := CanonicalDocument.LeadsTo.empty list
        (ListDecl.namesEmpty_of_word? (named.symm.trans word)) found
      exact .bind (each frame c leads) fun _ => .pure _
    · exact .pure []
  · refine .mapM fun e _ => .bind (.mapM fun c mem => ?_) fun _ => .pure _
    exact each _ c (.child (List.mem_filter.mp mem).1)

theorem shallow_childViews : (s.childViews draw frame t.value t.children).Shallow := by
  rw [childViews]
  split
  · exact shallow_routeViews frame each
  · split
    · rename_i l list
      exact shallow_listViews frame each list
    · exact .mapM fun c mem => each frame c (.child mem)

end

/-- A node is drawn within every budget above its rank. -/
theorem shallow_viewOf (acyclic : s.document.Acyclic) {budget : Nat} {t : CanonicalNode}
    (mem : t ∈ s.document.root.walk) (room : s.document.rank t < budget) :
    (s.viewOf budget frame t).Shallow := by
  induction budget generalizing frame t with
  | zero => exact absurd room (Nat.not_lt_zero _)
  | succ budget ih =>
    have each (frame : Frame) (c : CanonicalNode) (leads : s.document.LeadsTo t c) :
        (s.viewOf budget frame c).Shallow := by
      have lower := acyclic.rank_lt leads mem
      exact ih frame (leads.mem_walk mem) (by omega)
    refine .bind (.ofExcept (shallow_dataScope _ _ _ _)) fun scope => ?_
    refine .bind (s.shallow_resolutionOf _) fun r => ?_
    refine .bind (s.shallow_elementOf _ _ r) fun fields => ?_
    split
    · exact .pure _
    · refine .bind (.ofExcept (Value.shallow_resolveOne _ _)) fun text => ?_
      dsimp only
      split
      · exact .pure _
      · exact .bind (shallow_childViews _ each) fun _ => .pure _

end Stage

namespace CanonicalDocument

open Relation (TransGen)

/-- A document has no node that leads back to itself if some measure falls with every step. -/
theorem acyclic_of_measure {d : CanonicalDocument} (measure : CanonicalNode -> Nat)
    (falls : ∀ t ∈ d.root.walk, ∀ c, d.LeadsTo t c -> measure c < measure t) : d.Acyclic := by
  have chain {t c : CanonicalNode} (mem : t ∈ d.root.walk) (reached : TransGen d.LeadsTo t c) :
      measure c < measure t ∧ c ∈ d.root.walk := by
    induction reached with
    | single leads => exact ⟨falls _ mem _ leads, leads.mem_walk mem⟩
    | tail _ leads ih => exact ⟨Nat.lt_trans (falls _ ih.2 _ leads) ih.1, leads.mem_walk ih.2⟩
  exact fun t mem cycle => Nat.lt_irrefl _ (chain mem cycle).1

end CanonicalDocument

/-- Rendering and drafting end within the size of the tree when no node leads back to itself. -/
theorem ends_of_acyclic {d : CanonicalDocument} (acyclic : d.Acyclic) {budget : Nat}
    (room : d.root.size ≤ budget) :
    (∀ s : Stage, s.document = d -> ∀ frame,
        s.viewOf budget frame d.root ≠ .error .tooDeep) ∧
      ∀ b : Tsx.Blueprint, b.document = d -> ∀ scope,
        Tsx.Draft.node b budget scope d.root ≠ .error .tooDeep := by
  have mem : d.root ∈ d.root.walk := Tree.mem_walk_self d.root
  have above : d.rank d.root < budget := Nat.lt_of_lt_of_le (acyclic.rank_lt_size mem) room
  constructor
  · rintro s rfl frame
    exact s.shallow_viewOf frame acyclic mem above
  · rintro b rfl scope
    exact Tsx.Draft.shallow_node scope acyclic mem above

/-- A list whose empty state is one of its children. -/
def ownEmptyState : CanonicalDocument :=
  { version := "1.2",
    root := .node { id := "list", type := "MdrDiv", list := some { emptyNodeId := .str "none" } }
      [.node { id := "none", type := "MdrText" } []] }

theorem ownEmptyState_ends :
    ownEmptyState.Acyclic ∧ ownEmptyState.root.size = 2 ∧
      (∀ s : Stage, s.document = ownEmptyState -> ∀ frame,
        s.viewOf 2 frame ownEmptyState.root ≠ .error .tooDeep) ∧
      ∀ b : Tsx.Blueprint, b.document = ownEmptyState -> ∀ scope,
        Tsx.Draft.node b 2 scope ownEmptyState.root ≠ .error .tooDeep := by
  have acyclic : ownEmptyState.Acyclic := by
    refine CanonicalDocument.acyclic_of_measure Tree.size fun t mem c leads => ?_
    have two : t = ownEmptyState.root ∨ t = .node { id := "none", type := "MdrText" } [] := by
      simpa [ownEmptyState, Tree.walk, Tree.walkAll] using mem
    cases leads with
    | child below =>
      rcases two with rfl | rfl
      · obtain rfl := List.mem_singleton.mp below
        decide
      · cases below
    | @empty _ name list named found =>
      rcases two with rfl | rfl
      · cases list
        obtain ⟨s, given, same⟩ := named
        cases given
        obtain rfl : name = "none" := same.elim (fun own => own) fun trimmed => trimmed
        cases found
        decide
      · cases list
  exact ⟨acyclic, rfl, ends_of_acyclic acyclic (Nat.le_refl 2)⟩

/-- A list that names itself for its empty state. -/
def selfNamingList : Value :=
  .object [("version", .str "1.2"), ("ui", .object [("root", .object [("id", .str "root"),
    ("type", .str "MdrDiv"), ("list", .object [("emptyNodeId", .str "root")])])])]

/-- Its canonical form. -/
def selfNamingDocument : CanonicalDocument :=
  { version := "1.2",
    root := .node { id := "root", type := "MdrDiv", path := "ui.root",
                    list := some { emptyNodeId := .str "root" } } [] }

theorem selfNamingDocument_view (budget : Nat) :
    ({ document := selfNamingDocument } : Stage).viewOf budget { context := {} }
      selfNamingDocument.root = .error .tooDeep := by
  induction budget with
  | zero => rfl
  | succ budget ih =>
    refine Noted.bind_eq_error rfl ?_
    refine Noted.bind_eq_error rfl ?_
    refine Noted.bind_eq_error rfl ?_
    refine (if_neg (by decide)).trans ?_
    refine Noted.bind_eq_error rfl ?_
    refine Noted.bind_eq_error_left ?_
    -- the list is empty, and the node for that is the list itself
    refine Noted.bind_eq_error rfl ?_
    exact Noted.bind_eq_error_left ih

theorem selfNamingDocument_markup (budget : Nat) :
    Tsx.Draft.node ⟨selfNamingDocument, {}, .standard, .standard⟩ budget {}
      selfNamingDocument.root = .error .tooDeep := by
  induction budget with
  | zero => rfl
  | succ budget ih =>
    refine Noted.bind_eq_error rfl ?_
    refine Noted.bind_eq_error rfl ?_
    refine Noted.bind_eq_error rfl ?_
    refine (if_neg (by decide)).trans ?_
    refine Noted.bind_eq_error rfl ?_
    refine Noted.bind_eq_error_left ?_
    -- the markup of a list holds that of its empty state, which is the list itself
    refine Noted.bind_eq_error_left ?_
    refine Noted.bind_eq_error rfl ?_
    refine Noted.bind_eq_error rfl ?_
    exact Noted.bind_eq_error_left ih

theorem selfNamingList_never_ends :
    (∃ r, Validation.ofValue selfNamingList = .ok r ∧ r.issues = []) ∧
      ∃ n, normalize selfNamingList = .ok n ∧ ∀ budget,
        ({ document := n.document } : Stage).viewOf budget { context := {} } n.document.root =
            .error .tooDeep ∧
          Tsx.Draft.node ⟨n.document, {}, .standard, .standard⟩ budget {} n.document.root =
            .error .tooDeep := by
  refine ⟨⟨_, rfl, rfl⟩, ⟨selfNamingDocument, []⟩, rfl, fun budget => ?_⟩
  exact ⟨selfNamingDocument_view budget, selfNamingDocument_markup budget⟩

end ViewDoc
