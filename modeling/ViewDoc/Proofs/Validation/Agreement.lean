import ViewDoc.Proofs.Canonical.Reports
import ViewDoc.Validation
/-!
Validation and normalization walk the tree apart from each other, and each has its own spelling of
places. The main statement is that what both look for they find at the same positions.
-/

set_option autoImplicit false

namespace ViewDoc

/-- The places among findings, each with a code, that have one code. -/
def placesOf {β : Type} (code : String) (found : List (String × β)) : List β :=
  (found.filter fun f => f.1 == code).map (·.2)

/-- What an issue says besides its wording: its code and its pointer. -/
def Issue.finding (i : Issue) : String × String :=
  (i.code, i.path)

section

variable {α β : Type} {code : String}

theorem placesOf_append (found more : List (String × β)) :
    placesOf code (found ++ more) = placesOf code found ++ placesOf code more := by
  simp [placesOf]

theorem placesOf_flatMap (l : List α) (f : α -> List (String × β)) :
    placesOf code (l.flatMap f) = l.flatMap fun a => placesOf code (f a) := by
  simp [placesOf, List.filter_flatMap, List.map_flatMap]

theorem placesOf_map_const (own : String) (l : List α) (f : α -> β) :
    placesOf code (l.map fun a => (own, f a)) = if own == code then l.map f else [] := by
  by_cases same : own == code <;> simp [placesOf, List.filter_map, Function.comp_def, same]

theorem placesOf_if (own : String) (b : Bool) (place : β) :
    placesOf code (if b then [(own, place)] else []) = if own == code && b then [place] else [] := by
  by_cases same : own == code <;> cases b <;> simp [placesOf, same]

theorem placesOf_eq_nil {found : List (String × β)} (other : ∀ f ∈ found, f.1 ≠ code) :
    placesOf code found = [] := by
  rw [placesOf, List.filter_eq_nil_iff.mpr, List.map_nil]
  intro f mem
  simpa using other f mem

/-- Places that are listed one by one are those of the elements that count. -/
theorem flatMap_if (l : List α) (p : α -> Bool) (f : α -> β) :
    (l.flatMap fun a => if p a then [f a] else []) = (l.filter p).map f := by
  induction l with
  | nil => rfl
  | cons a rest ih => cases counts : p a <;> simp [counts, ih]

end

namespace Validation

/-- The pointer to the node at a position. -/
def pointerAt (place : List Nat) : String :=
  "/ui/root" ++ String.join (place.map fun i => "/children/" ++ Text.ofNat i)

theorem pointerAt_nil : pointerAt [] = "/ui/root" := by
  simp [pointerAt]

theorem pointerAt_snoc (place : List Nat) (i : Nat) :
    pointerAt (place ++ [i]) = pointerAt place ++ "/children/" ++ Text.ofNat i := by
  simp [pointerAt, String.join_append, String.append_assoc]

mutual

theorem placed_pointerAt (place : List Nat) (t : Node) :
    placed (pointerAt place) t = (t.located place).map fun p => (pointerAt p.1, p.2) := by
  cases t with
  | node n cs => rw [placed, Tree.located, List.map_cons, placedChildren_pointerAt place 0 cs]
termination_by structural t

theorem placedChildren_pointerAt (place : List Nat) (i : Nat) (ts : List Node) :
    placedChildren (pointerAt place) i ts =
      (Tree.locatedAll place i ts).map fun p => (pointerAt p.1, p.2) := by
  cases ts with
  | nil => rfl
  | cons t rest =>
    rw [placedChildren, Tree.locatedAll, List.map_append, ← pointerAt_snoc,
      placed_pointerAt (place ++ [i]) t, placedChildren_pointerAt place (i + 1) rest]
termination_by structural ts

end

mutual

theorem code_of_mem_refIssues {path : String} {v : Value} {i : Issue}
    (mem : i ∈ refIssues path v) : i.code = "MIR_VALUE_REF_AMBIGUOUS" := by
  cases v with
  | object es =>
    rw [refIssues, List.mem_append] at mem
    rcases mem with own | inner
    · split at own
      · rw [List.mem_singleton.mp own]
        rfl
      · cases own
    · exact code_of_mem_refIssuesOfEntries inner
  | list items =>
    rw [refIssues] at mem
    exact code_of_mem_refIssuesOfItems mem
  | _ => cases mem
termination_by structural v

theorem code_of_mem_refIssuesOfEntries {path : String} {es : List (String × Value)} {i : Issue}
    (mem : i ∈ refIssuesOfEntries path es) : i.code = "MIR_VALUE_REF_AMBIGUOUS" := by
  cases es with
  | nil => cases mem
  | cons e rest =>
    obtain ⟨key, v⟩ := e
    rw [refIssuesOfEntries, List.mem_append] at mem
    exact mem.elim code_of_mem_refIssues code_of_mem_refIssuesOfEntries
termination_by structural es

theorem code_of_mem_refIssuesOfItems {path : String} {n : Nat} {items : List Value} {i : Issue}
    (mem : i ∈ refIssuesOfItems path n items) : i.code = "MIR_VALUE_REF_AMBIGUOUS" := by
  cases items with
  | nil => cases mem
  | cons v rest =>
    rw [refIssuesOfItems, List.mem_append] at mem
    exact mem.elim code_of_mem_refIssues code_of_mem_refIssuesOfItems
termination_by structural items

end

/-- The codes of the issues with what normalization looks at too. -/
def sharedCodes : List String :=
  ["MIR_DOCUMENT_FIELD_INVALID", "MIR_NODE_ID_REQUIRED", "MIR_NODE_ID_DUPLICATE",
    "MIR_NODE_TYPE_REQUIRED", "MIR_NODE_FIELD_INVALID"]

/-- What validation finds wrong with the id of a node, given the ids seen before. -/
def idFindings (seen : List String) (path : String) (n : NodeFields) : List (String × String) :=
  if Text.isBlankText n.id then [("MIR_NODE_ID_REQUIRED", path ++ "/id")]
  else if seen.contains (Text.trim n.id) then [("MIR_NODE_ID_DUPLICATE", path ++ "/id")]
  else []

/-- What validation finds wrong with a node as such. -/
def nodeFindings (seen : List String) (path : String) (n : NodeFields) : List (String × String) :=
  idFindings seen path n ++
  (if Text.isBlankText n.type then [("MIR_NODE_TYPE_REQUIRED", path ++ "/type")] else []) ++
  n.aside.map fun e => ("MIR_NODE_FIELD_INVALID", path ++ "/" ++ e.1)

theorem finding_issueIf (broken : Bool) (code message path : String) :
    (issueIf broken code message path).map Issue.finding = if broken then [(code, path)] else [] := by
  cases broken <;> rfl

theorem code_of_mem_issueIf {broken : Bool} {code message path : String} {i : Issue}
    (mem : i ∈ issueIf broken code message path) : i.code = code := by
  rw [issueIf] at mem
  split at mem
  · rw [List.mem_singleton.mp mem]
  · cases mem

theorem not_mem_sharedCodes_of_issueIf {broken : Bool} {code message path : String} {i : Issue}
    (other : code ∉ sharedCodes) (mem : i ∈ issueIf broken code message path) :
    i.code ∉ sharedCodes := by
  rwa [code_of_mem_issueIf mem]

theorem not_mem_sharedCodes_of_refIssues {path : String} {v : Value} {i : Issue}
    (mem : i ∈ refIssues path v) : i.code ∉ sharedCodes := by
  rw [code_of_mem_refIssues mem]
  decide

theorem not_mem_sharedCodes_of_dataIssues {path : String} {d : DataDecl} {i : Issue}
    (mem : i ∈ dataIssues path d) : i.code ∉ sharedCodes := by
  simp only [dataIssues, List.mem_append] at mem
  rcases mem with (((((pick | source) | extend) | inner) | inner) | inner) | inner
  · exact not_mem_sharedCodes_of_issueIf (by decide) pick
  · exact not_mem_sharedCodes_of_issueIf (by decide) source
  · exact not_mem_sharedCodes_of_issueIf (by decide) extend
  all_goals exact not_mem_sharedCodes_of_refIssues inner

theorem not_mem_sharedCodes_of_listIssues {ids : List String} {path : String} {d : ListDecl}
    {i : Issue} (mem : i ∈ listIssues ids path d) : i.code ∉ sharedCodes := by
  simp only [listIssues, aliasIssue, List.mem_append] at mem
  rcases mem with ((((source | item) | index) | key) | field) | empty
  · exact not_mem_sharedCodes_of_issueIf (by decide) source
  · exact not_mem_sharedCodes_of_issueIf (by decide) item
  · exact not_mem_sharedCodes_of_issueIf (by decide) index
  · exact not_mem_sharedCodes_of_issueIf (by decide) key
  · exact not_mem_sharedCodes_of_issueIf (by decide) field
  · exact not_mem_sharedCodes_of_issueIf (by decide) empty

/-- The other issues with a node are about its declarations and values, and have other codes. -/
theorem exists_finding_nodeIssues (ids seen : List String) (path : String) (n : NodeFields) :
    ∃ others : List (String × String),
      (nodeIssues ids seen path n).map Issue.finding = nodeFindings seen path n ++ others ∧
        ∀ f ∈ others, f.1 ∉ sharedCodes := by
  have own : (idIssues seen path n).map Issue.finding = idFindings seen path n := by
    rw [idIssues, idFindings]
    split
    · rfl
    · exact finding_issueIf _ _ _ _
  have fields : (n.aside.flatMap fun e => issueIf true "MIR_NODE_FIELD_INVALID"
      ("Node field '" ++ e.1 ++ "' has an invalid shape.") (path ++ "/" ++ e.1)).map Issue.finding =
      n.aside.map fun e => ("MIR_NODE_FIELD_INVALID", path ++ "/" ++ e.1) := by
    rw [List.map_flatMap]
    exact List.flatMap_pure_eq_map _ _
  refine ⟨(((n.data.map (dataIssues (path ++ "/data"))).getD []) ++
      ((n.list.map (listIssues ids (path ++ "/list"))).getD []) ++
      refIssues (path ++ "/text") n.text ++ refIssues (path ++ "/props") (.object n.props) ++
      refIssues (path ++ "/style") (.object n.style) ++
      refIssues (path ++ "/events") (.object n.events)).map Issue.finding, ?_, fun f mem => ?_⟩
  · simp only [nodeIssues, nodeFindings, List.map_append, own, fields, finding_issueIf,
      List.append_assoc]
  · obtain ⟨i, told, rfl⟩ := List.mem_map.mp mem
    simp only [List.mem_append] at told
    rcases told with ((((data | list) | inner) | inner) | inner) | inner
    · cases declared : n.data with
      | none => simp [declared] at data
      | some d => exact not_mem_sharedCodes_of_dataIssues (by simpa [declared] using data)
    · cases declared : n.list with
      | none => simp [declared] at list
      | some l => exact not_mem_sharedCodes_of_listIssues (by simpa [declared] using list)
    all_goals exact not_mem_sharedCodes_of_refIssues inner

theorem placesOf_nodeIssues {code : String} (own : code ∈ sharedCodes) (ids seen : List String)
    (path : String) (n : NodeFields) :
    placesOf code ((nodeIssues ids seen path n).map Issue.finding) =
      placesOf code (nodeFindings seen path n) := by
  obtain ⟨others, whole, apart⟩ := exists_finding_nodeIssues ids seen path n
  have nothing : placesOf code others = [] :=
    placesOf_eq_nil fun f mem same => apart f mem (same ▸ own)
  rw [whole, placesOf_append, nothing, List.append_nil]

section

variable (seen : List String) (path : String) (n : NodeFields)

theorem placesOf_idFindings_of_ne {code : String} (required : code ≠ "MIR_NODE_ID_REQUIRED")
    (duplicate : code ≠ "MIR_NODE_ID_DUPLICATE") :
    placesOf code (idFindings seen path n) = [] := by
  refine placesOf_eq_nil fun f mem same => ?_
  rw [idFindings] at mem
  split at mem
  · exact required (same.symm.trans (congrArg Prod.fst (List.mem_singleton.mp mem)))
  · split at mem
    · exact duplicate (same.symm.trans (congrArg Prod.fst (List.mem_singleton.mp mem)))
    · cases mem

theorem placesOf_documentField :
    placesOf "MIR_DOCUMENT_FIELD_INVALID" (nodeFindings seen path n) = [] := by
  have id := placesOf_idFindings_of_ne seen path n
    (show "MIR_DOCUMENT_FIELD_INVALID" ≠ "MIR_NODE_ID_REQUIRED" by decide) (by decide)
  simp only [nodeFindings, placesOf_append, placesOf_if, placesOf_map_const, id]
  simp

theorem placesOf_idRequired : placesOf "MIR_NODE_ID_REQUIRED" (nodeFindings seen path n) =
    if Text.isBlankText n.id then [path ++ "/id"] else [] := by
  simp only [nodeFindings, placesOf_append, placesOf_if, placesOf_map_const, idFindings]
  split
  · rfl
  · split <;> rfl

theorem placesOf_idDuplicate : placesOf "MIR_NODE_ID_DUPLICATE" (nodeFindings seen path n) =
    if Text.trim n.id ≠ "" ∧ Text.trim n.id ∈ seen then [path ++ "/id"] else [] := by
  have blank := Text.trim_eq_empty_iff n.id
  have again : seen.contains (Text.trim n.id) = true ↔ Text.trim n.id ∈ seen :=
    List.contains_iff_mem
  simp only [nodeFindings, placesOf_append, placesOf_if, placesOf_map_const, idFindings, ← blank,
    again]
  by_cases empty : Text.trim n.id = ""
  · simp [empty, placesOf]
  · by_cases old : Text.trim n.id ∈ seen <;> simp [empty, old, placesOf]

theorem placesOf_typeRequired : placesOf "MIR_NODE_TYPE_REQUIRED" (nodeFindings seen path n) =
    if Text.isBlankText n.type then [path ++ "/type"] else [] := by
  have id := placesOf_idFindings_of_ne seen path n
    (show "MIR_NODE_TYPE_REQUIRED" ≠ "MIR_NODE_ID_REQUIRED" by decide) (by decide)
  simp only [nodeFindings, placesOf_append, placesOf_if, placesOf_map_const, id]
  simp

theorem placesOf_fieldInvalid : placesOf "MIR_NODE_FIELD_INVALID" (nodeFindings seen path n) =
    n.aside.map fun e => path ++ "/" ++ e.1 := by
  have id := placesOf_idFindings_of_ne seen path n
    (show "MIR_NODE_FIELD_INVALID" ≠ "MIR_NODE_ID_REQUIRED" by decide) (by decide)
  simp only [nodeFindings, placesOf_append, placesOf_if, placesOf_map_const, id]
  simp

end

/-- What is gathered from the issues of a tree is what is gathered at its nodes one after the other,
where the ids seen before make no difference to it. -/
theorem gather_treeIssues {β : Type} {ids : List String} (gather : List Issue -> List β)
    {own : List Nat × NodeFields -> List β} (nothing : gather [] = [])
    (joined : ∀ found more, gather (found ++ more) = gather found ++ gather more)
    (each : ∀ seen p, gather (nodeIssues ids seen (pointerAt p.1) p.2) = own p)
    (seen : List String) (ps : List (List Nat × NodeFields)) :
    gather (treeIssues ids seen (ps.map fun p => (pointerAt p.1, p.2))) = ps.flatMap own := by
  induction ps generalizing seen with
  | nil => exact nothing
  | cons p rest ih => rw [List.map_cons, treeIssues, joined, each, ih, List.flatMap_cons]

/-- Where a code does not depend on the ids seen before, its places in a tree are those at its nodes
one after the other. -/
theorem placesOf_treeIssues {code : String} {places : List Nat × NodeFields -> List String}
    (each : ∀ ids seen p,
      placesOf code ((nodeIssues ids seen (pointerAt p.1) p.2).map Issue.finding) = places p)
    (ids seen : List String) (ps : List (List Nat × NodeFields)) :
    placesOf code ((treeIssues ids seen (ps.map fun p => (pointerAt p.1, p.2))).map Issue.finding) =
      ps.flatMap places := by
  refine gather_treeIssues (fun found => placesOf code (found.map Issue.finding)) rfl
    (fun found more => ?_) (each ids) seen ps
  rw [List.map_append, placesOf_append]

theorem finding_documentIssues (d : Document) :
    (documentIssues d).map Issue.finding = d.malformedFields.map fun f =>
      ("MIR_DOCUMENT_FIELD_INVALID", "/" ++ "/".intercalate f.1) := by
  rw [documentIssues, List.map_map]
  rfl

/-- The findings of validation on a document: those outside its tree, and those at its nodes. -/
theorem finding_issues (d : Document) :
    (issues d).map Issue.finding = (documentIssues d).map Issue.finding ++
      (treeIssues (authoredIds d.root) []
        (d.root.positions.map fun p => (pointerAt p.1, p.2))).map Issue.finding := by
  rw [issues, List.map_append, ← pointerAt_nil, placed_pointerAt]
  rfl

end Validation

namespace Canonical

/-- The findings of normalization on a node, whether or not its events have distinct keys. -/
theorem finding_reportsOf_eq (path : String) (n : NodeFields) :
    (reportsOf path n).map (·.finding) =
      (if Text.isBlankText n.id then [("CANONICAL_NODE_MISSING_ID", some path)] else []) ++
      (if Text.isBlankText n.type then [("CANONICAL_NODE_MISSING_TYPE", some path)] else []) ++
      n.aside.map (fun e => ("CANONICAL_NODE_FIELD_INVALID", some (path ++ "." ++ e.1))) ++
      (n.events.filter fun e => !(binding? e.1 e.2).isSome).map fun e =>
        ("CANONICAL_EVENT_INVALID", some (path ++ ".events." ++ e.1)) := by
  simp only [reportsOf, filterMap_unless, List.map_append, List.map_map,
    apply_ite (List.map Diagnostic.finding), List.map_cons, List.map_nil]
  rfl

theorem code_of_mem_repeats {seen : List String} {nodes : List CanonicalNode} {r : Diagnostic}
    (mem : r ∈ repeats seen nodes) : r.code = "CANONICAL_NODE_DUPLICATE_ID" := by
  induction nodes generalizing seen with
  | nil => cases mem
  | cons n rest ih =>
    rw [repeats] at mem
    split at mem
    · rcases List.mem_cons.mp mem with rfl | later
      · rfl
      · exact ih later
    · exact ih mem

/-- The findings of normalization on a document: those outside its tree, those at its nodes, and
the ids that occur again. -/
theorem finding_diagnostics (d : Document) :
    d.canonical.diagnostics.map (·.finding) = (documentReports d).map (·.finding) ++
      (d.root.positions.flatMap fun p => (reportsOf (pathAt p.1) p.2).map (·.finding)) ++
      (repeats [] (ofNode rootPath d.root).walk).map (·.finding) := by
  have nodes := reports_eq_flatMap [] d.root
  rw [pathAt_nil] at nodes
  show (documentReports d ++ reports rootPath d.root ++
    repeats [] (ofNode rootPath d.root).walk).map (·.finding) = _
  rw [List.map_append, List.map_append, nodes, List.map_flatMap]
  rfl

end Canonical

namespace Validation

open Canonical (pathAt)

theorem idOf_eq_trim {n : NodeFields} (path : String) (written : Text.trim n.id ≠ "") :
    Canonical.idOf n path = Text.trim n.id := by
  rw [Canonical.idOf, Text.trimmed?_getD, if_neg written]

/-- What validation has noted of ids that are written, normalization has given, also after a node to
which it gives an id. -/
theorem forall_authored {authored given : List String} {n : NodeFields} {path : String}
    (own : Canonical.idOf n path ∈ given) (known : ∀ id ∈ authored, id ≠ "" -> id ∈ given) :
    ∀ id ∈ Text.trim n.id :: authored, id ≠ "" -> id ∈ given := by
  intro word mem written
  rcases List.mem_cons.mp mem with rfl | before
  · rwa [idOf_eq_trim path written] at own
  · exact known word before written

/-- The nodes that validation finds to have an id of a node before them are among those that
normalization finds so: both trim the ids, and only normalization gives ids to nodes without one. -/
theorem exists_repeated (ids : List String) (ps : List (List Nat × NodeFields))
    {nodes : List CanonicalNode}
    (same : nodes.map Tree.value = ps.map fun p => Canonical.fieldsAt (pathAt p.1) p.2)
    {authored given : List String} (known : ∀ id ∈ authored, id ≠ "" -> id ∈ given) :
    ∃ issued reported : List (List Nat × NodeFields),
      issued.Sublist reported ∧ reported.Sublist ps ∧
        placesOf "MIR_NODE_ID_DUPLICATE" ((treeIssues ids authored
          (ps.map fun p => (pointerAt p.1, p.2))).map Issue.finding) =
            issued.map (fun p => pointerAt p.1 ++ "/id") ∧
        (Canonical.repeats given nodes).map (·.path) = reported.map fun p => some (pathAt p.1) := by
  induction ps generalizing nodes authored given with
  | nil =>
    obtain rfl := List.map_eq_nil_iff.mp same
    exact ⟨[], [], .refl _, .refl _, rfl, rfl⟩
  | cons p rest ih =>
    cases nodes with
    | nil => cases same
    | cons n others =>
      obtain ⟨own, same⟩ := List.cons.inj same
      have id : n.value.id = Canonical.idOf p.2 (pathAt p.1) := congrArg (·.id) own
      have path : n.value.path = pathAt p.1 := congrArg (·.path) own
      rw [List.map_cons, treeIssues, List.map_append, placesOf_append,
        placesOf_nodeIssues (by decide), placesOf_idDuplicate, Canonical.repeats]
      by_cases old : n.value.id ∈ given
      · have still := forall_authored (id ▸ old) known
        obtain ⟨issued, reported, fewer, below, issues, reports⟩ := ih same still
        rw [if_pos (List.contains_iff_mem.mpr old), List.map_cons, issues, reports]
        split
        · exact ⟨p :: issued, p :: reported, fewer.cons_cons p, below.cons_cons p, rfl,
            by rw [List.map_cons, ← path]; rfl⟩
        · exact ⟨issued, p :: reported, fewer.cons p, below.cons_cons p, rfl,
            by rw [List.map_cons, ← path]; rfl⟩
      · have fresh : ¬ (Text.trim p.2.id ≠ "" ∧ Text.trim p.2.id ∈ authored) := by
          rintro ⟨written, before⟩
          rw [id, idOf_eq_trim _ written] at old
          exact old (known _ before written)
        have still := forall_authored (List.mem_cons.mpr (.inl id.symm)) fun word mem written =>
          List.mem_cons_of_mem n.value.id (known word mem written)
        obtain ⟨issued, reported, fewer, below, issues, reports⟩ := ih same still
        rw [if_neg (mt List.contains_iff_mem.mp old), if_neg fresh, issues, reports]
        exact ⟨issued, reported, fewer, below.cons p, rfl, rfl⟩

theorem placesOf_issues {code : String} (other : code ≠ "MIR_DOCUMENT_FIELD_INVALID")
    (d : Document) : placesOf code ((issues d).map Issue.finding) =
      placesOf code ((treeIssues (authoredIds d.root) []
        (d.root.positions.map fun p => (pointerAt p.1, p.2))).map Issue.finding) := by
  have outside : placesOf code ((documentIssues d).map Issue.finding) = [] := by
    rw [finding_documentIssues]
    refine placesOf_eq_nil fun f mem same => other ?_
    obtain ⟨_, -, rfl⟩ := List.mem_map.mp mem
    exact same.symm
  rw [finding_issues, placesOf_append, outside, List.nil_append]

/-- A report with one of the codes for nodes is on a node. -/
theorem placesOf_diagnostics {code : String} (outside : code ≠ "CANONICAL_DOCUMENT_FIELD_INVALID")
    (repeated : code ≠ "CANONICAL_NODE_DUPLICATE_ID") (d : Document) :
    placesOf code (d.canonical.diagnostics.map (·.finding)) = d.root.positions.flatMap fun p =>
      placesOf code ((Canonical.reportsOf (pathAt p.1) p.2).map (·.finding)) := by
  have before : placesOf code ((Canonical.documentReports d).map (·.finding)) = [] := by
    rw [Canonical.finding_documentReports]
    refine placesOf_eq_nil fun f mem same => outside ?_
    obtain ⟨_, -, rfl⟩ := List.mem_map.mp mem
    exact same.symm
  have after (nodes : List CanonicalNode) :
      placesOf code ((Canonical.repeats [] nodes).map (·.finding)) = [] := by
    refine placesOf_eq_nil fun f mem same => repeated ?_
    obtain ⟨r, told, rfl⟩ := List.mem_map.mp mem
    exact same.symm.trans (Canonical.code_of_mem_repeats told)
  rw [Canonical.finding_diagnostics, placesOf_append, placesOf_append, before, after,
    List.nil_append, List.append_nil, placesOf_flatMap]

/-- The reports on ids that occur again come last, and no others have their code. -/
theorem placesOf_repeats (d : Document) : placesOf "CANONICAL_NODE_DUPLICATE_ID"
    (d.canonical.diagnostics.map (·.finding)) =
      (Canonical.repeats [] (Canonical.ofNode Canonical.rootPath d.root).walk).map (·.path) := by
  have outside : placesOf "CANONICAL_NODE_DUPLICATE_ID"
      ((Canonical.documentReports d).map (·.finding)) = [] := by
    rw [Canonical.finding_documentReports, placesOf_map_const]
    rfl
  have nodes (p : List Nat × NodeFields) : placesOf "CANONICAL_NODE_DUPLICATE_ID"
      ((Canonical.reportsOf (pathAt p.1) p.2).map (·.finding)) = [] := by
    simp only [Canonical.finding_reportsOf_eq, placesOf_append, placesOf_if, placesOf_map_const]
    simp
  have every (ds : List Diagnostic) (own : ∀ d ∈ ds, d.code = "CANONICAL_NODE_DUPLICATE_ID") :
      placesOf "CANONICAL_NODE_DUPLICATE_ID" (ds.map (·.finding)) = ds.map (·.path) := by
    rw [placesOf, List.filter_eq_self.mpr, List.map_map]
    · rfl
    · intro f mem
      obtain ⟨d, told, rfl⟩ := List.mem_map.mp mem
      simpa [Diagnostic.finding] using own d told
  rw [Canonical.finding_diagnostics, placesOf_append, placesOf_append, outside, placesOf_flatMap,
    every _ fun d told => Canonical.code_of_mem_repeats told]
  simp [nodes]

end Validation

theorem Diagnostic.path_withCode (ds : List Diagnostic) (code : String) :
    (withCode code ds).map (·.path) = placesOf code (ds.map (·.finding)) := by
  rw [withCode, placesOf, List.filter_map, List.map_map]
  rfl

theorem Document.upgrade_upgraded {d u : Document} (done : d.upgrade = .ok u) :
    u.upgrade = .ok u := by
  rcases upgrade_cases done with rfl | rfl
  · exact done
  · have current : Version.isCurrent latestVersion = .ok true := rfl
    simp only [upgrade, current]
    rfl

namespace ValidationReport

/-- The issues with one code and the reports with another are about the same places, one for one.
An issue spells its place as a pointer, and a report spells it as a path. -/
structure Matched {α : Type} (r : ValidationReport) (issue report : String) (places : List α)
    (pointer path : α -> String) : Prop where
  issues : (r.byCode issue).map (·.path) = places.map pointer
  reports : (Diagnostic.withCode report r.diagnostics).map (·.path) =
    places.map fun a => some (path a)

open Validation (pointerAt)
open Canonical (pathAt)

/-- What validation and normalization both look for they find at the same places: nodes without an
id, nodes without a type, fields of nodes that are set aside, and values that are set aside outside
the tree. Of the ids that occur again validation finds some, and normalization finds these too. -/
structure Agrees (r : ValidationReport) : Prop where
  ids : r.Matched "MIR_NODE_ID_REQUIRED" "CANONICAL_NODE_MISSING_ID"
    (r.document.root.positions.filter fun p => Text.isBlankText p.2.id)
    (fun p => pointerAt p.1 ++ "/id") (fun p => pathAt p.1)
  types : r.Matched "MIR_NODE_TYPE_REQUIRED" "CANONICAL_NODE_MISSING_TYPE"
    (r.document.root.positions.filter fun p => Text.isBlankText p.2.type)
    (fun p => pointerAt p.1 ++ "/type") (fun p => pathAt p.1)
  fields : r.Matched "MIR_NODE_FIELD_INVALID" "CANONICAL_NODE_FIELD_INVALID"
    (r.document.root.positions.flatMap fun p => p.2.aside.map fun e => (p.1, e.1))
    (fun f => pointerAt f.1 ++ "/" ++ f.2) (fun f => pathAt f.1 ++ "." ++ f.2)
  outside : r.Matched "MIR_DOCUMENT_FIELD_INVALID" "CANONICAL_DOCUMENT_FIELD_INVALID"
    (r.document.malformedFields.map (·.1))
    (fun segments => "/" ++ "/".intercalate segments) (fun segments => ".".intercalate segments)
  repeated : ∃ issued reported : List (List Nat × NodeFields),
    issued.Sublist reported ∧ reported.Sublist r.document.root.positions ∧
      (r.byCode "MIR_NODE_ID_DUPLICATE").map (·.path) =
        issued.map (fun p => pointerAt p.1 ++ "/id") ∧
      (Diagnostic.withCode "CANONICAL_NODE_DUPLICATE_ID" r.diagnostics).map (·.path) =
        reported.map fun p => some (pathAt p.1)

theorem path_byCode (r : ValidationReport) (code : String) :
    (r.byCode code).map (·.path) = placesOf code (r.issues.map Issue.finding) := by
  rw [byCode, placesOf, List.filter_map, List.map_map]
  rfl

variable {r : ValidationReport} (found : r.issues = Validation.issues r.document)
  (told : r.diagnostics = r.document.canonical.diagnostics)

include found in
/-- The issues with a code for nodes, where it says the same of every node whatever came before. -/
theorem path_byCode_eq_flatMap {code : String} (own : code ∈ Validation.sharedCodes)
    (outside : code ≠ "MIR_DOCUMENT_FIELD_INVALID")
    {places : List Nat × NodeFields -> List String}
    (each : ∀ seen p, placesOf code (Validation.nodeFindings seen (pointerAt p.1) p.2) = places p) :
    (r.byCode code).map (·.path) = r.document.root.positions.flatMap places := by
  rw [path_byCode, found, Validation.placesOf_issues outside]
  refine Validation.placesOf_treeIssues (fun ids seen p => ?_) _ _ _
  rw [Validation.placesOf_nodeIssues own, each]

include told in
theorem path_withCode_eq_flatMap {code : String}
    (outside : code ≠ "CANONICAL_DOCUMENT_FIELD_INVALID")
    (repeated : code ≠ "CANONICAL_NODE_DUPLICATE_ID")
    {places : List Nat × NodeFields -> List (Option String)}
    (each : ∀ p : List Nat × NodeFields,
      placesOf code ((Canonical.reportsOf (pathAt p.1) p.2).map (·.finding)) = places p) :
    (Diagnostic.withCode code r.diagnostics).map (·.path) =
      r.document.root.positions.flatMap places := by
  rw [Diagnostic.path_withCode, told, Validation.placesOf_diagnostics outside repeated]
  exact List.flatMap_congr fun p _ => each p

include found told in
theorem matched_ids : r.Matched "MIR_NODE_ID_REQUIRED" "CANONICAL_NODE_MISSING_ID"
    (r.document.root.positions.filter fun p => Text.isBlankText p.2.id)
    (fun p => pointerAt p.1 ++ "/id") (fun p => pathAt p.1) := by
  constructor
  · rw [← flatMap_if]
    exact path_byCode_eq_flatMap found (by decide) (by decide) fun seen p =>
      Validation.placesOf_idRequired seen _ p.2
  · rw [← flatMap_if]
    refine path_withCode_eq_flatMap told (by decide) (by decide) fun p => ?_
    simp only [Canonical.finding_reportsOf_eq, placesOf_append, placesOf_if, placesOf_map_const]
    simp

include found told in
theorem matched_types : r.Matched "MIR_NODE_TYPE_REQUIRED" "CANONICAL_NODE_MISSING_TYPE"
    (r.document.root.positions.filter fun p => Text.isBlankText p.2.type)
    (fun p => pointerAt p.1 ++ "/type") (fun p => pathAt p.1) := by
  constructor
  · rw [← flatMap_if]
    exact path_byCode_eq_flatMap found (by decide) (by decide) fun seen p =>
      Validation.placesOf_typeRequired seen _ p.2
  · rw [← flatMap_if]
    refine path_withCode_eq_flatMap told (by decide) (by decide) fun p => ?_
    simp only [Canonical.finding_reportsOf_eq, placesOf_append, placesOf_if, placesOf_map_const]
    simp

include found told in
theorem matched_fields : r.Matched "MIR_NODE_FIELD_INVALID" "CANONICAL_NODE_FIELD_INVALID"
    (r.document.root.positions.flatMap fun p => p.2.aside.map fun e => (p.1, e.1))
    (fun f => pointerAt f.1 ++ "/" ++ f.2) (fun f => pathAt f.1 ++ "." ++ f.2) := by
  constructor
  · rw [List.map_flatMap]
    refine path_byCode_eq_flatMap found (by decide) (by decide) fun seen p => ?_
    rw [Validation.placesOf_fieldInvalid, List.map_map]
    rfl
  · rw [List.map_flatMap]
    refine path_withCode_eq_flatMap told (by decide) (by decide) fun p => ?_
    simp only [Canonical.finding_reportsOf_eq, placesOf_append, placesOf_if, placesOf_map_const]
    simp

include found told in
theorem matched_outside : r.Matched "MIR_DOCUMENT_FIELD_INVALID" "CANONICAL_DOCUMENT_FIELD_INVALID"
    (r.document.malformedFields.map (·.1))
    (fun segments => "/" ++ "/".intercalate segments)
    (fun segments => ".".intercalate segments) := by
  constructor
  · have inside : placesOf "MIR_DOCUMENT_FIELD_INVALID" ((Validation.treeIssues
        (Validation.authoredIds r.document.root) [] (r.document.root.positions.map fun p =>
          (pointerAt p.1, p.2))).map Issue.finding) =
        r.document.root.positions.flatMap fun _ => [] := by
      refine Validation.placesOf_treeIssues (fun ids seen p => ?_) _ _ _
      rw [Validation.placesOf_nodeIssues (by decide), Validation.placesOf_documentField]
    rw [path_byCode, found, Validation.finding_issues, placesOf_append, inside,
      Validation.finding_documentIssues, placesOf_map_const, List.map_map]
    simp [Function.comp_def]
  · have inside (p : List Nat × NodeFields) : placesOf "CANONICAL_DOCUMENT_FIELD_INVALID"
        ((Canonical.reportsOf (pathAt p.1) p.2).map (·.finding)) = [] := by
      simp only [Canonical.finding_reportsOf_eq, placesOf_append, placesOf_if, placesOf_map_const]
      simp
    have repeated (nodes : List CanonicalNode) : placesOf "CANONICAL_DOCUMENT_FIELD_INVALID"
        ((Canonical.repeats [] nodes).map (·.finding)) = [] := by
      refine placesOf_eq_nil fun f mem same => ?_
      obtain ⟨d, told, rfl⟩ := List.mem_map.mp mem
      exact absurd ((Canonical.code_of_mem_repeats told).symm.trans same) (by decide)
    rw [Diagnostic.path_withCode, told, Canonical.finding_diagnostics, placesOf_append, placesOf_append,
      Canonical.finding_documentReports, placesOf_map_const, placesOf_flatMap, repeated,
      List.map_map]
    simp [inside, Function.comp_def]

include found told in
theorem agrees_of_canonical : r.Agrees where
  ids := matched_ids found told
  types := matched_types found told
  fields := matched_fields found told
  outside := matched_outside found told
  repeated := by
    have same : (Canonical.ofNode Canonical.rootPath r.document.root).walk.map Tree.value =
        r.document.root.positions.map fun p => Canonical.fieldsAt (pathAt p.1) p.2 := by
      rw [Tree.map_value_walk_eq, Canonical.positions_ofNode, List.map_map]
      rfl
    obtain ⟨issued, reported, fewer, below, issues, reports⟩ := Validation.exists_repeated
      (Validation.authoredIds r.document.root) r.document.root.positions same
      (fun id mem _ => (List.not_mem_nil mem).elim : ∀ id ∈ [], id ≠ "" -> id ∈ [])
    refine ⟨issued, reported, fewer, below, ?_, ?_⟩
    · rw [path_byCode, found, Validation.placesOf_issues (by decide), issues]
    · rw [Diagnostic.path_withCode, told, Validation.placesOf_repeats, reports]

end ValidationReport

/-- On a value with a tree, what validation and normalization both look for they find at the same
places. -/
theorem validation_agrees {v : Value} {r : ValidationReport} (tree : Document.hasRoot v = true)
    (done : Validation.ofValue v = .ok r) : r.Agrees := by
  obtain ⟨d, -, done⟩ := (Failure.bind_eq_ok_iff _ _ _).mp done
  obtain ⟨report, checked, done⟩ := (Failure.bind_eq_ok_iff _ _ _).mp done
  obtain ⟨u, upgraded, checked⟩ := Fault.exists_of_bind_ok ((Failure.ofFault_eq_ok_iff _ _).mp checked)
  obtain ⟨n, normalized, checked⟩ := Fault.exists_of_bind_ok checked
  obtain rfl : r = report := by
    rw [if_pos tree] at done
    exact (Except.ok.inj done).symm
  obtain rfl : u.canonical = n := by
    rw [Document.normalize, Document.upgrade_upgraded upgraded] at normalized
    exact Except.ok.inj normalized
  obtain rfl := Except.ok.inj checked
  exact ValidationReport.agrees_of_canonical rfl rfl

/-- A document with defects at its root, at a child, and outside its tree, in which an id made from
a path is also the id that an author wrote. -/
def defectiveTree : Value :=
  .object [("version", .int 1), ("ui", .object [("root", .object [("type", .str "MdrDiv"),
    ("props", .int 3), ("children", .list [.object [("id", .str " main ")],
      .object [("id", .str "main"), ("type", .str "p")],
      .object [("id", .str "ui_root"), ("type", .str "p")]])])])]

theorem defectiveTree_agrees :
    Document.hasRoot defectiveTree = true ∧ ∃ r, Validation.ofValue defectiveTree = .ok r ∧
      (r.issues.map fun i => (i.code, i.path)) =
        [("MIR_DOCUMENT_FIELD_INVALID", "/version"), ("MIR_NODE_ID_REQUIRED", "/ui/root/id"),
          ("MIR_NODE_FIELD_INVALID", "/ui/root/props"),
          ("MIR_NODE_TYPE_REQUIRED", "/ui/root/children/0/type"),
          ("MIR_NODE_ID_DUPLICATE", "/ui/root/children/1/id")] ∧
      (r.diagnostics.map fun d => (d.code, d.path)) =
        [("CANONICAL_DOCUMENT_FIELD_INVALID", some "version"),
          ("CANONICAL_NODE_MISSING_ID", some "ui.root"),
          ("CANONICAL_NODE_FIELD_INVALID", some "ui.root.props"),
          ("CANONICAL_NODE_MISSING_TYPE", some "ui.root.children[0]"),
          ("CANONICAL_NODE_DUPLICATE_ID", some "ui.root.children[1]"),
          ("CANONICAL_NODE_DUPLICATE_ID", some "ui.root.children[2]")] ∧ r.Agrees := by
  have tree : Document.hasRoot defectiveTree = true := rfl
  have agrees : ∀ r, Validation.ofValue defectiveTree = .ok r -> r.Agrees :=
    fun _ done => validation_agrees tree done
  exact ⟨tree, _, rfl, rfl, rfl, agrees _ rfl⟩

end ViewDoc
