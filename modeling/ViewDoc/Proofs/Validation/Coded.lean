import ViewDoc.Proofs.Validation.Agreement
/-!
The issues with one code in a report. For a code about declarations and values they are gathered at
the nodes one after the other, whatever else is wrong with the document.
-/

set_option autoImplicit false

namespace ViewDoc

namespace Validation

/-- Validation reports on a document, which it is given or reads from a value. -/
inductive Reports (d : Document) (r : ValidationReport) : Prop
  | document (done : ofDocument d = .ok r)
  | value {v : Value} (read : Document.ofValue v = .value d) (done : ofValue v = .ok r)

/-- The issues with one code. -/
def coded (code : String) (found : List Issue) : List Issue :=
  found.filter fun i => i.code == code

/-- The issues with what a node declares and with its values. -/
def contentIssues (ids : List String) (path : String) (n : NodeFields) : List Issue :=
  ((n.data.map (dataIssues (path ++ "/data"))).getD []) ++
  ((n.list.map (listIssues ids (path ++ "/list"))).getD []) ++
  refIssues (path ++ "/text") n.text ++ refIssues (path ++ "/props") (.object n.props) ++
  refIssues (path ++ "/style") (.object n.style) ++ refIssues (path ++ "/events") (.object n.events)

variable {d u : Document} {r : ValidationReport} {code : String}

theorem exists_of_ofDocument (done : ofDocument d = .ok r) :
    ∃ u, d.upgrade = .ok u ∧ r = ⟨u, issues u, u.canonical.diagnostics⟩ := by
  obtain ⟨u, upgraded, done⟩ := Fault.exists_of_bind_ok done
  obtain ⟨n, normalized, done⟩ := Fault.exists_of_bind_ok done
  obtain rfl : u.canonical = n := by
    rw [Document.normalize, Document.upgrade_upgraded upgraded] at normalized
    exact Except.ok.inj normalized
  exact ⟨u, upgraded, (Except.ok.inj done).symm⟩

/-- The issue with a value that has no tree. -/
def rootMissing : Issue :=
  ⟨"MIR_DOCUMENT_ROOT_MISSING", "Document has no ui.root object.", "/ui/root", .error⟩

/-- The report is on the upgraded document. Where a value has no tree, that is the standard one. -/
theorem Reports.exists_upgrade (reports : Reports d r) :
    d.upgrade = .ok r.document ∧
      (r.issues = issues r.document ∨ d = Document.standard ∧ r.issues = [rootMissing]) := by
  cases reports with
  | document done =>
    obtain ⟨u, upgraded, rfl⟩ := exists_of_ofDocument done
    exact ⟨upgraded, .inl rfl⟩
  | @value v read valued =>
    obtain ⟨e, other, rest⟩ := (Failure.bind_eq_ok_iff _ _ _).mp valued
    obtain ⟨report, checked, last⟩ := (Failure.bind_eq_ok_iff _ _ _).mp rest
    have same := read.symm.trans ((Failure.ofDecoded_eq_ok_iff _ _).mp other)
    obtain rfl : d = e := Decoded.value.inj same
    obtain ⟨u, upgraded, rfl⟩ := exists_of_ofDocument ((Failure.ofFault_eq_ok_iff _ _).mp checked)
    by_cases tree : Document.hasRoot v = true
    · rw [if_pos tree] at last
      obtain rfl := Except.ok.inj last
      exact ⟨upgraded, .inl rfl⟩
    · rw [if_neg tree] at last
      obtain rfl := Except.ok.inj last
      rw [Document.ofValue, if_neg tree] at read
      exact ⟨upgraded, .inr ⟨(Decoded.value.inj read).symm, rfl⟩⟩

theorem coded_append (found more : List Issue) :
    coded code (found ++ more) = coded code found ++ coded code more :=
  List.filter_append found more

theorem coded_eq_nil {found : List Issue} (other : ∀ i ∈ found, i.code ≠ code) :
    coded code found = [] :=
  List.filter_eq_nil_iff.mpr fun i mem same => other i mem (eq_of_beq same)

theorem coded_eq_self {found : List Issue} (own : ∀ i ∈ found, i.code = code) :
    coded code found = found :=
  List.filter_eq_self.mpr fun i mem => beq_iff_eq.mpr (own i mem)

theorem coded_eq_nil_of_shared (apart : code ∉ sharedCodes) {found : List Issue}
    (shared : ∀ i ∈ found, i.code ∈ sharedCodes) : coded code found = [] :=
  coded_eq_nil fun i mem same => apart (same ▸ shared i mem)

theorem coded_issueIf_self (broken : Bool) (message path : String) :
    coded code (issueIf broken code message path) = issueIf broken code message path :=
  coded_eq_self fun _ mem => code_of_mem_issueIf mem

theorem coded_issueIf_of_ne {own : String} (other : own ≠ code) (broken : Bool)
    (message path : String) : coded code (issueIf broken own message path) = [] :=
  coded_eq_nil fun _ mem same => other ((code_of_mem_issueIf mem).symm.trans same)

theorem mem_sharedCodes_of_issueIf {own : String} (among : own ∈ sharedCodes) {broken : Bool}
    {message path : String} {i : Issue} (mem : i ∈ issueIf broken own message path) :
    i.code ∈ sharedCodes := by
  rwa [code_of_mem_issueIf mem]

theorem mem_sharedCodes_of_idIssues {seen : List String} {path : String} {n : NodeFields}
    {i : Issue} (mem : i ∈ idIssues seen path n) : i.code ∈ sharedCodes := by
  rw [idIssues] at mem
  split at mem
  · rw [List.mem_singleton.mp mem]
    exact List.mem_cons_of_mem _ List.mem_cons_self
  · exact mem_sharedCodes_of_issueIf (by decide) mem

theorem coded_nodeIssues (apart : code ∉ sharedCodes) (ids seen : List String) (path : String)
    (n : NodeFields) :
    coded code (nodeIssues ids seen path n) = coded code (contentIssues ids path n) := by
  have id : coded code (idIssues seen path n) = [] :=
    coded_eq_nil_of_shared apart fun _ mem => mem_sharedCodes_of_idIssues mem
  have type : coded code (issueIf (Text.isBlankText n.type) "MIR_NODE_TYPE_REQUIRED"
      "Node type must be a non-empty string." (path ++ "/type")) = [] :=
    coded_eq_nil_of_shared apart fun _ mem => mem_sharedCodes_of_issueIf (by decide) mem
  have fields : coded code (n.aside.flatMap fun e => issueIf true "MIR_NODE_FIELD_INVALID"
      ("Node field '" ++ e.1 ++ "' has an invalid shape.") (path ++ "/" ++ e.1)) = [] := by
    refine coded_eq_nil_of_shared apart fun i mem => ?_
    obtain ⟨e, -, told⟩ := List.mem_flatMap.mp mem
    exact mem_sharedCodes_of_issueIf (by decide) told
  simp only [nodeIssues, contentIssues, coded_append, id, type, fields, List.nil_append,
    List.append_assoc]

/-- The issues with a code for declarations and values are those at the nodes one after the other. -/
theorem coded_issues (apart : code ∉ sharedCodes) (d : Document) :
    coded code (issues d) = d.root.positions.flatMap fun p =>
      coded code (contentIssues (authoredIds d.root) (pointerAt p.1) p.2) := by
  have outside : coded code (documentIssues d) = [] := by
    refine coded_eq_nil_of_shared apart fun i mem => ?_
    obtain ⟨f, -, rfl⟩ := List.mem_map.mp mem
    exact List.mem_cons_self
  have tree := gather_treeIssues (coded code) rfl coded_append
    (fun seen p => coded_nodeIssues apart (authoredIds d.root) seen (pointerAt p.1) p.2) []
    d.root.positions
  rw [issues, coded_append, outside, List.nil_append, ← pointerAt_nil, placed_pointerAt]
  exact tree

/-- The issues with a code for declarations and values, in every report on a document. -/
theorem Reports.byCode_eq_flatMap (reports : Reports d r) (apart : code ∉ sharedCodes)
    (present : code ≠ rootMissing.code) :
    r.byCode code = r.document.root.positions.flatMap fun p =>
      coded code (contentIssues (authoredIds r.document.root) (pointerAt p.1) p.2) := by
  show coded code r.issues = _
  obtain ⟨upgraded, found | ⟨rfl, found⟩⟩ := reports.exists_upgrade
  · rw [found, coded_issues apart]
  · have standard : Document.standard = r.document := Except.ok.inj upgraded
    have nothing : coded code [rootMissing] = [] :=
      coded_eq_nil fun i mem same => present (by rw [← same, List.mem_singleton.mp mem])
    rw [found, nothing, ← standard]
    rfl

theorem pointerAt_append_slash (place : List Nat) :
    pointerAt place ++ "/" =
      "/ui/root/" ++ String.join (place.map fun i => "children/" ++ Text.ofNat i ++ "/") := by
  induction place using List.reverseRecOn with
  | nil => simp [pointerAt]
  | append_singleton place i ih =>
    have step : pointerAt (place ++ [i]) ++ "/" =
        pointerAt place ++ "/" ++ ("children/" ++ Text.ofNat i ++ "/") := by
      have slash : "/children/" = "/" ++ "children/" := rfl
      rw [pointerAt_snoc, slash]
      simp only [String.append_assoc]
    rw [step, ih]
    simp [String.join_append, String.append_assoc]

/-- Different positions have different pointers. -/
theorem pointerAt_injective {place other : List Nat} (same : pointerAt place = pointerAt other) :
    place = other := by
  have slashed := congrArg (· ++ "/") same
  simp only [pointerAt_append_slash] at slashed
  have spelled := congrArg String.toList slashed
  rw [String.toList_append, String.toList_append] at spelled
  have steps := String.toList_injective (List.append_cancel_left spelled)
  exact @Text.join_framed_injective "children/" '/' rfl _ _ steps

end Validation

end ViewDoc
