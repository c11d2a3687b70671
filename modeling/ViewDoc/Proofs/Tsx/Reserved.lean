import ViewDoc.Proofs.Tsx.Clash
/-!
The names that loops keep clear of. They are found by a walk over the document before anything is
drafted, and hold everything that the body of the component will bind, so that a loop variable never
hides a parameter, a state variable or a setter.
-/

set_option autoImplicit false

namespace ViewDoc

namespace Value

mutual

/-- The walk finds the parameters in every reference, also in those that no draft follows. -/
theorem reads_subset {v : Value} {ps : List String} (named : v.paramNames = .ok ps) :
    v.reads ⊆ ps := by
  cases v with
  | list items =>
    rw [paramNames] at named
    rw [reads]
    split
    · exact readsOfItems_subset named
    · exact List.nil_subset _
  | object es =>
    rw [paramNames] at named
    rw [reads]
    cases marked : Ref.ofValue? (.object es) with
    | none =>
      rw [marked] at named
      dsimp only
      split
      · exact readsOfEntries_subset named
      · exact List.nil_subset _
    | some r =>
      cases r with
      | param path =>
        rw [marked] at named
        dsimp only at named ⊢
        rw [Ref.reads, named]
        exact List.Subset.refl ps
      | _ => exact List.nil_subset _
  | _ => exact List.nil_subset _
termination_by structural v

theorem readsOfItems_subset {items : List Value} {ps : List String}
    (named : paramNamesOfItems items = .ok ps) : readsOfItems items ⊆ ps := by
  cases items with
  | nil => exact List.nil_subset _
  | cons v rest =>
    obtain ⟨first, own, named⟩ := Fault.exists_of_bind_ok named
    obtain ⟨others, later, named⟩ := Fault.exists_of_bind_ok named
    cases named
    exact List.append_subset.mpr ⟨List.subset_append_of_subset_left _ (reads_subset own),
      List.subset_append_of_subset_right _ (readsOfItems_subset later)⟩
termination_by structural items

theorem readsOfEntries_subset {es : List (String × Value)} {ps : List String}
    (named : paramNamesOfEntries es = .ok ps) : readsOfEntries es ⊆ ps := by
  cases es with
  | nil => exact List.nil_subset _
  | cons entry rest =>
    obtain ⟨key, v⟩ := entry
    obtain ⟨first, own, named⟩ := Fault.exists_of_bind_ok named
    obtain ⟨others, later, named⟩ := Fault.exists_of_bind_ok named
    cases named
    exact List.append_subset.mpr ⟨List.subset_append_of_subset_left _ (reads_subset own),
      List.subset_append_of_subset_right _ (readsOfEntries_subset later)⟩
termination_by structural es

end

theorem pointed_subset {v : Value} {ps : List String} (named : v.paramNames = .ok ps) :
    v.pointed ⊆ ps := by
  cases v with
  | object es =>
    rw [paramNames] at named
    rw [pointed]
    cases marked : Ref.ofValue? (.object es) with
    | none => exact List.nil_subset _
    | some r =>
      cases r with
      | param path =>
        rw [marked] at named
        dsimp only at named ⊢
        rw [Ref.reads, named]
        exact List.Subset.refl ps
      | _ => exact List.nil_subset _
  | _ => exact List.nil_subset _

theorem exists_of_paramNamesOfEntries_ok {es : Entries} {ps : List String}
    (named : paramNamesOfEntries es = .ok ps) :
    ∀ e ∈ es, ∃ qs, e.2.paramNames = .ok qs ∧ qs ⊆ ps := by
  induction es generalizing ps with
  | nil => exact fun e mem => (List.not_mem_nil mem).elim
  | cons entry rest ih =>
    obtain ⟨first, own, named⟩ := Fault.exists_of_bind_ok named
    obtain ⟨others, later, named⟩ := Fault.exists_of_bind_ok named
    cases named
    refine List.forall_mem_cons.mpr ⟨⟨first, own, List.subset_append_left _ _⟩, fun e mem => ?_⟩
    obtain ⟨qs, found, within⟩ := ih later e mem
    exact ⟨qs, found, List.subset_append_of_subset_right _ within⟩

/-- An object that is a reference holds nothing that is read by itself. -/
theorem reads_member_subset {es : Entries} {ps : List String}
    (named : (Value.object es).paramNames = .ok ps) {e : String × Value} (mem : e ∈ es) :
    e.2.reads ⊆ ps := by
  rw [paramNames] at named
  split at named
  · rename_i path marked
    rw [Ref.ofValue?.eq_def] at marked
    split at marked
    · rename_i shape
      cases shape
      rw [List.mem_singleton.mp mem]
      exact List.nil_subset _
    · rename_i shape
      cases shape
      cases marked
    · cases marked
  · obtain ⟨qs, found, within⟩ := exists_of_paramNamesOfEntries_ok named e mem
    exact List.Subset.trans (reads_subset found) within

theorem readsOfEntries_eq_flatMap (es : Entries) :
    readsOfEntries es = es.flatMap fun e => e.2.reads := by
  induction es with
  | nil => rfl
  | cons e rest ih => rw [readsOfEntries, ih, List.flatMap_cons]

end Value

theorem Ref.ofValue?_eq_none_of_length {es : Entries} (several : 1 < es.length) :
    ofValue? (.object es) = none := by
  rw [ofValue?.eq_def]
  split
  · rename_i shape
    cases shape
    exact absurd several (Nat.lt_irrefl 1)
  · rename_i shape
    cases shape
    exact absurd several (Nat.lt_irrefl 1)
  · rfl

theorem DataDecl.reads_subset {d : DataDecl} {ps : List String}
    (named : d.toValue.paramNames = .ok ps) : d.reads ⊆ ps := by
  have entries : Value.paramNamesOfEntries (d.fields ++ d.extras) = .ok ps := by
    rw [toValue, Value.paramNames, Ref.ofValue?_eq_none_of_length] at named
    · exact named
    · simp [fields]
  have field (e : String × Value) (mem : e ∈ d.fields) :
      ∃ qs, e.2.paramNames = .ok qs ∧ qs ⊆ ps :=
    Value.exists_of_paramNamesOfEntries_ok entries e (List.mem_append_left _ mem)
  have read (e : String × Value) (mem : e ∈ d.fields) : e.2.reads ⊆ ps := by
    obtain ⟨qs, found, within⟩ := field e mem
    exact List.Subset.trans (Value.reads_subset found) within
  have source : d.source.pointed ⊆ ps := by
    obtain ⟨qs, found, within⟩ := field ("source", d.source) (by simp [fields])
    exact List.Subset.trans (Value.pointed_subset found) within
  have design : (d.design false).reads ⊆ ps := by
    rw [DataDecl.design, if_neg (by simp)]
    split
    · exact read ("value", d.value) (by simp [fields])
    · exact read ("mock", d.mock) (by simp [fields])
  refine List.append_subset.mpr ⟨List.append_subset.mpr ⟨source, ?_⟩, ?_⟩
  · cases given : (d.design false).nonNull? with
    | none => exact List.nil_subset _
    | some v =>
      obtain rfl : d.design false = v := by
        revert given
        cases d.design false <;> simp [Value.nonNull?]
      exact design
  · obtain ⟨qs, found, within⟩ := field ("extend", d.extend) (by simp [fields])
    cases extend : d.extend with
    | object es =>
      dsimp only at found ⊢
      rw [extend] at found
      rw [Value.readsOfEntries_eq_flatMap]
      intro p mem
      obtain ⟨e, among, mem⟩ := List.mem_flatMap.mp mem
      exact within (Value.reads_member_subset found among mem)
    | _ => exact List.nil_subset _

namespace Tsx

open Relation (ReflTransGen)

namespace Declared

/-- The values of a node in which references may stand. -/
def referring (n : CanonicalFields) : List Value :=
  [n.text, .object n.style, .object n.props] ++
    n.events.map (fun e => .object e.2.params) ++ (n.data.map fun d => d.toValue).toList ++
    (n.list.map fun l => l.source).toList

theorem exists_of_paramsOf_ok {n : CanonicalFields} {ps : List String}
    (named : paramsOf n = .ok ps) :
    ∀ v ∈ referring n, ∃ qs, v.paramNames = .ok qs ∧ qs ⊆ ps := by
  intro v mem
  obtain ⟨lists, each, named⟩ := Fault.exists_of_bind_ok named
  cases named
  obtain ⟨qs, among, found⟩ := Fault.exists_mem_of_mapM_ok each v mem
  exact ⟨qs, found, fun p mem => List.mem_flatten.mpr ⟨qs, among, mem⟩⟩

theorem eventReads_subset (names : Declared) {e : EventBinding} {ps : List String}
    (named : (Value.object e.params).paramNames = .ok ps) : names.eventReads e ⊆ ps := by
  have target : (Entries.get e.params "to").reads ⊆ ps := by
    rw [Entries.get]
    cases found : Entries.get? e.params "to" with
    | none => exact List.nil_subset _
    | some v => exact Value.reads_member_subset named (Entries.mem_of_get? found)
  rw [eventReads]
  split
  · exact List.nil_subset _
  · split
    · exact List.nil_subset _
    · split
      · exact target
      · exact Value.reads_subset named

theorem attributeReads_subset (names : Declared) (omitted : List String) {n : CanonicalFields}
    {ps : List String} (named : paramsOf n = .ok ps) : names.attributeReads omitted n ⊆ ps := by
  have found := exists_of_paramsOf_ok named
  refine List.append_subset.mpr ⟨List.append_subset.mpr ⟨?_, ?_⟩, ?_⟩
  · obtain ⟨qs, style, within⟩ := found (.object n.style) (by simp [referring])
    exact List.Subset.trans (Value.reads_subset style) within
  · obtain ⟨qs, props, within⟩ := found (.object n.props) (by simp [referring])
    intro p mem
    obtain ⟨prop, among, mem⟩ := List.mem_flatMap.mp mem
    have read : p ∈ prop.2.reads := by
      split at mem
      · cases mem
      · rw [propReads] at mem
        split at mem
        · cases mem
        · exact mem
    exact within (Value.reads_member_subset props among read)
  · intro p mem
    obtain ⟨event, among, mem⟩ := List.mem_flatMap.mp mem
    have params : Value.object event.2.params ∈ referring n := by
      have mapped : Value.object event.2.params ∈ n.events.map fun e => Value.object e.2.params :=
        List.mem_map.mpr ⟨event, among, rfl⟩
      exact List.mem_append_left _ (List.mem_append_left _ (List.mem_append_right _ mapped))
    obtain ⟨qs, params, within⟩ := found _ params
    exact within (names.eventReads_subset params mem)

end Declared

namespace Blueprint

variable {b : Blueprint} {t c : CanonicalNode}

theorem data_reads_subset {ps : List String} (named : Declared.paramsOf t.value = .ok ps) :
    (t.value.data.map DataDecl.reads).getD [] ⊆ ps := by
  cases data : t.value.data with
  | none => exact List.nil_subset _
  | some d =>
    obtain ⟨qs, found, within⟩ := Declared.exists_of_paramsOf_ok named d.toValue
      (by simp [Declared.referring, data])
    exact List.Subset.trans (DataDecl.reads_subset found) within

theorem reads_subset {ps : List String} (named : Declared.paramsOf t.value = .ok ps) :
    b.reads t ⊆ ps := by
  have found := Declared.exists_of_paramsOf_ok named
  refine List.append_subset.mpr ⟨List.append_subset.mpr ⟨data_reads_subset named, ?_⟩, ?_⟩
  · exact b.names.attributeReads_subset _ named
  · split
    · exact List.nil_subset _
    · refine List.append_subset.mpr ⟨?_, ?_⟩
      · obtain ⟨qs, text, within⟩ := found t.value.text (by simp [Declared.referring])
        exact List.Subset.trans (Value.pointed_subset text) within
      · cases list : t.value.list with
        | none => exact List.nil_subset _
        | some l =>
          obtain ⟨qs, source, within⟩ := found l.source (by simp [Declared.referring, list])
          exact List.Subset.trans (Value.pointed_subset source) within

theorem Holds.leadsTo (holds : b.Holds t c) : b.document.LeadsTo t c := by
  cases holds with
  | child _ _ below => exact .child below
  | item _ _ below => exact .child (List.mem_filter.mp below).1
  | empty _ list found => exact emptyNode?_leadsTo list found

theorem mem_walk_of_reach (reach : ReflTransGen b.Holds b.document.root t) :
    t ∈ b.document.root.walk := by
  induction reach with
  | refl => exact Tree.mem_walk_self _
  | tail _ holds ih => exact holds.leadsTo.mem_walk ih

end Blueprint

namespace Declared

variable {d : CanonicalDocument} {names : Declared}

theorem exists_of_ofDocument_ok (declared : ofDocument d = .ok names) :
    ∃ referred, (d.root.walk.mapM fun t => paramsOf t.value) = .ok referred ∧
      names.reserved = (Entries.keys names.props).map identifier ++
        (Entries.keys names.state).map identifier ++
        ((Entries.keys names.state).map identifier).map setter ++
        referred.flatten.map identifier := by
  obtain ⟨reserved, walked, declared⟩ := Fault.exists_of_bind_ok declared
  cases declared
  obtain ⟨referred, each, walked⟩ := Fault.exists_of_bind_ok walked
  refine ⟨referred, each, ?_⟩
  simp only [Entries.keys, List.map_map] at walked ⊢
  exact (Except.ok.inj walked).symm

theorem own_subset_reserved (declared : ofDocument d = .ok names) : names.own ⊆ names.reserved := by
  obtain ⟨referred, -, reserved⟩ := exists_of_ofDocument_ok declared
  rw [reserved, List.append_assoc]
  exact List.subset_append_left _ _

/-- Of a node in the document the parameters that it refers to are reserved. -/
theorem exists_paramsOf_ok (declared : ofDocument d = .ok names) {t : CanonicalNode}
    (mem : t ∈ d.root.walk) :
    ∃ ps, paramsOf t.value = .ok ps ∧ ∀ p ∈ ps, identifier p ∈ names.reserved := by
  obtain ⟨referred, walked, reserved⟩ := exists_of_ofDocument_ok declared
  obtain ⟨ps, among, named⟩ := Fault.exists_mem_of_mapM_ok walked t mem
  refine ⟨ps, named, fun p mem => ?_⟩
  rw [reserved]
  refine List.mem_append_right _ (List.mem_map_of_mem ?_)
  exact List.mem_flatten.mpr ⟨ps, among, mem⟩

end Declared

/-- All that the body of a component binds is reserved. -/
theorem Module.Made.bound_subset_reserved {source : Normalized} {options : Options} {m : Module}
    {names : Declared} {notes : List Note} (made : Made source options names notes m) :
    m.bound ⊆ names.reserved := by
  obtain ⟨referred, -, reserved⟩ := Declared.exists_of_ofDocument_ok made.declared
  have undeclared : ∀ p ∈ Note.undeclaredParams notes, identifier p ∈ names.reserved := by
    intro p mem
    obtain ⟨-, t, reach, read⟩ := (made.mem_undeclaredParams_iff p).mp mem
    obtain ⟨ps, named, held⟩ :=
      Declared.exists_paramsOf_ok made.declared (Blueprint.mem_walk_of_reach reach)
    exact held p (Blueprint.reads_subset named read)
  rw [made.bound_eq, List.map_append, reserved]
  rw [reserved] at undeclared
  refine List.append_subset.mpr ⟨List.append_subset.mpr ⟨List.append_subset.mpr ⟨?_, ?_⟩, ?_⟩, ?_⟩
  · rw [List.append_assoc, List.append_assoc]
    exact List.subset_append_left _ _
  · intro x mem
    obtain ⟨p, noted, rfl⟩ := List.mem_map.mp mem
    exact undeclared p noted
  · intro x mem
    exact List.mem_append_left _ (List.mem_append_left _ (List.mem_append_right _ mem))
  · intro x mem
    rw [List.map_map]
    exact List.mem_append_left _ (List.mem_append_right _ mem)

end Tsx

end ViewDoc
