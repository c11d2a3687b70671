import ViewDoc.Proofs.Value.Equal
import ViewDoc.Proofs.View.Counting
/-!
Updates of the state of a live session. The main statement is that an update takes over every value
that is not loosely equal to the one held, and tells the listeners just when it takes over any. No
value is lost just when none of them is loosely equal to another one that is held.
-/

set_option autoImplicit false

namespace ViewDoc

namespace Session

/-- The state holds a value that counts as the one that an entry gives. -/
def Holds (counts : Value -> Value -> Prop) (state : Entries) (e : String × Value) : Prop :=
  ∃ w, Entries.get? state e.1 = some w ∧ counts w e.2

/-- A session is updated: the keys of the updates hold their values, where they did not hold what
counts as these, and the others what they held, new keys follow the old ones in order, and the
session is dirty and its listeners told if there was anything to change, or else left as it was. -/
structure SetsBy (counts : Value -> Value -> Prop) (s : Session) (updates : Entries)
    (t : Session × List Notice) : Prop where
  updated : ∀ e ∈ updates, ¬ Holds counts s.stage.state e ->
    Entries.get? t.1.stage.state e.1 = some e.2
  kept : ∀ e ∈ updates, Holds counts s.stage.state e ->
    Entries.get? t.1.stage.state e.1 = Entries.get? s.stage.state e.1
  others : ∀ key, key ∉ Entries.keys updates ->
    Entries.get? t.1.stage.state key = Entries.get? s.stage.state key
  order : Entries.keys t.1.stage.state = Entries.keys s.stage.state ++
    (Entries.keys updates).filter (· ∉ Entries.keys s.stage.state)
  told : (∃ e ∈ updates, ¬ Holds counts s.stage.state e) ->
    t = ({ s with stage.state := t.1.stage.state, dirty := true }, s.listeners.names.map .notified)
  quiet : (∀ e ∈ updates, Holds counts s.stage.state e) -> t = (s, [])

variable {s : Session} {state updates : Entries}

theorem holds_eq_iff {e : String × Value} :
    Holds (· = ·) state e ↔ Entries.get? state e.1 = some e.2 := by
  simp [Holds]

/-- What makes a difference is what is not loosely equal to what is held. -/
theorem mem_changes_iff {e : String × Value} :
    e ∈ changes state updates ↔ e ∈ updates ∧ ¬ Holds Value.LooselyEqual state e := by
  rw [changes, List.mem_filter, Holds]
  cases held : Entries.get? state e.1 with
  | none => simp
  | some w => simp [← Value.equal_iff]

theorem nodup_keys_changes (distinct : (Entries.keys updates).Nodup) :
    (Entries.keys (changes state updates)).Nodup :=
  distinct.sublist (List.filter_sublist.map _)

theorem get?_changes_of_not_mem {key : String} (absent : key ∉ Entries.keys updates) :
    Entries.get? (changes state updates) key = none :=
  Entries.get?_eq_none_iff.mpr fun mem => absent ((List.filter_sublist.map _).subset mem)

/-- What is under a new key makes a difference. -/
theorem newKeys_changes (state updates : Entries) :
    (Entries.keys (changes state updates)).filter (· ∉ Entries.keys state) =
      (Entries.keys updates).filter (· ∉ Entries.keys state) := by
  have keys (es : Entries) : (Entries.keys es).filter (· ∉ Entries.keys state) =
      (es.filter fun e => e.1 ∉ Entries.keys state).map (·.1) := List.filter_map
  rw [keys, keys, changes, List.filter_filter]
  refine congrArg (List.map _) (List.filter_congr fun e _ => ?_)
  by_cases known : e.1 ∈ Entries.keys state
  · simp [known]
  · simp [known, Entries.get?_eq_none_iff.mpr known]

theorem setState_of_forall (holds : ∀ e ∈ updates, Holds Value.LooselyEqual s.stage.state e) :
    s.setState updates = (s, []) := by
  have nothing : changes s.stage.state updates = [] :=
    List.eq_nil_iff_forall_not_mem.mpr fun e mem =>
      (mem_changes_iff.mp mem).2 (holds e (mem_changes_iff.mp mem).1)
  rw [setState, nothing]
  rfl

theorem setState_of_exists
    (differs : ∃ e ∈ updates, ¬ Holds Value.LooselyEqual s.stage.state e) :
    s.setState updates =
      ({ s with
          stage.state := Entries.merge s.stage.state (changes s.stage.state updates)
          dirty := true },
        s.listeners.names.map .notified) := by
  obtain ⟨e, mem, other⟩ := differs
  have some : (changes s.stage.state updates).isEmpty = false :=
    List.isEmpty_eq_false_iff_exists_mem.mpr ⟨e, mem_changes_iff.mpr ⟨mem, other⟩⟩
  rw [setState]
  dsimp only
  rw [some]
  rfl

/-- An update takes over what is not loosely equal to what is held, and nothing else. -/
theorem setsBy_setState (s : Session) (distinct : (Entries.keys updates).Nodup) :
    s.SetsBy Value.LooselyEqual updates (s.setState updates) := by
  have merged (key : String) :
      Entries.get? (s.setState updates).1.stage.state key =
        (Entries.get? (changes s.stage.state updates) key).or (Entries.get? s.stage.state key) := by
    rw [setState_state, Entries.get?_merge (nodup_keys_changes distinct)]
  refine ⟨fun e mem other => ?_, fun e mem holds => ?_, fun key absent => ?_, ?_, fun differs => ?_,
    setState_of_forall⟩
  · have change := mem_changes_iff.mpr ⟨mem, other⟩
    rw [merged, Entries.get?_of_mem (nodup_keys_changes distinct) change]
    rfl
  · have unchanged : Entries.get? (changes s.stage.state updates) e.1 = none := by
      cases found : Entries.get? (changes s.stage.state updates) e.1 with
      | none => rfl
      | some v =>
        obtain ⟨among, differs⟩ := mem_changes_iff.mp (Entries.mem_of_get? found)
        have own : Entries.get? updates e.1 = some v := Entries.get?_of_mem distinct among
        obtain rfl : e.2 = v := Option.some.inj ((Entries.get?_of_mem distinct mem).symm.trans own)
        exact absurd holds differs
    rw [merged, unchanged]
    rfl
  · rw [merged, get?_changes_of_not_mem absent]
    rfl
  · rw [setState_state, Entries.keys_merge (nodup_keys_changes distinct), newKeys_changes]
  · rw [setState_of_exists differs]

theorem SetsBy.congr {counts counts' : Value -> Value -> Prop} {t : Session × List Notice}
    (same : ∀ e ∈ updates, Holds counts s.stage.state e ↔ Holds counts' s.stage.state e)
    (sets : s.SetsBy counts updates t) : s.SetsBy counts' updates t where
  updated e mem other := sets.updated e mem (mt (same e mem).mp other)
  kept e mem holds := sets.kept e mem ((same e mem).mpr holds)
  others := sets.others
  order := sets.order
  told := fun ⟨e, mem, other⟩ => sets.told ⟨e, mem, mt (same e mem).mp other⟩
  quiet holds := sets.quiet fun e mem => (same e mem).mpr (holds e mem)

/-- An update takes over every value that is not loosely equal to the one held, and tells the
listeners just when there is one. All values are taken over just when no value is held that is
loosely equal to the new one and another value. -/
theorem setState_setsBy (s : Session) (json : (Value.object updates).isJson = true) :
    s.SetsBy Value.LooselyEqual updates (s.setState updates) ∧
      (s.SetsBy (· = ·) updates (s.setState updates) ↔
        ∀ e ∈ updates, ∀ w, Entries.get? s.stage.state e.1 = some w -> w.LooselyEqual e.2 ->
          w = e.2) := by
  obtain ⟨distinct, members⟩ := Value.isJson_object.mp json
  have sets := setsBy_setState s distinct
  refine ⟨sets, fun exact e mem w held loose => ?_, fun lossless => sets.congr fun e mem => ?_⟩
  · by_contra other
    have before : ¬ Holds (· = ·) s.stage.state e := by
      rw [holds_eq_iff, held]
      exact fun same => other (Option.some.inj same)
    have taken := exact.updated e mem before
    rw [sets.kept e mem ⟨w, held, loose⟩, held] at taken
    exact other (Option.some.inj taken)
  · constructor
    · rintro ⟨w, held, loose⟩
      exact ⟨w, held, lossless e mem w held loose⟩
    · rintro ⟨w, held, rfl⟩
      exact ⟨_, held, Value.looselyEqual_self_of_member members e mem⟩

/-- A session with a state, whose view is up to date and has a listener. -/
def holding (state : Entries) : Session where
  stage :=
    { document := { version := "1.2", root := .node { id := "root", type := "div" } [] }, state }
  dirty := false
  listeners := ({} : Observers).subscribe "view"

/-- A new key, a key with another value, and one with the value that it had. -/
theorem holding_setsBy :
    let s := holding [("step", .float (.finite false 1 0)), ("rows", .list [.int 1, .null])]
    let updates : Entries := [("title", .str "New"), ("rows", .list [.int 0, .null]),
      ("step", .float (.finite false 1 0))]
    (Value.object updates).isJson = true ∧ s.SetsBy (· = ·) updates (s.setState updates) ∧
      (s.setState updates).1.stage.state = [("step", .float (.finite false 1 0)),
        ("rows", .list [.int 0, .null]), ("title", .str "New")] ∧
      (s.setState updates).2 = [.notified "view"] := by
  intro s updates
  refine ⟨rfl, (setState_setsBy s rfl).2.mpr ?_, by decide +kernel, by decide +kernel⟩
  simp only [← Value.equal_iff]
  decide +kernel

/-- A truth value is lost where the state holds the number that it amounts to. -/
theorem holding_loses :
    let s := holding [("done", .int 1)]
    let updates : Entries := [("done", .bool true)]
    (Value.object updates).isJson = true ∧ s.setState updates = (s, []) ∧
      ¬ s.SetsBy (· = ·) updates (s.setState updates) := by
  intro s updates
  have unchanged : s.setState updates = (s, []) := by
    refine setState_of_forall (List.forall_mem_singleton.mpr ⟨.int 1, rfl, ?_⟩)
    exact .number (q := 1) (by simp [Value.amount?]) (by simp [Value.amount?])
  have other : ¬ Holds (· = ·) s.stage.state ("done", .bool true) := by
    rw [holds_eq_iff]
    intro same
    cases same
  refine ⟨rfl, unchanged, fun sets => ?_⟩
  have taken := sets.updated ("done", .bool true) List.mem_cons_self other
  rw [unchanged] at taken
  cases taken

end Session

end ViewDoc
