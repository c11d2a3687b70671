import Mathlib.Data.List.Induction
import ViewDoc.Proofs.Ref.Steps
import ViewDoc.Ref.Resolve
import ViewDoc.Text.Blank
/-!
Members of a data scope by name. The main statement is what a name finds in the scope of a list
entry: the index, else the item, else what it finds in the scope around the list.
-/

set_option autoImplicit false

namespace ViewDoc

theorem Key.meets_text_iff (k : Key) (name : String) :
    k.meets (.text name) = true ↔ k = .text name := by
  cases k <;> simp [Key.meets, Key.whole?]

namespace Keyed

variable {α : Type}

theorem get?_ofEntries (es : List (String × α)) (name : String) :
    get? (ofEntries es) (.text name) = Entries.get? es name := by
  induction es with
  | nil => rfl
  | cons e rest ih =>
    obtain ⟨key, a⟩ := e
    have later : get? (ofEntries rest) (.text name) = Entries.get? rest name := ih
    by_cases same : key = name
    · simp [ofEntries, get?, Entries.get?, Key.meets, same]
    · simp only [ofEntries, List.map_cons, get?, Entries.get?, Key.meets_text_iff, Key.text.injEq,
        same, if_false]
      exact later

theorem get?_set_text (es : List (Key × α)) (key name : String) (a : α) :
    get? (set es (.text key) a) (.text name) =
      if key = name then some a else get? es (.text name) := by
  induction es with
  | nil => simp [set, get?, Key.meets_text_iff]
  | cons e rest ih =>
    obtain ⟨k, b⟩ := e
    rw [set]
    by_cases here : k.meets (.text key) = true
    · obtain rfl := (Key.meets_text_iff k key).mp here
      rw [if_pos here]
      by_cases same : key = name <;> simp [get?, Key.meets_text_iff, same]
    · have other : k ≠ .text key := fun same => here ((Key.meets_text_iff k key).mpr same)
      rw [if_neg here, get?, get?, ih]
      by_cases found : k = .text name
      · have differ : key ≠ name := by
          intro same
          exact other (found.trans (by rw [same]))
        simp [Key.meets_text_iff, found, differ]
      · simp [Key.meets_text_iff, found]

theorem get?_set_of_ne (es : List (Key × α)) {k : Key} {name : String} (a : α)
    (other : k ≠ .text name) : get? (set es k a) (.text name) = get? es (.text name) := by
  induction es with
  | nil => simp [set, get?, Key.meets_text_iff, other]
  | cons e rest ih =>
    obtain ⟨l, b⟩ := e
    rw [set]
    by_cases here : l.meets k = true
    · have differ : l ≠ .text name := by
        rintro rfl
        refine other ?_
        cases k <;> simp_all [Key.meets, Key.whole?]
      simp [here, get?, Key.meets_text_iff, differ]
    · rw [if_neg here, get?, get?, ih]

theorem get?_merge_of_forall_ne (es updates : List (Key × α)) {name : String}
    (other : ∀ e ∈ updates, e.1 ≠ .text name) :
    get? (merge es updates) (.text name) = get? es (.text name) := by
  induction updates generalizing es with
  | nil => rfl
  | cons e rest ih =>
    have first : e.1 ≠ .text name := other e List.mem_cons_self
    have later : ∀ e ∈ rest, e.1 ≠ .text name := fun e mem => other e (List.mem_cons_of_mem _ mem)
    rw [merge, List.foldl_cons, ← merge, ih _ later, get?_set_of_ne es e.2 first]

theorem eq_ofEntries_of_texts? {es : List (Key × α)} {texts : List (String × α)}
    (plain : texts? es = some texts) : es = ofEntries texts := by
  induction es generalizing texts with
  | nil =>
    cases plain
    rfl
  | cons e rest ih =>
    obtain ⟨k, a⟩ := e
    rw [texts?, List.mapM_cons] at plain
    obtain ⟨first, named, plain⟩ := Option.bind_eq_some_iff.mp plain
    obtain ⟨more, later, whole⟩ := Option.bind_eq_some_iff.mp plain
    obtain ⟨s, text, rfl⟩ := Option.map_eq_some_iff.mp named
    cases whole
    have key : k = .text s := by
      cases k <;> simp_all [Key.text?]
    rw [key, ih later]
    rfl

end Keyed

namespace Value

/-- The member under a name, of what has members. -/
def member? (v : Value) (name : String) : Option Value :=
  v.keyed?.bind fun es => Keyed.get? es (.text name)

theorem member?_ofKeyed (es : List (Key × Value)) (name : String) :
    (ofKeyed es).member? name = Keyed.get? es (.text name) := by
  rw [ofKeyed]
  cases plain : Keyed.texts? es with
  | none => rfl
  | some texts =>
    rw [Keyed.eq_ofEntries_of_texts? plain]
    rfl

theorem get?_keyed?_getD (v : Value) (name : String) :
    Keyed.get? (v.keyed?.getD []) (.text name) = v.member? name := by
  rw [member?]
  cases v.keyed? <;> rfl

theorem member?_overlaid_of_forall_ne (base : Value) {updates : List (Key × Value)} {name : String}
    (other : ∀ e ∈ updates, e.1 ≠ .text name) :
    (base.overlaid updates).member? name = base.member? name := by
  rw [overlaid, member?_ofKeyed, Keyed.get?_merge_of_forall_ne _ _ other, get?_keyed?_getD]

/-- Of the entries that are put over a value the last one under a name is found. -/
theorem member?_overlaid_ofEntries (base : Value) (updates : Entries) (name : String) :
    (base.overlaid (Keyed.ofEntries updates)).member? name =
      (Entries.get? updates.reverse name).or (base.member? name) := by
  rw [overlaid, member?_ofKeyed, ← get?_keyed?_getD]
  induction updates using List.reverseRecOn with
  | nil => rfl
  | append_singleton updates e ih =>
    obtain ⟨key, v⟩ := e
    rw [Keyed.ofEntries, Keyed.merge] at ih ⊢
    rw [List.map_append, List.foldl_append, List.map_singleton, List.foldl_cons, List.foldl_nil,
      Keyed.get?_set_text, ih, List.reverse_append, List.reverse_singleton, List.singleton_append,
      Entries.get?]
    split <;> rfl

theorem read_of_keyed? {v : Value} {es : List (Key × Value)} (members : v.keyed? = some es)
    (s : Path.Step) : s.read v = .ok ((v.member? s.name).getD .null) := by
  cases v with
  | object es =>
    rw [member?, keyed?, Option.bind_some, Keyed.get?_ofEntries]
    rfl
  | mapping es => rfl
  | _ => cases members

theorem read_of_member? {v w : Value} {s : Path.Step} (found : v.member? s.name = some w) :
    s.read v = .ok w := by
  obtain ⟨es, members, -⟩ := Option.bind_eq_some_iff.mp found
  rw [read_of_keyed? members, found]
  rfl

theorem exists_keyed?_overlaid (base : Value) (updates : List (Key × Value)) :
    ∃ es, (base.overlaid updates).keyed? = some es := by
  rw [overlaid, ofKeyed]
  split
  · exact ⟨_, rfl⟩
  · exact ⟨_, rfl⟩

end Value

theorem Path.read_of_isName {w : String} (name : IsName w) (v : Value) :
    read v w = (Step.key w).read v := by
  rw [read, parse_of_isName name]
  show readSteps v [.key w] = (Step.key w).read v
  rw [readSteps]
  cases (Step.key w).read v <;> rfl

namespace Context

theorem get?_aliases (item : Value) (index : Int) {itemAs indexAs : Option String}
    (ofItem : itemAs ≠ some "") (ofIndex : indexAs ≠ some "") (name : String) :
    Entries.get? (aliases item index itemAs indexAs).reverse name =
      if indexAs = some name then some (.int index)
      else if itemAs = some name then some item else none := by
  cases itemAs with
  | none =>
    cases indexAs with
    | none => rfl
    | some j =>
      have names : aliases item index none (some j) = [(j, .int index)] := by
        have second : j ≠ "" := fun same => ofIndex (by rw [same])
        simp [aliases, second, Entries.ofList, Entries.merge, Entries.set]
      rw [names]
      by_cases asked : j = name <;> simp [asked, Entries.get?]
  | some i =>
    have first : i ≠ "" := fun same => ofItem (by rw [same])
    cases indexAs with
    | none =>
      have names : aliases item index (some i) none = [(i, item)] := by
        simp [aliases, first, Entries.ofList, Entries.merge, Entries.set]
      rw [names]
      by_cases asked : i = name <;> simp [asked, Entries.get?]
    | some j =>
      have second : j ≠ "" := fun same => ofIndex (by rw [same])
      by_cases same : i = j
      · subst same
        have names : aliases item index (some i) (some i) = [(i, .int index)] := by
          simp [aliases, first, Entries.ofList, Entries.merge, Entries.set]
        rw [names]
        by_cases asked : i = name <;> simp [asked, Entries.get?]
      · have names : aliases item index (some i) (some j) = [(i, item), (j, .int index)] := by
          simp [aliases, first, second, same, Entries.ofList, Entries.merge, Entries.set]
        rw [names]
        by_cases asked : j = name <;> simp [asked, Entries.get?]

/-- What a name finds in the data scope of a list entry. -/
theorem member?_withItem (ctx : Context) (item : Value) (index : Int) {itemAs indexAs : Option String}
    (ofItem : itemAs ≠ some "") (ofIndex : indexAs ≠ some "") (name : String) :
    (ctx.withItem item index itemAs indexAs).data.member? name =
      if indexAs = some name then some (.int index)
      else if itemAs = some name then some item
      else ctx.data.member? name := by
  have found : (ctx.withItem item index itemAs indexAs).data.member? name =
      (Entries.get? (aliases item index itemAs indexAs).reverse name).or
        (ctx.data.member? name) := by
    rw [withItem]
    cases aliases item index itemAs indexAs with
    | nil => rfl
    | cons e rest => exact Value.member?_overlaid_ofEntries ctx.data (e :: rest) name
  rw [found, get?_aliases item index ofItem ofIndex]
  split
  · rfl
  · split <;> rfl

end Context

end ViewDoc
