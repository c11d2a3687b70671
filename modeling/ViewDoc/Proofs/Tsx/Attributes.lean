import Mathlib.Data.List.Nodup
import ViewDoc.Canonical.Build
import ViewDoc.Proofs.Value.Distinct
import ViewDoc.Tsx.Element
/-!
The names of the attributes of an element: its style, the props that it takes, and the handlers of
its events. Handlers are gathered by their names, but not together with the style and the props. The
main statement says exactly when the names differ.
-/

set_option autoImplicit false

namespace ViewDoc

/-- Whether generated code has an expression for a value: JSON spells it, or a reference stands
in it. -/
def Value.isWritten : Value -> Bool
  | .list items => (Value.list items).containsRef defaultDepth || Json.spells (.list items)
  | .object es => (Value.object es).containsRef defaultDepth || Json.spells (.object es)
  | v => Json.spells v

theorem Value.containsRef_of_ref {v : Value} {r : Ref} (ref : Ref.ofValue? v = some r) :
    v.containsRef defaultDepth = true := by
  rw [containsRef, containsRefIn.eq_def]
  show ((Ref.ofValue? v).isSome || _) = true
  rw [ref]
  rfl

namespace Trigger

/-- Every handler name begins with the same two letters. -/
theorem handler_toList (trigger : String) :
    ∃ rest, (handler trigger).toList = 'o' :: 'n' :: rest := by
  rw [handler]
  dsimp only
  split
  · rename_i own
    rw [isHandler] at own
    split at own
    · rename_i spelled
      exact ⟨_, spelled⟩
    · cases own
  · cases found : knownHandlers.find? fun known =>
        Text.lower known == Text.lower (composed trigger) with
    | none =>
      rw [Option.getD_none, composed, String.toList_append]
      exact ⟨_, rfl⟩
    | some known =>
      have spelled : knownHandlers.all (·.toList.take 2 == ['o', 'n']) = true := by
        decide +kernel
      have front := List.all_eq_true.mp spelled known (List.mem_of_find?_eq_some found)
      have whole := List.take_append_drop 2 known.toList
      rw [beq_iff_eq.mp front] at whole
      exact ⟨_, whole.symm⟩

theorem handler_ne_style (trigger : String) : handler trigger ≠ "style" := by
  obtain ⟨rest, spelled⟩ := handler_toList trigger
  intro same
  have front : ("style" : String).toList = 's' :: _ := rfl
  rw [same, front] at spelled
  cases spelled

end Trigger

namespace Tsx.Draft

open Noted (exists_of_bind_ok eq_of_pure_ok)

variable {names : Declared} {scope : Scope} {n : CanonicalFields} {path key : String} {v : Value}
  {omitted : List String} {notes : List Note}

theorem isSome_literal {e : Option Expr} (done : literal path v = .ok (e, notes)) :
    e.isSome = Json.spells v := by
  rw [literal] at done
  split at done
  · rename_i spelled
    obtain rfl : e = some _ := eq_of_pure_ok done
    rw [spelled]
    rfl
  · rename_i unspelled
    obtain ⟨_, _, -, done⟩ := exists_of_bind_ok done
    obtain rfl : e = none := eq_of_pure_ok done
    rw [Bool.eq_false_iff.mpr unspelled]
    rfl

theorem isSome_value {e : Option Expr} (done : value names scope path v = .ok (e, notes)) :
    e.isSome = v.isWritten := by
  cases v with
  | list items =>
    rw [value] at done
    split at done
    · rename_i inside
      obtain ⟨_, _, -, done⟩ := exists_of_bind_ok done
      obtain rfl : e = some _ := eq_of_pure_ok done
      rw [Value.isWritten, inside]
      rfl
    · rename_i plain
      rw [isSome_literal done, Value.isWritten, Bool.eq_false_iff.mpr plain, Bool.false_or]
  | object es =>
    rw [value] at done
    split at done
    · rename_i r ref
      obtain ⟨_, _, -, done⟩ := exists_of_bind_ok done
      obtain rfl : e = some _ := eq_of_pure_ok done
      rw [Value.isWritten, Value.containsRef_of_ref ref]
      rfl
    · split at done
      · rename_i inside
        obtain ⟨_, _, -, done⟩ := exists_of_bind_ok done
        obtain rfl : e = some _ := eq_of_pure_ok done
        rw [Value.isWritten, inside]
        rfl
      · rename_i plain
        rw [isSome_literal done, Value.isWritten, Bool.eq_false_iff.mpr plain, Bool.false_or]
  | _ => exact isSome_literal done

/-- Whether a prop becomes an attribute. -/
def takes (omitted : List String) (p : String × Value) : Bool :=
  !omitted.contains p.1 && p.1 != stylesheetProp && isAttributeName p.1 && p.2.isWritten

theorem name_propAttribute {a : Option Attribute}
    (done : propAttribute names scope path key v = .ok (a, notes)) :
    a.map (·.name) = if key != stylesheetProp && isAttributeName key && v.isWritten then some key
      else none := by
  have braced {a : Option Attribute} {notes : List Note} (done : (do
      return (← value names scope (path ++ ".props." ++ key) v).map fun e => ⟨key, .braced e⟩ :
      Draft (Option Attribute)) = .ok (a, notes)) :
      a.map (·.name) = if v.isWritten then some key else none := by
    obtain ⟨⟨e, _⟩, _, own, done⟩ := exists_of_bind_ok done
    obtain rfl : a = _ := eq_of_pure_ok done
    rw [← isSome_value own]
    cases e <;> rfl
  rw [propAttribute] at done
  split at done
  · rename_i carried
    obtain ⟨_, _, -, done⟩ := exists_of_bind_ok done
    obtain rfl : a = none := eq_of_pure_ok done
    simp [carried]
  · rename_i other
    split at done
    · rename_i invalid
      obtain ⟨_, _, -, done⟩ := exists_of_bind_ok done
      obtain rfl : a = none := eq_of_pure_ok done
      have unnamed : isAttributeName key = false := by simpa using invalid
      simp [unnamed]
    · rename_i valid
      have named : isAttributeName key = true := by simpa using valid
      simp only [bne_iff_ne.mpr other, named, Bool.and_self, Bool.true_and]
      dsimp only at done
      split at done
      · split at done
        · obtain rfl : a = some _ := eq_of_pure_ok done
          rfl
        · exact braced done
      · exact braced done

/-- The attributes for props are those for the first one, if it is kept, and those for the others. -/
theorem exists_of_propAttributes_cons {rest : Entries} {as : List Attribute}
    (done : propAttributes names scope path omitted ((key, v) :: rest) = .ok (as, notes)) :
    ∃ a own others later,
      (if omitted.contains key then pure none else propAttribute names scope path key v) =
        (.ok (a, own) : Draft (Option Attribute)) ∧
      propAttributes names scope path omitted rest = .ok (others, later) ∧
      as = a.toList ++ others := by
  rw [propAttributes] at done
  dsimp only at done
  split at done
  · rename_i out
    obtain ⟨⟨a, _⟩, _, first, done⟩ := exists_of_bind_ok done
    obtain ⟨⟨others, _⟩, _, later, done⟩ := exists_of_bind_ok done
    exact ⟨a, _, others, _, by rwa [if_pos out], later, eq_of_pure_ok done⟩
  · rename_i kept
    obtain ⟨⟨a, _⟩, _, first, done⟩ := exists_of_bind_ok done
    obtain ⟨⟨others, _⟩, _, later, done⟩ := exists_of_bind_ok done
    exact ⟨a, _, others, _, by rwa [if_neg kept], later, eq_of_pure_ok done⟩

/-- The attributes for props have the keys of the props that are taken, in order. -/
theorem names_propAttributes {props : Entries} {as : List Attribute}
    (done : propAttributes names scope path omitted props = .ok (as, notes)) :
    as.map (·.name) = Entries.keys (props.filter (takes omitted)) := by
  induction props generalizing as notes with
  | nil =>
    obtain rfl : as = [] := eq_of_pure_ok done
    rfl
  | cons p rest ih =>
    obtain ⟨key, v⟩ := p
    obtain ⟨a, own, others, _, first, later, rfl⟩ := exists_of_propAttributes_cons done
    have named : a.map (·.name) = if takes omitted (key, v) then some key else none := by
      split at first
      · rename_i out
        obtain rfl : a = none := eq_of_pure_ok first
        rw [takes, out]
        rfl
      · rename_i kept
        rw [name_propAttribute first, takes, Bool.eq_false_iff.mpr kept, Bool.not_false,
          Bool.true_and]
    rw [List.map_append, ← Option.toList_map, named, ih later, List.filter_cons]
    split <;> rfl

/-- Generated code has statements for an event. -/
def Answers (names : Declared) (scope : Scope) (n : CanonicalFields) (e : String × EventBinding) :
    Prop :=
  ∃ sts notes, statements names scope n e.1 e.2 = .ok (sts, notes) ∧ sts ≠ []

/-- Each handler is named once, whatever number of events it is for. -/
theorem names_handlers {found out : List (String × List Statement)}
    {events : List (String × EventBinding)} (distinct : (Entries.keys found).Nodup)
    (done : handlers names scope n found events = .ok (out, notes)) :
    (Entries.keys out).Nodup ∧ ∀ name, name ∈ Entries.keys out ↔ name ∈ Entries.keys found ∨
      ∃ e ∈ events, Answers names scope n e ∧ Trigger.handler e.2.trigger = name := by
  induction events generalizing found notes with
  | nil =>
    rw [handlers] at done
    obtain rfl : out = found := eq_of_pure_ok done
    simp [distinct]
  | cons e rest ih =>
    obtain ⟨key, e⟩ := e
    rw [handlers] at done
    obtain ⟨⟨more, _⟩, _, own, done⟩ := exists_of_bind_ok done
    have answered : Answers names scope n (key, e) ↔ more ≠ [] := by
      constructor
      · rintro ⟨_, _, same, some⟩
        rw [own] at same
        cases same
        exact some
      · exact fun some => ⟨more, _, own, some⟩
    dsimp only at done
    by_cases none : more = []
    · rw [if_pos (by simp [none])] at done
      obtain ⟨nodup, mem⟩ := ih distinct done
      refine ⟨nodup, fun name => ?_⟩
      rw [mem, List.exists_mem_cons_iff, answered]
      simp [none]
    · rw [if_neg (by simpa using none)] at done
      obtain ⟨nodup, mem⟩ := ih (Entries.nodup_keys_set distinct _ _) done
      refine ⟨nodup, fun name => ?_⟩
      rw [mem, Entries.mem_keys_set_iff, List.exists_mem_cons_iff, answered, or_assoc]
      simp only [none, ne_eq, not_false_eq_true, true_and]
      rw [eq_comm (a := name)]

/-- The style of a node becomes an attribute. -/
def isStyled (n : CanonicalFields) : Bool :=
  !n.style.isEmpty && (Value.object n.style).isWritten

/-- The names of the handlers of a node, each once. -/
structure HandlerNames (names : Declared) (scope : Scope) (n : CanonicalFields)
    (hs : List String) : Prop where
  nodup : hs.Nodup
  mem_iff : ∀ name, name ∈ hs ↔
    ∃ e ∈ n.events, Answers names scope n e ∧ Trigger.handler e.2.trigger = name

/-- The attributes of a node are those for its style, for its props and for its handlers. -/
theorem exists_of_attributes {as : List Attribute}
    (done : attributes names scope n omitted = .ok (as, notes)) :
    ∃ style styled props taken found gathered,
      (if n.style.isEmpty then pure none
        else value names scope (n.path ++ ".style") (.object n.style)) =
        (.ok (style, styled) : Draft (Option Expr)) ∧
      propAttributes names scope n.path omitted n.props = .ok (props, taken) ∧
      handlers names scope n [] n.events = .ok (found, gathered) ∧
      as = (style.map fun e => (⟨"style", .braced e⟩ : Attribute)).toList ++ props ++
        found.map fun h => ⟨h.1, .handler h.2⟩ := by
  rw [attributes] at done
  dsimp only at done
  split at done
  · rename_i empty
    obtain ⟨⟨style, _⟩, _, styled, done⟩ := exists_of_bind_ok done
    obtain ⟨⟨props, _⟩, _, taken, done⟩ := exists_of_bind_ok done
    obtain ⟨⟨found, _⟩, _, gathered, done⟩ := exists_of_bind_ok done
    exact ⟨style, _, props, _, found, _, by rwa [if_pos empty], taken, gathered,
      eq_of_pure_ok done⟩
  · rename_i written
    obtain ⟨⟨style, _⟩, _, styled, done⟩ := exists_of_bind_ok done
    obtain ⟨⟨props, _⟩, _, taken, done⟩ := exists_of_bind_ok done
    obtain ⟨⟨found, _⟩, _, gathered, done⟩ := exists_of_bind_ok done
    exact ⟨style, _, props, _, found, _, by rwa [if_neg written], taken, gathered,
      eq_of_pure_ok done⟩

/-- The names of the attributes of a node come from three sources, one after the other. -/
theorem names_attributes {as : List Attribute}
    (done : attributes names scope n omitted = .ok (as, notes)) :
    ∃ hs, HandlerNames names scope n hs ∧ as.map (·.name) =
      (if isStyled n then ["style"] else []) ++ Entries.keys (n.props.filter (takes omitted)) ++
        hs := by
  obtain ⟨style, _, props, _, found, _, styled, taken, gathered, rfl⟩ := exists_of_attributes done
  have first : style.isSome = isStyled n := by
    split at styled
    · rename_i empty
      obtain rfl : style = none := eq_of_pure_ok styled
      rw [isStyled, empty]
      rfl
    · rename_i written
      rw [isSome_value styled, isStyled, Bool.eq_false_iff.mpr written, Bool.not_false,
        Bool.true_and]
  have fresh : (Entries.keys ([] : List (String × List Statement))).Nodup := List.nodup_nil
  obtain ⟨nodup, mem⟩ := names_handlers fresh gathered
  refine ⟨Entries.keys found, ⟨nodup, fun name => ?_⟩, ?_⟩
  · rw [mem]
    simp [Entries.keys]
  · rw [List.map_append, List.map_append, names_propAttributes taken, List.map_map, ← first]
    cases style <;> rfl

/-- No prop that a node takes has the name of its style, or of a handler. -/
structure PropsApart (names : Declared) (scope : Scope) (n : CanonicalFields)
    (omitted : List String) : Prop where
  style : isStyled n = true -> ∀ p ∈ n.props, takes omitted p = true -> p.1 ≠ "style"
  handlers : ∀ e ∈ n.events, Answers names scope n e ->
    ∀ p ∈ n.props, takes omitted p = true -> p.1 ≠ Trigger.handler e.2.trigger

/-- The attributes of a node have different names exactly if its props keep apart from its style and
its handlers. -/
theorem nodup_attributes_iff {as : List Attribute} (distinct : (Entries.keys n.props).Nodup)
    (done : attributes names scope n omitted = .ok (as, notes)) :
    (as.map (·.name)).Nodup ↔ PropsApart names scope n omitted := by
  obtain ⟨hs, ⟨nodup, mem⟩, whole⟩ := names_attributes done
  have taken : (Entries.keys (n.props.filter (takes omitted))).Nodup :=
    distinct.sublist (List.filter_sublist.map _)
  have among (name : String) : name ∈ Entries.keys (n.props.filter (takes omitted)) ↔
      ∃ p ∈ n.props, takes omitted p = true ∧ p.1 = name := by
    simp only [Entries.keys, List.mem_map, List.mem_filter, and_assoc]
  have unstyled : "style" ∉ hs := by
    rw [mem]
    rintro ⟨e, -, -, same⟩
    exact Trigger.handler_ne_style _ same
  rw [whole, List.append_assoc, List.nodup_append, List.nodup_append]
  constructor
  · rintro ⟨-, ⟨-, -, events⟩, style⟩
    refine ⟨fun styled p declared kept same => ?_, fun e at_ answered p declared kept => ?_⟩
    · rw [styled] at style
      refine style "style" List.mem_cons_self "style" (List.mem_append_left _ ?_) rfl
      exact (among _).mpr ⟨p, declared, kept, same⟩
    · refine events p.1 ((among _).mpr ⟨p, declared, kept, rfl⟩) _ ?_
      exact (mem _).mpr ⟨e, at_, answered, rfl⟩
  · intro apart
    refine ⟨by split <;> simp, ⟨taken, nodup, ?_⟩, ?_⟩
    · intro name kept handler other same
      obtain ⟨p, declared, taken, rfl⟩ := (among _).mp kept
      obtain ⟨e, at_, answered, rfl⟩ := (mem _).mp other
      exact apart.handlers e at_ answered p declared taken same
    · intro name styled other later same
      split at styled
      · rename_i styles
        obtain rfl := List.mem_singleton.mp styled
        subst same
        rcases List.mem_append.mp later with kept | handler
        · obtain ⟨p, declared, taken, own⟩ := (among _).mp kept
          exact apart.style styles p declared taken own
        · exact unstyled handler
      · cases styled

/-- The names of the attributes that a node without declarations around it gets. -/
def attributeNames? (n : CanonicalFields) : Option (List String) :=
  (attributes {} {} n []).toOption.map fun r => r.1.map (·.name)

theorem exists_of_attributeNames? {n : CanonicalFields} {ns : List String}
    (shown : attributeNames? n = some ns) :
    ∃ as notes, attributes {} {} n [] = .ok (as, notes) ∧ as.map (·.name) = ns := by
  rw [attributeNames?] at shown
  cases done : attributes {} {} n [] with
  | error fault =>
    rw [done] at shown
    cases shown
  | ok r =>
    rw [done] at shown
    exact ⟨r.1, r.2, rfl, Option.some.inj shown⟩

/-- A node with a style, a prop, and two events with one handler. -/
def labelled : CanonicalFields :=
  { id := "r", type := "button", style := [("color", .str "red")], props := [("title", .str "Go")],
    events := [("click", ⟨"click", some "open", []⟩), ("again", ⟨"onClick", some "close", []⟩)] }

theorem labelled_attributes_nodup :
    (Entries.keys labelled.props).Nodup ∧ ∃ as notes,
      attributes {} {} labelled [] = .ok (as, notes) ∧
      as.map (·.name) = ["style", "title", "onClick"] ∧ PropsApart {} {} labelled [] := by
  have distinct : (Entries.keys labelled.props).Nodup := by decide
  have shown : attributeNames? labelled = some ["style", "title", "onClick"] := by decide +kernel
  obtain ⟨as, notes, done, names⟩ := exists_of_attributeNames? shown
  refine ⟨distinct, as, notes, done, names, (nodup_attributes_iff distinct done).mp ?_⟩
  rw [names]
  decide

/-- A document with a node that has a prop named like its style, and one named like a handler. -/
def overlaid : Value :=
  .object [("ui", .object [("root", .object [("id", .str "r"), ("type", .str "button"),
    ("style", .object [("color", .str "red")]),
    ("props", .object [("style", .str "color: blue"), ("onClick", .str "open()")]),
    ("events", .object [("click", .object [("action", .str "close")])])])])]

theorem overlaid_attributes_clash :
    ∃ source as notes, normalize overlaid = .ok source ∧ source.diagnostics = [] ∧
      attributes {} {} source.document.root.value [] = .ok (as, notes) ∧
      as.map (·.name) = ["style", "style", "onClick", "onClick"] ∧
      ¬ (as.map (·.name)).Nodup := by
  have shown : (normalize overlaid).toOption.bind (fun source =>
      attributeNames? source.document.root.value) =
        some ["style", "style", "onClick", "onClick"] := by decide +kernel
  obtain ⟨source, done, shown⟩ := Option.bind_eq_some_iff.mp shown
  obtain ⟨as, notes, drafted, names⟩ := exists_of_attributeNames? shown
  have read : normalize overlaid = .ok source := by
    cases read : normalize overlaid with
    | error fault =>
      rw [read] at done
      cases done
    | ok s =>
      rw [read] at done
      cases done
      rfl
  refine ⟨source, as, notes, read, ?_, drafted, names, by rw [names]; decide⟩
  cases read
  rfl

end Tsx.Draft

end ViewDoc
