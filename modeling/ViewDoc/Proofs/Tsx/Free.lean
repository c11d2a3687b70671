import ViewDoc.Tsx.Markup
/-!
The names that the pieces of a component read. A loop binds its two variables for the copies of its
template, so that what is left are the names that markup takes from around it.
-/

set_option autoImplicit false

namespace ViewDoc.Tsx

namespace Expr

mutual

/-- The names that an expression reads. -/
def names : Expr -> List String
  | .undefined | .literal _ => []
  | .name identifier => [identifier]
  | .members base _ => names base
  | .orElse first second => names first ++ names second
  | .array items => namesOfItems items
  | .object entries => namesOfEntries entries
  | .extended base entries => names base ++ namesOfEntries entries

/-- The names in items. -/
def namesOfItems : List Expr -> List String
  | [] => []
  | e :: rest => names e ++ namesOfItems rest

/-- The names in entries. -/
def namesOfEntries : List (String × Expr) -> List String
  | [] => []
  | (_, e) :: rest => names e ++ namesOfEntries rest

end

theorem members_subset {bound : List String} {x : String} {steps : List Path.Step}
    (mem : x ∈ bound) : (members (.name x) steps).names ⊆ bound :=
  fun _ same => List.mem_singleton.mp same ▸ mem

theorem namesOfItems_subset {bound : List String} {items : List Expr}
    (each : ∀ e ∈ items, e.names ⊆ bound) : namesOfItems items ⊆ bound := by
  induction items with
  | nil => exact List.nil_subset _
  | cons e rest ih =>
    obtain ⟨head, tail⟩ := List.forall_mem_cons.mp each
    exact List.append_subset.mpr ⟨head, ih tail⟩

theorem namesOfEntries_subset {bound : List String} {entries : List (String × Expr)}
    (each : ∀ e ∈ entries, e.2.names ⊆ bound) : namesOfEntries entries ⊆ bound := by
  induction entries with
  | nil => exact List.nil_subset _
  | cons e rest ih =>
    obtain ⟨head, tail⟩ := List.forall_mem_cons.mp each
    exact List.append_subset.mpr ⟨head, ih tail⟩

end Expr

/-- The names that a statement reads. To call a setter is not to read a name. -/
def Statement.names : Statement -> List String
  | .call prop => [prop]
  | .follow .. | .increment _ => []
  | .followEither url .. => url.names
  | .runGraph params | .announce _ _ params => params.names

/-- The names that an attribute reads. -/
def Attribute.names (a : Attribute) : List String :=
  match a.value with
  | .quoted _ => []
  | .braced e => e.names
  | .handler statements => statements.flatMap Statement.names

namespace Loop

/-- The names that the key of a copy reads. -/
def keyNames (l : Loop) : List String :=
  match l.key with
  | none => [l.index]
  | some _ => [l.item, l.index]

/-- What copies take from around the loop. -/
def outside (l : Loop) (names : List String) : List String :=
  names.filter fun x => x ≠ l.item ∧ x ≠ l.index

theorem outside_subset_iff (l : Loop) (names bound : List String) :
    l.outside names ⊆ bound ↔ names ⊆ l.item :: l.index :: bound := by
  constructor
  · intro within x mem
    by_cases own : x = l.item ∨ x = l.index
    · obtain rfl | rfl := own
      · exact List.mem_cons_self
      · exact List.mem_cons_of_mem _ List.mem_cons_self
    · have other : x ∈ l.outside names := List.mem_filter.mpr ⟨mem, by simpa using own⟩
      exact List.mem_cons_of_mem _ (List.mem_cons_of_mem _ (within other))
  · intro within x mem
    obtain ⟨mem, other⟩ := List.mem_filter.mp mem
    obtain ⟨item, index⟩ : x ≠ l.item ∧ x ≠ l.index := by simpa using other
    have found := within mem
    exact List.mem_of_ne_of_mem index (List.mem_of_ne_of_mem item found)

theorem keyNames_subset (l : Loop) (bound : List String) :
    l.keyNames ⊆ l.item :: l.index :: bound := by
  rw [keyNames]
  split <;> simp

end Loop

namespace Markup

mutual

/-- The names that markup takes from around it. -/
def free : Markup -> List String
  | .text _ => []
  | .value e => e.names
  | .element _ attributes children => attributes.flatMap Attribute.names ++ freeOfAll children
  | .each loop template =>
    loop.source.names ++ loop.outside (loop.keyNames ++ freeOfAll template)
  | .eachOr loop empty template =>
    loop.source.names ++ free empty ++ loop.outside (loop.keyNames ++ freeOfAll template)

/-- The names that pieces of markup take from around them. -/
def freeOfAll : List Markup -> List String
  | [] => []
  | m :: rest => free m ++ freeOfAll rest

end

theorem freeOfAll_subset {bound : List String} {pieces : List Markup}
    (each : ∀ m ∈ pieces, m.free ⊆ bound) : freeOfAll pieces ⊆ bound := by
  induction pieces with
  | nil => exact List.nil_subset _
  | cons m rest ih =>
    obtain ⟨head, tail⟩ := List.forall_mem_cons.mp each
    exact List.append_subset.mpr ⟨head, ih tail⟩

theorem free_element_subset {bound : List String} {tag : String} {attributes : List Attribute}
    {children : List Markup} (own : ∀ a ∈ attributes, a.names ⊆ bound)
    (each : ∀ m ∈ children, m.free ⊆ bound) : (element tag attributes children).free ⊆ bound := by
  have attributes : attributes.flatMap Attribute.names ⊆ bound :=
    fun x mem => (List.mem_flatMap.mp mem).elim fun a found => own a found.1 found.2
  exact List.append_subset.mpr ⟨attributes, freeOfAll_subset each⟩

/-- What is bound in the copies of a template besides the variables of the loop is bound around it. -/
theorem outside_template_subset {bound : List String} {loop : Loop} {template : List Markup}
    (each : ∀ m ∈ template, m.free ⊆ loop.item :: loop.index :: bound) :
    loop.outside (loop.keyNames ++ freeOfAll template) ⊆ bound := by
  rw [loop.outside_subset_iff]
  exact List.append_subset.mpr ⟨loop.keyNames_subset bound, freeOfAll_subset each⟩

theorem free_each_subset {bound : List String} {loop : Loop} {template : List Markup}
    (source : loop.source.names ⊆ bound)
    (each : ∀ m ∈ template, m.free ⊆ loop.item :: loop.index :: bound) :
    (Markup.each loop template).free ⊆ bound :=
  List.append_subset.mpr ⟨source, outside_template_subset each⟩

theorem free_eachOr_subset {bound : List String} {loop : Loop} {empty : Markup}
    {template : List Markup} (source : loop.source.names ⊆ bound) (stand : empty.free ⊆ bound)
    (each : ∀ m ∈ template, m.free ⊆ loop.item :: loop.index :: bound) :
    (Markup.eachOr loop empty template).free ⊆ bound :=
  List.append_subset.mpr ⟨List.append_subset.mpr ⟨source, stand⟩, outside_template_subset each⟩

end Markup

end ViewDoc.Tsx
