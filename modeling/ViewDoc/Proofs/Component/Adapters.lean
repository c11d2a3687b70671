import ViewDoc.Component.Registry
import ViewDoc.Proofs.Value.Distinct
/-!
The codes under which components report, and the imports that nodes ask for. A registry reports under
the codes of its adapters and under one code of its own, for nodes that none of them knows. What is
the same import binds the same name. The adapters that come along ask for imports that bind a name as
it is exported, or a module under a name.
-/

set_option autoImplicit false

namespace ViewDoc

namespace Adapter

/-- An adapter reports under no other codes than these. -/
def ReportsUnder (a : Adapter) (codes : List String) : Prop :=
  ∀ icons n r, a.resolve icons n = some r -> ∀ d ∈ r.diagnostics, d.code ∈ codes

theorem code_of_unknown {code message suggestion path : String} {id : Option String}
    {d : Diagnostic}
    (mem : d ∈ (Resolution.unknown code message suggestion path id).diagnostics) :
    d.code = code := by
  obtain rfl := List.mem_singleton.mp mem
  rfl

theorem diagnostics_antDesign? {type : String} {r : Resolution} (found : antDesign? type = some r) :
    r.diagnostics = [] := by
  obtain ⟨bare, -, found⟩ := Option.bind_eq_some_iff.mp found
  split at found
  · cases found
    rfl
  · split at found
    · cases found
    · cases found
      rfl

theorem diagnostics_material? {type : String} {r : Resolution} (found : material? type = some r) :
    r.diagnostics = [] := by
  obtain ⟨bare, -, found⟩ := Option.bind_eq_some_iff.mp found
  split at found
  · cases found
  · cases found
    rfl

/-- The codes of the native adapter. -/
def nativeCodes : List String :=
  ["REACT_ADAPTER_UNKNOWN_COMPONENT", "REACT_ADAPTER_UNKNOWN_RADIX_COMPONENT"]

theorem code_of_nativeResolution {n : CanonicalFields} {d : Diagnostic}
    (mem : d ∈ (nativeResolution n).diagnostics) : d.code ∈ nativeCodes := by
  rw [nativeResolution] at mem
  split at mem
  · cases mem
  · split at mem
    · cases mem
    · split at mem
      · cases mem
      · split at mem
        · exact code_of_unknown mem ▸ List.mem_cons_of_mem _ List.mem_cons_self
        · cases found : (antDesign? n.type).or (material? n.type) with
          | some r =>
            have none_told : r.diagnostics = [] := (Option.or_eq_some_iff.mp found).elim
              diagnostics_antDesign? fun later => diagnostics_material? later.2
            rw [found, Option.getD_some, none_told] at mem
            cases mem
          | none =>
            rw [found, Option.getD_none, tag] at mem
            split at mem
            · cases mem
            · exact code_of_unknown mem ▸ List.mem_cons_self

theorem native_reportsUnder : native.ReportsUnder nativeCodes := by
  intro icons n r found d mem
  cases found
  exact code_of_nativeResolution mem

theorem antDesign_reportsUnder (stem : String) (components : List (String × String × String)) :
    (antDesign stem components).ReportsUnder ["REACT_ADAPTER_UNKNOWN_ANTD_COMPONENT"] := by
  intro icons n r found d mem
  obtain ⟨bare, -, found⟩ := Option.bind_eq_some_iff.mp found
  split at found
  · cases found
    cases mem
  · cases found
    exact code_of_unknown mem ▸ List.mem_cons_self

/-- The codes of the adapter for icons. -/
def iconCodes : List String :=
  ["ICON_PROVIDER_UNKNOWN", "ICON_PROVIDER_FAILED", "ICON_PROVIDER_PENDING", "ICON_NOT_FOUND"]

theorem code_of_placeholder {n : CanonicalFields} {code message : String} {severity : Severity}
    {d : Diagnostic} (mem : d ∈ (placeholder n code severity message).diagnostics)
    (known : code ∈ iconCodes) : d.code ∈ iconCodes := by
  obtain rfl := List.mem_singleton.mp mem
  exact known

theorem icon_reportsUnder : icon.ReportsUnder iconCodes := by
  intro icons n r found d mem
  obtain ⟨ref, -, rfl⟩ := Option.map_eq_some_iff.mp found
  rw [iconResolution] at mem
  dsimp only at mem
  split at mem
  · exact code_of_placeholder mem (by decide)
  · exact code_of_placeholder mem (by decide)
  · exact code_of_placeholder mem (by decide)
  · exact code_of_placeholder mem (by decide)
  · split at mem
    · exact code_of_placeholder mem (by decide)
    · cases mem

end Adapter

namespace ComponentRegistry

/-- The code of a registry itself. -/
def unresolvedCode : String := "ADAPTER_COMPONENT_UNRESOLVED"

variable {r : ComponentRegistry} {codes : List String}

theorem code_of_resolveIn? (each : ∀ g, ∀ a ∈ (r.entries g).adapters, a.ReportsUnder codes)
    {icons : IconRegistry} {n : CanonicalFields} {g : RegistryGroup} {found : Resolution}
    (resolved : r.resolveIn? icons n g = some found) : ∀ d ∈ found.diagnostics, d.code ∈ codes := by
  rw [resolveIn?] at resolved
  split at resolved
  · cases resolved
    exact List.forall_mem_nil _
  · obtain ⟨a, mem, resolved⟩ := List.exists_of_findSome?_eq_some resolved
    exact each g a mem icons n found resolved

theorem code_of_resolve (each : ∀ g, ∀ a ∈ (r.entries g).adapters, a.ReportsUnder codes)
    (icons : IconRegistry) (n : CanonicalFields) :
    ∀ d ∈ (r.resolve icons n).diagnostics, d.code ∈ unresolvedCode :: codes := by
  intro d mem
  rw [resolve] at mem
  cases found : RegistryGroup.order.findSome? (r.resolveIn? icons n) with
  | none =>
    rw [found] at mem
    exact Adapter.code_of_unknown mem ▸ List.mem_cons_self
  | some resolution =>
    rw [found] at mem
    obtain ⟨g, -, resolved⟩ := List.exists_of_findSome?_eq_some found
    exact List.mem_cons_of_mem _ (code_of_resolveIn? each resolved d mem)

/-- The codes under which the adapters that come along report. -/
def standardCodes : List String :=
  "REACT_ADAPTER_UNKNOWN_ANTD_COMPONENT" :: Adapter.nativeCodes ++ Adapter.iconCodes

theorem code_of_standard_resolve (icons : IconRegistry) (n : CanonicalFields) :
    ∀ d ∈ (standard.resolve icons n).diagnostics, d.code ∈ unresolvedCode :: standardCodes := by
  refine code_of_resolve (fun g a mem icons n r found d told => ?_) icons n
  have among : a = .icon ∨ a = .antDesign "Antd" Adapter.antDesignComponents ∨ a = .native := by
    cases g with
    | custom => cases mem
    | library =>
      obtain icon | mem := List.mem_cons.mp mem
      · exact .inl icon
      · exact .inr (.inl (List.mem_singleton.mp mem))
    | native => exact .inr (.inr (List.mem_singleton.mp mem))
  obtain rfl | rfl | rfl := among
  · exact List.mem_append_right _ (Adapter.icon_reportsUnder icons n r found d told)
  · have own := Adapter.antDesign_reportsUnder _ _ icons n r found d told
    exact List.mem_append_left _ (List.mem_singleton.mp own ▸ List.mem_cons_self)
  · have own := Adapter.native_reportsUnder icons n r found d told
    exact List.mem_append_left _ (List.mem_cons_of_mem _ own)

end ComponentRegistry

namespace ImportSpec

theorem binding_eq (i : ImportSpec) :
    i.binding = if i.localName.getD "" = "" then i.imported.getD "" else i.localName.getD "" := by
  have shown : i.binding = ((i.localName.filter (· ≠ "")).or i.imported).getD "" := rfl
  rw [shown]
  cases i.localName with
  | none => simp
  | some name => by_cases empty : name = "" <;> simp [empty, Option.filter]

/-- What makes two imports the same decides on the name that they bind. -/
theorem binding_eq_of_identity {i k : ImportSpec} (same : i.identity = k.identity) :
    i.binding = k.binding := by
  simp only [identity, Prod.mk.injEq] at same
  obtain ⟨-, -, exported, renamed⟩ := same
  rw [binding_eq, binding_eq, exported, renamed]

/-- An import that binds a name: an export under its own name, or something of a module under a name
that is given. -/
inductive Plain : ImportSpec -> Prop where
  | named (source : String) {name : String} (given : name ≠ "") : Plain (.named source name)
  | whole (source : String) {name : String} (given : name ≠ "") :
    Plain { kind := .whole, source, localName := some name }
  | default (source : String) {name : String} (given : name ≠ "") :
    Plain { kind := .default, source, localName := some name }

end ImportSpec

namespace Adapter

open ImportSpec (Plain)

theorem plain_of_antDesign? {type : String} {r : Resolution} (found : antDesign? type = some r) :
    ∀ i ∈ r.imports, i.Plain := by
  obtain ⟨bare, -, found⟩ := Option.bind_eq_some_iff.mp found
  split at found
  · cases found
    exact List.forall_mem_singleton.mpr (.named _ (by decide))
  · split at found
    · cases found
    · rename_i given
      cases found
      exact List.forall_mem_singleton.mpr (.named _ given)

theorem plain_of_material? {type : String} {r : Resolution} (found : material? type = some r) :
    ∀ i ∈ r.imports, i.Plain := by
  obtain ⟨bare, -, found⟩ := Option.bind_eq_some_iff.mp found
  split at found
  · cases found
  · rename_i given
    cases found
    exact List.forall_mem_singleton.mpr (.default _ given)

theorem afterStem?_empty (stem : String) (given : stem ≠ "") : afterStem? stem "" = none := by
  have some_char : stem.toList ≠ [] := by simpa using given
  rw [afterStem?, if_neg]
  cases chars : stem.toList with
  | nil => exact absurd chars some_char
  | cons c rest => simp

theorem plain_of_nativeResolution (n : CanonicalFields) :
    ∀ i ∈ (nativeResolution n).imports, i.Plain := by
  rw [nativeResolution]
  split
  · exact List.forall_mem_nil _
  · split
    · rename_i stem
      refine List.forall_mem_singleton.mpr (.named _ fun empty => ?_)
      rw [empty, afterStem?_empty _ (by decide)] at stem
      cases stem
    · split
      · rename_i element space package found
        refine List.forall_mem_singleton.mpr (.whole _ ?_)
        rw [radix?.eq_def] at found
        split at found
        · cases found
          decide
        · cases found
          decide
        · cases found
      · split
        · exact List.forall_mem_nil _
        · cases found : (antDesign? n.type).or (material? n.type) with
          | some r =>
            exact (Option.or_eq_some_iff.mp found).elim plain_of_antDesign? fun later =>
              plain_of_material? later.2
          | none =>
            rw [Option.getD_none, tag]
            split <;> exact List.forall_mem_nil _

theorem plain_of_antDesign {stem : String} {components : List (String × String × String)}
    (given : ∀ c ∈ components, c.2.2 ≠ "") {icons : IconRegistry} {n : CanonicalFields}
    {r : Resolution} (found : (antDesign stem components).resolve icons n = some r) :
    ∀ i ∈ r.imports, i.Plain := by
  obtain ⟨bare, -, found⟩ := Option.bind_eq_some_iff.mp found
  split at found
  · rename_i element imported listed
    cases found
    exact List.forall_mem_singleton.mpr (.named _ (given _ (Entries.mem_of_get? listed)))
  · cases found
    exact List.forall_mem_nil _

theorem plain_of_icon {icons : IconRegistry} {n : CanonicalFields} {r : Resolution}
    (found : icon.resolve icons n = some r) : ∀ i ∈ r.imports, i.Plain := by
  obtain ⟨ref, -, rfl⟩ := Option.map_eq_some_iff.mp found
  rw [iconResolution]
  dsimp only
  split
  · exact List.forall_mem_nil _
  · exact List.forall_mem_nil _
  · exact List.forall_mem_nil _
  · exact List.forall_mem_nil _
  · split
    · exact List.forall_mem_nil _
    · rename_i element shown
      have given : element ≠ "" := by simpa using (Option.filter_eq_some_iff.mp shown).2
      dsimp only
      split
      · exact List.forall_mem_singleton.mpr (.named _ given)
      · exact List.forall_mem_nil _

end Adapter

namespace ComponentRegistry

/-- The standard registry asks the adapter for icons, then that for Ant Design, then the native one,
which knows every node. -/
theorem standard_resolve (icons : IconRegistry) (n : CanonicalFields) :
    standard.resolve icons n =
      ((Adapter.icon.resolve icons n).or
        ((Adapter.antDesign "Antd" Adapter.antDesignComponents).resolve icons n)).getD
          (Adapter.nativeResolution n) := by
  simp only [resolve, RegistryGroup.order, List.findSome?, resolveIn?, entries, standard,
    Entries.get?]
  cases Adapter.icon.resolve icons n with
  | some r => rfl
  | none =>
    cases (Adapter.antDesign "Antd" Adapter.antDesignComponents).resolve icons n <;> rfl

theorem plain_of_standard_resolve (icons : IconRegistry) (n : CanonicalFields) :
    ∀ i ∈ (standard.resolve icons n).imports, i.Plain := by
  rw [standard_resolve]
  cases found : (Adapter.icon.resolve icons n).or
      ((Adapter.antDesign "Antd" Adapter.antDesignComponents).resolve icons n) with
  | some r =>
    exact (Option.or_eq_some_iff.mp found).elim Adapter.plain_of_icon fun later =>
      Adapter.plain_of_antDesign (by decide) later.2
  | none => exact Adapter.plain_of_nativeResolution n

end ComponentRegistry

end ViewDoc
