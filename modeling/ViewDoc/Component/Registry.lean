import ViewDoc.Component.Adapter
/-!
The component registry. Entries are asked in the order custom, library, native, and within a group
the descriptor of the node's type goes before the adapters, in the order in which they were added.
-/

set_option autoImplicit false

namespace ViewDoc

/-- An explicit element for one node type. -/
structure ComponentDescriptor where
  type : String
  element : String
  imports : List ImportSpec := []
  omitProps : List String := []
  label : Option String := none
  deriving DecidableEq, Repr

/-- The groups of a registry. -/
inductive RegistryGroup where
  | custom
  | library
  | native
  deriving DecidableEq, Repr

/-- The entries of one group. -/
structure GroupEntries where
  descriptors : List (String × ComponentDescriptor) := []
  adapters : List Adapter := []

/-- A component registry. -/
structure ComponentRegistry where
  custom : GroupEntries := {}
  library : GroupEntries := {}
  native : GroupEntries := {}

namespace RegistryGroup

/-- The groups in the order in which they are asked. -/
def order : List RegistryGroup :=
  [.custom, .library, .native]

/-- The word for a group. -/
def word : RegistryGroup -> String
  | .custom => "custom"
  | .library => "library"
  | .native => "native"

/-- The group that a word names. -/
def ofWord? : String -> Option RegistryGroup
  | "custom" => some .custom
  | "library" => some .library
  | "native" => some .native
  | _ => none

end RegistryGroup

namespace ComponentRegistry

/-- The entries of a group. -/
def entries (r : ComponentRegistry) : RegistryGroup -> GroupEntries
  | .custom => r.custom
  | .library => r.library
  | .native => r.native

private def update (r : ComponentRegistry) (g : RegistryGroup) (f : GroupEntries -> GroupEntries) :
    ComponentRegistry :=
  match g with
  | .custom => { r with custom := f r.custom }
  | .library => { r with library := f r.library }
  | .native => { r with native := f r.native }

/-- Registers a descriptor in a group, in place of one for the same type. -/
def register (r : ComponentRegistry) (d : ComponentDescriptor) (g : RegistryGroup := .custom) :
    ComponentRegistry :=
  r.update g fun es => { es with descriptors := Entries.set es.descriptors d.type d }

/-- Adds an adapter at the end of a group. -/
def addAdapter (r : ComponentRegistry) (a : Adapter) (g : RegistryGroup := .library) :
    ComponentRegistry :=
  r.update g fun es => { es with adapters := es.adapters ++ [a] }

/-- The registry with the adapters for icons, for Ant Design, and the native one. -/
def standard : ComponentRegistry :=
  { library := { adapters := [.icon, .antDesign "Antd" Adapter.antDesignComponents] },
    native := { adapters := [.native] } }

/-- The first descriptor of a type. -/
def descriptor? (r : ComponentRegistry) (type : String) : Option ComponentDescriptor :=
  RegistryGroup.order.findSome? fun g => Entries.get? (r.entries g).descriptors type

/-- Whether an adapter shows icons. -/
def showsIcons (r : ComponentRegistry) : Bool :=
  RegistryGroup.order.any fun g => (r.entries g).adapters.any fun a => a.readsIcons

/-- What a group makes of a node. -/
def resolveIn? (r : ComponentRegistry) (icons : IconRegistry) (n : CanonicalFields)
    (g : RegistryGroup) : Option Resolution :=
  match Entries.get? (r.entries g).descriptors n.type with
  | some d =>
    some { element := d.element, imports := d.imports, omitProps := d.omitProps,
           adapterId := some ("registry-" ++ g.word) }
  | none => (r.entries g).adapters.findSome? fun a => a.resolve icons n

/-- The resolution of a node: that of the first entry that knows it, or else a reported fallback. -/
def resolve (r : ComponentRegistry) (icons : IconRegistry) (n : CanonicalFields) : Resolution :=
  (RegistryGroup.order.findSome? (r.resolveIn? icons n)).getD
    (.unknown "ADAPTER_COMPONENT_UNRESOLVED"
      ("No adapter resolved component type \"" ++ n.type ++ "\".")
      "Register a component descriptor or adapter for this type." n.path none)

end ComponentRegistry

end ViewDoc
