import ViewDoc.Component.Resolution
import ViewDoc.Icon.Registry
import ViewDoc.Text.Letter
/-!
Adapters choose elements for nodes: the native one for HTML tags and well-known component families,
the one for Ant Design, and the one for icons.
-/

set_option autoImplicit false

namespace ViewDoc

/-- An adapter: what it makes of a node while the icon providers stand as they do, if anything. -/
structure Adapter where
  id : String
  readsIcons : Bool := false
  resolve : IconRegistry -> CanonicalFields -> Option Resolution

namespace Adapter

/-- Whether a type is written like an HTML tag: a lower-case letter first, and nothing but letters,
digits and hyphens. -/
def isHtmlTag (type : String) : Bool :=
  match type.toList with
  | [] => false
  | c :: rest => Text.isLower c && (c :: rest).all fun d => d == '-' || Text.isAlphanumeric d

/-- The rest of a text after a stem, if it starts with it. -/
def afterStem? (stem s : String) : Option String :=
  if stem.toList.isPrefixOf s.toList then some (.ofList (s.toList.drop stem.toList.length)) else none

private def nativeId : Option String := some "react-default"

/-- The Radix components: element, namespace and package. -/
def radix? : String -> Option (String × String × String)
  | "RadixLabel" => some ("Label.Root", "Label", "@radix-ui/react-label")
  | "RadixSeparator" => some ("Separator.Root", "Separator", "@radix-ui/react-separator")
  | _ => none

/-- The resolution of a type that the native adapter has no element for. -/
def noMapping (code suggestion : String) (n : CanonicalFields) : Resolution :=
  .unknown code ("No React adapter mapping found for \"" ++ n.type ++ "\".") suggestion n.path nativeId

/-- The Ant Design component that a type names, if the name starts with the stem of that family. -/
def antDesign? (type : String) : Option Resolution := do
  let bare ← afterStem? "Antd" type
  if bare = "FormItem" then
    return { element := "Form.Item", imports := [.named "antd" "Form"], adapterId := nativeId }
  else if bare = "" then none
  else return { element := bare, imports := [.named "antd" bare], adapterId := nativeId }

/-- The Material component that a type names, if the name starts with the stem of that family. -/
def material? (type : String) : Option Resolution := do
  let bare ← afterStem? "Mui" type
  if bare = "" then none
  else
    return { element := bare, adapterId := nativeId,
             imports := [{ kind := .default, source := "@mui/material/" ++ bare,
                           localName := some bare }] }

/-- The element of a type of no family: the type itself where it is written like a tag. -/
def tag (n : CanonicalFields) : Resolution :=
  if isHtmlTag n.type then { element := n.type, adapterId := nativeId }
  else
    noMapping "REACT_ADAPTER_UNKNOWN_COMPONENT" "Register a custom component for this type." n

/-- What the native adapter makes of a node: always something. -/
def nativeResolution (n : CanonicalFields) : Resolution :=
  if n.type = "container" then { element := "div", adapterId := nativeId }
  else if (afterStem? "Mdr" n.type).isSome then
    { element := n.type, imports := [.named "@mdr/ui" n.type], adapterId := nativeId }
  else
    match radix? n.type with
    | some (element, space, package) =>
      { element, adapterId := nativeId,
        imports := [{ kind := .whole, source := package, localName := some space }] }
    | none =>
      if (afterStem? "Radix" n.type).isSome then
        noMapping "REACT_ADAPTER_UNKNOWN_RADIX_COMPONENT"
          "Add a mapping in the React adapter or register a custom component." n
      else ((antDesign? n.type).or (material? n.type)).getD (tag n)

/-- The native adapter. -/
def native : Adapter where
  id := "react-default"
  resolve _ n := some (nativeResolution n)

/-- The Ant Design components that are known by default: bare type, element and exported name. -/
def antDesignComponents : List (String × String × String) :=
  [("Button", "Button", "Button"), ("Input", "Input", "Input"), ("Modal", "Modal", "Modal"),
    ("FormItem", "Form.Item", "Form")]

/-- The adapter for Ant Design: types that start with a stem, by a table of components. -/
def antDesign (stem : String) (components : List (String × String × String)) : Adapter where
  id := "react-antd-" ++ Text.lower stem
  resolve _ n := do
    let id := some ("react-antd-" ++ Text.lower stem)
    let bare ← afterStem? stem n.type
    match Entries.get? components bare with
    | some (element, imported) =>
      return { element, imports := [.named "antd" imported], adapterId := id }
    | none =>
      let known := ", ".intercalate (components.map fun c => stem ++ c.1)
      return .unknown "REACT_ADAPTER_UNKNOWN_ANTD_COMPONENT"
        ("No Ant Design mapping found for \"" ++ n.type ++ "\".")
        ("Use one of " ++ known ++ " or extend the Ant Design adapter table.") n.path id

/-- Whether nodes of a type show icons. -/
def isIconType (type : String) : Bool :=
  type == "MdrIcon" || type == "Icon"

/-- The icon that a node shows, if it is an icon node. -/
def iconRef? (n : CanonicalFields) : Option IconRef :=
  if isIconType n.type then IconRef.ofValue? (Entries.get n.props "iconRef") else none

private def iconId : Option String := some "react-icon"

/-- The element that stands in for an icon that cannot be shown, with the report on it. -/
def placeholder (n : CanonicalFields) (code : String) (severity : Severity)
    (message : String) : Resolution :=
  { element := "span", omitProps := ["iconRef"], adapterId := iconId, fallback := true,
    diagnostics := [{ code, severity, reporter := .adapter, message,
                      path := some (n.path ++ ".props.iconRef") }] }

private def failureText (icons : IconRegistry) (ref : IconRef) : String :=
  ((icons.state? ref.provider).bind IconState.error).getD "None"

/-- What an icon reference of a node amounts to. -/
def iconResolution (icons : IconRegistry) (n : CanonicalFields) (ref : IconRef) : Resolution :=
  let r := icons.resolve ref
  let provider := "Icon provider '" ++ ref.provider ++ "' "
  match r.status with
  | none => placeholder n "ICON_PROVIDER_UNKNOWN" .warning (provider ++ "is not registered.")
  | some .error =>
    placeholder n "ICON_PROVIDER_FAILED" .warning
      (provider ++ "failed to load: " ++ failureText icons ref)
  | some .idle | some .loading =>
    placeholder n "ICON_PROVIDER_PENDING" .info
      (provider ++ "is not ready yet; rendering a placeholder.")
  | some .ready =>
    match r.element.filter (· ≠ "") with
    | none =>
      placeholder n "ICON_NOT_FOUND" .warning
        ("Icon '" ++ ref.name ++ "' was not found in provider '" ++ ref.provider ++ "'.")
    | some element =>
      let imports := match r.importSource.filter (· ≠ "") with
        | some source => [ImportSpec.named source element]
        | none => []
      { element, imports, omitProps := ["iconRef"], adapterId := iconId }

/-- The adapter for icon nodes. -/
def icon : Adapter where
  id := "react-icon"
  readsIcons := true
  resolve icons n := (iconRef? n).map (iconResolution icons n)

/-- The provider that an icon node waits for, if any. -/
def pendingProvider? (icons : IconRegistry) (n : CanonicalFields) : Option String := do
  let ref ← iconRef? n
  let state ← icons.state? ref.provider
  if state.status.isPending then some state.id else none

end Adapter

end ViewDoc
