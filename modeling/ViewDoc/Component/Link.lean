import ViewDoc.Canonical.Basic
/-!
Capabilities of node types: which nodes are links, and which of their props say where they lead.
-/

set_option autoImplicit false

namespace ViewDoc

/-- The props of a link, and what becomes of a click handler beside a destination. -/
structure LinkCapability where
  destinationProp : String
  targetProp : Option String := some "target"
  relProp : Option String := some "rel"
  titleProp : Option String := some "title"
  onClickWithDestination : String := "warn"
  deriving DecidableEq, Repr

/-- A capability as an object. -/
def LinkCapability.toValue (l : LinkCapability) : Value :=
  .object [("destination_prop", .str l.destinationProp), ("target_prop", .ofText? l.targetProp),
    ("rel_prop", .ofText? l.relProp), ("title_prop", .ofText? l.titleProp),
    ("on_click_with_destination", .str l.onClickWithDestination)]

/-- A capability of the nodes of some types. -/
structure NodeCapability where
  key : String
  types : List String
  link : Option LinkCapability := none
  deriving DecidableEq, Repr

namespace NodeCapability

/-- The capabilities that are known from the start. -/
def standard : List NodeCapability :=
  [⟨"mdr-router-link", ["MdrLink", "MdrButtonLink", "MdrIconLink"],
      some { destinationProp := "to" }⟩,
    ⟨"native-anchor", ["a"], some { destinationProp := "href" }⟩]

/-- Adds a capability, in place of one with its key. -/
def register (known : List NodeCapability) (c : NodeCapability) : List NodeCapability :=
  if known.any fun k => k.key == c.key then known.map fun k => if k.key == c.key then c else k
  else known ++ [c]

/-- The capabilities of a node. -/
def ofNode (known : List NodeCapability) (n : Option CanonicalFields) : List NodeCapability :=
  match n with
  | some n => known.filter fun k => k.types.contains n.type
  | none => []

/-- The link capability of a node, if it has one. -/
def link? (known : List NodeCapability) (n : Option CanonicalFields) : Option LinkCapability :=
  (ofNode known n).findSome? NodeCapability.link

end NodeCapability

end ViewDoc
