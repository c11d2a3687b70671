import ViewDoc.Action.Trigger
import ViewDoc.Component.Registry
import ViewDoc.Text.Entity
import ViewDoc.Tsx.Handler
import ViewDoc.Tsx.Markup
/-!
Markup for nodes. A list node becomes a loop over its template, the children other than the node for
the empty list; that node is looked up in the whole document and may stand anywhere in it.
-/

set_option autoImplicit false

namespace ViewDoc.Tsx

open Noted (note ofExcept)

/-- What markup is drafted from. -/
structure Blueprint where
  document : CanonicalDocument
  names : Declared
  registry : ComponentRegistry
  icons : IconRegistry

/-- The prop under which a node carries stylesheets along. -/
def stylesheetProp : String := "mountedCss"

namespace Stylesheet

/-- Without the steps at the front that stay in the directory. -/
def withoutStays : List Char -> List Char
  | '.' :: '/' :: rest => withoutStays rest
  | cs => cs

/-- A path relative to the module. -/
def relativePath (path : String) : String :=
  .ofList (withoutStays ((Text.trim path).toList.dropWhile (· == '/')))

/-- The stylesheet that an entry describes. It needs a path that never steps up, and content. -/
def ofValue? : Value -> Option Stylesheet
  | .object es => do
    let path := relativePath (← (Entries.get es "path").asText?)
    let content ← (Entries.get es "content").asText?
    if path = "" || (Text.split '/' path).contains ".." then none else return ⟨path, content⟩
  | _ => none

end Stylesheet

namespace Draft

/-- Notes the stylesheets of a list, numbered from `i`. -/
def stylesheetsFrom (path : String) (i : Nat) : List Value -> Draft Unit
  | [] => return ()
  | v :: rest => do
    match Stylesheet.ofValue? v with
    | some sheet => note (.stylesheet sheet)
    | none =>
      warn "CODEGEN_MOUNTED_CSS_INVALID"
        "Mounted CSS entry needs a relative path and string content."
        (path ++ "[" ++ Text.ofNat i ++ "]")
    stylesheetsFrom path (i + 1) rest

/-- Notes the stylesheets that a value lists. -/
def stylesheets (path : String) : Value -> Draft Unit
  | .list items => stylesheetsFrom path 0 items
  | _ => warn "CODEGEN_MOUNTED_CSS_INVALID" "mountedCss must be a list." path

/-- Whether a text may stand in quotes as it is. -/
def isQuotable (s : String) : Bool :=
  s.toList.all fun c => !(c == '"' || c == '\\' || c == '\n' || c == '\r')

/-- The attribute for a prop, if there is one. -/
def propAttribute (names : Declared) (scope : Scope) (path key : String) (v : Value) :
    Draft (Option Attribute) := do
  if key = stylesheetProp then
    stylesheets (path ++ ".props." ++ stylesheetProp) v
    return none
  else if !isAttributeName key then
    warn "CODEGEN_INVALID_PROP_NAME" ("Prop '" ++ key ++ "' is not a valid JSX attribute name.")
      (path ++ ".props")
    return none
  else
    let braced := do
      return (← value names scope (path ++ ".props." ++ key) v).map fun e => ⟨key, .braced e⟩
    match v with
    | .str s => if isQuotable s then return some ⟨key, .quoted s⟩ else braced
    | _ => braced

/-- The attributes for props, without those that the element does not take. -/
def propAttributes (names : Declared) (scope : Scope) (path : String) (omitted : List String) :
    Entries -> Draft (List Attribute)
  | [] => return []
  | (key, v) :: rest => do
    let a ← if omitted.contains key then pure none else propAttribute names scope path key v
    let others ← propAttributes names scope path omitted rest
    return a.toList ++ others

/-- The statements for the events of a node, together under the name of their handler. -/
def handlers (names : Declared) (scope : Scope) (n : CanonicalFields) :
    List (String × List Statement) -> List (String × EventBinding) ->
      Draft (List (String × List Statement))
  | found, [] => return found
  | found, (key, e) :: rest => do
    let more ← statements names scope n key e
    let name := Trigger.handler e.trigger
    let before := (Entries.get? found name).getD []
    handlers names scope n
      (if more.isEmpty then found else Entries.set found name (before ++ more)) rest

/-- The attributes of a node: its style, its props, and its handlers. -/
def attributes (names : Declared) (scope : Scope) (n : CanonicalFields) (omitted : List String) :
    Draft (List Attribute) := do
  let style ← if n.style.isEmpty then pure none
    else value names scope (n.path ++ ".style") (.object n.style)
  let props ← propAttributes names scope n.path omitted n.props
  let found ← handlers names scope n [] n.events
  return (style.map fun e => (⟨"style", .braced e⟩ : Attribute)).toList ++ props ++
    found.map fun h => ⟨h.1, .handler h.2⟩

/-- Whether a text may stand in markup as it is. -/
def isPlainText (s : String) : Bool :=
  s.toList.all (fun c => !"\x7b\x7d<>&\n\r".toList.contains c) && Text.trim s == s

/-- Whether a value is a finite number. A whole number must be near a finite binary one. -/
def isFiniteNumber : Value -> Except Fault Bool
  | .int i => if (Binary64.ofInt i).isFinite then .ok true else .error .hugeNumber
  | .float x => .ok x.isFinite
  | _ => .ok false

/-- The markup for the text of a node, if there is any. -/
def text (names : Declared) (scope : Scope) (path : String) : Value -> Draft (Option Markup)
  | .null => return none
  | .str s =>
    let decoded := Text.decodeEntities s
    if decoded = "" then return none
    else if isPlainText decoded then return some (.text decoded)
    else return some (.value (.literal (.str decoded)))
  | v =>
    match Ref.ofValue? v with
    | some r => return some (.value (← reference names scope (path ++ ".text") r))
    | none => do
      if ← ofExcept (isFiniteNumber v) then return some (.value (.literal v))
      else
        warn "CODEGEN_VALUE_NOT_SERIALIZABLE" "Text must be a string, number or reference."
          (path ++ ".text")
        return none

end Draft

namespace Scope

/-- The name that a list gives to a variable, unless it is blank. -/
def givenName? (v : Value) : Option String :=
  v.asText?.filter fun s => !Text.isBlankText s

/-- A loop variable: the given name or the usual one, clear of the reserved names. -/
def variableFor (reserved : List String) (depth : Nat) (usual : String) (given : Option String) :
    String :=
  freshName reserved
    (match given with
      | some name => identifier name
      | none => numbered usual depth)

/-- The scope of the template of a list whose loop has these variables. -/
def inLoop (scope : Scope) (l : ListDecl) (item index : String) : Scope :=
  let named (known : List (String × String)) (given : Option String) (name : String) :
      List (String × String) :=
    match given with
    | some word => Entries.set known word name
    | none => known
  { data := scope.data, item, index, depth := scope.depth + 1,
    aliases := named (named scope.aliases (givenName? l.itemAs) item) (givenName? l.indexAs) index }

end Scope

namespace Draft

/-- The expression for what a list goes over. -/
def listSource (names : Declared) (scope : Scope) (path : String) (l : ListDecl) : Draft Expr := do
  match ← source names scope (path ++ ".list.source") l.source with
  | some e => return e
  | none =>
    match l.arrayField.word? with
    | some p => return .members scope.data (← ofExcept (Path.parse p))
    | none => return scope.data

/-- The loop of a list. -/
def loop (names : Declared) (scope : Scope) (path : String) (l : ListDecl) : Draft Loop := do
  let source ← listSource names scope path l
  let key ← match l.keyBy.word? with
    | some p => some <$> ofExcept (Path.parse p)
    | none => pure none
  return { source, key,
           item := Scope.variableFor names.reserved scope.depth "item" (Scope.givenName? l.itemAs),
           index := Scope.variableFor names.reserved scope.depth "index"
             (Scope.givenName? l.indexAs) }

/-- The node that a list shows when it is empty. -/
def emptyNode? (d : CanonicalDocument) (l : ListDecl) : Option CanonicalNode :=
  (l.emptyNodeId.asText?.filter (· ≠ "")).bind d.node?

/-- The children that a list shows for every item. -/
def template (l : ListDecl) (children : List CanonicalNode) : List CanonicalNode :=
  children.filter fun c => l.emptyNodeId != .str c.value.id

/-- The markup for a list, given how its nodes are drafted. -/
def list (b : Blueprint) (draft : Scope -> CanonicalNode -> Draft Markup) (scope : Scope)
    (path : String) (l : ListDecl) (children : List CanonicalNode) : Draft Markup := do
  let loop ← loop b.names scope path l
  let copies ← (template l children).mapM (draft (scope.inLoop l loop.item loop.index))
  match emptyNode? b.document l with
  | some n => return .eachOr loop (← draft scope n) copies
  | none => return .each loop copies

/-- The resolution of a node, with its reports and the imports that it needs. -/
def resolution (b : Blueprint) (n : CanonicalFields) : Draft Resolution := do
  let r := b.registry.resolve b.icons n
  note (.imports r.imports)
  r.diagnostics.forM fun d => note (.report d)
  return r

/-- The markup for a node, down to a nesting budget. -/
def node (b : Blueprint) : Nat -> Scope -> CanonicalNode -> Draft Markup
  | 0, _, _ => ofExcept (.error .tooDeep)
  | budget + 1, outer, t => do
    let n := t.value
    let scope := { outer with data := ← dataScope b.names outer n.path n.data }
    let r ← resolution b n
    let attributes ← attributes b.names scope n r.omitProps
    if voidElements.contains (Text.lower r.element) then
      if !t.children.isEmpty || !n.text.isNull then
        warn "CODEGEN_VOID_CHILDREN_DROPPED"
          ("<" ++ r.element ++ "> cannot have children; they were dropped.") n.path
      return .element r.element attributes []
    else
      let text ← text b.names scope n.path n.text
      let inner ← match n.list with
        | some l => List.singleton <$> list b (node b budget) scope n.path l t.children
        | none => t.children.mapM (node b budget scope)
      return .element r.element attributes (text.toList ++ inner)

end Draft

end ViewDoc.Tsx
