import ViewDoc.Node.Declaration
import ViewDoc.Ref.Resolve
import ViewDoc.Text.Blank
import ViewDoc.Value.Pairs
/-!
The data scope of a node: what its declaration makes of the scope that it inherits.
-/

set_option autoImplicit false

namespace ViewDoc

/-- The trimmed text of a value that is a text with more than blanks. -/
def Value.word? (v : Value) : Option String :=
  v.asText?.bind Text.trimmed?

namespace DataDecl

/-- The literal that stands in for a live value: in a preview the preview value goes first. -/
def design (d : DataDecl) (preview : Bool) : Value :=
  if preview && !d.mock.isNull then d.mock else if !d.value.isNull then d.value else d.mock

/-- The scope before entries are merged over it and a path narrows it. -/
def baseScope (d : DataDecl) (ctx : Context) (preview : Bool) (maxDepth : Int) :
    Except Fault Value := do
  let live ← if Ref.isSource d.source then d.source.resolveOne ctx else pure .null
  if !live.isNull then return live
  let design := d.design preview
  if !design.isNull then design.resolve ctx maxDepth
  else if Ref.isSource d.source then return .null
  else return ctx.data

/-- The scope with the declared entries merged over it. -/
def extended (d : DataDecl) (ctx : Context) (maxDepth : Int) (scope : Value) :
    Except Fault Value :=
  match d.extend with
  | .object es => do
    let updates ← (← (Value.object es).resolve ctx maxDepth).entries
    return scope.overlaid updates
  | _ => .ok scope

/-- The scope that the declared path selects. -/
def picked (d : DataDecl) (scope : Value) : Except Fault Value :=
  match d.pick.word? with
  | some path => Path.read scope path
  | none => .ok scope

/-- The data scope of a node with this declaration. -/
def scope (d : DataDecl) (ctx : Context) (preview : Bool) (maxDepth : Int) :
    Except Fault Value := do
  d.picked (← d.extended ctx maxDepth (← d.baseScope ctx preview maxDepth))

end DataDecl

/-- The data scope of a node: without a declaration the inherited one. -/
def dataScope (decl : Option DataDecl) (ctx : Context) (preview : Bool) (maxDepth : Int) :
    Except Fault Value :=
  match decl with
  | none => .ok ctx.data
  | some d => d.scope ctx preview maxDepth

end ViewDoc
