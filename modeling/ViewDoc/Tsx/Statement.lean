import ViewDoc.Action.BuiltIn
import ViewDoc.Tsx.Expr
/-!
Statements of generated event handlers.
-/

set_option autoImplicit false

namespace ViewDoc.Tsx

/-- A statement that answers an event. -/
inductive Statement where
  /-- Calls a prop of the component. -/
  | call (prop : String)
  /-- Follows a link in the way of an effect. -/
  | follow (kind : EffectKind) (url : String) (state : Value)
  /-- Follows a link that is known when the event comes: in one way when it leads to the web, in
  another when it leads to a path of the application. -/
  | followEither (url : Expr) (outside inside : EffectKind) (state : Value)
  /-- Asks for the execution of a graph. -/
  | runGraph (params : Expr)
  /-- Announces an action that the component does not know. -/
  | announce (action nodeId : String) (params : Expr)
  /-- Adds one to a state variable. -/
  | increment (setter : String)
  deriving Repr, Inhabited

namespace Statement

/-- The event that announces an action. -/
def actionEvent : String := "mdr:action"

private def stateText (state : Value) : String :=
  if Json.spells state then Json.write .plainLine state else "null"

/-- The text that follows a link, given the text of its destination. A broadcast follows none. -/
def followText (kind : EffectKind) (url : String) (state : Value) : String :=
  let history (method : String) : String :=
    "window.history." ++ method ++ "(" ++ stateText state ++ ", '', " ++ url ++ "); " ++
      "window.dispatchEvent(new PopStateEvent('popstate'));"
  match kind with
  | .openWindow => "window.open(" ++ url ++ ", '_blank', 'noopener,noreferrer');"
  | .locationReplace => "window.location.replace(" ++ url ++ ");"
  | .locationAssign => "window.location.assign(" ++ url ++ ");"
  | .historyReplace => history "replaceState"
  | .historyPush => history "pushState"
  | .broadcast => ""

private def broadcastText (event detail : String) : String :=
  "window.dispatchEvent(new CustomEvent('" ++ event ++ "', " ++ braced (" detail: " ++ detail ++ " ") ++
    "));"

/-- The text of a statement. -/
def text : Statement -> String
  | .call prop => prop ++ "?.(event);"
  | .follow kind url state => followText kind (Json.writeText true url) state
  | .followEither url outside inside state =>
    braced (" const to = String(" ++ url.text ++ " ?? '').trim(); if (to.startsWith('https://')) " ++
      braced (" " ++ followText outside "to" state ++ " ") ++ " else if (to.startsWith('/')) " ++
      braced (" " ++ followText inside "to" state ++ " ") ++ " ")
  | .runGraph params => broadcastText BuiltIn.graphEvent params.text
  | .announce action nodeId params =>
    broadcastText actionEvent (braced (" action: " ++ Json.writeText true action ++ ", nodeId: " ++
      Json.writeText true nodeId ++ ", params: " ++ params.text ++ " "))
  | .increment setter => setter ++ "((value) => value + 1);"

end Statement

end ViewDoc.Tsx
