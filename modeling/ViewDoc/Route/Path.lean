import ViewDoc.Text.Blank
import ViewDoc.Text.Split
/-!
Location paths and the parts of route patterns. A normal path starts with a slash, has no doubled
slash, and ends with one only when it is the root.
-/

set_option autoImplicit false

namespace ViewDoc

namespace RoutePath

/-- Every run of slashes becomes one slash. -/
def collapse : List Char -> List Char
  | [] => []
  | c :: rest =>
    if c == '/' && rest.head? == some '/' then collapse rest else c :: collapse rest

/-- Without a final slash, unless nothing else is there. -/
def withoutFinalSlash (cs : List Char) : List Char :=
  if 1 < cs.length && cs.getLast? == some '/' then cs.dropLast else cs

/-- With a slash in front. -/
def rooted (cs : List Char) : List Char :=
  if cs.head? == some '/' then cs else '/' :: cs

/-- The normal form of a location path, without query and fragment. -/
def normalize (path : String) : String :=
  let trimmed := Text.trim path
  if trimmed = "" then "/"
  else
    .ofList (withoutFinalSlash
      (collapse (rooted (Text.before '?' (Text.before '#' trimmed)).toList)))

/-- The segments of a location path. -/
def split (path : String) : List String :=
  Text.pieces '/' (normalize path)

/-- The path with the given segments. -/
def join (segments : List String) : String :=
  "/" ++ "/".intercalate segments

/-- A route path, trimmed and with a slash in front. -/
def rootedRoute (route : String) : String :=
  let trimmed := Text.trim route
  if trimmed = "" then "/" else .ofList (rooted trimmed.toList)

end RoutePath

/-- A part of a route pattern: a fixed segment, a named segment, or everything that is left. -/
inductive RoutePart where
  | literal (segment : String)
  | dynamic (name : String)
  | wildcard
  deriving DecidableEq, Repr

namespace RoutePart

/-- Reads a part. -/
def ofText (part : String) : RoutePart :=
  match part.toList with
  | ['*'] => .wildcard
  | ':' :: c :: rest => .dynamic (.ofList (c :: rest))
  | _ => .literal part

/-- The text of a part. -/
def text : RoutePart -> String
  | .literal segment => segment
  | .dynamic name => ":" ++ name
  | .wildcard => "*"

/-- The rank of a part among siblings: fixed segments go before named ones and these before
wildcards. -/
def rank : RoutePart -> Nat
  | .literal _ => 0
  | .dynamic _ => 1
  | .wildcard => 2

end RoutePart

end ViewDoc
