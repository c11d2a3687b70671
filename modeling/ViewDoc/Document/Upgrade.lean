import ViewDoc.Document.Basic
import ViewDoc.Text.Blank
import ViewDoc.Text.Digit
import ViewDoc.Text.Split
/-!
Upgrading documents to the latest version: event bindings that name a target get an action instead.
-/

set_option autoImplicit false

namespace ViewDoc

namespace Version

/-- The numbers that parts write. None are given where a part has another character than a digit, and a
fault where digits before that write no number. -/
def numbers : List String -> Except Fault (Option (List Nat))
  | [] => .ok (some [])
  | part :: rest =>
    if Text.isDigits part then
      match Text.numeral? part.toList with
      | none => .error (.numeral part)
      | some n => do return (← numbers rest).map (n :: ·)
    else .ok none

/-- The numbers of a version, if it consists of digits and points. -/
def parse (version : String) : Except Fault (Option (List Nat)) :=
  numbers (Text.split '.' (Text.trim version))

/-- Lexicographic comparison of versions. -/
def atLeast : List Nat -> List Nat -> Bool
  | _, [] => true
  | [], _ :: _ => false
  | a :: as, b :: bs => decide (b < a) || (a == b && atLeast as bs)

/-- Whether a version needs no upgrade. -/
def isCurrent (version : String) : Except Fault Bool := do
  match ← parse version with
  | some numbers => return atLeast numbers [1, 2]
  | none => return false

end Version

namespace Document

/-- Turns the target of a binding into its action, where it has a target and no action. -/
def upgradeEvent (v : Value) : Value :=
  match v.keyed? with
  | none => v
  | some es =>
    match Keyed.get? es (.text "target"), Keyed.get? es (.text "action") with
    | some target, none =>
      .ofKeyed (es.filter (fun e => e.1 ≠ .text "target") ++ [(.text "action", target)])
    | _, _ => v

/-- Upgrades the bindings of a node. -/
def upgradeFields (n : NodeFields) : NodeFields :=
  { n with events := n.events.map fun e => (e.1, upgradeEvent e.2) }

/-- Upgrades a document. The result is the document itself when its version is current. -/
def upgrade (d : Document) : Except Fault Document := do
  if ← Version.isCurrent d.version then return d
  else return { d with version := latestVersion, root := d.root.map upgradeFields }

theorem upgrade_cases {d u : Document} (done : d.upgrade = .ok u) :
    u = d ∨ u = { d with version := latestVersion, root := d.root.map upgradeFields } := by
  rw [upgrade] at done
  obtain ⟨current, -, rest⟩ := Fault.exists_of_bind_ok done
  cases current with
  | true =>
    cases rest
    exact .inl rfl
  | false =>
    cases rest
    exact .inr rfl

end Document

end ViewDoc
