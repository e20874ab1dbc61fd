import ProtoInterfaces.Text.Casing
import ProtoInterfaces.Text.Blank
import ProtoInterfaces.Fault
import ProtoInterfaces.Value

/-!
# Stream behaviours

How a stream of messages is written: as its message alone, as a stream of anything, or as a
stream of its message. A behaviour is named in any case and with blanks around its name.
-/
namespace ProtoInterfaces

/-- How a stream of messages is written. -/
inductive StreamBehavior where
  /-- The message alone. -/
  | strip
  /-- A stream of anything. -/
  | native
  /-- A stream of the message. -/
  | generic
  deriving DecidableEq, Repr

namespace StreamBehavior

/-- Every stream behaviour. -/
def all : List StreamBehavior := [.strip, .native, .generic]

/-- The name of a stream behaviour. -/
def name : StreamBehavior → Text
  | .strip => "strip".toList
  | .native => "native".toList
  | .generic => "generic".toList

/-- The stream behaviour with exactly the given name. -/
def ofName? (name : Text) : Option StreamBehavior := all.find? fun behavior => behavior.name = name

/-- The stream behaviour that a value names. -/
def ofValue (value : Value) : Except ConfigurationFault StreamBehavior :=
  match value with
  | .text text =>
    match ofName? (Text.lower text.trim) with
    | some behavior => .ok behavior
    | none => .error (.unknownBehavior value.display)
  | _ => .error (.unknownBehavior value.display)

/-- A name is read exactly when it is the name of the behaviour. -/
theorem ofName?_eq_some_iff {name : Text} {behavior : StreamBehavior} :
    ofName? name = some behavior ↔ name = behavior.name := by
  constructor
  · intro found
    have matched := List.find?_some found
    exact (of_decide_eq_true matched).symm
  · rintro rfl
    cases behavior <;> decide

end StreamBehavior

end ProtoInterfaces
