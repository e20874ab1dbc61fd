import ProtoInterfaces.Text.Blank
import ProtoInterfaces.Text.WordCharacter

/-!
# Methods

A method of a service stands on one line: `rpc`, a name, what it takes in parentheses, `returns`,
and what it returns in parentheses. An empty body, semicolons and a `//` comment may follow and
nothing else. The word `stream` before a type makes that side a stream; alone in its parentheses
it is a type.
-/
namespace ProtoInterfaces

/-- What a method takes or returns. -/
structure Payload where
  /-- Type name as the schema writes it. -/
  type : Text
  /-- Whether the values come as a stream. -/
  streamed : Bool
  deriving DecidableEq, Repr

/-- A method of a service. -/
structure Method where
  /-- Name as the schema writes it. -/
  name : Text
  /-- What the method takes. -/
  request : Payload
  /-- What the method returns. -/
  response : Payload
  deriving DecidableEq, Repr

namespace Payload

/-- The payload that begins a text, and what follows its type. -/
def readType? (text : Text) : Option (Payload × Text) :=
  match text.takeRun? isTypeCharacter with
  | none => none
  | some (first, rest) =>
    match rest.skipBlanks.takeRun? isTypeCharacter with
    | some (second, rest') =>
      if first = "stream".toList then some (⟨second, true⟩, rest') else some (⟨first, false⟩, rest)
    | none => some (⟨first, false⟩, rest)

/-- The payload in parentheses that begins a text, and what follows the parentheses. -/
def read? (text : Text) : Option (Payload × Text) := do
  let rest ← Text.after? ['('] text
  let (payload, rest) ← readType? rest.skipBlanks
  let rest ← Text.after? [')'] rest.skipBlanks
  return (payload, rest)

end Payload

namespace Method

/-- The text after an empty body or a semicolon, if it begins with one. -/
def dropBody (text : Text) : Text :=
  match text with
  | '{' :: rest =>
    match Text.skipBlanks rest with
    | '}' :: rest' => rest'
    | _ => text
  | ';' :: rest => rest
  | _ => text

/-- The text after a semicolon, if it begins with one. -/
def dropSemicolon : Text → Text
  | ';' :: rest => rest
  | text => text

/-- Whether a text is nothing, or a comment that runs to the end of the line. -/
def isComment : Text → Bool
  | [] => true
  | '/' :: '/' :: rest =>
    match rest.dropWhile fun c => c ≠ '\n' with
    | [] => true
    | [_] => true
    | _ => false
  | _ => false

/-- Whether a text may end a method line: a body or semicolons, then a comment. -/
def isTrailer (text : Text) : Bool :=
  isComment (dropSemicolon (dropBody text.skipBlanks).skipBlanks).skipBlanks

/-- The method that a line declares, if it declares one. -/
def ofLine? (line : Text) : Option Method := do
  let rest ← Text.after? "rpc".toList line.skipBlanks
  let rest ← rest.skipBlanks1?
  let (name, rest) ← rest.takeRun? isWordCharacter
  let (request, rest) ← Payload.read? rest.skipBlanks
  let rest ← Text.after? "returns".toList rest.skipBlanks
  let (response, rest) ← Payload.read? rest.skipBlanks
  if isTrailer rest then some ⟨name, request, response⟩ else none

/-- Whether either side of the method is a stream. -/
def isStreaming (method : Method) : Bool := method.request.streamed || method.response.streamed

end Method

end ProtoInterfaces
