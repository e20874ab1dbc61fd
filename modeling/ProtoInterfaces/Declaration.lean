import ProtoInterfaces.Identifier.Casing
import ProtoInterfaces.Schema.Field
import ProtoInterfaces.Schema.Method
import ProtoInterfaces.StreamBehavior

/-!
# TypeScript declarations

The lines that are written: the openings of an interface and of a namespace, the end of a block,
a property for a field, a signature for a method, and the import of the stream type. A repeated
field is an array and never optional. The parameter of a method is named after the type it takes.
-/
namespace ProtoInterfaces.Declaration

/-- The opening of an interface. -/
def interfaceOpen (name : Text) : Text :=
  "export interface ".toList ++ name ++ [' ', '{']

/-- The opening of a namespace. -/
def namespaceOpen (name : Text) : Text :=
  "export namespace ".toList ++ name ++ [' ', '{']

/-- The end of a block. -/
def blockClose : Text := ['}']

/-- The type that stands for a scalar type. -/
def scalarType : ScalarType → Text
  | .bool => "boolean".toList
  | .string | .bytes => "string".toList
  | _ => "number".toList

/-- The type that stands for a type of a schema: a message or enumeration keeps its name. -/
def typeOf (name : Text) : Text :=
  match ScalarType.ofName? name with
  | some scalar => scalarType scalar
  | none => name

/-- The mark of an optional property. -/
def optionalMark : Cardinality → Text
  | .optional => ['?']
  | _ => []

/-- The mark of an array type. -/
def arrayMark : Cardinality → Text
  | .repeated => ['[', ']']
  | _ => []

/-- The property that stands for a field. -/
def property (field : Field) : Text :=
  Identifier.camel field.name ++ optionalMark field.cardinality ++ [':', ' '] ++
    typeOf field.type ++ arrayMark field.cardinality

/-- The type of what a method takes or returns. -/
def payloadType (behavior : StreamBehavior) (payload : Payload) : Text :=
  if payload.streamed then
    match behavior with
    | .strip => payload.type
    | .native => "Stream".toList
    | .generic => "Stream<".toList ++ payload.type ++ ['>']
  else payload.type

/-- The name of the parameter of a method. -/
def parameterName (behavior : StreamBehavior) (request : Payload) : Text :=
  Identifier.camel request.type ++
    if request.streamed && behavior ≠ .strip then "Stream".toList else []

/-- The signature that stands for a method. -/
def signature (behavior : StreamBehavior) (method : Method) : Text :=
  Identifier.camel method.name ++ [' ', '('] ++ parameterName behavior method.request ++
    [':', ' '] ++ payloadType behavior method.request ++ [')', ':', ' '] ++
    payloadType behavior method.response

/-- The module that the stream type comes from. Streams written as their messages need none. -/
def streamModule? : StreamBehavior → Option Text
  | .strip => none
  | .native => some "stream".toList
  | .generic => some "ts-stream".toList

/-- The import of the stream type, if the behaviour needs it. -/
def streamImport? (behavior : StreamBehavior) : Option Text :=
  (streamModule? behavior).map fun name => "import Stream from '".toList ++ name ++ ['\'']

end ProtoInterfaces.Declaration
