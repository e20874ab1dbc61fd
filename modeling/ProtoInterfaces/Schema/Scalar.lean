import ProtoInterfaces.Text.Basic

/-!
# Scalar types

The fifteen built-in types of a schema. Every other type name refers to a message or an
enumeration declared elsewhere.
-/
namespace ProtoInterfaces

/-- A built-in type of a schema. -/
inductive ScalarType where
  | double | float
  | int32 | int64 | uint32 | uint64 | sint32 | sint64
  | fixed32 | fixed64 | sfixed32 | sfixed64
  | bool | string | bytes
  deriving DecidableEq, Repr

namespace ScalarType

/-- Every scalar type. -/
def all : List ScalarType :=
  [.double, .float, .int32, .int64, .uint32, .uint64, .sint32, .sint64, .fixed32, .fixed64,
    .sfixed32, .sfixed64, .bool, .string, .bytes]

/-- The name of a scalar type in a schema. -/
def name : ScalarType → Text
  | .double => "double".toList
  | .float => "float".toList
  | .int32 => "int32".toList
  | .int64 => "int64".toList
  | .uint32 => "uint32".toList
  | .uint64 => "uint64".toList
  | .sint32 => "sint32".toList
  | .sint64 => "sint64".toList
  | .fixed32 => "fixed32".toList
  | .fixed64 => "fixed64".toList
  | .sfixed32 => "sfixed32".toList
  | .sfixed64 => "sfixed64".toList
  | .bool => "bool".toList
  | .string => "string".toList
  | .bytes => "bytes".toList

/-- The scalar type of a name, if the name is one of a scalar type. -/
def ofName? (name : Text) : Option ScalarType := all.find? fun scalar => scalar.name = name

/-- A name is read as a scalar type exactly when it is the name of that type. -/
theorem ofName?_eq_some_iff {name : Text} {scalar : ScalarType} :
    ofName? name = some scalar ↔ name = scalar.name := by
  constructor
  · intro found
    have matched := List.find?_some found
    exact (of_decide_eq_true matched).symm
  · rintro rfl
    cases scalar <;> decide

end ScalarType

/-- Whether a type name is that of a scalar type. -/
def isScalarName (name : Text) : Bool := (ScalarType.ofName? name).isSome

/-- A type name is that of a scalar type exactly when some scalar type has it. -/
theorem isScalarName_iff {name : Text} :
    isScalarName name = true ↔ ∃ scalar : ScalarType, name = scalar.name := by
  simp only [isScalarName, Option.isSome_iff_exists, ScalarType.ofName?_eq_some_iff]

end ProtoInterfaces
