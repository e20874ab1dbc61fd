import ProtoInterfaces.Text.Quoted

/-!
# Values

A setting or a source may be given as a value of any kind; one of the wrong kind is refused and
shown as it was given, or by the name of its kind. A number with a fraction is shown with at
least one decimal place, by place value between a ten-thousandth and ten quadrillions and with
an exponent of at least two digits beyond.
-/
namespace ProtoInterfaces

/-- A value as it was given. -/
inductive Value where
  | null
  | flag (holds : Bool)
  | integer (value : Int)
  /-- A number with a sign, given by a mantissa divided by a power of ten. -/
  | decimal (negative : Bool) (mantissa places : Nat)
  | text (content : Text)
  | list (items : List Value)
  | record (entries : List (Text × Value))
  deriving Inhabited

namespace Value

/-- The name of the kind of a value. -/
def kindName : Value → Text
  | .null => "NoneType".toList
  | .flag _ => "bool".toList
  | .integer _ => "int".toList
  | .decimal _ _ _ => "float".toList
  | .text _ => "str".toList
  | .list _ => "list".toList
  | .record _ => "dict".toList

/-- An integer in base ten. -/
def showInteger (value : Int) : Text :=
  (if value < 0 then ['-'] else []) ++ Nat.toDigits 10 value.natAbs

/-- The exponent of a power of ten, with its sign and at least two digits. -/
def showExponent (exponent : Int) : Text :=
  let digits := Nat.toDigits 10 exponent.natAbs
  ['e', if exponent < 0 then '-' else '+'] ++ List.replicate (2 - digits.length) '0' ++ digits

/-- Significant digits whose decimal point stands after the first `point` of them. -/
def showDigits (digits : Text) (point : Int) : Text :=
  if point ≤ -4 || point > 16 then
    digits.take 1 ++ (if digits.length = 1 then [] else '.' :: digits.drop 1) ++
      showExponent (point - 1)
  else if point ≤ 0 then
    ['0', '.'] ++ List.replicate (-point).toNat '0' ++ digits
  else
    digits.take point.toNat ++ List.replicate (point.toNat - digits.length) '0' ++ ['.'] ++
      (if digits.length ≤ point.toNat then ['0'] else digits.drop point.toNat)

/-- A number with a sign, given by a mantissa divided by a power of ten. Zero keeps its sign. -/
def showDecimal (negative : Bool) (mantissa places : Nat) : Text :=
  let digits := Nat.toDigits 10 mantissa
  let significant := Text.dropTrailing (· = '0') digits
  (if negative then ['-'] else []) ++
    if significant.isEmpty then ['0', '.', '0']
    else showDigits significant ((digits.length : Int) - places)

mutual

/-- A value inside another one. -/
def inner : Value → Text
  | .null => "None".toList
  | .flag holds => if holds then "True".toList else "False".toList
  | .integer value => showInteger value
  | .decimal negative mantissa places => showDecimal negative mantissa places
  | .text content => Text.quoted content
  | .list items => ['['] ++ Text.join [',', ' '] (innerItems items) ++ [']']
  | .record entries => ['{'] ++ Text.join [',', ' '] (innerEntries entries) ++ ['}']

/-- The items of a list. -/
def innerItems : List Value → List Text
  | [] => []
  | item :: rest => inner item :: innerItems rest

/-- The entries of a record. -/
def innerEntries : List (Text × Value) → List Text
  | [] => []
  | (key, value) :: rest => (Text.quoted key ++ [':', ' '] ++ inner value) :: innerEntries rest

end

/-- A value as it is shown: a text as it is, any other value as inside another one. -/
def display : Value → Text
  | .text content => content
  | value => inner value

end Value

end ProtoInterfaces
