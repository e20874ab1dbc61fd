import ProtoInterfaces.Text.Line

/-!
# Syntax versions

A schema states its version in a statement such as `syntax = "proto3";`. The first complete
statement that begins a line decides, blanks before it set aside; a schema without one is of the
second version. The two quotes need not be of one kind, and blanks may run over lines.
-/
namespace ProtoInterfaces

/-- A version of the schema language. -/
inductive SyntaxVersion where
  | proto2
  | proto3
  deriving DecidableEq, Repr

namespace SyntaxVersion

/-- The name of a version in a schema. -/
def name : SyntaxVersion → Text
  | .proto2 => "proto2".toList
  | .proto3 => "proto3".toList

/-- Every version. -/
def all : List SyntaxVersion := [.proto2, .proto3]

/-- The version of a name, if the name is one of a version. -/
def ofName? (name : Text) : Option SyntaxVersion := all.find? fun version => version.name = name

/-- A name of the form `proto2` or `proto3` at the beginning of a text and what follows it. -/
def readName? (text : Text) : Option (Text × Text) :=
  match Text.after? "proto".toList text with
  | some (digit :: rest) =>
    if digit = '2' || digit = '3' then some ("proto".toList ++ [digit], rest) else none
  | _ => none

/-- Every name that is read is one of a version. -/
theorem isSome_ofName?_of_readName? {text name rest : Text}
    (read : readName? text = some (name, rest)) : (ofName? name).isSome := by
  unfold readName? at read
  split at read
  · split at read
    · rename_i digit _ _ known
      simp only [Option.some.injEq, Prod.mk.injEq] at read
      obtain ⟨rfl, _⟩ := read
      rw [Bool.or_eq_true, decide_eq_true_eq, decide_eq_true_eq] at known
      rcases known with rfl | rfl <;> decide
    · contradiction
  · contradiction

/-- What follows a quote of either kind. -/
def afterQuote? : Text → Option Text
  | '"' :: rest => some rest
  | '\'' :: rest => some rest
  | _ => none

/-- The name that a complete statement at the beginning of a text gives. -/
def nameInStatement? (text : Text) : Option Text := do
  let rest ← Text.after? "syntax".toList text.skipBlanks
  let rest ← Text.after? ['='] rest.skipBlanks
  let rest ← afterQuote? rest.skipBlanks
  let (name, rest) ← readName? rest
  let rest ← afterQuote? rest
  let _ ← Text.after? [';'] rest.skipBlanks
  return name

/-- Every name that a complete statement gives is one of a version. -/
theorem isSome_ofName?_of_nameInStatement? {text name : Text}
    (stated : nameInStatement? text = some name) : (ofName? name).isSome := by
  simp only [nameInStatement?, bind, Option.bind_eq_some_iff, pure, Option.some.injEq] at stated
  obtain ⟨_, _, _, _, _, _, ⟨read, _⟩, named, _, _, _, _, rfl⟩ := stated
  exact isSome_ofName?_of_readName? named

/-- The name that the first complete statement of a schema gives. -/
def statedName? (text : Text) : Option Text := text.lineStarts.findSome? nameInStatement?

/-- The version of a schema, if the name that it states is one of a version. -/
def detect? (text : Text) : Option SyntaxVersion :=
  match statedName? text with
  | some name => ofName? name
  | none => some .proto2

/-- Every schema has a version. -/
theorem isSome_detect? (text : Text) : (detect? text).isSome := by
  unfold detect?
  cases stated : statedName? text with
  | none => rfl
  | some name =>
    obtain ⟨start, _, found⟩ := List.exists_of_findSome?_eq_some stated
    exact isSome_ofName?_of_nameInStatement? found

/-- The version of a schema. -/
def detect (text : Text) : SyntaxVersion := (detect? text).get (isSome_detect? text)

end SyntaxVersion

end ProtoInterfaces
