import ProtoInterfaces.Identifier.Words
import ProtoInterfaces.Text.Casing

/-!
# Camel case

Upper camel case capitalises every word of an identifier and joins them; lower camel case is the
same with a small first character. A first character whose capital form takes several characters
keeps all but the first of them in lower camel case.
-/
namespace ProtoInterfaces.Identifier

/-- A word with a capital first character and small others. -/
def capitalise : Text → Text
  | [] => []
  | c :: rest => upperOf c ++ Text.lower rest

/-- The identifier in upper camel case. -/
def pascal (name : Text) : Text := (words name).flatMap capitalise

/-- A text with a small first character. -/
def uncapitalise : Text → Text
  | [] => []
  | c :: rest => lowerOf c ++ rest

/-- The identifier in lower camel case. -/
def camel (name : Text) : Text := uncapitalise (pascal name)

end ProtoInterfaces.Identifier
