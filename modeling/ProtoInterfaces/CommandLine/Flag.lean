import ProtoInterfaces.StreamBehavior

/-!
# Flags

The flags of the command line, each with a short and a long spelling. Two of them take a value.
-/
namespace ProtoInterfaces.CommandLine

/-- A flag of the command line. -/
inductive Flag where
  | help
  | keepComments
  | streamBehavior
  | keepEmptyLines
  | output
  deriving DecidableEq, Repr

namespace Flag

/-- Every flag, in the order in which they are explained. -/
def all : List Flag := [.help, .keepComments, .streamBehavior, .keepEmptyLines, .output]

/-- The letter of the short spelling. -/
def letter : Flag → Char
  | .help => 'h'
  | .keepComments => 'c'
  | .streamBehavior => 's'
  | .keepEmptyLines => 'e'
  | .output => 'o'

/-- The short spelling: a hyphen and a letter. -/
def short (flag : Flag) : Text := ['-', flag.letter]

/-- The long spelling: two hyphens and words. -/
def long : Flag → Text
  | .help => "--help".toList
  | .keepComments => "--keep-comments".toList
  | .streamBehavior => "--stream-behavior".toList
  | .keepEmptyLines => "--keep-empty-lines".toList
  | .output => "--output".toList

/-- Whether the flag takes a value. -/
def takesValue : Flag → Bool
  | .streamBehavior | .output => true
  | _ => false

/-- Both spellings, as faults name the flag. -/
def title (flag : Flag) : Text := flag.short ++ ['/'] ++ flag.long

/-- The flag with exactly the given spelling. -/
def ofSpelling? (spelling : Text) : Option Flag :=
  all.find? fun flag => flag.short = spelling || flag.long = spelling

/-- The flag with the given letter. -/
def ofLetter? (letter : Char) : Option Flag := all.find? fun flag => flag.letter = letter

end Flag

end ProtoInterfaces.CommandLine
