import ProtoInterfaces.CommandLine.Usage
import ProtoInterfaces.Text.DecimalDigit

/-!
# Tokens of the command line

Each argument is a word, a flag, or something that looks like a flag and is none. A flag is
spelled short or long; a long spelling may be cut short as long as only one flag begins so. A
text may be attached to either spelling after `=`, and to a short one directly. After `--`
everything is a word.
-/
namespace ProtoInterfaces.CommandLine

/-- What an argument of the command line is. -/
inductive Token where
  /-- An argument that is no flag. -/
  | word (text : Text)
  /-- The argument `--`. -/
  | separator
  /-- A flag, spelled short or long, with the text attached to it. -/
  | flag (meant : Flag) (isShort : Bool) (attached : Option Text)
  /-- An argument that looks like a flag and is none. -/
  | unknown (text : Text)
  deriving DecidableEq, Repr

namespace Token

/-- The argument after which everything is a word. -/
def separatorText : Text := ['-', '-']

/-- An argument cut at its first equals sign, if it has one. -/
def cutAtEquals (argument : Text) : Text × Option Text :=
  match argument.dropWhile (· ≠ '=') with
  | _ :: value => (argument.takeWhile (· ≠ '='), some value)
  | [] => (argument, none)

/-- Whether a text is nothing but decimal digits, at least one of them, up to one line feed at
its end. -/
def isNumeral (text : Text) : Bool :=
  match text.takeWhile isDecimalDigit, text.dropWhile isDecimalDigit with
  | _ :: _, [] => true
  | _ :: _, ['\n'] => true
  | _, _ => false

/-- Whether an argument that begins with a hyphen is a negative number: digits, perhaps after a
decimal point with digits before it or none. -/
def isNegativeNumber (argument : Text) : Bool :=
  let digits := argument.drop 1
  isNumeral digits ||
    match digits.dropWhile isDecimalDigit with
    | '.' :: decimals => isNumeral decimals
    | _ => false

/-- The flags that an argument with two hyphens may be an abbreviation of. -/
def candidates (beginning : Text) : List Flag :=
  Flag.all.filter fun flag => beginning.isPrefixOf flag.long

/-- An argument with a hyphen that is no exact spelling of a flag: a short flag with something
attached directly, or an abbreviation of a long one. -/
def ofInexact (argument : Text) : Except UsageFault (Option Token) :=
  match argument with
  | '-' :: '-' :: _ =>
    let (beginning, attached) := cutAtEquals argument
    match candidates beginning with
    | [] => .ok none
    | [meant] => .ok (some (.flag meant false attached))
    | several => .error (.ambiguous argument several)
  | _ :: letter :: rest =>
    .ok ((Flag.ofLetter? letter).map fun meant => .flag meant true (some rest))
  | _ => .ok none

/-- Whether the spelling of a flag is its short one. -/
def isShortSpelling (spelling : Text) : Bool := spelling.length = 2

/-- The flag that an argument spells exactly, with the text after an equals sign, if any. -/
def ofExact? (argument : Text) : Option Token :=
  match Flag.ofSpelling? argument with
  | some meant => some (.flag meant (isShortSpelling argument) none)
  | none =>
    match cutAtEquals argument with
    | (_, none) => none
    | (spelling, attached) =>
      (Flag.ofSpelling? spelling).map fun meant => .flag meant (isShortSpelling spelling) attached

/-- What an argument before `--` is. -/
def ofArgument (argument : Text) : Except UsageFault Token :=
  match argument with
  | '-' :: _ :: _ =>
    match ofExact? argument with
    | some token => .ok token
    | none =>
      match ofInexact argument with
      | .error fault => .error fault
      | .ok (some token) => .ok token
      | .ok none =>
        if isNegativeNumber argument || argument.contains ' ' then .ok (.word argument)
        else .ok (.unknown argument)
  | _ => .ok (.word argument)

/-- What the arguments of a command line are. -/
def ofArguments : List Text → Except UsageFault (List Token)
  | [] => .ok []
  | argument :: rest =>
    if argument = separatorText then .ok (.separator :: rest.map .word)
    else
      match ofArgument argument with
      | .error fault => .error fault
      | .ok token =>
        match ofArguments rest with
        | .error fault => .error fault
        | .ok tokens => .ok (token :: tokens)

end Token

end ProtoInterfaces.CommandLine
