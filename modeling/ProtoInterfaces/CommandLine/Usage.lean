import ProtoInterfaces.CommandLine.Flag

/-!
# Usage

What is printed about the command line itself: how it is used, what its flags mean, and what is
wrong with arguments that cannot be understood.
-/
namespace ProtoInterfaces.CommandLine

/-- How the command is used. -/
def usage : Text :=
  ("usage: protoc-ts [-h] [-c] [-s \x7bstrip,native,generic\x7d] [-e] [-o OUTPUT]\n" ++
    "                 files [files ...]\n").toList

/-- How the command is used and what its arguments mean. -/
def help : Text :=
  usage ++
  ("\nConvert .proto files into TypeScript interface declarations\n" ++
    "\npositional arguments:\n" ++
    "  files                 File name(s) to parse\n" ++
    "\noptions:\n" ++
    "  -h, --help            show this help message and exit\n" ++
    "  -c, --keep-comments   Keep comment lines\n" ++
    "  -s \x7bstrip,native,generic\x7d, --stream-behavior \x7bstrip,native,generic\x7d\n" ++
    "                        How to convert streams (default: native)\n" ++
    "  -e, --keep-empty-lines\n" ++
    "                        Keep empty lines\n" ++
    "  -o OUTPUT, --output OUTPUT\n" ++
    "                        Path of the generated output (a directory if more than\n" ++
    "                        one file is given); prints to stdout when omitted\n").toList

/-- Why arguments cannot be understood. -/
inductive UsageFault where
  /-- No file is named. -/
  | filesMissing
  /-- Arguments are left over. -/
  | unrecognized (arguments : List Text)
  /-- A flag that takes a value has none. -/
  | valueMissing (flag : Flag)
  /-- A flag that takes no value has one. -/
  | valueIgnored (flag : Flag) (value : Text)
  /-- No stream behaviour has the given name. -/
  | invalidBehavior (name : Text)
  /-- An abbreviation stands for several flags. -/
  | ambiguous (argument : Text) (candidates : List Flag)
  deriving DecidableEq, Repr

/-- The report of a fault of one flag. -/
def flagFault (flag : Flag) (message : Text) : Text :=
  "argument ".toList ++ flag.title ++ ": ".toList ++ message

/-- Texts with commas between them. -/
def enumerated (texts : List Text) : Text := Text.join ", ".toList texts

/-- The words for a fault of the arguments. -/
def UsageFault.message : UsageFault → Text
  | .filesMissing => "the following arguments are required: files".toList
  | .unrecognized arguments => "unrecognized arguments: ".toList ++ Text.join [' '] arguments
  | .valueMissing flag => flagFault flag "expected one argument".toList
  | .valueIgnored flag value =>
    flagFault flag ("ignored explicit argument ".toList ++ Text.quoted value)
  | .invalidBehavior name =>
    flagFault .streamBehavior ("invalid choice: ".toList ++ Text.quoted name ++
      " (choose from ".toList ++
      enumerated (StreamBehavior.all.map fun behavior => Text.quoted behavior.name) ++ [')'])
  | .ambiguous argument candidates =>
    "ambiguous option: ".toList ++ argument ++ " could match ".toList ++
      enumerated (candidates.map Flag.long)

/-- The report of a fault of the arguments, after the usage. -/
def UsageFault.report (fault : UsageFault) : Text :=
  usage ++ "protoc-ts: error: ".toList ++ fault.message ++ ['\n']

end ProtoInterfaces.CommandLine
