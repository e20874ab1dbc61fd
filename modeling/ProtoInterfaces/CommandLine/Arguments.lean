import ProtoInterfaces.Batch
import ProtoInterfaces.CommandLine.Token

/-!
# Arguments of the command line

The files to be rendered are one block of words: the first block that holds any. Words of later
blocks are left over, and so is everything that looks like a flag and is none. A flag that takes
a value takes the text attached to it or else the next argument, which has to be a word. The last
of several values of one flag counts.

Customs differ on what may be attached to a flag, and these are the rules here. To a short flag
that takes no value further short flags may be attached. An argument with a letter among them that
is no flag is refused as a whole, whatever the flags before it ask for: `-hx` asks for no help.
Behind the letter of a flag that takes a value everything is its value, and an equals sign is left
out only where it follows the first flag of the argument: `-o=x` names the output `x`, and `-co=x`
names it `=x`. An attached `--` is no value and leaves the flag without a name. A command line whose
values are arguments of their own, and whose clusters hold flags only, depends on none of this.
-/
namespace ProtoInterfaces.CommandLine

/-- What the arguments of a command line ask for. -/
structure Arguments where
  /-- Names of the files to render. -/
  files : List Text := []
  /-- Whether comment lines are kept. -/
  keepComments : Bool := false
  /-- How streams are written; nothing if the flag is left without a name. -/
  streamBehavior : Option StreamBehavior := some .native
  /-- Whether empty lines are kept. -/
  keepEmptyLines : Bool := false
  /-- Where the output goes. -/
  output : Batch.Output := .printed
  deriving DecidableEq, Repr

/-- Why a command line asks for no rendering. -/
inductive Stop where
  /-- Help is asked for. -/
  | help
  /-- The arguments cannot be understood. -/
  | misused (fault : UsageFault)
  deriving DecidableEq, Repr

/-- The flags that share one argument. -/
structure Cluster where
  /-- Flags without values. -/
  plain : List Flag
  /-- A flag with a value at the end, with the value if it is attached. -/
  valued : Option (Flag × Option Text)
  deriving DecidableEq, Repr

namespace Cluster

/-- A flag with nothing attached. -/
def single (flag : Flag) : Cluster :=
  if flag.takesValue then ⟨[], some (flag, none)⟩ else ⟨[flag], none⟩

/-- A cluster with a flag before it. -/
def precede (flag : Flag) (cluster : Cluster) : Cluster :=
  { cluster with plain := flag :: cluster.plain }

/-- A short flag with a text attached: its value, or the letters of further short flags. A letter
that is no flag is a fault of the flag before it, and no flag of the argument takes effect. -/
def ofShort (flag : Flag) (text : Text) : Except UsageFault Cluster :=
  if flag.takesValue then .ok ⟨[], some (flag, some text)⟩
  else
    match text with
    | [] => .error (.valueIgnored flag [])
    | letter :: rest =>
      match Flag.ofLetter? letter with
      | none => .error (.valueIgnored flag (letter :: rest))
      | some next =>
        if rest.isEmpty then .ok ((single next).precede flag)
        else (ofShort next rest).map (precede flag)

/-- The flags of one argument. -/
def ofFlag (flag : Flag) (isShort : Bool) : Option Text → Except UsageFault Cluster
  | none => .ok (single flag)
  | some text =>
    if isShort then ofShort flag text
    else if flag.takesValue then .ok ⟨[], some (flag, some text)⟩
    else .error (.valueIgnored flag text)

end Cluster

/-- The block of words that names the files. -/
inductive FileBlock where
  /-- No word has been met. -/
  | awaited
  /-- The block goes on. -/
  | opened (files : List Text)
  /-- The block has ended. -/
  | closed (files : List Text)
  deriving DecidableEq, Repr

/-- What has been understood of a command line so far. -/
structure Progress where
  /-- What the flags ask for. -/
  arguments : Arguments := {}
  /-- The files that are named. -/
  block : FileBlock := .awaited
  /-- Arguments that mean nothing, in order. -/
  leftover : List Text := []
  deriving DecidableEq, Repr

namespace Progress

/-- After something that means nothing. -/
def leave (progress : Progress) (text : Text) : Progress :=
  { progress with leftover := progress.leftover ++ [text] }

/-- After a word. -/
def word (progress : Progress) (text : Text) : Progress :=
  match progress.block with
  | .awaited => { progress with block := .opened [text] }
  | .opened files => { progress with block := .opened (files ++ [text]) }
  | .closed _ => progress.leave text

/-- After `--`, which is left over if the block of files has ended. -/
def separator (progress : Progress) : Progress :=
  match progress.block with
  | .closed _ => progress.leave Token.separatorText
  | _ => progress

/-- After something that ends a block of words. -/
def endBlock (progress : Progress) : Progress :=
  match progress.block with
  | .opened files => { progress with block := .closed files }
  | _ => progress

/-- After a flag without a value. -/
def flag (progress : Progress) : Flag → Except Stop Progress
  | .help => .error .help
  | .keepComments => .ok { progress with arguments.keepComments := true }
  | .keepEmptyLines => .ok { progress with arguments.keepEmptyLines := true }
  | _ => .ok progress

/-- After flags without values. -/
def flags (progress : Progress) : List Flag → Except Stop Progress
  | [] => .ok progress
  | first :: rest =>
    match progress.flag first with
    | .ok progress => progress.flags rest
    | .error stop => .error stop

/-- After a flag with its value. -/
def value (progress : Progress) (flag : Flag) (value : Text) : Except Stop Progress :=
  match flag with
  | .streamBehavior =>
    match StreamBehavior.ofName? value with
    | some behavior => .ok { progress with arguments.streamBehavior := some behavior }
    | none => .error (.misused (.invalidBehavior value))
  | .output => .ok { progress with arguments.output := .path value }
  | _ => .ok progress

/-- After a flag that is left without a name. -/
def nameless (progress : Progress) : Flag → Progress
  | .streamBehavior => { progress with arguments.streamBehavior := none }
  | .output => { progress with arguments.output := .nameless }
  | _ => progress

/-- After a flag with a text attached as its value. An attached `--` is none. -/
def attached (progress : Progress) (flag : Flag) (text : Text) : Except Stop Progress :=
  if text = Token.separatorText then .ok (progress.nameless flag) else progress.value flag text

/-- After all of some tokens. -/
def tokens (progress : Progress) : List Token → Except Stop Progress
  | [] => .ok progress
  | .word text :: rest => (progress.word text).tokens rest
  | .separator :: rest => progress.separator.tokens rest
  | .unknown text :: rest => (progress.endBlock.leave text).tokens rest
  | .flag meant isShort text :: rest =>
    match Cluster.ofFlag meant isShort text with
    | .error fault => .error (.misused fault)
    | .ok cluster =>
      match cluster.valued, rest with
      | none, rest =>
        match progress.endBlock.flags cluster.plain with
        | .ok progress => progress.tokens rest
        | .error stop => .error stop
      | some (flag, some text), rest =>
        match progress.endBlock.flags cluster.plain >>= fun progress =>
          progress.attached flag text with
        | .ok progress => progress.tokens rest
        | .error stop => .error stop
      | some (flag, none), .word value :: rest =>
        match progress.endBlock.flags cluster.plain >>= fun progress =>
          progress.value flag value with
        | .ok progress => progress.tokens rest
        | .error stop => .error stop
      | some (flag, none), _ => .error (.misused (.valueMissing flag))

/-- What is asked for once every argument has been met. -/
def finish (progress : Progress) : Except Stop Arguments :=
  match progress.block with
  | .awaited => .error (.misused .filesMissing)
  | .opened files | .closed files =>
    if progress.leftover.isEmpty then .ok { progress.arguments with files }
    else .error (.misused (.unrecognized progress.leftover))

end Progress

/-- What the arguments of a command line ask for. -/
def Arguments.parse (arguments : List Text) : Except Stop Arguments :=
  match Token.ofArguments arguments with
  | .error fault => .error (.misused fault)
  | .ok tokens =>
    match ({} : Progress).tokens tokens with
    | .error stop => .error stop
    | .ok progress => progress.finish

end ProtoInterfaces.CommandLine
