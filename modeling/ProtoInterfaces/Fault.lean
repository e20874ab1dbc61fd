import ProtoInterfaces.Text.Quoted
import ProtoInterfaces.Text.Utf8

/-!
# Faults

What keeps a schema from being rendered or a result from being written. Lines that cannot be
read are no faults: they are kept and warned about.
-/
namespace ProtoInterfaces

/-- Why a place of the file tree cannot be used as asked. -/
inductive FileCause where
  | notFound
  | alreadyExists
  | notDirectory
  | isDirectory
  | nameTooLong
  deriving DecidableEq, Repr

namespace FileCause

/-- The number under which the operating system reports the cause. -/
def number : FileCause → Nat
  | .notFound => 2
  | .alreadyExists => 17
  | .notDirectory => 20
  | .isDirectory => 21
  | .nameTooLong => 36

/-- The words in which the operating system reports the cause. -/
def description : FileCause → Text
  | .notFound => "No such file or directory".toList
  | .alreadyExists => "File exists".toList
  | .notDirectory => "Not a directory".toList
  | .isDirectory => "Is a directory".toList
  | .nameTooLong => "File name too long".toList

end FileCause

/-- A failed use of a path. -/
structure FileFault where
  /-- Why it failed. -/
  cause : FileCause
  /-- The path as it was used. -/
  path : Text
  deriving DecidableEq, Repr

/-- The report of a failed use of a path. -/
def FileFault.message (fault : FileFault) : Text :=
  "[Errno ".toList ++ Nat.toDigits 10 fault.cause.number ++ "] ".toList ++
    fault.cause.description ++ ": ".toList ++ Text.quoted fault.path

/-- A request that is refused before any rendering. -/
inductive ConfigurationFault where
  /-- Nothing was named that could be read. -/
  | noInput
  /-- The source is of a kind that cannot be read. -/
  | unsupportedInput (kindName : Text)
  /-- No stream behaviour has the given name. -/
  | unknownBehavior (shown : Text)
  /-- Options were given both whole and one by one. -/
  | optionsGivenTwice
  /-- Several results were to be written to a place that is not a directory. -/
  | outputNotDirectory (path : Text)
  deriving DecidableEq, Repr

/-- The report of a refused request. -/
def ConfigurationFault.message : ConfigurationFault → Text
  | .noInput => "No file specified".toList
  | .unsupportedInput kindName => "Unsupported input type: ".toList ++ kindName
  | .unknownBehavior shown =>
    ['"'] ++ shown ++ "\" is not a valid stream behaviour!".toList
  | .optionsGivenTwice =>
    "Pass either a TranslateOptions instance or option keywords, not both".toList
  | .outputNotDirectory path =>
    path ++ " exists and is not a directory, but multiple input files were given".toList

/-- The words for a cause of ill-formed bytes. -/
def Utf8.Cause.description : Utf8.Cause → Text
  | .invalidStart => "invalid start byte".toList
  | .invalidContinuation => "invalid continuation byte".toList
  | .unexpectedEnd => "unexpected end of data".toList

/-- The report of ill-formed bytes: a single byte is shown, a longer span only located. -/
def Utf8.Fault.message (fault : Utf8.Fault) : Text :=
  "'utf-8' codec can't decode ".toList ++
    (if fault.length = 1 then
      "byte 0x".toList ++ Text.hexDigits 2 fault.lead.toNat ++ " in position ".toList ++
        Nat.toDigits 10 fault.position
    else
      "bytes in position ".toList ++ Nat.toDigits 10 fault.position ++ ['-'] ++
        Nat.toDigits 10 (fault.position + fault.length - 1)) ++
    ": ".toList ++ fault.cause.description

/-- What an output is to be. -/
inductive OutputUse where
  | file
  | directory
  deriving DecidableEq, Repr

/-- The report of an output without a name, for which an empty list of names stands. -/
def OutputUse.namelessMessage : OutputUse → Text
  | .file => "expected str, bytes or os.PathLike object, not list".toList
  | .directory => "stat: path should be string, bytes, os.PathLike or integer, not list".toList

/-- What keeps a schema from being rendered or a result from being written. -/
inductive Fault where
  | configuration (fault : ConfigurationFault)
  | file (fault : FileFault)
  /-- A path holds a null character. -/
  | nullInPath
  /-- An output was asked for without a name. -/
  | namelessOutput (use : OutputUse)
  | undecodable (fault : Utf8.Fault)
  deriving DecidableEq, Repr

/-- The report of a fault. -/
def Fault.message : Fault → Text
  | .configuration fault => fault.message
  | .file fault => fault.message
  | .nullInPath => "embedded null byte".toList
  | .namelessOutput use => use.namelessMessage
  | .undecodable fault => fault.message

end ProtoInterfaces
