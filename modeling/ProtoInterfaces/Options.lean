import ProtoInterfaces.StreamBehavior

/-!
# Options

What may be chosen about a rendering, with its defaults, and the settings from which a choice
is made. A setting left out takes its default; a stream behaviour is checked when a choice is
made, so options once chosen are always valid.
-/
namespace ProtoInterfaces

/-- What may be chosen about a rendering. -/
structure Options where
  /-- Whether comment lines are kept. -/
  keepComments : Bool := false
  /-- How streams are written. -/
  stream : StreamBehavior := .native
  /-- Whether blank lines are left out. -/
  stripEmptyLines : Bool := true
  deriving DecidableEq, Repr

/-- Settings as they were given, some of them perhaps left out. -/
structure Settings where
  /-- Whether comment lines are kept. -/
  keepComments : Option Bool := none
  /-- The stream behaviour, as a value to be checked. -/
  stream : Option Value := none
  /-- Whether blank lines are left out. -/
  stripEmptyLines : Option Bool := none

namespace Settings

/-- The options that settings choose. -/
def choose (settings : Settings) : Except ConfigurationFault Options := do
  let stream ←
    match settings.stream with
    | some value => StreamBehavior.ofValue value
    | none => .ok .native
  return {
    keepComments := settings.keepComments.getD false
    stream
    stripEmptyLines := settings.stripEmptyLines.getD true }

/-- Whether no setting was given. -/
def isEmpty (settings : Settings) : Bool :=
  settings.keepComments.isNone && settings.stream.isNone && settings.stripEmptyLines.isNone

end Settings

/-- The options of a request that gives them whole or one by one, but not in both ways. -/
def Options.request (whole : Option Options) (settings : Settings) :
    Except ConfigurationFault Options :=
  match whole with
  | none => settings.choose
  | some options => if settings.isEmpty then .ok options else .error .optionsGivenTwice

end ProtoInterfaces
