import ProtoInterfaces.Text.Blank

/-!
# Words of an identifier

An identifier is divided into words at separators and at changes of case. Changes of case are
first marked by a space, in two passes of leftmost substitution: a run of capitals gives up its
last one to the small letter that follows (`HTTPRequest` becomes `HTTP Request`), then a capital
after a small letter or digit opens a word (`listFeatures` becomes `list Features`). Only ASCII
letters and digits mark a change of case.
-/
namespace ProtoInterfaces

/-- A rule of substitution looks at the text from some place on. If it applies there it gives the
replacement and how many characters after the first one it replaces. -/
abbrev SubstitutionRule := Text → Option (Text × Nat)

/-- The text with every leftmost place of a rule replaced, none of them overlapping an earlier
one, while `skipped` characters of an earlier place are still to be passed over. -/
def substituteFrom (rule : SubstitutionRule) : (skipped : Nat) → Text → Text
  | _, [] => []
  | skipped + 1, _ :: rest => substituteFrom rule skipped rest
  | 0, c :: rest =>
    match rule (c :: rest) with
    | none => c :: substituteFrom rule 0 rest
    | some (replacement, more) => replacement ++ substituteFrom rule more rest

/-- The text with every leftmost place of a rule replaced, from left to right. -/
def substitute (rule : SubstitutionRule) (text : Text) : Text := substituteFrom rule 0 text

namespace Identifier

/-- An ASCII capital letter. -/
def isCapital (c : Char) : Bool := c.isUpper

/-- An ASCII small letter. -/
def isSmall (c : Char) : Bool := c.isLower

/-- An ASCII small letter or digit, after which a capital opens a word. -/
def isSmallOrDigit (c : Char) : Bool := c.isLower || c.isDigit

/-- A character that separates words and belongs to none. -/
def isSeparator (c : Char) : Bool := isBlank c || c = '_' || c = '-' || c = '.'

/-- A run of two or more capitals with a small letter after it: the last capital goes to the
small letter. -/
def capitalRunRule : SubstitutionRule := fun text =>
  let capitals := text.takeWhile isCapital
  match capitals.reverse, text.dropWhile isCapital with
  | last :: earlier@(_ :: _), small :: _ =>
    if isSmall small then some (earlier.reverse ++ [' ', last, small], capitals.length) else none
  | _, _ => none

/-- A small letter or digit with a capital after it: the capital opens a word. -/
def humpRule : SubstitutionRule
  | c :: d :: _ => if isSmallOrDigit c && isCapital d then some ([c, ' ', d], 1) else none
  | _ => none

/-- The identifier with a space at every change of case. -/
def spaced (name : Text) : Text := substitute humpRule (substitute capitalRunRule name)

/-- The words of an identifier. -/
def words (name : Text) : List Text := (spaced name).runs isSeparator

end Identifier

end ProtoInterfaces
