import ProtoInterfaces.Text.Basic

/-!
# Blanks

White space in the sense of Unicode together with the four information separators U+001C to
U+001F. A line is divided into words at blanks, and recognisers step over them.
-/
namespace ProtoInterfaces

/-- Code points that count as white space. -/
def blankRanges : CodeRanges :=
  [(0x09, 0x0D), (0x1C, 0x20), (0x85, 0x85), (0xA0, 0xA0), (0x1680, 0x1680), (0x2000, 0x200A),
    (0x2028, 0x2029), (0x202F, 0x202F), (0x205F, 0x205F), (0x3000, 0x3000)]

/-- White space. -/
def isBlank (c : Char) : Bool := blankRanges.contain c

namespace Text

/-- The text after its leading blanks. -/
def skipBlanks (text : Text) : Text := text.dropWhile isBlank

/-- The text after its leading blanks, if it has at least one. -/
def skipBlanks1? : Text → Option Text
  | c :: rest => if isBlank c then some (skipBlanks rest) else none
  | [] => none

/-- The text without blanks at either end. -/
def trim (text : Text) : Text := trimBoth isBlank text

/-- The words of a text: its longest runs of characters that are not blank. -/
def words (text : Text) : List Text := text.runs isBlank

end Text

end ProtoInterfaces
