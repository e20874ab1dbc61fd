import ProtoInterfaces.Text.Blank

/-!
# Lines

A text is divided into lines at every line break, a carriage return with the line feed after it
counting once; a break at the end opens no further line. Reading a file as text turns every
carriage return, alone or with its line feed, into one line feed.
-/
namespace ProtoInterfaces

/-- Code points that end a line. -/
def lineBreakRanges : CodeRanges :=
  [(0x0A, 0x0D), (0x1C, 0x1E), (0x85, 0x85), (0x2028, 0x2029)]

/-- A character that ends a line. -/
def isLineBreak (c : Char) : Bool := lineBreakRanges.contain c

/-- Every line break is blank. -/
theorem isBlank_of_isLineBreak {c : Char} (breaks : isLineBreak c = true) :
    isBlank c = true := by
  simp only [isLineBreak, isBlank, CodeRanges.contain, lineBreakRanges, blankRanges,
    List.any_cons, List.any_nil, Bool.or_false, Bool.or_eq_true, Bool.and_eq_true,
    decide_eq_true_eq] at breaks ⊢
  omega

namespace Text

/-- The lines with a character put before the first of them. -/
def extendFirst (c : Char) : List Text → List Text
  | [] => [[c]]
  | line :: rest => (c :: line) :: rest

/-- The lines of a text, without their line breaks. -/
def lines : Text → List Text
  | [] => []
  | '\r' :: '\n' :: rest => [] :: lines rest
  | c :: rest => if isLineBreak c then [] :: lines rest else extendFirst c (lines rest)

/-- The text with every carriage return, alone or before a line feed, read as one line feed. -/
def unifyLineEnds : Text → Text
  | [] => []
  | '\r' :: '\n' :: rest => '\n' :: unifyLineEnds rest
  | c :: rest => (if c = '\r' then '\n' else c) :: unifyLineEnds rest

/-- Texts joined by line feeds. -/
def joinLines (lines : List Text) : Text := join ['\n'] lines

/-- The texts that begin where a line begins, counting line feeds only: the text itself and what
stands after each line feed. -/
def lineStarts (text : Text) : List Text := text :: afterLineFeeds text
where
  /-- What stands after each line feed. -/
  afterLineFeeds : Text → List Text
    | [] => []
    | c :: rest => if c = '\n' then rest :: afterLineFeeds rest else afterLineFeeds rest

end Text

end ProtoInterfaces
