/-!
# Texts

A text is the list of its code points. This module holds what every reader of a text shares:
splitting at a class of characters into the pieces between, keeping the pieces that hold
something, and dropping a class of characters from either end.
-/
namespace ProtoInterfaces

/-- A text, code point by code point. -/
abbrev Text := List Char

namespace Text

/-- The pieces between the characters of a class, empty ones included. -/
def pieces (separates : Char → Bool) (text : Text) : List Text := text.splitOnP separates

/-- The longest runs of characters outside a class. -/
def runs (separates : Char → Bool) (text : Text) : List Text :=
  (text.pieces separates).filter fun piece => !piece.isEmpty

/-- The text without the characters of a class at its end. -/
def dropTrailing (drops : Char → Bool) : Text → Text
  | [] => []
  | c :: rest =>
    match dropTrailing drops rest with
    | [] => if drops c then [] else [c]
    | kept => c :: kept

/-- The text without the characters of a class at its beginning and at its end. -/
def trimBoth (drops : Char → Bool) (text : Text) : Text :=
  dropTrailing drops (text.dropWhile drops)

/-- What follows a fixed beginning, if the text has that beginning. -/
def after? : Text → Text → Option Text
  | [], text => some text
  | _ :: _, [] => none
  | c :: opening, d :: text => if c = d then after? opening text else none

/-- What follows a beginning is exactly what completes it to the text. -/
theorem after?_eq_some_iff {opening text rest : Text} :
    after? opening text = some rest ↔ text = opening ++ rest := by
  induction opening generalizing text with
  | nil => simp [after?]
  | cons c opening ih =>
    cases text with
    | nil => simp [after?]
    | cons d text =>
      by_cases same : c = d
      · simp [after?, same, ih]
      · simp [after?, same, Ne.symm same]

/-- The longest run of characters of a class at the beginning and what follows it, if that run
holds anything. -/
def takeRun? (belongs : Char → Bool) (text : Text) : Option (Text × Text) :=
  match text.takeWhile belongs with
  | [] => none
  | run => some (run, text.dropWhile belongs)

/-- No run of characters outside a class is empty. -/
theorem ne_nil_of_mem_runs {separates : Char → Bool} {text run : Text}
    (found : run ∈ text.runs separates) : run ≠ [] := by
  simp only [runs, List.mem_filter, Bool.not_eq_true', List.isEmpty_eq_false_iff] at found
  exact found.2

/-- Whether a text stands no later than another in the order of code points. -/
def noLater (left right : Text) : Bool := !List.lex right left fun c d => c.toNat < d.toNat

/-- Texts joined with a separator between neighbours. -/
def join (separator : Text) : List Text → Text
  | [] => []
  | [text] => text
  | text :: rest => text ++ separator ++ join separator rest

end Text

/-- A class of characters given by ranges of code points, both ends included. -/
abbrev CodeRanges := List (Nat × Nat)

/-- Whether a character lies in one of the ranges. -/
def CodeRanges.contain (ranges : CodeRanges) (c : Char) : Bool :=
  ranges.any fun range => range.1 ≤ c.toNat && c.toNat ≤ range.2

/-- A character lies in the ranges exactly when one of them holds its code point. -/
theorem CodeRanges.contain_iff {ranges : CodeRanges} {c : Char} :
    ranges.contain c = true ↔ ∃ range ∈ ranges, range.1 ≤ c.toNat ∧ c.toNat ≤ range.2 := by
  simp [contain]

end ProtoInterfaces
