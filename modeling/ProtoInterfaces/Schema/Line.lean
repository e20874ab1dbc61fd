import ProtoInterfaces.Text.Line
import ProtoInterfaces.Text.WordCharacter

/-!
# Lines of a schema

What can be told from a line on its own: how far it is indented, what kind of line its first word
makes it, which name it declares, and whether it is a `syntax` or `option` statement.
-/
namespace ProtoInterfaces

/-- Spaces or tabs before a line. -/
structure Indentation where
  /-- How many characters stand before the line. -/
  width : Nat
  /-- The first of them, if there is one. -/
  first : Option Char
  deriving DecidableEq, Repr

namespace Indentation

/-- A character that indents: a space or a tab. -/
def indents (c : Char) : Bool := c = ' ' || c = '\t'

/-- No indentation. -/
def none : Indentation := ⟨0, .none⟩

/-- The indentation of a line, if an indented line has a first character to look up. A line of
spaces and tabs alone has none. -/
def ofLine? (line : Text) : Option Indentation :=
  let rest := line.dropWhile indents
  let width := line.length - rest.length
  if width = 0 || rest.isEmpty then some none else line.head?.map fun c => ⟨width, some c⟩

/-- An indented line has a first character. -/
theorem isSome_ofLine? (line : Text) : (ofLine? line).isSome := by
  unfold ofLine?
  cases line with
  | nil => rfl
  | cons c rest =>
    simp only
    split <;> rfl

/-- The indentation of a line. -/
def ofLine (line : Text) : Indentation := (ofLine? line).get (isSome_ofLine? line)

/-- The indentation as text: its first character over its whole width. -/
def text (indentation : Indentation) : Text :=
  match indentation.first with
  | some c => List.replicate indentation.width c
  | .none => []

end Indentation

/-- What the first word of a line makes it. -/
inductive LineKind where
  | blank
  | comment
  | blockClose
  | messageOpen
  | serviceOpen
  | method
  | package
  | field
  deriving DecidableEq, Repr

namespace LineKind

/-- Whether a word begins a comment line: `//`, `/*`, or the `*` of a comment gone on with. -/
def opensComment (word : Text) : Bool :=
  ['/', '/'].isPrefixOf word || ['/', '*'].isPrefixOf word || ['*'].isPrefixOf word

/-- The kind of a line that begins with a word. -/
def ofFirst (word : Text) : LineKind :=
  if opensComment word then .comment
  else if ['}'].isPrefixOf word then .blockClose
  else if word = "message".toList then .messageOpen
  else if word = "service".toList then .serviceOpen
  else if word = "rpc".toList then .method
  else if word = "package".toList then .package
  else .field

/-- The kind of a line, from its words, if a line with words has a first one to look up. -/
def ofWords? (words : List Text) : Option LineKind :=
  if words.isEmpty then some .blank else words[0]?.map ofFirst

/-- A line with words has a first one. -/
theorem isSome_ofWords? (words : List Text) : (ofWords? words).isSome := by
  cases words <;> rfl

/-- The kind of a line, from its words. -/
def ofWords (words : List Text) : LineKind := (ofWords? words).get (isSome_ofWords? words)

/-- The first word of a line makes it what it is. -/
theorem ofWords_cons (word : Text) (others : List Text) :
    ofWords (word :: others) = ofFirst word := rfl

/-- The kind of a line. -/
def ofLine (line : Text) : LineKind := ofWords line.words

end LineKind

/-- The name that a line declares in its second word, if a line with more than one word has a
second one to look up: what stands before a brace, without semicolons at its end. -/
def declaredName? (words : List Text) : Option Text :=
  if 1 < words.length then
    words[1]?.map fun word => Text.dropTrailing (· = ';') (word.takeWhile fun c => c ≠ '{')
  else some []

/-- A line with more than one word has a second one. -/
theorem isSome_declaredName? (words : List Text) : (declaredName? words).isSome := by
  unfold declaredName?
  split
  · rename_i several
    rw [List.getElem?_eq_getElem several]
    rfl
  · rfl

/-- The name that a line declares. -/
def declaredName (words : List Text) : Text :=
  (declaredName? words).get (isSome_declaredName? words)

/-- The second word of a line holds the name that it declares. -/
theorem declaredName_cons_cons (first second : Text) (others : List Text) :
    declaredName (first :: second :: others) =
      Text.dropTrailing (· = ';') (second.takeWhile fun c => c ≠ '{') := by
  simp [declaredName, declaredName?]

/-- A line without a second word declares no name. -/
theorem declaredName_of_length_le {words : List Text} (few : words.length ≤ 1) :
    declaredName words = [] := by
  simp [declaredName, declaredName?, Nat.not_lt.mpr few]

/-- Whether the words after the first end with an empty block, semicolons set aside. -/
def hasEmptyBlock (words : List Text) : Bool :=
  ['{', '}'].isSuffixOf (Text.dropTrailing (· = ';') (words.drop 1).flatten)

/-- Whether a text goes on with the end of a word. -/
def endsWord : Text → Bool
  | [] => true
  | c :: _ => !isWordCharacter c

/-- Whether a text begins with a whole word. -/
def beginsWithWord (word text : Text) : Bool :=
  match Text.after? word text with
  | some rest => endsWord rest
  | none => false

/-- Whether a line is a statement about the schema as a whole and declares nothing: its first
word is `syntax` or `option`. -/
def isStatement (line : Text) : Bool :=
  beginsWithWord "syntax".toList line.skipBlanks || beginsWithWord "option".toList line.skipBlanks

end ProtoInterfaces
