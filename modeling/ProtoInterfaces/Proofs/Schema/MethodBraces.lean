import ProtoInterfaces.Proofs.Schema.Names
import ProtoInterfaces.Proofs.Text.Braces

/-!
# Braces of method lines

A method line may end with an empty body, so it may hold braces, but it holds as many of the one
kind as of the other: a line that is read as a method does not change the depth.
-/
namespace ProtoInterfaces

/-- Characters of a method line before what may end it are plain. -/
theorem isPlain_of_isMethodCharacter {c : Char} (inside : isMethodCharacter c = true) :
    isPlain c = true := by
  simp only [isMethodCharacter, Bool.or_eq_true, decide_eq_true_eq] at inside
  rcases inside with ((blank | named) | rfl) | rfl
  · exact isPlain_of_isBlank blank
  · exact isPlain_of_isTypeCharacter named
  · decide
  · decide

/-- Skipping blanks takes a level part. -/
theorem leavesLevel_skipBlanks (text : Text) : LeavesLevel text text.skipBlanks :=
  .of_leaves (Text.leaves_skipBlanks text) fun _ => isPlain_of_isBlank

namespace Method

/-- A body is level: the two braces of an empty one balance. -/
theorem level_of_isMethodBody {body : Text} (shape : IsMethodBody body) : Level body := by
  cases shape with
  | none => exact Level.nil
  | semicolon => exact Level.of_all (by decide)
  | block blanks =>
    rename_i gap
    have inner : Level gap := Level.of_blanks blanks
    have whole : Level (['{'] ++ gap ++ ['}']) :=
      (Opens.openBrace.followedBy inner).followedBy Opens.closeBrace
    simpa using whole

/-- A body is a level part. -/
theorem leavesLevel_dropBody (text : Text) : LeavesLevel text (dropBody text) := by
  obtain ⟨body, shape, parted⟩ := exists_dropBody text
  exact ⟨body, parted, level_of_isMethodBody shape⟩

/-- A semicolon or nothing is a level part. -/
theorem leavesLevel_dropSemicolon (text : Text) : LeavesLevel text (dropSemicolon text) := by
  obtain ⟨semicolon, rfl | rfl, parted⟩ := exists_dropSemicolon text
  · exact ⟨[], parted, Level.nil⟩
  · exact ⟨[';'], parted, Level.of_all (by decide)⟩

/-- Nothing and a comment hold no brace before a comment. -/
theorem beforeComment_of_isComment {text : Text} (comment : isComment text = true) :
    beforeComment text = [] := by
  unfold isComment at comment
  split at comment
  · rfl
  · rfl
  · contradiction

/-- What may end a method line balances. -/
theorem braceBalance_of_isTrailer {text : Text} (ends : isTrailer text = true) :
    braceBalance (beforeComment text) = 0 := by
  have body := (leavesLevel_skipBlanks text).trans (leavesLevel_dropBody text.skipBlanks)
  have semicolon := (leavesLevel_skipBlanks (dropBody text.skipBlanks)).trans
    (leavesLevel_dropSemicolon (dropBody text.skipBlanks).skipBlanks)
  have whole := (body.trans semicolon).trans (leavesLevel_skipBlanks _)
  rw [whole.braceBalance_beforeComment, beforeComment_of_isComment ends]
  rfl

/-- A line that is read as a method does not change the depth. -/
theorem depthChange_of_ofLine? {line : Text} {method : Method}
    (read : ofLine? line = some method) : depthChange line = 0 := by
  obtain ⟨_, trailer, leaves, ends⟩ := of_ofLine? read
  have front : LeavesLevel line trailer := .of_leaves leaves fun _ => isPlain_of_isMethodCharacter
  have code : LineKind.ofLine line ≠ .comment := by
    rw [LineKind.ofLine_of_method read]
    simp
  rw [depthChange, if_neg code, front.braceBalance_beforeComment, braceBalance_of_isTrailer ends]

end Method

end ProtoInterfaces
