import ProtoInterfaces.Proofs.Rendering.LeftOutLines
import ProtoInterfaces.Proofs.Schema.Version

/-!
# Block comments

A line is told to be a comment from its own first word, so a block comment is not left out as a
whole: its first line is, and each further line exactly if it would be anywhere else. Under the same
condition the rest of the schema is written as without the comment. What its lines do to the
package, to streams and to the version is told from them likewise. Further lines that are blank or
begin as comments do nothing.
-/
namespace ProtoInterfaces

open SyntaxVersion

/-! ## The lines of a block comment -/

/-- What follows the first end of a comment in a text, if there is one. -/
def afterCommentEnd? : Text → Option Text
  | [] => none
  | '*' :: '/' :: rest => some rest
  | _ :: rest => afterCommentEnd? rest

/-- Whether a text and the lines after it hold the end of a comment at the end of the last of them
and nowhere else. -/
def endsComment (text : Text) : List Text → Bool
  | [] => afterCommentEnd? text = some []
  | line :: others => (afterCommentEnd? text).isNone && endsComment line others

/-- Whether a line and those after it are a block comment: the line begins one, and its first end is
all that the last line ends with. -/
def isBlockComment (line : Text) (others : List Text) : Bool :=
  match Text.after? ['/', '*'] line.skipBlanks with
  | some text => endsComment text others
  | none => false

/-- The end of a comment holds a star. -/
theorem mem_of_afterCommentEnd? {text rest : Text} (ended : afterCommentEnd? text = some rest) :
    '*' ∈ text := by
  fun_induction afterCommentEnd? text with
  | case1 => contradiction
  | case2 rest => exact List.mem_cons_self
  | case3 c text single ih => exact List.mem_cons_of_mem c (ih ended)

/-- The last line of a comment that goes on over several lines is not blank. -/
theorem mem_getLast?_of_endsComment {text line : Text} {others : List Text}
    (ends : endsComment text others = true) (last : others.getLast? = some line) : '*' ∈ line := by
  induction others generalizing text with
  | nil => contradiction
  | cons next others ih =>
    rw [endsComment, Bool.and_eq_true] at ends
    cases others with
    | nil =>
      obtain rfl := Option.some.inj last
      exact mem_of_afterCommentEnd? (of_decide_eq_true ends.2)
    | cons further others => exact ih ends.2 (by rwa [List.getLast?_cons_cons] at last)

/-- A block comment begins with a comment line. -/
theorem ofLine_of_isBlockComment {line : Text} {others : List Text}
    (comment : isBlockComment line others = true) : LineKind.ofLine line = .comment := by
  unfold isBlockComment at comment
  split at comment
  · rename_i text begun
    rw [Text.after?_eq_some_iff] at begun
    rw [← LineKind.ofLine_skipBlanks, begun, List.cons_append, LineKind.ofLine_cons (by decide),
      List.cons_append, List.takeWhile_cons_of_pos (by decide), LineKind.ofFirst_eq_comment_iff]
    simp [LineKind.opensComment]
  · contradiction

/-- No statement stands on a comment line. -/
theorem halts_of_comment {line : Text} (kind : LineKind.ofLine line = .comment) :
    halts line = true := by
  obtain ⟨lead, whole, blanks⟩ := Text.leaves_skipBlanks line
  have begun : ∃ c rest, line.skipBlanks = c :: rest ∧ (c = '/' ∨ c = '*') := by
    rw [← LineKind.ofLine_skipBlanks] at kind
    cases skipped : line.skipBlanks with
    | nil =>
      rw [skipped] at kind
      contradiction
    | cons c rest =>
      rw [skipped, LineKind.ofLine_cons (Text.head_skipBlanks skipped)] at kind
      exact ⟨c, rest, rfl, LineKind.head_of_opensComment (LineKind.ofFirst_eq_comment_iff.mp kind)⟩
  obtain ⟨c, rest, skipped, known⟩ := begun
  have plain : ∀ d ∈ lead, isStatementCharacter d = true := fun d member => by
    simp [isStatementCharacter, blanks d member]
  rw [whole, skipped]
  rcases known with rfl | rfl
  · exact halts_append plain (by decide) (by decide) rest
  · exact halts_append plain (by decide) (by decide) rest

/-- No statement begins on a further line of a block comment if each of them is blank or begins as a
comment. -/
theorem beginsAmong_of_isBlockComment {line : Text} {others : List Text}
    (comment : isBlockComment line others = true)
    (plain : ∀ other ∈ others, LineKind.ofLine other = .comment ∨ LineKind.ofLine other = .blank)
    (after : List Text) : beginsAmong others after = false := by
  apply beginsAmong_eq_false
  · intro other member
    rcases plain other member with kind | kind
    · exact .inl (halts_of_comment kind)
    · exact .inr fun c inside => LineKind.isBlank_of_blank kind inside
  · intro last found
    have star : '*' ∈ last := by
      unfold isBlockComment at comment
      split at comment
      · exact mem_getLast?_of_endsComment comment found
      · contradiction
    rcases plain last (List.mem_of_getLast? found) with kind | kind
    · exact halts_of_comment kind
    · have blank := LineKind.isBlank_of_blank kind star
      contradiction

/-! ## Documents with block comments -/

/-- **A block comment is left out line by line.** If comments are not kept, no line of a block
comment is written exactly if each line after its first is left out by itself, and then, and only
then, the document is that of the other lines under the version and the unit of the whole. The
comment does not change the context exactly if no line after its first declares a package or a
stream, unless one was declared before. Where every line break ends with a line feed it does not
change the version if no statement begins on a line after its first or runs across its place. If
those lines are blank or begin as comments, each of them is left out and declares and states
nothing. -/
theorem block_comment_left_out_line_by_line {options : Options}
    (uncommented : options.keepComments = false) {text rest line : Text}
    {before others after : List Text} (divided : text.lines = before ++ line :: others ++ after)
    (remaining : rest.lines = before ++ after) (comment : isBlockComment line others = true) :
    (∀ version, (passOver options version (before ++ line :: others)).output =
        (passOver options version before).output ↔
      ∀ other ∈ others, isLeftOut options other = true) ∧
    (∀ version, (passOver options version (before ++ line :: others)).context =
        (passOver options version before).context ↔
      (before.any declaresPackage = true ∨ others.any declaresPackage = false) ∧
        (before.any declaresStream = true ∨ others.any declaresStream = false)) ∧
    (documentLines options text =
        renderedLines options (detect text) (unitOf text.lines) rest.lines ↔
      ∀ other ∈ others, isLeftOut options other = true) ∧
    (Text.isLineFed text = true → Text.isLineFed rest = true → beginsAmong others after = false →
      runsAcross before after = false → detect text = detect rest) ∧
    ((∀ other ∈ others, LineKind.ofLine other = .comment ∨
        LineKind.ofLine other = .blank ∧ options.stripEmptyLines = true) →
      (∀ other ∈ others, isLeftOut options other = true) ∧
        others.any declaresPackage = false ∧ others.any declaresStream = false ∧
        beginsAmong others after = false) := by
  have kind := ofLine_of_isBlockComment comment
  have skipped : isLeftOut options line = true := by
    simp [isLeftOut, Options.skips, kind, uncommented]
  have first : (∀ other ∈ line :: others, isLeftOut options other = true) ↔
      ∀ other ∈ others, isLeftOut options other = true := by
    rw [List.forall_mem_cons, and_iff_right skipped]
  refine ⟨fun version => ?_, fun version => ?_, ?_, fun fed alsoFed unstated apart => ?_,
    fun plain => ?_⟩
  · rw [passOver_output_append_eq_iff, first]
  · obtain ⟨noPackage, noStream⟩ := declares_of_isLeftOut skipped
    rw [passOver_context_append_eq_iff, List.any_cons, List.any_cons, noPackage, noStream,
      Bool.false_or, Bool.false_or]
  · rw [documentLines_eq_renderedLines, divided, remaining, renderedLines_removed_iff, first]
  · exact detect_removed divided remaining fed alsoFed (halts_of_comment kind) unstated apart
  · have leftOut : ∀ other ∈ others, isLeftOut options other = true := by
      intro other member
      rcases plain other member with comment | ⟨blank, strips⟩
      · simp [isLeftOut, Options.skips, comment, uncommented]
      · simp [isLeftOut, Options.skips, blank, strips]
    refine ⟨leftOut, ?_, ?_, ?_⟩
    · rw [List.any_eq_false]
      intro other member
      simp [(declares_of_isLeftOut (leftOut other member)).1]
    · rw [List.any_eq_false]
      intro other member
      simp [(declares_of_isLeftOut (leftOut other member)).2]
    · exact beginsAmong_of_isBlockComment comment
        (fun other member => (plain other member).imp_right And.left) after

/-- The lines of a block comment after its first, blank or beginning as comments. -/
def starredComment : List Text := [" * The name,".toList, [], " * as it is written. */".toList]

/-- A schema with the comment becomes what it becomes without it, under the same version. -/
theorem block_comment_of_starredComment :
    let before := ["syntax = \"proto3\";".toList, "message A \x7b".toList]
    let after := ["  string name = 1;".toList, ['}']]
    let text := Text.joinLines (before ++ " /* Names:".toList :: starredComment ++ after)
    let rest := Text.joinLines (before ++ after)
    isBlockComment " /* Names:".toList starredComment = true ∧
      documentLines {} text =
        renderedLines {} (detect rest) (unitOf text.lines) rest.lines := by
  intro before after text rest
  have comment : isBlockComment " /* Names:".toList starredComment = true := by decide
  have divided : text.lines = before ++ " /* Names:".toList :: starredComment ++ after := by
    decide +kernel
  have remaining : rest.lines = before ++ after := by decide +kernel
  have uncommented : ({} : Options).keepComments = false := rfl
  obtain ⟨_, _, document, version, plain⟩ :=
    block_comment_left_out_line_by_line uncommented divided remaining comment
  obtain ⟨leftOut, _, _, unstated⟩ := plain (by decide)
  have same := version (by decide +kernel) (by decide +kernel) unstated (by decide +kernel)
  exact ⟨comment, same ▸ document.mpr leftOut⟩

/-- The lines of a block comment after its first, a schema among them. -/
def commentedSchema : List Text :=
  ["syntax = \"proto3\";".toList, "package old;".toList, "service Runs \x7b".toList,
    "  rpc Run (Go) returns (stream Go);".toList, "*/".toList]

/-- A schema in a block comment is read: lines are written for it, it declares a package and a
stream to the lines after it, and it states a version. Even a comment on one line keeps a version
from being read if it stands within a statement, or if carriage returns alone end the lines. -/
theorem block_comment_read_as_schema :
    let run := passOver {} .proto2 ("/*".toList :: commentedSchema)
    let inside := ["syntax =".toList, "/* a */".toList, "\"proto3\";".toList]
    let first := ["/* a */".toList, "syntax = \"proto3\";".toList]
    isBlockComment "/*".toList commentedSchema = true ∧
      run.output = #["export namespace Old \x7b".toList,
        "export interface RunsService \x7b".toList, "  run (go: Go): Stream".toList] ∧
      run.context = { version := .proto2, packageDeclared := true, usesStream := true } ∧
      detect (Text.joinLines ("/*".toList :: commentedSchema)) = .proto3 ∧ detect [] = .proto2 ∧
      detect (Text.joinLines inside) = .proto2 ∧
      detect (Text.joinLines (inside.eraseIdx 1)) = .proto3 ∧
      detect (Text.join ['\r'] first) = .proto2 ∧
      detect (Text.join ['\r'] first.tail) = .proto3 := by
  decide +kernel

end ProtoInterfaces
