import ProtoInterfaces.Proofs.Rendering.LeftOutLines
import ProtoInterfaces.Proofs.Schema.Version

/-!
# Option statements

A line that begins with the word `option` is left out whatever follows the word, and each further
line of an option statement exactly if it would be anywhere else. A statement on one line may be
taken out of a schema without a change of its document, unless the version of the schema is stated
around it or lines are ended by carriage returns alone.
-/
namespace ProtoInterfaces

open SyntaxVersion

/-- A text that begins with a whole word begins with its characters. -/
theorem exists_of_beginsWithWord {word text : Text} (begins : beginsWithWord word text = true) :
    ∃ rest, text = word ++ rest := by
  unfold beginsWithWord at begins
  split at begins
  · rename_i rest found
    exact ⟨rest, Text.after?_eq_some_iff.mp found⟩
  · contradiction

/-- No `syntax` statement stands on a line that begins with `option`. -/
theorem halts_of_option {line : Text}
    (begins : beginsWithWord "option".toList line.skipBlanks = true) : halts line = true := by
  obtain ⟨lead, whole, blanks⟩ := Text.leaves_skipBlanks line
  obtain ⟨rest, skipped⟩ := exists_of_beginsWithWord begins
  have plain : ∀ c ∈ lead ++ "opt".toList, isStatementCharacter c = true := by
    intro c member
    rcases List.mem_append.mp member with blank | letter
    · simp [isStatementCharacter, blanks c blank]
    · exact List.all_eq_true.mp (by decide : "opt".toList.all isStatementCharacter = true) c letter
  have parted : line = (lead ++ "opt".toList) ++ 'i' :: ("on".toList ++ rest) := by
    rw [whole, skipped, List.append_assoc]
    rfl
  rw [parted]
  exact halts_append plain (by decide) (by decide) _

/-- **An option statement is removed line by line.** Whichever lines follow a line that begins with
`option`, the document is that of the lines around all of them, under the version and the unit of
the whole, exactly if each following line is left out by itself. Where every line break ends with a
line feed, the version is that of the lines around them if no `syntax` statement begins on a
following line or runs across their place, and then a statement on one line makes no difference
at all. -/
theorem option_statement_removed_line_by_line (options : Options) {text rest line : Text}
    {before others after : List Text} (divided : text.lines = before ++ line :: others ++ after)
    (remaining : rest.lines = before ++ after)
    (begins : beginsWithWord "option".toList line.skipBlanks = true) :
    (documentLines options text =
        renderedLines options (detect text) (unitOf text.lines) rest.lines ↔
      ∀ other ∈ others, isLeftOut options other = true) ∧
    (Text.isLineFed text = true → Text.isLineFed rest = true → runsAcross before after = false →
      (beginsAmong others after = false → detect text = detect rest) ∧
        (others = [] → renderDocument options text = renderDocument options rest)) := by
  have stated : isStatement line = true := by rw [isStatement, begins, Bool.or_true]
  have removed : documentLines options text =
      renderedLines options (detect text) (unitOf text.lines) rest.lines ↔
        ∀ other ∈ others, isLeftOut options other = true := by
    have first : isLeftOut options line = true := by simp [isLeftOut, stated]
    rw [documentLines_eq_renderedLines, divided, remaining, renderedLines_removed_iff,
      List.forall_mem_cons, and_iff_right first]
  refine ⟨removed, fun fed alsoFed apart => ?_⟩
  have version (unstated : beginsAmong others after = false) : detect text = detect rest :=
    detect_removed divided remaining fed alsoFed (halts_of_option begins) unstated apart
  refine ⟨version, ?_⟩
  rintro rfl
  have unit : unitOf text.lines = unitOf rest.lines := by
    rw [divided, remaining, List.append_assoc]
    exact unitOf_removed stated before after
  have document : documentLines options text = documentLines options rest := by
    rw [removed.mpr (by simp), documentLines_eq_renderedLines, version rfl, unit]
  rw [renderDocument, renderDocument, document]

/-- An option statement on one line. -/
def packageOption : Text := "option java_package = \"a.b\";".toList

/-- A schema with an option statement on one line has the document that it has without it. -/
theorem option_statement_of_one_line :
    let before := ["syntax = \"proto3\";".toList]
    let after := ["message A \x7b".toList, "  string name = 1;".toList, ['}']]
    let text := Text.joinLines (before ++ [packageOption] ++ after)
    let rest := Text.joinLines (before ++ after)
    beginsWithWord "option".toList (Text.skipBlanks packageOption) = true ∧
      renderDocument {} text = renderDocument {} rest := by
  intro before after text rest
  have begins : beginsWithWord "option".toList (Text.skipBlanks packageOption) = true := by decide
  have divided : text.lines = before ++ [packageOption] ++ after := by decide +kernel
  have remaining : rest.lines = before ++ after := by decide +kernel
  obtain ⟨_, same⟩ := option_statement_removed_line_by_line {} divided remaining begins
  exact ⟨begins, (same (by decide +kernel) (by decide +kernel) (by decide +kernel)).2 rfl⟩

/-- The lines of an option statement with a value over several lines. -/
def aggregateOption : List Text :=
  ["option (google.api.http) = \x7b".toList, "  get: \"/v1/x\"".toList, "\x7d;".toList]

/-- An option statement with a value over several lines is not removed: the lines of its value are
written, a brace that closes nothing among them. A line of a value may state a version, a statement
on one line keeps a version from being read if it stands within the statement of the version,
and so does one before it if carriage returns alone end the lines. -/
theorem aggregate_option_not_removed :
    let message := ["message A \x7b".toList, "  string n = 1;".toList, ['}']]
    let value := ["option a = \x7b".toList, "syntax = \"proto3\";".toList, "\x7d;".toList]
    let inside := ["syntax =".toList, "option a = 1;".toList, "\"proto3\";".toList]
    let first := ["option a = 1;".toList, "syntax = \"proto3\";".toList]
    renderDocument {} (Text.joinLines (aggregateOption ++ message)) =
        ⟨"  get: \"/v1/x\"\n\x7d\nexport interface A \x7b\n  n: string\n\x7d".toList,
          [.about .fieldLine "get: \"/v1/x\"".toList]⟩ ∧
      renderDocument {} (Text.joinLines message) =
        ⟨"export interface A \x7b\n  n: string\n\x7d".toList, []⟩ ∧
      detect (Text.joinLines value) = .proto3 ∧ detect [] = .proto2 ∧
      detect (Text.joinLines inside) = .proto2 ∧
      detect (Text.joinLines (inside.eraseIdx 1)) = .proto3 ∧
      detect (Text.join ['\r'] first) = .proto2 ∧
      detect (Text.join ['\r'] first.tail) = .proto3 := by
  decide +kernel

end ProtoInterfaces
