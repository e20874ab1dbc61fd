import ProtoInterfaces.Proofs.Rendering.BlockComments
import ProtoInterfaces.Proofs.Rendering.Versions

/-!
# Comment lines among others

If comments are not kept, a comment line is left out wherever it stands, and the lines around it are
written as without it but for two things that are told from the whole schema. If it is the first
line that is indented, its indentation is the unit by which the lines after a package are moved; and
a statement of the version that runs across its place is not read with the comment in it.
-/
namespace ProtoInterfaces

open SyntaxVersion

/-- **A comment line matters to the version and the unit of indentation alone.** If comments are not
kept, a schema with one comment line more is warned about in the same way, and it gives the same
document exactly if, first, the version is the same or no line is a field without a label, and,
second, the unit is the same or no line but blank ones is written after a package. The unit is the
indentation of the comment if the comment is indented and no line before it that is no statement is,
and otherwise that of the schema without it. Where every line break ends with a line feed, the
version is the same if no statement runs across the place of the comment. -/
theorem comment_line_matters_to_version_and_unit_only {options : Options}
    (uncommented : options.keepComments = false) {text longer comment : Text}
    {before after : List Text} (divided : text.lines = before ++ after)
    (inserted : longer.lines = before ++ comment :: after)
    (kind : LineKind.ofLine comment = .comment) :
    (renderDocument options longer).warnings = (renderDocument options text).warnings ∧
    (renderDocument options longer = renderDocument options text ↔
      (detect longer = detect text ∨
        ∀ line ∈ text.lines, isStatement line = true ∨ isUnlabelledField line = false) ∧
      (unitOf longer.lines = unitOf text.lines ∨ ∀ entry ∈ keptLines options text.lines,
        packageBefore text.lines entry.2 = true → LineKind.ofLine entry.1 = .blank)) ∧
    (unitOf longer.lines =
      if givesUnit comment && !before.any givesUnit then indentOf comment else unitOf text.lines) ∧
    (Text.isLineFed longer = true → Text.isLineFed text = true → runsAcross before after = false →
      detect longer = detect text) := by
  have leftOut : isLeftOut options comment = true := by
    simp [isLeftOut, Options.skips, kind, uncommented]
  have whole : longer.lines = before ++ [comment] ++ after := by
    rw [inserted, List.append_assoc]
    rfl
  have written : documentLines options longer =
      renderedLines options (detect longer) (unitOf longer.lines) text.lines := by
    rw [divided, documentLines_removed_iff whole]
    intro line member
    rw [List.mem_singleton.mp member, leftOut]
  have blanks (lines : List Text) : ∀ c ∈ unitOf lines, isBlank c = true :=
    fun _ => isBlank_of_mem_unitOf
  refine ⟨?_, ?_, ?_, fun fed alsoFed apart => ?_⟩
  · rw [renderDocument, renderDocument_warnings, written]
    exact warningsAbout_version options _ _ _
  · rw [renderDocument_eq_iff, written, documentLines_eq_renderedLines,
      renderedLines_eq_iff (blanks _) (blanks _)]
    rw [written, documentLines_eq_renderedLines]
    exact length_renderedLines options _ _ _ _ _
  · rw [inserted, divided, unitOf_insert]
  · exact detect_removed whole divided fed alsoFed (halts_of_comment kind) rfl apart

/-- The lines of a schema with a package, before a place for a comment and after it. -/
def packagedLines : List Text × List Text :=
  (["syntax = \"proto3\";".toList, "package a;".toList, "message A \x7b".toList,
    "  string n = 1;".toList], [['}']])

/-- A comment after the first indented line of the schema does not change its document, though it is
indented otherwise. -/
theorem comment_line_in_packagedLines :
    let comment := "\t* The end.".toList
    let text := Text.joinLines (packagedLines.1 ++ packagedLines.2)
    let longer := Text.joinLines (packagedLines.1 ++ comment :: packagedLines.2)
    LineKind.ofLine comment = .comment ∧ givesUnit comment = true ∧
      renderDocument {} longer = renderDocument {} text := by
  intro comment text longer
  have kind : LineKind.ofLine comment = .comment := by decide
  have divided : text.lines = packagedLines.1 ++ packagedLines.2 := by decide +kernel
  have inserted : longer.lines = packagedLines.1 ++ comment :: packagedLines.2 := by
    decide +kernel
  have uncommented : ({} : Options).keepComments = false := rfl
  obtain ⟨_, document, unit, version⟩ :=
    comment_line_matters_to_version_and_unit_only uncommented divided inserted kind
  have earlier : (givesUnit comment && !packagedLines.1.any givesUnit) = false := by
    decide +kernel
  rw [if_neg (by simp [earlier])] at unit
  have same := version (by decide +kernel) (by decide +kernel) (by decide +kernel)
  exact ⟨kind, by decide, document.mpr ⟨.inl same, .inl unit⟩⟩

/-- A comment line that is left out does change documents: the first indented line of a schema with
a package gives its indentation to all that follow the package, and a comment within the statement
of a version hides the version. -/
theorem comment_line_changes_unit_or_version :
    let message := ["message A \x7b".toList, "  string n = 1;".toList, ['}']]
    let package := "package a;".toList :: message
    let marked := "package a;".toList :: "\t// note".toList :: message
    let stated := "syntax =".toList :: "\"proto3\";".toList :: message
    let parted := "syntax =".toList :: "// note".toList :: "\"proto3\";".toList :: message
    LineKind.ofLine "\t// note".toList = .comment ∧ LineKind.ofLine "// note".toList = .comment ∧
      (renderDocument {} (Text.joinLines package)).text =
        "export namespace A \x7b\n  export interface A \x7b\n    n: string\n  \x7d\n\x7d".toList ∧
      (renderDocument {} (Text.joinLines marked)).text =
        "export namespace A \x7b\n\texport interface A \x7b\n\t  n: string\n\t\x7d\n\x7d".toList ∧
      (renderDocument {} (Text.joinLines stated)).text =
        "\"proto3\";\nexport interface A \x7b\n  n?: string\n\x7d".toList ∧
      (renderDocument {} (Text.joinLines parted)).text =
        "\"proto3\";\nexport interface A \x7b\n  n: string\n\x7d".toList := by
  decide +kernel

end ProtoInterfaces
