import ProtoInterfaces.Proofs.Rendering.Versions
import ProtoInterfaces.Proofs.Schema.Version

/-!
# Documents under different line ends

A schema is divided into the same lines whatever ends them, so its document depends on the line
ends through its version alone. A version is looked for after line feeds: with a carriage return and
a line feed after each line it is found as with a line feed, and with carriage returns alone only a
statement at the very beginning of the schema is found. Nothing shows that but the fields without a
label.
-/
namespace ProtoInterfaces

open SyntaxVersion

namespace Text

/-- An unbroken text that is not empty is its only line. -/
theorem lines_eq_singleton {line : Text} (unbroken : Unbroken line) (holds : line ≠ []) :
    lines line = [line] := by
  induction line with
  | nil => exact absurd rfl holds
  | cons c line ih =>
    rw [lines_cons_plain (unbroken c List.mem_cons_self)]
    cases line with
    | nil => rfl
    | cons d line =>
      rw [ih (unbroken.of_subset (List.subset_cons_self c _)) (List.cons_ne_nil _ _), extendFirst]

/-- Joined lines hold the lines they were joined from, an empty one at the end set aside. -/
theorem mem_lines_join {ending : LineEnd} {lines : List Text}
    (unbroken : ∀ line ∈ lines, Unbroken line) {line : Text} (holds : line ≠ []) :
    line ∈ Text.lines (join ending.text lines) ↔ line ∈ lines := by
  induction lines with
  | nil => rfl
  | cons first lines ih =>
    cases lines with
    | nil =>
      cases first with
      | nil => simp [join, Text.lines, holds]
      | cons c first =>
        rw [join, lines_eq_singleton (unbroken _ List.mem_cons_self) (List.cons_ne_nil _ _)]
    | cons next lines =>
      rw [lines_join_cons_cons ending unbroken, List.mem_cons, List.mem_cons (a := line),
        ih fun other member => unbroken other (List.mem_cons_of_mem _ member)]

/-- Unbroken lines joined by carriage returns hold no line feed. -/
theorem noLineFeed_join {lines : List Text} (unbroken : ∀ line ∈ lines, Unbroken line) :
    '\n' ∉ join LineEnd.carriageReturn.text lines := by
  induction lines with
  | nil => exact List.not_mem_nil
  | cons line lines ih =>
    have first := (unbroken line List.mem_cons_self).noLineFeed
    cases lines with
    | nil => exact first
    | cons next lines =>
      have rest := ih fun other member => unbroken other (List.mem_cons_of_mem _ member)
      rw [join, List.mem_append, List.mem_append, not_or, not_or]
      · exact ⟨⟨first, by decide⟩, rest⟩
      · exact List.cons_ne_nil _ _

end Text

/-! ## The version -/

/-- The version of a schema is the same with either kind of line end that ends with a line feed. -/
theorem detect_join_carriageReturnLineFeed {lines : List Text}
    (unbroken : ∀ line ∈ lines, Unbroken line) :
    detect (Text.join LineEnd.carriageReturnLineFeed.text lines) =
      detect (Text.join LineEnd.lineFeed.text lines) := by
  apply detect_congr
  rw [statedName?_eq_statedAmong (Text.isLineFed_join (by decide) unbroken),
    statedName?_eq_statedAmong (Text.isLineFed_join (by decide) unbroken),
    Text.lines_join_congr .carriageReturnLineFeed .lineFeed unbroken]

/-- With carriage returns alone only a statement at the beginning of a schema is found. -/
theorem statedName?_join_carriageReturn {lines : List Text}
    (unbroken : ∀ line ∈ lines, Unbroken line) :
    statedName? (Text.join LineEnd.carriageReturn.text lines) =
      nameInStatement? (Text.join LineEnd.lineFeed.text lines) := by
  have gap (ending : LineEnd) := ending.blank
  have same := Text.condensed_join_congr (gap .carriageReturn).1 (gap .lineFeed).1
    (gap .carriageReturn).2 (gap .lineFeed).2 lines
  rw [statedName?, Text.lineStarts_eq_singleton (Text.noLineFeed_join unbroken),
    ← nameInStatement?_condensed (Text.join LineEnd.lineFeed.text lines), ← same,
    nameInStatement?_condensed, List.findSome?_singleton]

/-- The version of a schema is the same with carriage returns alone exactly if a statement stands at
its beginning or the schema is of the second version anyway. -/
theorem detect_join_carriageReturn_eq_iff {lines : List Text}
    (unbroken : ∀ line ∈ lines, Unbroken line) :
    detect (Text.join LineEnd.carriageReturn.text lines) =
        detect (Text.join LineEnd.lineFeed.text lines) ↔
      (nameInStatement? (Text.join LineEnd.lineFeed.text lines)).isSome = true ∨
        detect (Text.join LineEnd.lineFeed.text lines) = .proto2 := by
  have alone := statedName?_join_carriageReturn unbroken
  cases first : nameInStatement? (Text.join LineEnd.lineFeed.text lines) with
  | some name =>
    rw [first] at alone
    have stated := statedName?_of_nameInStatement? first
    simp [detect_congr (alone.trans stated.symm)]
  | none =>
    rw [first] at alone
    rw [detect_of_statedName?_eq_none alone]
    simp [eq_comm]

/-! ## The document -/

/-- A schema gives the same document with unified line ends, if carriage returns stand before line
feeds alone. -/
theorem renderDocument_unifyLineEnds (options : Options) {text : Text}
    (paired : Text.isPaired text = true) :
    renderDocument options text.unifyLineEnds = renderDocument options text :=
  (renderDocument_eq_iff_of_lines_eq options (Text.lines_unifyLineEnds text)).mpr
    (.inl (detect_unifyLineEnds paired))

/-- **Line ends matter to the version alone.** A schema gives the same document with a carriage
return and a line feed after its lines as with a line feed. With carriage returns alone it is warned
about the same lines, and it gives the same document exactly if a version is stated at its
beginning, or it is of the second version, or no line is a field without a label: a statement that
stands on a later line is not found. -/
theorem line_ends_matter_to_version_only (options : Options) {lines : List Text}
    (unbroken : ∀ line ∈ lines, Unbroken line) :
    let text (ending : LineEnd) : Text := Text.join ending.text lines
    let document (ending : LineEnd) : Rendering := renderDocument options (text ending)
    document .carriageReturnLineFeed = document .lineFeed ∧
      (document .carriageReturn).warnings = (document .lineFeed).warnings ∧
      (document .carriageReturn = document .lineFeed ↔
        (nameInStatement? (text .lineFeed)).isSome = true ∨
          detect (text .lineFeed) = .proto2 ∨
          ∀ line ∈ lines, isStatement line = true ∨ isUnlabelledField line = false) := by
  intro text document
  have divided (ending : LineEnd) : (text ending).lines = (text .lineFeed).lines :=
    Text.lines_join_congr ending .lineFeed unbroken
  refine ⟨?_, ?_, ?_⟩
  · exact (renderDocument_eq_iff_of_lines_eq options (divided .carriageReturnLineFeed)).mpr
      (.inl (detect_join_carriageReturnLineFeed unbroken))
  · rw [renderDocument_warnings, renderDocument_warnings, divided, warningsAbout_version]
  · have fields : (∀ line ∈ (text .carriageReturn).lines,
        isStatement line = true ∨ isUnlabelledField line = false) ↔
        ∀ line ∈ lines, isStatement line = true ∨ isUnlabelledField line = false := by
      apply forall_congr'
      intro line
      by_cases empty : line = []
      · subst empty
        have plain : isUnlabelledField [] = false := by decide
        simp [plain]
      · rw [Text.mem_lines_join unbroken empty]
    rw [renderDocument_eq_iff_of_lines_eq options (divided .carriageReturn),
      detect_join_carriageReturn_eq_iff unbroken, fields, or_assoc]

/-- A schema whose version is stated on its second line. -/
def lateVersionLines : List Text :=
  ["// header".toList, "syntax = \"proto3\";".toList, "message A \x7b".toList,
    "  string n = 1;".toList, ['}']]

/-- The schema gives the same document under the two line ends that end with a line feed, and
another one under carriage returns. -/
theorem line_ends_of_lateVersionLines :
    (∀ line ∈ lateVersionLines, Unbroken line) ∧
      renderDocument {} (Text.join LineEnd.carriageReturnLineFeed.text lateVersionLines) =
        renderDocument {} (Text.join LineEnd.lineFeed.text lateVersionLines) ∧
      renderDocument {} (Text.join LineEnd.carriageReturn.text lateVersionLines) ≠
        renderDocument {} (Text.join LineEnd.lineFeed.text lateVersionLines) := by
  have unbroken : ∀ line ∈ lateVersionLines, Unbroken line := by decide +kernel
  obtain ⟨both, _, alone⟩ := line_ends_matter_to_version_only {} unbroken
  refine ⟨unbroken, both, mt alone.mp ?_⟩
  decide +kernel

/-- Carriage returns alone hide the version that the schema states: its field becomes a required
property and not an optional one. -/
theorem carriage_returns_hide_version :
    ¬ ∀ (options : Options) (lines : List Text) (ending other : LineEnd),
      (∀ line ∈ lines, Unbroken line) →
        renderDocument options (Text.join ending.text lines) =
          renderDocument options (Text.join other.text lines) := by
  intro alike
  have same := alike {} lateVersionLines .carriageReturn .lineFeed (by decide +kernel)
  have differ : renderDocument {} (Text.join LineEnd.carriageReturn.text lateVersionLines) ≠
      renderDocument {} (Text.join LineEnd.lineFeed.text lateVersionLines) := by decide +kernel
  exact differ same

end ProtoInterfaces
