import ProtoInterfaces.Proofs.Rendering.LeftOutLines
import ProtoInterfaces.Proofs.Rendering.Streams
import ProtoInterfaces.Proofs.Rendering.Versions
import ProtoInterfaces.Proofs.Schema.Version

/-!
# Schemas with a version before them

A statement on a line before a schema decides its version, whatever statements the schema holds,
and does nothing else: it is left out and gives no unit of indentation. So the documents of a schema
after either statement are told apart by the version alone, and that shows in the fields without a
label, each of which becomes an optional property in the place of a required one.
-/
namespace ProtoInterfaces

/-- The statement of a version. -/
def SyntaxVersion.statement (version : SyntaxVersion) : Text :=
  "syntax = \"".toList ++ version.name ++ "\";".toList

/-- A schema after the statement of a version on a line of its own. -/
def withVersion (version : SyntaxVersion) (text : Text) : Text :=
  version.statement ++ '\n' :: text

/-- The line of a schema that a line of its document comes from, with the number of lines before it,
if it comes from one. -/
def sourceAt (options : Options) (lines : List Text) (place : Nat) : Option (Text × Nat) :=
  if place < (importLines options.stream lines).length then none
  else (keptLines options lines)[place - (importLines options.stream lines).length]?

/-! ## The statement -/

namespace SyntaxVersion

/-- The name of a version is read from its statement. -/
theorem nameInStatement?_statement (version : SyntaxVersion) :
    nameInStatement? version.statement = some version.name := by
  cases version <;> decide

/-- The statement of a version is a statement about the schema as a whole. -/
theorem isStatement_statement (version : SyntaxVersion) : isStatement version.statement = true := by
  cases version <;> decide

/-- The statement of a version stands on one line. -/
theorem unbroken_statement (version : SyntaxVersion) : Unbroken version.statement := by
  cases version <;> decide

/-- **The first statement decides**: a schema after the statement of a version is of that
version. -/
theorem detect_withVersion (version : SyntaxVersion) (text : Text) :
    detect (withVersion version text) = version :=
  detect_of_statedName?_eq_some (statedName?_of_nameInStatement?
    (nameInStatement?_append (nameInStatement?_statement version) ('\n' :: text)))

end SyntaxVersion

/-- The lines of a schema after the statement of a version. -/
theorem lines_withVersion (version : SyntaxVersion) (text : Text) :
    (withVersion version text).lines = version.statement :: text.lines :=
  Text.lines_append version.unbroken_statement (Text.lines_cons_lineFeed text)

/-- **A statement before a schema is no more than its version**: the document is that of the lines
of the schema under the version that is stated. -/
theorem documentLines_withVersion (options : Options) (version : SyntaxVersion) (text : Text) :
    documentLines options (withVersion version text) =
      renderedLines options version (unitOf text.lines) text.lines := by
  have stated := version.isStatement_statement
  have unit : unitOf (version.statement :: text.lines) = unitOf text.lines :=
    unitOf_removed stated [] text.lines
  have whole : (withVersion version text).lines = [] ++ [version.statement] ++ text.lines :=
    lines_withVersion version text
  have leftOut : ∀ line ∈ [version.statement], isLeftOut options line = true := by
    intro line member
    obtain rfl := List.mem_singleton.mp member
    simp [isLeftOut, stated]
  rw [(documentLines_removed_iff whole).mpr leftOut, SyntaxVersion.detect_withVersion,
    lines_withVersion, unit, List.nil_append]

/-! ## Lines of the document -/

section

variable (options : Options) {lines : List Text} {place : Nat}

/-- The lines that those of a schema become stand after the import. -/
theorem renderedLines_fst (version : SyntaxVersion) (lines : List Text) :
    (renderedLines options version (unitOf lines) lines).1 =
      importLines options.stream lines ++ (bodyLines options version lines ++ closingLines lines) :=
  rfl

/-- The line at the place of a field without a label is the property that the version says, after
the lead of its line. -/
theorem getElem?_renderedLines_of_unlabelled {entry : Text × Nat}
    (source : sourceAt options lines place = some entry)
    (unlabelled : isUnlabelledField entry.1 = true) :
    ∃ name type, ∀ version,
      Field.ofLine? version entry.1 = some ⟨name, type, Cardinality.unlabelled version⟩ ∧
      (renderedLines options version (unitOf lines) lines).1[place]? =
        some (leadOf lines entry ++
          Declaration.property ⟨name, type, Cardinality.unlabelled version⟩) := by
  obtain ⟨kind, name, type, read⟩ := Field.ofLine?_of_unlabelled unlabelled
  refine ⟨name, type, fun version => ⟨read version, ?_⟩⟩
  unfold sourceAt at source
  split at source
  · contradiction
  · rename_i after
    have becomes : (renderAlone options version lines entry).emission = .line (indentOf entry.1 ++
        Declaration.property ⟨name, type, Cardinality.unlabelled version⟩) := by
      rw [renderAlone, renderLine_of_field options _ kind (read version)]
      rfl
    rw [renderedLines_fst, List.getElem?_append_right (Nat.not_lt.mp after),
      getElem?_body options source,
      outputLine_eq_lead_append (Declaration.property_ne_nil _) becomes]

/-- The line at any other place is the same under every version. -/
theorem getElem?_renderedLines_of_labelled
    (labelled : ∀ entry, sourceAt options lines place = some entry →
      isUnlabelledField entry.1 = false) (version other : SyntaxVersion) :
    (renderedLines options version (unitOf lines) lines).1[place]? =
      (renderedLines options other (unitOf lines) lines).1[place]? := by
  rw [renderedLines_fst, renderedLines_fst]
  by_cases before : place < (importLines options.stream lines).length
  · rw [List.getElem?_append_left before, List.getElem?_append_left before]
  · have after := Nat.not_lt.mp before
    rw [List.getElem?_append_right after, List.getElem?_append_right after]
    rw [sourceAt, if_neg before] at labelled
    cases kept : (keptLines options lines)[place - (importLines options.stream lines).length]? with
    | none => rw [getElem?_body_of_none options kept, getElem?_body_of_none options kept]
    | some entry =>
      rw [getElem?_body options kept, getElem?_body options kept]
      have blanks : ∀ c ∈ unitOf lines, isBlank c = true := fun _ => isBlank_of_mem_unitOf
      rw [(outputLine_eq_iff version other blanks blanks (List.mem_of_getElem? kept)).mpr
        ⟨.inr (labelled entry kept), .inl rfl⟩]

end

/-- **The stated version decides over fields without a label alone.** The documents of a schema
after either statement are those of its lines under the two versions. They have as many lines and
the same warnings; a line that comes from a field without a label has one question mark more under
the third version, before the colon between name and type; every other line is the same. -/
theorem stated_version_decides_over_unlabelled_fields (options : Options) (text : Text) :
    let lines := text.lines
    let output (version : SyntaxVersion) : List Text :=
      (renderDocument options (withVersion version text)).text.splitOn '\n'
    (∀ version, documentLines options (withVersion version text) =
      renderedLines options version (unitOf lines) lines) ∧
    (output .proto2).length = (output .proto3).length ∧
    (renderDocument options (withVersion .proto2 text)).warnings =
      (renderDocument options (withVersion .proto3 text)).warnings ∧
    (∀ (place : Nat) (entry : Text × Nat), sourceAt options lines place = some entry →
      isUnlabelledField entry.1 = true → ∃ name type,
        Field.ofLine? .proto2 entry.1 = some ⟨name, type, .required⟩ ∧
        Field.ofLine? .proto3 entry.1 = some ⟨name, type, .optional⟩ ∧
        (output .proto2)[place]? = some (leadOf lines entry ++ Identifier.camel name ++
          ": ".toList ++ Declaration.typeOf type) ∧
        (output .proto3)[place]? = some (leadOf lines entry ++ Identifier.camel name ++
          ['?'] ++ ": ".toList ++ Declaration.typeOf type)) ∧
    (∀ place : Nat, (∀ entry, sourceAt options lines place = some entry →
        isUnlabelledField entry.1 = false) →
      (output .proto2)[place]? = (output .proto3)[place]?) := by
  intro lines output
  let written (version : SyntaxVersion) : List Text :=
    (renderedLines options version (unitOf lines) lines).1
  have document (version : SyntaxVersion) := documentLines_withVersion options version text
  have lengths : (written .proto2).length = (written .proto3).length :=
    length_renderedLines options .proto2 .proto3 _ _ lines
  have warnings : (renderDocument options (withVersion .proto2 text)).warnings =
      (renderDocument options (withVersion .proto3 text)).warnings := by
    rw [renderDocument, renderDocument, document, document]
    exact warningsAbout_version options .proto2 .proto3 lines
  -- An empty document splits into one empty piece, and it is empty under both versions or neither.
  have split (version : SyntaxVersion) :
      output version = if written version = [] then [[]] else written version := by
    change (renderDocument options (withVersion version text)).text.splitOn '\n' = _
    rw [splitOn_renderDocument, document]
  have empty : written .proto2 = [] ↔ written .proto3 = [] := by
    rw [← List.length_eq_zero_iff, ← List.length_eq_zero_iff, lengths]
  have stands {version : SyntaxVersion} {place : Nat} {line : Text}
      (found : (written version)[place]? = some line) : (output version)[place]? = some line := by
    rw [split, if_neg, found]
    exact List.ne_nil_of_mem (List.mem_of_getElem? found)
  refine ⟨document, ?_, warnings, ?_, ?_⟩
  · simp only [split, empty]
    split
    · rfl
    · exact lengths
  · intro place entry source unlabelled
    obtain ⟨name, type, becomes⟩ :=
      getElem?_renderedLines_of_unlabelled options source unlabelled
    refine ⟨name, type, (becomes .proto2).1, (becomes .proto3).1, stands ?_, stands ?_⟩
    · rw [(becomes .proto2).2]
      simp [Declaration.property, Declaration.optionalMark, Declaration.arrayMark,
        Cardinality.unlabelled]
    · rw [(becomes .proto3).2]
      simp [Declaration.property, Declaration.optionalMark, Declaration.arrayMark,
        Cardinality.unlabelled]
  · intro place labelled
    have same := getElem?_renderedLines_of_labelled options labelled .proto2 .proto3
    simp only [split, empty]
    split
    · rfl
    · exact same

end ProtoInterfaces
