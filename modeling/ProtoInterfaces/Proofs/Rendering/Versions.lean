import ProtoInterfaces.Proofs.Rendering.Filtering
import ProtoInterfaces.Proofs.Rendering.LeftOutLines

/-!
# Versions and units of indentation

The version of a schema decides what a field without a label becomes, and nothing else: under the
second version its property is required, under the third it is optional. All other lines, and all
warnings, are the same under every version, so two versions give two renderings exactly if such a
field is kept. The unit of indentation decides how far the lines after a package are moved, so two
units give two renderings exactly if such a line is written and not empty.
-/
namespace ProtoInterfaces

/-- Whether a line declares a field without a label. -/
def isUnlabelledField (line : Text) : Bool :=
  LineKind.ofLine line = .field && (Field.readLabelled? line.skipBlanks).isNone &&
    (Field.readTypeAndName? line.skipBlanks).isSome

namespace Field

/-- The field that a line declares differs under two versions only in its cardinality, and not even
in that if the field has a label. -/
theorem ofLine?_eq (version : SyntaxVersion) (line : Text) :
    ofLine? version line = (readLabelled? line.skipBlanks).or
      ((readTypeAndName? line.skipBlanks).map fun parts =>
        ⟨parts.2, parts.1, Cardinality.unlabelled version⟩) := by
  unfold ofLine? readUnlabelled?
  cases readLabelled? line.skipBlanks with
  | some field => rfl
  | none => cases readTypeAndName? line.skipBlanks <;> rfl

/-- Whether a line declares a field does not depend on the version. -/
theorem isSome_ofLine?_congr (version other : SyntaxVersion) (line : Text) :
    (ofLine? version line).isSome = (ofLine? other line).isSome := by
  rw [ofLine?_eq, ofLine?_eq]
  simp

/-- A field with a label is the same under every version. -/
theorem ofLine?_congr {line : Text} (labelled : isUnlabelledField line = false)
    (kind : LineKind.ofLine line = .field) (version other : SyntaxVersion) :
    ofLine? version line = ofLine? other line := by
  rw [ofLine?_eq, ofLine?_eq]
  simp only [isUnlabelledField, kind, decide_true, Bool.true_and, Bool.and_eq_false_iff] at labelled
  rcases labelled with some | none
  · cases read : readLabelled? line.skipBlanks with
    | some field => rfl
    | none => simp [read] at some
  · cases read : readTypeAndName? line.skipBlanks with
    | some parts => simp [read] at none
    | none => rfl

/-- A field without a label has the same name and type under every version, and the cardinality that
the version says. -/
theorem ofLine?_of_unlabelled {line : Text} (unlabelled : isUnlabelledField line = true) :
    LineKind.ofLine line = .field ∧ ∃ name type, ∀ version,
      ofLine? version line = some ⟨name, type, Cardinality.unlabelled version⟩ := by
  simp only [isUnlabelledField, Bool.and_eq_true, decide_eq_true_eq, Option.isNone_iff_eq_none,
    Option.isSome_iff_exists] at unlabelled
  obtain ⟨⟨kind, none⟩, ⟨type, name⟩, read⟩ := unlabelled
  refine ⟨kind, name, type, fun version => ?_⟩
  rw [ofLine?_eq, none, read]
  rfl

end Field

namespace Declaration

/-- The property of an optional field is not that of a required one. -/
theorem property_ne (name type : Text) :
    property ⟨name, type, .required⟩ ≠ property ⟨name, type, .optional⟩ := by
  intro same
  have lengths := congrArg List.length same
  simp [property, optionalMark, arrayMark] at lengths

/-- No property begins with a blank. -/
theorem exists_property_eq_cons {field : Field} (named : field.Named) :
    ∃ c rest, property field = c :: rest ∧ isBlank c = false := by
  have solid : ∀ c ∈ Identifier.camel field.name, isBlank c = false := by
    intro c member
    cases blank : isBlank c with
    | false => rfl
    | true =>
      have inside := (Identifier.mem_of_mem_camel (isCaseless_of_isBlank blank) member).1
      have word := named.name c inside
      rw [isWordCharacter_eq_false_of_isBlank blank] at word
      contradiction
  unfold property
  cases camel : Identifier.camel field.name with
  | cons c rest => exact ⟨c, _, rfl, solid c (camel ▸ List.mem_cons_self)⟩
  | nil => cases field.cardinality <;> exact ⟨_, _, rfl, by decide⟩

/-- What stands behind blanks does not depend on how many they are. -/
theorem skipBlanks_append_property {lead : Text} (blanks : ∀ c ∈ lead, isBlank c = true)
    {field : Field} (named : field.Named) :
    Text.skipBlanks (lead ++ property field) = property field := by
  obtain ⟨c, rest, begins, solid⟩ := exists_property_eq_cons named
  rw [begins, Text.skipBlanks_append blanks solid]

end Declaration

/-- A line other than a field without a label becomes the same under every version. -/
theorem renderLine_of_labelled (options : Options) {line : Text}
    (labelled : isUnlabelledField line = false) (context : Context) (version : SyntaxVersion) :
    (renderLine options { context with version } line).emission =
      (renderLine options context line).emission := by
  simp only [renderLine, serviceInterfaceName]
  cases kind : LineKind.ofWords line.words with
  | method => cases Method.ofLine? line <;> rfl
  | field =>
    rw [Field.ofLine?_congr labelled kind version context.version]
    cases Field.ofLine? context.version line <;> rfl
  | blockClose => rfl
  | _ =>
    dsimp only
    split <;> rfl

/-- What a line is warned about does not depend on the version. -/
theorem renderLine_warning_version (options : Options) (context : Context)
    (version : SyntaxVersion) (line : Text) :
    (renderLine options { context with version } line).warning =
      (renderLine options context line).warning := by
  simp only [renderLine]
  cases LineKind.ofWords line.words with
  | method => cases Method.ofLine? line <;> rfl
  | field =>
    have same := Field.isSome_ofLine?_congr version context.version line
    cases read : Field.ofLine? version line <;>
      cases other : Field.ofLine? context.version line <;> simp_all [Step.keepUnread, Step.emit]
  | blockClose => rfl
  | _ =>
    dsimp only
    split <;> rfl

/-- The warnings about lines are the same under every version. -/
theorem warningsAbout_version (options : Options) (version other : SyntaxVersion)
    (lines : List Text) :
    warningsAbout options version lines = warningsAbout options other lines := by
  apply List.flatMap_congr
  intro entry _
  exact congrArg Option.toList (renderLine_warning_version options
    { version := other, packageDeclared := packageBefore lines entry.2 } version entry.1)

/-- Lines that are not empty stand alike under two units exactly if the units are the same, or they
stand outside the namespace. -/
theorem nested_eq_iff {unit other : Text} {inside : Bool} {line : Text} :
    nested unit inside line = nested other inside line ↔
      unit = other ∨ inside = false ∨ line.isEmpty = true := by
  unfold nested
  cases inside <;> cases line <;> simp

/-- The line of output that a field without a label becomes is not the same under two versions,
whatever the units. -/
theorem outputLine_ne_of_unlabelled {version other : SyntaxVersion} (differ : version ≠ other)
    {unit different : Text} (blanks : ∀ c ∈ unit, isBlank c = true)
    (alsoBlanks : ∀ c ∈ different, isBlank c = true) (options : Options) (lines : List Text)
    {entry : Text × Nat} (unlabelled : isUnlabelledField entry.1 = true) :
    outputLine options version unit lines entry ≠
      outputLine options other different lines entry := by
  obtain ⟨kind, name, type, read⟩ := Field.ofLine?_of_unlabelled unlabelled
  have behind {unit : Text} (blanks : ∀ c ∈ unit, isBlank c = true) (version : SyntaxVersion) :
      Text.skipBlanks (outputLine options version unit lines entry) =
        Declaration.property ⟨name, type, Cardinality.unlabelled version⟩ := by
    have indent : ∀ c ∈ indentOf entry.1, isBlank c = true := fun _ => isBlank_of_mem_indentOf
    have named := Field.named_of_ofLine? (read version)
    rw [outputLine, renderAlone, renderLine_of_field options _ kind (read version)]
    unfold nested
    split
    · rw [Step.emit, Emission.text, ← List.append_assoc]
      refine Declaration.skipBlanks_append_property (fun c member => ?_) named
      exact (List.mem_append.mp member).elim (blanks c) (indent c)
    · exact Declaration.skipBlanks_append_property indent named
  intro same
  have properties := congrArg Text.skipBlanks same
  rw [behind blanks, behind alsoBlanks] at properties
  have distinct := Declaration.property_ne name type
  cases version <;> cases other <;> simp_all [Cardinality.unlabelled, Ne.symm distinct]

/-- The line of output that a kept line becomes is the same under two versions and two units exactly
if the versions are the same or the line is no field without a label, and the units are the same or
the line stands outside the namespace or is blank. -/
theorem outputLine_eq_iff (version other : SyntaxVersion) {unit different : Text}
    (blanks : ∀ c ∈ unit, isBlank c = true) (alsoBlanks : ∀ c ∈ different, isBlank c = true)
    {options : Options} {lines : List Text} {entry : Text × Nat}
    (kept : entry ∈ keptLines options lines) :
    outputLine options version unit lines entry = outputLine options other different lines entry ↔
      (version = other ∨ isUnlabelledField entry.1 = false) ∧
        (unit = different ∨ packageBefore lines entry.2 = false ∨
          LineKind.ofLine entry.1 = .blank) := by
  by_cases plain : version = other ∨ isUnlabelledField entry.1 = false
  · have becomes : (renderAlone options version lines entry).emission =
        (renderAlone options other lines entry).emission := by
      rcases plain with rfl | labelled
      · rfl
      · exact renderLine_of_labelled options labelled
          { version := other, packageDeclared := packageBefore lines entry.2 } version
    rw [outputLine, outputLine, becomes, nested_eq_iff, isEmpty_renderAlone kept,
      and_iff_right plain, decide_eq_true_eq]
  · have differ := not_or.mp plain
    rw [Bool.not_eq_false] at differ
    simp [outputLine_ne_of_unlabelled differ.1 blanks alsoBlanks options lines differ.2, plain]

/-- No kept line is a field without a label exactly if no line is one but statements. -/
theorem labelled_keptLines_iff (options : Options) (lines : List Text) :
    (∀ entry ∈ keptLines options lines, isUnlabelledField entry.1 = false) ↔
      ∀ line ∈ lines, isStatement line = true ∨ isUnlabelledField line = false := by
  constructor
  · intro labelled line member
    by_contra neither
    simp only [not_or, Bool.not_eq_true, Bool.not_eq_false] at neither
    obtain ⟨unstated, unlabelled⟩ := neither
    have kind := (Field.ofLine?_of_unlabelled unlabelled).1
    have unmarked : line ≠ removalMark := by
      rintro rfl
      exact absurd unlabelled (by decide)
    obtain ⟨index, found⟩ := List.getElem?_of_mem member
    have kept : (line, index) ∈ keptLines options lines := by
      rw [mem_keptLines_iff]
      exact ⟨found, by simp [isLeftOut, Options.skips, kind, unstated, unmarked]⟩
    rw [labelled _ kept] at unlabelled
    contradiction
  · intro none entry kept
    obtain ⟨found, present⟩ := mem_keptLines_iff.mp kept
    apply (none entry.1 (List.mem_of_getElem? found)).resolve_left
    intro stated
    simp [isLeftOut, stated] at present

/-- **The lines of a document under two versions and two units are the same** exactly if the
versions are the same or no kept line is a field without a label, and the units are the same or no
line but blank ones is written after a package. -/
theorem renderedLines_eq_iff {version other : SyntaxVersion} {unit different : Text}
    (blanks : ∀ c ∈ unit, isBlank c = true) (alsoBlanks : ∀ c ∈ different, isBlank c = true)
    (options : Options) (lines : List Text) :
    renderedLines options version unit lines = renderedLines options other different lines ↔
      (version = other ∨ ∀ line ∈ lines, isStatement line = true ∨
        isUnlabelledField line = false) ∧
      (unit = different ∨ ∀ entry ∈ keptLines options lines,
        packageBefore lines entry.2 = true → LineKind.ofLine entry.1 = .blank) := by
  have each (entry : Text × Nat) (kept : entry ∈ keptLines options lines) :=
    outputLine_eq_iff version other blanks alsoBlanks kept
  rw [← labelled_keptLines_iff options, renderedLines, renderedLines, Prod.mk.injEq,
    and_iff_left (warningsAbout_version options version other lines),
    List.append_right_inj, List.append_left_inj, List.map_inj_left]
  constructor
  · intro same
    have both (entry : Text × Nat) (kept : entry ∈ keptLines options lines) :=
      (each entry kept).mp (same entry kept)
    refine ⟨or_iff_not_imp_left.mpr fun differ entry kept => ?_,
      or_iff_not_imp_left.mpr fun differ entry kept inside => ?_⟩
    · exact (both entry kept).1.resolve_left differ
    · exact ((both entry kept).2.resolve_left differ).resolve_left (by simp [inside])
  · rintro ⟨versions, units⟩ entry kept
    refine (each entry kept).mpr ⟨versions.imp_right fun labelled => labelled entry kept,
      units.imp_right fun blank => ?_⟩
    cases inside : packageBefore lines entry.2 with
    | false => exact .inl rfl
    | true => exact .inr (blank entry kept inside)

/-- A document has as many lines under either version and any unit. -/
theorem length_renderedLines (options : Options) (version other : SyntaxVersion)
    (unit different : Text) (lines : List Text) :
    (renderedLines options version unit lines).1.length =
      (renderedLines options other different lines).1.length := by
  simp [renderedLines]

/-- The warnings about a document are those about its lines. -/
theorem renderDocument_warnings (options : Options) (text : Text) :
    (renderDocument options text).warnings =
      warningsAbout options (SyntaxVersion.detect text) text.lines := by
  rw [renderDocument, documentLines_eq]

/-- Texts with the same lines give the same document exactly if they are of the same version or no
line is a field without a label. -/
theorem renderDocument_eq_iff_of_lines_eq (options : Options) {text other : Text}
    (same : text.lines = other.lines) :
    renderDocument options text = renderDocument options other ↔
      SyntaxVersion.detect text = SyntaxVersion.detect other ∨
        ∀ line ∈ text.lines, isStatement line = true ∨ isUnlabelledField line = false := by
  have blanks : ∀ c ∈ unitOf text.lines, isBlank c = true := fun _ => isBlank_of_mem_unitOf
  rw [renderDocument_eq_iff, documentLines_eq_renderedLines, documentLines_eq_renderedLines, ← same,
    renderedLines_eq_iff blanks blanks]
  · simp
  · rw [documentLines_eq_renderedLines, documentLines_eq_renderedLines, ← same]
    exact length_renderedLines options _ _ _ _ _

end ProtoInterfaces
