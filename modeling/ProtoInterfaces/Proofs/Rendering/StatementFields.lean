import ProtoInterfaces.Proofs.Rendering.LineByLine
import ProtoInterfaces.Proofs.Schema.FieldHead

/-!
# Fields that read like statements

A line is taken for a statement by the word at its beginning, which ends before a full stop. A field
without a label begins with its type, so it is removed with the statements exactly if the outermost
part of the type is a word that begins a statement, whatever the rest of the type is. A field with a
label is never removed.
-/
namespace ProtoInterfaces

/-- The words that begin a statement about the schema as a whole. -/
def statementWords : List Text := ["syntax".toList, "option".toList]

/-- The outermost part of a type name: the name of a package or message around the others, or the
whole name if it has a single part. -/
def outermost (type : Text) : Text := type.takeWhile fun c => c ≠ '.'

/-- A text begins with a whole word exactly if its word characters at the beginning are the word. -/
theorem beginsWithWord_iff {word : Text} (inside : ∀ c ∈ word, isWordCharacter c = true)
    {text : Text} : beginsWithWord word text = true ↔ text.takeWhile isWordCharacter = word := by
  constructor
  · intro begins
    unfold beginsWithWord at begins
    split at begins
    · rename_i rest found
      rw [Text.after?_eq_some_iff] at found
      have ends : ∀ c ∈ rest.head?, isWordCharacter c = false := by
        intro c first
        cases rest with
        | nil => contradiction
        | cons d rest =>
          obtain rfl := Option.some.inj first
          simpa [endsWord] using begins
      rw [found]
      exact (Text.span_append inside ends).1
    · contradiction
  · rintro rfl
    have parted : text.takeWhile isWordCharacter ++ text.dropWhile isWordCharacter = text :=
      List.takeWhile_append_dropWhile
    have found := Text.after?_eq_some_iff.mpr parted.symm
    have ends := Text.head?_dropWhile_outside isWordCharacter text
    rw [beginsWithWord, found]
    cases left : text.dropWhile isWordCharacter with
    | nil => rfl
    | cons c rest =>
      rw [left] at ends
      simpa [endsWord] using ends c rfl

/-- A line is a statement exactly if the word at its beginning begins one. -/
theorem isStatement_iff_word {line : Text} :
    isStatement line = true ↔ line.skipBlanks.takeWhile isWordCharacter ∈ statementWords := by
  have syntaxWord : ∀ c ∈ "syntax".toList, isWordCharacter c = true :=
    List.all_eq_true.mp (by decide)
  have optionWord : ∀ c ∈ "option".toList, isWordCharacter c = true :=
    List.all_eq_true.mp (by decide)
  rw [isStatement, Bool.or_eq_true, beginsWithWord_iff syntaxWord, beginsWithWord_iff optionWord,
    statementWords, List.mem_pair]

/-- The word at the beginning of a type name is the outermost part of the name. -/
theorem takeWhile_isWordCharacter {type rest : Text}
    (named : ∀ c ∈ type, isTypeCharacter c = true) (ends : ∀ c ∈ rest.head?, isBlank c = true) :
    (type ++ rest).takeWhile isWordCharacter = outermost type := by
  induction type with
  | nil =>
    have stops : ∀ c ∈ rest.head?, isWordCharacter c = false :=
      fun c first => isWordCharacter_eq_false_of_isBlank (ends c first)
    exact (Text.span_append (fun c member => absurd member List.not_mem_nil) stops).1
  | cons c type ih =>
    obtain ⟨first, others⟩ := List.forall_mem_cons.mp named
    by_cases stop : c = '.'
    · subst stop
      rfl
    · have word : isWordCharacter c = true := by simpa [isTypeCharacter, stop] using first
      rw [List.cons_append, List.takeWhile_cons_of_pos word, ih others, outermost, outermost,
        List.takeWhile_cons_of_pos (by simp [stop])]

/-- A line that begins with the head of a field is a statement exactly if the field has no label and
the outermost part of its type is a word that begins a statement. -/
theorem FieldHead.isStatement_iff {head : FieldHead} {line : Text} (begins : head.text <+: line) :
    isStatement line = true ↔ head.label = none ∧ outermost head.type ∈ statementWords := by
  obtain ⟨others, words⟩ := head.exists_words_eq begins
  obtain ⟨rest, skipped, _, ends⟩ := Text.exists_append_of_words_eq_cons words
  rw [isStatement_iff_word, skipped,
    takeWhile_isWordCharacter head.named_firstWord.2 ends]
  unfold firstWord
  cases labelled : head.label with
  | none => simp
  | some found =>
    have plain : ∀ cardinality : Cardinality, outermost cardinality.label ∉ statementWords := by
      intro cardinality
      cases cardinality <;> decide
    simpa using plain found.1

/-- **A field is removed with the statements exactly if it reads like one.** Where a line declares a
field, the line is kept if the field has a label or if the outermost part of its type is neither
`syntax` nor `option`, and otherwise the removal mark stands in its place. -/
theorem field_kept_iff {text line : Text} {place : Nat} {version : SyntaxVersion} {field : Field}
    (stands : text.lines[place]? = some line)
    (declared : Field.ofLine? version line = some field) :
    ∃ head : FieldHead, head.text <+: line ∧ field = head.field version ∧
      ((withoutStatements text)[place]? = some line ↔
        head.label ≠ none ∨ outermost field.type ∉ statementWords) ∧
      ((withoutStatements text)[place]? = some line ∨
        (withoutStatements text)[place]? = some removalMark) := by
  obtain ⟨head, begins, rfl⟩ := Field.ofLine?_eq_some_iff.mp declared
  have entry : (withoutStatements text)[place]? =
      some (if isStatement line then removalMark else line) := by
    rw [withoutStatements, List.getElem?_map, stands, Option.map_some]
  have differs : removalMark ≠ line := by
    rintro rfl
    have unread : Field.ofLine? version removalMark = none := by
      cases version <;> decide
    rw [unread] at declared
    contradiction
  have removed := head.isStatement_iff begins
  have kept : head.label ≠ none ∨ outermost head.type ∉ statementWords ↔
      isStatement line = false := by
    rw [← Bool.not_eq_true, removed, not_and_or]
  refine ⟨head, begins, rfl, ?_⟩
  change (_ ↔ head.label ≠ none ∨ outermost head.type ∉ statementWords) ∧ _
  rw [entry, kept]
  cases isStatement line with
  | true => simp [differs]
  | false => simp

/-- A field is kept if its type lies in a scope around the one that reads like a statement, or if a
label stands before the type. -/
theorem nested_option_field_kept :
    let nested : Text := "\tgame.option.Level level = 1; // option".toList
    let labelled : Text := "  repeated option.Level levels = 2;".toList
    let text := Text.joinLines [nested, labelled]
    text.lines[0]? = some nested ∧ text.lines[1]? = some labelled ∧
      Field.ofLine? .proto3 nested =
        some ⟨"level".toList, "game.option.Level".toList, .optional⟩ ∧
      Field.ofLine? .proto3 labelled =
        some ⟨"levels".toList, "option.Level".toList, .repeated⟩ ∧
      (withoutStatements text)[0]? = some nested ∧ (withoutStatements text)[1]? = some labelled := by
  intro nested labelled text
  have first : Field.ofLine? .proto3 nested =
      some ⟨"level".toList, "game.option.Level".toList, .optional⟩ := by decide +kernel
  have second : Field.ofLine? .proto3 labelled =
      some ⟨"levels".toList, "option.Level".toList, .repeated⟩ := by decide +kernel
  have firstLine : text.lines[0]? = some nested := by decide +kernel
  have secondLine : text.lines[1]? = some labelled := by decide +kernel
  obtain ⟨_, _, _, kept, _⟩ := field_kept_iff firstLine first
  obtain ⟨other, _, same, alsoKept, _⟩ := field_kept_iff secondLine second
  refine ⟨firstLine, secondLine, first, second, kept.mpr (.inr (by decide)),
    alsoKept.mpr (.inl fun unlabelled => ?_)⟩
  have cardinality := congrArg Field.cardinality same
  rw [FieldHead.field, other.cardinality_of_none unlabelled] at cardinality
  contradiction

/-- A field of a type in the scope `syntax` is removed, and the document goes without it and without
a warning. -/
theorem syntax_field_removed :
    let line : Text := "  syntax.Level level = 1;".toList
    let text := Text.joinLines ["message A \x7b".toList, line, ['}']]
    let field : Field := ⟨"level".toList, "syntax.Level".toList, .required⟩
    text.lines[1]? = some line ∧ Field.ofLine? .proto2 line = some field ∧
      field.type ∉ statementWords ∧ (withoutStatements text)[1]? = some removalMark ∧
      renderDocument {} text = ⟨"export interface A \x7b\n\x7d".toList, []⟩ := by
  decide +kernel

end ProtoInterfaces
