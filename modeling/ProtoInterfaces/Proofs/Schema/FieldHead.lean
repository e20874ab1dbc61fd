import ProtoInterfaces.Proofs.Schema.Line
import ProtoInterfaces.Proofs.Text.Wording
import ProtoInterfaces.Schema.Field

/-!
# How a field begins

A line declares a field exactly if it begins with the head of one, which ends with the first digit
of the number; what follows does not matter. A head is taken apart into its words and the blanks
between them. The words before the equality sign are the label, if there is one, the type and the
name, so no line begins with the heads of two fields, and a word that reads like a label is a type
exactly if a single word follows it before the sign.
-/
namespace ProtoInterfaces

/-- The parts of the head of a field. -/
structure FieldHead where
  /-- Blanks before the field. -/
  lead : Text
  /-- The label and the blanks after it, if there is a label. -/
  label : Option (Cardinality × Text)
  /-- The type. -/
  type : Text
  /-- Blanks between type and name. -/
  gap : Text
  /-- The name. -/
  name : Text
  /-- Blanks before the equality sign. -/
  space : Text
  /-- Blanks before the number. -/
  margin : Text
  /-- The first digit of the number. -/
  digit : Char
  leadBlank : ∀ c ∈ lead, isBlank c = true
  labelGap : ∀ found ∈ label, found.2 ≠ [] ∧ ∀ c ∈ found.2, isBlank c = true
  typeHolds : type ≠ []
  typeNamed : ∀ c ∈ type, isTypeCharacter c = true
  gapHolds : gap ≠ []
  gapBlank : ∀ c ∈ gap, isBlank c = true
  nameHolds : name ≠ []
  nameWord : ∀ c ∈ name, isWordCharacter c = true
  spaceBlank : ∀ c ∈ space, isBlank c = true
  marginBlank : ∀ c ∈ margin, isBlank c = true
  digitDecimal : isDecimalDigit digit = true

/-- The words that make a line something else than a field when they stand first. -/
def keywords : List Text :=
  ["message".toList, "service".toList, "rpc".toList, "package".toList]

/-- A word that could name a type and is no keyword makes a line a field. -/
theorem LineKind.ofFirst_of_named {word : Text} (named : ∀ c ∈ word, isTypeCharacter c = true)
    (plain : word ∉ keywords) : ofFirst word = .field := by
  have uncommented : opensComment word = false := by
    cases word with
    | nil => rfl
    | cons c word =>
      cases opens : opensComment (c :: word) with
      | false => rfl
      | true =>
        have typed := named c List.mem_cons_self
        rcases head_of_opensComment opens with rfl | rfl
        · exact absurd typed (by decide)
        · exact absurd typed (by decide)
  have unclosed : ['}'].isPrefixOf word = false := by
    cases word with
    | nil => rfl
    | cons c word =>
      have differ : '}' ≠ c := (Text.ne_of_class (named c List.mem_cons_self) (by decide)).symm
      rw [List.isPrefixOf_cons_cons, beq_eq_false_iff_ne.mpr differ, Bool.false_and]
  simp only [keywords, List.mem_cons, List.not_mem_nil, or_false, not_or] at plain
  obtain ⟨message, service, rpc, package⟩ := plain
  rw [ofFirst, uncommented, unclosed, if_neg (by simp), if_neg (by simp), if_neg message,
    if_neg service, if_neg rpc, if_neg package]

/-- No decimal digit is blank. -/
theorem solid_of_isDecimalDigit {c : Char} (digit : isDecimalDigit c = true) :
    isBlank c = false := by
  have apart : CodeRanges.apart decimalDigitRanges blankRanges = true := by decide +kernel
  exact CodeRanges.contain_eq_false_of_apart apart digit

namespace Cardinality

/-- A label is not empty. -/
theorem label_ne_nil (cardinality : Cardinality) : cardinality.label ≠ [] := by
  cases cardinality <;> decide

/-- A label could be the name of a type. -/
theorem named_label (cardinality : Cardinality) :
    ∀ c ∈ cardinality.label, isTypeCharacter c = true := by
  cases cardinality <;> exact List.all_eq_true.mp (by decide)

/-- A label holds no blanks. -/
theorem solid_label (cardinality : Cardinality) : ∀ c ∈ cardinality.label, isBlank c = false :=
  Text.solid_of_named cardinality.named_label

/-- No two cardinalities have one label. -/
theorem label_inj {cardinality other : Cardinality} :
    cardinality.label = other.label ↔ cardinality = other := by
  cases cardinality <;> cases other <;> decide

/-- A text begins with one label at most. -/
theorem eq_of_label_append {cardinality other : Cardinality} {rest more : Text}
    (same : cardinality.label ++ rest = other.label ++ more) : cardinality = other := by
  have eight (cardinality : Cardinality) : cardinality.label.length = 8 := by
    cases cardinality <;> decide
  have lengths : cardinality.label.length = other.label.length := by rw [eight, eight]
  exact label_inj.mp (List.append_inj same lengths).1

/-- What follows a label is read exactly if the label and a gap stand at the beginning. -/
theorem afterLabel?_eq_some_iff {cardinality found : Cardinality} {text rest : Text} :
    cardinality.afterLabel? text = some (found, rest) ↔ found = cardinality ∧
      (∃ gap, gap ≠ [] ∧ text = cardinality.label ++ (gap ++ rest) ∧ ∀ c ∈ gap, isBlank c = true) ∧
        ∀ c ∈ rest.head?, isBlank c = false := by
  simp only [afterLabel?, bind, pure, Option.bind_eq_some_iff, Text.after?_eq_some_iff,
    Text.skipBlanks1?_eq_some_iff, Option.some.injEq, Prod.mk.injEq]
  constructor
  · rintro ⟨more, rfl, later, ⟨⟨gap, filled, rfl, blanks⟩, solid⟩, rfl, rfl⟩
    exact ⟨rfl, ⟨gap, filled, rfl, blanks⟩, solid⟩
  · rintro ⟨rfl, ⟨gap, filled, rfl, blanks⟩, solid⟩
    exact ⟨gap ++ rest, rfl, rest, ⟨⟨gap, filled, rfl, blanks⟩, solid⟩, rfl, rfl⟩

/-- The label that a text begins with is the only one that is looked for. -/
theorem readLabel?_append (cardinality : Cardinality) (rest : Text) :
    readLabel? (cardinality.label ++ rest) = cardinality.afterLabel? (cardinality.label ++ rest) := by
  have other {different : Cardinality} (differs : different ≠ cardinality) :
      different.afterLabel? (cardinality.label ++ rest) = none := by
    rw [Option.eq_none_iff_forall_ne_some]
    rintro ⟨found, later⟩ read
    obtain ⟨_, ⟨gap, _, parted, _⟩, _⟩ := afterLabel?_eq_some_iff.mp read
    exact differs (eq_of_label_append parted).symm
  simp only [readLabel?, List.findSome?_cons, List.findSome?_nil]
  cases cardinality with
  | required =>
    rw [other (by decide : Cardinality.optional ≠ .required),
      other (by decide : Cardinality.repeated ≠ .required)]
    cases afterLabel? .required _ <;> rfl
  | optional =>
    rw [other (by decide : Cardinality.required ≠ .optional),
      other (by decide : Cardinality.repeated ≠ .optional)]
    cases afterLabel? .optional _ <;> rfl
  | repeated =>
    rw [other (by decide : Cardinality.required ≠ .repeated),
      other (by decide : Cardinality.optional ≠ .repeated)]
    cases afterLabel? .repeated _ <;> rfl

/-- A label is read exactly if it and a gap stand at the beginning. -/
theorem readLabel?_eq_some_iff {cardinality : Cardinality} {text rest : Text} :
    readLabel? text = some (cardinality, rest) ↔
      (∃ gap, gap ≠ [] ∧ text = cardinality.label ++ (gap ++ rest) ∧ ∀ c ∈ gap, isBlank c = true) ∧
        ∀ c ∈ rest.head?, isBlank c = false := by
  constructor
  · intro read
    obtain ⟨other, _, found⟩ := List.exists_of_findSome?_eq_some read
    obtain ⟨rfl, parted⟩ := afterLabel?_eq_some_iff.mp found
    exact parted
  · intro parted
    obtain ⟨⟨gap, _, rfl, _⟩, _⟩ := id parted
    rw [readLabel?_append]
    exact afterLabel?_eq_some_iff.mpr ⟨rfl, parted⟩

end Cardinality

namespace FieldHead

/-- The label as a text, with the blanks after it. -/
def labelText (head : FieldHead) : Text :=
  match head.label with
  | some (cardinality, gap) => cardinality.label ++ gap
  | none => []

/-- What stands before the equality sign. -/
def front (head : FieldHead) : Text :=
  head.lead ++ (head.labelText ++ (head.type ++ (head.gap ++ (head.name ++ head.space))))

/-- The head as a text. -/
def text (head : FieldHead) : Text := head.front ++ '=' :: (head.margin ++ [head.digit])

/-- The cardinality that the label gives or, without one, the version. -/
def cardinality (head : FieldHead) (version : SyntaxVersion) : Cardinality :=
  match head.label, version with
  | some (labelled, _), _ => labelled
  | none, .proto3 => .optional
  | none, .proto2 => .required

/-- The field that the head declares under a version. -/
def field (head : FieldHead) (version : SyntaxVersion) : Field :=
  ⟨head.name, head.type, head.cardinality version⟩

/-- The head without its label and the blanks before it. -/
def bare (head : FieldHead) : FieldHead :=
  { head with
    lead := []
    label := none
    leadBlank := fun _ member => absurd member List.not_mem_nil
    labelGap := fun _ found => nomatch found }

/-- The first word of the head. -/
def firstWord (head : FieldHead) : Text :=
  (head.label.map fun found => found.1.label).getD head.type

variable (head : FieldHead)

/-- A label gives the cardinality. -/
theorem cardinality_of_label {found : Cardinality × Text} (labelled : head.label = some found)
    (version : SyntaxVersion) : head.cardinality version = found.1 := by
  simp [cardinality, labelled]

/-- Without a label the version gives the cardinality. -/
theorem cardinality_of_none (unlabelled : head.label = none) (version : SyntaxVersion) :
    head.cardinality version = Cardinality.unlabelled version := by
  cases version <;> simp [cardinality, unlabelled, Cardinality.unlabelled]

/-- The head without its label as a text. -/
theorem text_bare : head.bare.text = head.type ++ (head.gap ++ (head.name ++ (head.space ++
    '=' :: (head.margin ++ [head.digit])))) := by
  simp [text, front, labelText, bare]

/-- Blanks and the label stand before the rest of the head. -/
theorem text_eq : head.text = head.lead ++ (head.labelText ++ head.bare.text) := by
  rw [text_bare]
  simp [text, front]

/-- The name is one that a type may have. -/
theorem nameNamed : ∀ c ∈ head.name, isTypeCharacter c = true :=
  Text.named_of_word head.nameWord

/-- The label is wording. -/
theorem wording_labelText : Text.IsWording head.labelText := by
  unfold labelText
  split
  · rename_i cardinality gap labelled
    exact (Text.IsWording.of_named cardinality.named_label).append
      (.of_blanks (head.labelGap _ labelled).2)
  · exact .of_blanks (by simp)

/-- What stands before the equality sign is wording. -/
theorem wording_front : Text.IsWording head.front := by
  have name := (Text.IsWording.of_word head.nameWord).append (.of_blanks head.spaceBlank)
  have type := (Text.IsWording.of_named head.typeNamed).append (.of_blanks head.gapBlank)
  rw [front, ← List.append_assoc head.type]
  exact (Text.IsWording.of_blanks head.leadBlank).append
    (head.wording_labelText.append (type.append name))

/-! ## Words before the sign -/

/-- The words before the equality sign are the label, if there is one, the type and the name. -/
theorem words_front : head.front.words =
    (head.label.map fun found => found.1.label).toList ++ [head.type, head.name] := by
  have parts : Text.words (head.type ++ (head.gap ++ (head.name ++ head.space))) =
      [head.type, head.name] := by
    rw [Text.words_append_gap head.typeHolds (Text.solid_of_named head.typeNamed) head.gapHolds
        head.gapBlank,
      Text.words_append_of_solid head.nameHolds (Text.solid_of_named head.nameNamed)
        (fun c first => head.spaceBlank c (List.mem_of_mem_head? first)),
      Text.words_of_blanks head.spaceBlank]
  rw [front, Text.words_append_of_blanks head.leadBlank, labelText]
  cases labelled : head.label with
  | none => exact parts
  | some found =>
    obtain ⟨cardinality, gap⟩ := found
    obtain ⟨filled, blanks⟩ := head.labelGap _ labelled
    rw [List.append_assoc, Text.words_append_gap cardinality.label_ne_nil cardinality.solid_label
      filled blanks, parts]
    rfl

/-- A line that begins with a head has the front of that head before its first equality sign. -/
theorem takeWhile_of_begins {line : Text} (begins : head.text <+: line) :
    line.takeWhile (fun c => c ≠ '=') = head.front := by
  obtain ⟨more, rfl⟩ := begins
  have absent : ∀ c ∈ head.front, decide (c ≠ '=') = true := by
    intro c member
    have other : '=' ∉ head.front := head.wording_front.not_mem (by decide) (by decide)
    exact decide_eq_true fun same => other (same ▸ member)
  rw [text, List.append_assoc, List.takeWhile_append_of_pos absent, List.cons_append,
    List.takeWhile_cons_of_neg (by decide), List.append_nil]

/-- The words before the first equality sign of a line that begins with a head. -/
theorem words_of_begins {line : Text} (begins : head.text <+: line) :
    Text.words (line.takeWhile fun c => c ≠ '=') =
      (head.label.map fun found => found.1.label).toList ++ [head.type, head.name] := by
  rw [head.takeWhile_of_begins begins, head.words_front]

/-- A line begins with the heads of no two fields: label, type and name are told from its words. -/
theorem parts_eq {head other : FieldHead} {line : Text} (begins : head.text <+: line)
    (alsoBegins : other.text <+: line) :
    head.label.map Prod.fst = other.label.map Prod.fst ∧ head.type = other.type ∧
      head.name = other.name := by
  have same := (head.words_of_begins begins).symm.trans (other.words_of_begins alsoBegins)
  cases labelled : head.label <;> cases alsoLabelled : other.label <;>
    simp only [labelled, alsoLabelled, Option.map_none, Option.map_some, Option.toList_none,
      Option.toList_some, List.nil_append, List.cons_append, List.cons.injEq, List.cons_ne_nil,
      List.ne_cons_self, and_true, and_false, Cardinality.label_inj] at same
  · exact ⟨rfl, same⟩
  · exact ⟨congrArg some same.1, same.2⟩

/-! ## The kind of a line with a head -/

/-- The first word of a head could be the name of a type. -/
theorem named_firstWord : head.firstWord ≠ [] ∧
    ∀ c ∈ head.firstWord, isTypeCharacter c = true := by
  unfold firstWord
  cases head.label with
  | some found => exact ⟨found.1.label_ne_nil, found.1.named_label⟩
  | none => exact ⟨head.typeHolds, head.typeNamed⟩

/-- The first word of a head is the first word of a line that begins with it. -/
theorem exists_words_eq {line : Text} (begins : head.text <+: line) :
    ∃ others, line.words = head.firstWord :: others := by
  obtain ⟨holds, named⟩ := head.named_firstWord
  have solid : ∀ c ∈ head.firstWord, isBlank c = false := Text.solid_of_named named
  obtain ⟨more, rfl⟩ := begins
  rw [text_eq, List.append_assoc, Text.words_append_of_blanks head.leadBlank, labelText, text_bare]
  unfold firstWord at holds solid ⊢
  cases labelled : head.label with
  | some found =>
    obtain ⟨filled, blanks⟩ := head.labelGap _ labelled
    rw [labelled] at holds solid
    simp only [List.append_assoc]
    exact ⟨_, Text.words_append_gap holds solid filled blanks _⟩
  | none =>
    rw [labelled] at holds solid
    simp only [List.append_assoc, List.nil_append]
    exact ⟨_, Text.words_append_gap holds solid head.gapHolds head.gapBlank _⟩

/-- A line that begins with a head may be a field exactly if its first word is no keyword. -/
theorem ofLine_eq_field_iff {line : Text} (begins : head.text <+: line) :
    LineKind.ofLine line = .field ↔ head.firstWord ∉ keywords := by
  obtain ⟨others, words⟩ := head.exists_words_eq begins
  rw [LineKind.ofLine, words, LineKind.ofWords_cons]
  constructor
  · intro kind keyword
    have other : ∀ word ∈ keywords, LineKind.ofFirst word ≠ .field := by decide
    exact other _ keyword kind
  · exact LineKind.ofFirst_of_named head.named_firstWord.2

end FieldHead

/-! ## Reading -/

namespace Field

/-- A number follows exactly if a sign and a digit do, blanks set aside. -/
theorem isNumbered_iff {text : Text} :
    isNumbered text = true ↔ ∃ space margin digit more,
      text = space ++ '=' :: (margin ++ digit :: more) ∧ (∀ c ∈ space, isBlank c = true) ∧
        (∀ c ∈ margin, isBlank c = true) ∧ isDecimalDigit digit = true := by
  constructor
  · intro numbered
    unfold isNumbered at numbered
    split at numbered
    · rename_i rest signed
      split at numbered
      · rename_i digit more found
        obtain ⟨⟨space, rfl, spaceBlank⟩, _⟩ := Text.skipBlanks_eq_iff.mp signed
        obtain ⟨⟨margin, rfl, marginBlank⟩, _⟩ := Text.skipBlanks_eq_iff.mp found
        exact ⟨space, margin, digit, more, rfl, spaceBlank, marginBlank, numbered⟩
      · contradiction
    · contradiction
  · rintro ⟨space, margin, digit, more, rfl, spaceBlank, marginBlank, decimal⟩
    have sign := Text.skipBlanks_append spaceBlank (by decide : isBlank '=' = false)
      (margin ++ digit :: more)
    have number := Text.skipBlanks_append marginBlank (solid_of_isDecimalDigit decimal) more
    simp only [isNumbered, sign, number, decimal]

/-- Type and name are read exactly if the text begins with a head that has them. -/
theorem readTypeAndName?_eq_some_iff {text type name : Text} :
    readTypeAndName? text = some (type, name) ↔ ∃ head : FieldHead,
      head.bare.text <+: text ∧ head.type = type ∧ head.name = name := by
  simp only [readTypeAndName?, bind, Option.bind_eq_some_iff, Prod.exists,
    Text.takeRun?_eq_some_iff, Text.skipBlanks1?_eq_some_iff]
  constructor
  · rintro ⟨_, _, ⟨rfl, typeHolds, typeNamed, _⟩, _, ⟨⟨gap, gapHolds, rfl, gapBlank⟩, _⟩, _, _,
      ⟨rfl, nameHolds, nameWord, _⟩, read⟩
    split at read
    · rename_i numbered
      obtain ⟨space, margin, digit, more, rfl, spaceBlank, marginBlank, decimal⟩ :=
        isNumbered_iff.mp numbered
      obtain ⟨rfl, rfl⟩ := Prod.mk.inj (Option.some.inj read)
      refine ⟨⟨[], none, _, gap, _, space, margin, digit, by simp, by simp, typeHolds,
        typeNamed, gapHolds, gapBlank, nameHolds, nameWord, spaceBlank, marginBlank, decimal⟩,
        ⟨more, ?_⟩, rfl, rfl⟩
      simp [FieldHead.text_bare]
    · contradiction
  · rintro ⟨head, ⟨more, rfl⟩, rfl, rfl⟩
    let rest := head.space ++ '=' :: (head.margin ++ head.digit :: more)
    have numbered : isNumbered rest = true :=
      isNumbered_iff.mpr ⟨_, _, _, _, rfl, head.spaceBlank, head.marginBlank, head.digitDecimal⟩
    have parted : head.bare.text ++ more = head.type ++ (head.gap ++ (head.name ++ rest)) := by
      simp [FieldHead.text_bare, rest]
    have typeEnds : ∀ c ∈ (head.gap ++ (head.name ++ rest)).head?, isTypeCharacter c = false :=
      Text.head?_append_of_ne_nil head.gapHolds (Text.unnamed_of_blanks head.gapBlank) _
    have gapEnds : ∀ c ∈ (head.name ++ rest).head?, isBlank c = false :=
      Text.head?_append_of_ne_nil head.nameHolds (Text.solid_of_named head.nameNamed) _
    have nameEnds : ∀ c ∈ rest.head?, isWordCharacter c = false :=
      Text.head?_append_cons_of (Text.unworded_of_blanks head.spaceBlank) (by decide) _
    refine ⟨head.type, _, ⟨parted, head.typeHolds, head.typeNamed, typeEnds⟩, _,
      ⟨⟨head.gap, head.gapHolds, rfl, head.gapBlank⟩, gapEnds⟩, head.name, rest,
      ⟨rfl, head.nameHolds, head.nameWord, nameEnds⟩, ?_⟩
    rw [if_pos numbered]

/-- A text that begins with the head of a field without its label begins with no blank. -/
theorem solid_of_bare {head : FieldHead} {text : Text} (begins : head.bare.text <+: text) :
    ∀ c ∈ text.head?, isBlank c = false := by
  obtain ⟨more, rfl⟩ := begins
  rw [head.text_bare, List.append_assoc]
  exact Text.head?_append_of_ne_nil head.typeHolds (Text.solid_of_named head.typeNamed) _

/-- A field with a label is read exactly if the line begins with a head that has the label. -/
theorem readLabelled?_eq_some_iff {line : Text} {field : Field} :
    readLabelled? line.skipBlanks = some field ↔ ∃ head : FieldHead, head.text <+: line ∧
      ∃ cardinality gap, head.label = some (cardinality, gap) ∧
        field = ⟨head.name, head.type, cardinality⟩ := by
  simp only [readLabelled?, bind, pure, Option.bind_eq_some_iff, Prod.exists, Option.some.injEq,
    Cardinality.readLabel?_eq_some_iff, readTypeAndName?_eq_some_iff]
  constructor
  · rintro ⟨cardinality, rest, ⟨⟨gap, filled, parted, blanks⟩, _⟩, _, _, ⟨head, ⟨more, begins⟩, rfl,
      rfl⟩, rfl⟩
    obtain ⟨⟨lead, line_eq, leadBlank⟩, _⟩ := Text.skipBlanks_eq_iff.mp parted
    refine ⟨{ head with
      lead := lead
      label := some (cardinality, gap)
      leadBlank := leadBlank
      labelGap := ?_ }, ⟨more, ?_⟩, cardinality, gap, rfl, rfl⟩
    · rintro _ ⟨⟩
      exact ⟨filled, blanks⟩
    · rw [line_eq, ← begins, FieldHead.text_eq]
      simp [FieldHead.labelText, FieldHead.text_bare]
  · rintro ⟨head, ⟨more, begins⟩, cardinality, gap, labelled, rfl⟩
    obtain ⟨filled, blanks⟩ := head.labelGap _ labelled
    have whole : line = head.lead ++ (cardinality.label ++ (gap ++ (head.bare.text ++ more))) := by
      rw [← begins, head.text_eq]
      simp [FieldHead.labelText, labelled]
    have skipped : line.skipBlanks = cardinality.label ++ (gap ++ (head.bare.text ++ more)) := by
      rw [whole]
      exact Text.skipBlanks_append_of_solid head.leadBlank cardinality.label_ne_nil
        cardinality.solid_label _
    have bare : head.bare.text <+: head.bare.text ++ more := List.prefix_append _ _
    exact ⟨cardinality, _, ⟨⟨gap, filled, skipped, blanks⟩, solid_of_bare bare⟩, _, _,
      ⟨head, bare, rfl, rfl⟩, rfl⟩

/-- Type and name are read first in a line exactly if it begins with a head without a label. -/
theorem readUnlabelled?_eq_some_iff {version : SyntaxVersion} {line : Text} {field : Field} :
    readUnlabelled? version line.skipBlanks = some field ↔ ∃ head : FieldHead,
      head.text <+: line ∧ head.label = none ∧ field = head.field version := by
  simp only [readUnlabelled?, bind, pure, Option.bind_eq_some_iff, Prod.exists, Option.some.injEq,
    readTypeAndName?_eq_some_iff]
  constructor
  · rintro ⟨_, _, ⟨head, ⟨more, begins⟩, rfl, rfl⟩, rfl⟩
    obtain ⟨⟨lead, line_eq, leadBlank⟩, _⟩ := Text.skipBlanks_eq_iff.mp begins.symm
    refine ⟨{ head.bare with
      lead := lead
      leadBlank := leadBlank }, ⟨more, ?_⟩, rfl, ?_⟩
    · rw [line_eq, FieldHead.text_eq]
      simp [FieldHead.labelText, FieldHead.bare]
    · rw [FieldHead.field, FieldHead.cardinality_of_none _ rfl]
      rfl
  · rintro ⟨head, ⟨more, begins⟩, unlabelled, rfl⟩
    have skipped : line.skipBlanks = head.bare.text ++ more := by
      refine Text.skipBlanks_eq_iff.mpr
        ⟨⟨head.lead, ?_, head.leadBlank⟩, solid_of_bare (List.prefix_append _ _)⟩
      rw [← begins, head.text_eq]
      simp [FieldHead.labelText, unlabelled]
    refine ⟨_, _, ⟨head, ⟨more, skipped.symm⟩, rfl, rfl⟩, ?_⟩
    rw [FieldHead.field, head.cardinality_of_none unlabelled]

/-- **A field is read exactly if the line begins with its head.** -/
theorem ofLine?_eq_some_iff {version : SyntaxVersion} {line : Text} {field : Field} :
    ofLine? version line = some field ↔
      ∃ head : FieldHead, head.text <+: line ∧ field = head.field version := by
  constructor
  · intro read
    unfold ofLine? at read
    split at read
    · rename_i labelled
      obtain rfl := Option.some.inj read
      obtain ⟨head, begins, cardinality, gap, found, rfl⟩ := readLabelled?_eq_some_iff.mp labelled
      refine ⟨head, begins, ?_⟩
      rw [FieldHead.field, head.cardinality_of_label found]
    · obtain ⟨head, begins, _, rfl⟩ := readUnlabelled?_eq_some_iff.mp read
      exact ⟨head, begins, rfl⟩
  · rintro ⟨head, begins, rfl⟩
    cases labelled : head.label with
    | some found =>
      have read := readLabelled?_eq_some_iff.mpr ⟨head, begins, _, _, labelled, rfl⟩
      rw [ofLine?, read, FieldHead.field, head.cardinality_of_label labelled]
    | none =>
      -- A type that reads like a label is not taken as one: the same line would have two heads.
      have unread : readLabelled? line.skipBlanks = none := by
        rw [Option.eq_none_iff_forall_ne_some]
        intro field read
        obtain ⟨other, alsoBegins, _, _, found, _⟩ := readLabelled?_eq_some_iff.mp read
        have same := (FieldHead.parts_eq begins alsoBegins).1
        rw [labelled, found] at same
        contradiction
      rw [ofLine?, unread]
      exact readUnlabelled?_eq_some_iff.mpr ⟨head, begins, labelled, rfl⟩

end Field

/-- **A line declares a field exactly if it begins with the head of one, and with that of one field
only.** Label, type and name of the head are those of the field, the version gives the cardinality
if there is no label, and the field is a scalar one exactly if its type is. A word at the beginning
that reads like a label is the type exactly if a single word follows it before the sign. -/
theorem field_read_iff_begins_with_head (version : SyntaxVersion) (line : Text) :
    (∀ field, Field.ofLine? version line = some field ↔
      ∃ head : FieldHead, head.text <+: line ∧ field = head.field version) ∧
    (∀ head other : FieldHead, head.text <+: line → other.text <+: line →
      head.label.map Prod.fst = other.label.map Prod.fst ∧ head.type = other.type ∧
        head.name = other.name) ∧
    ∀ head : FieldHead, head.text <+: line →
      ((head.field version).isScalar = true ↔ ∃ scalar : ScalarType, head.type = scalar.name) ∧
      ∀ (cardinality : Cardinality) (others : List Text),
        Text.words (line.takeWhile fun c => c ≠ '=') = cardinality.label :: others →
          (head.label = none ∧ head.type = cardinality.label ↔ others.length = 1) := by
  refine ⟨fun field => Field.ofLine?_eq_some_iff, fun head other begins alsoBegins =>
    FieldHead.parts_eq begins alsoBegins, fun head begins => ⟨isScalarName_iff, ?_⟩⟩
  intro cardinality others divided
  rw [head.words_of_begins begins] at divided
  cases labelled : head.label with
  | none =>
    rw [labelled] at divided
    obtain ⟨type, rfl⟩ := List.cons.inj divided
    exact ⟨fun _ => rfl, fun _ => ⟨rfl, type⟩⟩
  | some found =>
    rw [labelled] at divided
    obtain ⟨_, rfl⟩ := List.cons.inj divided
    exact ⟨fun unlabelled => absurd unlabelled.1 (by simp), fun single => absurd single (by simp)⟩

/-- A word that reads like a label is read as the type before a single further word, whatever blanks
stand around it and whatever follows the first digit. -/
theorem labelWord_read_as_type :
    let line : Text := "\toptional\u00A0 repeated=\u2003\u0663abc; repeated int32 x = 1;".toList
    Field.ofLine? .proto3 line = some ⟨"repeated".toList, "optional".toList, .optional⟩ ∧
      (∃ head : FieldHead, head.text <+: line ∧ head.type = Cardinality.optional.label ∧
        ¬ ∃ scalar : ScalarType, head.type = scalar.name) ∧
      ∀ other : FieldHead, other.text <+: line → other.label = none := by
  intro line
  obtain ⟨read, unique, parts⟩ := field_read_iff_begins_with_head .proto3 line
  have declared : Field.ofLine? .proto3 line =
      some ⟨"repeated".toList, "optional".toList, .optional⟩ := by decide +kernel
  obtain ⟨head, begins, same⟩ := (read _).mp declared
  obtain ⟨scalar, type⟩ := parts head begins
  have divided : Text.words (line.takeWhile fun c => c ≠ '=') =
      Cardinality.optional.label :: ["repeated".toList] := by decide
  obtain ⟨unlabelled, named⟩ := (type .optional _ divided).mpr rfl
  refine ⟨declared, ⟨head, begins, named, fun found => ?_⟩, fun other alsoBegins => ?_⟩
  · have counted := scalar.mpr found
    rw [← same] at counted
    exact absurd counted (by decide)
  · have labels := (unique other head alsoBegins begins).1
    rw [unlabelled] at labels
    exact Option.map_eq_none_iff.mp labels

end ProtoInterfaces
