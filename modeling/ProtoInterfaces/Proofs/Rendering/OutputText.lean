import ProtoInterfaces.Proofs.Declaration
import ProtoInterfaces.Proofs.Rendering.LineByLine
import ProtoInterfaces.Proofs.Text.Lines

/-!
# The text of a document

No line that is written holds a line break: lines of the schema hold none, and neither does what
they become, their indentation or the unit. So the text of a document, split at its line feeds,
gives the lines back that it was joined from.
-/
namespace ProtoInterfaces

/-- A declaration holds no line break. -/
theorem IsDeclaration.unbroken {text : Text} (declaration : IsDeclaration text) :
    Unbroken text := by
  intro c member
  by_contra breaks
  have foreign := isDeclarationCharacter_eq_false_of_isLineBreak (by simpa using breaks)
  exact Text.ne_of_class (declaration c member) foreign rfl

/-- The name that an unbroken line declares holds no line break. -/
theorem unbroken_declaredName {line : Text} (unbroken : Unbroken line) :
    Unbroken (declaredName line.words) :=
  unbroken.of_subset fun _ member => (mem_of_mem_declaredName member).1

/-- The name that an unbroken line declares holds no line break in upper camel case. -/
theorem unbroken_pascal {name : Text} (unbroken : Unbroken name) :
    Unbroken (Identifier.pascal name) := by
  intro c member
  by_contra breaks
  rw [Bool.not_eq_false] at breaks
  have caseless := isCaseless_of_isBlank (isBlank_of_isLineBreak breaks)
  have plain := unbroken c (Identifier.mem_of_mem_pascal caseless member).1
  rw [breaks] at plain
  contradiction

/-- Indentation is blank. -/
theorem isBlank_of_mem_indentOf {line : Text} {c : Char} (member : c ∈ indentOf line) :
    isBlank c = true := by
  rcases Indentation.eq_of_mem_text member with rfl | rfl <;> decide

/-- No indentation holds a line break. -/
theorem unbroken_indentOf (line : Text) : Unbroken (indentOf line) := by
  intro c member
  rcases Indentation.eq_of_mem_text member with rfl | rfl <;> decide

/-- The unit of indentation is that of some line, or two spaces. -/
theorem unitOf_eq (lines : List Text) :
    (∃ line, unitOf lines = indentOf line) ∨ unitOf lines = [' ', ' '] := by
  unfold unitOf
  cases (lines.filter fun line => !isStatement line).find? _ with
  | none => exact .inr rfl
  | some line => exact .inl ⟨line, rfl⟩

/-- The unit of indentation is blank. -/
theorem isBlank_of_mem_unitOf {lines : List Text} {c : Char} (member : c ∈ unitOf lines) :
    isBlank c = true := by
  rcases unitOf_eq lines with ⟨line, unit⟩ | unit
  · rw [unit] at member
    exact isBlank_of_mem_indentOf member
  · rw [unit] at member
    exact List.all_eq_true.mp (by decide : [' ', ' '].all isBlank = true) c member

/-- The unit of indentation holds no line break. -/
theorem unbroken_unitOf (lines : List Text) : Unbroken (unitOf lines) := by
  rcases unitOf_eq lines with ⟨line, unit⟩ | unit
  · rw [unit]
    exact unbroken_indentOf line
  · rw [unit]
    decide

/-- Whatever an unbroken line becomes holds no line break. -/
theorem LineRendering.unbroken {options : Options} {context : Context} {line content : Text}
    (ways : LineRendering options context line (.line content)) (whole : Unbroken line) :
    Unbroken content := by
  have indented {text : Text} (written : Unbroken text) : Unbroken (indentOf line ++ text) :=
    (unbroken_indentOf line).append written
  cases ways with
  | blank kind => exact (by decide : Unbroken [])
  | comment kind => exact whole
  | unread solid code undeclared => exact whole
  | blockClose kind => exact indented (by decide)
  | opening kind named role known =>
    apply indented
    have roleUnbroken : Unbroken role := by
      rcases known with rfl | rfl <;> decide
    have name := (unbroken_declaredName whole).append roleUnbroken
    have before : Unbroken "export interface ".toList := by decide
    have opened := (before.append name).append (by decide : Unbroken [' ', '{'])
    refine opened.append ?_
    split <;> decide
  | method method read =>
    have named := (Method.of_ofLine? read).1
    exact indented (IsDeclaration.signature options.stream named).unbroken
  | package declares =>
    apply indented
    have name := unbroken_pascal (unbroken_declaredName whole)
    have before : Unbroken "export namespace ".toList := by decide
    exact (before.append name).append (by decide)
  | field kind field read =>
    exact indented (IsDeclaration.property (Field.named_of_ofLine? read)).unbroken

/-- What a kept line becomes is one of the ways in which it is rendered. -/
theorem lineRendering_of_kept {options : Options} {line : Text} (context : Context)
    (kept : isLeftOut options line = false) :
    LineRendering options context line
      (.line (renderLine options context line).emission.text) := by
  simp only [isLeftOut, Bool.or_eq_false_iff] at kept
  obtain ⟨content, becomes⟩ := exists_emission_eq_line context kept.2
  have ways := lineRendering options context line
  rwa [becomes] at ways ⊢

/-- The line that a kept line becomes holds no line break. -/
theorem unbroken_outputLine {options : Options} {text : Text} {entry : Text × Nat}
    (kept : entry ∈ keptLines options text.lines) (version : SyntaxVersion) :
    Unbroken (outputLine options version (unitOf text.lines) text.lines entry) := by
  obtain ⟨found, present⟩ := mem_keptLines_iff.mp kept
  have whole : Unbroken entry.1 := Text.unbroken_of_mem_lines (List.mem_of_getElem? found)
  have content := (lineRendering_of_kept
    { version, packageDeclared := packageBefore text.lines entry.2 } present).unbroken whole
  unfold outputLine nested
  split
  · exact (unbroken_unitOf _).append content
  · exact content

/-- The lines around what the lines of a schema become. -/
theorem mem_header {behavior : StreamBehavior} {lines : List Text} {line : Text}
    (member : line ∈ importLines behavior lines ++ closingLines lines) :
    line ∈ ["import Stream from 'stream'".toList, "import Stream from 'ts-stream'".toList, [],
      ['}']] := by
  rcases List.mem_append.mp member with imported | closing
  · unfold importLines at imported
    split at imported
    · cases behavior with
      | strip => exact absurd imported List.not_mem_nil
      | native =>
        rcases List.mem_cons.mp imported with rfl | later
        · exact List.mem_cons_self
        · obtain rfl := List.mem_singleton.mp later
          exact List.mem_cons_of_mem _ (List.mem_cons_of_mem _ List.mem_cons_self)
      | generic =>
        rcases List.mem_cons.mp imported with rfl | later
        · exact List.mem_cons_of_mem _ List.mem_cons_self
        · obtain rfl := List.mem_singleton.mp later
          exact List.mem_cons_of_mem _ (List.mem_cons_of_mem _ List.mem_cons_self)
    · exact absurd imported List.not_mem_nil
  · unfold closingLines at closing
    split at closing
    · obtain rfl := List.mem_singleton.mp closing
      exact List.mem_of_elem_eq_true rfl
    · exact absurd closing List.not_mem_nil

/-- No line of a document holds a line break. -/
theorem unbroken_of_mem_documentLines {options : Options} {text line : Text}
    (member : line ∈ (documentLines options text).1) : Unbroken line := by
  have header (around : line ∈ importLines options.stream text.lines ++ closingLines text.lines) :
      Unbroken line := by
    have all : ∀ line ∈ ["import Stream from 'stream'".toList,
        "import Stream from 'ts-stream'".toList, [], ['}']], Unbroken line := by decide
    exact all line (mem_header around)
  rw [documentLines_eq] at member
  rcases List.mem_append.mp member with imported | later
  · exact header (List.mem_append_left _ imported)
  · rcases List.mem_append.mp later with body | closing
    · obtain ⟨entry, kept, rfl⟩ := List.mem_map.mp body
      exact unbroken_outputLine kept _
    · exact header (List.mem_append_right _ closing)

/-- The text of a document, split at its line feeds: the lines that it was joined from, and one
empty piece if there are none. -/
theorem splitOn_renderDocument (options : Options) (text : Text) :
    (renderDocument options text).text.splitOn '\n' =
      if (documentLines options text).1 = [] then [[]] else (documentLines options text).1 := by
  have joined : (renderDocument options text).text =
      Text.joinLines (documentLines options text).1 := rfl
  split
  · rename_i none
    rw [joined, none]
    rfl
  · rename_i some
    rw [joined, Text.splitOn_joinLines some fun _ => unbroken_of_mem_documentLines]

/-- Schemas whose documents have equally many lines have the same document exactly if all lines and
all warnings are the same. -/
theorem renderDocument_eq_iff {options : Options} {text other : Text}
    (lengths : (documentLines options text).1.length = (documentLines options other).1.length) :
    renderDocument options text = renderDocument options other ↔
      documentLines options text = documentLines options other := by
  constructor
  · intro same
    -- An empty document splits into one piece, so one without lines looks like an empty line.
    have empty : (documentLines options text).1 = [] ↔ (documentLines options other).1 = [] := by
      rw [← List.length_eq_zero_iff, ← List.length_eq_zero_iff, lengths]
    have pieces : (renderDocument options text).text.splitOn '\n' =
        (renderDocument options other).text.splitOn '\n' := by rw [same]
    have warnings := congrArg Rendering.warnings same
    rw [splitOn_renderDocument, splitOn_renderDocument] at pieces
    simp only [empty] at pieces
    have lines : (documentLines options text).1 = (documentLines options other).1 := by
      split at pieces
      · rename_i none
        rw [none, empty.mpr none]
      · exact pieces
    exact Prod.ext lines warnings
  · intro same
    rw [renderDocument, renderDocument, same]

end ProtoInterfaces
