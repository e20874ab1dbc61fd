import ProtoInterfaces.Proofs.Rendering.SingleLine
import ProtoInterfaces.Proofs.Schema.BlockOpening
import ProtoInterfaces.Proofs.Schema.FieldHead
import ProtoInterfaces.Proofs.Schema.MethodDeclaration

/-!
# Comments at the end of a line

A comment behind a line that can be read changes neither what the line declares nor what it changes
in the context. It matters to the end of the line alone, which is looked at only where a block is
opened: an empty block with a comment behind it is not closed any more, and a comment that ends
with an empty block closes one.
-/
namespace ProtoInterfaces

/-- Every way in which a line can be read under a version of the schema. -/
inductive IsRead (version : SyntaxVersion) (line : Text) : Prop
  /-- The line ends a block. -/
  | blockClose (kind : LineKind.ofLine line = .blockClose)
  /-- The line opens a message or a service with a name. -/
  | opening (kind : LineKind.ofLine line = .messageOpen ∨ LineKind.ofLine line = .serviceOpen)
      (named : declaredName line.words ≠ [])
  /-- The line declares a method. -/
  | method (method : Method) (read : Method.ofLine? line = some method)
  /-- The line declares a package. -/
  | package (declares : declaresPackage line = true)
  /-- The line declares a field. -/
  | field (kind : LineKind.ofLine line = .field) (field : Field)
      (read : Field.ofLine? version line = some field)

/-- What stands behind a line with a comment at its end. -/
def trailingComment (comment : Text) : Text := " // ".toList ++ comment

/-- Whether a text ends with an empty block, blanks and semicolons at its end set aside. -/
def endsWithEmptyBlock (text : Text) : Bool :=
  ['{', '}'].isSuffixOf (Text.dropTrailing (· = ';') (text.filter fun c => !isBlank c))

/-! ## Words -/

/-- A comment is a word of two slashes and its own words behind those of the line. -/
theorem words_append_trailingComment (line comment : Text) :
    Text.words (line ++ trailingComment comment) = line.words ++ "//".toList :: comment.words := by
  have blank : isBlank ' ' = true := by decide
  have slashes : Text.words "//".toList = ["//".toList] := by decide
  have parted : line ++ trailingComment comment = line ++ ' ' :: ("//".toList ++ ' ' :: comment) := rfl
  rw [parted, Text.words_append_blank blank, Text.words_append_blank blank, slashes,
    List.singleton_append]

/-- A line that is not blank has words. -/
theorem words_ne_nil_of_solid {line : Text} (solid : LineKind.ofLine line ≠ .blank) :
    line.words ≠ [] := by
  intro empty
  exact solid (by rw [LineKind.ofLine, empty]; rfl)

/-- What follows a line with words on it does not change its indentation. -/
theorem indentOf_append {line : Text} (filled : line.words ≠ []) (more : Text) :
    indentOf (line ++ more) = indentOf line :=
  congrArg Indentation.text (Indentation.ofLine_append filled more)

/-- A comment does not change the kind of a line with words on it. -/
theorem LineKind.ofLine_append_trailingComment {line : Text} (filled : line.words ≠ [])
    (comment : Text) : ofLine (line ++ trailingComment comment) = ofLine line := by
  rw [ofLine, ofLine, words_append_trailingComment]
  cases divided : line.words with
  | nil => exact absurd divided filled
  | cons word others => rfl

/-- A comment does not change the name that a line declares. -/
theorem declaredName_append_trailingComment {line : Text} (named : declaredName line.words ≠ [])
    (comment : Text) :
    declaredName (Text.words (line ++ trailingComment comment)) = declaredName line.words := by
  have several : 1 < line.words.length := by
    refine Nat.lt_of_not_le fun few => ?_
    exact named (declaredName_of_length_le few)
  rw [words_append_trailingComment]
  match divided : line.words with
  | first :: second :: others =>
    rw [List.cons_append, List.cons_append, declaredName_cons_cons, declaredName_cons_cons]
  | [_] | [] => simp [divided] at several

/-! ## The end of a line -/

/-- A text ends with what lacks a character exactly if what follows the character does. -/
theorem suffix_append_cons_iff {ending : Text} {c : Char} (absent : c ∉ ending)
    (front back : Text) : ending <:+ front ++ c :: back ↔ ending <:+ back := by
  constructor
  · intro ends
    have whole : c :: back <:+ front ++ c :: back := List.suffix_append front _
    have inside : ending <:+ c :: back := by
      refine (List.suffix_or_suffix_of_suffix ends whole).resolve_right fun within => ?_
      exact absent (within.subset List.mem_cons_self)
    refine (List.suffix_cons_iff.mp inside).resolve_left ?_
    rintro rfl
    exact absent List.mem_cons_self
  · intro ends
    exact (ends.trans (List.suffix_cons c back)).trans (List.suffix_append front _)

/-- A line with a comment behind it ends with an empty block exactly if the comment does. -/
theorem hasEmptyBlock_append_trailingComment {line : Text} (filled : line.words ≠ [])
    (comment : Text) : hasEmptyBlock (Text.words (line ++ trailingComment comment)) =
      endsWithEmptyBlock comment := by
  obtain ⟨first, others, divided⟩ := List.exists_cons_of_ne_nil filled
  have joined : ((first :: others ++ "//".toList :: comment.words).drop 1).flatten =
      (others.flatten ++ ['/']) ++ '/' :: comment.filter fun c => !isBlank c := by
    rw [← Text.flatten_runs]
    simp [Text.words]
  have kept : decide ('/' = ';') = false := by decide
  have absent : '/' ∉ ['{', '}'] := by decide
  rw [words_append_trailingComment, divided, hasEmptyBlock, joined,
    Text.dropTrailing_append_kept kept, endsWithEmptyBlock, Bool.eq_iff_iff,
    List.isSuffixOf_iff_suffix, List.isSuffixOf_iff_suffix, suffix_append_cons_iff absent]

/-! ## Methods and fields -/

/-- No line feed stands in what is put behind a line if there is none in the comment. -/
theorem unfed_trailingComment {comment : Text} (unfed : '\n' ∉ comment) :
    '\n' ∉ trailingComment comment := by
  rw [trailingComment, List.mem_append, not_or]
  exact ⟨by decide, unfed⟩

/-- A comment may stand behind whatever ends a method line. -/
theorem MethodEnding.exists_append_trailingComment {ending : MethodEnding}
    (unfed : '\n' ∉ ending.text) {comment : Text} (alsoUnfed : '\n' ∉ comment) :
    ∃ other : MethodEnding, other.text = ending.text ++ trailingComment comment := by
  have feed : ending.feed = [] := by
    refine ending.feedShape.resolve_right fun one => unfed ?_
    simp [text, afterBody, remark, one]
  have shape := ending.commentShape
  generalize held : ending.comment = present at shape
  cases shape with
  | none =>
    have space : isBlank ' ' = true := by decide
    refine ⟨{ ending with
      gap := ending.gap ++ [' ']
      comment := '/' :: '/' :: ' ' :: comment
      gapBlank := List.forall_mem_append.mpr ⟨ending.gapBlank, List.forall_mem_singleton.mpr space⟩
      commentShape := .comment (by simp [alsoUnfed]) }, ?_⟩
    simp [text, afterBody, remark, feed, held, trailingComment]
  | comment contentUnfed =>
    rename_i content
    have further : '\n' ∉ content ++ trailingComment comment := by
      rw [List.mem_append, not_or]
      exact ⟨contentUnfed, unfed_trailingComment alsoUnfed⟩
    refine ⟨{ ending with
      comment := '/' :: '/' :: (content ++ trailingComment comment)
      commentShape := .comment further }, ?_⟩
    simp [text, afterBody, remark, feed, held]

/-- A method is read from its line with a comment behind it too. -/
theorem Method.ofLine?_append_trailingComment {line : Text} {method : Method}
    (read : ofLine? line = some method) (unfed : '\n' ∉ line) {comment : Text}
    (alsoUnfed : '\n' ∉ comment) : ofLine? (line ++ trailingComment comment) = some method := by
  obtain ⟨declaration, rfl, same⟩ := ofLine?_eq_some_iff.mp read
  have endingUnfed : '\n' ∉ declaration.ending.text := fun member =>
    unfed (by simp [MethodDeclaration.text, member])
  obtain ⟨ending, whole⟩ := MethodEnding.exists_append_trailingComment endingUnfed alsoUnfed
  refine ofLine?_eq_some_iff.mpr ⟨{ declaration with ending }, ?_, same⟩
  simp only [MethodDeclaration.text, MethodDeclaration.front, MethodDeclaration.middle, whole,
    List.append_assoc]

/-- A field is read from a line whatever follows its head. -/
theorem Field.ofLine?_append {version : SyntaxVersion} {line : Text} {field : Field}
    (read : ofLine? version line = some field) (more : Text) :
    ofLine? version (line ++ more) = some field := by
  obtain ⟨head, begins, same⟩ := ofLine?_eq_some_iff.mp read
  exact ofLine?_eq_some_iff.mpr ⟨head, begins.trans (List.prefix_append line more), same⟩

/-! ## Whole lines -/

/-- A line declares a package exactly if it is of the kind of packages and names one. -/
theorem declaresPackage_iff {line : Text} : declaresPackage line = true ↔
    LineKind.ofLine line = .package ∧ declaredName line.words ≠ [] := by
  simp [declaresPackage]

/-- A line of a kind that needs a name has one if there is no warning about it. -/
theorem declaredName_ne_nil_of_unwarned {options : Options} {context : Context} {line : Text}
    (kind : LineKind.ofLine line = .messageOpen ∨ LineKind.ofLine line = .serviceOpen ∨
      LineKind.ofLine line = .package)
    (unwarned : (renderLine options context line).warning = none) :
    declaredName line.words ≠ [] := by
  intro unnamed
  obtain ⟨expected, kept⟩ := renderLine_of_unnamed options context kind unnamed
  rw [kept] at unwarned
  contradiction

/-- A line can be read exactly if it is neither blank nor a comment and becomes a line without a
warning. -/
theorem isRead_iff (options : Options) (context : Context) {line : Text} :
    IsRead context.version line ↔ LineKind.ofLine line ≠ .blank ∧ LineKind.ofLine line ≠ .comment ∧
      (renderLine options context line).warning = none := by
  constructor
  · rintro (kind | ⟨kind, named⟩ | ⟨method, read⟩ | declares | ⟨kind, field, read⟩)
    · rw [renderLine_of_blockClose options context kind, kind]
      simp [Step.emit]
    · rw [renderLine_of_opening options context kind named]
      rcases kind with kind | kind <;> simp [Step.emit, kind]
    · rw [renderLine_of_method options context read, LineKind.ofLine_of_method read]
      simp [Step.emit]
    · rw [renderLine_of_package options context declares, (declaresPackage_iff.mp declares).1]
      simp [Step.emit]
    · rw [renderLine_of_field options context kind read, kind]
      simp [Step.emit]
  · rintro ⟨filled, code, unwarned⟩
    cases kind : LineKind.ofLine line with
    | blank => contradiction
    | comment => contradiction
    | blockClose => exact .blockClose kind
    | messageOpen =>
      exact .opening (.inl kind) (declaredName_ne_nil_of_unwarned (.inl kind) unwarned)
    | serviceOpen =>
      exact .opening (.inr kind) (declaredName_ne_nil_of_unwarned (.inr (.inl kind)) unwarned)
    | package =>
      have named := declaredName_ne_nil_of_unwarned (.inr (.inr kind)) unwarned
      exact .package (declaresPackage_iff.mpr ⟨kind, named⟩)
    | method =>
      cases read : Method.ofLine? line with
      | some method => exact .method method read
      | none =>
        rw [renderLine_of_no_method options context kind read] at unwarned
        contradiction
    | field =>
      cases read : Field.ofLine? context.version line with
      | some field => exact .field kind field read
      | none =>
        rw [renderLine_of_no_field options context kind read] at unwarned
        contradiction

section

variable (options : Options) (context : Context) {line : Text}

/-- The opening of a block with a comment behind it becomes the opening of the same interface, which
is closed exactly if the comment ends with an empty block. -/
theorem renderLine_append_of_opening
    (kind : LineKind.ofLine line = .messageOpen ∨ LineKind.ofLine line = .serviceOpen)
    (named : declaredName line.words ≠ []) (comment : Text) :
    renderLine options context (line ++ trailingComment comment) = .emit context (indentOf line ++
      (Declaration.interfaceOpen (declaredName line.words ++ context.role (LineKind.ofLine line)) ++
        if endsWithEmptyBlock comment then Declaration.blockClose else [])) := by
  have filled : line.words ≠ [] := by
    intro empty
    rw [empty] at named
    exact named (declaredName_of_length_le (by simp))
  have kinds := LineKind.ofLine_append_trailingComment filled comment
  have name := declaredName_append_trailingComment named comment
  have whole := renderLine_of_opening options context (kinds ▸ kind) (name ▸ named)
  rwa [indentOf_append filled, name, kinds, openInterface,
    hasEmptyBlock_append_trailingComment filled] at whole

/-- A line that can be read and opens no block becomes the same with a comment behind it. -/
theorem renderLine_append_of_plain (read : IsRead context.version line) (unfed : '\n' ∉ line)
    {comment : Text} (alsoUnfed : '\n' ∉ comment)
    (plain : ¬ (LineKind.ofLine line = .messageOpen ∨ LineKind.ofLine line = .serviceOpen)) :
    renderLine options context (line ++ trailingComment comment) =
      renderLine options context line := by
  have filled := words_ne_nil_of_solid ((isRead_iff options context).mp read).1
  have kinds := LineKind.ofLine_append_trailingComment filled comment
  have indents := indentOf_append filled (trailingComment comment)
  rcases read with kind | ⟨kind, named⟩ | ⟨method, found⟩ | declares | ⟨kind, field, found⟩
  · rw [renderLine_of_blockClose options context (kinds.trans kind),
      renderLine_of_blockClose options context kind, indents]
  · exact absurd kind plain
  · have alsoFound := Method.ofLine?_append_trailingComment found unfed alsoUnfed
    rw [renderLine_of_method options context alsoFound, renderLine_of_method options context found,
      indents]
  · obtain ⟨kind, named⟩ := declaresPackage_iff.mp declares
    have name := declaredName_append_trailingComment named comment
    have alsoDeclares : declaresPackage (line ++ trailingComment comment) = true :=
      declaresPackage_iff.mpr ⟨kinds.trans kind, name ▸ named⟩
    rw [renderLine_of_package options context alsoDeclares,
      renderLine_of_package options context declares, indents, name]
  · have alsoFound := Field.ofLine?_append found (trailingComment comment)
    rw [renderLine_of_field options context (kinds.trans kind) alsoFound,
      renderLine_of_field options context kind found, indents]

end

/-- **A comment at the end of a line matters to empty blocks alone.** A line that can be read is
read with a comment behind it, without a warning and with the same context after it. It becomes the
same line too unless it opens a message or a service: then it does exactly if the line and the
comment both end with an empty block or neither does. -/
theorem trailing_comment_matters_to_empty_blocks_only (options : Options) (context : Context)
    {line comment : Text} (read : IsRead context.version line) (unfed : '\n' ∉ line)
    (alsoUnfed : '\n' ∉ comment) :
    let alone := renderLine options context line
    let step := renderLine options context (line ++ trailingComment comment)
    alone.warning = none ∧ step.warning = none ∧ step.context = alone.context ∧
      (step.emission = alone.emission ↔
        (LineKind.ofLine line = .messageOpen ∨ LineKind.ofLine line = .serviceOpen →
          hasEmptyBlock line.words = endsWithEmptyBlock comment)) := by
  intro alone step
  obtain ⟨_, _, unwarned⟩ := (isRead_iff options context).mp read
  refine ⟨unwarned, ?_⟩
  by_cases opens : LineKind.ofLine line = .messageOpen ∨ LineKind.ofLine line = .serviceOpen
  · have named := declaredName_ne_nil_of_unwarned (opens.imp_right .inl) unwarned
    have whole : step = _ := renderLine_append_of_opening options context opens named comment
    have bare : alone = _ := renderLine_of_opening options context opens named
    rw [forall_prop_of_true opens, whole, bare, openInterface]
    refine ⟨rfl, rfl, ?_⟩
    simp only [Step.emit, Emission.line.injEq, List.append_cancel_left_eq]
    cases hasEmptyBlock line.words <;> cases endsWithEmptyBlock comment <;> decide
  · have same : step = alone := renderLine_append_of_plain options context read unfed alsoUnfed opens
    rw [same]
    exact ⟨unwarned, rfl, iff_of_true rfl fun holds => absurd holds opens⟩

/-- A method with a stream and the opening of a message become what they are without a comment,
whatever it holds before its last word. -/
theorem trailing_comments_of_method_and_message :
    let comment : Text := "\x7d rpc \x7b\x7d; // \x7b\x7d message".toList
    let method : Text := "\trpc Run (Go) returns (stream Go) \x7b\x7d; // first".toList
    let message : Text := "message A \x7b".toList
    IsRead .proto2 method ∧ IsRead .proto2 message ∧ '\n' ∉ method ∧ '\n' ∉ message ∧
      '\n' ∉ comment ∧
      (renderLine {} {} (method ++ trailingComment comment)).emission =
        .line "\trun (go: Go): Stream".toList ∧
      (renderLine {} {} (method ++ trailingComment comment)).context = { usesStream := true } ∧
      (renderLine {} {} (message ++ trailingComment comment)).emission =
        .line "export interface A \x7b".toList := by
  intro comment method message
  have run : Method.ofLine? method =
      some ⟨"Run".toList, ⟨"Go".toList, false⟩, ⟨"Go".toList, true⟩⟩ := by decide +kernel
  have readMethod : IsRead .proto2 method := .method _ run
  have readMessage : IsRead .proto2 message := .opening (.inl (by decide)) (by decide)
  have unfedMethod : '\n' ∉ method := by decide
  have unfedMessage : '\n' ∉ message := by decide
  have unfed : '\n' ∉ comment := by decide
  obtain ⟨_, _, context, method_iff⟩ :=
    trailing_comment_matters_to_empty_blocks_only {} {} readMethod unfedMethod unfed
  obtain ⟨_, _, _, message_iff⟩ :=
    trailing_comment_matters_to_empty_blocks_only {} {} readMessage unfedMessage unfed
  have opensNone : LineKind.ofLine method = .messageOpen ∨ LineKind.ofLine method = .serviceOpen →
      hasEmptyBlock method.words = endsWithEmptyBlock comment := fun opens =>
    absurd opens (by decide)
  refine ⟨readMethod, readMessage, unfedMethod, unfedMessage, unfed, ?_, ?_, ?_⟩
  · rw [method_iff.mpr opensNone]
    decide +kernel
  · rw [context]
    decide +kernel
  · rw [message_iff.mpr fun _ => by decide +kernel]
    decide +kernel

/-- An empty message is not closed any more with a comment behind it, and a message whose block
stays open is closed by a comment that ends with an empty block. -/
theorem trailing_comment_opens_and_closes :
    let empty : Text := "message Empty \x7b\x7d".toList
    let opening : Text := "message A \x7b".toList
    let note : Text := "note".toList
    let block : Text := "\x7b\x7d".toList
    IsRead .proto2 empty ∧ IsRead .proto2 opening ∧
      '\n' ∉ empty ∧ '\n' ∉ opening ∧ '\n' ∉ note ∧ '\n' ∉ block ∧
      (renderLine {} {} empty).emission = .line "export interface Empty \x7b\x7d".toList ∧
      (renderLine {} {} (empty ++ trailingComment note)).emission =
        .line "export interface Empty \x7b".toList ∧
      (renderLine {} {} opening).emission = .line "export interface A \x7b".toList ∧
      (renderLine {} {} (opening ++ trailingComment block)).emission =
        .line "export interface A \x7b\x7d".toList := by
  intro empty opening note block
  have readEmpty : IsRead .proto2 empty := .opening (.inl (by decide)) (by decide)
  have readOpening : IsRead .proto2 opening := .opening (.inl (by decide)) (by decide)
  refine ⟨readEmpty, readOpening, ?_⟩
  decide +kernel

end ProtoInterfaces
