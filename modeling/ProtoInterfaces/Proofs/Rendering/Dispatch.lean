import ProtoInterfaces.Proofs.Rendering.SingleLine
import ProtoInterfaces.Proofs.Schema.FieldHead
import ProtoInterfaces.Proofs.Schema.MethodDeclaration

/-!
# Kinds of lines and what reads them

The kind of a line is told from its first word, methods and fields from the whole line. The two
agree: a line that is read as a method is of their kind, one that is read as a field is of theirs
unless its first word is a keyword, and no line is read as both. A line of the kind of methods
becomes within a document what it becomes on its own.
-/
namespace ProtoInterfaces

/-- No line declares both a method and a field: a parenthesis stands before every equality sign. -/
theorem Field.ofLine?_of_method {line : Text} {method : Method}
    (read : Method.ofLine? line = some method) (version : SyntaxVersion) :
    Field.ofLine? version line = none := by
  rw [Option.eq_none_iff_forall_ne_some]
  intro field declared
  obtain ⟨head, begins, _⟩ := Field.ofLine?_eq_some_iff.mp declared
  obtain ⟨declaration, rfl, _⟩ := Method.ofLine?_eq_some_iff.mp read
  have unsigned : ∀ c ∈ declaration.front, decide (c ≠ '=') = true := by
    intro c member
    have absent := declaration.wording_front.not_mem (by decide : isBlank '=' = false) (by decide)
    exact decide_eq_true fun same => absent (same ▸ member)
  have opened : '(' ∈ declaration.text.takeWhile fun c => c ≠ '=' := by
    rw [MethodDeclaration.text, List.takeWhile_append_of_pos unsigned, PayloadDeclaration.text,
      List.cons_append, List.takeWhile_cons_of_pos (by decide)]
    exact List.mem_append_right _ List.mem_cons_self
  rw [head.takeWhile_of_begins begins] at opened
  exact head.wording_front.not_mem (by decide) (by decide) opened

/-- **The kind of a line agrees with what reads it.** What is read as a method is of the kind of
methods, what is read as a field is of the kind of fields exactly if its first word is no keyword,
and nothing is read as both. A line of the kind of methods becomes what it becomes on its own, with
a warning in either case exactly if no method is read, and it changes nothing in the context but
that it notes a stream if the method has one. -/
theorem kind_agrees_with_reading (line : Text) :
    (∀ method, Method.ofLine? line = some method → LineKind.ofLine line = .method) ∧
    (∀ version field, Field.ofLine? version line = some field →
      (LineKind.ofLine line = .field ↔ ∀ keyword ∈ keywords, line.words.head? ≠ some keyword)) ∧
    (∀ version, Method.ofLine? line = none ∨ Field.ofLine? version line = none) ∧
    (LineKind.ofLine line = .method → ∀ options context,
      let step := renderLine options context line
      let alone := renderMethod options.stream line
      let unread : Prop := Method.ofLine? line = none
      step.emission = .line alone.1 ∧
      (step.warning = if unread then some (.about .methodLine line) else none) ∧
      (alone.2 = if unread then some (.about .methodDeclaration line) else none) ∧
      step.context = { context with
        usesStream := context.usesStream || (Method.ofLine? line).any Method.isStreaming }) := by
  refine ⟨fun method => LineKind.ofLine_of_method, ?_, ?_, ?_⟩
  · intro version field read
    obtain ⟨head, begins, _⟩ := Field.ofLine?_eq_some_iff.mp read
    obtain ⟨others, words⟩ := head.exists_words_eq begins
    rw [head.ofLine_eq_field_iff begins, words, List.head?_cons]
    constructor
    · rintro plain keyword listed same
      exact plain (Option.some.inj same ▸ listed)
    · exact fun plain listed => plain _ listed rfl
  · intro version
    cases read : Method.ofLine? line with
    | none => exact .inl rfl
    | some method => exact .inr (Field.ofLine?_of_method read version)
  · intro kind options context
    cases read : Method.ofLine? line with
    | none =>
      rw [renderLine_of_no_method options context kind read, renderMethod, read]
      simp [Step.keepUnread]
    | some method =>
      rw [renderLine_of_method options context read, renderMethod, read]
      simp [Step.emit, indentOf]

/-- A line that begins with a keyword may declare a field and be kept unread, and a method with a
stream is noted whatever the context. -/
theorem kind_agrees_with_reading_of_keyword :
    let field := "rpc id = 1;".toList
    let method := "  rpc Run (Go) returns (stream Go);".toList
    (Field.ofLine? .proto2 field).isSome = true ∧ LineKind.ofLine field = .method ∧
      (renderLine {} {} field).emission = .line field ∧
      (renderLine {} {} field).warning = some ⟨.methodLine, field⟩ ∧
      LineKind.ofLine method = .method ∧
      (renderLine {} {} method).emission = .line "  run (go: Go): Stream".toList ∧
      (renderLine {} {} method).context = { usesStream := true } := by
  intro field method
  have fieldRead : Field.ofLine? .proto2 field =
      some ⟨"id".toList, "rpc".toList, .required⟩ := by decide
  have methodRead : Method.ofLine? method =
      some ⟨"Run".toList, ⟨"Go".toList, false⟩, ⟨"Go".toList, true⟩⟩ := by decide
  obtain ⟨_, _, apart, becomes⟩ := kind_agrees_with_reading field
  obtain ⟨kind, _, _, alsoBecomes⟩ := kind_agrees_with_reading method
  have fieldKind : LineKind.ofLine field = .method := by decide
  have unread : Method.ofLine? field = none :=
    (apart .proto2).resolve_right (by simp [fieldRead])
  have kept := becomes fieldKind {} {}
  have written := alsoBecomes (kind _ methodRead) {} {}
  refine ⟨by simp [fieldRead], fieldKind, ?_, ?_, kind _ methodRead, ?_, ?_⟩
  · rw [kept.1, renderMethod, unread]
  · rw [kept.2.1, if_pos unread]
    decide
  · rw [written.1]
    decide +kernel
  · rw [written.2.2.2, methodRead]
    rfl

end ProtoInterfaces
