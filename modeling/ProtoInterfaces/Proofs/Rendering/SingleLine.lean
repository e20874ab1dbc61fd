import ProtoInterfaces.Proofs.Schema.Line
import ProtoInterfaces.Rendering.Line

/-!
# What a single line does

A line is left out, kept as it is, or becomes a declaration under its own indentation
(`LineRendering`). What it becomes depends on the version and on whether a package was declared,
and never on streams seen before; what it changes in the context can be told from the line alone.
-/
namespace ProtoInterfaces

/-- Whether a line declares a package: its first word is `package` and its second names one. -/
def declaresPackage (line : Text) : Bool :=
  LineKind.ofLine line = .package && !(declaredName line.words).isEmpty

/-- Whether a line declares a method with a stream on either side. -/
def declaresStream (line : Text) : Bool := (Method.ofLine? line).any Method.isStreaming

/-- Whether options leave a line out: a blank line or a comment. -/
def Options.skips (options : Options) (line : Text) : Bool :=
  (LineKind.ofLine line = .blank && options.stripEmptyLines) ||
    (LineKind.ofLine line = .comment && !options.keepComments)

/-- The context after a line. -/
def Context.after (context : Context) (line : Text) : Context :=
  { context with
    packageDeclared := context.packageDeclared || declaresPackage line
    usesStream := context.usesStream || declaresStream line }

/-- The indentation of a line as text. -/
def indentOf (line : Text) : Text := (Indentation.ofLine line).text

/-- Every way in which a line is rendered, with what it becomes. -/
inductive LineRendering (options : Options) (context : Context) (line : Text) : Emission → Prop
  /-- A blank line or a comment is left out. -/
  | skipped (skips : options.skips line = true) : LineRendering options context line .dropped
  /-- A blank line is emptied. -/
  | blank (kind : LineKind.ofLine line = .blank) : LineRendering options context line (.line [])
  /-- A comment is kept as it is. -/
  | comment (kind : LineKind.ofLine line = .comment) :
      LineRendering options context line (.line line)
  /-- A line that cannot be read is kept as it is. -/
  | unread (solid : LineKind.ofLine line ≠ .blank) (code : LineKind.ofLine line ≠ .comment)
      (undeclared : declaresPackage line = false) : LineRendering options context line (.line line)
  /-- The end of a block. -/
  | blockClose (kind : LineKind.ofLine line = .blockClose) :
      LineRendering options context line (.line (indentOf line ++ Declaration.blockClose))
  /-- The opening of a message or a service. -/
  | opening (kind : LineKind.ofLine line = .messageOpen ∨ LineKind.ofLine line = .serviceOpen)
      (named : declaredName line.words ≠ []) (role : Text)
      (known : role = [] ∨ role = "Service".toList) :
      LineRendering options context line
        (.line (indentOf line ++ openInterface (declaredName line.words ++ role) line.words))
  /-- A method. -/
  | method (method : Method) (read : Method.ofLine? line = some method) :
      LineRendering options context line
        (.line (indentOf line ++ Declaration.signature options.stream method))
  /-- A package. -/
  | package (declares : declaresPackage line = true) :
      LineRendering options context line
        (.line (indentOf line ++
          Declaration.namespaceOpen (Identifier.pascal (declaredName line.words))))
  /-- A field. -/
  | field (kind : LineKind.ofLine line = .field) (field : Field)
      (read : Field.ofLine? context.version line = some field) :
      LineRendering options context line
        (.line (indentOf line ++ Declaration.property field))

/-- A line is rendered in one of these ways. -/
theorem lineRendering (options : Options) (context : Context) (line : Text) :
    LineRendering options context line (renderLine options context line).emission := by
  unfold renderLine
  simp only
  split <;> rename_i kind
  · split
    · rename_i strips
      exact .skipped (by simp [Options.skips, LineKind.ofLine, kind, strips])
    · exact .blank kind
  · split
    · exact .comment kind
    · rename_i drops
      exact .skipped (by simp [Options.skips, LineKind.ofLine, kind, drops])
  · exact .blockClose kind
  · split
    · refine .unread ?_ ?_ ?_ <;> simp [declaresPackage, LineKind.ofLine, kind]
    · rename_i named
      have whole : LineRendering options context line (.line (indentOf line ++
          openInterface (declaredName line.words ++ []) line.words)) :=
        .opening (.inl kind) (by simpa using named) [] (.inl rfl)
      rwa [List.append_nil] at whole
  · split
    · refine .unread ?_ ?_ ?_ <;> simp [declaresPackage, LineKind.ofLine, kind]
    · rename_i named
      refine .opening (.inr kind) (by simpa using named) _ ?_
      cases context.packageDeclared
      · exact .inl rfl
      · exact .inr rfl
  · split
    · refine .unread ?_ ?_ ?_ <;> simp [declaresPackage, LineKind.ofLine, kind]
    · rename_i method read
      exact .method method read
  · split
    · rename_i unnamed
      refine .unread ?_ ?_ ?_ <;> simp [declaresPackage, LineKind.ofLine, kind, unnamed]
    · rename_i named
      exact .package (by simp [declaresPackage, LineKind.ofLine, kind, named])
  · split
    · refine .unread ?_ ?_ ?_ <;> simp [declaresPackage, LineKind.ofLine, kind]
    · rename_i field read
      exact .field kind field read

/-- What is no method line declares no stream. -/
theorem declaresStream_eq_false {line : Text} (kind : LineKind.ofLine line ≠ .method) :
    declaresStream line = false := by
  unfold declaresStream
  cases read : Method.ofLine? line with
  | none => rfl
  | some method => exact absurd (LineKind.ofLine_of_method read) kind

/-- A line changes the context by what it declares alone. -/
theorem renderLine_context (options : Options) (context : Context) (line : Text) :
    (renderLine options context line).context = context.after line := by
  have unchanged (kind : LineKind.ofLine line ≠ .method) (other : LineKind.ofLine line ≠ .package) :
      context.after line = context := by
    simp [Context.after, declaresPackage, other, declaresStream_eq_false kind]
  simp only [renderLine]
  cases kind : LineKind.ofWords line.words with
  | method =>
    cases read : Method.ofLine? line <;>
      simp [Context.after, Step.keepUnread, Step.emit, declaresStream, read, declaresPackage,
        LineKind.ofLine, kind]
  | package =>
    have noStream : declaresStream line = false :=
      declaresStream_eq_false (by simp [LineKind.ofLine, kind])
    by_cases named : (declaredName line.words).isEmpty = true <;>
      simp [Context.after, Step.keepUnread, Step.emit, declaresPackage, LineKind.ofLine, kind,
        noStream, named]
  | blockClose =>
    rw [unchanged (by simp [LineKind.ofLine, kind]) (by simp [LineKind.ofLine, kind])]
    rfl
  | _ =>
    rw [unchanged (by simp [LineKind.ofLine, kind]) (by simp [LineKind.ofLine, kind])]
    dsimp only
    split <;> rfl

/-- Streams seen before a line do not change what it becomes. -/
theorem renderLine_congr (options : Options) {context other : Context} (line : Text)
    (version : context.version = other.version)
    (package : context.packageDeclared = other.packageDeclared) :
    (renderLine options context line).emission = (renderLine options other line).emission ∧
      (renderLine options context line).warning = (renderLine options other line).warning := by
  simp only [renderLine, serviceInterfaceName, version, package]
  cases LineKind.ofWords line.words with
  | method => cases Method.ofLine? line <;> exact ⟨rfl, rfl⟩
  | field => cases Field.ofLine? other.version line <;> exact ⟨rfl, rfl⟩
  | blockClose => exact ⟨rfl, rfl⟩
  | _ =>
    dsimp only
    split <;> exact ⟨rfl, rfl⟩

/-- Options that write streams alike and skip a line neither of them render it alike. -/
theorem renderLine_of_unskipped {options other : Options} (stream : options.stream = other.stream)
    {line : Text} (kept : options.skips line = false) (alsoKept : other.skips line = false)
    (context : Context) : renderLine options context line = renderLine other context line := by
  simp only [Options.skips, Bool.or_eq_false_iff, Bool.and_eq_false_iff, Bool.not_eq_false',
    LineKind.ofLine] at kept alsoKept
  simp only [renderLine]
  cases kind : LineKind.ofWords line.words with
  | blank =>
    rw [kept.1.resolve_left (by simp [kind]), alsoKept.1.resolve_left (by simp [kind])]
  | comment =>
    rw [kept.2.resolve_left (by simp [kind]), alsoKept.2.resolve_left (by simp [kind])]
  | method => rw [stream]
  | _ => rfl

/-- Options do not matter to what a line is warned about. -/
theorem renderLine_warning (options other : Options) (context : Context) (line : Text) :
    (renderLine options context line).warning = (renderLine other context line).warning := by
  simp only [renderLine]
  cases LineKind.ofWords line.words with
  | blank =>
    cases options.stripEmptyLines <;> cases other.stripEmptyLines <;> rfl
  | comment =>
    cases options.keepComments <;> cases other.keepComments <;> rfl
  | method => cases Method.ofLine? line <;> rfl
  | _ => rfl

/-- A line that the options skip is left out and changes nothing. -/
theorem renderLine_of_skips {options : Options} {line : Text} (context : Context)
    (skips : options.skips line = true) : renderLine options context line = .drop context := by
  simp only [Options.skips, Bool.or_eq_true, Bool.and_eq_true, decide_eq_true_eq,
    Bool.not_eq_true'] at skips
  simp only [renderLine]
  rcases skips with ⟨kind, strips⟩ | ⟨kind, drops⟩
  · rw [show LineKind.ofWords line.words = .blank from kind, strips]
    rfl
  · rw [show LineKind.ofWords line.words = .comment from kind, drops]
    rfl

/-- A line that the options do not skip becomes a line. -/
theorem exists_emission_eq_line {options : Options} {line : Text} (context : Context)
    (kept : options.skips line = false) :
    ∃ content, (renderLine options context line).emission = .line content := by
  have ways := lineRendering options context line
  generalize (renderLine options context line).emission = emission at ways ⊢
  cases ways with
  | skipped skips =>
    rw [kept] at skips
    contradiction
  | _ => exact ⟨_, rfl⟩

/-- A line that the options do not skip and that does not read like the removal mark becomes a
line that does not read like it either. -/
theorem emission_text_ne_removalMark {options : Options} {line : Text} (context : Context)
    (kept : options.skips line = false) (unmarked : line ≠ removalMark) :
    (renderLine options context line).emission.text ≠ removalMark := by
  have foreign {text : Text} (c : Char) (member : c ∈ text) (absent : c ∉ removalMark) :
      text ≠ removalMark := by
    rintro rfl
    exact absent member
  have ways := lineRendering options context line
  generalize (renderLine options context line).emission = emission at ways ⊢
  cases ways with
  | skipped skips =>
    rw [kept] at skips
    contradiction
  | blank kind => exact (List.cons_ne_nil _ _).symm
  | comment kind => exact unmarked
  | unread solid code undeclared => exact unmarked
  | blockClose kind => exact foreign '}' (by simp [Emission.text, Declaration.blockClose]) (by decide)
  | opening kind named role known =>
    have space : ' ' ∈ Declaration.interfaceOpen (declaredName line.words ++ role) :=
      List.mem_append_right _ List.mem_cons_self
    exact foreign ' ' (List.mem_append_right _ (List.mem_append_left _ space)) (by decide)
  | method method read =>
    exact foreign ' ' (by simp [Emission.text, Declaration.signature]) (by decide)
  | package declares =>
    have space : ' ' ∈ Declaration.namespaceOpen (Identifier.pascal (declaredName line.words)) :=
      List.mem_append_right _ List.mem_cons_self
    exact foreign ' ' (List.mem_append_right _ space) (by decide)
  | field kind field read =>
    exact foreign ' ' (by simp [Emission.text, Declaration.property]) (by decide)

/-! ## What lines become, by their kind -/

section

variable (options : Options) (context : Context) {line : Text}

/-- A line that ends a block becomes the end of a block. -/
theorem renderLine_of_blockClose (kind : LineKind.ofLine line = .blockClose) :
    renderLine options context line = .emit context (indentOf line ++ Declaration.blockClose) := by
  simp only [renderLine]
  rw [show LineKind.ofWords line.words = .blockClose from kind]
  rfl

/-- What stands behind the name in the opening of an interface: within a package a service is called
one. -/
def Context.role (context : Context) (kind : LineKind) : Text :=
  if kind = .serviceOpen ∧ context.packageDeclared = true then "Service".toList else []

/-- A line that opens a message or a service with a name becomes the opening of an interface with
that name and its role. -/
theorem renderLine_of_opening
    (kind : LineKind.ofLine line = .messageOpen ∨ LineKind.ofLine line = .serviceOpen)
    (named : declaredName line.words ≠ []) :
    renderLine options context line = .emit context (indentOf line ++
      openInterface (declaredName line.words ++ context.role (LineKind.ofLine line)) line.words) := by
  have holds : (declaredName line.words).isEmpty = false := by simpa using named
  simp only [renderLine]
  rcases kind with message | service
  · have role : context.role .messageOpen = [] := if_neg (by simp)
    rw [show LineKind.ofWords line.words = .messageOpen from message, holds, message, role,
      List.append_nil]
    rfl
  · have role : context.role .serviceOpen =
        if context.packageDeclared then "Service".toList else [] := by
      simp only [Context.role, true_and]
    rw [show LineKind.ofWords line.words = .serviceOpen from service, holds, service, role]
    rfl

/-- A line that declares a package becomes the opening of a namespace. -/
theorem renderLine_of_package (declares : declaresPackage line = true) :
    renderLine options context line = .emit { context with packageDeclared := true }
      (indentOf line ++
        Declaration.namespaceOpen (Identifier.pascal (declaredName line.words))) := by
  simp only [declaresPackage, Bool.and_eq_true, decide_eq_true_eq, Bool.not_eq_true'] at declares
  simp only [renderLine]
  rw [show LineKind.ofWords line.words = .package from declares.1, declares.2]
  rfl

/-- A line that declares a field becomes its property. -/
theorem renderLine_of_field (kind : LineKind.ofLine line = .field) {field : Field}
    (read : Field.ofLine? context.version line = some field) :
    renderLine options context line =
      .emit context (indentOf line ++ Declaration.property field) := by
  simp only [renderLine]
  rw [show LineKind.ofWords line.words = .field from kind, read]
  rfl

/-- A line that declares a method becomes its signature, and a stream on either side is noted. -/
theorem renderLine_of_method {method : Method} (read : Method.ofLine? line = some method) :
    renderLine options context line =
      .emit { context with usesStream := context.usesStream || method.isStreaming }
        (indentOf line ++ Declaration.signature options.stream method) := by
  simp only [renderLine]
  rw [show LineKind.ofWords line.words = .method from LineKind.ofLine_of_method read, read]
  rfl

/-- A line of the kind of fields that declares none is kept with a warning. -/
theorem renderLine_of_no_field (kind : LineKind.ofLine line = .field)
    (read : Field.ofLine? context.version line = none) :
    renderLine options context line = .keepUnread context .fieldLine line := by
  simp only [renderLine]
  rw [show LineKind.ofWords line.words = .field from kind, read]

/-- A line of the kind of methods that declares none is kept with a warning. -/
theorem renderLine_of_no_method (kind : LineKind.ofLine line = .method)
    (read : Method.ofLine? line = none) :
    renderLine options context line = .keepUnread context .methodLine line := by
  simp only [renderLine]
  rw [show LineKind.ofWords line.words = .method from kind, read]

/-- A line that opens a block or declares a package without a name is kept with a warning. -/
theorem renderLine_of_unnamed
    (kind : LineKind.ofLine line = .messageOpen ∨ LineKind.ofLine line = .serviceOpen ∨
      LineKind.ofLine line = .package)
    (unnamed : declaredName line.words = []) :
    ∃ expected, renderLine options context line = .keepUnread context expected line := by
  simp only [renderLine]
  rw [unnamed]
  rcases kind with message | service | package
  · rw [show LineKind.ofWords line.words = .messageOpen from message]
    exact ⟨.messageLine, rfl⟩
  · rw [show LineKind.ofWords line.words = .serviceOpen from service]
    exact ⟨.serviceLine, rfl⟩
  · rw [show LineKind.ofWords line.words = .package from package]
    exact ⟨.packageLine, rfl⟩

end

end ProtoInterfaces
