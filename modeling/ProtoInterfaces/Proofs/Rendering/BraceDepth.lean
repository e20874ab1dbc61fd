import ProtoInterfaces.Proofs.Rendering.OutputText
import ProtoInterfaces.Proofs.Schema.BlockOpening
import ProtoInterfaces.Proofs.Schema.MethodBraces

/-!
# Brace depth of documents

A schema whose lines use braces in the usual ways keeps its depth when it is rendered, but for the
one level that its namespace adds. What one line changes is kept by what it becomes; the depth
after some lines follows by going through them, and the brace that closes the namespace at the end
takes the one level away again.
-/
namespace ProtoInterfaces

/-- A line that uses braces in the usual ways. -/
structure LineInOrder (version : SyntaxVersion) (line : Text) : Prop where
  /-- A statement about the schema as a whole changes no depth. -/
  statement : isStatement line = true → depthChange line = 0
  /-- A line that names a message or a service opens a block, and nothing else. -/
  opening : LineKind.ofLine line = .messageOpen ∨ LineKind.ofLine line = .serviceOpen →
    declaredName line.words ≠ [] → ∃ opening : BlockOpening, line = opening.text
  /-- The end of a block holds no other brace before a comment. -/
  closing : LineKind.ofLine line = .blockClose →
    (beforeComment line).count '}' = 1 ∧ (beforeComment line).count '{' = 0
  /-- A field changes no depth. -/
  field : LineKind.ofLine line = .field → (Field.ofLine? version line).isSome →
    depthChange line = 0
  /-- A package has a name like those of types and changes no depth. -/
  package : declaresPackage line = true →
    (∀ c ∈ declaredName line.words, isTypeCharacter c = true) ∧ depthChange line = 0

/-! ## What a line becomes -/

/-- A declaration is level. -/
theorem IsDeclaration.level {text : Text} (declaration : IsDeclaration text) : Level text :=
  ⟨Text.not_mem_of_class declaration (by decide),
    braceBalance_eq_zero (Text.not_mem_of_class declaration (by decide))
      (Text.not_mem_of_class declaration (by decide))⟩

/-- The opening of a block under some indentation opens one block more than what follows it on
the line. -/
theorem depthChange_opening (line keyword : Text) {name tail : Text} {c : Char} {count : Int}
    (begins : keyword.head? = some c) (solid : isBlank c = false) (star : c ≠ '*')
    (before : Level keyword) (named : Level name) (opens : Opens tail count) :
    depthChange (indentOf line ++ (keyword ++ name ++ [' ', '{'] ++ tail)) = 1 + count := by
  have brace : Opens [' ', '{'] 1 := ⟨by decide, rfl⟩
  have whole := ((before.append named).followedBy brace).followedBy opens
  have code : LineKind.ofLine (keyword ++ name ++ [' ', '{'] ++ tail) ≠ .comment := by
    have head : (keyword ++ name ++ [' ', '{'] ++ tail).head? = some c := by
      simp [begins]
    refine LineKind.ofLine_ne_comment_of_head head solid ⟨?_, star⟩
    rintro rfl
    exact before.unslashed (List.mem_of_mem_head? begins)
  rw [depthChange_append_of_blanks fun _ => isBlank_of_mem_indentOf, whole.depthChange_eq code]
  rfl

/-- The opening of an interface opens a block. -/
theorem depthChange_interfaceOpen (line : Text) {name tail : Text} {count : Int}
    (named : Level name) (opens : Opens tail count) :
    depthChange (indentOf line ++ (Declaration.interfaceOpen name ++ tail)) = 1 + count :=
  depthChange_opening line "export interface ".toList rfl (by decide) (by decide)
    (Level.of_all (by decide)) named opens

/-- The opening of a namespace opens a block. -/
theorem depthChange_namespaceOpen (line : Text) {name : Text} (named : Level name) :
    depthChange (indentOf line ++ Declaration.namespaceOpen name) = 1 := by
  have opens := depthChange_opening line "export namespace ".toList rfl (by decide) (by decide)
    (Level.of_all (by decide)) named Level.nil
  rw [List.append_nil] at opens
  exact opens

/-- An opening in the usual way opens as many blocks as the interface that it becomes. -/
theorem depthChange_openInterface (opening : BlockOpening) {role : Text}
    (known : role = [] ∨ role = "Service".toList) :
    depthChange (indentOf opening.text ++
        openInterface (declaredName opening.text.words ++ role) opening.text.words) =
      if opening.closed then 0 else 1 := by
  have name : Level opening.name := Level.of_word opening.nameWord
  have roleLevel : Level role := by
    rcases known with same | same
    · rw [same]
      exact Level.nil
    · rw [same]
      exact Level.of_all (by decide)
  rw [opening.declaredName_eq, openInterface, opening.hasEmptyBlock_eq]
  cases opening.closed with
  | false => exact depthChange_interfaceOpen _ (name.append roleLevel) Level.nil
  | true => exact depthChange_interfaceOpen _ (name.append roleLevel) Opens.closeBrace

/-- What a line in order becomes changes the depth as the line does, and by one level more if the
line declares a package. -/
theorem LineInOrder.depthChange_written {options : Options} {context : Context}
    {line content : Text} (order : LineInOrder context.version line)
    (ways : LineRendering options context line (.line content)) :
    depthChange content = depthChange line + if declaresPackage line then 1 else 0 := by
  have undeclared {kind : LineKind} (here : LineKind.ofLine line = kind) (other : kind ≠ .package) :
      declaresPackage line = false := by
    simp [declaresPackage, here, other]
  have indented {text : Text} (declaration : IsDeclaration text) :
      depthChange (indentOf line ++ text) = 0 := by
    rw [depthChange_append_of_blanks fun _ => isBlank_of_mem_indentOf]
    exact declaration.level.depthChange_eq_zero
  cases ways with
  | blank kind =>
    rw [undeclared kind (by simp), depthChange_of_blank kind]
    rfl
  | comment kind =>
    rw [undeclared kind (by simp)]
    exact (Int.add_zero _).symm
  | unread solid code undeclared =>
    rw [undeclared]
    exact (Int.add_zero _).symm
  | blockClose kind =>
    obtain ⟨one, none⟩ := order.closing kind
    have source : depthChange line = -1 := by
      rw [depthChange, if_neg (by simp [kind]), braceBalance, one, none]
      rfl
    have closes : depthChange Declaration.blockClose = -1 := by decide
    rw [undeclared kind (by simp), source,
      depthChange_append_of_blanks fun _ => isBlank_of_mem_indentOf, closes]
    rfl
  | opening kind named role known =>
    obtain ⟨opening, rfl⟩ := order.opening kind named
    have code : LineKind.ofLine opening.text ≠ .comment := by
      rcases kind with kind | kind <;> simp [kind]
    have still : declaresPackage opening.text = false := by
      rcases kind with kind | kind
      · exact undeclared kind (by simp)
      · exact undeclared kind (by simp)
    rw [depthChange_openInterface opening known, opening.depthChange_text code, still]
    exact (Int.add_zero _).symm
  | method method read =>
    rw [indented (IsDeclaration.signature options.stream (Method.of_ofLine? read).1),
      Method.depthChange_of_ofLine? read,
      undeclared (LineKind.ofLine_of_method read) (by simp)]
    rfl
  | package declares =>
    obtain ⟨named, level⟩ := order.package declares
    rw [depthChange_namespaceOpen line (IsDeclaration.pascal named).level, level, declares]
    rfl
  | field kind field read =>
    have level := order.field kind (by simp [read])
    rw [indented (IsDeclaration.property (Field.named_of_ofLine? read)), level,
      undeclared kind (by simp)]
    rfl

/-- A line that is left out changes no depth. -/
theorem LineInOrder.depthChange_of_isLeftOut {options : Options} {version : SyntaxVersion}
    {line : Text} (order : LineInOrder version line) (leftOut : isLeftOut options line = true) :
    depthChange line = 0 := by
  rcases isLeftOut_iff.mp leftOut with stated | rfl | ⟨blank, _⟩ | ⟨comment, _⟩
  · exact order.statement stated
  · decide
  · exact depthChange_of_blank blank
  · exact if_pos comment

/-! ## Running depth -/

/-- Indenting a line by the unit does not change its change of the depth. -/
theorem depthChange_nested (lines : List Text) (inside : Bool) (line : Text) :
    depthChange (nested (unitOf lines) inside line) = depthChange line := by
  unfold nested
  split
  · exact depthChange_append_of_blanks (fun _ => isBlank_of_mem_unitOf) line
  · rfl

/-- **One line more**: the depth of what some lines become and that of the lines themselves change
alike, and by one level more for a line that declares a package. -/
theorem depthOf_keptLines_concat (options : Options) {version : SyntaxVersion}
    (lines before : List Text) {line : Text} (order : LineInOrder version line) :
    let written := outputLine options version (unitOf lines) lines
    depthOf ((keptLines options (before ++ [line])).map written) =
      depthOf ((keptLines options before).map written) + depthChange line +
        if declaresPackage line then 1 else 0 := by
  intro written
  rw [keptLines_concat, List.map_append, depthOf_append]
  cases leftOut : isLeftOut options line with
  | true =>
    rw [order.depthChange_of_isLeftOut leftOut, (declares_of_isLeftOut leftOut).1]
    simp [depthOf]
  | false =>
    have change : depthChange (written (line, before.length)) =
        depthChange line + if declaresPackage line then 1 else 0 := by
      have context : LineInOrder ({ version, packageDeclared := packageBefore lines before.length :
          Context }).version line := order
      exact (depthChange_nested lines _ _).trans
        (context.depthChange_written (lineRendering_of_kept _ leftOut))
    rw [if_neg Bool.false_ne_true, List.map_singleton, depthOf_singleton, change]
    omega

/-- **Every run of lines**: the depth of what some lines become is that of the lines themselves and
one level more for every package that they declare. -/
theorem depthOf_keptLines (options : Options) {version : SyntaxVersion} {lines : List Text}
    (order : ∀ line ∈ lines, LineInOrder version line) (count : Nat) :
    depthOf ((keptLines options (lines.take count)).map
        (outputLine options version (unitOf lines) lines)) =
      depthOf (lines.take count) + (lines.take count).countP declaresPackage := by
  induction count with
  | zero => rfl
  | succ count ih =>
    cases found : lines[count]? with
    | none => rwa [List.take_add_one, found, Option.toList_none, List.append_nil]
    | some line =>
      have step := depthOf_keptLines_concat options lines (lines.take count)
        (order line (List.mem_of_getElem? found))
      rw [List.take_add_one, found, Option.toList_some, step, ih, depthOf_append, depthOf_singleton,
        List.countP_append, List.countP_singleton]
      split <;> omega

/-- The number of packages among the first lines of a schema that declares at most one. -/
theorem countP_take {lines : List Text} (single : lines.countP declaresPackage ≤ 1) (count : Nat) :
    ((lines.take count).countP declaresPackage : Int) =
      if packageBefore lines count then 1 else 0 := by
  have few : (lines.take count).countP declaresPackage ≤ lines.countP declaresPackage :=
    (List.take_sublist count lines).countP_le
  cases before : packageBefore lines count with
  | true =>
    have some : 0 < (lines.take count).countP declaresPackage := by
      rw [List.countP_pos_iff]
      exact List.any_eq_true.mp before
    rw [if_pos rfl]
    omega
  | false =>
    have none : (lines.take count).countP declaresPackage = 0 :=
      List.countP_eq_zero.mpr (List.any_eq_false.mp before)
    rw [none]
    rfl

/-- The import changes no depth. -/
theorem depthOf_importLines (behavior : StreamBehavior) (lines : List Text) :
    depthOf (importLines behavior lines) = 0 := by
  unfold importLines
  split
  · cases behavior <;> decide
  · rfl

/-- The end of the namespace takes one level away. -/
theorem depthOf_closingLines (lines : List Text) :
    depthOf (closingLines lines) = if lines.any declaresPackage then -1 else 0 := by
  unfold closingLines
  split
  · decide
  · rfl

/-- The place of a kept line among those kept. -/
theorem exists_keptLines_split {options : Options} {lines : List Text} {line : Text} {index : Nat}
    (kept : (line, index) ∈ keptLines options lines) :
    keptLines options (lines.take (index + 1)) =
        keptLines options (lines.take index) ++ [(line, index)] ∧
      ∃ later, keptLines options lines = keptLines options (lines.take (index + 1)) ++ later := by
  obtain ⟨found, present⟩ := mem_keptLines_iff.mp kept
  have inside : index < lines.length := (List.getElem?_eq_some_iff.mp found).1
  constructor
  · rw [List.take_add_one, found, Option.toList_some, keptLines_concat, if_neg (by simp [present]),
      List.length_take, Nat.min_eq_left (Nat.le_of_lt inside)]
  · refine ⟨((lines.drop (index + 1)).zipIdx (lines.take (index + 1)).length).filter
      fun entry => !isLeftOut options entry.1, ?_⟩
    unfold keptLines
    rw [← List.filter_append, ← Nat.zero_add (lines.take (index + 1)).length,
      ← List.zipIdx_append, List.take_append_drop]

/-- **Brace depth is kept.** If the lines of a schema use braces in the usual ways and at most one
of them declares a package, then the depth of the written document up to the line that a line of
the schema becomes is that of the schema up to this line, and one level more from the package on;
at the end it is that of the schema. -/
theorem brace_depth_preserved (options : Options) (text : Text)
    (order : ∀ line ∈ text.lines, LineInOrder (SyntaxVersion.detect text) line)
    (single : text.lines.countP declaresPackage ≤ 1) :
    let lines := text.lines
    let written := (renderDocument options text).text.splitOn '\n'
    (∀ line index, (line, index) ∈ keptLines options lines →
      let place := (importLines options.stream lines).length +
        (keptLines options (lines.take index)).length
      written[place]? = some (outputLine options (SyntaxVersion.detect text) (unitOf lines) lines
          (line, index)) ∧
        depthOf (written.take (place + 1)) =
          depthOf (lines.take (index + 1)) + if packageBefore lines (index + 1) then 1 else 0) ∧
      depthOf written = depthOf lines := by
  intro lines written
  let body := outputLine options (SyntaxVersion.detect text) (unitOf lines) lines
  have output : (documentLines options text).1 = importLines options.stream lines ++
      ((keptLines options lines).map body ++ closingLines lines) := by
    rw [documentLines_eq]
    rfl
  have split : written = if (documentLines options text).1 = [] then [[]]
      else (documentLines options text).1 := splitOn_renderDocument options text
  constructor
  · intro line index kept place
    obtain ⟨last, later, whole⟩ := exists_keptLines_split kept
    let front := importLines options.stream lines ++
      (keptLines options (lines.take index)).map body
    have parted : (documentLines options text).1 =
        front ++ body (line, index) :: (later.map body ++ closingLines lines) := by
      rw [output, whole, last]
      simp [front]
    have holds : written = front ++ body (line, index) :: (later.map body ++ closingLines lines) := by
      rw [split, if_neg (by simp [parted]), parted]
    have length : place = front.length := by
      simp [place, front]
    have taken : written.take (place + 1) = importLines options.stream lines ++
        (keptLines options (lines.take (index + 1))).map body := by
      rw [holds, length, List.take_length_add_append, last, List.map_append, ← List.append_assoc]
      rfl
    constructor
    · rw [holds, length]
      simp [body]
    · rw [taken, depthOf_append, depthOf_importLines, depthOf_keptLines options order,
        countP_take single, Int.zero_add]
  · have total : depthOf written = depthOf (documentLines options text).1 := by
      rw [split]
      split
      · rename_i none
        rw [none]
        decide
      · rfl
    have run := depthOf_keptLines options order lines.length
    rw [countP_take single, List.take_length] at run
    rw [total, output, depthOf_append, depthOf_append, depthOf_importLines, depthOf_closingLines,
      run]
    have all : packageBefore lines lines.length = lines.any declaresPackage := by
      rw [packageBefore, List.take_length]
    rw [all]
    by_cases declares : lines.any declaresPackage = true
    · rw [if_pos declares, if_pos declares]
      omega
    · rw [if_neg declares, if_neg declares]
      omega

/-- Lines with a package, a message with a comment that holds a brace, and a service. -/
def sampleLines : List Text :=
  ["package a.b;".toList, "message Go \x7b".toList, "  string x = 1; // \x7d".toList, ['}'],
    "service Runs \x7b".toList, "  rpc Run (Go) returns (stream Go) \x7b \x7d".toList, ['}']]

/-- A block opened on a line of keyword, name and brace, with a space between them. -/
def spacedOpening (keyword name : Text)
    (known : keyword = "message".toList ∨ keyword = "service".toList) (holds : name ≠ [])
    (word : name.all isWordCharacter = true) : BlockOpening where
  lead := []
  keyword := keyword
  gap := [' ']
  name := name
  space := [' ']
  rest := []
  closed := false
  leadBlank := by simp
  keyword_eq := known
  gapHolds := by decide
  gapBlank := List.all_eq_true.mp (by decide)
  nameHolds := holds
  nameWord := List.all_eq_true.mp word
  spaceBlank := List.all_eq_true.mp (by decide)
  restEnds := .opened (by simp)

/-- Every line of the sample uses braces in the usual ways. -/
theorem sampleLines_inOrder : ∀ line ∈ sampleLines, LineInOrder .proto2 line := by
  have statements : ∀ line ∈ sampleLines, isStatement line = true → depthChange line = 0 := by
    decide +kernel
  let go := spacedOpening "message".toList "Go".toList (.inl rfl) (by decide) (by decide)
  let runs := spacedOpening "service".toList "Runs".toList (.inr rfl) (by decide) (by decide)
  have openings : ∀ line ∈ sampleLines,
      LineKind.ofLine line = .messageOpen ∨ LineKind.ofLine line = .serviceOpen →
        line = go.text ∨ line = runs.text := by
    decide +kernel
  have closings : ∀ line ∈ sampleLines, LineKind.ofLine line = .blockClose →
      (beforeComment line).count '}' = 1 ∧ (beforeComment line).count '{' = 0 := by
    decide +kernel
  have fields : ∀ line ∈ sampleLines, LineKind.ofLine line = .field →
      (Field.ofLine? .proto2 line).isSome → depthChange line = 0 := by
    decide +kernel
  have packages : ∀ line ∈ sampleLines, declaresPackage line = true →
      (declaredName line.words).all isTypeCharacter = true ∧ depthChange line = 0 := by
    decide +kernel
  intro line member
  refine ⟨statements line member, ?_, closings line member, fields line member, ?_⟩
  · intro kind _
    rcases openings line member kind with message | service
    · exact ⟨go, message⟩
    · exact ⟨runs, service⟩
  · intro declares
    obtain ⟨named, level⟩ := packages line member declares
    exact ⟨List.all_eq_true.mp named, level⟩

/-- In the sample the message stands two levels deep, and the end is on the level of the
beginning. -/
theorem brace_depth_of_sampleLines :
    let text := Text.joinLines sampleLines
    let written := (renderDocument {} text).text.splitOn '\n'
    (∀ line ∈ text.lines, LineInOrder (SyntaxVersion.detect text) line) ∧
      text.lines.countP declaresPackage ≤ 1 ∧
      depthOf (written.take 4) = 2 ∧ depthOf written = 0 := by
  intro text written
  have lines : text.lines = sampleLines := by decide +kernel
  have version : SyntaxVersion.detect text = .proto2 := by decide +kernel
  have order : ∀ line ∈ text.lines, LineInOrder (SyntaxVersion.detect text) line := by
    rw [lines, version]
    exact sampleLines_inOrder
  have single : text.lines.countP declaresPackage ≤ 1 := by
    rw [lines]
    decide +kernel
  obtain ⟨running, whole⟩ := brace_depth_preserved {} text order single
  have kept : ("message Go \x7b".toList, 1) ∈ keptLines {} text.lines := by
    rw [lines]
    decide +kernel
  have inside := (running _ 1 kept).2
  have place : (importLines .native sampleLines).length +
      (keptLines {} (sampleLines.take 1)).length = 3 := by decide +kernel
  have source : (depthOf (sampleLines.take 2) +
      if packageBefore sampleLines 2 then 1 else 0) = 2 := by decide +kernel
  have level : depthOf sampleLines = 0 := by decide +kernel
  rw [lines, place, source] at inside
  rw [lines, level] at whole
  exact ⟨order, single, inside, whole⟩

end ProtoInterfaces
