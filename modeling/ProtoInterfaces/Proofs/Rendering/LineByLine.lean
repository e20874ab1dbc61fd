import Mathlib.Data.List.Basic
import ProtoInterfaces.Proofs.Rendering.SingleLine
import ProtoInterfaces.Rendering.Document

/-!
# Documents line by line

A document is rendered in one pass that carries a context, the output so far and the place of its
namespace. The same lines come out when every line is rendered on its own: whether it is left out
can be told from the line, whether it stands in a package from the lines before it, and nothing
else is needed. The state of the pass after some lines is written down from those lines alone
(`Progress.ofLines`); one step of the pass leads from the state of some lines to the state of one
line more, and so does every run.
-/
namespace ProtoInterfaces

/-- Whether a line of a schema is left out of its rendering: a statement about the schema as a
whole, a line that reads like the removal mark, or a line that the options skip. -/
def isLeftOut (options : Options) (line : Text) : Bool :=
  isStatement line || line = removalMark || options.skips line

/-- The lines that are not left out, each with the number of lines before it. -/
def keptLines (options : Options) (lines : List Text) : List (Text × Nat) :=
  lines.zipIdx.filter fun entry => !isLeftOut options entry.1

/-- Whether a package is declared before a line. -/
def packageBefore (lines : List Text) (index : Nat) : Bool := (lines.take index).any declaresPackage

/-- The rendering of a line on its own, with no stream seen. -/
def renderAlone (options : Options) (version : SyntaxVersion) (lines : List Text)
    (entry : Text × Nat) : Step :=
  renderLine options { version, packageDeclared := packageBefore lines entry.2 } entry.1

/-- A line as it stands inside a namespace, or outside one. Empty lines are never indented. -/
def nested (unit : Text) (inside : Bool) (line : Text) : Text :=
  if inside && !line.isEmpty then unit ++ line else line

/-- The line of output that a line becomes. -/
def outputLine (options : Options) (version : SyntaxVersion) (unit : Text) (lines : List Text)
    (entry : Text × Nat) : Text :=
  nested unit (packageBefore lines entry.2) (renderAlone options version lines entry).emission.text

/-- The unit of indentation of a schema: the first indentation of a line that is no statement, or
two spaces. -/
def unitOf (lines : List Text) : Text :=
  ((lines.filter fun line => !isStatement line).find? fun line =>
    (Indentation.ofLine line).width ≠ 0).elim [' ', ' '] indentOf

/-- The import of the stream type and an empty line, if a method has a stream and its type is
written. -/
def importLines (behavior : StreamBehavior) (lines : List Text) : List Text :=
  if lines.any declaresStream then
    match behavior with
    | .strip => []
    | .native => ["import Stream from 'stream'".toList, []]
    | .generic => ["import Stream from 'ts-stream'".toList, []]
  else []

/-- The lines that those of a schema become, under the version of the schema. -/
def bodyLines (options : Options) (version : SyntaxVersion) (lines : List Text) : List Text :=
  (keptLines options lines).map (outputLine options version (unitOf lines) lines)

/-- The end of the namespace, if a package is declared. -/
def closingLines (lines : List Text) : List Text :=
  if lines.any declaresPackage then [['}']] else []

/-- The warnings about the lines of a schema, in order. -/
def warningsAbout (options : Options) (version : SyntaxVersion) (lines : List Text) :
    List Warning :=
  (keptLines options lines).flatMap fun entry =>
    (renderAlone options version lines entry).warning.toList

/-! ## The state of the pass -/

/-- The lines that those of a schema become before any of them is indented by a unit. -/
def flatLines (options : Options) (version : SyntaxVersion) (lines : List Text) : List Text :=
  (keptLines options lines).map fun entry => (renderAlone options version lines entry).emission.text

/-- The place in the output of the first line that declares a package: the number of kept lines
before it. -/
def namespacePlace (options : Options) (lines : List Text) : Option Nat :=
  (lines.findIdx? declaresPackage).map fun first => (keptLines options (lines.take first)).length

/-- The state of the pass after some lines of a schema, from those lines alone. -/
def Progress.ofLines (options : Options) (version : SyntaxVersion) (lines : List Text) :
    Progress where
  context :=
    { version
      packageDeclared := lines.any declaresPackage
      usesStream := lines.any declaresStream }
  output := (flatLines options version lines).toArray
  namespaceAt := namespacePlace options lines
  warnings := (warningsAbout options version lines).toArray

/-- A line as the pass gets it. -/
def marked (line : Text) : Text := if isStatement line then removalMark else line

/-- A line that is left out declares nothing. -/
theorem declares_of_isLeftOut {options : Options} {line : Text}
    (leftOut : isLeftOut options line = true) :
    declaresPackage line = false ∧ declaresStream line = false := by
  have foreign : LineKind.ofLine line ≠ .package ∧ LineKind.ofLine line ≠ .method := by
    simp only [isLeftOut, Options.skips, Bool.or_eq_true, Bool.and_eq_true,
      decide_eq_true_eq] at leftOut
    rcases leftOut with (stated | rfl) | ⟨blank, _⟩ | ⟨comment, _⟩
    · simp [LineKind.ofLine_of_isStatement stated]
    · have kind : LineKind.ofLine removalMark = .field := by decide
      simp [kind]
    · simp [blank]
    · simp [comment]
  exact ⟨by simp [declaresPackage, foreign.1], declaresStream_eq_false foreign.2⟩

/-- The kept lines of a schema and one line more. -/
theorem keptLines_concat (options : Options) (lines : List Text) (line : Text) :
    keptLines options (lines ++ [line]) = keptLines options lines ++
      if isLeftOut options line then [] else [(line, lines.length)] := by
  simp only [keptLines, List.zipIdx_append, List.filter_append, Nat.zero_add]
  cases leftOut : isLeftOut options line <;> simp [leftOut]

/-- Lines after a line do not matter to it. -/
theorem packageBefore_append {lines : List Text} {index : Nat} (inside : index ≤ lines.length)
    (more : List Text) : packageBefore (lines ++ more) index = packageBefore lines index := by
  rw [packageBefore, packageBefore, List.take_append_of_le_length inside]

/-- Lines after a kept line do not matter to its rendering. -/
theorem renderAlone_append {options : Options} {lines : List Text} {entry : Text × Nat}
    (kept : entry ∈ keptLines options lines) (version : SyntaxVersion) (more : List Text) :
    renderAlone options version (lines ++ more) entry =
      renderAlone options version lines entry := by
  have inside : entry.2 < lines.length + 0 :=
    List.snd_lt_of_mem_zipIdx (List.mem_filter.mp kept).1
  rw [renderAlone, renderAlone, packageBefore_append (by omega)]

/-- The rendering of a line that comes last, on its own and in the context of those before it. -/
theorem renderAlone_last (options : Options) (version : SyntaxVersion) (lines : List Text)
    (line : Text) :
    let alone := renderAlone options version (lines ++ [line]) (line, lines.length)
    let context := (Progress.ofLines options version lines).context
    alone.emission = (renderLine options context line).emission ∧
      alone.warning = (renderLine options context line).warning := by
  have before : packageBefore (lines ++ [line]) lines.length = lines.any declaresPackage := by
    rw [packageBefore, List.take_left]
  exact renderLine_congr options line rfl before

/-- What some lines and one line more become. -/
theorem flatLines_concat (options : Options) (version : SyntaxVersion) (lines : List Text)
    (line : Text) :
    flatLines options version (lines ++ [line]) = flatLines options version lines ++
      if isLeftOut options line then []
      else [(renderLine options (Progress.ofLines options version lines).context
        line).emission.text] := by
  rw [flatLines, keptLines_concat, List.map_append]
  congr 1
  · exact List.map_congr_left fun entry kept => by rw [renderAlone_append kept]
  · cases isLeftOut options line with
    | true => rfl
    | false =>
      simp only [Bool.false_eq_true, if_false, List.map_cons, List.map_nil]
      rw [(renderAlone_last options version lines line).1]

/-- The warnings about some lines and one line more. -/
theorem warningsAbout_concat (options : Options) (version : SyntaxVersion) (lines : List Text)
    (line : Text) :
    warningsAbout options version (lines ++ [line]) = warningsAbout options version lines ++
      if isLeftOut options line then []
      else (renderLine options (Progress.ofLines options version lines).context
        line).warning.toList := by
  rw [warningsAbout, keptLines_concat, List.flatMap_append]
  congr 1
  · exact List.flatMap_congr fun entry kept => by rw [renderAlone_append kept]
  · cases isLeftOut options line with
    | true => rfl
    | false =>
      simp only [Bool.false_eq_true, if_false, List.flatMap_cons, List.flatMap_nil,
        List.append_nil]
      rw [(renderAlone_last options version lines line).2]

/-- The place of the namespace in some lines and one line more. -/
theorem namespacePlace_concat (options : Options) (lines : List Text) (line : Text) :
    namespacePlace options (lines ++ [line]) =
      if declaresPackage line && !lines.any declaresPackage then
        some (keptLines options lines).length
      else namespacePlace options lines := by
  rw [namespacePlace, List.findIdx?_append]
  cases first : lines.findIdx? declaresPackage with
  | none =>
    have nowhere : lines.any declaresPackage = false := by
      rw [List.any_eq_false]
      intro other member
      rw [List.findIdx?_eq_none_iff.mp first other member]
      simp
    cases declares : declaresPackage line <;>
      simp [namespacePlace, first, nowhere, declares, List.findIdx?_cons]
  | some index =>
    have somewhere : lines.any declaresPackage = true := by
      rw [← List.findIdx?_isSome, first]
      rfl
    have inside : index < lines.length := (List.findIdx?_eq_some_iff_getElem.mp first).1
    simp [namespacePlace, first, somewhere, List.take_append_of_le_length (Nat.le_of_lt inside)]

/-- The number of lines before any of them is indented is that of the kept lines. -/
theorem length_flatLines (options : Options) (version : SyntaxVersion) (lines : List Text) :
    (flatLines options version lines).length = (keptLines options lines).length :=
  List.length_map _

/-- A line that is left out does not change the pass. -/
theorem advance_of_isLeftOut {options : Options} {line : Text} (progress : Progress)
    (leftOut : isLeftOut options line = true) :
    progress.advance options (marked line) = progress := by
  unfold Progress.advance
  by_cases mark : marked line = removalMark
  · rw [if_pos mark]
  · have unstated : isStatement line = false := by
      by_contra stated
      rw [marked, if_pos (by simpa using stated)] at mark
      contradiction
    have same : marked line = line := by simp [marked, unstated]
    rw [same] at mark
    have skips : options.skips line = true := by simpa [isLeftOut, unstated, mark] using leftOut
    rw [same, if_neg mark, renderLine_of_skips _ skips]
    simp [Step.drop, Emission.text]

/-- A line that is not left out adds what it becomes to the pass. -/
theorem advance_of_kept {options : Options} {line : Text} (progress : Progress)
    (kept : isLeftOut options line = false) :
    progress.advance options (marked line) =
      { context := progress.context.after line
        output := progress.output.push (renderLine options progress.context line).emission.text
        namespaceAt :=
          if declaresPackage line && !progress.context.packageDeclared then
            some progress.output.size
          else progress.namespaceAt
        warnings :=
          progress.warnings ++ (renderLine options progress.context line).warning.toList } := by
  simp only [isLeftOut, Bool.or_eq_false_iff, decide_eq_false_iff_not] at kept
  obtain ⟨⟨unstated, unmarked⟩, unskipped⟩ := kept
  have same : marked line = line := by simp [marked, unstated]
  have declares : ((progress.context.after line).packageDeclared &&
      !progress.context.packageDeclared) =
      (declaresPackage line && !progress.context.packageDeclared) := by
    simp only [Context.after]
    cases progress.context.packageDeclared <;> simp
  simp only [Progress.advance]
  rw [same, if_neg unmarked, if_neg (emission_text_ne_removalMark _ unskipped unmarked),
    renderLine_context, declares]

/-- **One step of the pass**: it leads from the state of some lines to the state of one line more. -/
theorem advance_ofLines (options : Options) (version : SyntaxVersion) (lines : List Text)
    (line : Text) :
    (Progress.ofLines options version lines).advance options (marked line) =
      Progress.ofLines options version (lines ++ [line]) := by
  cases leftOut : isLeftOut options line with
  | true =>
    obtain ⟨noPackage, noStream⟩ := declares_of_isLeftOut leftOut
    rw [advance_of_isLeftOut _ leftOut]
    simp [Progress.ofLines, flatLines_concat, warningsAbout_concat, namespacePlace_concat,
      leftOut, noPackage, noStream]
  | false =>
    rw [advance_of_kept _ leftOut]
    simp [Progress.ofLines, flatLines_concat, warningsAbout_concat, namespacePlace_concat,
      leftOut, Context.after, length_flatLines]

/-- **Every run of the pass**: it leads from the state of some lines to the state of all. -/
theorem foldl_advance (options : Options) (version : SyntaxVersion) (before rest : List Text) :
    (rest.map marked).foldl (Progress.advance options) (Progress.ofLines options version before) =
      Progress.ofLines options version (before ++ rest) := by
  induction rest generalizing before with
  | nil =>
    rw [List.append_nil]
    rfl
  | cons line rest ih =>
    rw [List.map_cons, List.foldl_cons, advance_ofLines, ih, List.append_assoc]
    rfl

/-- A pass begins in the state of no lines. -/
theorem ofLines_nil (options : Options) (version : SyntaxVersion) :
    Progress.ofLines options version [] = { context := { version } } := rfl

/-! ## The namespace -/

/-- Indenting after a place leaves what stands up to it and indents the rest. -/
theorem indentAfter_append (unit : Text) {place : Nat} {front : List Text}
    (reached : front.length = place + 1) (back : List Text) :
    indentAfter unit place (front ++ back) = front ++ back.map (nested unit true) := by
  rw [indentAfter, List.mapIdx_append]
  congr 1
  · rw [List.mapIdx_eq_iff]
    intro index
    cases found : front[index]? with
    | none => rfl
    | some line =>
      have inside := (List.getElem?_eq_some_iff.mp found).1
      have early : ¬ place < index := by omega
      simp [early]
  · rw [List.mapIdx_eq_zipIdx_map]
    have late (index : Nat) : place < index + front.length := by omega
    simp only [late, decide_true, Bool.true_and]
    rw [show (fun entry : Text × Nat => if (!entry.1.isEmpty) = true then unit ++ entry.1
      else entry.1) = nested unit true ∘ Prod.fst from by funext entry; simp [nested],
      ← List.map_map, List.zipIdx_map_fst]

/-- The kept lines of a schema, divided at one of its lines that is kept. -/
theorem keptLines_split (options : Options) {before after : List Text} {line : Text}
    (kept : isLeftOut options line = false) :
    keptLines options (before ++ line :: after) =
      (keptLines options before ++ [(line, before.length)]) ++
        (after.zipIdx (before.length + 1)).filter fun entry => !isLeftOut options entry.1 := by
  simp [keptLines, List.zipIdx_append, List.filter_append, kept]

/-- Outside the namespace an output line is what the line becomes on its own. -/
theorem outputLine_outside {lines : List Text} {entry : Text × Nat}
    (outside : packageBefore lines entry.2 = false) (options : Options) (version : SyntaxVersion)
    (unit : Text) :
    outputLine options version unit lines entry =
      (renderAlone options version lines entry).emission.text := by
  simp [outputLine, outside, nested]

/-- No package is declared before a line that lies among lines without one. -/
theorem packageBefore_eq_false {before : List Text} (plain : before.any declaresPackage = false)
    {index : Nat} (inside : index ≤ before.length) (after : List Text) :
    packageBefore (before ++ after) index = false := by
  rw [packageBefore_append inside, packageBefore, List.any_eq_false]
  intro line member
  exact List.any_eq_false.mp plain line (List.mem_of_mem_take member)

/-- A package is declared before every line that follows one which declares it. -/
theorem packageBefore_of_lt {before after : List Text} {line : Text} {index : Nat}
    (declares : declaresPackage line = true) (later : before.length < index) :
    packageBefore (before ++ line :: after) index = true := by
  rw [packageBefore, List.any_eq_true]
  obtain ⟨more, rfl⟩ := Nat.exists_eq_add_of_lt later
  refine ⟨line, ?_, declares⟩
  rw [Nat.add_assoc, List.take_length_add_append]
  simp

/-- A line that declares a package is kept. -/
theorem isLeftOut_of_declaresPackage (options : Options) {line : Text}
    (declares : declaresPackage line = true) : isLeftOut options line = false := by
  by_contra leftOut
  rw [Bool.not_eq_false] at leftOut
  rw [(declares_of_isLeftOut leftOut).1] at declares
  contradiction

/-- Lines without a package are put out as they are rendered. -/
theorem flatLines_of_no_package (options : Options) (version : SyntaxVersion) (unit : Text)
    {lines : List Text} (plain : lines.any declaresPackage = false) :
    flatLines options version lines =
      (keptLines options lines).map (outputLine options version unit lines) := by
  apply List.map_congr_left
  intro entry kept
  have inside : entry.2 < lines.length + 0 :=
    List.snd_lt_of_mem_zipIdx (List.mem_filter.mp kept).1
  have early : entry.2 ≤ lines.length := by omega
  have outside := packageBefore_eq_false plain early []
  rw [List.append_nil] at outside
  exact (outputLine_outside outside options version unit).symm

/-- Indenting what follows the place of the first package indents the lines after that package. -/
theorem indentAfter_flatLines (options : Options) (version : SyntaxVersion) (unit : Text)
    {before after : List Text} {line : Text} (plain : before.any declaresPackage = false)
    (declares : declaresPackage line = true) :
    indentAfter unit (keptLines options before).length
        (flatLines options version (before ++ line :: after)) =
      (keptLines options (before ++ line :: after)).map
        (outputLine options version unit (before ++ line :: after)) := by
  have front (entry : Text × Nat) (early : entry.2 ≤ before.length) :
      (renderAlone options version (before ++ line :: after) entry).emission.text =
        outputLine options version unit (before ++ line :: after) entry :=
    (outputLine_outside (packageBefore_eq_false plain early _) options version unit).symm
  have back (entry : Text × Nat) (late : before.length < entry.2) :
      nested unit true (renderAlone options version (before ++ line :: after) entry).emission.text =
        outputLine options version unit (before ++ line :: after) entry := by
    rw [outputLine, packageBefore_of_lt declares late]
  rw [flatLines, keptLines_split options (isLeftOut_of_declaresPackage options declares),
    List.map_append, indentAfter_append unit (by simp), List.map_map,
    List.map_append (f := outputLine options version unit (before ++ line :: after))]
  congr 1
  · apply List.map_congr_left
    intro entry member
    apply front
    rcases List.mem_append.mp member with kept | last
    · have inside : entry.2 < before.length + 0 :=
        List.snd_lt_of_mem_zipIdx (List.mem_filter.mp kept).1
      omega
    · exact Nat.le_of_eq (congrArg Prod.snd (List.mem_singleton.mp last))
  · apply List.map_congr_left
    intro entry member
    exact back entry (List.le_snd_of_mem_zipIdx (List.mem_filter.mp member).1)

/-- Lines up to the first that declares a package, that line, and those after it. -/
theorem exists_split_of_findIdx? {lines : List Text} {index : Nat}
    (first : lines.findIdx? declaresPackage = some index) :
    ∃ before line after, lines = before ++ line :: after ∧ before.length = index ∧
      before.any declaresPackage = false ∧ declaresPackage line = true := by
  obtain ⟨inside, declares, earlier⟩ := List.findIdx?_eq_some_iff_getElem.mp first
  refine ⟨lines.take index, lines[index], lines.drop (index + 1), ?_, ?_, ?_, declares⟩
  · rw [List.getElem_cons_drop, List.take_append_drop]
  · rw [List.length_take]
    omega
  · rw [List.any_eq_false]
    intro line member
    obtain ⟨place, low, rfl⟩ := List.mem_iff_getElem.mp member
    rw [List.getElem_take]
    exact earlier place (by rw [List.length_take] at low; omega)

/-- Opening and closing the namespace of a schema indents the lines after its first package and
adds the end of a block. -/
theorem withNamespace_flatLines (options : Options) (version : SyntaxVersion) (unit : Text)
    (lines : List Text) :
    withNamespace unit (flatLines options version lines) (namespacePlace options lines) =
      (keptLines options lines).map (outputLine options version unit lines) ++
        closingLines lines := by
  cases first : lines.findIdx? declaresPackage with
  | none =>
    have plain : lines.any declaresPackage = false := by
      rw [List.any_eq_false]
      intro line member
      rw [List.findIdx?_eq_none_iff.mp first line member]
      simp
    rw [namespacePlace, first, closingLines, plain, flatLines_of_no_package _ _ unit plain]
    exact (List.append_nil _).symm
  | some index =>
    obtain ⟨before, line, after, rfl, rfl, plain, declares⟩ := exists_split_of_findIdx? first
    have somewhere : (before ++ line :: after).any declaresPackage = true := by
      simp [declares]
    rw [namespacePlace, first, closingLines, somewhere, Option.map_some, List.take_left,
      withNamespace, indentAfter_flatLines options version unit plain declares]
    rfl

/-- The unit of indentation that the pass takes is that of the schema. -/
theorem indentUnit_map_marked (lines : List Text) :
    indentUnit (lines.map marked) = unitOf lines := by
  induction lines with
  | nil => rfl
  | cons line rest ih =>
    rw [List.map_cons, indentUnit]
    cases stated : isStatement line with
    | true =>
      have bare : (Indentation.ofLine (marked line)).width = 0 := by
        rw [marked, if_pos stated]
        decide
      simp only [bare, if_true, ih]
      simp [unitOf, stated]
    | false =>
      have same : marked line = line := by simp [marked, stated]
      simp only [same]
      by_cases bare : (Indentation.ofLine line).width = 0
      · rw [if_pos bare, ih]
        simp [unitOf, stated, bare]
      · rw [if_neg bare]
        simp [unitOf, stated, bare, indentOf]

/-! ## The import and the whole document -/

/-- The import is put before the lines exactly if a stream was seen and its type is written. -/
theorem withImport?_eq_some (behavior : StreamBehavior) {context : Context} {source : List Text}
    (seen : context.usesStream = source.any declaresStream) (lines : List Text) :
    withImport? behavior context lines = some (importLines behavior source ++ lines) := by
  simp only [withImport?, importLines, seen]
  cases source.any declaresStream <;> cases behavior <;> rfl

/-- The version of a schema is always found. -/
theorem detect?_eq_some (text : Text) :
    SyntaxVersion.detect? text = some (SyntaxVersion.detect text) :=
  (Option.some_get _).symm

/-- The lines of a document are those of its schema, each rendered on its own, between the import
and the end of the namespace. -/
theorem documentLines?_eq_some (options : Options) (text : Text) :
    documentLines? options text =
      some (importLines options.stream text.lines ++
          (bodyLines options (SyntaxVersion.detect text) text.lines ++ closingLines text.lines),
        warningsAbout options (SyntaxVersion.detect text) text.lines) := by
  have run := foldl_advance options (SyntaxVersion.detect text) [] text.lines
  rw [ofLines_nil, List.nil_append] at run
  have source : withoutStatements text = text.lines.map marked := rfl
  have seen : (Progress.ofLines options (SyntaxVersion.detect text) text.lines).context.usesStream =
      text.lines.any declaresStream := rfl
  simp only [documentLines?, bind, detect?_eq_some, Option.bind_some, pure, source, run,
    indentUnit_map_marked]
  rw [withImport?_eq_some options.stream seen]
  simp [Progress.ofLines, withNamespace_flatLines, bodyLines]

/-- The lines of a document, which always has a rendering. -/
theorem documentLines_eq (options : Options) (text : Text) :
    documentLines options text =
      (importLines options.stream text.lines ++
          (bodyLines options (SyntaxVersion.detect text) text.lines ++ closingLines text.lines),
        warningsAbout options (SyntaxVersion.detect text) text.lines) := by
  rw [documentLines, Option.get_of_eq_some _ (documentLines?_eq_some options text)]

/-- The lines that are left out, one kind after the other. -/
theorem isLeftOut_iff {options : Options} {line : Text} :
    isLeftOut options line = true ↔ isStatement line = true ∨ line = removalMark ∨
      (LineKind.ofLine line = .blank ∧ options.stripEmptyLines = true) ∨
      (LineKind.ofLine line = .comment ∧ options.keepComments = false) := by
  simp [isLeftOut, Options.skips, or_assoc]

/-- A line is kept exactly if it stands in the schema and is none of those left out. -/
theorem mem_keptLines_iff {options : Options} {lines : List Text} {line : Text} {index : Nat} :
    (line, index) ∈ keptLines options lines ↔
      lines[index]? = some line ∧ isLeftOut options line = false := by
  rw [keptLines, List.mem_filter, List.mk_mem_zipIdx_iff_getElem?, Bool.not_eq_true']

/-- Kept lines keep their order. -/
theorem pairwise_keptLines (options : Options) (lines : List Text) :
    (keptLines options lines).Pairwise fun entry later => entry.2 < later.2 := by
  apply List.Pairwise.filter
  rw [← List.pairwise_map, List.zipIdx_map_snd]
  exact List.pairwise_lt_range'

/-- **Every document is rendered, and line by line.** No look-up fails, neither of the version or
the module of the stream type nor of a first character or a word. The lines left out are the
statements about the schema as a whole, those that read like the removal mark, and the blank lines
and comments that the options skip; every other line becomes one line of the output, in order, the
one that it becomes on its own, and is indented by one unit exactly if a package is declared before
it and it is not empty. Around them stand the import, if a method has a stream whose type is
written, and the end of the namespace, if there is one. -/
theorem document_rendered_line_by_line (options : Options) (text : Text) :
    let lines := text.lines
    let version := SyntaxVersion.detect text
    let output := importLines options.stream lines ++
      ((keptLines options lines).map (outputLine options version (unitOf lines) lines) ++
        closingLines lines)
    documentLines? options text = some (output, warningsAbout options version lines) ∧
      (∀ line ∈ lines, (Indentation.ofLine? line).isSome ∧ (LineKind.ofWords? line.words).isSome ∧
        (declaredName? line.words).isSome) ∧
      renderDocument options text =
        ⟨Text.joinLines output, warningsAbout options version lines⟩ ∧
      (∀ line index, (line, index) ∈ keptLines options lines ↔ lines[index]? = some line ∧
        ¬(isStatement line = true ∨ line = removalMark ∨
          (LineKind.ofLine line = .blank ∧ options.stripEmptyLines = true) ∨
          (LineKind.ofLine line = .comment ∧ options.keepComments = false))) ∧
      (keptLines options lines).Pairwise (fun entry later => entry.2 < later.2) ∧
      (∀ entry ∈ keptLines options lines, ∃ content,
        (renderLine options { version, packageDeclared := (lines.take entry.2).any declaresPackage }
          entry.1).emission = .line content ∧
        outputLine options version (unitOf lines) lines entry =
          if (lines.take entry.2).any declaresPackage = true ∧ content ≠ [] then
            unitOf lines ++ content
          else content) := by
  refine ⟨documentLines?_eq_some options text, ?_, ?_, ?_, pairwise_keptLines _ _, ?_⟩
  · intro line _
    exact ⟨Indentation.isSome_ofLine? line, LineKind.isSome_ofWords? _, isSome_declaredName? _⟩
  · rw [renderDocument, documentLines_eq]
    rfl
  · intro line index
    rw [mem_keptLines_iff, ← isLeftOut_iff, Bool.not_eq_true]
  · rintro ⟨line, index⟩ kept
    have unskipped := (mem_keptLines_iff.mp kept).2
    simp only [isLeftOut, Bool.or_eq_false_iff] at unskipped
    obtain ⟨content, becomes⟩ := exists_emission_eq_line
      { version := SyntaxVersion.detect text, packageDeclared := packageBefore text.lines index }
      unskipped.2
    refine ⟨content, becomes, ?_⟩
    rw [outputLine, renderAlone, becomes, Emission.text, nested, packageBefore]
    cases content <;> simp

end ProtoInterfaces
