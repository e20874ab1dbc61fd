import ProtoInterfaces.Proofs.Rendering.OutputText

/-!
# Comments and blank lines in documents

Keeping comments and keeping blank lines only adds lines. Nothing but a comment is written as a
comment and nothing but a blank line is written as an empty one, so the added lines can be told
apart and taken away again; and since neither declares anything, the context, the namespace and
the unit of the other lines are the same with and without them.
-/
namespace ProtoInterfaces

/-- Whether the first word of a line begins a comment. -/
def isCommentLine (line : Text) : Bool := line.words.head?.any LineKind.opensComment

/-- A line whose first word begins a comment is of the kind of comments. -/
theorem isCommentLine_eq (line : Text) :
    isCommentLine line = decide (LineKind.ofLine line = .comment) := by
  unfold isCommentLine LineKind.ofLine
  cases line.words with
  | nil => rfl
  | cons word others =>
    rw [List.head?_cons, Option.any_some, LineKind.ofWords_cons, Bool.eq_iff_iff, decide_eq_true_eq,
      LineKind.ofFirst_eq_comment_iff]

/-! ## What a line becomes -/

/-- A declaration is no comment. -/
theorem IsDeclaration.ofLine_ne_comment {text : Text} (declaration : IsDeclaration text) :
    LineKind.ofLine text ≠ .comment := by
  apply LineKind.ofLine_ne_comment
  intro c first
  have member : c ∈ text :=
    (Text.leaves_skipBlanks text).mem (List.mem_of_mem_head? first)
  exact ⟨Text.ne_of_class (declaration c member) (by decide),
    Text.ne_of_class (declaration c member) (by decide)⟩

/-- What is no comment becomes no comment. -/
theorem LineRendering.ofLine_ne_comment {options : Options} {context : Context}
    {line content : Text} (ways : LineRendering options context line (.line content))
    (code : LineKind.ofLine line ≠ .comment) : LineKind.ofLine content ≠ .comment := by
  have indented {text : Text} (plain : LineKind.ofLine text ≠ .comment) :
      LineKind.ofLine (indentOf line ++ text) ≠ .comment := by
    rwa [LineKind.ofLine_append_of_blanks fun _ => isBlank_of_mem_indentOf]
  cases ways with
  | blank kind =>
    rw [LineKind.ofLine_of_blanks (by simp)]
    simp
  | comment kind => exact absurd kind code
  | unread solid code undeclared => exact code
  | blockClose kind => exact indented (LineKind.ofLine_ne_comment_of_head rfl (by decide) (by decide))
  | opening kind named role known =>
    exact indented (LineKind.ofLine_ne_comment_of_head (c := 'e') rfl (by decide) (by decide))
  | method method read =>
    exact indented
      (IsDeclaration.signature options.stream (Method.of_ofLine? read).1).ofLine_ne_comment
  | package declares =>
    exact indented (LineKind.ofLine_ne_comment_of_head (c := 'e') rfl (by decide) (by decide))
  | field kind field read =>
    exact indented (IsDeclaration.property (Field.named_of_ofLine? read)).ofLine_ne_comment

/-- What is not blank does not become empty. -/
theorem LineRendering.ne_nil {options : Options} {context : Context} {line content : Text}
    (ways : LineRendering options context line (.line content))
    (solid : LineKind.ofLine line ≠ .blank) : content ≠ [] := by
  have source : line ≠ [] := by
    rintro rfl
    exact solid (LineKind.ofLine_of_blanks (by simp))
  have indented {text : Text} (holds : text ≠ []) : indentOf line ++ text ≠ [] :=
    List.append_ne_nil_of_right_ne_nil _ holds
  cases ways with
  | blank kind => exact absurd kind solid
  | comment kind => exact source
  | unread solid code undeclared => exact source
  | blockClose kind => exact indented (List.cons_ne_nil _ _)
  | opening kind named role known =>
    have opens := Declaration.interfaceOpen_ne_nil (declaredName line.words ++ role)
    exact indented (List.append_ne_nil_of_left_ne_nil opens _)
  | method method read => exact indented (Declaration.signature_ne_nil _ _)
  | package declares => exact indented (Declaration.namespaceOpen_ne_nil _)
  | field kind field read => exact indented (Declaration.property_ne_nil _)

/-- A comment that is not skipped is kept as it is. -/
theorem emission_of_comment {options : Options} {line : Text} (context : Context)
    (comment : LineKind.ofLine line = .comment) (kept : options.skips line = false) :
    (renderLine options context line).emission = .line line := by
  have keeps : options.keepComments = true := by simpa [Options.skips, comment] using kept
  simp only [renderLine]
  rw [show LineKind.ofWords line.words = .comment from comment, keeps]
  rfl

/-- A blank line that is not skipped is emptied. -/
theorem emission_of_blank {options : Options} {line : Text} (context : Context)
    (blank : LineKind.ofLine line = .blank) (kept : options.skips line = false) :
    (renderLine options context line).emission = .line [] := by
  have keeps : options.stripEmptyLines = false := by simpa [Options.skips, blank] using kept
  simp only [renderLine]
  rw [show LineKind.ofWords line.words = .blank from blank, keeps]
  rfl

/-- A line that is not left out is not skipped. -/
theorem skips_of_kept {options : Options} {line : Text} (kept : isLeftOut options line = false) :
    options.skips line = false := by
  simp only [isLeftOut, Bool.or_eq_false_iff] at kept
  exact kept.2

/-- Indenting a line by the unit does not change its kind. -/
theorem ofLine_nested (lines : List Text) (inside : Bool) (line : Text) :
    LineKind.ofLine (nested (unitOf lines) inside line) = LineKind.ofLine line := by
  unfold nested
  split
  · exact LineKind.ofLine_append_of_blanks (fun _ => isBlank_of_mem_unitOf) line
  · rfl

/-- Indenting a line by the unit makes it neither empty nor not empty. -/
theorem isEmpty_nested (unit : Text) (inside : Bool) (line : Text) :
    (nested unit inside line).isEmpty = line.isEmpty := by
  unfold nested
  split
  · rename_i indents
    simp only [Bool.and_eq_true, Bool.not_eq_true', List.isEmpty_eq_false_iff] at indents
    rw [List.isEmpty_eq_false_iff.mpr indents.2, List.isEmpty_eq_false_iff]
    exact List.append_ne_nil_of_right_ne_nil _ indents.2
  · rfl

/-- A kept line becomes a comment exactly if it is one. -/
theorem isCommentLine_outputLine {options : Options} {lines : List Text} {entry : Text × Nat}
    (kept : entry ∈ keptLines options lines) (version : SyntaxVersion) :
    isCommentLine (outputLine options version (unitOf lines) lines entry) =
      isCommentLine entry.1 := by
  have present := (mem_keptLines_iff.mp kept).2
  rw [isCommentLine_eq, isCommentLine_eq, outputLine, ofLine_nested, renderAlone]
  by_cases comment : LineKind.ofLine entry.1 = .comment
  · rw [emission_of_comment _ comment (skips_of_kept present)]
    rfl
  · have still := (lineRendering_of_kept
      { version, packageDeclared := packageBefore lines entry.2 } present).ofLine_ne_comment comment
    rw [decide_eq_false still, decide_eq_false comment]

/-- What a kept line becomes on its own is empty exactly if the line is blank. -/
theorem isEmpty_renderAlone {options : Options} {lines : List Text} {entry : Text × Nat}
    (kept : entry ∈ keptLines options lines) (version : SyntaxVersion) :
    (renderAlone options version lines entry).emission.text.isEmpty =
      decide (LineKind.ofLine entry.1 = .blank) := by
  have present := (mem_keptLines_iff.mp kept).2
  rw [renderAlone]
  by_cases blank : LineKind.ofLine entry.1 = .blank
  · rw [emission_of_blank _ blank (skips_of_kept present), decide_eq_true blank]
    rfl
  · have holds := (lineRendering_of_kept
      { version, packageDeclared := packageBefore lines entry.2 } present).ne_nil blank
    rw [decide_eq_false blank]
    simpa using holds

/-- A kept line becomes empty exactly if it is blank. -/
theorem isEmpty_outputLine {options : Options} {lines : List Text} {entry : Text × Nat}
    (kept : entry ∈ keptLines options lines) (version : SyntaxVersion) :
    (outputLine options version (unitOf lines) lines entry).isEmpty =
      decide (LineKind.ofLine entry.1 = .blank) := by
  rw [outputLine, isEmpty_nested, isEmpty_renderAlone kept]

/-! ## What the whole document becomes -/

/-- If options leave out fewer lines than others, and from what a line becomes it can be told
whether the others leave it out, then taking those lines away gives what the lines become under
the others. -/
theorem filter_bodyLines {options fewer : Options} (stream : options.stream = fewer.stream)
    {lines : List Text} {version : SyntaxVersion} (keeps : Text → Bool) {tells : Text → Bool}
    (leaves : ∀ line, isLeftOut fewer line = (isLeftOut options line || !keeps line))
    (told : ∀ entry ∈ keptLines options lines,
      tells (outputLine options version (unitOf lines) lines entry) = keeps entry.1) :
    (bodyLines options version lines).filter tells = bodyLines fewer version lines := by
  have fewerKept : keptLines fewer lines =
      (keptLines options lines).filter fun entry => keeps entry.1 := by
    rw [keptLines, keptLines, List.filter_filter]
    apply List.filter_congr
    intro entry _
    rw [leaves, Bool.not_or, Bool.not_not, Bool.and_comm]
  have same : (keptLines options lines).filter
      (tells ∘ outputLine options version (unitOf lines) lines) =
      (keptLines options lines).filter fun entry => keeps entry.1 := List.filter_congr told
  rw [bodyLines, bodyLines, List.filter_map, same, fewerKept]
  apply List.map_congr_left
  intro entry member
  obtain ⟨kept, keep⟩ := List.mem_filter.mp member
  have present := (mem_keptLines_iff.mp kept).2
  have alsoPresent : isLeftOut fewer entry.1 = false := by
    rw [leaves, present, keep]
    rfl
  rw [outputLine, outputLine, renderAlone, renderAlone,
    renderLine_of_unskipped stream (skips_of_kept present) (skips_of_kept alsoPresent)]

/-- The warnings about a schema, line by line: none about a line that is left out whatever the
options are. -/
theorem warningsAbout_eq (options : Options) (version : SyntaxVersion) (lines : List Text) :
    warningsAbout options version lines = lines.zipIdx.flatMap fun entry =>
      if isStatement entry.1 || entry.1 = removalMark then []
      else (renderAlone options version lines entry).warning.toList := by
  unfold warningsAbout keptLines
  induction lines.zipIdx with
  | nil => rfl
  | cons entry entries ih =>
    rw [List.flatMap_cons, ← ih]
    by_cases always : (isStatement entry.1 || entry.1 = removalMark) = true
    · rw [if_pos always, List.filter_cons_of_neg (by simp [isLeftOut, always])]
      rfl
    · rw [if_neg always]
      cases skips : options.skips entry.1 with
      | true =>
        rw [List.filter_cons_of_neg (by simp [isLeftOut, skips]), renderAlone,
          renderLine_of_skips _ skips]
        rfl
      | false =>
        rw [List.filter_cons_of_pos (by simpa [isLeftOut, skips] using always), List.flatMap_cons]

/-- The warnings about a schema are the same under all options. -/
theorem warningsAbout_congr (options other : Options) (version : SyntaxVersion)
    (lines : List Text) : warningsAbout options version lines = warningsAbout other version lines := by
  rw [warningsAbout_eq, warningsAbout_eq]
  apply List.flatMap_congr
  intro entry _
  rw [renderAlone, renderAlone, renderLine_warning options other]

/-- Neither the import nor the end of the namespace is a comment. -/
theorem isCommentLine_header {behavior : StreamBehavior} {lines : List Text} {line : Text}
    (around : line ∈ importLines behavior lines ++ closingLines lines) :
    isCommentLine line = false := by
  have all : ∀ line ∈ ["import Stream from 'stream'".toList,
      "import Stream from 'ts-stream'".toList, [], ['}']], isCommentLine line = false := by decide
  exact all line (mem_header around)

/-- Taking the comments away from a document that keeps them gives the one that does not. -/
theorem filter_documentLines_code (stream : StreamBehavior) (strip : Bool) (text : Text) :
    (documentLines ⟨true, stream, strip⟩ text).1.filter (fun line => !isCommentLine line) =
      (documentLines ⟨false, stream, strip⟩ text).1 := by
  have leaves (line : Text) : isLeftOut ⟨false, stream, strip⟩ line =
      (isLeftOut ⟨true, stream, strip⟩ line || !!isCommentLine line) := by
    rw [isCommentLine_eq, isLeftOut, isLeftOut, Options.skips, Options.skips]
    simp [Bool.or_assoc]
  have body : (bodyLines ⟨true, stream, strip⟩ (SyntaxVersion.detect text) text.lines).filter
      (fun line => !isCommentLine line) =
      bodyLines ⟨false, stream, strip⟩ (SyntaxVersion.detect text) text.lines :=
    filter_bodyLines (by rfl) (fun line => !isCommentLine line) leaves fun entry kept => by
      rw [isCommentLine_outputLine kept]
  have header {lines : List Text} (around : lines ⊆ importLines stream text.lines ++
      closingLines text.lines) : lines.filter (fun line => !isCommentLine line) = lines :=
    List.filter_eq_self.mpr fun line member => by rw [isCommentLine_header (around member)]; rfl
  rw [documentLines_eq, documentLines_eq, List.filter_append, List.filter_append, body,
    header (List.subset_append_left _ _), header (List.subset_append_right _ _)]

/-- A comment is left out by options that keep comments only as a statement. -/
theorem isLeftOut_of_comment {line : Text} (comment : isCommentLine line = true)
    (stream : StreamBehavior) (strip : Bool) :
    isLeftOut ⟨true, stream, strip⟩ line = isStatement line := by
  rw [isCommentLine_eq, decide_eq_true_eq] at comment
  have unmarked : line ≠ removalMark := by
    rintro rfl
    exact absurd comment (by decide)
  simp [isLeftOut, Options.skips, comment, unmarked]

/-- The comments of a document that keeps them are those of its schema, indented like every other
line. -/
theorem filter_documentLines_comments (stream : StreamBehavior) (strip : Bool) (text : Text) :
    (documentLines ⟨true, stream, strip⟩ text).1.filter isCommentLine =
      (text.lines.zipIdx.filter fun entry =>
          isCommentLine entry.1 && !isStatement entry.1).map fun entry =>
        nested (unitOf text.lines) (packageBefore text.lines entry.2) entry.1 := by
  have kept : (keptLines ⟨true, stream, strip⟩ text.lines).filter
      (isCommentLine ∘ outputLine ⟨true, stream, strip⟩ (SyntaxVersion.detect text)
        (unitOf text.lines) text.lines) =
      text.lines.zipIdx.filter fun entry => isCommentLine entry.1 && !isStatement entry.1 := by
    have told : (keptLines ⟨true, stream, strip⟩ text.lines).filter
        (isCommentLine ∘ outputLine ⟨true, stream, strip⟩ (SyntaxVersion.detect text)
          (unitOf text.lines) text.lines) =
        (keptLines ⟨true, stream, strip⟩ text.lines).filter fun entry => isCommentLine entry.1 :=
      List.filter_congr fun entry kept => isCommentLine_outputLine kept _
    rw [told, keptLines, List.filter_filter]
    apply List.filter_congr
    intro entry _
    cases comment : isCommentLine entry.1 with
    | false => rfl
    | true => rw [isLeftOut_of_comment comment]
  have header {lines : List Text} (around : lines ⊆ importLines stream text.lines ++
      closingLines text.lines) : lines.filter isCommentLine = [] :=
    List.filter_eq_nil_iff.mpr fun line member => by simp [isCommentLine_header (around member)]
  rw [documentLines_eq, List.filter_append, List.filter_append,
    header (List.subset_append_left _ _), header (List.subset_append_right _ _), bodyLines,
    List.filter_map, kept, List.nil_append, List.append_nil]
  apply List.map_congr_left
  intro entry member
  obtain ⟨listed, told⟩ := List.mem_filter.mp member
  rw [Bool.and_eq_true, isCommentLine_eq, decide_eq_true_eq] at told
  have keeps : Options.skips ⟨true, stream, strip⟩ entry.1 = false := by
    simp [Options.skips, told.1]
  rw [outputLine, renderAlone, emission_of_comment _ told.1 keeps]
  rfl

/-- Documents with and without blank lines have the same lines that are not empty. -/
theorem filter_documentLines_solid (stream : StreamBehavior) (keep : Bool) (text : Text) :
    (documentLines ⟨keep, stream, true⟩ text).1.filter (fun line => !line.isEmpty) =
      (documentLines ⟨keep, stream, false⟩ text).1.filter fun line => !line.isEmpty := by
  have body (strip : Bool) :
      (bodyLines ⟨keep, stream, strip⟩ (SyntaxVersion.detect text) text.lines).filter
        (fun line => !line.isEmpty) =
      bodyLines ⟨keep, stream, true⟩ (SyntaxVersion.detect text) text.lines := by
    refine filter_bodyLines (by rfl) (fun line => decide (LineKind.ofLine line ≠ .blank)) ?_ ?_
    · intro line
      by_cases blank : LineKind.ofLine line = .blank
      · simp [isLeftOut, Options.skips, blank]
      · simp [isLeftOut, Options.skips, blank]
    · intro entry kept
      rw [isEmpty_outputLine kept, decide_not]
  rw [documentLines_eq, documentLines_eq, List.filter_append, List.filter_append,
    List.filter_append, List.filter_append, body true, body false]

/-- The empty piece of a text without lines is not picked by what picks no empty line. -/
theorem filter_splitOn {tells : Text → Bool} (empty : tells [] = false) (options : Options)
    (text : Text) :
    ((renderDocument options text).text.splitOn '\n').filter tells =
      (documentLines options text).1.filter tells := by
  rw [splitOn_renderDocument]
  split
  · rename_i none
    rw [none]
    simp [empty]
  · rfl

/-- The empty piece of a text without lines makes no difference to what is joined. -/
theorem joinLines_filter_splitOn {tells : Text → Bool} (empty : tells [] = true)
    (options : Options) (text : Text) :
    Text.joinLines (((renderDocument options text).text.splitOn '\n').filter tells) =
      Text.joinLines ((documentLines options text).1.filter tells) := by
  rw [splitOn_renderDocument]
  split
  · rename_i none
    rw [none, List.filter_cons_of_pos empty]
    rfl
  · rfl

/-- **Keeping comments and keeping blank lines only adds lines.** Taking the comments away from a
document that keeps them gives the one that does not, and what is taken away are the comments of
the schema in order, each as it stands or after one unit; documents with and without blank lines
have the same lines that are not empty; and the reports are the same for all of them. -/
theorem comments_and_blanks_only_add_lines (stream : StreamBehavior) (text : Text) :
    let document (keepComments stripEmptyLines : Bool) : Rendering :=
      renderDocument ⟨keepComments, stream, stripEmptyLines⟩ text
    let written (keepComments stripEmptyLines : Bool) : List Text :=
      (document keepComments stripEmptyLines).text.splitOn '\n'
    (∀ strip, Text.joinLines ((written true strip).filter fun line => !isCommentLine line) =
        (document false strip).text ∧
      (written true strip).filter isCommentLine =
        (text.lines.zipIdx.filter fun entry =>
            isCommentLine entry.1 && !isStatement entry.1).map fun entry =>
          if packageBefore text.lines entry.2 then unitOf text.lines ++ entry.1 else entry.1) ∧
    (∀ keep, (written keep true).filter (fun line => !line.isEmpty) =
      (written keep false).filter fun line => !line.isEmpty) ∧
    (∀ keep strip, Warning.reports (document keep strip).warnings =
      Warning.reports (document false true).warnings) := by
  have comment : isCommentLine [] = false := by decide
  intro document written
  refine ⟨fun strip => ⟨?_, ?_⟩, ?_, ?_⟩
  · have joined : Text.joinLines ((written true strip).filter fun line => !isCommentLine line) =
        Text.joinLines ((documentLines ⟨true, stream, strip⟩ text).1.filter
          fun line => !isCommentLine line) :=
      joinLines_filter_splitOn (by rw [comment]; rfl) ⟨true, stream, strip⟩ text
    rw [filter_documentLines_code] at joined
    exact joined
  · rw [filter_splitOn comment, filter_documentLines_comments]
    apply List.map_congr_left
    intro entry member
    have told := (List.mem_filter.mp member).2
    have holds : entry.1.isEmpty = false := by
      rw [List.isEmpty_eq_false_iff]
      intro empty
      rw [empty, comment] at told
      contradiction
    rw [nested, holds, Bool.not_false, Bool.and_true]
  · intro keep
    rw [filter_splitOn (by rfl), filter_splitOn (by rfl), filter_documentLines_solid]
  · intro keep strip
    have warnings (options : Options) : (renderDocument options text).warnings =
        warningsAbout options (SyntaxVersion.detect text) text.lines := by
      rw [renderDocument, documentLines_eq]
    rw [warnings, warnings, warningsAbout_congr]

end ProtoInterfaces
