import ProtoInterfaces.Proofs.Rendering.SingleLine
import ProtoInterfaces.Proofs.Schema.Gaps

/-!
# Layout of a line

Blanks matter to a line in two ways: they divide its words, and spaces and tabs before it indent
what it becomes. Lines with the same words are left out together, kept together with the same
warning, or become the same declaration, each under its own indentation (`RenderedAlike`). So a line
that is indented further becomes what it became before, indented further.
-/
namespace ProtoInterfaces

/-- The renderings of two lines that differ at most in their blanks. -/
inductive RenderedAlike (options : Options) (line other : Text) : Step → Step → Prop
  /-- Comments are left out. -/
  | dropped (skips : options.skips line = true) (alsoSkips : options.skips other = true)
      (context : Context) : RenderedAlike options line other (.drop context) (.drop context)
  /-- Comments are kept as they are. -/
  | comment (kind : LineKind.ofLine line = .comment) (alsoKind : LineKind.ofLine other = .comment)
      (context : Context) :
      RenderedAlike options line other (.emit context line) (.emit context other)
  /-- Lines that cannot be read are kept as they are, with warnings of one kind. -/
  | unread (code : LineKind.ofLine line ≠ .comment) (alsoCode : LineKind.ofLine other ≠ .comment)
      (context : Context) (expected : Expectation) :
      RenderedAlike options line other (.keepUnread context expected line)
        (.keepUnread context expected other)
  /-- Lines become one declaration, each under its own indentation. -/
  | declared (code : LineKind.ofLine line ≠ .comment) (alsoCode : LineKind.ofLine other ≠ .comment)
      (context : Context) (body : Text) :
      RenderedAlike options line other (.emit context (indentOf line ++ body))
        (.emit context (indentOf other ++ body))

/-- Lines with the same words that declare the same methods and fields are rendered alike. -/
theorem renderedAlike (options : Options) (context : Context) {line other : Text}
    (filled : line.words ≠ []) (same : line.words = other.words)
    (method : Method.ofLine? line = Method.ofLine? other)
    (field : Field.ofLine? context.version line = Field.ofLine? context.version other) :
    RenderedAlike options line other (renderLine options context line)
      (renderLine options context other) := by
  have kinds : LineKind.ofLine line = LineKind.ofLine other := congrArg LineKind.ofWords same
  by_cases commented : LineKind.ofLine other = .comment
  · have alsoCommented := kinds.trans commented
    simp only [renderLine]
    rw [show LineKind.ofWords line.words = .comment from alsoCommented,
      show LineKind.ofWords other.words = .comment from commented]
    cases keeps : options.keepComments with
    | true => exact .comment alsoCommented commented context
    | false =>
      exact .dropped (by simp [Options.skips, alsoCommented, keeps])
        (by simp [Options.skips, commented, keeps]) context
  · have code : LineKind.ofLine line ≠ .comment := fun kind => commented (kinds.symm.trans kind)
    simp only [renderLine, same, method, field]
    cases kind : LineKind.ofWords other.words with
    | blank =>
      rw [same] at filled
      exact absurd kind (LineKind.ofWords_ne_blank filled)
    | comment => exact absurd kind commented
    | blockClose => exact .declared code commented context _
    | messageOpen | serviceOpen | package =>
      dsimp only
      split
      · exact .unread code commented context _
      · exact .declared code commented _ _
    | method =>
      cases Method.ofLine? other with
      | none => exact .unread code commented context _
      | some declared => exact .declared code commented _ _
    | field =>
      cases Field.ofLine? context.version other with
      | none => exact .unread code commented context _
      | some declared => exact .declared code commented context _

/-- Spaces or tabs before a line that is not indented are its indentation. -/
theorem indentOf_replicate_append (width : Nat) {c : Char} (indents : Indentation.indents c = true)
    {line : Text} (filled : line ≠ []) (bare : ∀ d ∈ line.head?, Indentation.indents d = false) :
    indentOf (List.replicate width c ++ line) = List.replicate width c := by
  have inside : ∀ d ∈ List.replicate width c, Indentation.indents d = true := fun d member =>
    List.eq_of_mem_replicate member ▸ indents
  have behind := (Text.span_append inside bare).2
  have wide : (List.replicate width c ++ line).length - line.length = width := by simp
  have found : Indentation.ofLine? (List.replicate width c ++ line) =
      some (if width = 0 then .none else ⟨width, some c⟩) := by
    simp only [Indentation.ofLine?, behind, wide, List.isEmpty_eq_false_iff.mpr filled]
    cases width <;> rfl
  rw [indentOf, Indentation.ofLine, Option.get_of_eq_some _ found]
  cases width <;> rfl

/-- **Layout matters to the indentation alone.** Lines with the same words and without line feeds
are rendered alike. So as many spaces or tabs as are put before a line that is neither indented nor
left out stand before what it becomes. -/
theorem layout_matters_to_indentation_only (options : Options) (context : Context) :
    (∀ line other : Text, '\n' ∉ line → '\n' ∉ other → line.words ≠ [] →
      line.words = other.words →
      RenderedAlike options line other (renderLine options context line)
        (renderLine options context other)) ∧
    ∀ line : Text, line.words ≠ [] → (∀ d ∈ line.head?, Indentation.indents d = false) →
      options.skips line = false →
      ∀ (width : Nat) (c : Char), Indentation.indents c = true →
        ∃ content, (renderLine options context line).emission = .line content ∧
          (renderLine options context (List.replicate width c ++ line)).emission =
            .line (List.replicate width c ++ content) := by
  refine ⟨fun line other unfed otherUnfed filled same => renderedAlike options context filled same
    (Method.ofLine?_eq_of_words_eq unfed otherUnfed same)
    (Field.ofLine?_eq_of_words_eq context.version same), ?_⟩
  intro line filled bare kept width c indents
  have blanks : ∀ d ∈ List.replicate width c, isBlank d = true := fun d member =>
    List.eq_of_mem_replicate member ▸ isBlank_of_indents indents
  have holds : line ≠ [] := by
    rintro rfl
    exact filled Text.words_nil
  have skipped := Text.skipBlanks_gap_append blanks line
  have alike := renderedAlike options context filled (Text.words_append_of_blanks blanks line).symm
    (by rw [Method.ofLine?, Method.ofLine?, skipped]) (by rw [Field.ofLine?, Field.ofLine?, skipped])
  have own : indentOf line = [] := indentOf_replicate_append 0 indents holds bare
  have other := indentOf_replicate_append width indents holds bare
  generalize renderLine options context line = step at alike ⊢
  generalize renderLine options context (List.replicate width c ++ line) = further at alike ⊢
  cases alike with
  | dropped skips =>
    rw [kept] at skips
    contradiction
  | comment => exact ⟨line, rfl, rfl⟩
  | unread => exact ⟨line, rfl, rfl⟩
  | declared code alsoCode after body =>
    refine ⟨body, ?_, ?_⟩
    · rw [own]
      rfl
    · rw [other]
      rfl

/-- A method line with blanks of other kinds between its words becomes the same signature, and one
that is indented by three spaces becomes it behind three spaces. -/
theorem scattered_method_rendered_alike :
    let line : Text := "rpc Get(Id) returns (Item);".toList
    let other : Text := "\t rpc\u00A0Get(Id)\treturns \u2003(Item);\r".toList
    let signature : Text := "get (id: Id): Item".toList
    line.words = other.words ∧
      RenderedAlike {} line other (renderLine {} {} line) (renderLine {} {} other) ∧
      (renderLine {} {} other).emission = .line (['\t', '\t'] ++ signature) ∧
      (renderLine {} {} (List.replicate 3 ' ' ++ line)).emission =
        .line ([' ', ' ', ' '] ++ signature) := by
  intro line other signature
  obtain ⟨alike, indented⟩ := layout_matters_to_indentation_only {} {}
  have same : line.words = other.words := by decide
  have filled : line.words ≠ [] := by decide
  have becomes : (renderLine {} {} line).emission = .line signature := by decide +kernel
  have bare : ∀ d ∈ line.head?, Indentation.indents d = false := by
    intro d first
    obtain rfl : 'r' = d := Option.some.inj first
    decide
  obtain ⟨content, own, further⟩ := indented line filled bare (by decide) 3 ' ' (by decide)
  obtain rfl : signature = content := Emission.line.inj (becomes.symm.trans own)
  exact ⟨same, alike line other (by decide) (by decide) filled same, by decide +kernel, further⟩

end ProtoInterfaces
