import ProtoInterfaces.Proofs.Schema.FieldHead
import ProtoInterfaces.Proofs.Schema.MethodDeclaration
import ProtoInterfaces.Proofs.Text.Condensed

/-!
# Gaps in methods and fields

The readers of methods and fields step over blanks wherever they stand and ask for a gap only where
a word must follow. So they read from a condensed line what they read from the line itself, and
lines with the same words declare the same. A line feed within a method line is the exception: it
ends a comment, and other blanks do not.
-/
namespace ProtoInterfaces

namespace Payload

/-- A type is read from the condensed text too. -/
theorem readType?_condensed (text : Text) :
    readType? (Text.condensed text) =
      (readType? text).map fun read => (read.1, Text.condensed read.2) := by
  have taken := Text.takeRun?_condensed isTypeCharacter
    fun _ => isTypeCharacter_eq_false_of_isBlank
  unfold readType?
  rw [taken]
  cases text.takeRun? isTypeCharacter with
  | none => rfl
  | some first =>
    simp only [Option.map_some, Text.skipBlanks_condensed, taken]
    cases first.2.skipBlanks.takeRun? isTypeCharacter with
    | none => rfl
    | some second =>
      simp only [Option.map_some]
      split <;> rfl

/-- A payload is read from the condensed text too. -/
theorem read?_condensed (text : Text) :
    read? (Text.condensed text) =
      (read? text).map fun read => (read.1, Text.condensed read.2) := by
  have opening : ∀ c ∈ ['('], isBlank c = false := Text.solid_of_all (by decide)
  have closing : ∀ c ∈ [')'], isBlank c = false := Text.solid_of_all (by decide)
  simp only [read?, bind, pure, Text.after?_condensed opening, Text.after?_condensed closing,
    Text.skipBlanks_condensed, readType?_condensed, Option.bind_map, Option.map_bind,
    Function.comp_def, Option.map_some]

end Payload

namespace Method

/-- A semicolon is dropped by taking it from the beginning, if it stands there. -/
theorem dropSemicolon_eq (text : Text) :
    dropSemicolon text = (Text.after? [';'] text).getD text := by
  unfold dropSemicolon
  split
  · rfl
  · rename_i other
    rw [Text.after?_eq_none_of_head other]
    rfl

/-- An empty body or a semicolon is dropped by taking it from the beginning, if it stands there. -/
theorem dropBody_eq (text : Text) : dropBody text =
    (((Text.after? ['{'] text).bind fun rest => Text.after? ['}'] rest.skipBlanks).or
      (Text.after? [';'] text)).getD text := by
  unfold dropBody
  split
  · rename_i rest
    have opened : Text.after? ['{'] ('{' :: rest) = some rest := rfl
    rw [opened, Option.bind_some]
    split
    · rename_i closed
      rw [closed]
      rfl
    · rename_i other
      rw [Text.after?_eq_none_of_head other]
      rfl
  · rfl
  · rename_i unopened unended
    rw [Text.after?_eq_none_of_head unopened, Text.after?_eq_none_of_head unended]
    rfl

/-- A semicolon is dropped from the condensed text too. -/
theorem dropSemicolon_condensed (text : Text) :
    dropSemicolon (Text.condensed text) = Text.condensed (dropSemicolon text) := by
  rw [dropSemicolon_eq, dropSemicolon_eq, Text.after?_condensed (Text.solid_of_all (by decide)),
    Option.getD_map]

/-- An empty body or a semicolon is dropped from the condensed text too. -/
theorem dropBody_condensed (text : Text) :
    dropBody (Text.condensed text) = Text.condensed (dropBody text) := by
  have solid (c : Char) (known : isBlank c = false) : ∀ d ∈ [c], isBlank d = false :=
    List.forall_mem_singleton.mpr known
  rw [dropBody_eq, dropBody_eq, Text.after?_condensed (solid '{' (by decide)),
    Text.after?_condensed (solid ';' (by decide)), ← Option.getD_map Text.condensed]
  simp only [Option.bind_map, Option.map_bind, Option.map_or, Function.comp_def,
    Text.skipBlanks_condensed, Text.after?_condensed (solid '}' (by decide))]

/-- Without a line feed a comment goes on to the end of the text. -/
theorem isComment_of_unfed {text : Text} (unfed : '\n' ∉ text) :
    isComment text = (text.head?.isNone || (Text.after? ['/', '/'] text).isSome) := by
  unfold isComment
  split
  · rfl
  · rename_i rest
    have inside : ∀ c ∈ rest, decide (c ≠ '\n') = true := by
      intro c member
      have among : c ∈ '/' :: '/' :: rest := by simp [member]
      exact decide_eq_true fun same => unfed (same ▸ among)
    have ended : (rest ++ []).dropWhile (fun c => c ≠ '\n') = [] :=
      List.dropWhile_append_of_pos inside
    rw [List.append_nil] at ended
    rw [ended]
    rfl
  · rename_i empty other
    have unslashed : Text.after? ['/', '/'] text = none := by
      rw [Option.eq_none_iff_forall_ne_some]
      intro rest taken
      exact other rest (Text.after?_eq_some_iff.mp taken)
    have begun : text.head? ≠ none := mt List.head?_eq_none_iff.mp empty
    rw [unslashed]
    simpa using begun

/-- What is left behind a body and a semicolon stands in the text. -/
theorem mem_of_mem_dropped {text : Text} {c : Char}
    (member : c ∈ (dropSemicolon (dropBody text.skipBlanks).skipBlanks).skipBlanks) : c ∈ text := by
  obtain ⟨_, _, body⟩ := exists_dropBody text.skipBlanks
  obtain ⟨_, _, semicolon⟩ := exists_dropSemicolon (dropBody text.skipBlanks).skipBlanks
  have behindSemicolon := (Text.leaves_skipBlanks _).mem member
  exact Text.mem_of_skipBlanks_eq body (Text.mem_of_skipBlanks_eq semicolon behindSemicolon)

/-- What may end a method line may end the condensed one, unless a line feed stands there. -/
theorem isTrailer_condensed {text : Text} (unfed : '\n' ∉ text) :
    isTrailer (Text.condensed text) = isTrailer text := by
  simp only [isTrailer, Text.skipBlanks_condensed, dropBody_condensed, dropSemicolon_condensed]
  have remarkUnfed := mt mem_of_mem_dropped unfed
  have condensedUnfed : '\n' ∉ Text.condensed
      (dropSemicolon (dropBody text.skipBlanks).skipBlanks).skipBlanks := fun member =>
    (Text.mem_of_mem_condensed member).elim (by decide) remarkUnfed
  rw [isComment_of_unfed condensedUnfed, isComment_of_unfed remarkUnfed,
    Text.head?_condensed_skipBlanks, Text.after?_condensed (Text.solid_of_all (by decide)),
    Option.isSome_map]

/-- Blanks at the beginning of a line do not matter to the method that it declares. -/
theorem ofLine?_skipBlanks (line : Text) : ofLine? line.skipBlanks = ofLine? line := by
  rw [ofLine?, ofLine?, Text.skipBlanks_skipBlanks]

/-- A method is read from the condensed line too, unless a line feed stands in it. -/
theorem ofLine?_condensed {line : Text} (unfed : '\n' ∉ line) :
    ofLine? (Text.condensed line) = ofLine? line := by
  have rpc : ∀ c ∈ "rpc".toList, isBlank c = false := Text.solid_of_all (by decide)
  have returns : ∀ c ∈ "returns".toList, isBlank c = false := Text.solid_of_all (by decide)
  have word := Text.takeRun?_condensed isWordCharacter
    fun _ => isWordCharacter_eq_false_of_isBlank
  simp only [ofLine?, bind, Text.skipBlanks_condensed, Text.after?_condensed rpc,
    Option.bind_map, Function.comp_def]
  refine Option.bind_congr fun afterRpc begun => ?_
  rw [Text.skipBlanks1?_condensed_bind rfl]
  refine Option.bind_congr fun fromName skipped => ?_
  simp only [word, Text.after?_condensed returns, Text.skipBlanks_condensed,
    Payload.read?_condensed, Option.bind_map, Function.comp_def]
  refine Option.bind_congr ?_
  rintro ⟨name, afterName⟩ named
  refine Option.bind_congr ?_
  rintro ⟨request, afterRequest⟩ takes
  refine Option.bind_congr fun afterReturns found => ?_
  refine Option.bind_congr ?_
  rintro ⟨response, rest⟩ gives
  -- What is left stands in the line, so no line feed ends a comment in it.
  have restUnfed : '\n' ∉ rest := by
    intro feed
    obtain ⟨_, given, _⟩ := Payload.read?_eq_some_iff.mp gives
    obtain ⟨_, taken, _⟩ := Payload.read?_eq_some_iff.mp takes
    have behindReturns := Text.mem_of_skipBlanks_eq given feed
    have behindRequest := Text.mem_of_skipBlanks_eq (Text.after?_eq_some_iff.mp found) behindReturns
    have behindName := Text.mem_of_skipBlanks_eq taken behindRequest
    have behindRpc := (Text.leaves_of_skipBlanks1? skipped).mem
      ((Text.leaves_of_takeRun? named).1.mem behindName)
    exact unfed (Text.mem_of_skipBlanks_eq (Text.after?_eq_some_iff.mp begun) behindRpc)
  rw [isTrailer_condensed restUnfed]

/-- Lines with the same words declare the same method, unless a line feed stands in one of them. -/
theorem ofLine?_eq_of_words_eq {line other : Text} (unfed : '\n' ∉ line)
    (otherUnfed : '\n' ∉ other) (same : line.words = other.words) :
    ofLine? line = ofLine? other := by
  have condensed {line : Text} (unfed : '\n' ∉ line) :
      ofLine? line = ofLine? (Text.condensed line.skipBlanks) := by
    rw [ofLine?_condensed fun feed => unfed ((Text.leaves_skipBlanks line).mem feed),
      ofLine?_skipBlanks]
  rw [condensed unfed, condensed otherUnfed, Text.condensed_skipBlanks_of_words_eq same]

end Method

namespace Cardinality

/-- What follows a label is read from the condensed text too, if something must follow. -/
theorem afterLabel?_condensed_bind {Result : Type} {next : Cardinality × Text → Option Result}
    (cardinality : Cardinality) (continues : next (cardinality, []) = none) (text : Text) :
    (cardinality.afterLabel? (Text.condensed text)).bind next =
      (cardinality.afterLabel? text).bind fun read => next (read.1, Text.condensed read.2) := by
  simp only [afterLabel?, bind, pure, Text.after?_condensed cardinality.solid_label,
    Option.bind_map, Function.comp_def, Option.bind_assoc, Option.bind_some]
  refine Option.bind_congr fun rest _ => ?_
  exact Text.skipBlanks1?_condensed_bind continues rest

/-- A label is read from the condensed text too, if something must follow. -/
theorem readLabel?_condensed_bind {Result : Type} {next : Cardinality × Text → Option Result}
    (continues : ∀ cardinality, next (cardinality, []) = none) (text : Text) :
    (readLabel? (Text.condensed text)).bind next =
      (readLabel? text).bind fun read => next (read.1, Text.condensed read.2) := by
  by_cases labelled : ∃ (cardinality : Cardinality) (rest : Text), text = cardinality.label ++ rest
  · obtain ⟨cardinality, rest, rfl⟩ := labelled
    rw [readLabel?_append, ← afterLabel?_condensed_bind cardinality (continues cardinality),
      Text.condensed_append_of_solid cardinality.solid_label, readLabel?_append]
  · have unlabelled (cardinality : Cardinality) : Text.after? cardinality.label text = none := by
      rw [Option.eq_none_iff_forall_ne_some]
      exact fun rest taken => labelled ⟨cardinality, rest, Text.after?_eq_some_iff.mp taken⟩
    have unread (text : Text) (none : ∀ cardinality : Cardinality,
        Text.after? cardinality.label text = none) : readLabel? text = .none := by
      simp [readLabel?, afterLabel?, none]
    have alsoUnlabelled (cardinality : Cardinality) :
        Text.after? cardinality.label (Text.condensed text) = none := by
      rw [Text.after?_condensed cardinality.solid_label, unlabelled, Option.map_none]
    rw [unread text unlabelled, unread _ alsoUnlabelled]
    rfl

end Cardinality

namespace Field

/-- A number is found behind an equality sign by its first digit. -/
theorem isNumbered_eq (text : Text) : isNumbered text =
    (Text.after? ['='] text.skipBlanks).any fun rest => rest.skipBlanks.head?.any isDecimalDigit := by
  unfold isNumbered
  split
  · rename_i rest signed
    have sign : Text.after? ['='] ('=' :: rest) = some rest := rfl
    rw [signed, sign, Option.any_some]
    split
    · rename_i numbered
      rw [numbered]
      rfl
    · rename_i ended
      rw [ended]
      rfl
  · rename_i unsigned
    rw [Text.after?_eq_none_of_head unsigned]
    rfl

/-- A number is found in the condensed text too. -/
theorem isNumbered_condensed (text : Text) : isNumbered (Text.condensed text) = isNumbered text := by
  have sign : ∀ c ∈ ['='], isBlank c = false := Text.solid_of_all (by decide)
  simp only [isNumbered_eq, Text.skipBlanks_condensed, Text.after?_condensed sign, Option.any_map,
    Text.head?_condensed_skipBlanks]

/-- Type and name are read from the condensed text too. -/
theorem readTypeAndName?_condensed (text : Text) :
    readTypeAndName? (Text.condensed text) = readTypeAndName? text := by
  have type := Text.takeRun?_condensed isTypeCharacter
    fun _ => isTypeCharacter_eq_false_of_isBlank
  have name := Text.takeRun?_condensed isWordCharacter
    fun _ => isWordCharacter_eq_false_of_isBlank
  simp only [readTypeAndName?, bind, type, Option.bind_map, Function.comp_def]
  refine Option.bind_congr ?_
  rintro ⟨type, afterType⟩ _
  rw [Text.skipBlanks1?_condensed_bind rfl]
  simp only [name, Option.bind_map, Function.comp_def, isNumbered_condensed]

/-- A field is read from the condensed line too. -/
theorem ofLine?_condensed (version : SyntaxVersion) (line : Text) :
    ofLine? version (Text.condensed line) = ofLine? version line := by
  have labelled (text : Text) : readLabelled? (Text.condensed text) = readLabelled? text := by
    simp only [readLabelled?, bind, pure]
    rw [Cardinality.readLabel?_condensed_bind fun _ => rfl]
    simp only [readTypeAndName?_condensed]
  simp only [ofLine?, readUnlabelled?, Text.skipBlanks_condensed, labelled,
    readTypeAndName?_condensed]

/-- Blanks at the beginning of a line do not matter to the field that it declares. -/
theorem ofLine?_skipBlanks (version : SyntaxVersion) (line : Text) :
    ofLine? version line.skipBlanks = ofLine? version line := by
  rw [ofLine?, ofLine?, Text.skipBlanks_skipBlanks]

/-- Lines with the same words declare the same field. -/
theorem ofLine?_eq_of_words_eq (version : SyntaxVersion) {line other : Text}
    (same : line.words = other.words) : ofLine? version line = ofLine? version other := by
  rw [← ofLine?_skipBlanks, ← ofLine?_condensed, Text.condensed_skipBlanks_of_words_eq same,
    ofLine?_condensed, ofLine?_skipBlanks]

end Field

end ProtoInterfaces
