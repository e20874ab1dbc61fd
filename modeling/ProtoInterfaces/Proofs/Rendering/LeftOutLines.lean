import ProtoInterfaces.Proofs.Rendering.LineByLine

/-!
# Lines that are left out

A pass over the lines of a schema does not change at a line that is left out, and its output grows
at every other. So lines may be taken out of a schema without a change of what the others become,
under the same version and unit of indentation, exactly if every one of them is left out.
-/
namespace ProtoInterfaces

variable {options : Options} {version : SyntaxVersion}

/-- The pass over some lines of a schema. -/
def passOver (options : Options) (version : SyntaxVersion) (lines : List Text) : Progress :=
  (lines.map marked).foldl (Progress.advance options) { context := { version } }

/-- The pass is in the state that its lines say. -/
theorem passOver_eq (options : Options) (version : SyntaxVersion) (lines : List Text) :
    passOver options version lines = Progress.ofLines options version lines := by
  have run := foldl_advance options version [] lines
  rwa [ofLines_nil, List.nil_append] at run

/-- A pass goes on from where it stood. -/
theorem passOver_append (options : Options) (version : SyntaxVersion) (lines more : List Text) :
    passOver options version (lines ++ more) =
      (more.map marked).foldl (Progress.advance options) (passOver options version lines) := by
  rw [passOver, List.map_append, List.foldl_append, passOver]

/-- Lines that are left out do not change a pass. -/
theorem passOver_append_of_isLeftOut {more : List Text}
    (leftOut : ∀ line ∈ more, isLeftOut options line = true) (lines : List Text) :
    passOver options version (lines ++ more) = passOver options version lines := by
  rw [passOver_append]
  generalize passOver options version lines = progress
  induction more with
  | nil => rfl
  | cons line more ih =>
    rw [List.map_cons, List.foldl_cons, advance_of_isLeftOut _ (leftOut line List.mem_cons_self),
      ih fun other member => leftOut other (List.mem_cons_of_mem _ member)]

/-- Lines that are left out may stand anywhere in a schema. -/
theorem passOver_removed {removed : List Text}
    (leftOut : ∀ line ∈ removed, isLeftOut options line = true) (before after : List Text) :
    passOver options version (before ++ removed ++ after) =
      passOver options version (before ++ after) := by
  rw [passOver_append, passOver_append_of_isLeftOut leftOut, passOver_append]

/-- The lines that are kept are as many as are not left out. -/
theorem length_keptLines (options : Options) (lines : List Text) :
    (keptLines options lines).length = lines.countP fun line => !isLeftOut options line := by
  rw [keptLines, ← List.countP_eq_length_filter]
  have counted := List.countP_map (p := fun line => !isLeftOut options line)
    (f := Prod.fst) (l := lines.zipIdx)
  rw [List.zipIdx_map_fst] at counted
  exact counted.symm

/-- No line is kept exactly if every one is left out. -/
theorem countP_kept_eq_zero_iff {lines : List Text} :
    lines.countP (fun line => !isLeftOut options line) = 0 ↔
      ∀ line ∈ lines, isLeftOut options line = true := by
  simp [List.countP_eq_zero]

/-- The output of a pass does not grow exactly if every further line is left out. -/
theorem passOver_output_append_eq_iff {lines more : List Text} :
    (passOver options version (lines ++ more)).output = (passOver options version lines).output ↔
      ∀ line ∈ more, isLeftOut options line = true := by
  constructor
  · intro same
    have lengths := congrArg Array.size same
    simp only [passOver_eq, Progress.ofLines, List.size_toArray, length_flatLines,
      length_keptLines, List.countP_append] at lengths
    exact countP_kept_eq_zero_iff.mp (by omega)
  · intro leftOut
    rw [passOver_append_of_isLeftOut leftOut]

/-- The context of a pass does not change exactly if further lines declare no package, unless one is
declared before them, and no method with a stream, unless one was seen. -/
theorem passOver_context_append_eq_iff {lines more : List Text} :
    (passOver options version (lines ++ more)).context = (passOver options version lines).context ↔
      (lines.any declaresPackage = true ∨ more.any declaresPackage = false) ∧
        (lines.any declaresStream = true ∨ more.any declaresStream = false) := by
  simp only [passOver_eq, Progress.ofLines, List.any_append, Context.mk.injEq, true_and]
  cases lines.any declaresPackage <;> cases lines.any declaresStream <;> simp

/-! ## Whole documents -/

/-- The lines that those of a schema become under a version and a unit of indentation, with the
lines around them, and the warnings about them. -/
def renderedLines (options : Options) (version : SyntaxVersion) (unit : Text)
    (lines : List Text) : List Text × List Warning :=
  (importLines options.stream lines ++
      ((keptLines options lines).map (outputLine options version unit lines) ++
        closingLines lines),
    warningsAbout options version lines)

/-- A document is that of its lines under the version and the unit of its schema. -/
theorem documentLines_eq_renderedLines (options : Options) (text : Text) :
    documentLines options text =
      renderedLines options (SyntaxVersion.detect text) (unitOf text.lines) text.lines :=
  documentLines_eq options text

/-- Whether a stream is declared is all that matters to the import. -/
theorem importLines_congr (behavior : StreamBehavior) {lines others : List Text}
    (same : lines.any declaresStream = others.any declaresStream) :
    importLines behavior lines = importLines behavior others := by
  unfold importLines
  rw [same]

/-- Lines over which the pass ends alike are rendered alike. -/
theorem renderedLines_congr {lines others : List Text}
    (same : passOver options version lines = passOver options version others) (unit : Text) :
    renderedLines options version unit lines = renderedLines options version unit others := by
  simp only [passOver_eq, Progress.ofLines, Progress.mk.injEq, Context.mk.injEq] at same
  obtain ⟨⟨_, _, streams⟩, output, place, warnings⟩ := same
  have flat : flatLines options version lines = flatLines options version others := by
    simpa using output
  have warned : warningsAbout options version lines = warningsAbout options version others := by
    simpa using warnings
  rw [renderedLines, renderedLines, ← withNamespace_flatLines, ← withNamespace_flatLines, flat,
    place, importLines_congr options.stream streams, warned]

/-- The lines around those of a schema do not become fewer with more lines. -/
theorem length_around_le (behavior : StreamBehavior) {lines more : List Text}
    (inside : lines ⊆ more) :
    (importLines behavior lines).length + (closingLines lines).length ≤
      (importLines behavior more).length + (closingLines more).length := by
  have grows (declares : Text → Bool) (found : lines.any declares = true) :
      more.any declares = true := by
    rw [List.any_eq_true] at found ⊢
    obtain ⟨line, member, holds⟩ := found
    exact ⟨line, inside member, holds⟩
  apply Nat.add_le_add
  · cases found : lines.any declaresStream with
    | true =>
      have same := importLines_congr behavior (found.trans (grows _ found).symm)
      exact Nat.le_of_eq (congrArg List.length same)
    | false =>
      unfold importLines
      rw [found]
      exact Nat.zero_le _
  · cases found : lines.any declaresPackage with
    | true => simp [closingLines, found, grows _ found]
    | false => simp [closingLines, found]

/-- **Lines may be taken out of a schema** without a change of its document, under one version and
one unit of indentation, exactly if every one of them is left out. -/
theorem renderedLines_removed_iff {before removed after : List Text} (unit : Text) :
    renderedLines options version unit (before ++ removed ++ after) =
        renderedLines options version unit (before ++ after) ↔
      ∀ line ∈ removed, isLeftOut options line = true := by
  constructor
  · intro same
    have lengths := congrArg (fun rendered => rendered.1.length) same
    have around := length_around_le options.stream
      (show before ++ after ⊆ before ++ removed ++ after by simp)
    simp only [renderedLines, List.length_append, List.length_map, length_keptLines,
      List.countP_append] at lengths
    exact countP_kept_eq_zero_iff.mp (by omega)
  · intro leftOut
    exact renderedLines_congr (passOver_removed leftOut before after) unit

/-- Lines may be taken out of a schema without a change of its document, under the version and the
unit of the whole, exactly if every one of them is left out. -/
theorem documentLines_removed_iff {text : Text} {before removed after : List Text}
    (divided : text.lines = before ++ removed ++ after) :
    documentLines options text =
        renderedLines options (SyntaxVersion.detect text) (unitOf text.lines) (before ++ after) ↔
      ∀ line ∈ removed, isLeftOut options line = true := by
  rw [documentLines_eq_renderedLines, divided, renderedLines_removed_iff]

/-! ## The unit of indentation -/

/-- Whether a line may give a schema its unit of indentation: it is indented and no statement. -/
def givesUnit (line : Text) : Bool :=
  !isStatement line && decide ((Indentation.ofLine line).width ≠ 0)

/-- The first line that may give the unit gives it. -/
theorem unitOf_eq_find? (lines : List Text) :
    unitOf lines = (lines.find? givesUnit).elim [' ', ' '] indentOf := by
  simp only [unitOf, List.find?_filter, Bool.decide_and, Bool.decide_eq_true]
  rfl

/-- A line among others gives the unit if it may and none before it does. -/
theorem unitOf_insert (before after : List Text) (line : Text) :
    unitOf (before ++ line :: after) =
      if givesUnit line && !before.any givesUnit then indentOf line
      else unitOf (before ++ after) := by
  have found : before.any givesUnit = (before.find? givesUnit).isSome := by
    rw [Bool.eq_iff_iff, List.find?_isSome, List.any_eq_true]
  simp only [unitOf_eq_find?, List.find?_append, List.find?_cons, found]
  cases before.find? givesUnit <;> cases givesUnit line <;> rfl

/-- The unit of indentation of a schema does not depend on statements. -/
theorem unitOf_removed {line : Text} (stated : isStatement line = true)
    (before after : List Text) : unitOf (before ++ line :: after) = unitOf (before ++ after) := by
  rw [unitOf_insert, givesUnit, stated]
  rfl

end ProtoInterfaces
