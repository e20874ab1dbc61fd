import ProtoInterfaces.Proofs.Text.Condensed
import ProtoInterfaces.Proofs.Text.Lines

/-!
# Line ends

Lines may be ended by a line feed, by a carriage return, or by both. Whichever it is, the text is
divided into the same lines. The lines that begin after a line feed are all of the lines of a text
exactly if every line break ends with one; then only the lines matter to a reader that starts
where lines begin and steps over blanks.
-/
namespace ProtoInterfaces

/-- What ends a line. -/
inductive LineEnd where
  | lineFeed
  | carriageReturn
  | carriageReturnLineFeed
  deriving DecidableEq, Repr

/-- A line end as text. -/
def LineEnd.text : LineEnd → Text
  | .lineFeed => ['\n']
  | .carriageReturn => ['\r']
  | .carriageReturnLineFeed => ['\r', '\n']

/-- A line end is a run of blanks. -/
theorem LineEnd.blank (ending : LineEnd) :
    ending.text ≠ [] ∧ ∀ c ∈ ending.text, isBlank c = true := by
  cases ending <;> exact ⟨by decide, List.all_eq_true.mp (by decide)⟩

namespace Text

/-- Lines, each ended by a line feed. -/
def ofLines (lines : List Text) : Text := lines.flatMap fun line => line ++ ['\n']

/-- Whether every line break of a text ends with a line feed. -/
def isLineFed : Text → Bool
  | [] => true
  | '\r' :: '\n' :: rest => isLineFed rest
  | c :: rest => (!isLineBreak c || c = '\n') && isLineFed rest

/-- The text of a line and others. -/
theorem ofLines_cons (line : Text) (lines : List Text) :
    ofLines (line :: lines) = line ++ '\n' :: ofLines lines := by
  simp [ofLines]

/-- The text of lines and others. -/
theorem ofLines_append (lines others : List Text) :
    ofLines (lines ++ others) = ofLines lines ++ ofLines others := by
  simp [ofLines]

/-! ## Division into lines -/

/-- A character that breaks no line goes before the first line. -/
theorem lines_cons_plain {c : Char} (plain : isLineBreak c = false) (rest : Text) :
    lines (c :: rest) = extendFirst c (lines rest) := by
  have other : c ≠ '\r' := by
    rintro rfl
    contradiction
  rw [lines, if_neg (by simp [plain])]
  intro _ same
  exact absurd same other

/-- A line feed ends an empty line. -/
theorem lines_cons_lineFeed (rest : Text) : lines ('\n' :: rest) = [] :: lines rest := by
  rw [lines, if_pos (by decide)]
  intro _ same
  exact absurd same (by decide)

/-- A carriage return without a line feed after it ends an empty line. -/
theorem lines_cons_carriageReturn {rest : Text} (alone : rest.head? ≠ some '\n') :
    lines ('\r' :: rest) = [] :: lines rest := by
  rw [lines, if_pos (by decide)]
  rintro later _ rfl
  exact alone rfl

/-- An unbroken text before what ends a line is a line. -/
theorem lines_append {line ending : Text} {others : List Text} (unbroken : Unbroken line)
    (ends : lines ending = [] :: others) : lines (line ++ ending) = line :: others := by
  induction line with
  | nil => exact ends
  | cons c line ih =>
    have rest := ih (unbroken.of_subset (List.subset_cons_self c line))
    rw [List.cons_append, lines_cons_plain (unbroken c List.mem_cons_self), rest, extendFirst]

/-- Unbroken lines, each ended by a line feed, are the lines of their text. -/
theorem lines_ofLines {lines : List Text} (unbroken : ∀ line ∈ lines, Unbroken line) :
    Text.lines (ofLines lines) = lines := by
  induction lines with
  | nil => rfl
  | cons line lines ih =>
    obtain ⟨first, others⟩ := List.forall_mem_cons.mp unbroken
    rw [ofLines_cons, lines_append first (lines_cons_lineFeed _), ih others]

/-- Joined unbroken lines do not begin with a line feed, unless lines are ended by it alone. -/
theorem head?_join_ne_lineFeed {ending : LineEnd} (other : ending ≠ .lineFeed)
    {lines : List Text} (unbroken : ∀ line ∈ lines, Unbroken line) :
    (join ending.text lines).head? ≠ some '\n' := by
  have plain {line : Text} (member : line ∈ lines) : line.head? ≠ some '\n' := fun first =>
    (unbroken line member).noLineFeed (List.mem_of_mem_head? first)
  cases lines with
  | nil => exact Option.some_ne_none _ |>.symm
  | cons line lines =>
    cases lines with
    | nil => exact plain List.mem_cons_self
    | cons next lines =>
      rw [join, List.append_assoc]
      cases line with
      | nil =>
        cases ending with
        | lineFeed => exact absurd rfl other
        | carriageReturn => exact (by decide : some '\r' ≠ some '\n')
        | carriageReturnLineFeed => exact (by decide : some '\r' ≠ some '\n')
      | cons c line =>
        intro first
        exact plain List.mem_cons_self first
      exact List.cons_ne_nil _ _

/-- The first of several joined lines is the first line of the text. -/
theorem lines_join_cons_cons (ending : LineEnd) {line next : Text} {lines : List Text}
    (unbroken : ∀ other ∈ line :: next :: lines, Unbroken other) :
    Text.lines (join ending.text (line :: next :: lines)) =
      line :: Text.lines (join ending.text (next :: lines)) := by
  rw [join, List.append_assoc]
  · apply lines_append (unbroken line List.mem_cons_self)
    cases ending with
    | lineFeed => exact lines_cons_lineFeed _
    | carriageReturn =>
      apply lines_cons_carriageReturn
      exact head?_join_ne_lineFeed (by decide) fun other member =>
        unbroken other (List.mem_cons_of_mem _ member)
    | carriageReturnLineFeed => rfl
  · exact List.cons_ne_nil _ _

/-- Joined lines are divided into the same lines, whatever ends them. -/
theorem lines_join_congr (ending other : LineEnd) {lines : List Text}
    (unbroken : ∀ line ∈ lines, Unbroken line) :
    Text.lines (join ending.text lines) = Text.lines (join other.text lines) := by
  induction lines with
  | nil => rfl
  | cons line lines ih =>
    cases lines with
    | nil => rfl
    | cons next lines =>
      rw [lines_join_cons_cons ending unbroken, lines_join_cons_cons other unbroken,
        ih fun line member => unbroken line (List.mem_cons_of_mem _ member)]

/-! ## Texts whose line breaks end with line feeds -/

/-- An unbroken beginning does not matter to how lines are ended. -/
theorem isLineFed_append {line : Text} (unbroken : Unbroken line) (rest : Text) :
    isLineFed (line ++ rest) = isLineFed rest := by
  induction line with
  | nil => rfl
  | cons c line ih =>
    have plain := unbroken c List.mem_cons_self
    have other : c ≠ '\r' := by
      rintro rfl
      contradiction
    rw [List.cons_append, isLineFed, plain, ih (unbroken.of_subset (List.subset_cons_self c line))]
    · rfl
    · intro _ same
      exact absurd same other

/-- Every line break of joined unbroken lines ends with a line feed if their line ends do. -/
theorem isLineFed_join {ending : LineEnd} (fed : ending ≠ .carriageReturn) {lines : List Text}
    (unbroken : ∀ line ∈ lines, Unbroken line) : isLineFed (join ending.text lines) = true := by
  induction lines with
  | nil => rfl
  | cons line lines ih =>
    have first := unbroken line List.mem_cons_self
    cases lines with
    | nil =>
      have alone := isLineFed_append first []
      rwa [List.append_nil] at alone
    | cons next lines =>
      have rest := ih fun other member => unbroken other (List.mem_cons_of_mem _ member)
      rw [join, List.append_assoc, isLineFed_append first]
      · cases ending with
        | lineFeed =>
          rw [LineEnd.text, List.singleton_append, isLineFed]
          · exact rest
          · intro _ same
            exact absurd same (by decide)
        | carriageReturn => exact absurd rfl fed
        | carriageReturnLineFeed =>
          rw [LineEnd.text, List.cons_append, List.cons_append, isLineFed]
          exact rest
      · exact List.cons_ne_nil _ _

/-- A text whose line breaks end with line feeds is condensed like its lines. -/
theorem condensed_eq_of_isLineFed {text : Text} (fed : isLineFed text = true) :
    condensed text = condensed (ofLines text.lines) := by
  fun_induction isLineFed text with
  | case1 => rfl
  | case2 rest ih =>
    have blanks : ∀ c ∈ ['\r', '\n'], isBlank c = true := List.all_eq_true.mp (by decide)
    have single : ∀ c ∈ ['\n'], isBlank c = true := List.all_eq_true.mp (by decide)
    rw [lines, ofLines_cons]
    calc
      condensed ('\r' :: '\n' :: rest) = condense ' ' (condensed rest) :=
        condensed_gap_append (List.cons_ne_nil _ _) blanks rest
      _ = condense ' ' (condensed (ofLines (lines rest))) := by rw [ih fed]
      _ = condensed ([] ++ '\n' :: ofLines (lines rest)) :=
        (condensed_gap_append (List.cons_ne_nil _ _) single _).symm
  | case3 c rest single ih =>
    rw [Bool.and_eq_true, Bool.or_eq_true, Bool.not_eq_true', decide_eq_true_eq] at fed
    have same := ih fed.2
    rcases fed.1 with plain | rfl
    · rw [lines_cons_plain plain]
      cases divided : lines rest with
      | nil =>
        rw [divided] at same
        have blank : condensed ['\n'] = [] := by decide
        rw [extendFirst, ofLines_cons]
        calc
          condensed (c :: rest) = condensed ([c] ++ ofLines []) := condensed_append_congr [c] same
          _ = condensed ([c] ++ '\n' :: ofLines []) := condensed_append_congr [c] blank.symm
      | cons line others =>
        rw [divided] at same
        rw [extendFirst, ofLines_cons, List.cons_append, ← ofLines_cons]
        exact condensed_append_congr [c] same
    · rw [lines_cons_lineFeed, ofLines_cons]
      exact condensed_append_congr ['\n'] same

/-! ## Line starts -/

/-- A text without a line feed has no line start but its own. -/
theorem lineStarts_eq_singleton {text : Text} (noLineFeed : '\n' ∉ text) :
    text.lineStarts = [text] := by
  have none : lineStarts.afterLineFeeds text = [] := by
    induction text with
    | nil => rfl
    | cons c text ih =>
      rw [List.mem_cons, not_or] at noLineFeed
      rw [lineStarts.afterLineFeeds, if_neg (Ne.symm noLineFeed.1), ih noLineFeed.2]
  rw [lineStarts, none]

/-- A line begins where a text begins and behind a line without a line feed that it begins with. -/
theorem lineStarts_append_lineFeed {line : Text} (noLineFeed : '\n' ∉ line) (rest : Text) :
    (line ++ '\n' :: rest).lineStarts = (line ++ '\n' :: rest) :: rest.lineStarts := by
  have later : lineStarts.afterLineFeeds (line ++ '\n' :: rest) = rest.lineStarts := by
    induction line with
    | nil => rfl
    | cons c line ih =>
      rw [List.mem_cons, not_or] at noLineFeed
      rw [List.cons_append, lineStarts.afterLineFeeds, if_neg (Ne.symm noLineFeed.1),
        ih noLineFeed.2]
  rw [lineStarts, later]

/-! ## Unified line ends -/

/-- Whether every carriage return of a text stands before a line feed. -/
def isPaired : Text → Bool
  | [] => true
  | '\r' :: '\n' :: rest => isPaired rest
  | c :: rest => c ≠ '\r' && isPaired rest

/-- Unifying line ends leaves the lines as they are. -/
theorem lines_unifyLineEnds (text : Text) : lines (unifyLineEnds text) = lines text := by
  fun_induction unifyLineEnds text with
  | case1 => rfl
  | case2 rest ih => rw [lines_cons_lineFeed, ih, lines]
  | case3 c rest single ih =>
    by_cases returns : c = '\r'
    · subst returns
      have alone : rest.head? ≠ some '\n' := by
        intro fed
        obtain ⟨later, rfl⟩ := List.head?_eq_some_iff.mp fed
        exact single later rfl rfl
      rw [if_pos rfl, lines_cons_lineFeed, lines_cons_carriageReturn alone, ih]
    · have other (rest : Text) : lines (c :: rest) =
          if isLineBreak c then [] :: lines rest else extendFirst c (lines rest) := by
        rw [lines]
        exact fun _ same _ => returns same
      rw [if_neg returns, other, other, ih]

/-- Unifying line ends leaves a text without carriage returns as it is. -/
theorem unifyLineEnds_eq_self {text : Text} (absent : '\r' ∉ text) : unifyLineEnds text = text := by
  fun_induction unifyLineEnds text with
  | case1 => rfl
  | case2 rest => exact absurd List.mem_cons_self absent
  | case3 c rest _ ih =>
    rw [List.mem_cons, not_or] at absent
    rw [if_neg (Ne.symm absent.1), ih absent.2]

/-- Unifying line ends leaves the text as it is up to its gaps. -/
theorem condensed_unifyLineEnds (text : Text) :
    condensed (unifyLineEnds text) = condensed text := by
  have lineFeed : isBlank '\n' = true := by decide
  have carriageReturn : isBlank '\r' = true := by decide
  fun_induction unifyLineEnds text with
  | case1 => rfl
  | case2 rest ih =>
    rw [condensed_cons_of_blank lineFeed, condensed_cons_of_blank carriageReturn,
      condensed_cons_of_blank lineFeed, condense_space_twice, ih]
  | case3 c rest single ih =>
    by_cases returns : c = '\r'
    · rw [if_pos returns, returns, condensed_cons_of_blank lineFeed,
        condensed_cons_of_blank carriageReturn, ih]
    · rw [if_neg returns]
      exact condensed_append_congr [c] ih

/-- Unifying line ends neither adds line starts nor takes any away, if carriage returns stand before
line feeds alone. -/
theorem lineStarts_unifyLineEnds {text : Text} (paired : isPaired text = true) :
    (unifyLineEnds text).lineStarts = text.lineStarts.map unifyLineEnds := by
  have later : lineStarts.afterLineFeeds (unifyLineEnds text) =
      (lineStarts.afterLineFeeds text).map unifyLineEnds := by
    fun_induction isPaired text with
    | case1 => rfl
    | case2 rest ih =>
      change unifyLineEnds rest :: lineStarts.afterLineFeeds (unifyLineEnds rest) =
        unifyLineEnds rest :: (lineStarts.afterLineFeeds rest).map unifyLineEnds
      rw [ih paired]
    | case3 c rest single ih =>
      rw [Bool.and_eq_true, decide_eq_true_eq] at paired
      have unified : unifyLineEnds (c :: rest) = c :: unifyLineEnds rest := by
        rw [unifyLineEnds, if_neg paired.1]
        exact single
      rw [unified, lineStarts.afterLineFeeds, lineStarts.afterLineFeeds, ih paired.2]
      split <;> rfl
  rw [lineStarts, lineStarts, later]
  rfl

end Text

end ProtoInterfaces
