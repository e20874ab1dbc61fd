import ProtoInterfaces.Proofs.Text.LineEnds
import ProtoInterfaces.Proofs.Text.Reading
import ProtoInterfaces.Proofs.Text.Words
import ProtoInterfaces.Schema.Version

/-!
# Where a schema states its version

A complete `syntax` statement is taken apart into its words and the blanks between them. It is read
from a text exactly if the text begins with one, so what follows it does not matter, and neither
does the length of its gaps. Where every line break ends with a line feed, the statement of a schema
is the first that begins on one of its lines; lines may be taken out of a schema without a change
of its version if no statement begins on one of them or runs across them.
-/
namespace ProtoInterfaces

/-! ## Statements -/

/-- The parts of a `syntax` statement. -/
structure SyntaxStatement where
  /-- Blanks before the keyword. -/
  lead : Text
  /-- Blanks before the equality sign. -/
  gap : Text
  /-- Blanks before the first quote. -/
  space : Text
  /-- The first quote. -/
  opening : Char
  /-- The version that is stated. -/
  version : SyntaxVersion
  /-- The second quote. -/
  closing : Char
  /-- Blanks before the semicolon. -/
  trail : Text
  leadBlank : ∀ c ∈ lead, isBlank c = true
  gapBlank : ∀ c ∈ gap, isBlank c = true
  spaceBlank : ∀ c ∈ space, isBlank c = true
  openingQuote : opening = '"' ∨ opening = '\''
  closingQuote : closing = '"' ∨ closing = '\''
  trailBlank : ∀ c ∈ trail, isBlank c = true

/-- A character that may stand in a statement before the semicolon. -/
def isStatementCharacter (c : Char) : Bool :=
  isBlank c || "syntax=\"'proto23".toList.contains c

namespace SyntaxStatement

/-- The statement up to the semicolon. -/
def front (statement : SyntaxStatement) : Text :=
  statement.lead ++ ("syntax".toList ++ (statement.gap ++ '=' :: (statement.space ++
    statement.opening :: (statement.version.name ++ statement.closing :: statement.trail))))

/-- What stands before the semicolon consists of blanks and of the characters of the words. -/
theorem isStatementCharacter_of_mem_front (statement : SyntaxStatement) {c : Char}
    (member : c ∈ statement.front) : isStatementCharacter c = true := by
  have blank {text : Text} (blanks : ∀ d ∈ text, isBlank d = true) (inside : c ∈ text) :
      isStatementCharacter c = true := by
    simp [isStatementCharacter, blanks c inside]
  have quote {d : Char} (known : d = '"' ∨ d = '\'') : isStatementCharacter d = true := by
    rcases known with rfl | rfl <;> decide
  have named : ∀ version : SyntaxVersion,
      version.name.all isStatementCharacter = true := by
    intro version
    cases version <;> decide
  have keyword : "syntax".toList.all isStatementCharacter = true := by decide
  simp only [front, List.mem_append, List.mem_cons] at member
  rcases member with lead | word | gap | rfl | space | rfl | name | rfl | trail
  · exact blank statement.leadBlank lead
  · exact List.all_eq_true.mp keyword c word
  · exact blank statement.gapBlank gap
  · decide
  · exact blank statement.spaceBlank space
  · exact quote statement.openingQuote
  · exact List.all_eq_true.mp (named statement.version) c name
  · exact quote statement.closingQuote
  · exact blank statement.trailBlank trail

end SyntaxStatement

namespace SyntaxVersion

/-- What follows a quote is read off exactly if the text begins with a quote. -/
theorem afterQuote?_eq_some_iff {text rest : Text} :
    afterQuote? text = some rest ↔
      ∃ quote, (quote = '"' ∨ quote = '\'') ∧ text = quote :: rest := by
  unfold afterQuote?
  constructor
  · intro read
    split at read
    · exact ⟨'"', .inl rfl, by rw [Option.some.inj read]⟩
    · exact ⟨'\'', .inr rfl, by rw [Option.some.inj read]⟩
    · contradiction
  · rintro ⟨quote, rfl | rfl, rfl⟩ <;> rfl

/-- A name is read off exactly if it is that of a version and the text begins with it. -/
theorem readName?_eq_some_iff {text name rest : Text} :
    readName? text = some (name, rest) ↔
      ∃ version : SyntaxVersion, name = version.name ∧ text = version.name ++ rest := by
  constructor
  · intro read
    unfold readName? at read
    split at read
    · rename_i digit later taken
      rw [Text.after?_eq_some_iff] at taken
      split at read
      · rename_i known
        obtain ⟨rfl, rfl⟩ := Prod.mk.inj (Option.some.inj read)
        rw [Bool.or_eq_true, decide_eq_true_eq, decide_eq_true_eq] at known
        rcases known with rfl | rfl
        · exact ⟨.proto2, rfl, taken⟩
        · exact ⟨.proto3, rfl, taken⟩
      · contradiction
    · contradiction
  · rintro ⟨version, rfl, rfl⟩
    cases version <;> rfl

/-- **A name is read from a text exactly if the text begins with a statement that gives it.** -/
theorem nameInStatement?_eq_some_iff {text name : Text} :
    nameInStatement? text = some name ↔ ∃ (statement : SyntaxStatement) (rest : Text),
      text = statement.front ++ ';' :: rest ∧ name = statement.version.name := by
  simp only [nameInStatement?, bind, pure, Option.bind_eq_some_iff, Option.some.injEq]
  constructor
  · rintro ⟨afterWord, word, afterSign, sign, quoted, opened, ⟨_, named⟩, read, unquoted, closed,
      rest, ended, rfl⟩
    obtain ⟨lead, text_eq, leadBlank⟩ := Text.leaves_skipBlanks text
    obtain ⟨gap, afterWord_eq, gapBlank⟩ := Text.leaves_skipBlanks afterWord
    obtain ⟨space, afterSign_eq, spaceBlank⟩ := Text.leaves_skipBlanks afterSign
    obtain ⟨trail, unquoted_eq, trailBlank⟩ := Text.leaves_skipBlanks unquoted
    obtain ⟨opening, openingQuote, opening_eq⟩ := afterQuote?_eq_some_iff.mp opened
    obtain ⟨closing, closingQuote, (closing_eq : named = closing :: unquoted)⟩ :=
      afterQuote?_eq_some_iff.mp closed
    obtain ⟨version, rfl, named_eq⟩ := readName?_eq_some_iff.mp read
    rw [Text.after?_eq_some_iff] at word sign ended
    refine ⟨⟨lead, gap, space, opening, version, closing, trail, leadBlank, gapBlank, spaceBlank,
      openingQuote, closingQuote, trailBlank⟩, rest, ?_, rfl⟩
    rw [text_eq, word, afterWord_eq, sign, afterSign_eq, opening_eq, named_eq, closing_eq,
      unquoted_eq, ended]
    simp [SyntaxStatement.front]
  · rintro ⟨statement, rest, rfl, rfl⟩
    have solid {quote : Char} (known : quote = '"' ∨ quote = '\'') : isBlank quote = false := by
      rcases known with rfl | rfl <;> decide
    let unquoted := statement.trail ++ ';' :: rest
    let quoted := statement.version.name ++ statement.closing :: unquoted
    let afterSign := statement.space ++ statement.opening :: quoted
    let afterWord := statement.gap ++ '=' :: afterSign
    have text : statement.front ++ ';' :: rest =
        statement.lead ++ 's' :: ("yntax".toList ++ afterWord) := by
      simp [SyntaxStatement.front, afterWord, afterSign, quoted, unquoted]
    refine ⟨afterWord, ?_, afterSign, ?_, quoted, ?_, (statement.version.name, _),
      readName?_eq_some_iff.mpr ⟨statement.version, rfl, rfl⟩, unquoted,
      afterQuote?_eq_some_iff.mpr ⟨statement.closing, statement.closingQuote, rfl⟩, rest, ?_, rfl⟩
    · rw [text, Text.skipBlanks_append statement.leadBlank (by decide), Text.after?_eq_some_iff]
      rfl
    · rw [Text.skipBlanks_append statement.gapBlank (by decide), Text.after?_eq_some_iff]
      rfl
    · rw [Text.skipBlanks_append statement.spaceBlank (solid statement.openingQuote),
        afterQuote?_eq_some_iff]
      exact ⟨statement.opening, statement.openingQuote, rfl⟩
    · rw [Text.skipBlanks_append statement.trailBlank (by decide), Text.after?_eq_some_iff]
      rfl

/-- What follows a statement does not matter to the name that is read. -/
theorem nameInStatement?_append {text name : Text} (read : nameInStatement? text = some name)
    (more : Text) : nameInStatement? (text ++ more) = some name := by
  obtain ⟨statement, rest, rfl, rfl⟩ := nameInStatement?_eq_some_iff.mp read
  exact nameInStatement?_eq_some_iff.mpr ⟨statement, rest ++ more, by simp, rfl⟩

/-- A statement ends before the first character that may not stand in one, or at a semicolon
before it. -/
theorem nameInStatement?_append_foreign {c : Char} (foreign : isStatementCharacter c = false)
    (text rest : Text) {front : Text} (unended : ';' ∉ c :: front) :
    nameInStatement? (text ++ (front ++ c :: rest)) = nameInStatement? text := by
  cases read : nameInStatement? text with
  | some name => exact nameInStatement?_append read _
  | none =>
    rw [Option.eq_none_iff_forall_ne_some]
    intro name longer
    obtain ⟨statement, after, parted, rfl⟩ := nameInStatement?_eq_some_iff.mp longer
    have incomplete (tail : Text) : text ≠ statement.front ++ ';' :: tail := by
      rintro rfl
      have complete := nameInStatement?_eq_some_iff.mpr ⟨statement, tail, rfl, rfl⟩
      rw [read] at complete
      contradiction
    have absent : c ∉ statement.front ++ [';'] := by
      rw [List.mem_append, List.mem_singleton]
      rintro (inside | rfl)
      · rw [statement.isStatementCharacter_of_mem_front inside] at foreign
        contradiction
      · exact unended List.mem_cons_self
    have whole : text ++ (front ++ c :: rest) = (statement.front ++ [';']) ++ after := by
      simp [parted]
    rcases List.append_eq_append_iff.mp whole with ⟨beyond, reaches, more⟩ | ⟨within, ended, _⟩
    · -- What the statement has beyond the text stops before the foreign character, yet ends it.
      have early : beyond <+: front ++ [c] := by
        have begins : front ++ [c] <+: front ++ c :: rest := by simp
        rcases List.prefix_or_prefix_of_prefix (more ▸ List.prefix_append beyond after) begins with
          early | late
        · exact early
        · exact absurd (reaches ▸ List.mem_append_right text (late.subset (by simp))) absent
      rcases List.eq_nil_or_concat beyond with rfl | ⟨others, last, rfl⟩
      · rw [List.append_nil] at reaches
        exact incomplete [] reaches.symm
      · rw [List.concat_eq_append, ← List.append_assoc] at reaches
        obtain rfl : ';' = last := by simpa using congrArg List.getLast? reaches
        have inside : ';' ∈ front ++ [c] := early.subset (by simp)
        exact unended (by simpa [or_comm] using inside)
    · exact incomplete within (by simp [ended])

/-! ## Gaps -/

/-- A quote is taken from the condensed text too. -/
theorem afterQuote?_condensed (text : Text) :
    afterQuote? (Text.condensed text) = (afterQuote? text).map Text.condensed := by
  have either (text : Text) :
      afterQuote? text = (Text.after? ['"'] text).or (Text.after? ['\''] text) := by
    cases text with
    | nil => rfl
    | cons c rest =>
      by_cases double : c = '"'
      · subst double
        rfl
      · by_cases single : c = '\''
        · subst single
          rfl
        · simp [afterQuote?, Text.after?, double, single, Ne.symm double, Ne.symm single]
  rw [either, either, Text.after?_condensed (Text.solid_of_all (by decide)),
    Text.after?_condensed (Text.solid_of_all (by decide))]
  cases Text.after? ['"'] text <;> rfl

/-- A name is taken from the condensed text too. -/
theorem readName?_condensed (text : Text) :
    readName? (Text.condensed text) =
      (readName? text).map fun read => (read.1, Text.condensed read.2) := by
  have solid : ∀ c ∈ "proto".toList, isBlank c = false := Text.solid_of_all (by decide)
  have proto := Text.after?_condensed solid text
  simp only [readName?, proto]
  cases Text.after? "proto".toList text with
  | none => rfl
  | some rest =>
    cases rest with
    | nil => rfl
    | cons c rest =>
      simp only [Option.map_some]
      cases blank : isBlank c with
      | true =>
        have second : c ≠ '2' := Text.ne_of_class blank (by decide)
        have third : c ≠ '3' := Text.ne_of_class blank (by decide)
        rw [Text.condensed_cons_of_blank blank]
        rcases Text.condense_space (Text.condensed rest) with none | ⟨later, some⟩
        · simp [none, second, third]
        · simp [some, second, third]
      | false =>
        rw [Text.condensed_cons_of_solid blank]
        by_cases known : c = '2' ∨ c = '3' <;> simp [known]

/-- **The name in a statement does not depend on the lengths of its gaps.** -/
theorem nameInStatement?_condensed (text : Text) :
    nameInStatement? (Text.condensed text) = nameInStatement? text := by
  have taken (opening : Text) (solid : opening.all (fun c => !isBlank c) = true) (text : Text) :=
    Text.after?_condensed (Text.solid_of_all solid) text
  simp only [nameInStatement?, bind, pure, Text.skipBlanks_condensed,
    taken "syntax".toList (by decide), taken ['='] (by decide), taken [';'] (by decide),
    afterQuote?_condensed, readName?_condensed,
    Option.bind_map, Function.comp_def]

/-! ## Statements among lines -/

/-- The name in the first statement that begins on one of some lines. -/
def statedAmong : List Text → Option Text
  | [] => none
  | line :: rest => (nameInStatement? (Text.ofLines (line :: rest))).or (statedAmong rest)

/-- Whether a statement begins on one of some lines, with others after them. -/
def beginsAmong : List Text → List Text → Bool
  | [], _ => false
  | line :: rest, after =>
    (nameInStatement? (Text.ofLines (line :: rest ++ after))).isSome || beginsAmong rest after

/-- Whether a statement begins on one of some lines and ends only on those after them. -/
def runsAcross : List Text → List Text → Bool
  | [], _ => false
  | line :: rest, after =>
    ((Text.ofLines (line :: rest)).any (fun c => !isBlank c) &&
        (nameInStatement? (Text.ofLines (line :: rest))).isNone &&
        (nameInStatement? (Text.ofLines (line :: rest ++ after))).isSome) ||
      runsAcross rest after

/-- Whether a line holds a character that may not stand in a statement, before any semicolon. -/
def halts (line : Text) : Bool :=
  (line.dropWhile isStatementCharacter).head?.any fun c => c ≠ ';'

/-- Blanks before a text do not matter to the name in its statement. -/
theorem nameInStatement?_append_of_blanks {lead : Text} (blanks : ∀ c ∈ lead, isBlank c = true)
    (text : Text) : nameInStatement? (lead ++ text) = nameInStatement? text := by
  have skipped : Text.skipBlanks (lead ++ text) = Text.skipBlanks text :=
    List.dropWhile_append_of_pos blanks
  rw [nameInStatement?, nameInStatement?, skipped]

/-- No statement begins on one of some lines of blanks and ends there. -/
theorem statedAmong_of_blanks {lines : List Text}
    (blanks : ∀ c ∈ Text.ofLines lines, isBlank c = true) : statedAmong lines = none := by
  induction lines with
  | nil => rfl
  | cons line lines ih =>
    have empty := nameInStatement?_append_of_blanks blanks []
    rw [List.append_nil] at empty
    rw [Text.ofLines_cons] at blanks
    rw [statedAmong, empty, ih fun c member => blanks c (by simp [member])]
    rfl

/-- **The name that a schema states** is that in the first statement that begins on one of its
lines, if every line break ends with a line feed. -/
theorem statedName?_eq_statedAmong {text : Text} (fed : Text.isLineFed text = true) :
    statedName? text = statedAmong text.lines := by
  have first {text : Text} (fed : Text.isLineFed text = true) :
      nameInStatement? text = nameInStatement? (Text.ofLines text.lines) := by
    rw [← nameInStatement?_condensed, Text.condensed_eq_of_isLineFed fed,
      nameInStatement?_condensed]
  have split (lines : List Text) : statedAmong lines =
      (nameInStatement? (Text.ofLines lines)).or (statedAmong lines.tail) := by
    cases lines <;> rfl
  have whole {text : Text} : (text :: Text.lineStarts.afterLineFeeds text).findSome?
      nameInStatement? = (nameInStatement? text).or
        ((Text.lineStarts.afterLineFeeds text).findSome? nameInStatement?) := by
    rw [List.findSome?_cons]
    cases nameInStatement? text <;> rfl
  have later : (Text.lineStarts.afterLineFeeds text).findSome? nameInStatement? =
      statedAmong text.lines.tail := by
    fun_induction Text.isLineFed text with
    | case1 => rfl
    | case2 rest ih =>
      change (rest :: Text.lineStarts.afterLineFeeds rest).findSome? nameInStatement? =
        statedAmong (Text.lines rest)
      rw [whole, split, first fed, ih fed]
    | case3 c rest single ih =>
      rw [Bool.and_eq_true, Bool.or_eq_true, Bool.not_eq_true', decide_eq_true_eq] at fed
      rw [Text.lineStarts.afterLineFeeds]
      rcases fed.1 with plain | rfl
      · have other : c ≠ '\n' := by
          rintro rfl
          contradiction
        have tail : (Text.extendFirst c (Text.lines rest)).tail = (Text.lines rest).tail := by
          cases Text.lines rest <;> rfl
        rw [if_neg other, Text.lines_cons_plain plain, tail, ih fed.2]
      · rw [if_pos rfl, Text.lines_cons_lineFeed, List.tail_cons, whole, split, first fed.2,
          ih fed.2]
  rw [statedName?, Text.lineStarts, whole, split, first fed, later]

/-- A line halts statements if a character that may not stand in one follows some that may. -/
theorem halts_append {front : Text} (plain : ∀ c ∈ front, isStatementCharacter c = true) {c : Char}
    (foreign : isStatementCharacter c = false) (other : c ≠ ';') (rest : Text) :
    halts (front ++ c :: rest) = true := by
  rw [halts, List.dropWhile_append_of_pos plain, List.dropWhile_cons_of_neg (by simp [foreign])]
  simpa using other

/-- What stands in a line that halts statements. -/
theorem exists_foreign_of_halts {line : Text} (halting : halts line = true) :
    ∃ front c rest, line = front ++ c :: rest ∧ isStatementCharacter c = false ∧
      ';' ∉ c :: front := by
  unfold halts at halting
  cases held : line.dropWhile isStatementCharacter with
  | nil =>
    rw [held] at halting
    contradiction
  | cons c rest =>
    rw [held, List.head?_cons, Option.any_some, decide_eq_true_eq] at halting
    refine ⟨line.takeWhile isStatementCharacter, c, rest, ?_, ?_, ?_⟩
    · rw [← held, List.takeWhile_append_dropWhile]
    · exact Text.head?_dropWhile_outside isStatementCharacter line c (by rw [held]; rfl)
    · rw [List.mem_cons]
      rintro (same | inside)
      · exact halting same.symm
      · have stands := Text.mem_takeWhile_inside isStatementCharacter line ';' inside
        contradiction

/-- A line that halts statements ends the text in which one may begin. -/
theorem nameInStatement?_append_of_halts {line : Text} (halting : halts line = true)
    (text more : Text) : nameInStatement? (text ++ (line ++ more)) = nameInStatement? text := by
  obtain ⟨front, c, rest, rfl, outside, unended⟩ := exists_foreign_of_halts halting
  rw [List.append_assoc, List.cons_append, nameInStatement?_append_foreign outside _ _ unended]

/-- A line that halts statements is not run into by those that begin before it. -/
theorem runsAcross_eq_false_of_halts {line : Text} (halting : halts line = true)
    (before after : List Text) : runsAcross before (line :: after) = false := by
  induction before with
  | nil => rfl
  | cons first before ih =>
    have stays : nameInStatement? (Text.ofLines (first :: before ++ line :: after)) =
        nameInStatement? (Text.ofLines (first :: before)) := by
      rw [Text.ofLines_append, Text.ofLines_cons line, nameInStatement?_append_of_halts halting]
    rw [runsAcross, ih, stays, Bool.or_false]
    cases nameInStatement? (Text.ofLines (first :: before)) <;> simp

/-- No statement begins on lines of which each is blank or halts statements, if the last of them
does so. -/
theorem beginsAmong_eq_false {lines : List Text}
    (each : ∀ line ∈ lines, halts line = true ∨ ∀ c ∈ line, isBlank c = true)
    (last : ∀ line ∈ lines.getLast?, halts line = true) (after : List Text) :
    beginsAmong lines after = false := by
  induction lines with
  | nil => rfl
  | cons line lines ih =>
    have rest : beginsAmong lines after = false := by
      apply ih fun other member => each other (List.mem_cons_of_mem _ member)
      intro other found
      cases lines with
      | nil => contradiction
      | cons next lines => exact last other (by rwa [List.getLast?_cons_cons])
    rw [beginsAmong, rest, Bool.or_false, List.cons_append, Text.ofLines_cons]
    have empty : nameInStatement? [] = none := rfl
    rcases each line List.mem_cons_self with halting | blanks
    · have stopped := nameInStatement?_append_of_halts halting []
        ('\n' :: Text.ofLines (lines ++ after))
      rw [List.nil_append] at stopped
      rw [stopped, empty]
      rfl
    · -- Behind blanks stands a further line: the last of the lines is not blank.
      cases lines with
      | nil =>
        obtain ⟨front, c, rest, rfl, outside, _⟩ := exists_foreign_of_halts (last line rfl)
        have blank := blanks c (by simp)
        simp [isStatementCharacter, blank] at outside
      | cons next lines =>
        rw [beginsAmong, Bool.or_eq_false_iff] at rest
        have gap : ∀ c ∈ line ++ ['\n'], isBlank c = true := by
          intro c member
          rcases List.mem_append.mp member with inside | final
          · exact blanks c inside
          · obtain rfl := List.mem_singleton.mp final
            decide
        rw [List.append_cons, nameInStatement?_append_of_blanks gap]
        exact rest.1

/-- If no statement runs across a place between lines, the first statement is the first before that
place or, if there is none, the first after it. -/
theorem statedAmong_append {before after : List Text} (apart : runsAcross before after = false) :
    statedAmong (before ++ after) = (statedAmong before).or (statedAmong after) := by
  induction before with
  | nil => rfl
  | cons line before ih =>
    rw [runsAcross, Bool.or_eq_false_iff] at apart
    have rest := ih apart.2
    rw [List.cons_append, statedAmong, rest, statedAmong, ← List.cons_append]
    cases read : nameInStatement? (Text.ofLines (line :: before)) with
    | some name =>
      have longer := nameInStatement?_append read (Text.ofLines after)
      rw [← Text.ofLines_append] at longer
      rw [longer]
      rfl
    | none =>
      cases longer : nameInStatement? (Text.ofLines (line :: before ++ after)) with
      | none => rfl
      | some name =>
        -- Only blanks stand before the place: the statement begins after it.
        have blanks : ∀ c ∈ Text.ofLines (line :: before), isBlank c = true := by
          have held := apart.1
          rw [read, longer] at held
          simpa using held
        have unstated : statedAmong before = none :=
          statedAmong_of_blanks fun c member => blanks c (by simp [Text.ofLines_cons, member])
        rw [Text.ofLines_append, nameInStatement?_append_of_blanks blanks] at longer
        have begun : statedAmong after = some name := by
          cases after with
          | nil => contradiction
          | cons next after =>
            rw [statedAmong, longer]
            rfl
        rw [begun, unstated]
        rfl

/-- Lines on which no statement begins do not matter to the first statement, if they stand before
the others. -/
theorem statedAmong_of_beginsAmong {lines after : List Text}
    (unstated : beginsAmong lines after = false) :
    statedAmong (lines ++ after) = statedAmong after := by
  induction lines with
  | nil => rfl
  | cons line lines ih =>
    rw [beginsAmong, Bool.or_eq_false_iff, Option.isSome_eq_false_iff,
      Option.isNone_iff_eq_none] at unstated
    rw [List.cons_append, statedAmong, ← List.cons_append, unstated.1, ih unstated.2]
    rfl

/-- Taking lines out of a schema does not change its first statement, if the first of them halts
statements, none begins on the others, and none runs across their place. -/
theorem statedAmong_removed {before others after : List Text} {line : Text}
    (halting : halts line = true) (unstated : beginsAmong others after = false)
    (apart : runsAcross before after = false) :
    statedAmong (before ++ line :: others ++ after) = statedAmong (before ++ after) := by
  have stopped := runsAcross_eq_false_of_halts halting before (others ++ after)
  have alone : beginsAmong [line] (others ++ after) = false := by
    apply beginsAmong_eq_false
    · intro other member
      obtain rfl := List.mem_singleton.mp member
      exact .inl halting
    · intro other found
      obtain rfl := Option.some.inj found
      exact halting
  rw [List.append_assoc, List.cons_append, statedAmong_append stopped, statedAmong_append apart,
    ← statedAmong_of_beginsAmong unstated, ← statedAmong_of_beginsAmong alone]
  rfl

/-- A statement at the beginning of a schema is its first. -/
theorem statedName?_of_nameInStatement? {text name : Text}
    (read : nameInStatement? text = some name) : statedName? text = some name := by
  rw [statedName?, Text.lineStarts, List.findSome?_cons, read]

/-- A schema without a statement is of the second version. -/
theorem detect_of_statedName?_eq_none {text : Text} (unstated : statedName? text = none) :
    detect text = .proto2 := by
  have found : detect? text = some .proto2 := by
    rw [detect?, unstated]
  rw [detect, Option.get_of_eq_some _ found]

/-- A schema that states the name of a version is of that version. -/
theorem detect_of_statedName?_eq_some {text : Text} {version : SyntaxVersion}
    (stated : statedName? text = some version.name) : detect text = version := by
  have found : detect? text = some version := by
    rw [detect?, stated]
    cases version <;> rfl
  rw [detect, Option.get_of_eq_some _ found]

/-- Schemas that state the same name are of the same version. -/
theorem detect_congr {text other : Text} (same : statedName? text = statedName? other) :
    detect text = detect other := by
  have looked : detect? text = detect? other := by
    rw [detect?, detect?, same]
  unfold detect
  simp only [looked]

/-- **Taking lines out of a schema** whose line breaks end with line feeds does not change its
version, if the first of them halts statements, none begins on the others, and none runs across
their place. -/
theorem detect_removed {text rest : Text} {before others after : List Text} {line : Text}
    (divided : text.lines = before ++ line :: others ++ after)
    (remaining : rest.lines = before ++ after) (fed : Text.isLineFed text = true)
    (alsoFed : Text.isLineFed rest = true) (halting : halts line = true)
    (unstated : beginsAmong others after = false) (apart : runsAcross before after = false) :
    detect text = detect rest := by
  apply detect_congr
  rw [statedName?_eq_statedAmong fed, statedName?_eq_statedAmong alsoFed, divided, remaining,
    statedAmong_removed halting unstated apart]

/-- The version of a schema is the same with unified line ends, if carriage returns stand before
line feeds alone. -/
theorem detect_unifyLineEnds {text : Text} (paired : Text.isPaired text = true) :
    detect text.unifyLineEnds = detect text := by
  have same : nameInStatement? ∘ Text.unifyLineEnds = nameInStatement? := by
    funext start
    rw [Function.comp_apply, ← nameInStatement?_condensed start.unifyLineEnds,
      Text.condensed_unifyLineEnds, nameInStatement?_condensed]
  apply detect_congr
  rw [statedName?, Text.lineStarts_unifyLineEnds paired, List.findSome?_map, same, statedName?]

end SyntaxVersion

end ProtoInterfaces
