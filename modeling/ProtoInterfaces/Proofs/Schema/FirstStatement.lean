import Mathlib.Data.List.TakeWhile
import ProtoInterfaces.Proofs.Schema.Version

/-!
# The first statement of a schema

A statement may begin wherever a line begins, and the blanks before its keyword may run over lines,
so one statement can be reached from several places. The version of a schema is that of the
statement at the first place from which one is reached, whether or not these places lead to the same
statement. For the lines of a schema this means that those which do not begin with the keyword are
passed over, and that a statement on the first that does decides.
-/
namespace ProtoInterfaces

namespace Text

/-! ## Places where lines begin -/

/-- Whether a line begins at a place of a text: at its beginning, or right behind a line feed. -/
def BeginsLine (text : Text) (place : Nat) : Prop :=
  place = 0 ∨ ∃ before, place = before + 1 ∧ text[before]? = some '\n'

/-- Lines begin behind the line feeds of a text that has one more put before it. -/
theorem beginsLine_iff {text : Text} {place : Nat} :
    BeginsLine text place ↔ ('\n' :: text)[place]? = some '\n' := by
  cases place with
  | zero => exact iff_of_true (.inl rfl) rfl
  | succ before =>
    constructor
    · rintro (none | ⟨_, same, fed⟩)
      · contradiction
      · rwa [Nat.succ.inj same]
    · intro fed
      exact .inr ⟨before, rfl, fed⟩

section

variable {α : Type} {find : Text → Option α} {text : Text} {found : α}

/-- What is found behind the line feeds of a text is what is found behind the first of them behind
which anything is. -/
theorem findSome?_afterLineFeeds_eq_some_iff :
    (lineStarts.afterLineFeeds text).findSome? find = some found ↔
      ∃ place, text[place]? = some '\n' ∧ find (text.drop (place + 1)) = some found ∧
        ∀ earlier < place, text[earlier]? = some '\n' →
          find (text.drop (earlier + 1)) = none := by
  induction text with
  | nil => simp [lineStarts.afterLineFeeds]
  | cons c rest ih =>
    -- Either the first character is the line feed sought, or the places are those in the rest.
    rw [lineStarts.afterLineFeeds, ← Nat.or_exists_add_one]
    simp only [List.getElem?_cons_zero, List.getElem?_cons_succ, List.drop_succ_cons,
      List.drop_zero, Nat.forall_lt_succ_left, Option.some.injEq]
    by_cases fed : c = '\n'
    · rw [if_pos fed, List.findSome?_cons]
      cases first : find rest with
      | some other => simp [fed]
      | none => simp [fed, ih]
    · simp [fed, ih]

/-- Nothing is found behind the line feeds of a text exactly if nothing is behind any of them. -/
theorem findSome?_afterLineFeeds_eq_none_iff :
    (lineStarts.afterLineFeeds text).findSome? find = none ↔
      ∀ place, text[place]? = some '\n' → find (text.drop (place + 1)) = none := by
  induction text with
  | nil => simp [lineStarts.afterLineFeeds]
  | cons c rest ih =>
    rw [lineStarts.afterLineFeeds, ← Nat.and_forall_add_one]
    by_cases fed : c = '\n' <;> simp [fed, ← ih]

/-- What is found where the lines of a text begin is what is found at the first of these places at
which anything is. -/
theorem findSome?_lineStarts_eq_some_iff :
    text.lineStarts.findSome? find = some found ↔
      ∃ place, BeginsLine text place ∧ find (text.drop place) = some found ∧
        ∀ earlier < place, BeginsLine text earlier → find (text.drop earlier) = none := by
  have behind : text.lineStarts = lineStarts.afterLineFeeds ('\n' :: text) := rfl
  simp only [behind, findSome?_afterLineFeeds_eq_some_iff, beginsLine_iff, List.drop_succ_cons]

/-- Nothing is found where the lines of a text begin exactly if nothing is at any of these
places. -/
theorem findSome?_lineStarts_eq_none_iff :
    text.lineStarts.findSome? find = none ↔
      ∀ place, BeginsLine text place → find (text.drop place) = none := by
  have behind : text.lineStarts = lineStarts.afterLineFeeds ('\n' :: text) := rfl
  simp only [behind, findSome?_afterLineFeeds_eq_none_iff, beginsLine_iff, List.drop_succ_cons]

end

end Text

namespace SyntaxVersion

/-! ## Places where statements stand -/

/-- Whether a line begins at a place of a schema and a complete statement of a version stands there,
blanks before it set aside. -/
def StatesAt (text : Text) (place : Nat) (version : SyntaxVersion) : Prop :=
  Text.BeginsLine text place ∧ ∃ (statement : SyntaxStatement) (rest : Text),
    statement.version = version ∧ text.drop place = statement.front ++ ';' :: rest

/-- Versions have different names. -/
theorem name_inj {version other : SyntaxVersion} (same : version.name = other.name) :
    version = other := by
  revert same
  cases version <;> cases other <;> decide

/-- The name of a version is read exactly where a statement of that version stands. -/
theorem statesAt_iff {text : Text} {place : Nat} {version : SyntaxVersion} :
    StatesAt text place version ↔ Text.BeginsLine text place ∧
      nameInStatement? (text.drop place) = some version.name := by
  refine and_congr_right fun _ => ?_
  rw [nameInStatement?_eq_some_iff]
  constructor
  · rintro ⟨statement, rest, rfl, stands⟩
    exact ⟨statement, rest, stands, rfl⟩
  · rintro ⟨statement, rest, stands, same⟩
    exact ⟨statement, rest, (name_inj same).symm, stands⟩

/-- No name is read exactly if that of no version is. -/
theorem nameInStatement?_eq_none_iff {text : Text} :
    nameInStatement? text = none ↔
      ∀ version : SyntaxVersion, nameInStatement? text ≠ some version.name := by
  rw [Option.eq_none_iff_forall_ne_some]
  constructor
  · intro unread version
    exact unread version.name
  · intro unread name read
    obtain ⟨statement, _, _, rfl⟩ := nameInStatement?_eq_some_iff.mp read
    exact unread statement.version read

/-- No statement stands at a place where a line begins exactly if no name is read there. -/
theorem forall_not_statesAt_iff {text : Text} {place : Nat} :
    (∀ version, ¬StatesAt text place version) ↔
      (Text.BeginsLine text place → nameInStatement? (text.drop place) = none) := by
  simp only [statesAt_iff, not_and, nameInStatement?_eq_none_iff]
  exact forall_comm

/-- The name that a schema states is that of the version at the first place of a statement. -/
theorem statedName?_eq_some_iff {text : Text} {version : SyntaxVersion} :
    statedName? text = some version.name ↔ ∃ place, StatesAt text place version ∧
      ∀ earlier < place, ∀ other, ¬StatesAt text earlier other := by
  simp only [statedName?, Text.findSome?_lineStarts_eq_some_iff, forall_not_statesAt_iff]
  simp only [statesAt_iff, and_assoc]

/-- A schema states no name exactly if it has no statement anywhere. -/
theorem statedName?_eq_none_iff {text : Text} :
    statedName? text = none ↔ ∀ place version, ¬StatesAt text place version := by
  simp only [statedName?, Text.findSome?_lineStarts_eq_none_iff, forall_not_statesAt_iff]

/-- A schema is of a version exactly if it states its name, or it states no name and the version is
the second. -/
theorem detect_eq_iff {text : Text} {version : SyntaxVersion} :
    detect text = version ↔
      statedName? text = some version.name ∨ version = .proto2 ∧ statedName? text = none := by
  cases stated : statedName? text with
  | none =>
    rw [detect_of_statedName?_eq_none stated]
    simp [eq_comm]
  | some name =>
    obtain ⟨start, _, read⟩ := List.exists_of_findSome?_eq_some stated
    obtain ⟨statement, _, _, rfl⟩ := nameInStatement?_eq_some_iff.mp read
    rw [detect_of_statedName?_eq_some stated]
    constructor
    · rintro rfl
      exact .inl rfl
    · rintro (same | ⟨_, none⟩)
      · exact name_inj (Option.some.inj same)
      · contradiction

/-! ## Lines that begin with the keyword -/

/-- Whether a line begins with the keyword of statements, blanks before it set aside. -/
def BeginsWithKeyword (line : Text) : Prop := "syntax".toList <+: line.skipBlanks

instance (line : Text) : Decidable (BeginsWithKeyword line) :=
  inferInstanceAs (Decidable ("syntax".toList <+: line.skipBlanks))

/-- No name is read from a text that does not begin with the keyword. -/
theorem nameInStatement?_of_not_beginsWithKeyword {text : Text}
    (other : ¬BeginsWithKeyword text) : nameInStatement? text = none := by
  have unread : Text.after? "syntax".toList text.skipBlanks = none := by
    refine Option.eq_none_iff_forall_ne_some.mpr fun rest read => ?_
    exact other ⟨rest, (Text.after?_eq_some_iff.mp read).symm⟩
  rw [nameInStatement?, unread]
  rfl

/-- A line that is not blank and does not begin with the keyword does not do so with other lines
behind it. -/
theorem not_beginsWithKeyword_append {line : Text} (other : ¬BeginsWithKeyword line)
    (solid : ¬line.skipBlanks = []) (rest : Text) :
    ¬BeginsWithKeyword (line ++ '\n' :: rest) := by
  have skipped : Text.skipBlanks (line ++ '\n' :: rest) = line.skipBlanks ++ '\n' :: rest :=
    List.dropWhile_append.trans (if_neg (mt List.isEmpty_iff.mp solid))
  rw [BeginsWithKeyword, skipped]
  intro begins
  have unfed : '\n' ∉ "syntax".toList := by decide
  have first : line.skipBlanks ++ ['\n'] <+: line.skipBlanks ++ '\n' :: rest := by simp
  rcases List.prefix_or_prefix_of_prefix begins first with early | late
  · rcases List.prefix_concat_iff.mp early with whole | inside
    · exact unfed (whole ▸ List.mem_append_right _ List.mem_cons_self)
    · exact other inside
  · exact unfed (late.subset (List.mem_append_right _ List.mem_cons_self))

/-- **Lines that do not begin with the keyword are passed over.** From a blank one the search goes on
to what stands behind it, and from any other no statement is reached. -/
theorem statedName?_append_lineFeed {line : Text} (noLineFeed : '\n' ∉ line)
    (other : ¬BeginsWithKeyword line) (rest : Text) :
    statedName? (line ++ '\n' :: rest) = statedName? rest := by
  rw [statedName?, Text.lineStarts_append_lineFeed noLineFeed, List.findSome?_cons, ← statedName?]
  by_cases blank : line.skipBlanks = []
  · have blanks : ∀ c ∈ line ++ ['\n'], isBlank c = true := by
      rw [List.forall_mem_append, List.forall_mem_singleton]
      exact ⟨List.dropWhile_eq_nil_iff.mp blank, by decide⟩
    rw [List.append_cons, nameInStatement?_append_of_blanks blanks]
    cases read : nameInStatement? rest with
    | none => rfl
    | some name => exact (statedName?_of_nameInStatement? read).symm
  · rw [nameInStatement?_of_not_beginsWithKeyword (not_beginsWithKeyword_append other blank rest)]

/-- Lines of which none begins with the keyword state nothing. -/
theorem statedName?_joinLines_eq_none {lines : List Text}
    (others : ∀ line ∈ lines, '\n' ∉ line ∧ ¬BeginsWithKeyword line) :
    statedName? (Text.joinLines lines) = none := by
  induction lines with
  | nil => rfl
  | cons line lines ih =>
    obtain ⟨noLineFeed, other⟩ := others line List.mem_cons_self
    have rest := ih fun next member => others next (List.mem_cons_of_mem _ member)
    cases lines with
    | nil =>
      change statedName? line = none
      rw [statedName?, Text.lineStarts_eq_singleton noLineFeed, List.findSome?_singleton,
        nameInStatement?_of_not_beginsWithKeyword other]
    | cons next lines =>
      rw [Text.joinLines_cons line (List.cons_ne_nil next lines),
        statedName?_append_lineFeed noLineFeed other, rest]

/-- The name that some lines state is that in the statement on the first line that begins with the
keyword. -/
theorem statedName?_joinLines_of_statement {before : List Text}
    (others : ∀ line ∈ before, '\n' ∉ line ∧ ¬BeginsWithKeyword line) (statement : SyntaxStatement)
    (rest : Text) (after : List Text) :
    statedName? (Text.joinLines (before ++ (statement.front ++ ';' :: rest) :: after)) =
      some statement.version.name := by
  induction before with
  | nil =>
    obtain ⟨more, begins⟩ :=
      Text.exists_joinLines_cons_eq (statement.front ++ ';' :: rest) after
    have read := nameInStatement?_eq_some_iff.mpr ⟨statement, rest, rfl, rfl⟩
    rw [List.nil_append, begins]
    exact statedName?_of_nameInStatement? (nameInStatement?_append read more)
  | cons line before ih =>
    obtain ⟨noLineFeed, other⟩ := others line List.mem_cons_self
    rw [List.cons_append, Text.joinLines_cons line (by simp),
      statedName?_append_lineFeed noLineFeed other]
    exact ih fun next member => others next (List.mem_cons_of_mem _ member)

/-! ## The version -/

/-- **The first complete statement decides over the version.** A schema is of the version that is
stated at the first place where a line begins and a statement stands, and of the second version if
there is no such place. Of lines none of which begins with the keyword the version is the second; of
others it is that of the first line that does, if a complete statement stands there, whatever comes
after it. -/
theorem first_statement_decides :
    (∀ (text : Text) (version : SyntaxVersion), detect text = version ↔
      (∃ place, StatesAt text place version ∧
        ∀ earlier < place, ∀ other, ¬StatesAt text earlier other) ∨
      version = .proto2 ∧ ∀ place other, ¬StatesAt text place other) ∧
    (∀ lines : List Text, (∀ line ∈ lines, '\n' ∉ line ∧ ¬BeginsWithKeyword line) →
      detect (Text.joinLines lines) = .proto2) ∧
    (∀ (before after : List Text) (statement : SyntaxStatement) (rest : Text),
      (∀ line ∈ before, '\n' ∉ line ∧ ¬BeginsWithKeyword line) →
        detect (Text.joinLines (before ++ (statement.front ++ ';' :: rest) :: after)) =
          statement.version) := by
  refine ⟨fun text version => ?_, fun lines others => ?_,
    fun before after statement rest others => ?_⟩
  · rw [detect_eq_iff, statedName?_eq_some_iff, statedName?_eq_none_iff]
  · exact detect_of_statedName?_eq_none (statedName?_joinLines_eq_none others)
  · exact detect_of_statedName?_eq_some
      (statedName?_joinLines_of_statement others statement rest after)

/-- A statement over two lines with quotes of two kinds decides, though another is commented out
before it and one stands behind it. It is reached from the empty line before it already. Without
both, the lines are of the second version. -/
theorem statement_over_lines_decides :
    let statement : SyntaxStatement :=
      { lead := [' '], gap := ['\n'], space := [' '], opening := '"', version := .proto3,
        closing := '\'', trail := []
        leadBlank := List.forall_mem_singleton.mpr (by decide)
        gapBlank := List.forall_mem_singleton.mpr (by decide)
        spaceBlank := List.forall_mem_singleton.mpr (by decide)
        openingQuote := .inl rfl
        closingQuote := .inr rfl
        trailBlank := List.forall_mem_nil _ }
    let before : List Text := ["// syntax = \"proto2\";".toList, []]
    let after : List Text := ["syntax = \"proto2\";".toList]
    let text := Text.joinLines (before ++ (statement.front ++ ';' :: " // 3".toList) :: after)
    statement.front = " syntax\n= \"proto3'".toList ∧
      (∀ line ∈ before, '\n' ∉ line ∧ ¬BeginsWithKeyword line) ∧
      detect text = .proto3 ∧ StatesAt text 22 .proto3 ∧ StatesAt text 23 .proto3 ∧
      (∃ place, StatesAt text place .proto3 ∧
        ∀ earlier < place, ∀ other, ¬StatesAt text earlier other) ∧
      detect (Text.joinLines before) = .proto2 := by
  intro statement before after text
  have others : ∀ line ∈ before, '\n' ∉ line ∧ ¬BeginsWithKeyword line := by decide
  obtain ⟨first, none, some⟩ := first_statement_decides
  have detected : detect text = .proto3 := some before after statement " // 3".toList others
  have reached : StatesAt text 22 .proto3 :=
    statesAt_iff.mpr ⟨.inr ⟨21, rfl, by decide⟩, by decide⟩
  have stands : StatesAt text 23 .proto3 :=
    statesAt_iff.mpr ⟨.inr ⟨22, rfl, by decide⟩, by decide⟩
  have least := ((first text .proto3).mp detected).resolve_right nofun
  exact ⟨by decide, others, detected, reached, stands, least, none before others⟩

end SyntaxVersion

end ProtoInterfaces
