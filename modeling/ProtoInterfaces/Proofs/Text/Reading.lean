import ProtoInterfaces.Text.Blank

/-!
# What readers take from a text

A reader takes a part from the beginning of a text and leaves the rest. What several readers take
one after the other consists of the characters that each of them may take. Every reader of a run
takes as much as it can: it takes a run exactly if the run stands there and no longer one does.
-/
namespace ProtoInterfaces.Text

/-- A character of a class is none outside it. -/
theorem ne_of_class {belongs : Char → Bool} {c d : Char} (inside : belongs c = true)
    (outside : belongs d = false) : c ≠ d := by
  rintro rfl
  rw [inside] at outside
  contradiction

/-- A text of characters of a class holds none outside it. -/
theorem not_mem_of_class {belongs : Char → Bool} {text : Text} {d : Char}
    (inside : ∀ c ∈ text, belongs c = true) (outside : belongs d = false) : d ∉ text :=
  fun member => ne_of_class (inside d member) outside rfl

/-- The characters of a class at the beginning of a text are of that class. -/
theorem mem_takeWhile_inside (belongs : Char → Bool) (text : Text) :
    ∀ c ∈ text.takeWhile belongs, belongs c = true := fun c member =>
  List.all_eq_true.mp List.all_takeWhile c member

/-- What follows the characters of a class begins with none of them. -/
theorem head?_dropWhile_outside (belongs : Char → Bool) (text : Text) :
    ∀ c ∈ (text.dropWhile belongs).head?, belongs c = false := by
  intro c first
  have stopped := List.head?_dropWhile_not belongs text
  rw [Option.mem_def.mp first] at stopped
  simpa using stopped

/-- The second text is left when characters of a class are taken from the beginning of the
first. -/
def Leaves (belongs : Char → Bool) (text rest : Text) : Prop :=
  ∃ front, text = front ++ rest ∧ ∀ c ∈ front, belongs c = true

namespace Leaves

variable {belongs wider : Char → Bool} {text middle rest : Text}

/-- What leaves a text by one class leaves it by a wider one. -/
theorem mono (leaves : Leaves belongs text rest)
    (widens : ∀ c, belongs c = true → wider c = true) : Leaves wider text rest := by
  obtain ⟨front, parted, inside⟩ := leaves
  exact ⟨front, parted, fun c member => widens c (inside c member)⟩

/-- What two readers take one after the other is taken together. -/
theorem trans (first : Leaves belongs text middle) (second : Leaves belongs middle rest) :
    Leaves belongs text rest := by
  obtain ⟨front, rfl, inside⟩ := first
  obtain ⟨next, rfl, further⟩ := second
  refine ⟨front ++ next, (List.append_assoc _ _ _).symm, ?_⟩
  intro c member
  exact (List.mem_append.mp member).elim (inside c) (further c)

/-- What is left stands in the text. -/
theorem mem (leaves : Leaves belongs text rest) {c : Char} (member : c ∈ rest) : c ∈ text := by
  obtain ⟨front, rfl, _⟩ := leaves
  exact List.mem_append_right _ member

end Leaves

/-- Skipping blanks takes blanks. -/
theorem leaves_skipBlanks (text : Text) : Leaves isBlank text text.skipBlanks :=
  ⟨text.takeWhile isBlank, List.takeWhile_append_dropWhile.symm, mem_takeWhile_inside isBlank text⟩

/-- What stands behind a beginning of a text, blanks set aside, stands in the text. -/
theorem mem_of_skipBlanks_eq {text front rest : Text} (parted : text.skipBlanks = front ++ rest)
    {c : Char} (member : c ∈ rest) : c ∈ text := by
  apply (leaves_skipBlanks text).mem
  rw [parted]
  exact List.mem_append_right front member

/-- Skipping blanks stops at the first character that is none. -/
theorem skipBlanks_append {lead : Text} (blanks : ∀ c ∈ lead, isBlank c = true) {c : Char}
    (solid : isBlank c = false) (rest : Text) : skipBlanks (lead ++ c :: rest) = c :: rest := by
  rw [skipBlanks, List.dropWhile_append_of_pos blanks,
    List.dropWhile_cons_of_neg (by simp [solid])]

/-- Skipping at least one blank takes blanks. -/
theorem leaves_of_skipBlanks1? {text rest : Text} (skipped : text.skipBlanks1? = some rest) :
    Leaves isBlank text rest := by
  cases text with
  | nil => contradiction
  | cons c text =>
    rw [skipBlanks1?] at skipped
    split at skipped
    · rename_i blank
      obtain rfl := Option.some.inj skipped
      have first : Leaves isBlank (c :: text) text := ⟨[c], rfl, by simpa using blank⟩
      exact first.trans (leaves_skipBlanks text)
    · contradiction

/-- A run that is taken consists of characters of its class, and what follows it is left. -/
theorem leaves_of_takeRun? {belongs : Char → Bool} {text run rest : Text}
    (taken : text.takeRun? belongs = some (run, rest)) :
    Leaves belongs text rest ∧ ∀ c ∈ run, belongs c = true := by
  have inside := mem_takeWhile_inside belongs text
  unfold takeRun? at taken
  split at taken
  · contradiction
  · obtain ⟨rfl, rfl⟩ := Prod.mk.inj (Option.some.inj taken)
    exact ⟨⟨_, List.takeWhile_append_dropWhile.symm, inside⟩, inside⟩

/-! ## What a reader takes exactly -/

/-- A text before a character begins as the text does, or as the character if the text is empty. -/
theorem head?_append_cons_of {holds : Char → Prop} {front : Text} (inside : ∀ c ∈ front, holds c)
    {next : Char} (further : holds next) (rest : Text) :
    ∀ c ∈ (front ++ next :: rest).head?, holds c := by
  intro c first
  cases front with
  | nil =>
    obtain rfl := Option.some.inj first
    exact further
  | cons d front =>
    obtain rfl := Option.some.inj first
    exact inside d List.mem_cons_self

/-- Two texts one after the other begin as the first of them does if there is one. -/
theorem head?_append_of_ne_nil {holds : Char → Prop} {front : Text} (filled : front ≠ [])
    (inside : ∀ c ∈ front, holds c) (rest : Text) : ∀ c ∈ (front ++ rest).head?, holds c := by
  cases front with
  | nil => exact absurd rfl filled
  | cons d front =>
    intro c first
    obtain rfl := Option.some.inj first
    exact inside d List.mem_cons_self

/-- A class of characters goes on no further than the characters before one outside it. -/
theorem span_append {belongs : Char → Bool} {run rest : Text} (inside : ∀ c ∈ run, belongs c = true)
    (ends : ∀ c ∈ rest.head?, belongs c = false) :
    (run ++ rest).takeWhile belongs = run ∧ (run ++ rest).dropWhile belongs = rest := by
  have stops : rest.takeWhile belongs = [] ∧ rest.dropWhile belongs = rest := by
    cases rest with
    | nil => exact ⟨rfl, rfl⟩
    | cons c rest => simp [ends c rfl]
  rw [List.takeWhile_append_of_pos inside, List.dropWhile_append_of_pos inside, stops.1, stops.2,
    List.append_nil]
  exact ⟨rfl, rfl⟩

/-- What stands before the first place of a character, and what stands behind it. -/
def cut (c : Char) (text : Text) : Text × Text :=
  (text.takeWhile fun d => d ≠ c, (text.dropWhile fun d => d ≠ c).drop 1)

/-- A text is cut before a character at its first place. -/
theorem cut_append_cons {c : Char} {front : Text} (absent : c ∉ front) (rest : Text) :
    cut c (front ++ c :: rest) = (front, rest) := by
  have before : ∀ d ∈ front, decide (d ≠ c) = true := fun d member =>
    decide_eq_true fun equal => absent (equal ▸ member)
  have ends : ∀ d ∈ (c :: rest).head?, decide (d ≠ c) = false := by
    intro d first
    obtain rfl := Option.some.inj first
    exact decide_eq_false fun differs => differs rfl
  obtain ⟨taken, left⟩ := span_append before ends
  rw [cut, taken, left]
  rfl

/-- A text is divided in one way at the first place of a character. -/
theorem append_cons_inj {c : Char} {front other rest further : Text} (absent : c ∉ front)
    (alsoAbsent : c ∉ other) (same : front ++ c :: rest = other ++ c :: further) :
    front = other ∧ rest = further := by
  have cuts := congrArg (cut c) same
  rw [cut_append_cons absent, cut_append_cons alsoAbsent] at cuts
  exact Prod.mk.inj cuts

/-- A character that a text does not begin with is not taken from it. -/
theorem after?_eq_none_of_head {c : Char} {text : Text}
    (other : ∀ rest, text ≠ c :: rest) : after? [c] text = none := by
  cases text with
  | nil => rfl
  | cons d rest =>
    have differ : c ≠ d := by
      rintro rfl
      exact other rest rfl
    rw [after?, if_neg differ]

/-- A run is taken exactly if the text begins with it and it goes on no further. -/
theorem takeRun?_eq_some_iff {belongs : Char → Bool} {text run rest : Text} :
    text.takeRun? belongs = some (run, rest) ↔
      text = run ++ rest ∧ run ≠ [] ∧ (∀ c ∈ run, belongs c = true) ∧
        ∀ c ∈ rest.head?, belongs c = false := by
  constructor
  · intro taken
    unfold takeRun? at taken
    split at taken
    · contradiction
    · rename_i filled
      obtain ⟨rfl, rfl⟩ := Prod.mk.inj (Option.some.inj taken)
      exact ⟨List.takeWhile_append_dropWhile.symm, filled,
        mem_takeWhile_inside belongs text, head?_dropWhile_outside belongs text⟩
  · rintro ⟨rfl, filled, inside, ends⟩
    obtain ⟨taken, left⟩ := span_append inside ends
    rw [takeRun?, taken, left]
    cases run with
    | nil => exact absurd rfl filled
    | cons c run => rfl

/-- No run is taken where no character of its class stands. -/
theorem takeRun?_eq_none {belongs : Char → Bool} {text : Text}
    (ends : ∀ c ∈ text.head?, belongs c = false) : takeRun? belongs text = none := by
  cases text with
  | nil => rfl
  | cons c text => simp [takeRun?, ends c rfl]

/-- Skipping blanks leaves exactly what follows all the blanks at the beginning. -/
theorem skipBlanks_eq_iff {text rest : Text} :
    text.skipBlanks = rest ↔
      (∃ gap, text = gap ++ rest ∧ ∀ c ∈ gap, isBlank c = true) ∧
        ∀ c ∈ rest.head?, isBlank c = false := by
  constructor
  · rintro rfl
    exact ⟨leaves_skipBlanks text, head?_dropWhile_outside isBlank text⟩
  · rintro ⟨⟨gap, rfl, blanks⟩, solid⟩
    exact (span_append blanks solid).2

/-- Blanks before a text are skipped with those at its beginning. -/
theorem skipBlanks_gap_append {gap : Text} (blanks : ∀ c ∈ gap, isBlank c = true) (text : Text) :
    skipBlanks (gap ++ text) = text.skipBlanks :=
  List.dropWhile_append_of_pos blanks

/-- Skipping blanks stops at a text without blanks. -/
theorem skipBlanks_append_of_solid {lead front : Text} (blanks : ∀ c ∈ lead, isBlank c = true)
    (filled : front ≠ []) (solid : ∀ c ∈ front, isBlank c = false) (rest : Text) :
    skipBlanks (lead ++ (front ++ rest)) = front ++ rest :=
  skipBlanks_eq_iff.mpr ⟨⟨lead, rfl, blanks⟩, head?_append_of_ne_nil filled solid rest⟩

/-- Blanks are skipped once. -/
theorem skipBlanks_skipBlanks (text : Text) : text.skipBlanks.skipBlanks = text.skipBlanks :=
  skipBlanks_eq_iff.mpr
    ⟨⟨[], rfl, fun _ member => absurd member List.not_mem_nil⟩,
      (skipBlanks_eq_iff.mp rfl).2⟩

/-- Skipping at least one blank leaves exactly what follows all the blanks, if there are any. -/
theorem skipBlanks1?_eq_some_iff {text rest : Text} :
    text.skipBlanks1? = some rest ↔
      (∃ gap, gap ≠ [] ∧ text = gap ++ rest ∧ ∀ c ∈ gap, isBlank c = true) ∧
        ∀ c ∈ rest.head?, isBlank c = false := by
  constructor
  · intro skipped
    cases text with
    | nil => contradiction
    | cons c text =>
      rw [skipBlanks1?] at skipped
      split at skipped
      · rename_i blank
        obtain ⟨⟨gap, parted, blanks⟩, solid⟩ := skipBlanks_eq_iff.mp (Option.some.inj skipped)
        refine ⟨⟨c :: gap, List.cons_ne_nil _ _, by rw [parted]; rfl, ?_⟩, solid⟩
        exact List.forall_mem_cons.mpr ⟨blank, blanks⟩
      · contradiction
  · rintro ⟨⟨gap, filled, rfl, blanks⟩, solid⟩
    cases gap with
    | nil => exact absurd rfl filled
    | cons c gap =>
      obtain ⟨blank, others⟩ := List.forall_mem_cons.mp blanks
      rw [List.cons_append, skipBlanks1?, if_pos blank,
        skipBlanks_eq_iff.mpr ⟨⟨gap, rfl, others⟩, solid⟩]

end ProtoInterfaces.Text
