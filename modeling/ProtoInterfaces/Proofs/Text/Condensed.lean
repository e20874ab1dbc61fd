import ProtoInterfaces.Proofs.Text.Words

/-!
# Texts up to their gaps

Readers step over blanks without counting them. The condensed form of a text has one space in the
place of every run of blanks and nothing in the place of blanks at its end. What a reader takes
from a text it also takes from the condensed form, and it leaves the condensed form of what it left
before. Texts with the same words are condensed alike once their first blanks are skipped.
-/
namespace ProtoInterfaces.Text

/-- A character before a condensed text: a blank gives a space unless one stands there already or
nothing follows. -/
def condense (c : Char) (rest : Text) : Text :=
  if isBlank c then
    match rest with
    | [] => []
    | d :: _ => if d = ' ' then rest else ' ' :: rest
  else c :: rest

/-- The text with one space for every run of blanks and none at its end. -/
def condensed (text : Text) : Text := text.foldr condense []

/-- All blanks are condensed alike. -/
theorem condense_of_blank {c : Char} (blank : isBlank c = true) (rest : Text) :
    condense c rest = condense ' ' rest := by
  simp only [condense, blank, show isBlank ' ' = true from by decide, if_true]

/-- A character that is no blank stays. -/
theorem condense_of_solid {c : Char} (solid : isBlank c = false) (rest : Text) :
    condense c rest = c :: rest := by
  simp [condense, solid]

/-- A blank before a condensed text leaves it as it is or puts a space before it. -/
theorem condense_space_cases (rest : Text) :
    condense ' ' rest = rest ∧ (rest = [] ∨ ∃ later, rest = ' ' :: later) ∨
      condense ' ' rest = ' ' :: rest := by
  have blank : isBlank ' ' = true := by decide
  cases rest with
  | nil => exact .inl ⟨by simp [condense, blank], .inl rfl⟩
  | cons d rest =>
    by_cases space : d = ' '
    · exact .inl ⟨by simp [condense, blank, space], .inr ⟨rest, by rw [space]⟩⟩
    · exact .inr (by simp [condense, blank, space])

/-- A blank before a condensed text vanishes or gives a space. -/
theorem condense_space (rest : Text) :
    condense ' ' rest = [] ∨ ∃ later, condense ' ' rest = ' ' :: later := by
  rcases condense_space_cases rest with ⟨same, none | ⟨later, spaced⟩⟩ | spaced
  · exact .inl (same.trans none)
  · exact .inr ⟨later, same.trans spaced⟩
  · exact .inr ⟨rest, spaced⟩

/-- Skipping blanks before a condensed text passes over a blank put before it. -/
theorem skipBlanks_condense_space (rest : Text) :
    (condense ' ' rest).skipBlanks = rest.skipBlanks := by
  have blank : isBlank ' ' = true := by decide
  rcases condense_space_cases rest with ⟨same, _⟩ | spaced
  · rw [same]
  · rw [spaced, skipBlanks, skipBlanks, List.dropWhile_cons_of_pos blank]

/-- A second blank changes nothing. -/
theorem condense_space_twice (rest : Text) :
    condense ' ' (condense ' ' rest) = condense ' ' rest := by
  have blank : isBlank ' ' = true := by decide
  rcases condense_space rest with none | ⟨later, some⟩
  · rw [none]
    simp [condense, blank]
  · rw [some]
    simp [condense, blank]

/-- Texts that are condensed alike are condensed alike after the same beginning. -/
theorem condensed_append_congr (front : Text) {text other : Text}
    (same : condensed text = condensed other) :
    condensed (front ++ text) = condensed (front ++ other) := by
  have unfolded : text.foldr condense [] = other.foldr condense [] := same
  rw [condensed, condensed, List.foldr_append, List.foldr_append, unfolded]

/-- A blank before a text is condensed like a space. -/
theorem condensed_cons_of_blank {c : Char} (blank : isBlank c = true) (text : Text) :
    condensed (c :: text) = condense ' ' (condensed text) :=
  condense_of_blank blank _

/-- A character that is no blank stays before a condensed text. -/
theorem condensed_cons_of_solid {c : Char} (solid : isBlank c = false) (text : Text) :
    condensed (c :: text) = c :: condensed text :=
  condense_of_solid solid _

/-- A run of blanks before a text is condensed like a space. -/
theorem condensed_gap_append {gap : Text} (holds : gap ≠ [])
    (blanks : ∀ c ∈ gap, isBlank c = true) (text : Text) :
    condensed (gap ++ text) = condense ' ' (condensed text) := by
  induction gap with
  | nil => exact absurd rfl holds
  | cons c gap ih =>
    rw [List.cons_append, condensed_cons_of_blank (blanks c List.mem_cons_self)]
    cases gap with
    | nil => rfl
    | cons d gap =>
      rw [ih (List.cons_ne_nil _ _) fun e member => blanks e (List.mem_cons_of_mem _ member),
        condense_space_twice]

/-- Texts joined by one run of blanks or by another are condensed alike. -/
theorem condensed_join_congr {gap other : Text} (holds : gap ≠ []) (alsoHolds : other ≠ [])
    (blanks : ∀ c ∈ gap, isBlank c = true) (alsoBlanks : ∀ c ∈ other, isBlank c = true)
    (texts : List Text) : condensed (join gap texts) = condensed (join other texts) := by
  induction texts with
  | nil => rfl
  | cons text texts ih =>
    cases texts with
    | nil => rfl
    | cons next texts =>
      have parted (separator : Text) : join separator (text :: next :: texts) =
          text ++ (separator ++ join separator (next :: texts)) := by
        rw [join, List.append_assoc]
        exact List.cons_ne_nil _ _
      rw [parted, parted]
      apply condensed_append_congr
      rw [condensed_gap_append holds blanks, condensed_gap_append alsoHolds alsoBlanks, ih]

/-- A text without blanks before another stays as it is. -/
theorem condensed_append_of_solid {front : Text} (solid : ∀ c ∈ front, isBlank c = false)
    (text : Text) : condensed (front ++ text) = front ++ condensed text := by
  induction front with
  | nil => rfl
  | cons c front ih =>
    have later := ih fun d member => solid d (List.mem_cons_of_mem _ member)
    rw [List.cons_append, condensed_cons_of_solid (solid c List.mem_cons_self), later,
      List.cons_append]

/-- A condensed text holds characters of the text and spaces. -/
theorem mem_of_mem_condensed {text : Text} {c : Char} (member : c ∈ condensed text) :
    c = ' ' ∨ c ∈ text := by
  induction text with
  | nil => exact .inr member
  | cons d text ih =>
    have later (inside : c ∈ condensed text) : c = ' ' ∨ c ∈ d :: text :=
      (ih inside).imp_right (List.mem_cons_of_mem _)
    cases blank : isBlank d with
    | true =>
      rw [condensed_cons_of_blank blank] at member
      rcases condense_space_cases (condensed text) with ⟨same, _⟩ | spaced
      · exact later (same ▸ member)
      · rw [spaced] at member
        exact (List.mem_cons.mp member).elim .inl later
    | false =>
      rw [condensed_cons_of_solid blank] at member
      rcases List.mem_cons.mp member with rfl | inside
      · exact .inr List.mem_cons_self
      · exact later inside

/-! ## Words -/

/-- A text that ends or begins with a blank is condensed like what follows its blanks, with a space
before it. -/
theorem condensed_of_divided {text : Text} (divided : ∀ c ∈ text.head?, isBlank c = true) :
    condensed text = condense ' ' (condensed text.skipBlanks) := by
  cases text with
  | nil => exact (condensed_cons_of_blank (by decide : isBlank ' ' = true) []).symm
  | cons c text =>
    have blank : isBlank c = true := divided c rfl
    have parted : (c :: text).takeWhile isBlank ++ skipBlanks (c :: text) = c :: text :=
      List.takeWhile_append_dropWhile
    have holds : (c :: text).takeWhile isBlank ≠ [] := by simp [blank]
    rw [← condensed_gap_append holds (mem_takeWhile_inside isBlank _), parted]

/-- **Texts with the same words are condensed alike behind their first blanks.** -/
theorem condensed_skipBlanks_of_words_eq {text other : Text} (same : text.words = other.words) :
    condensed text.skipBlanks = condensed other.skipBlanks := by
  have empty {text : Text} (none : text.words = []) : text.skipBlanks = [] := by
    cases skipped : text.skipBlanks with
    | nil => rfl
    | cons c rest =>
      rw [← words_skipBlanks, skipped, words_cons_solid (head_skipBlanks skipped)] at none
      contradiction
  generalize listed : other.words = words at same
  induction words generalizing text other with
  | nil => rw [empty same, empty listed]
  | cons word others ih =>
    obtain ⟨rest, parted, divided, ends⟩ := exists_append_of_words_eq_cons same
    obtain ⟨otherRest, alsoParted, alsoDivided, alsoEnds⟩ := exists_append_of_words_eq_cons listed
    rw [parted, alsoParted]
    apply condensed_append_congr
    rw [condensed_of_divided ends, condensed_of_divided alsoEnds, ih divided alsoDivided]

/-! ## Readers -/

/-- Skipping blanks gives the condensed form of what it gave before. -/
theorem skipBlanks_condensed (text : Text) :
    skipBlanks (condensed text) = condensed (skipBlanks text) := by
  induction text with
  | nil => rfl
  | cons c text ih =>
    cases blank : isBlank c with
    | true =>
      rw [condensed_cons_of_blank blank, skipBlanks_condense_space, ih, skipBlanks, skipBlanks,
        List.dropWhile_cons_of_pos blank]
    | false =>
      rw [condensed_cons_of_solid blank, skipBlanks, skipBlanks,
        List.dropWhile_cons_of_neg (by simp [blank]), List.dropWhile_cons_of_neg (by simp [blank]),
        condensed_cons_of_solid blank]

/-- Behind its blanks a text begins as it does when it is condensed. -/
theorem head?_condensed_skipBlanks (text : Text) :
    (condensed text.skipBlanks).head? = text.skipBlanks.head? := by
  cases skipped : text.skipBlanks with
  | nil => rfl
  | cons c rest =>
    rw [condensed_cons_of_solid (head_skipBlanks skipped)]
    rfl

/-- A gap is skipped in the condensed form too if something must follow it. -/
theorem skipBlanks1?_condensed_bind {Result : Type} {next : Text → Option Result}
    (continues : next [] = none) (text : Text) :
    (skipBlanks1? (condensed text)).bind next =
      (skipBlanks1? text).bind fun rest => next (condensed rest) := by
  cases text with
  | nil => rfl
  | cons c text =>
    cases blank : isBlank c with
    | false =>
      rw [condensed_cons_of_solid blank]
      simp [skipBlanks1?, blank]
    | true =>
      have skipped : skipBlanks (condensed (c :: text)) = condensed (skipBlanks text) := by
        rw [skipBlanks_condensed, skipBlanks, skipBlanks, List.dropWhile_cons_of_pos blank]
      rw [skipBlanks1?, if_pos blank, Option.bind_some, ← skipped]
      -- A blank at the end of a text leaves nothing in the condensed form, and no gap is skipped.
      rw [condensed_cons_of_blank blank]
      rcases condense_space (condensed text) with none | ⟨later, some⟩
      · rw [none]
        exact continues.symm
      · have space : isBlank ' ' = true := by decide
        rw [some, skipBlanks1?, if_pos space, Option.bind_some, skipBlanks, skipBlanks,
          List.dropWhile_cons_of_pos space]

/-- A run without blanks is taken from the condensed form too. -/
theorem takeRun?_condensed (belongs : Char → Bool)
    (apart : ∀ c, isBlank c = true → belongs c = false) (text : Text) :
    takeRun? belongs (condensed text) =
      (takeRun? belongs text).map fun taken => (taken.1, condensed taken.2) := by
  have spanned : (condensed text).takeWhile belongs = text.takeWhile belongs ∧
      (condensed text).dropWhile belongs = condensed (text.dropWhile belongs) := by
    induction text with
    | nil => exact ⟨rfl, rfl⟩
    | cons c text ih =>
      cases blank : isBlank c with
      | true =>
        have outside : belongs ' ' = false := apart ' ' (by decide)
        rw [List.takeWhile_cons_of_neg (by simp [apart c blank]),
          List.dropWhile_cons_of_neg (by simp [apart c blank]), condensed_cons_of_blank blank]
        rcases condense_space (condensed text) with none | ⟨later, some⟩
        · rw [none]
          exact ⟨rfl, rfl⟩
        · rw [some]
          simp [outside]
      | false =>
        rw [condensed_cons_of_solid blank]
        by_cases inside : belongs c = true
        · rw [List.takeWhile_cons_of_pos inside, List.takeWhile_cons_of_pos inside,
            List.dropWhile_cons_of_pos inside, List.dropWhile_cons_of_pos inside, ih.1]
          exact ⟨rfl, ih.2⟩
        · rw [List.takeWhile_cons_of_neg inside, List.takeWhile_cons_of_neg inside,
            List.dropWhile_cons_of_neg inside, List.dropWhile_cons_of_neg inside]
          exact ⟨rfl, (condensed_cons_of_solid blank _).symm⟩
  rw [takeRun?, takeRun?, spanned.1, spanned.2]
  cases text.takeWhile belongs <;> rfl

/-- A beginning without blanks is taken from the condensed form too. -/
theorem after?_condensed {opening : Text} (solid : ∀ c ∈ opening, isBlank c = false)
    (text : Text) : after? opening (condensed text) = (after? opening text).map condensed := by
  induction opening generalizing text with
  | nil => rfl
  | cons c opening ih =>
    have first : isBlank c = false := solid c List.mem_cons_self
    have later := ih fun d member => solid d (List.mem_cons_of_mem _ member)
    cases text with
    | nil => rfl
    | cons d text =>
      cases blank : isBlank d with
      | true =>
        have differs : c ≠ d := by
          rintro rfl
          rw [first] at blank
          contradiction
        have spaced : c ≠ ' ' := by
          rintro rfl
          contradiction
        have nothing : after? (c :: opening) (d :: text) = none := by simp [after?, differs]
        rw [nothing, condensed_cons_of_blank blank]
        rcases condense_space (condensed text) with none | ⟨rest, some⟩
        · rw [none]
          rfl
        · rw [some]
          simp [after?, spaced]
      | false =>
        rw [condensed_cons_of_solid blank, after?, after?]
        split
        · exact later text
        · rfl

end ProtoInterfaces.Text
