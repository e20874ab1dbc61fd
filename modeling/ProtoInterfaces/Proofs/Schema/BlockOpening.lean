import ProtoInterfaces.Proofs.Text.Braces

/-!
# Lines that open a block

A message or a service is usually opened on a line of a keyword, a name and a brace, and an empty
one is closed on the same line. Such a line is taken apart into those parts: the name that it
declares is the one between keyword and brace, and it ends with an empty block exactly if the
block is closed.
-/
namespace ProtoInterfaces

/-- What may follow the brace that opens a block on the line: blanks, or the brace that closes the
block between blanks, with semicolons among those after it. -/
inductive BlockRest : (closed : Bool) → Text → Prop
  /-- The block stays open. -/
  | opened {gap : Text} (blanks : ∀ c ∈ gap, isBlank c = true) : BlockRest false gap
  /-- The block is empty. -/
  | emptied {gap ending : Text} (blanks : ∀ c ∈ gap, isBlank c = true)
      (ended : ∀ c ∈ ending, isBlank c = true ∨ c = ';') : BlockRest true (gap ++ '}' :: ending)

/-- The parts of a line that opens a block. -/
structure BlockOpening where
  /-- Blanks before the keyword. -/
  lead : Text
  /-- The keyword. -/
  keyword : Text
  /-- Blanks between keyword and name. -/
  gap : Text
  /-- The name. -/
  name : Text
  /-- Blanks between name and brace. -/
  space : Text
  /-- What follows the brace. -/
  rest : Text
  /-- Whether the block is closed on the line. -/
  closed : Bool
  leadBlank : ∀ c ∈ lead, isBlank c = true
  keyword_eq : keyword = "message".toList ∨ keyword = "service".toList
  gapHolds : gap ≠ []
  gapBlank : ∀ c ∈ gap, isBlank c = true
  nameHolds : name ≠ []
  nameWord : ∀ c ∈ name, isWordCharacter c = true
  spaceBlank : ∀ c ∈ space, isBlank c = true
  restEnds : BlockRest closed rest

/-- What follows the brace that opens a block closes the block or opens nothing. -/
theorem BlockRest.opens {closed : Bool} {rest : Text} (ends : BlockRest closed rest) :
    Opens rest (if closed then -1 else 0) := by
  cases ends with
  | opened blanks => exact Level.of_blanks blanks
  | emptied blanks ended =>
    rename_i gap ending
    have after : Level ending := by
      apply Level.of_plain
      intro c member
      rcases ended c member with blank | rfl
      · exact isPlain_of_isBlank blank
      · decide
    exact (Level.of_blanks blanks).followedBy (Opens.closeBrace.followedBy after)

/-! ## Characters at the end of a text -/

namespace Text

/-- Characters of the class at the end are all dropped. -/
theorem dropTrailing_of_all {drops : Char → Bool} {text : Text}
    (all : ∀ c ∈ text, drops c = true) : dropTrailing drops text = [] := by
  induction text with
  | nil => rfl
  | cons c text ih =>
    have rest := ih fun d member => all d (List.mem_cons_of_mem _ member)
    rw [dropTrailing, rest, if_pos (all c List.mem_cons_self)]

/-- Nothing before a character outside the class is dropped. -/
theorem dropTrailing_append_kept {drops : Char → Bool} {c : Char} (keeps : drops c = false)
    (front back : Text) :
    dropTrailing drops (front ++ c :: back) = front ++ c :: dropTrailing drops back := by
  induction front with
  | nil =>
    rw [List.nil_append, List.nil_append, dropTrailing]
    cases dropTrailing drops back with
    | nil => exact if_neg (by simp [keeps])
    | cons d rest => rfl
  | cons d front ih =>
    rw [List.cons_append, dropTrailing, ih]
    cases front <;> rfl

/-- Nothing before the last character outside the class is dropped, and all behind it. -/
theorem dropTrailing_append_cons {drops : Char → Bool} {c : Char} {back : Text}
    (keeps : drops c = false) (all : ∀ d ∈ back, drops d = true) (front : Text) :
    dropTrailing drops (front ++ c :: back) = front ++ [c] := by
  rw [dropTrailing_append_kept keeps, dropTrailing_of_all all]

end Text

namespace BlockOpening

variable (opening : BlockOpening)

/-- What stands before the brace. -/
def front : Text :=
  opening.lead ++ opening.keyword ++ opening.gap ++ opening.name ++ opening.space

/-- The line. -/
def text : Text := opening.front ++ '{' :: opening.rest

/-- What follows the keyword and the blanks after it. -/
def declared : Text := opening.name ++ opening.space ++ '{' :: opening.rest

/-- What stands before the brace is level. -/
theorem level_front : Level opening.front := by
  have keyword : Level opening.keyword := by
    rcases opening.keyword_eq with same | same
    · rw [same]
      exact Level.of_all (by decide)
    · rw [same]
      exact Level.of_all (by decide)
  have lead := (Level.of_blanks opening.leadBlank).append keyword
  have named := (lead.append (Level.of_blanks opening.gapBlank)).append
    (Level.of_word opening.nameWord)
  exact named.append (Level.of_blanks opening.spaceBlank)

/-- No word character is blank. -/
theorem nameSolid {c : Char} (member : c ∈ opening.name) : isBlank c = false := by
  cases blank : isBlank c with
  | false => rfl
  | true =>
    have foreign := isWordCharacter_eq_false_of_isBlank blank
    rw [opening.nameWord c member] at foreign
    contradiction

/-- The words of the line are the keyword and those of what follows it. -/
theorem words_text : opening.text.words = opening.keyword :: opening.declared.words := by
  have parted : opening.text =
      opening.lead ++ (opening.keyword ++ (opening.gap ++ opening.declared)) := by
    simp [text, front, declared]
  have divided : ∀ c ∈ (opening.gap ++ opening.declared).head?, isBlank c = true := by
    intro c first
    cases begun : opening.gap with
    | nil => exact absurd begun opening.gapHolds
    | cons d others =>
      rw [begun] at first
      obtain rfl := Option.some.inj first
      exact opening.gapBlank d (by simp [begun])
  have keyword : opening.keyword ≠ [] ∧ ∀ c ∈ opening.keyword, isBlank c = false := by
    rcases opening.keyword_eq with same | same
    · rw [same]
      exact ⟨by decide, Text.solid_of_all (by decide)⟩
    · rw [same]
      exact ⟨by decide, Text.solid_of_all (by decide)⟩
  rw [parted, Text.words_append_of_blanks opening.leadBlank,
    Text.words_append_of_solid keyword.1 keyword.2 divided,
    Text.words_append_of_blanks opening.gapBlank]

/-- The second word of the line is the name, perhaps with a part that begins with the brace. -/
theorem exists_words_declared : ∃ glued others,
    opening.declared.words = (opening.name ++ glued) :: others ∧
      glued.takeWhile (fun c => c ≠ '{') = [] := by
  let glued := (opening.space ++ '{' :: opening.rest).takeWhile fun c => !isBlank c
  have begins : glued.takeWhile (fun c => c ≠ '{') = [] := by
    cases begun : opening.space with
    | nil => simp [glued, begun, show isBlank '{' = false from by decide]
    | cons c others =>
      have blank := opening.spaceBlank c (by simp [begun])
      simp [glued, begun, blank]
  cases named : opening.name with
  | nil => exact absurd named opening.nameHolds
  | cons c others =>
    have solid : ∀ d ∈ others, (!isBlank d) = true := by
      intro d member
      rw [opening.nameSolid (by simp [named, member])]
      rfl
    have parted : opening.declared = c :: (others ++ (opening.space ++ '{' :: opening.rest)) := by
      simp [declared, named]
    have first : isBlank c = false := opening.nameSolid (by simp [named])
    have words := Text.words_cons_solid first
      (others ++ (opening.space ++ '{' :: opening.rest))
    rw [← parted, List.takeWhile_append_of_pos solid] at words
    exact ⟨glued, _, words, begins⟩

/-- The line declares the name between keyword and brace. -/
theorem declaredName_eq : declaredName opening.text.words = opening.name := by
  obtain ⟨glued, others, words, begins⟩ := opening.exists_words_declared
  have unbraced : ∀ c ∈ opening.name, decide (c ≠ '{') = true := by
    intro c member
    have plain := isPlain_of_isWordCharacter (opening.nameWord c member)
    simp only [isPlain, Bool.and_eq_true, decide_eq_true_eq] at plain
    simpa using plain.1.2
  rw [words_text, words, declaredName_cons_cons, List.takeWhile_append_of_pos unbraced, begins,
    List.append_nil]
  obtain ⟨initial, last, parted⟩ := List.eq_nil_or_concat opening.name |>.resolve_left
    opening.nameHolds
  have ends : last ∈ opening.name := by simp [parted]
  have word : decide (last = ';') = false := by
    have named := opening.nameWord last ends
    rw [decide_eq_false_iff_not]
    rintro rfl
    exact absurd named (by decide)
  rw [parted, List.concat_eq_append, Text.dropTrailing_append_cons word (by simp)]

/-- The line ends with an empty block exactly if the block is closed on it. -/
theorem hasEmptyBlock_eq : hasEmptyBlock opening.text.words = opening.closed := by
  have solidName : opening.name.filter (fun c => !isBlank c) = opening.name :=
    List.filter_eq_self.mpr fun c member => by simp [opening.nameSolid member]
  have gone {text : Text} (blanks : ∀ c ∈ text, isBlank c = true) :
      text.filter (fun c => !isBlank c) = [] :=
    List.filter_eq_nil_iff.mpr fun c member => by simp [blanks c member]
  have opens : isBlank '{' = false := by decide
  have closes : isBlank '}' = false := by decide
  rw [hasEmptyBlock, words_text, List.drop_one, List.tail_cons, Text.words, Text.flatten_runs,
    declared, List.filter_append, List.filter_append, solidName, gone opening.spaceBlank,
    List.append_nil, List.filter_cons_of_pos (by simp [opens])]
  have ends := opening.restEnds
  generalize opening.closed = closed, opening.rest = rest at ends ⊢
  cases ends with
  | opened blanks =>
    rw [gone blanks, Text.dropTrailing_append_cons (by decide) (by simp), List.isSuffixOf,
      List.reverse_append]
    rfl
  | emptied blanks ended =>
    rename_i gap ending
    have semicolons : ∀ c ∈ ending.filter (fun c => !isBlank c), decide (c = ';') = true := by
      intro c member
      obtain ⟨stands, solid⟩ := List.mem_filter.mp member
      rcases ended c stands with blank | same
      · simp [blank] at solid
      · simpa using same
    have parted : opening.name ++ '{' :: (gap ++ '}' :: ending).filter (fun c => !isBlank c) =
        (opening.name ++ ['{']) ++ '}' :: ending.filter fun c => !isBlank c := by
      rw [List.filter_append, gone blanks, List.nil_append,
        List.filter_cons_of_pos (by simp [closes]), List.append_assoc, List.singleton_append]
    rw [parted, Text.dropTrailing_append_cons (by decide) semicolons]
    simp [List.isSuffixOf]

/-- The line opens one block, and closes it or not. -/
theorem depthChange_text (code : LineKind.ofLine opening.text ≠ .comment) :
    depthChange opening.text = if opening.closed then 0 else 1 := by
  have whole : Opens opening.text (0 + (1 + if opening.closed then -1 else 0)) :=
    opening.level_front.followedBy (Opens.openBrace.followedBy opening.restEnds.opens)
  rw [whole.depthChange_eq code]
  cases opening.closed <;> rfl

end BlockOpening

end ProtoInterfaces
