import ProtoInterfaces.Proofs.Text.Words
import ProtoInterfaces.Schema.Line
import ProtoInterfaces.Schema.Method

/-!
# Kinds of lines

The kind of a line is told from its first word. Blanks before a line do not change it, what is no
comment line begins neither with a slash nor with a star, a statement about the schema as a whole
has the kind of what may be a field, and whatever is read as a method has the kind of methods.
What is told from a line, its indentation and the name that it declares, stands in it.
-/
namespace ProtoInterfaces

/-- The indentation of a line consists of spaces and tabs. -/
theorem Indentation.eq_of_mem_text {line : Text} {c : Char} (member : c ∈ (ofLine line).text) :
    c = ' ' ∨ c = '\t' := by
  obtain ⟨indentation, found⟩ := Option.isSome_iff_exists.mp (isSome_ofLine? line)
  rw [ofLine, Option.get_of_eq_some _ found] at member
  unfold ofLine? at found
  simp only at found
  split at found
  · obtain rfl := Option.some.inj found
    exact absurd member List.not_mem_nil
  · rename_i indented
    cases line with
    | nil => simp at indented
    | cons d rest =>
      obtain rfl := Option.some.inj found
      obtain rfl := (List.mem_replicate.mp member).2
      cases first : indents c with
      | true => simpa [indents] using first
      | false => simp [first] at indented

/-- Spaces and tabs are blanks. -/
theorem isBlank_of_indents {c : Char} (indents : Indentation.indents c = true) :
    isBlank c = true := by
  simp only [Indentation.indents, Bool.or_eq_true, decide_eq_true_eq] at indents
  rcases indents with rfl | rfl <;> decide

/-- The indentation of a line with words on it is told from the line up to the first of them. -/
theorem Indentation.ofLine_append {line : Text} (filled : line.words ≠ []) (more : Text) :
    ofLine (line ++ more) = ofLine line := by
  have inside : line.dropWhile indents ≠ [] := by
    intro none
    have all : line.takeWhile indents = line := by
      have parted := List.takeWhile_append_dropWhile (p := indents) (l := line)
      rwa [none, List.append_nil] at parted
    have each := Text.mem_takeWhile_inside indents line
    rw [all] at each
    exact filled (Text.words_of_blanks fun c member => isBlank_of_indents (each c member))
  have behind : (line ++ more).dropWhile indents = line.dropWhile indents ++ more := by
    rw [List.dropWhile_append, if_neg (by simpa using inside)]
  have wide : (line ++ more).length - (line.dropWhile indents ++ more).length =
      line.length - (line.dropWhile indents).length := by
    rw [List.length_append, List.length_append]
    omega
  have first : (line ++ more).head? = line.head? := by
    cases line with
    | nil => contradiction
    | cons c rest => rfl
  have further : line.dropWhile indents ++ more ≠ [] :=
    List.append_ne_nil_of_left_ne_nil inside more
  have same : ofLine? (line ++ more) = ofLine? line := by
    simp only [ofLine?, behind, wide, first, List.isEmpty_eq_false_iff.mpr inside,
      List.isEmpty_eq_false_iff.mpr further]
  simp only [ofLine, same]

/-- A text without characters of a class at its end is a beginning of the text. -/
theorem Text.dropTrailing_isPrefix (drops : Char → Bool) (text : Text) :
    dropTrailing drops text <+: text := by
  fun_induction dropTrailing drops text with
  | case1 => exact List.nil_prefix
  | case2 c rest all dropped ih => exact List.nil_prefix
  | case3 c rest all kept ih => exact List.cons_prefix_cons.mpr ⟨rfl, List.nil_prefix⟩
  | case4 c rest holds ih => exact List.cons_prefix_cons.mpr ⟨rfl, ih⟩

/-- The name that a line declares stands in it, and it holds neither a blank nor the brace that
opens a block. -/
theorem mem_of_mem_declaredName {line : Text} {c : Char}
    (member : c ∈ declaredName line.words) : c ∈ line ∧ isBlank c = false ∧ c ≠ '{' := by
  cases divided : line.words with
  | nil =>
    rw [divided, declaredName_of_length_le (by simp)] at member
    exact absurd member List.not_mem_nil
  | cons first others =>
  cases others with
  | nil =>
    rw [divided, declaredName_of_length_le (by simp)] at member
    exact absurd member List.not_mem_nil
  | cons second others =>
    rw [divided, declaredName_cons_cons] at member
    have early := (Text.dropTrailing_isPrefix _ _).subset member
    have found : second ∈ line.words := by
      rw [divided]
      exact List.mem_cons_of_mem _ List.mem_cons_self
    have inside := (List.takeWhile_prefix _).subset early
    have stopped := List.all_eq_true.mp List.all_takeWhile c early
    obtain ⟨stands, solid⟩ := Text.mem_of_mem_runs found inside
    exact ⟨stands, solid, by simpa using stopped⟩

namespace LineKind

/-- Blanks before a line do not change its kind. -/
theorem ofLine_append_of_blanks {lead : Text} (blanks : ∀ c ∈ lead, isBlank c = true)
    (line : Text) : ofLine (lead ++ line) = ofLine line := by
  rw [ofLine, ofLine, Text.words_append_of_blanks blanks]

/-- Skipping the blanks before a line does not change its kind. -/
theorem ofLine_skipBlanks (line : Text) : ofLine line.skipBlanks = ofLine line := by
  rw [ofLine, ofLine, Text.words_skipBlanks]

/-- A line of blanks is blank. -/
theorem ofLine_of_blanks {line : Text} (blanks : ∀ c ∈ line, isBlank c = true) :
    ofLine line = .blank := by
  rw [ofLine, Text.words_of_blanks blanks]
  rfl

/-- The first word of a line keeps it from being blank. -/
theorem ofFirst_ne_blank (word : Text) : ofFirst word ≠ .blank := by
  unfold ofFirst
  repeat' split
  all_goals simp

/-- A line with words is not blank. -/
theorem ofWords_ne_blank {words : List Text} (filled : words ≠ []) : ofWords words ≠ .blank := by
  cases words with
  | nil => contradiction
  | cons word others => exact ofFirst_ne_blank word

/-- A blank line consists of blanks. -/
theorem isBlank_of_blank {line : Text} (kind : ofLine line = .blank) {c : Char}
    (member : c ∈ line) : isBlank c = true := by
  have wordless : line.words = [] :=
    Decidable.byContradiction fun filled => ofWords_ne_blank filled kind
  have solid := Text.flatten_runs isBlank line
  rw [show line.runs isBlank = [] from wordless, List.flatten_nil] at solid
  simpa using List.filter_eq_nil_iff.mp solid.symm c member

/-- A line that begins with no blank is of the kind that its first word makes it. -/
theorem ofLine_cons {c : Char} (solid : isBlank c = false) (line : Text) :
    ofLine (c :: line) = ofFirst (c :: line.takeWhile fun d => !isBlank d) := by
  rw [ofLine, Text.words_cons_solid solid]
  rfl

/-- A line is a comment exactly if its first word begins one. -/
theorem ofFirst_eq_comment_iff {word : Text} :
    ofFirst word = .comment ↔ opensComment word = true := by
  unfold ofFirst
  by_cases opens : opensComment word = true
  · simp [opens]
  · rw [if_neg opens]
    simp only [opens]
    repeat' split
    all_goals simp

/-- A word that begins a comment begins with a slash or a star. -/
theorem head_of_opensComment {c : Char} {word : Text} (opens : opensComment (c :: word) = true) :
    c = '/' ∨ c = '*' := by
  simp only [opensComment, List.isPrefixOf_cons_cons, Bool.or_eq_true, Bool.and_eq_true,
    beq_iff_eq] at opens
  rcases opens with (⟨slash, _⟩ | ⟨slash, _⟩) | ⟨star, _⟩
  · exact .inl slash.symm
  · exact .inl slash.symm
  · exact .inr star.symm

/-- A line whose first character that is not blank is neither a slash nor a star is no comment. -/
theorem ofLine_ne_comment {line : Text}
    (plain : ∀ c ∈ line.skipBlanks.head?, c ≠ '/' ∧ c ≠ '*') : ofLine line ≠ .comment := by
  rw [← ofLine_skipBlanks]
  cases begun : line.skipBlanks with
  | nil =>
    rw [ofLine_of_blanks (by simp)]
    simp
  | cons c rest =>
    rw [begun] at plain
    have neither := plain c rfl
    rw [ofLine_cons (Text.head_skipBlanks begun)]
    intro kind
    rcases head_of_opensComment (ofFirst_eq_comment_iff.mp kind) with slash | star
    · exact neither.1 slash
    · exact neither.2 star

/-- A line that begins with a character other than a blank, a slash and a star is no comment. -/
theorem ofLine_ne_comment_of_head {line : Text} {c : Char} (begins : line.head? = some c)
    (solid : isBlank c = false) (plain : c ≠ '/' ∧ c ≠ '*') : ofLine line ≠ .comment := by
  obtain ⟨rest, rfl⟩ := List.head?_eq_some_iff.mp begins
  apply ofLine_ne_comment
  intro d first
  rw [Text.skipBlanks, List.dropWhile_cons_of_neg (by simp [solid])] at first
  obtain rfl := Option.some.inj first
  exact plain

/-- A line that is read as a method is of the kind of methods. -/
theorem ofLine_of_method {line : Text} {method : Method}
    (read : Method.ofLine? line = some method) : ofLine line = .method := by
  simp only [Method.ofLine?, bind, Option.bind_eq_some_iff] at read
  obtain ⟨rest, begun, after, parted, _⟩ := read
  obtain ⟨⟨gap, filled, rfl, blanks⟩, _⟩ := Text.skipBlanks1?_eq_some_iff.mp parted
  have words : line.words = "rpc".toList :: after.words := by
    rw [← Text.words_skipBlanks, Text.after?_eq_some_iff.mp begun]
    exact Text.words_append_gap (by decide) (Text.solid_of_all (by decide)) filled blanks after
  rw [ofLine, words]
  exact (by decide : ofFirst "rpc".toList = .method)

/-- A statement about the schema as a whole is of the kind of lines that may be fields. -/
theorem ofLine_of_isStatement {line : Text} (stated : isStatement line = true) :
    ofLine line = .field := by
  have begun : ∃ rest, line.skipBlanks = 's' :: 'y' :: rest ∨ line.skipBlanks = 'o' :: rest := by
    simp only [isStatement, beginsWithWord, Bool.or_eq_true] at stated
    rcases stated with begins | begins
    · split at begins
      · rename_i rest found
        exact ⟨_, .inl (Text.after?_eq_some_iff.mp found)⟩
      · contradiction
    · split at begins
      · rename_i rest found
        exact ⟨_, .inr (Text.after?_eq_some_iff.mp found)⟩
      · contradiction
  obtain ⟨rest, begun⟩ := begun
  rw [← ofLine_skipBlanks]
  rcases begun with begun | begun
  · rw [begun, ofLine_cons (by decide), List.takeWhile_cons_of_pos (by decide)]
    simp [ofFirst, opensComment]
  · rw [begun, ofLine_cons (by decide)]
    simp [ofFirst, opensComment]

end LineKind

end ProtoInterfaces
