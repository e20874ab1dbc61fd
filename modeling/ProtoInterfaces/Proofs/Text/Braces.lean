import ProtoInterfaces.Proofs.Schema.Line
import ProtoInterfaces.Proofs.Text.Caseless
import ProtoInterfaces.Proofs.Text.Reading

/-!
# Brace depth

A line changes the depth by its opening braces less its closing ones before the first `//`; a
comment line changes nothing. A text without a slash opens so many blocks more than it closes, and
it is level if it opens none: what begins with a level part changes the depth as the rest of it
does.
-/
namespace ProtoInterfaces

/-- What stands before the first `//` of a text. -/
def beforeComment : Text → Text
  | [] => []
  | '/' :: '/' :: _ => []
  | c :: rest => c :: beforeComment rest

/-- The opening braces of a text less its closing ones. -/
def braceBalance (text : Text) : Int := text.count '{' - text.count '}'

/-- By how much a line changes the depth. -/
def depthChange (line : Text) : Int :=
  if LineKind.ofLine line = .comment then 0 else braceBalance (beforeComment line)

/-- The depth that lines lead to. -/
def depthOf : List Text → Int
  | [] => 0
  | line :: rest => depthChange line + depthOf rest

/-- A text without a slash that opens so many blocks more than it closes. -/
structure Opens (text : Text) (count : Int) : Prop where
  /-- No comment begins in the text. -/
  unslashed : '/' ∉ text
  /-- The opening braces less the closing ones. -/
  balance : braceBalance text = count

/-- A text without a slash that opens as many blocks as it closes. -/
abbrev Level (text : Text) : Prop := Opens text 0

/-- A character that is neither a slash nor a brace. -/
def isPlain (c : Char) : Bool := c ≠ '/' && c ≠ '{' && c ≠ '}'

/-- The depth of two lists of lines is the sum of their depths. -/
theorem depthOf_append (left right : List Text) :
    depthOf (left ++ right) = depthOf left + depthOf right := by
  induction left with
  | nil => exact (Int.zero_add _).symm
  | cons line left ih => rw [List.cons_append, depthOf, depthOf, ih, Int.add_assoc]

/-- The depth of a single line is its change. -/
theorem depthOf_singleton (line : Text) : depthOf [line] = depthChange line := by
  simp [depthOf]

/-- The balance of two texts is the sum of their balances. -/
theorem braceBalance_append (left right : Text) :
    braceBalance (left ++ right) = braceBalance left + braceBalance right := by
  simp only [braceBalance, List.count_append]
  omega

/-- A text without braces is balanced. -/
theorem braceBalance_eq_zero {text : Text} (noOpening : '{' ∉ text)
    (noClosing : '}' ∉ text) : braceBalance text = 0 := by
  simp [braceBalance, List.count_eq_zero_of_not_mem noOpening,
    List.count_eq_zero_of_not_mem noClosing]

/-- A part without a slash stands before every comment. -/
theorem beforeComment_append {head : Text} (unslashed : '/' ∉ head) (rest : Text) :
    beforeComment (head ++ rest) = head ++ beforeComment rest := by
  induction head with
  | nil => rfl
  | cons c head ih =>
    have here : c ≠ '/' := fun slash => unslashed (slash ▸ List.mem_cons_self)
    have later : '/' ∉ head := fun member => unslashed (List.mem_cons_of_mem _ member)
    rw [List.cons_append, beforeComment, ih later, List.cons_append]
    intro _ slash
    exact absurd slash here

/-- A text without a slash holds no comment. -/
theorem beforeComment_eq_self {text : Text} (unslashed : '/' ∉ text) :
    beforeComment text = text := by
  have whole := beforeComment_append unslashed []
  rwa [List.append_nil, beforeComment, List.append_nil] at whole

namespace Opens

variable {left right : Text} {count further : Int}

/-- Two parts open together what each of them opens. -/
theorem followedBy (first : Opens left count) (second : Opens right further) :
    Opens (left ++ right) (count + further) where
  unslashed := by
    rw [List.mem_append]
    exact fun member => member.elim first.unslashed second.unslashed
  balance := by rw [braceBalance_append, first.balance, second.balance]

/-- An opening brace opens one block. -/
theorem openBrace : Opens ['{'] 1 := ⟨by decide, rfl⟩

/-- A closing brace closes one block. -/
theorem closeBrace : Opens ['}'] (-1) := ⟨by decide, rfl⟩

/-- A line that is no comment changes the depth by what it opens. -/
theorem depthChange_eq {line : Text} (opens : Opens line count)
    (code : LineKind.ofLine line ≠ .comment) : depthChange line = count := by
  rw [depthChange, if_neg code, beforeComment_eq_self opens.unslashed, opens.balance]

end Opens

namespace Level

/-- The empty text is level. -/
theorem nil : Level [] := ⟨List.not_mem_nil, rfl⟩

/-- Two level parts are level together. -/
theorem append {left right : Text} (first : Level left) (second : Level right) :
    Level (left ++ right) := first.followedBy second

/-- A text of plain characters is level. -/
theorem of_plain {text : Text} (plain : ∀ c ∈ text, isPlain c = true) : Level text :=
  ⟨Text.not_mem_of_class plain (by decide),
    braceBalance_eq_zero (Text.not_mem_of_class plain (by decide))
      (Text.not_mem_of_class plain (by decide))⟩

/-- A text of plain characters is level, by going through them. -/
theorem of_all {text : Text} (plain : text.all isPlain = true) : Level text :=
  of_plain (List.all_eq_true.mp plain)

/-- A level line changes no depth. -/
theorem depthChange_eq_zero {line : Text} (level : Level line) : depthChange line = 0 := by
  unfold depthChange
  split
  · rfl
  · rw [beforeComment_eq_self level.unslashed, level.balance]

end Level

/-- Blanks are plain. -/
theorem isPlain_of_isBlank {c : Char} (blank : isBlank c = true) : isPlain c = true := by
  have slash : c ≠ '/' := Text.ne_of_class blank (by decide)
  have opening : c ≠ '{' := Text.ne_of_class blank (by decide)
  have closing : c ≠ '}' := Text.ne_of_class blank (by decide)
  simp [isPlain, slash, opening, closing]

/-- Characters of type names are plain. -/
theorem isPlain_of_isTypeCharacter {c : Char} (named : isTypeCharacter c = true) :
    isPlain c = true := by
  have slash : c ≠ '/' := Text.ne_of_class named (by decide)
  have opening : c ≠ '{' := Text.ne_of_class named (by decide)
  have closing : c ≠ '}' := Text.ne_of_class named (by decide)
  simp [isPlain, slash, opening, closing]

/-- Word characters are plain. -/
theorem isPlain_of_isWordCharacter {c : Char} (word : isWordCharacter c = true) :
    isPlain c = true := isPlain_of_isTypeCharacter (by simp [isTypeCharacter, word])

/-- Blanks are level. -/
theorem Level.of_blanks {text : Text} (blanks : ∀ c ∈ text, isBlank c = true) : Level text :=
  Level.of_plain fun c member => isPlain_of_isBlank (blanks c member)

/-- A word is level. -/
theorem Level.of_word {text : Text} (word : ∀ c ∈ text, isWordCharacter c = true) : Level text :=
  Level.of_plain fun c member => isPlain_of_isWordCharacter (word c member)

/-- The second text is left when a level part is taken from the beginning of the first. -/
def LeavesLevel (text rest : Text) : Prop := ∃ head, text = head ++ rest ∧ Level head

namespace LeavesLevel

variable {text middle rest : Text}

/-- Two level parts one after the other are taken together. -/
theorem trans (first : LeavesLevel text middle) (second : LeavesLevel middle rest) :
    LeavesLevel text rest := by
  obtain ⟨head, rfl, level⟩ := first
  obtain ⟨next, rfl, further⟩ := second
  exact ⟨head ++ next, (List.append_assoc _ _ _).symm, level.append further⟩

/-- Plain characters that are taken are a level part. -/
theorem of_leaves {belongs : Char → Bool} (leaves : Text.Leaves belongs text rest)
    (plain : ∀ c, belongs c = true → isPlain c = true) : LeavesLevel text rest := by
  obtain ⟨front, rfl, inside⟩ := leaves
  exact ⟨front, rfl, Level.of_plain fun c member => plain c (inside c member)⟩

/-- A level beginning leaves the balance before a comment to the rest. -/
theorem braceBalance_beforeComment (leaves : LeavesLevel text rest) :
    braceBalance (beforeComment text) = braceBalance (beforeComment rest) := by
  obtain ⟨head, rfl, level⟩ := leaves
  rw [beforeComment_append level.unslashed, braceBalance_append, level.balance, Int.zero_add]

end LeavesLevel

/-- Blanks before a line do not matter to its change of the depth. -/
theorem depthChange_append_of_blanks {lead : Text} (blanks : ∀ c ∈ lead, isBlank c = true)
    (line : Text) : depthChange (lead ++ line) = depthChange line := by
  have leaves : LeavesLevel (lead ++ line) line :=
    .of_leaves ⟨lead, rfl, blanks⟩ fun _ => isPlain_of_isBlank
  rw [depthChange, depthChange, LineKind.ofLine_append_of_blanks blanks,
    leaves.braceBalance_beforeComment]

/-- A blank line changes no depth. -/
theorem depthChange_of_blank {line : Text} (blank : LineKind.ofLine line = .blank) :
    depthChange line = 0 := by
  have level : Level line := Level.of_blanks fun _ => LineKind.isBlank_of_blank blank
  exact level.depthChange_eq_zero

end ProtoInterfaces
