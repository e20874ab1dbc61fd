import Mathlib.Algebra.Group.Nat.Defs
import ProtoInterfaces.Proofs.Text.Caseless
import ProtoInterfaces.Proofs.Text.Lines
import ProtoInterfaces.Text.Quoted

/-!
# Reading quoted texts

A quoted text tells which text it shows. Its first character is the quote; behind it every
character is read back from its spelling whatever follows it (`readCharacter?`), since the letter
of an escape says what it stands for or how many digits follow it. So different texts are quoted
differently, although the quote depends on the text, and no quoted text holds a line break.
-/
namespace ProtoInterfaces.Text

/-! ## Hexadecimal digits -/

/-- The value of a lower-case hexadecimal digit. -/
def digitValue (digit : Char) : Nat :=
  if digit.toNat < 58 then digit.toNat - 48 else digit.toNat - 87

/-- The number that hexadecimal digits stand for. -/
def numberOf (digits : Text) : Nat :=
  digits.foldl (fun number digit => number * 16 + digitValue digit) 0

/-- A digit has the value that it is the digit of. -/
theorem digitValue_hexDigit {value : Nat} (single : value < 16) :
    digitValue (hexDigit value) = value := by
  have each : ∀ value < 16, digitValue (hexDigit value) = value := by decide
  exact each value single

/-- There are as many digits as are asked for. -/
theorem length_hexDigits (count value : Nat) : (hexDigits count value).length = count := by
  induction count generalizing value with
  | zero => rfl
  | succ count ih => rw [hexDigits, List.length_append, ih, List.length_singleton]

/-- The last digits of a number stand for what is left of it below their range. -/
theorem numberOf_hexDigits (count value : Nat) :
    numberOf (hexDigits count value) = value % 16 ^ count := by
  induction count generalizing value with
  | zero => rw [hexDigits, Nat.pow_zero, Nat.mod_one, numberOf, List.foldl_nil]
  | succ count ih =>
    have last : digitValue (hexDigit (value % 16)) = value % 16 :=
      digitValue_hexDigit (Nat.mod_lt value (by decide))
    calc
      numberOf (hexDigits (count + 1) value)
        = numberOf (hexDigits count (value / 16)) * 16 + digitValue (hexDigit (value % 16)) := by
          rw [hexDigits, numberOf, List.foldl_append, numberOf, List.foldl_cons, List.foldl_nil]
      _ = value / 16 % 16 ^ count * 16 + value % 16 := by rw [ih, last]
      _ = value % 16 ^ (count + 1) := by
          rw [Nat.pow_succ', Nat.mod_mul]
          omega

/-! ## Spellings of characters -/

/-- How many digits follow the letter of an escape by code. -/
def codeWidth? (letter : Char) : Option Nat :=
  if letter = 'x' then some 2
  else if letter = 'u' then some 4
  else if letter = 'U' then some 8
  else none

/-- The character that an escape without digits stands for. -/
def namedBy (letter : Char) : Char :=
  if letter = 'n' then '\n'
  else if letter = 'r' then '\r'
  else if letter = 't' then '\t'
  else letter

/-- The character whose spelling begins a text, and what follows the spelling. -/
def readCharacter? : Text → Option (Char × Text)
  | [] => none
  | c :: rest =>
    if c = '\\' then
      match rest with
      | [] => none
      | letter :: rest =>
        match codeWidth? letter with
        | some width => some (Char.ofNat (numberOf (rest.take width)), rest.drop width)
        | none => some (namedBy letter, rest)
    else some (c, rest)

/-- A character that may quote a text. -/
def IsQuote (quote : Char) : Prop := quote = '\'' ∨ quote = '"'

/-- Texts are shown between quotes. -/
theorem isQuote_quoteFor (text : Text) : IsQuote (quoteFor text) := by
  unfold quoteFor
  split
  · exact .inr rfl
  · exact .inl rfl

/-- An escape by code is a backslash, a letter, and as many digits as the letter says; they are
enough for the code. -/
theorem exists_escapeCode_eq (c : Char) :
    ∃ letter width, codeWidth? letter = some width ∧ c.toNat < 16 ^ width ∧
      escapeCode c = '\\' :: letter :: hexDigits width c.toNat := by
  have bounded : c.toNat < 16 ^ 8 := by
    have valid : c.toNat.isValidChar := c.valid
    unfold Nat.isValidChar at valid
    omega
  unfold escapeCode
  split
  · rename_i small
    exact ⟨'x', 2, rfl, small, rfl⟩
  · split
    · rename_i middle
      exact ⟨'u', 4, rfl, middle, rfl⟩
    · exact ⟨'U', 8, rfl, bounded, rfl⟩

/-- An escape without digits is read as what its letter stands for. -/
theorem readCharacter?_named {letter : Char} (plain : codeWidth? letter = none) (rest : Text) :
    readCharacter? ('\\' :: letter :: rest) = some (namedBy letter, rest) := by
  simp only [readCharacter?, if_true, plain]

/-- An escape by code is read as the character with the code. -/
theorem readCharacter?_escapeCode (c : Char) (rest : Text) :
    readCharacter? (escapeCode c ++ rest) = some (c, rest) := by
  obtain ⟨letter, width, known, enough, spelt⟩ := exists_escapeCode_eq c
  have digits : (hexDigits width c.toNat ++ rest).take width = hexDigits width c.toNat :=
    List.take_left' (length_hexDigits width c.toNat)
  have behind : (hexDigits width c.toNat ++ rest).drop width = rest :=
    List.drop_left' (length_hexDigits width c.toNat)
  simp only [spelt, List.cons_append, readCharacter?, if_true, known]
  rw [digits, behind, numberOf_hexDigits, Nat.mod_eq_of_lt enough, Char.ofNat_toNat]

/-- **Every character is read back from its spelling**, whatever follows it. -/
theorem readCharacter?_quotedCharacter {quote : Char} (quotes : IsQuote quote) (c : Char)
    (rest : Text) : readCharacter? (quotedCharacter quote c ++ rest) = some (c, rest) := by
  unfold quotedCharacter
  by_cases itself : c = quote ∨ c = '\\'
  · have plain : codeWidth? c = none ∧ namedBy c = c := by
      rcases itself with rfl | rfl
      · rcases quotes with rfl | rfl <;> decide
      · decide
    rw [if_pos (by simpa using itself)]
    exact (readCharacter?_named plain.1 rest).trans (by rw [plain.2])
  · rw [if_neg (by simpa using itself)]
    by_cases feeds : c = '\n'
    · subst feeds
      exact readCharacter?_named rfl rest
    by_cases returns : c = '\r'
    · subst returns
      exact readCharacter?_named rfl rest
    by_cases tabs : c = '\t'
    · subst tabs
      exact readCharacter?_named rfl rest
    rw [if_neg feeds, if_neg returns, if_neg tabs]
    split
    · have solid : c ≠ '\\' := fun same => itself (.inr same)
      simp only [List.singleton_append, readCharacter?, if_neg solid]
    · exact readCharacter?_escapeCode c rest

/-! ## Quoted texts -/

/-- Different texts are spelt differently between the same quotes. -/
theorem flatMap_quotedCharacter_inj {quote : Char} (quotes : IsQuote quote) {left right : Text}
    (same : left.flatMap (quotedCharacter quote) = right.flatMap (quotedCharacter quote)) :
    left = right := by
  induction left generalizing right with
  | nil =>
    cases right with
    | nil => rfl
    | cons d right =>
      have read := readCharacter?_quotedCharacter quotes d (right.flatMap (quotedCharacter quote))
      rw [← List.flatMap_cons, ← same] at read
      contradiction
  | cons c left ih =>
    have read := readCharacter?_quotedCharacter quotes c (left.flatMap (quotedCharacter quote))
    rw [← List.flatMap_cons, same] at read
    cases right with
    | nil => contradiction
    | cons d right =>
      rw [List.flatMap_cons, readCharacter?_quotedCharacter quotes, Option.some.injEq,
        Prod.mk.injEq] at read
      rw [read.1, ih read.2.symm]

/-- **Different texts are quoted differently.** -/
theorem quoted_inj {left right : Text} (same : quoted left = quoted right) : left = right := by
  unfold quoted at same
  rw [List.append_assoc, List.append_assoc, List.singleton_append, List.singleton_append] at same
  obtain ⟨quote, inner⟩ := List.cons.inj same
  rw [quote] at inner
  exact flatMap_quotedCharacter_inj (isQuote_quoteFor right) (List.append_cancel_right inner)

/-- No line break is shown as it is. -/
theorem isPrintable_eq_false_of_isLineBreak {c : Char} (breaks : isLineBreak c = true) :
    isPrintable c = false := by
  obtain ⟨range, member, low, high⟩ := CodeRanges.contain_iff.mp breaks
  have covered : ∀ range ∈ lineBreakRanges, range.2 < 0x20 ∨
      0x80 ≤ range.1 ∧ ∃ wide ∈ unprintableRanges, wide.1 ≤ range.1 ∧ range.2 ≤ wide.2 := by
    decide +kernel
  rcases covered range member with control | ⟨foreign, wide, listed, below, above⟩
  · rw [isPrintable, if_pos (by omega), decide_eq_false (by omega), Bool.false_and]
  · have inside : unprintableRanges.contain c = true :=
      CodeRanges.contain_iff.mpr ⟨wide, listed, by omega, by omega⟩
    rw [isPrintable, if_neg (by omega), inside]
    rfl

/-- Hexadecimal digits break no line. -/
theorem unbroken_hexDigits (count value : Nat) : Unbroken (hexDigits count value) := by
  have each : ∀ value < 16, Unbroken [hexDigit value] := by decide
  induction count generalizing value with
  | zero => exact (by decide : Unbroken [])
  | succ count ih => exact (ih _).append (each _ (Nat.mod_lt value (by decide)))

/-- No escape by code holds a line break. -/
theorem unbroken_escapeCode (c : Char) : Unbroken (escapeCode c) := by
  have spelt (letter : Char) (plain : Unbroken ['\\', letter]) (width : Nat) :
      Unbroken (['\\', letter] ++ hexDigits width c.toNat) :=
    plain.append (unbroken_hexDigits width c.toNat)
  unfold escapeCode
  split
  · exact spelt 'x' (by decide) 2
  · split
    · exact spelt 'u' (by decide) 4
    · exact spelt 'U' (by decide) 8

/-- No spelling holds a line break. -/
theorem unbroken_quotedCharacter {quote : Char} (quotes : IsQuote quote) (c : Char) :
    Unbroken (quotedCharacter quote c) := by
  unfold quotedCharacter
  split
  · rename_i itself
    rw [Bool.or_eq_true, decide_eq_true_eq, decide_eq_true_eq] at itself
    rcases itself with rfl | rfl
    · rcases quotes with rfl | rfl <;> decide
    · decide
  · repeat (split; · decide)
    split
    · rename_i shown
      intro d member
      obtain rfl := List.mem_singleton.mp member
      cases breaks : isLineBreak d with
      | false => rfl
      | true =>
        rw [isPrintable_eq_false_of_isLineBreak breaks] at shown
        contradiction
    · exact unbroken_escapeCode c

/-- **No quoted text holds a line break.** -/
theorem unbroken_quoted (text : Text) : Unbroken (quoted text) := by
  have quotes := isQuote_quoteFor text
  have mark : Unbroken [quoteFor text] := by
    rcases quotes with quote | quote <;> rw [quote] <;> decide
  refine (mark.append fun d member => ?_).append mark
  obtain ⟨c, _, inside⟩ := List.mem_flatMap.mp member
  exact unbroken_quotedCharacter quotes c d inside

end ProtoInterfaces.Text
