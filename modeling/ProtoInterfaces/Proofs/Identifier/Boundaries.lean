import Mathlib.Data.List.Induction
import ProtoInterfaces.Identifier.Words
import ProtoInterfaces.Proofs.Text.Words

/-!
# Where the words of an identifier begin

Changes of case are marked by two passes over an identifier, the second over what the first one
gives. A place that is replaced never hides another one, so both passes together mark exactly the
places at which a character and the two after it say that a word opens (`opensWord`). The words of
an identifier are therefore found from its end, one character at a time.
-/
namespace ProtoInterfaces

/-- Characters of an earlier place are passed over. -/
theorem substituteFrom_append (rule : SubstitutionRule) (passed rest : Text) :
    substituteFrom rule passed.length (passed ++ rest) = substitute rule rest := by
  induction passed with
  | nil => rfl
  | cons c passed ih => exact ih

/-- A character at which the rule does not apply stays. -/
theorem substitute_of_none {rule : SubstitutionRule} {c : Char} {rest : Text}
    (kept : rule (c :: rest) = none) :
    substitute rule (c :: rest) = c :: substitute rule rest := by
  rw [substitute, substituteFrom, kept]
  rfl

/-- A place at which the rule applies is replaced, and what follows it is gone on with. -/
theorem substitute_of_some {rule : SubstitutionRule} {c : Char} {passed rest replacement : Text}
    (found : rule (c :: (passed ++ rest)) = some (replacement, passed.length)) :
    substitute rule (c :: (passed ++ rest)) = replacement ++ substitute rule rest := by
  rw [substitute, substituteFrom, found, ← substituteFrom_append rule passed rest]

namespace Identifier

/-- Whether a capital opens a word after a small letter or a digit. -/
def opensHump (c : Char) (rest : Text) : Bool := isSmallOrDigit c && rest.head?.any isCapital

/-- Whether a capital opens a word after another one, as a small letter follows it. -/
def endsCapitals (c : Char) : Text → Bool
  | d :: e :: _ => isCapital c && isCapital d && isSmall e
  | _ => false

/-- Whether a word opens between a character and what follows it. -/
def opensWord (c : Char) (rest : Text) : Bool := opensHump c rest || endsCapitals c rest

/-- The text with a space at every place that is to be marked. -/
def marked (marks : Char → Text → Bool) : Text → Text
  | [] => []
  | c :: rest =>
    if marks c rest then c :: ' ' :: marked marks rest else c :: marked marks rest

/-! ## Classes of characters -/

/-- The capitals by their code points. -/
theorem isCapital_iff {c : Char} : isCapital c = true ↔ 65 ≤ c.toNat ∧ c.toNat ≤ 90 := by
  have within : isCapital c = decide ('A'.val ≤ c.val ∧ c.val ≤ 'Z'.val) := rfl
  rw [within, decide_eq_true_iff]
  rfl

/-- The small letters by their code points. -/
theorem isSmall_iff {c : Char} : isSmall c = true ↔ 97 ≤ c.toNat ∧ c.toNat ≤ 122 := by
  have within : isSmall c = (decide ('a'.val ≤ c.val) && decide (c.val ≤ 'z'.val)) := rfl
  rw [within, Bool.and_eq_true, decide_eq_true_iff, decide_eq_true_iff]
  rfl

/-- The digits by their code points. -/
theorem isDigit_iff {c : Char} : c.isDigit = true ↔ 48 ≤ c.toNat ∧ c.toNat ≤ 57 := by
  have within : c.isDigit = (decide ('0'.val ≤ c.val) && decide (c.val ≤ '9'.val)) := rfl
  rw [within, Bool.and_eq_true, decide_eq_true_iff, decide_eq_true_iff]
  rfl

/-- The small letters and the digits by their code points. -/
theorem isSmallOrDigit_iff {c : Char} : isSmallOrDigit c = true ↔
    (97 ≤ c.toNat ∧ c.toNat ≤ 122) ∨ (48 ≤ c.toNat ∧ c.toNat ≤ 57) := by
  have either : isSmallOrDigit c = (isSmall c || c.isDigit) := rfl
  rw [either, Bool.or_eq_true, isSmall_iff, isDigit_iff]

/-- No capital is a small letter or a digit. -/
theorem isSmallOrDigit_of_isCapital {c : Char} (capital : isCapital c = true) :
    isSmallOrDigit c = false := by
  have code := isCapital_iff.mp capital
  rw [Bool.eq_false_iff]
  intro other
  have otherCode := isSmallOrDigit_iff.mp other
  omega

/-- No small letter is a capital. -/
theorem isCapital_of_isSmall {c : Char} (small : isSmall c = true) : isCapital c = false := by
  have code := isSmall_iff.mp small
  rw [Bool.eq_false_iff]
  intro other
  have otherCode := isCapital_iff.mp other
  omega

/-- The letters and the digits by their code points. -/
theorem isAlphanum_iff {c : Char} : c.isAlphanum = true ↔
    (65 ≤ c.toNat ∧ c.toNat ≤ 90) ∨ (97 ≤ c.toNat ∧ c.toNat ≤ 122) ∨
      (48 ≤ c.toNat ∧ c.toNat ≤ 57) := by
  have either : c.isAlphanum = ((isCapital c || isSmall c) || c.isDigit) := rfl
  rw [either, Bool.or_eq_true, Bool.or_eq_true, isCapital_iff, isSmall_iff, isDigit_iff, or_assoc]

/-- No letter and no digit separates words. -/
theorem isSeparator_of_isAlphanum {c : Char} (alphanumeric : c.isAlphanum = true) :
    isSeparator c = false := by
  have code := isAlphanum_iff.mp alphanumeric
  have solid : isBlank c = false := by
    rw [Bool.eq_false_iff]
    intro blank
    obtain ⟨range, listed, low, high⟩ := CodeRanges.contain_iff.mp blank
    have outside : ∀ range ∈ blankRanges, range.2 < 48 ∨ 122 < range.1 := by decide
    have apart := outside range listed
    omega
  have other {d : Char} (plain : d.isAlphanum = false) : c ≠ d := by
    rintro rfl
    rw [alphanumeric] at plain
    contradiction
  simp [isSeparator, solid, other (by decide : '_'.isAlphanum = false),
    other (by decide : '-'.isAlphanum = false), other (by decide : '.'.isAlphanum = false)]

/-! ## Marking -/

section

variable {marks : Char → Text → Bool} {c : Char} {rest : Text}

/-- A space is put where a mark stands. -/
theorem marked_of_marks (here : marks c rest = true) :
    marked marks (c :: rest) = c :: ' ' :: marked marks rest := by
  rw [marked, if_pos here]

/-- Nothing is put where no mark stands. -/
theorem marked_of_unmarked (unmarked : marks c rest = false) :
    marked marks (c :: rest) = c :: marked marks rest := by
  rw [marked, unmarked]
  rfl

/-- The first character stays first. -/
theorem head?_marked (text : Text) : (marked marks text).head? = text.head? := by
  cases text with
  | nil => rfl
  | cons c rest =>
    rw [marked]
    split <;> rfl

end

/-- No hump begins with a character that is neither a small letter nor a digit. -/
theorem opensHump_of_plain {c : Char} (plain : isSmallOrDigit c = false) (rest : Text) :
    opensHump c rest = false := by
  rw [opensHump, plain, Bool.false_and]

/-- No run of capitals goes on from a character that is no capital. -/
theorem endsCapitals_of_plain {c : Char} (plain : isCapital c = false) (rest : Text) :
    endsCapitals c rest = false := by
  unfold endsCapitals
  split <;> simp [plain]

/-- No run of capitals ends before a character that is no capital. -/
theorem endsCapitals_of_second {c d : Char} (plain : isCapital d = false) (rest : Text) :
    endsCapitals c (d :: rest) = false := by
  cases rest <;> simp [endsCapitals, plain]

/-- No run of capitals ends where no small letter follows. -/
theorem endsCapitals_of_third {c d : Char} {rest : Text}
    (plain : ∀ e ∈ rest.head?, isSmall e = false) : endsCapitals c (d :: rest) = false := by
  cases rest with
  | nil => rfl
  | cons e rest =>
    have third : isSmall e = false := plain e rfl
    simp [endsCapitals, third]

/-! ## The two passes -/

/-- The pass over humps marks every capital after a small letter or a digit. -/
theorem substitute_humpRule (text : Text) : substitute humpRule text = marked opensHump text := by
  induction text using List.twoStepInduction with
  | nil => rfl
  | singleton c =>
    have unmarked : opensHump c [] = false := Bool.and_false _
    rw [marked_of_unmarked unmarked]
    rfl
  | cons_cons c d rest further next =>
    cases opens : opensHump c (d :: rest) with
    | true =>
      have found : humpRule (c :: ([d] ++ rest)) = some ([c, ' ', d], [d].length) := if_pos opens
      -- The capital is replaced together with what stands before it, and it begins no hump.
      have capital : isCapital d = true := (Bool.and_eq_true_iff.mp opens).2
      have unmarked := opensHump_of_plain (isSmallOrDigit_of_isCapital capital) rest
      rw [marked_of_marks opens, marked_of_unmarked unmarked, ← further]
      exact substitute_of_some found
    | false =>
      have kept : humpRule (c :: d :: rest) = none := if_neg (Bool.eq_false_iff.mp opens)
      rw [marked_of_unmarked opens, substitute_of_none kept, next]

/-- The pass over capitals replaces exactly a run of two or more of them with a small letter after
it. -/
theorem capitalRunRule_eq_some_iff {text replacement : Text} {more : Nat} :
    capitalRunRule text = some (replacement, more) ↔ ∃ earlier last small rest,
      text = earlier ++ last :: small :: rest ∧ earlier ≠ [] ∧
        (∀ c ∈ earlier, isCapital c = true) ∧ isCapital last = true ∧ isSmall small = true ∧
          replacement = earlier ++ [' ', last, small] ∧ more = earlier.length + 1 := by
  constructor
  · intro found
    simp only [capitalRunRule] at found
    split at found
    · rename_i last next others small rest reversed dropped
      split at found
      · rename_i ends
        obtain ⟨rfl, rfl⟩ := Prod.mk.inj (Option.some.inj found)
        have run : text.takeWhile isCapital = (next :: others).reverse ++ [last] := by
          rw [← List.reverse_cons, ← reversed, List.reverse_reverse]
        have parted : text = (next :: others).reverse ++ last :: small :: rest := by
          rw [← List.takeWhile_append_dropWhile (p := isCapital) (l := text), run, dropped,
            List.append_assoc, List.singleton_append]
        have capitals : ∀ c ∈ (next :: others).reverse ++ [last], isCapital c = true := by
          rw [← run]
          exact Text.mem_takeWhile_inside isCapital text
        obtain ⟨before, behind⟩ := List.forall_mem_append.mp capitals
        have capital : isCapital last = true := behind last List.mem_cons_self
        refine ⟨_, last, small, rest, parted, by simp, before, capital, ends, rfl, ?_⟩
        rw [run, List.length_append, List.length_singleton]
      · contradiction
    · contradiction
  · rintro ⟨earlier, last, small, rest, rfl, holds, capitals, capital, ends, rfl, rfl⟩
    have inside : ∀ c ∈ earlier ++ [last], isCapital c = true :=
      List.forall_mem_append.mpr ⟨capitals, by simpa using capital⟩
    have stops : ∀ c ∈ (small :: rest).head?, isCapital c = false := by
      intro c first
      obtain rfl := Option.some.inj first
      exact isCapital_of_isSmall ends
    have whole : earlier ++ last :: small :: rest = (earlier ++ [last]) ++ small :: rest := by simp
    obtain ⟨run, left⟩ := Text.span_append inside stops
    obtain ⟨next, others, reversed⟩ :=
      List.exists_cons_of_ne_nil (mt List.reverse_eq_nil_iff.mp holds)
    have backwards : (earlier ++ [last]).reverse = last :: next :: others := by simp [reversed]
    have earlier_eq : (next :: others).reverse = earlier := by
      rw [← reversed, List.reverse_reverse]
    simp only [capitalRunRule]
    rw [whole, run, left, backwards]
    simp only [if_pos ends, earlier_eq, List.length_append, List.length_singleton]

/-- A run of capitals before a small letter is marked before its last capital. -/
theorem marked_capitals (c : Char) (isFirst : isCapital c = true) {earlier : Text}
    (capitals : ∀ c ∈ earlier, isCapital c = true) {last small : Char}
    (capital : isCapital last = true) (ends : isSmall small = true) (rest : Text) :
    marked endsCapitals (c :: (earlier ++ last :: small :: rest)) =
      c :: (earlier ++ ' ' :: last :: small :: marked endsCapitals rest) := by
  induction earlier generalizing c with
  | nil =>
    have opens : endsCapitals c (last :: small :: rest) = true := by
      simp [endsCapitals, isFirst, capital, ends]
    have inside : endsCapitals last (small :: rest) = false :=
      endsCapitals_of_second (isCapital_of_isSmall ends) rest
    have behind : endsCapitals small rest = false :=
      endsCapitals_of_plain (isCapital_of_isSmall ends) rest
    rw [List.nil_append, marked_of_marks opens, marked_of_unmarked inside,
      marked_of_unmarked behind]
    rfl
  | cons d earlier ih =>
    obtain ⟨second, others⟩ := List.forall_mem_cons.mp capitals
    have large {e : Char} (capital : isCapital e = true) : isSmall e = false := by
      cases small : isSmall e with
      | false => rfl
      | true =>
        rw [isCapital_of_isSmall small] at capital
        contradiction
    -- A third capital follows two of them, so the run does not end here.
    have third : ∀ e ∈ (earlier ++ last :: small :: rest).head?, isSmall e = false :=
      Text.head?_append_cons_of (fun e member => large (others e member)) (large capital) _
    have unmarked : endsCapitals c (d :: (earlier ++ last :: small :: rest)) = false :=
      endsCapitals_of_third third
    rw [List.cons_append, marked_of_unmarked unmarked, ih d second others, List.cons_append]

/-- The pass over runs of capitals marks a capital between another one and a small letter. -/
theorem substitute_capitalRunRule (text : Text) :
    substitute capitalRunRule text = marked endsCapitals text := by
  match text with
  | [] => rfl
  | c :: rest =>
    cases applied : capitalRunRule (c :: rest) with
    | none =>
      have unmarked : endsCapitals c rest = false := by
        rw [Bool.eq_false_iff]
        intro ends
        unfold endsCapitals at ends
        split at ends
        · rename_i d e more
          simp only [Bool.and_eq_true] at ends
          obtain ⟨⟨first, second⟩, third⟩ := ends
          have found : capitalRunRule (c :: d :: e :: more) = some ([c, ' ', d, e], 2) :=
            capitalRunRule_eq_some_iff.mpr ⟨[c], d, e, more, rfl, List.cons_ne_nil c [],
              by simpa using first, second, third, rfl, rfl⟩
          rw [applied] at found
          contradiction
        · contradiction
      rw [substitute_of_none applied, marked_of_unmarked unmarked, substitute_capitalRunRule rest]
    | some found =>
      obtain ⟨replacement, more⟩ := found
      obtain ⟨earlier, last, small, later, parted, holds, capitals, capital, ends, rfl, rfl⟩ :=
        capitalRunRule_eq_some_iff.mp applied
      obtain ⟨d, others, rfl⟩ := List.exists_cons_of_ne_nil holds
      obtain ⟨same, whole⟩ : c = d ∧ rest = others ++ last :: small :: later := List.cons.inj parted
      subst same
      obtain ⟨first, further⟩ := List.forall_mem_cons.mp capitals
      have regrouped : rest = (others ++ [last, small]) ++ later := by simp [whole]
      have counted : (c :: others).length + 1 = (others ++ [last, small]).length := by simp
      have shorter : later.length < (c :: rest).length := by
        rw [whole]
        simp
        omega
      rw [regrouped, counted] at applied
      have replaced := substitute_of_some applied
      rw [← regrouped, substitute_capitalRunRule later] at replaced
      rw [replaced, whole, marked_capitals c first further capital ends later]
      simp
termination_by text.length

/-- The second pass marks in what the first one gives what it marks in the text itself. -/
theorem marked_marked (text : Text) :
    marked opensHump (marked endsCapitals text) = marked opensWord text := by
  induction text with
  | nil => rfl
  | cons c rest ih =>
    cases ends : endsCapitals c rest with
    | true =>
      have capital : isCapital c = true := by
        cases known : isCapital c with
        | true => rfl
        | false =>
          rw [endsCapitals_of_plain known] at ends
          contradiction
      have opens : opensWord c rest = true := by rw [opensWord, ends, Bool.or_true]
      have first := opensHump_of_plain (isSmallOrDigit_of_isCapital capital)
        (' ' :: marked endsCapitals rest)
      have space := opensHump_of_plain (by decide : isSmallOrDigit ' ' = false)
        (marked endsCapitals rest)
      rw [marked_of_marks ends, marked_of_unmarked first, marked_of_unmarked space, ih,
        marked_of_marks opens]
    | false =>
      have same : opensHump c (marked endsCapitals rest) = opensWord c rest := by
        rw [opensHump, head?_marked, opensWord, ends, Bool.or_false, opensHump]
      rw [marked_of_unmarked ends, marked, marked, same, ih]

/-- **An identifier is spaced exactly where a word opens.** -/
theorem spaced_eq (name : Text) : spaced name = marked opensWord name := by
  rw [spaced, substitute_capitalRunRule, substitute_humpRule, marked_marked]

/-! ## Words -/

/-- The words of an identifier are those of the identifier with its boundaries marked. -/
theorem words_eq (name : Text) : words name = (marked opensWord name).runs isSeparator := by
  rw [words, spaced_eq]

/-- The empty identifier has no words. -/
theorem words_nil : words [] = [] := Text.runs_nil isSeparator

/-- No separator is a capital, a small letter or a digit. -/
theorem plain_of_isSeparator {c : Char} (separates : isSeparator c = true) :
    isCapital c = false ∧ isSmall c = false ∧ isSmallOrDigit c = false := by
  have plain : c.isAlphanum = false := by
    rw [Bool.eq_false_iff]
    intro alphanumeric
    rw [isSeparator_of_isAlphanum alphanumeric] at separates
    contradiction
  have either : c.isAlphanum = ((isCapital c || isSmall c) || c.isDigit) := rfl
  have further : isSmallOrDigit c = (isSmall c || c.isDigit) := rfl
  rw [either, Bool.or_eq_false_iff, Bool.or_eq_false_iff] at plain
  obtain ⟨⟨capital, small⟩, digit⟩ := plain
  exact ⟨capital, small, by rw [further, small, digit, Bool.or_false]⟩

/-- No word opens after a separator. -/
theorem opensWord_of_isSeparator {c : Char} (separates : isSeparator c = true) (rest : Text) :
    opensWord c rest = false := by
  obtain ⟨capital, _, other⟩ := plain_of_isSeparator separates
  rw [opensWord, opensHump_of_plain other, endsCapitals_of_plain capital, Bool.or_false]

/-- What stands behind a separator opens no word before it. -/
theorem opensWord_append_cons {s : Char} (separates : isSeparator s = true) (c : Char)
    (left right : Text) : opensWord c (left ++ s :: right) = opensWord c left := by
  obtain ⟨capital, small, _⟩ := plain_of_isSeparator separates
  match left with
  | [] =>
    have closed : opensHump c (s :: right) = opensHump c [] := by simp [opensHump, capital]
    rw [List.nil_append, opensWord, opensWord, closed, endsCapitals_of_second capital]
    rfl
  | [d] =>
    have third : endsCapitals c (d :: s :: right) = false :=
      endsCapitals_of_third (by simpa using small)
    rw [List.singleton_append, opensWord, opensWord, third]
    rfl
  | _ :: _ :: _ => rfl

/-- What stands before a separator and what stands behind it are marked each on its own. -/
theorem marked_append_cons {s : Char} (separates : isSeparator s = true) (left right : Text) :
    marked opensWord (left ++ s :: right) =
      marked opensWord left ++ s :: marked opensWord right := by
  induction left with
  | nil => exact marked_of_unmarked (opensWord_of_isSeparator separates right)
  | cons c left ih =>
    have same : opensWord c (left ++ s :: right) = opensWord c left :=
      opensWord_append_cons separates c left right
    rw [List.cons_append, marked, marked, same, ih]
    split <;> rfl

/-- **A separator between two texts divides their words.** -/
theorem words_append_cons {s : Char} (separates : isSeparator s = true) (left right : Text) :
    words (left ++ s :: right) = words left ++ words right := by
  rw [words_eq, marked_append_cons separates, Text.runs_append_cons separates, ← words_eq,
    ← words_eq]

/-- A separator at the beginning belongs to no word. -/
theorem words_cons_of_isSeparator {c : Char} (separates : isSeparator c = true) (rest : Text) :
    words (c :: rest) = words rest := by
  have divided := words_append_cons separates [] rest
  rwa [words_nil, List.nil_append, List.nil_append] at divided

/-- A character is a word of its own if another one opens after it, or if the identifier ends or is
separated there. -/
theorem words_cons_of_ends {c : Char} (plain : isSeparator c = false) {rest : Text}
    (ends : opensWord c rest = true ∨ ∀ d ∈ rest.head?, isSeparator d = true) :
    words (c :: rest) = [c] :: words rest := by
  have space : isSeparator ' ' = true := by decide
  rw [words_eq, words_eq]
  cases opens : opensWord c rest with
  | true =>
    rw [marked_of_marks opens, Text.runs_cons_of_divided plain (by simpa using space),
      Text.runs_cons_of_divides space]
  | false =>
    have divided : ∀ d ∈ (marked opensWord rest).head?, isSeparator d = true := by
      rw [head?_marked]
      exact ends.resolve_left (by simp [opens])
    rw [marked_of_unmarked opens, Text.runs_cons_of_divided plain divided]

/-- Two characters belong to one word if neither separates and no word opens between them. -/
theorem exists_words_cons_cons {c d : Char} (plain : isSeparator c = false)
    (alsoPlain : isSeparator d = false) {rest : Text} (goesOn : opensWord c (d :: rest) = false) :
    ∃ word others, words (d :: rest) = (d :: word) :: others ∧
      words (c :: d :: rest) = (c :: d :: word) :: others := by
  rw [words_eq, words_eq, marked_of_unmarked goesOn]
  cases opens : opensWord d rest with
  | true =>
    rw [marked_of_marks opens]
    exact Text.exists_runs_cons_cons plain alsoPlain _
  | false =>
    rw [marked_of_unmarked opens]
    exact Text.exists_runs_cons_cons plain alsoPlain _

/-- A character that does not separate begins the first word. -/
theorem exists_words_cons {c : Char} (plain : isSeparator c = false) (rest : Text) :
    ∃ word others, words (c :: rest) = (c :: word) :: others := by
  cases rest with
  | nil => exact ⟨[], _, words_cons_of_ends plain (.inr (by simp))⟩
  | cons d rest =>
    cases separates : isSeparator d with
    | true =>
      have divided : ∀ e ∈ (d :: rest).head?, isSeparator e = true := by simpa using separates
      exact ⟨[], _, words_cons_of_ends plain (.inr divided)⟩
    | false =>
      cases opens : opensWord c (d :: rest) with
      | true => exact ⟨[], _, words_cons_of_ends plain (.inl opens)⟩
      | false =>
        obtain ⟨word, others, _, parted⟩ := exists_words_cons_cons plain separates opens
        exact ⟨d :: word, others, parted⟩

/-- Marking adds separators only. -/
theorem filter_marked (marks : Char → Text → Bool) (text : Text) :
    ((marked marks text).filter fun c => !isSeparator c) = text.filter fun c => !isSeparator c := by
  have space : isSeparator ' ' = true := by decide
  induction text with
  | nil => rfl
  | cons c rest ih =>
    cases here : marks c rest with
    | true =>
      rw [marked_of_marks here, List.filter_cons, List.filter_cons_of_neg (by simp [space]), ih,
        List.filter_cons]
    | false => rw [marked_of_unmarked here, List.filter_cons, ih, List.filter_cons]

/-- **The words of an identifier hold its characters that do not separate, in order.** -/
theorem flatten_words (name : Text) :
    (words name).flatten = name.filter fun c => !isSeparator c := by
  rw [words_eq, Text.flatten_runs, filter_marked]

/-- A character of a word of an identifier stands in it and is no separator. -/
theorem mem_of_mem_words {name word : Text} {c : Char} (found : word ∈ words name)
    (member : c ∈ word) : c ∈ name ∧ isSeparator c = false := by
  have kept : c ∈ (words name).flatten := List.mem_flatten_of_mem found member
  rw [flatten_words, List.mem_filter] at kept
  exact ⟨kept.1, by simpa using kept.2⟩

end Identifier

end ProtoInterfaces
