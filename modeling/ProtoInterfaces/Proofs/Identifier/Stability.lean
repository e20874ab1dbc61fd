import ProtoInterfaces.Proofs.Identifier.Casing

/-!
# Identifiers that stay as they are in lower camel case

An identifier in lower camel case holds no separators any more, and converting it again finds its
words by their capitals. A capital stays exactly if a word opens at it again (`settled`). The second
word always opens again; a later one does not if a single letter stands before it and no small
letter follows its own first letter (`merges`), because capitals that follow each other are parted
only before a small letter.
-/
namespace ProtoInterfaces.Identifier

/-- What stands after a character, with a small letter for every capital that opens no word. -/
def settled (c : Char) : Text → Text
  | [] => []
  | d :: rest => (if opensWord c (d :: rest) then d else d.toLower) :: settled d rest

/-- Whether a word is a single letter. -/
def isSingleLetter : Text → Bool
  | [c] => c.isAlpha
  | _ => false

/-- Whether a word begins with a letter that no further one follows. -/
def beginsWithLoneLetter : Text → Bool
  | c :: rest => c.isAlpha && rest.head?.all Char.isDigit
  | [] => false

/-- Whether a word is joined to the one before it by a second conversion. -/
def merges (previous word : Text) : Bool := isSingleLetter previous && beginsWithLoneLetter word

/-! ## Letters and digits -/

/-- Only a capital opens a word. -/
theorem isCapital_of_opensWord {c d : Char} {rest : Text}
    (opens : opensWord c (d :: rest) = true) : isCapital d = true := by
  cases capital : isCapital d with
  | true => rfl
  | false =>
    have hump : opensHump c (d :: rest) = false := by
      rw [opensHump, List.head?_cons, Option.any_some, capital, Bool.and_false]
    rw [opensWord, hump, endsCapitals_of_second capital] at opens
    contradiction

/-- A character that is no capital is its own small form. -/
theorem toLower_of_plain {c : Char} (plain : isCapital c = false) : c.toLower = c :=
  Char.toLower_eq_of_not_isUpper (by simpa [isCapital] using plain)

/-- A capital is its own capital form. -/
theorem toUpper_of_isCapital {c : Char} (capital : isCapital c = true) : c.toUpper = c :=
  Char.toUpper_eq_of_not_isLower (Char.not_isLower_of_isUpper capital)

/-! ## Converting a text without separators -/

/-- **Upper camel case of letters and digits is told from each of them and its neighbours.** -/
theorem pascal_cons {c : Char} {rest : Text} (each : ∀ d ∈ c :: rest, d.isAlphanum = true) :
    pascal (c :: rest) = c.toUpper :: settled c rest := by
  induction rest generalizing c with
  | nil =>
    have plain : isSeparator c = false := isSeparator_of_isAlphanum (each c List.mem_cons_self)
    have alone : words [c] = [[c]] := words_cons_of_ends plain (.inr (by simp))
    have ascii : Text.IsAscii [c] := Text.isAscii_of_isAlphanum each
    rw [pascal, alone, List.flatMap_singleton, capitalise_of_isAscii ascii]
    rfl
  | cons d rest ih =>
    obtain ⟨first, others⟩ := List.forall_mem_cons.mp each
    have plain : isSeparator c = false := isSeparator_of_isAlphanum first
    have alsoPlain : isSeparator d = false :=
      isSeparator_of_isAlphanum (others d List.mem_cons_self)
    have further : pascal (d :: rest) = d.toUpper :: settled d rest := ih others
    cases opens : opensWord c (d :: rest) with
    | true =>
      have large : d.toUpper = d := toUpper_of_isCapital (isCapital_of_opensWord opens)
      have ascii : Text.IsAscii [c] := Text.isAscii_of_isAlphanum (by simpa using first)
      have parted : words (c :: d :: rest) = [c] :: words (d :: rest) :=
        words_cons_of_ends plain (.inl opens)
      have rest_eq : pascal (c :: d :: rest) = capitalise [c] ++ pascal (d :: rest) := by
        rw [pascal, parted, List.flatMap_cons, pascal]
      rw [rest_eq, further, capitalise_of_isAscii ascii, settled, if_pos opens, large]
      rfl
    | false =>
      obtain ⟨word, later, parted, joined⟩ := exists_words_cons_cons plain alsoPlain opens
      have ascii : Text.IsAscii (d :: word) :=
        isAscii_of_mem_words (Text.isAscii_of_isAlphanum others) (by simp [parted])
      have alsoAscii : Text.IsAscii (c :: d :: word) :=
        isAscii_of_mem_words (Text.isAscii_of_isAlphanum each) (by simp [joined])
      rw [pascal, parted, List.flatMap_cons, capitalise_of_isAscii ascii, List.cons_append] at further
      have same := (List.cons.inj further).2
      rw [pascal, joined, List.flatMap_cons, capitalise_of_isAscii alsoAscii, settled, opens,
        ← same]
      rfl

/-- Letters and digits are left alone exactly if the first one is no capital and every capital
after it opens a word. -/
theorem camel_eq_self_iff {c : Char} {rest : Text} (each : ∀ d ∈ c :: rest, d.isAlphanum = true) :
    camel (c :: rest) = c :: rest ↔ c.toLower = c ∧ settled c rest = rest := by
  have ascii : Text.IsAscii (c :: rest) := Text.isAscii_of_isAlphanum each
  rw [camel_of_pascal_eq_cons ascii (pascal_cons each), Char.toLower_toUpper_eq_toLower,
    List.cons.injEq]

/-- Characters without a capital among them stay as they are. -/
theorem settled_append {text : Text} (plain : ∀ d ∈ text, isCapital d = false) (c : Char)
    (rest : Text) : settled c (text ++ rest) = text ++ settled (text.getLastD c) rest := by
  induction text generalizing c with
  | nil => rfl
  | cons d text ih =>
    obtain ⟨first, others⟩ := List.forall_mem_cons.mp plain
    have closed : opensWord c (d :: (text ++ rest)) = false := by
      rw [Bool.eq_false_iff]
      intro opens
      rw [isCapital_of_opensWord opens] at first
      contradiction
    rw [List.cons_append, settled, closed, ih others, List.getLastD_cons, toLower_of_plain first]
    rfl

/-! ## Converting words in upper camel case -/

/-- The words in upper camel case, joined. -/
def capitalised (words : List Text) : Text := words.flatMap capitalise

/-- A word of letters and digits. -/
def IsAlphanumeric (word : Text) : Prop := word ≠ [] ∧ ∀ c ∈ word, c.isAlphanum = true

/-- Words in upper camel case do not begin with a small letter. -/
theorem head?_capitalised {words : List Text} (each : ∀ word ∈ words, IsAlphanumeric word) :
    ∀ c ∈ (capitalised words).head?, isSmall c = false := by
  cases words with
  | nil => simp [capitalised]
  | cons word words =>
    obtain ⟨holds, inside⟩ := each word List.mem_cons_self
    cases word with
    | nil => exact absurd rfl holds
    | cons d rest =>
      have ascii : Text.IsAscii (d :: rest) := Text.isAscii_of_isAlphanum inside
      intro c first
      rw [capitalised, List.flatMap_cons, capitalise_of_isAscii ascii] at first
      obtain rfl := Option.some.inj first
      exact Char.isLower_toUpper_eq_false d

/-- The small form of a letter or digit is a small letter or a digit. -/
theorem isSmallOrDigit_toLower {c : Char} (alphanumeric : c.isAlphanum = true) :
    isSmallOrDigit c.toLower = true :=
  of_isAlphanum (fun c => isSmallOrDigit c.toLower = true) (by decide) alphanumeric

/-- The capital form of a letter or digit is a small letter or a digit exactly if it is no letter. -/
theorem isSmallOrDigit_toUpper {c : Char} (alphanumeric : c.isAlphanum = true) :
    isSmallOrDigit c.toUpper = !c.isAlpha :=
  of_isAlphanum (fun c => isSmallOrDigit c.toUpper = !c.isAlpha) (by decide) alphanumeric

/-- A letter or digit that is neither a small letter nor a digit is a capital. -/
theorem isCapital_of_isAlphanum {c : Char} (alphanumeric : c.isAlphanum = true)
    (other : isSmallOrDigit c = false) : isCapital c = true := by
  have code := isAlphanum_iff.mp alphanumeric
  have outside := mt isSmallOrDigit_iff.mpr (Bool.eq_false_iff.mp other)
  exact isCapital_iff.mpr (by omega)

/-- A letter or digit is a letter exactly if it is no digit. -/
theorem isDigit_eq_false_iff {c : Char} (alphanumeric : c.isAlphanum = true) :
    c.isDigit = false ↔ c.isAlpha = true :=
  of_isAlphanum (fun c => c.isDigit = false ↔ c.isAlpha = true) (by decide) alphanumeric

/-- The two cases of a character differ exactly if it is a letter. -/
theorem toLower_toUpper_eq_iff {c : Char} : c.toUpper.toLower = c.toUpper ↔ c.isAlpha = false := by
  constructor
  · intro same
    have large := Char.isUpper_toLower_eq_false c.toUpper
    rw [same, Char.isUpper_toUpper_eq_isAlpha] at large
    exact large
  · intro other
    refine Char.toLower_eq_of_not_isUpper ?_
    rw [Char.isUpper_toUpper_eq_isAlpha, other]
    exact Bool.false_ne_true

/-- The last character of a word in upper camel case. -/
def lastCapitalised (d : Char) (rest : Text) : Char := (rest.map Char.toLower).getLastD d.toUpper

/-- A word in upper camel case ends with a letter or digit. -/
theorem isAlphanum_lastCapitalised {d : Char} {rest : Text}
    (each : ∀ e ∈ d :: rest, e.isAlphanum = true) :
    (lastCapitalised d rest).isAlphanum = true := by
  obtain ⟨first, others⟩ := List.forall_mem_cons.mp each
  have inside : ∀ e ∈ d.toUpper :: rest.map Char.toLower, e.isAlphanum = true :=
    List.forall_mem_cons.mpr ⟨(isAlphanum_recased first).1,
      List.forall_mem_map.mpr fun e member => (isAlphanum_recased (others e member)).2⟩
  exact inside _ List.getLastD_mem_cons

/-- A word in upper camel case ends with a capital exactly if it is a single letter. -/
theorem isSmallOrDigit_lastCapitalised {d : Char} {rest : Text}
    (each : ∀ e ∈ d :: rest, e.isAlphanum = true) :
    isSmallOrDigit (lastCapitalised d rest) = !isSingleLetter (d :: rest) := by
  obtain ⟨first, others⟩ := List.forall_mem_cons.mp each
  cases rest with
  | nil => exact isSmallOrDigit_toUpper first
  | cons e rest =>
    have small : ∀ f ∈ (e :: rest).map Char.toLower, isSmallOrDigit f = true :=
      List.forall_mem_map.mpr fun f member => isSmallOrDigit_toLower (others f member)
    have same : lastCapitalised d (e :: rest) = (rest.map Char.toLower).getLastD e.toLower :=
      List.getLastD_cons
    rw [same]
    exact small _ List.getLastD_mem_cons

/-- After a letter or digit the capital of a word opens it again exactly if that character is no
capital, or if the word goes on with a letter. -/
theorem opensWord_capitalised_iff {c d : Char} {rest more : Text}
    (alphanumeric : c.isAlphanum = true) (letter : d.isAlpha = true)
    (each : ∀ e ∈ rest, e.isAlphanum = true) (ends : ∀ e ∈ more.head?, isSmall e = false) :
    opensWord c (d.toUpper :: (rest.map Char.toLower ++ more)) = true ↔
      isSmallOrDigit c = true ∨ beginsWithLoneLetter (d :: rest) = false := by
  have capital : isCapital d.toUpper = true := by
    rw [isCapital, Char.isUpper_toUpper_eq_isAlpha, letter]
  have hump : opensHump c (d.toUpper :: (rest.map Char.toLower ++ more)) = isSmallOrDigit c := by
    rw [opensHump, List.head?_cons, Option.any_some, capital, Bool.and_true]
  rw [opensWord, hump, Bool.or_eq_true, beginsWithLoneLetter, letter, Bool.true_and]
  cases plain : isSmallOrDigit c with
  | true => simp
  | false =>
    have large : isCapital c = true := isCapital_of_isAlphanum alphanumeric plain
    cases rest with
    | nil =>
      have closed : endsCapitals c (d.toUpper :: more) = false := endsCapitals_of_third ends
      simp [closed]
    | cons e rest =>
      have next : e.isDigit = false ↔ e.isAlpha = true :=
        isDigit_eq_false_iff (each e List.mem_cons_self)
      have small : isSmall e.toLower = e.isAlpha := Char.isLower_toLower_eq_isAlpha e
      simp [endsCapitals, large, capital, small, next]

/-- After a letter or digit the first letter of a word in upper camel case stays as it is exactly
if the word opens again. -/
theorem capital_stays_iff {c d : Char} {rest more : Text} (alphanumeric : c.isAlphanum = true)
    (each : ∀ e ∈ rest, e.isAlphanum = true) (ends : ∀ e ∈ more.head?, isSmall e = false) :
    (if opensWord c (d.toUpper :: (rest.map Char.toLower ++ more)) then d.toUpper
      else d.toUpper.toLower) = d.toUpper ↔
      isSmallOrDigit c = true ∨ beginsWithLoneLetter (d :: rest) = false := by
  cases letter : d.isAlpha with
  | false =>
    have alike : d.toUpper.toLower = d.toUpper := toLower_toUpper_eq_iff.mpr letter
    have other : beginsWithLoneLetter (d :: rest) = false := by
      rw [beginsWithLoneLetter, letter, Bool.false_and]
    rw [alike, ite_self]
    exact iff_of_true rfl (.inr other)
  | true =>
    have differ : d.toUpper.toLower ≠ d.toUpper := by
      rw [Ne, toLower_toUpper_eq_iff, letter]
      exact Bool.noConfusion
    rw [ite_eq_left_iff, ← opensWord_capitalised_iff alphanumeric letter each ends]
    exact ⟨fun stays => Classical.not_not.mp fun closed => differ (stays closed),
      fun opens closed => absurd opens closed⟩

/-- A word is not joined to the one before it exactly if that one ends with a small letter or a
digit in upper camel case, or if the word goes on with a letter. -/
theorem merges_eq_false_iff {d : Char} {rest : Text} (each : ∀ e ∈ d :: rest, e.isAlphanum = true)
    (word : Text) : merges (d :: rest) word = false ↔
      isSmallOrDigit (lastCapitalised d rest) = true ∨ beginsWithLoneLetter word = false := by
  rw [merges, Bool.and_eq_false_iff, isSmallOrDigit_lastCapitalised each, Bool.not_eq_true']

/-- What a second conversion leaves of words in upper camel case after a letter or digit: all of
them, exactly if the first capital opens its word again and no word is joined to the one before. -/
theorem settled_capitalised_iff {words : List Text}
    (each : ∀ word ∈ words, IsAlphanumeric word) {c : Char} (alphanumeric : c.isAlphanum = true) :
    settled c (capitalised words) = capitalised words ↔
      (∀ word ∈ words.head?, isSmallOrDigit c = true ∨ beginsWithLoneLetter word = false) ∧
        words.IsChain fun previous word => merges previous word = false := by
  induction words generalizing c with
  | nil => simp [capitalised, settled]
  | cons word words ih =>
    obtain ⟨⟨holds, inside⟩, others⟩ := List.forall_mem_cons.mp each
    cases word with
    | nil => exact absurd rfl holds
    | cons d rest =>
      obtain ⟨first, later⟩ := List.forall_mem_cons.mp inside
      have ascii : Text.IsAscii (d :: rest) := Text.isAscii_of_isAlphanum inside
      have whole : capitalised ((d :: rest) :: words) =
          d.toUpper :: (rest.map Char.toLower ++ capitalised words) := by
        rw [capitalised, List.flatMap_cons, capitalise_of_isAscii ascii, List.cons_append,
          capitalised]
      have plain : ∀ e ∈ rest.map Char.toLower, isCapital e = false :=
        List.forall_mem_map.mpr fun e _ => Char.isUpper_toLower_eq_false e
      have ends : ∀ e ∈ (capitalised words).head?, isSmall e = false := head?_capitalised others
      have further := ih others (isAlphanum_lastCapitalised inside)
      simp only [← merges_eq_false_iff inside] at further
      rw [whole, settled, settled_append plain, List.cons.injEq, List.append_cancel_left_eq,
        ← lastCapitalised, capital_stays_iff alphanumeric later ends, further, List.isChain_cons]
      simp only [List.head?_cons, Option.mem_some_iff, forall_eq']

/-! ## Converting an identifier twice -/

/-- The words of letters, digits and separators are words of letters and digits. -/
theorem isAlphanumeric_of_mem_words {name : Text}
    (each : ∀ c ∈ name, c.isAlphanum = true ∨ isSeparator c = true) :
    ∀ word ∈ words name, IsAlphanumeric word := by
  intro word found
  refine ⟨?_, fun c member => ?_⟩
  · rw [words, Text.runs] at found
    simpa using List.of_mem_filter found
  · obtain ⟨stands, plain⟩ := mem_of_mem_words found member
    exact (each c stands).resolve_right (by simp [plain])

/-- Words of letters and digits in upper camel case hold letters and digits only. -/
theorem isAlphanum_of_mem_capitalised {words : List Text}
    (each : ∀ word ∈ words, IsAlphanumeric word) : ∀ c ∈ capitalised words, c.isAlphanum = true := by
  intro c member
  obtain ⟨word, found, among⟩ := List.mem_flatMap.mp member
  have inside := (each word found).2
  exact of_mem_capitalise (fun d => d.isAlphanum = true) (fun d known => (isAlphanum_recased known).1)
    (fun d known => (isAlphanum_recased known).2) (Text.isAscii_of_isAlphanum inside) inside c among

/-- In lower camel case the first word is small and the others are in upper camel case. -/
theorem camel_of_words_eq_cons {name : Text} {c : Char} {rest : Text} {others : List Text}
    (divided : words name = (c :: rest) :: others)
    (each : ∀ word ∈ words name, IsAlphanumeric word) :
    camel name = (c :: rest).map Char.toLower ++ capitalised others := by
  have inside : ∀ d ∈ c :: rest, d.isAlphanum = true := (each _ (by simp [divided])).2
  have ascii : Text.IsAscii (c :: rest) := Text.isAscii_of_isAlphanum inside
  have upper : pascal name = c.toUpper :: (rest.map Char.toLower ++ capitalised others) := by
    rw [pascal, divided, List.flatMap_cons, capitalise_of_isAscii ascii, List.cons_append,
      capitalised]
  have large : c.toUpper.toNat < 128 :=
    of_ascii (fun d => d.toUpper.toNat < 128) (by decide) (ascii c List.mem_cons_self)
  rw [camel, upper, uncapitalise_of_ascii large, Char.toLower_toUpper_eq_toLower]
  rfl

/-- An identifier in lower camel case is left alone exactly if no word after the second one is joined
to the one before it. -/
theorem camel_camel_eq_iff_isChain {name : Text}
    (each : ∀ c ∈ name, c.isAlphanum = true ∨ isSeparator c = true) :
    camel (camel name) = camel name ↔
      (words name).tail.IsChain fun previous word => merges previous word = false := by
  have alphanumeric := isAlphanumeric_of_mem_words each
  cases divided : words name with
  | nil =>
    have empty : camel name = [] := by rw [camel, pascal, divided, List.flatMap_nil, uncapitalise]
    have alone : camel [] = [] := by rw [camel, pascal, words_nil, List.flatMap_nil, uncapitalise]
    rw [empty, alone]
    exact iff_of_true rfl List.IsChain.nil
  | cons word others =>
    have known := alphanumeric
    rw [divided] at known
    obtain ⟨⟨holds, inside⟩, further⟩ := List.forall_mem_cons.mp known
    cases word with
    | nil => exact absurd rfl holds
    | cons c rest =>
      have lower : camel name = c.toLower :: (rest.map Char.toLower ++ capitalised others) :=
        camel_of_words_eq_cons divided alphanumeric
      have plain : ∀ d ∈ rest.map Char.toLower, isCapital d = false :=
        List.forall_mem_map.mpr fun d _ => Char.isUpper_toLower_eq_false d
      have first : ∀ d ∈ (c :: rest).map Char.toLower,
          d.isAlphanum = true ∧ isSmallOrDigit d = true :=
        List.forall_mem_map.mpr fun d member =>
          ⟨(isAlphanum_recased (inside d member)).2, isSmallOrDigit_toLower (inside d member)⟩
      have lowered : ∀ d ∈ c.toLower :: (rest.map Char.toLower ++ capitalised others),
          d.isAlphanum = true := by
        rw [← List.cons_append, ← List.map_cons]
        exact List.forall_mem_append.mpr
          ⟨fun d member => (first d member).1, isAlphanum_of_mem_capitalised further⟩
      -- The first word ends with a small letter or a digit, so the second one always opens again.
      obtain ⟨lastAlphanumeric, lastPlain⟩ := first _ List.getLastD_mem_cons
      rw [lower, camel_eq_self_iff lowered, Char.toLower_toLower_eq_toLower, settled_append plain,
        List.append_cancel_left_eq, settled_capitalised_iff further lastAlphanumeric]
      exact ⟨fun kept => kept.2.2, fun apart => ⟨rfl, fun _ _ => .inl lastPlain, apart⟩⟩

/-- **Lower camel case is stable exactly if no later word is joined to a single letter.** An
identifier of letters, digits and separators that is converted twice is the one that is converted
once, unless after its first word a single letter is followed by a word that begins with a letter
and does not go on with another one. -/
theorem camel_camel_eq_iff {name : Text}
    (each : ∀ c ∈ name, c.isAlphanum = true ∨ isSeparator c = true) :
    camel (camel name) = camel name ↔
      ¬ ∃ i previous word, 1 ≤ i ∧ (words name)[i]? = some previous ∧
        (words name)[i + 1]? = some word ∧ isSingleLetter previous = true ∧
          beginsWithLoneLetter word = true := by
  rw [camel_camel_eq_iff_isChain each, List.isChain_iff_getElem]
  constructor
  · rintro apart ⟨i, previous, word, later, before, here, single, begins⟩
    obtain ⟨j, rfl⟩ := Nat.exists_eq_add_of_le' later
    obtain ⟨_, rfl⟩ := List.getElem?_eq_some_iff.mp before
    obtain ⟨inside, rfl⟩ := List.getElem?_eq_some_iff.mp here
    have kept := apart j (by rw [List.length_tail]; omega)
    rw [List.getElem_tail, List.getElem_tail, merges, single, begins] at kept
    contradiction
  · intro none j inside
    rw [List.length_tail] at inside
    rw [List.getElem_tail, List.getElem_tail, Bool.eq_false_iff]
    intro joined
    obtain ⟨single, begins⟩ := Bool.and_eq_true_iff.mp joined
    exact none ⟨j + 1, _, _, Nat.le_add_left 1 j, List.getElem?_eq_getElem _,
      List.getElem?_eq_getElem _, single, begins⟩

/-- A single letter may stand before the second word, and after it before a word of several letters,
but not before another single letter. -/
theorem camel_camel_of_point_counts :
    let stable : Text := "x_y-Point.count2".toList
    let unstable : Text := "a_b_c".toList
    words stable = ["x".toList, "y".toList, "Point".toList, "count2".toList] ∧
      camel (camel stable) = camel stable ∧
      words unstable = ["a".toList, "b".toList, "c".toList] ∧
      camel (camel unstable) ≠ camel unstable := by
  intro stable unstable
  have each (name : Text) (all : name.all (fun c => c.isAlphanum || isSeparator c) = true) :
      ∀ c ∈ name, c.isAlphanum = true ∨ isSeparator c = true := by
    simpa using all
  have stableWords : words stable = ["x".toList, "y".toList, "Point".toList, "count2".toList] := by
    decide +kernel
  have unstableWords : words unstable = ["a".toList, "b".toList, "c".toList] := by decide +kernel
  refine ⟨stableWords, ?_, unstableWords, ?_⟩
  · rw [camel_camel_eq_iff (each stable (by decide +kernel)), stableWords]
    rintro ⟨i, previous, word, later, before, here, single, begins⟩
    match i, later, before, here with
    | 1, _, _, rfl => exact absurd begins (by decide)
    | 2, _, rfl, _ => exact absurd single (by decide)
  · rw [Ne, camel_camel_eq_iff (each unstable (by decide +kernel)), unstableWords, not_not]
    exact ⟨1, _, _, Nat.le_refl 1, rfl, rfl, rfl, rfl⟩

end ProtoInterfaces.Identifier
