import ProtoInterfaces.Text.Blank
import ProtoInterfaces.Text.Casing
import ProtoInterfaces.Text.WordCharacter

/-!
# Characters that no change of case yields

Upper and lower case of a text are made of letters and of characters that the text holds. Blanks
and the punctuation of ASCII are no letters, so a change of case neither makes nor moves them.
The tables are checked once, as ranges of code points that lie apart.
-/
namespace ProtoInterfaces

/-- What holds of the first characters by their code points holds of every ASCII character. -/
theorem of_ascii (holds : Char → Prop) (checked : ∀ code < 128, holds (Char.ofNat code)) {c : Char}
    (ascii : c.toNat < 128) : holds c := by
  have known := checked c.toNat ascii
  rwa [Char.ofNat_toNat] at known

/-- Whether no code point lies in both of two lists of ranges. -/
def CodeRanges.apart (left right : CodeRanges) : Bool :=
  left.all fun range => right.all fun other => range.2 < other.1 || other.2 < range.1

/-- A character of one list of ranges is in no list that lies apart from it. -/
theorem CodeRanges.contain_eq_false_of_apart {left right : CodeRanges} {c : Char}
    (apart : left.apart right = true) (inside : left.contain c = true) :
    right.contain c = false := by
  obtain ⟨range, member, low, high⟩ := CodeRanges.contain_iff.mp inside
  rw [Bool.eq_false_iff]
  intro both
  obtain ⟨other, listed, otherLow, otherHigh⟩ := CodeRanges.contain_iff.mp both
  have separate := List.all_eq_true.mp (List.all_eq_true.mp apart range member) other listed
  simp only [Bool.or_eq_true, decide_eq_true_eq] at separate
  omega

/-- Code points that no change of case yields: in ASCII and the controls after it all but the
letters, and the blocks of spaces and general punctuation. -/
def caselessRanges : CodeRanges :=
  [(0x00, 0x40), (0x5B, 0x60), (0x7B, 0xA0), (0x1680, 0x1680), (0x2000, 0x206F),
    (0x3000, 0x3000)]

/-- A character that no change of case yields. -/
def isCaseless (c : Char) : Bool := caselessRanges.contain c

/-- Every blank is caseless. -/
theorem isCaseless_of_isBlank {c : Char} (blank : isBlank c = true) : isCaseless c = true := by
  obtain ⟨range, member, low, high⟩ := CodeRanges.contain_iff.mp blank
  have covered : ∀ range ∈ blankRanges, ∃ wide ∈ caselessRanges,
      wide.1 ≤ range.1 ∧ range.2 ≤ wide.2 := by decide
  obtain ⟨wide, listed, below, above⟩ := covered range member
  exact CodeRanges.contain_iff.mpr ⟨wide, listed, by omega, by omega⟩

/-- No blank is a word character. -/
theorem isWordCharacter_eq_false_of_isBlank {c : Char} (blank : isBlank c = true) :
    isWordCharacter c = false := by
  unfold isWordCharacter
  split
  · rename_i ascii
    have plain : isBlank c = true → (c.isAlphanum || c = '_') = false :=
      of_ascii (fun c => isBlank c = true → (c.isAlphanum || c = '_') = false) (by decide) ascii
    exact plain blank
  · have apart : CodeRanges.apart blankRanges alphanumericRanges = true := by decide +kernel
    exact CodeRanges.contain_eq_false_of_apart apart blank

/-- No blank is a character of a type name. -/
theorem isTypeCharacter_eq_false_of_isBlank {c : Char} (blank : isBlank c = true) :
    isTypeCharacter c = false := by
  have noStop : c ≠ '.' := by
    rintro rfl
    exact absurd blank (by decide)
  simp [isTypeCharacter, isWordCharacter_eq_false_of_isBlank blank, noStop]

namespace CaseRun

/-- The code points that a run maps to and those between them. -/
def image (run : CaseRun) : Nat × Nat :=
  ((run.first + run.shift).toNat, (run.last + run.shift).toNat)

/-- Whether everything that a run maps to is a character. -/
def lands (run : CaseRun) : Bool :=
  run.image.2 < 0xD800 || (0xDFFF < run.image.1 && run.image.2 < 0x110000)

/-- A code point of a run is mapped into its image. -/
theorem toNat_add_shift_mem {run : CaseRun} {code : Nat} (held : run.holds code = true) :
    run.image.1 ≤ (code + run.shift).toNat ∧ (code + run.shift).toNat ≤ run.image.2 := by
  simp only [holds, Bool.and_eq_true, decide_eq_true_eq] at held
  simp only [image]
  omega

end CaseRun

/-- The ranges that runs of single mappings map to. -/
def images (runs : List CaseRun) : CodeRanges := runs.map CaseRun.image

/-- Under runs that map to characters, a character stays itself or becomes one of the images. -/
theorem shiftedBy_eq_or_contain {runs : List CaseRun} (landing : runs.all CaseRun.lands = true)
    (c : Char) : shiftedBy runs c = c ∨ (images runs).contain (shiftedBy runs c) = true := by
  unfold shiftedBy
  cases found : runs.find? fun run => run.holds c.toNat with
  | none => exact .inl rfl
  | some run =>
    have member := List.mem_of_find?_eq_some found
    have held := List.find?_some (p := fun run : CaseRun => run.holds c.toNat) found
    have inside := CaseRun.toNat_add_shift_mem held
    have lands := List.all_eq_true.mp landing run member
    simp only [CaseRun.lands, Bool.or_eq_true, Bool.and_eq_true, decide_eq_true_eq] at lands
    have valid : (Int.toNat (c.toNat + run.shift)).isValidChar := by
      unfold Nat.isValidChar
      omega
    refine .inr (CodeRanges.contain_iff.mpr ⟨run.image, List.mem_map_of_mem member, ?_⟩)
    have code : (Char.ofNat (Int.toNat (c.toNat + run.shift))).toNat =
        Int.toNat (c.toNat + run.shift) := by
      rw [Char.ofNat, dif_pos valid]
      rfl
    rw [code]
    exact inside

/-- A character that some single mapping yields is the one mapped, or not caseless. -/
theorem eq_shiftedBy_of_isCaseless {runs : List CaseRun}
    (landing : runs.all CaseRun.lands = true) (apart : (images runs).apart caselessRanges = true)
    {c : Char} (caseless : isCaseless (shiftedBy runs c) = true) : shiftedBy runs c = c := by
  rcases shiftedBy_eq_or_contain landing c with same | inside
  · exact same
  · have excluded := CodeRanges.contain_eq_false_of_apart apart inside
    rw [show isCaseless (shiftedBy runs c) = false from excluded] at caseless
    contradiction

/-- A mapping to several characters yields no caseless ones. -/
theorem isCaseless_eq_false_of_expandedBy? {table : List (Nat × List Nat)}
    (cased : (table.all fun entry => entry.2.all fun code => !isCaseless (Char.ofNat code)) = true)
    {c d : Char} {expansion : Text} (expanded : expandedBy? table c = some expansion)
    (member : d ∈ expansion) : isCaseless d = false := by
  simp only [expandedBy?, Option.map_eq_some_iff] at expanded
  obtain ⟨codes, found, rfl⟩ := expanded
  obtain ⟨before, after, split, _⟩ := List.lookup_eq_some_iff.mp found
  have listed : (c.toNat, codes) ∈ table := by
    rw [split]
    exact List.mem_append_right _ List.mem_cons_self
  obtain ⟨code, among, rfl⟩ := List.mem_map.mp member
  have none := List.all_eq_true.mp (List.all_eq_true.mp cased _ listed) code among
  simpa using none

/-- A change of case by tables without caseless images yields no caseless character but the one
that it changes. -/
theorem eq_of_mem_recased {ascii : Char → Char} {table : List (Nat × List Nat)}
    {runs : List CaseRun}
    (plain : ∀ code < 128, isCaseless (ascii (Char.ofNat code)) = true →
      ascii (Char.ofNat code) = Char.ofNat code)
    (cased : (table.all fun entry => entry.2.all fun code => !isCaseless (Char.ofNat code)) = true)
    (landing : runs.all CaseRun.lands = true) (apart : (images runs).apart caselessRanges = true)
    {c d : Char} (caseless : isCaseless d = true)
    (member : d ∈ if c.toNat < 128 then [ascii c]
      else (expandedBy? table c).getD [shiftedBy runs c]) : d = c := by
  by_cases small : c.toNat < 128
  · rw [if_pos small, List.mem_singleton] at member
    have here := of_ascii (fun c => isCaseless (ascii c) = true → ascii c = c) plain small
    rw [← member] at here
    exact here caseless
  · rw [if_neg small] at member
    cases expanded : expandedBy? table c with
    | some expansion =>
      rw [expanded, Option.getD_some] at member
      rw [isCaseless_eq_false_of_expandedBy? cased expanded member] at caseless
      contradiction
    | none =>
      rw [expanded, Option.getD_none, List.mem_singleton] at member
      rw [member] at caseless
      rw [member]
      exact eq_shiftedBy_of_isCaseless landing apart caseless

/-- No capital form holds a caseless character but the one that it is the form of. -/
theorem eq_of_mem_upperOf {c d : Char} (caseless : isCaseless d = true)
    (member : d ∈ upperOf c) : d = c :=
  eq_of_mem_recased (by decide) (by decide +kernel) (by decide +kernel) (by decide +kernel)
    caseless member

/-- No small form holds a caseless character but the one that it is the form of. -/
theorem eq_of_mem_lowerOf {c d : Char} (caseless : isCaseless d = true)
    (member : d ∈ lowerOf c) : d = c :=
  eq_of_mem_recased (by decide) (by decide +kernel) (by decide +kernel) (by decide +kernel)
    caseless member

/-- No small sigma is caseless. -/
theorem isCaseless_smallSigma (afterCased : Bool) (rest : Text) :
    isCaseless (smallSigma afterCased rest) = false := by
  unfold smallSigma
  split <;> decide

/-- Every caseless character of the lower-case form of a text stands in the text. -/
theorem mem_of_mem_lowerFrom {d : Char} (caseless : isCaseless d = true) {afterCased : Bool}
    {text : Text} (member : d ∈ lowerFrom afterCased text) : d ∈ text := by
  induction text generalizing afterCased with
  | nil => exact member
  | cons c rest ih =>
    rw [lowerFrom, List.mem_append] at member
    rcases member with here | later
    · by_cases sigma : c = capitalSigma
      · rw [if_pos sigma, List.mem_singleton] at here
        rw [here, isCaseless_smallSigma] at caseless
        contradiction
      · rw [if_neg sigma] at here
        exact eq_of_mem_lowerOf caseless here ▸ List.mem_cons_self
    · exact List.mem_cons_of_mem _ (ih later)

end ProtoInterfaces
