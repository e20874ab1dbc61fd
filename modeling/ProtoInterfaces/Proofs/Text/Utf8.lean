import Mathlib.Data.List.Forall2
import ProtoInterfaces.Text.Utf8

/-!
# Decoding and encoding

Bytes are decoded to a text exactly if they are its encoding: what is decoded was encoded in the
only way there is, no longer than it has to be and without surrogates, and every encoding is
decoded.
-/
namespace ProtoInterfaces.Utf8

/-- What a leading byte says, by the length of its sequence: what it contributes to the code point
and where the bytes after it have to lie. -/
inductive Leads : (byte value : Nat) → List ByteRange → Prop
  /-- A byte that stands for itself. -/
  | one {value : Nat} (small : value < 0x80) : Leads value value []
  /-- The first of two bytes, if one would not do. -/
  | two {value : Nat} (needed : 2 ≤ value) (small : value < 32) :
      Leads (value + 0xC0) value [continuation]
  /-- The first of three bytes, if two would not do and no surrogate follows. -/
  | three {value : Nat} (small : value < 16) :
      Leads (value + 0xE0) value
        [(if value = 0 then 0xA0 else 0x80, if value = 13 then 0x9F else 0xBF), continuation]
  /-- The first of four bytes, if three would not do and the last code point is not passed. -/
  | four {value : Nat} (small : value < 5) :
      Leads (value + 0xF0) value
        [(if value = 0 then 0x90 else 0x80, if value = 4 then 0x8F else 0xBF), continuation,
          continuation]

/-- What a leading byte says is looked up. -/
theorem leading?_of_leads {byte value : Nat} {ranges : List ByteRange}
    (leads : Leads byte value ranges) : leading? byte = some (value, ranges) := by
  cases leads with
  | one small => rw [leading?, if_pos small]
  | two needed small =>
    rw [leading?, if_neg (by omega), if_neg (by omega), if_pos (by omega), Nat.add_sub_cancel]
  | three small =>
    by_cases first : value = 0
    · subst first
      rfl
    · by_cases surrogate : value = 13
      · subst surrogate
        rfl
      · rw [leading?, if_neg (by omega), if_neg (by omega), if_neg (by omega), if_neg (by omega),
          if_neg (by omega), if_pos (by omega), Nat.add_sub_cancel, if_neg first,
          if_neg surrogate]
        rfl
  | four small =>
    by_cases first : value = 0
    · subst first
      rfl
    · by_cases last : value = 4
      · subst last
        rfl
      · rw [leading?, if_neg (by omega), if_neg (by omega), if_neg (by omega), if_neg (by omega),
          if_neg (by omega), if_neg (by omega), if_neg (by omega), if_pos (by omega),
          Nat.add_sub_cancel, if_neg first, if_neg last]
        rfl

/-- A byte leads a sequence exactly in the way that is looked up. -/
theorem leading?_eq_some_iff {byte value : Nat} {ranges : List ByteRange} :
    leading? byte = some (value, ranges) ↔ Leads byte value ranges := by
  refine ⟨fun found => ?_, leading?_of_leads⟩
  have same {own : Nat} {needed : List ByteRange} (leads : Leads byte own needed) :
      Leads byte value ranges := by
    have known := leading?_of_leads leads
    rw [found] at known
    obtain ⟨rfl, rfl⟩ := Prod.mk.inj (Option.some.inj known)
    exact leads
  by_cases one : byte < 0x80
  · exact same (.one one)
  by_cases stray : byte < 0xC2
  · rw [leading?, if_neg one, if_pos stray] at found
    contradiction
  by_cases two : byte < 0xE0
  · obtain ⟨own, rfl⟩ := Nat.exists_eq_add_of_le' (show 0xC0 ≤ byte by omega)
    exact same (.two (by omega) (by omega))
  by_cases three : byte < 0xF0
  · obtain ⟨own, rfl⟩ := Nat.exists_eq_add_of_le' (Nat.not_lt.mp two)
    exact same (.three (by omega))
  by_cases four : byte < 0xF5
  · obtain ⟨own, rfl⟩ := Nat.exists_eq_add_of_le' (Nat.not_lt.mp three)
    exact same (.four (by omega))
  · rw [leading?, if_neg one, if_neg stray, if_neg two, if_neg (by omega), if_neg (by omega),
      if_neg three, if_neg (by omega), if_neg (by omega), if_neg (by omega)] at found
    contradiction

/-! ## Sequences -/

/-- A byte lies in a range. -/
def Within (range : ByteRange) (byte : UInt8) : Prop :=
  range.1 ≤ byte.toNat ∧ byte.toNat ≤ range.2

/-- The code point that bytes complete. -/
def codeOf (value : Nat) (following : List UInt8) : Nat :=
  following.foldl (fun code byte => code * 64 + byte.toNat % 64) value

/-- A code point is completed exactly if bytes in the ranges follow. -/
theorem complete_eq_ok_iff {ranges : List ByteRange} {value matched code : Nat}
    {bytes : List UInt8} :
    complete ranges value matched bytes = .ok code ↔
      ∃ following rest, bytes = following ++ rest ∧ List.Forall₂ Within ranges following ∧
        code = codeOf value following := by
  induction ranges generalizing value matched bytes with
  | nil =>
    constructor
    · intro completed
      exact ⟨[], bytes, rfl, .nil, (Except.ok.inj completed).symm⟩
    · rintro ⟨following, rest, rfl, within, rfl⟩
      cases within
      rfl
  | cons range ranges ih =>
    cases bytes with
    | nil =>
      refine iff_of_false nofun ?_
      rintro ⟨following, rest, parted, within, _⟩
      cases within
      contradiction
    | cons byte bytes =>
      rw [complete]
      by_cases inside : range.1 ≤ byte.toNat ∧ byte.toNat ≤ range.2
      · rw [if_pos (by simpa using inside), ih]
        constructor
        · rintro ⟨following, rest, rfl, within, rfl⟩
          exact ⟨byte :: following, rest, rfl, .cons inside within, rfl⟩
        · rintro ⟨following, rest, parted, within, rfl⟩
          cases within with
          | cons first within =>
            obtain ⟨rfl, rfl⟩ := List.cons.inj parted
            exact ⟨_, rest, rfl, within, rfl⟩
      · rw [if_neg (by simpa using inside)]
        refine iff_of_false nofun ?_
        rintro ⟨following, rest, parted, within, _⟩
        cases within with
        | cons first within =>
          obtain ⟨rfl, rfl⟩ := List.cons.inj parted
          exact inside first

/-- A byte that continues a sequence gives six bits of a number. -/
theorem toNat_continuing (number : Nat) :
    (UInt8.ofNat (number % 64 + 128)).toNat = number % 64 + 128 :=
  UInt8.toNat_ofNat_of_lt' (show _ < 256 by omega)

/-- A byte that gives six bits of a number continues a sequence. -/
theorem within_continuation (number : Nat) :
    Within continuation (UInt8.ofNat (number % 64 + 128)) := by
  rw [Within, toNat_continuing]
  exact ⟨Nat.le_add_left _ _, show _ ≤ 0xBF by omega⟩

/-- Six bits of a number are put behind those before them. -/
theorem codeOf_continuing (value number : Nat) (following : List UInt8) :
    codeOf value (UInt8.ofNat (number % 64 + 128) :: following) =
      codeOf (value * 64 + number % 64) following := by
  have bits : (number % 64 + 128) % 64 = number % 64 := by omega
  rw [codeOf, List.foldl_cons, toNat_continuing, bits, codeOf]

/-- The bytes that encode a character are completed to it. -/
theorem completed_of_encode {c : Char} {lead : UInt8} {following : List UInt8}
    (encoded : String.utf8EncodeChar c = lead :: following) : ∃ value ranges,
      Leads lead.toNat value ranges ∧ List.Forall₂ Within ranges following ∧
        c = Char.ofNat (codeOf value following) := by
  obtain ⟨code, code_eq⟩ : ∃ code, c.toNat = code := ⟨_, rfl⟩
  have valid : code < 0xD800 ∨ 0xDFFF < code ∧ code < 0x110000 := code_eq ▸ c.valid
  have completed {value : Nat} {following : List UInt8} (same : codeOf value following = code) :
      c = Char.ofNat (codeOf value following) := by
    rw [same, ← code_eq, Char.ofNat_toNat]
  simp only [String.utf8EncodeChar, Char.toNat_val, code_eq] at encoded
  split at encoded
  · obtain ⟨rfl, rfl⟩ := List.cons.inj encoded
    refine ⟨code, [], ?_, .nil, completed rfl⟩
    rw [UInt8.toNat_ofNat_of_lt' (show _ < 256 by omega)]
    exact .one (by omega)
  · split at encoded
    · obtain ⟨rfl, rfl⟩ := List.cons.inj encoded
      refine ⟨code / 64 % 32, [continuation], ?_, .cons (within_continuation _) .nil, completed ?_⟩
      · rw [UInt8.toNat_ofNat_of_lt' (show _ < 256 by omega)]
        exact .two (by omega) (by omega)
      · rw [codeOf_continuing, codeOf, List.foldl_nil]
        omega
    · split at encoded
      · obtain ⟨rfl, rfl⟩ := List.cons.inj encoded
        have leads := Leads.three (show code / 4096 % 16 < 16 by omega)
        rw [← UInt8.toNat_ofNat_of_lt' (show code / 4096 % 16 + 0xE0 < 256 by omega)] at leads
        refine ⟨_, _, leads, .cons ?_ (.cons (within_continuation _) .nil), completed ?_⟩
        · -- The second byte tells that two would not do and that the code point is no surrogate.
          rw [Within, toNat_continuing]
          constructor <;> dsimp only <;> split <;> omega
        · rw [codeOf_continuing, codeOf_continuing, codeOf, List.foldl_nil]
          omega
      · obtain ⟨rfl, rfl⟩ := List.cons.inj encoded
        have leads := Leads.four (show code / 262144 % 8 < 5 by omega)
        rw [← UInt8.toNat_ofNat_of_lt' (show code / 262144 % 8 + 0xF0 < 256 by omega)] at leads
        refine ⟨_, _, leads,
          .cons ?_ (.cons (within_continuation _) (.cons (within_continuation _) .nil)),
          completed ?_⟩
        · -- The second byte tells that three would not do and that there is such a code point.
          rw [Within, toNat_continuing]
          constructor <;> dsimp only <;> split <;> omega
        · rw [codeOf_continuing, codeOf_continuing, codeOf_continuing, codeOf, List.foldl_nil]
          omega

/-- The bytes of a code point, by its size. -/
theorem utf8EncodeChar_ofNat {code : Nat}
    (valid : code < 0xD800 ∨ 0xDFFF < code ∧ code < 0x110000) :
    String.utf8EncodeChar (Char.ofNat code) =
      if code ≤ 0x7F then [UInt8.ofNat code]
      else if code ≤ 0x7FF then
        [UInt8.ofNat (code / 64 % 32 + 0xC0), UInt8.ofNat (code % 64 + 0x80)]
      else if code ≤ 0xFFFF then
        [UInt8.ofNat (code / 4096 % 16 + 0xE0), UInt8.ofNat (code / 64 % 64 + 0x80),
          UInt8.ofNat (code % 64 + 0x80)]
      else
        [UInt8.ofNat (code / 262144 % 8 + 0xF0), UInt8.ofNat (code / 4096 % 64 + 0x80),
          UInt8.ofNat (code / 64 % 64 + 0x80), UInt8.ofNat (code % 64 + 0x80)] := by
  have known : (Char.ofNat code).val.toNat = code := by
    rw [Char.ofNat, dif_pos valid]
    rfl
  simp only [String.utf8EncodeChar, known]

/-- What bytes are completed to is encoded by them. -/
theorem encode_of_completed {lead : UInt8} {value : Nat} {ranges : List ByteRange}
    {following : List UInt8} (leads : Leads lead.toNat value ranges)
    (within : List.Forall₂ Within ranges following) :
    String.utf8EncodeChar (Char.ofNat (codeOf value following)) = lead :: following := by
  have same {number : Nat} {byte : UInt8} (value : number = byte.toNat) :
      UInt8.ofNat number = byte := by
    rw [value, UInt8.ofNat_toNat]
  generalize byte_eq : lead.toNat = byte at leads
  cases leads with
  | one small =>
    cases within
    simp only [codeOf, List.foldl_nil]
    rw [utf8EncodeChar_ofNat (by omega), if_pos (by omega), List.cons.injEq]
    exact ⟨same byte_eq.symm, rfl⟩
  | two needed small =>
    obtain _ | ⟨⟨low, high⟩, _ | _⟩ := within
    simp only [continuation, codeOf, List.foldl_cons, List.foldl_nil] at low high ⊢
    rw [utf8EncodeChar_ofNat (by omega), if_neg (by omega), if_pos (by omega)]
    simp only [List.cons.injEq, and_true]
    exact ⟨same (by omega), same (by omega)⟩
  | three small =>
    obtain _ | ⟨⟨low, high⟩, _ | ⟨⟨nextLow, nextHigh⟩, _ | _⟩⟩ := within
    rename_i second third
    simp only [continuation, codeOf, List.foldl_cons, List.foldl_nil] at low high nextLow nextHigh ⊢
    have bounds : 0x80 ≤ second.toNat ∧ second.toNat ≤ 0xBF ∧ (value = 0 → 0xA0 ≤ second.toNat) ∧
        (value = 13 → second.toNat ≤ 0x9F) := by
      split at low <;> split at high <;> omega
    clear low high
    rw [utf8EncodeChar_ofNat (by omega), if_neg (by omega), if_neg (by omega), if_pos (by omega)]
    simp only [List.cons.injEq, and_true]
    exact ⟨same (by omega), same (by omega), same (by omega)⟩
  | four small =>
    obtain _ | ⟨⟨low, high⟩, _ | ⟨⟨nextLow, nextHigh⟩, _ | ⟨⟨lastLow, lastHigh⟩, _ | _⟩⟩⟩ := within
    rename_i second third fourth
    simp only [continuation, codeOf, List.foldl_cons, List.foldl_nil]
      at low high nextLow nextHigh lastLow lastHigh ⊢
    have bounds : 0x80 ≤ second.toNat ∧ second.toNat ≤ 0xBF ∧ (value = 0 → 0x90 ≤ second.toNat) ∧
        (value = 4 → second.toNat ≤ 0x8F) := by
      split at low <;> split at high <;> omega
    clear low high
    rw [utf8EncodeChar_ofNat (by omega), if_neg (by omega), if_neg (by omega), if_neg (by omega)]
    simp only [List.cons.injEq, and_true]
    exact ⟨same (by omega), same (by omega), same (by omega), same (by omega)⟩

/-- A character is decoded from a byte and those after it exactly if they begin with the bytes that
encode it. -/
theorem decodeCharacter_eq_ok_iff {position count : Nat} {lead : UInt8} {bytes : List UInt8}
    {c : Char} :
    decodeCharacter position lead bytes = .ok (c, count) ↔
      ∃ following rest, bytes = following ++ rest ∧ following.length = count ∧
        String.utf8EncodeChar c = lead :: following := by
  constructor
  · intro decoded
    unfold decodeCharacter at decoded
    split at decoded
    · contradiction
    · rename_i value ranges leads
      split at decoded
      · rename_i code completed
        obtain ⟨rfl, rfl⟩ := Prod.mk.inj (Except.ok.inj decoded)
        obtain ⟨following, rest, rfl, within, rfl⟩ := complete_eq_ok_iff.mp completed
        exact ⟨following, rest, rfl, within.length_eq.symm,
          encode_of_completed (leading?_eq_some_iff.mp leads) within⟩
      · contradiction
  · rintro ⟨following, rest, rfl, rfl, encoded⟩
    obtain ⟨value, ranges, leads, within, rfl⟩ := completed_of_encode encoded
    have completed : complete ranges value 0 (following ++ rest) = .ok (codeOf value following) :=
      complete_eq_ok_iff.mpr ⟨following, rest, rfl, within, rfl⟩
    simp only [decodeCharacter, leading?_of_leads leads, completed, within.length_eq]

/-! ## Texts -/

/-- The bytes of a character and of those after it. -/
theorem encode_cons (c : Char) (text : Text) :
    encode (c :: text) = String.utf8EncodeChar c ++ encode text := rfl

/-- No text but the empty one is encoded by no bytes. -/
theorem encode_eq_nil_iff {text : Text} : encode text = [] ↔ text = [] := by
  cases text with
  | nil => exact iff_of_true rfl rfl
  | cons c text =>
    rw [encode_cons, List.append_eq_nil_iff]
    exact iff_of_false (fun none => String.utf8EncodeChar_ne_nil none.1) (List.cons_ne_nil _ _)

/-- Bytes behind those to be passed over are decoded exactly if they are an encoding. -/
theorem decodeFrom_eq_ok_iff {position pending : Nat} {bytes : List UInt8} {text : Text} :
    decodeFrom position pending bytes = .ok text ↔ bytes.drop pending = encode text := by
  induction bytes generalizing position pending text with
  | nil =>
    have decoded : decodeFrom position pending [] = .ok [] := by
      unfold decodeFrom
      rfl
    rw [decoded, List.drop_nil, Except.ok.injEq, eq_comm (a := []) (b := text), eq_comm (a := []),
      encode_eq_nil_iff]
  | cons lead bytes ih =>
    cases pending with
    | succ pending => exact ih
    | zero =>
      rw [decodeFrom, List.drop_zero]
      constructor
      · intro decoded
        split at decoded
        · contradiction
        · rename_i c count first
          split at decoded
          · contradiction
          · rename_i later rest
            obtain rfl := Except.ok.inj decoded
            obtain ⟨following, others, rfl, rfl, encoded⟩ := decodeCharacter_eq_ok_iff.mp first
            have remaining := ih.mp rest
            rw [List.drop_left] at remaining
            rw [encode_cons, encoded, remaining]
            rfl
      · intro encoded
        cases text with
        | nil => contradiction
        | cons c text =>
          rw [encode_cons] at encoded
          obtain ⟨first, following, bytes_eq⟩ :=
            List.exists_cons_of_ne_nil (String.utf8EncodeChar_ne_nil (c := c))
          rw [bytes_eq, List.cons_append] at encoded
          obtain ⟨rfl, rfl⟩ := List.cons.inj encoded
          have begun : decodeCharacter position lead (following ++ encode text) =
              .ok (c, following.length) :=
            decodeCharacter_eq_ok_iff.mpr ⟨following, _, rfl, rfl, bytes_eq⟩
          have rest : decodeFrom (position + 1) following.length (following ++ encode text) =
              .ok text := ih.mpr List.drop_left
          simp only [begun, rest]

/-- **Bytes are decoded to a text exactly if they are its encoding.** -/
theorem decode_eq_ok_iff {bytes : List UInt8} {text : Text} :
    decode bytes = .ok text ↔ bytes = encode text :=
  decodeFrom_eq_ok_iff

/-- Different texts are encoded as different bytes. -/
theorem encode_inj {left right : Text} : encode left = encode right ↔ left = right := by
  refine ⟨fun same => ?_, congrArg encode⟩
  have read : decode (encode left) = .ok left := decode_eq_ok_iff.mpr rfl
  rw [decode_eq_ok_iff.mpr same] at read
  exact (Except.ok.inj read).symm

end ProtoInterfaces.Utf8
