import Mathlib
import ProtoInterfaces.Identifier.Casing
import ProtoInterfaces.Proofs.Identifier.Boundaries
import ProtoInterfaces.Proofs.Text.Caseless

/-!
# ASCII identifiers in camel case

Camel case changes the case of letters and leaves separators out. Apart from that an ASCII
identifier keeps its characters and their order, and its two forms differ in the first character
only. A name that a schema may give is therefore a name in either form.
-/
namespace ProtoInterfaces

/-! ## Case of ASCII texts -/

namespace Text

/-- A text of ASCII characters. -/
def IsAscii (text : Text) : Prop := ∀ c ∈ text, c.toNat < 128

/-- An ASCII text is lowered letter by letter. -/
theorem lower_of_isAscii {text : Text} (ascii : text.IsAscii) :
    text.lower = text.map Char.toLower := by
  have plain : capitalSigma ∉ text := fun member => absurd (ascii _ member) (by decide)
  rw [lower, lowerFrom_eq_flatMap plain]
  clear plain
  induction text with
  | nil => rfl
  | cons c rest ih =>
    obtain ⟨first, others⟩ := List.forall_mem_cons.mp ascii
    have small : lowerOf c = [c.toLower] := if_pos first
    rw [List.flatMap_cons, small, ih others, List.map_cons, List.singleton_append]

/-- A text is ASCII if all its characters are, by going through them. -/
theorem isAscii_of_all {text : Text} (ascii : text.all (fun c => c.toNat < 128) = true) :
    text.IsAscii := by
  simpa [IsAscii] using ascii

/-- Letters and digits are ASCII characters. -/
theorem isAscii_of_isAlphanum {text : Text} (alphanumeric : ∀ c ∈ text, c.isAlphanum = true) :
    text.IsAscii := by
  intro c member
  have code := Identifier.isAlphanum_iff.mp (alphanumeric c member)
  omega

end Text

namespace Identifier

/-- A small form separates words exactly if the character does. -/
theorem isSeparator_toLower (c : Char) : isSeparator c.toLower = isSeparator c := by
  cases capital : c.isUpper with
  | false => rw [Char.toLower_eq_of_not_isUpper (by simp [capital])]
  | true =>
    have letter : c.isAlphanum = true := by simp [Char.isAlphanum, Char.isAlpha, capital]
    have small : c.toLower.isAlphanum = true := by simp [Char.isAlphanum, Char.isAlpha, capital]
    rw [isSeparator_of_isAlphanum letter, isSeparator_of_isAlphanum small]

/-! ## Words in camel case -/

/-- The words of an ASCII identifier are ASCII texts. -/
theorem isAscii_of_mem_words {name word : Text} (ascii : name.IsAscii) (found : word ∈ words name) :
    word.IsAscii := fun c member => ascii c (mem_of_mem_words found member).1

/-- An ASCII word is capitalised letter by letter. -/
theorem capitalise_of_isAscii {c : Char} {rest : Text} (ascii : Text.IsAscii (c :: rest)) :
    capitalise (c :: rest) = c.toUpper :: rest.map Char.toLower := by
  obtain ⟨first, others⟩ := List.forall_mem_cons.mp ascii
  have large : upperOf c = [c.toUpper] := if_pos first
  rw [capitalise, large, Text.lower_of_isAscii others, List.singleton_append]

/-- An ASCII character at the beginning is lowered on its own. -/
theorem uncapitalise_of_ascii {c : Char} (ascii : c.toNat < 128) (rest : Text) :
    uncapitalise (c :: rest) = c.toLower :: rest := by
  have small : lowerOf c = [c.toLower] := if_pos ascii
  rw [uncapitalise, small, List.singleton_append]

/-- A capitalised ASCII word has the small form of the word. -/
theorem map_toLower_capitalise {word : Text} (ascii : word.IsAscii) :
    (capitalise word).map Char.toLower = word.map Char.toLower := by
  cases word with
  | nil => rfl
  | cons c rest => simp [capitalise_of_isAscii ascii]

/-- What the characters of an ASCII word have in common, their capital and small forms included,
those of the capitalised word have too. -/
theorem of_mem_capitalise (holds : Char → Prop) (large : ∀ c, holds c → holds c.toUpper)
    (small : ∀ c, holds c → holds c.toLower) {word : Text} (ascii : word.IsAscii)
    (inside : ∀ c ∈ word, holds c) : ∀ c ∈ capitalise word, holds c := by
  cases word with
  | nil => exact inside
  | cons c rest =>
    obtain ⟨first, others⟩ := List.forall_mem_cons.mp inside
    rw [capitalise_of_isAscii ascii]
    exact List.forall_mem_cons.mpr
      ⟨large c first, List.forall_mem_map.mpr fun d member => small d (others d member)⟩

/-! ## Identifiers in camel case -/

section

variable {name : Text} (ascii : name.IsAscii)

include ascii

/-- What the characters of an ASCII identifier that do not separate have in common, their capital
and small forms included, those of the identifier in upper camel case have too. -/
theorem of_mem_pascal {holds : Char → Prop} (large : ∀ c, holds c → holds c.toUpper)
    (small : ∀ c, holds c → holds c.toLower)
    (inside : ∀ c ∈ name, isSeparator c = false → holds c) : ∀ c ∈ pascal name, holds c := by
  intro c member
  obtain ⟨word, found, among⟩ := List.mem_flatMap.mp member
  have wordHolds : ∀ d ∈ word, holds d := by
    intro d within
    obtain ⟨stands, plain⟩ := mem_of_mem_words found within
    exact inside d stands plain
  exact of_mem_capitalise holds large small (isAscii_of_mem_words ascii found) wordHolds c among

/-- An ASCII identifier stays one in upper camel case. -/
theorem isAscii_pascal : Text.IsAscii (pascal name) := by
  have large : ∀ c : Char, c.toNat < 128 → c.toUpper.toNat < 128 := fun _ =>
    of_ascii (fun c => c.toUpper.toNat < 128) (by decide)
  have small : ∀ c : Char, c.toNat < 128 → c.toLower.toNat < 128 := fun _ =>
    of_ascii (fun c => c.toLower.toNat < 128) (by decide)
  exact of_mem_pascal ascii large small fun c member _ => ascii c member

/-- Upper camel case has the small form of the characters that do not separate. -/
theorem map_toLower_pascal : (pascal name).map Char.toLower =
    (name.filter fun c => !isSeparator c).map Char.toLower := by
  have each : ∀ word ∈ words name, (capitalise word).map Char.toLower = word.map Char.toLower :=
    fun word found => map_toLower_capitalise (isAscii_of_mem_words ascii found)
  calc
    (pascal name).map Char.toLower
        = (words name).flatMap fun word => (capitalise word).map Char.toLower := List.map_flatMap
    _ = (words name).flatMap fun word => word.map Char.toLower := List.flatMap_congr each
    _ = ((words name).flatten).map Char.toLower := by rw [List.map_flatten, List.flatMap_def]
    _ = (name.filter fun c => !isSeparator c).map Char.toLower := by rw [flatten_words]

/-- The lowered identifier without its separators is what is left of it, lowered. -/
theorem filter_lower : (name.lower.filter fun c => !isSeparator c) =
    (name.filter fun c => !isSeparator c).map Char.toLower := by
  rw [Text.lower_of_isAscii ascii, List.filter_map]
  simp only [Function.comp_def, isSeparator_toLower]

/-- Lower camel case differs from upper camel case in the first character only, which is small. -/
theorem camel_of_pascal_eq_cons {c : Char} {rest : Text} (first : pascal name = c :: rest) :
    camel name = c.toLower :: rest := by
  have inside : c ∈ pascal name := by rw [first]; exact List.mem_cons_self
  rw [camel, first, uncapitalise_of_ascii (isAscii_pascal ascii c inside)]

/-- Lowered, upper camel case is the lowered identifier without its separators. -/
theorem lower_pascal :
    (pascal name).lower = name.lower.filter fun c => !isSeparator c := by
  rw [Text.lower_of_isAscii (isAscii_pascal ascii), map_toLower_pascal ascii, filter_lower ascii]

/-- Lowered, both forms of camel case are the same. -/
theorem lower_camel : (camel name).lower = (pascal name).lower := by
  have pascalAscii := isAscii_pascal ascii
  cases first : pascal name with
  | nil => rw [camel, first, uncapitalise]
  | cons c rest =>
    rw [first] at pascalAscii
    obtain ⟨head, tail⟩ := List.forall_mem_cons.mp pascalAscii
    have camelAscii : Text.IsAscii (c.toLower :: rest) := List.forall_mem_cons.mpr
      ⟨of_ascii (fun c => c.toLower.toNat < 128) (by decide) head, tail⟩
    rw [camel_of_pascal_eq_cons ascii first, Text.lower_of_isAscii camelAscii,
      Text.lower_of_isAscii pascalAscii, List.map_cons, List.map_cons,
      Char.toLower_toLower_eq_toLower]

end

/-! ## Names of a schema -/

/-- Whether a text is a name as a schema may give it: a letter, and then letters, digits and
underscores. -/
def isName : Text → Bool
  | [] => false
  | c :: rest => c.isAlpha && rest.all fun d => d.isAlphanum || d = '_'

/-- A name, perhaps with the names of scopes before it, each with a full stop after it. -/
inductive IsQualifiedName : Text → Prop
  /-- A name alone. -/
  | alone {name : Text} (named : isName name = true) : IsQualifiedName name
  /-- A name within a scope. -/
  | within {scope name : Text} (outer : isName scope = true) (inner : IsQualifiedName name) :
      IsQualifiedName (scope ++ '.' :: name)

/-- Whether a text is a small letter followed by letters and digits. -/
def isCamel : Text → Bool
  | [] => false
  | c :: rest => c.isLower && rest.all Char.isAlphanum

/-- Whether a text is a capital followed by letters and digits. -/
def isPascal : Text → Bool
  | [] => false
  | c :: rest => c.isUpper && rest.all Char.isAlphanum

/-- A qualified name begins with a letter and holds only letters, digits, underscores and full
stops. -/
theorem IsQualifiedName.exists_eq_cons {name : Text} (named : IsQualifiedName name) :
    ∃ c rest, name = c :: rest ∧ c.isAlpha = true ∧
      ∀ d ∈ name, d.isAlphanum = true ∨ d = '_' ∨ d = '.' := by
  have simple {name : Text} (named : isName name = true) : ∃ c rest, name = c :: rest ∧
      c.isAlpha = true ∧ ∀ d ∈ name, d.isAlphanum = true ∨ d = '_' ∨ d = '.' := by
    cases name with
    | nil => contradiction
    | cons c rest =>
      simp only [isName, Bool.and_eq_true, List.all_eq_true, Bool.or_eq_true,
        decide_eq_true_eq] at named
      obtain ⟨letter, others⟩ := named
      refine ⟨c, rest, rfl, letter, List.forall_mem_cons.mpr ⟨.inl ?_, fun d member => ?_⟩⟩
      · rw [Char.isAlphanum, letter, Bool.true_or]
      · exact (others d member).imp_right .inl
  induction named with
  | alone named => exact simple named
  | within outer inner ih =>
    obtain ⟨c, rest, rfl, letter, outside⟩ := simple outer
    obtain ⟨_, _, _, _, inside⟩ := ih
    refine ⟨c, _, List.cons_append, letter, List.forall_mem_append.mpr ⟨outside, ?_⟩⟩
    exact List.forall_mem_cons.mpr ⟨.inr (.inr rfl), inside⟩

/-- What holds of the first letters and digits by their code points holds of every one. -/
theorem of_isAlphanum (holds : Char → Prop)
    (checked : ∀ code < 128, (Char.ofNat code).isAlphanum = true → holds (Char.ofNat code))
    {c : Char} (alphanumeric : c.isAlphanum = true) : holds c := by
  have code := isAlphanum_iff.mp alphanumeric
  exact of_ascii (fun c => c.isAlphanum = true → holds c) checked (by omega) alphanumeric

/-- The capital and the small form of a letter or digit are letters or digits. -/
theorem isAlphanum_recased {c : Char} (alphanumeric : c.isAlphanum = true) :
    c.toUpper.isAlphanum = true ∧ c.toLower.isAlphanum = true := by
  exact of_isAlphanum (fun c => c.toUpper.isAlphanum = true ∧ c.toLower.isAlphanum = true)
    (by decide) alphanumeric

/-- A qualified name becomes a name in either form of camel case. -/
theorem IsQualifiedName.camel_and_pascal {name : Text} (named : IsQualifiedName name) :
    isCamel (camel name) = true ∧ isPascal (pascal name) = true := by
  obtain ⟨c, rest, rfl, letter, each⟩ := named.exists_eq_cons
  have ascii : Text.IsAscii (c :: rest) := by
    intro d member
    rcases each d member with alphanumeric | rfl | rfl
    · exact Text.isAscii_of_isAlphanum (by simpa using alphanumeric) d (List.mem_singleton_self d)
    · decide
    · decide
  have plain : isSeparator c = false :=
    isSeparator_of_isAlphanum (by rw [Char.isAlphanum, letter, Bool.true_or])
  obtain ⟨word, others, divided⟩ := exists_words_cons plain rest
  have wordAscii : Text.IsAscii (c :: word) := isAscii_of_mem_words ascii (by simp [divided])
  have first : pascal (c :: rest) =
      c.toUpper :: (word.map Char.toLower ++ others.flatMap capitalise) := by
    rw [pascal, divided, List.flatMap_cons, capitalise_of_isAscii wordAscii, List.cons_append]
  have alphanumeric : ∀ d ∈ pascal (c :: rest), d.isAlphanum = true := by
    refine of_mem_pascal ascii (fun d known => (isAlphanum_recased known).1)
      (fun d known => (isAlphanum_recased known).2) fun d member kept => ?_
    rcases each d member with known | rfl | rfl
    · exact known
    · contradiction
    · contradiction
  rw [camel_of_pascal_eq_cons ascii first, first]
  rw [first] at alphanumeric
  have all := List.all_eq_true.mpr (List.forall_mem_cons.mp alphanumeric).2
  constructor
  · rw [isCamel, all, Char.toLower_toUpper_eq_toLower, Char.isLower_toLower_eq_isAlpha, letter,
      Bool.and_true]
  · rw [isPascal, all, Char.isUpper_toUpper_eq_isAlpha, letter, Bool.and_true]

/-- **Camel case loses and invents nothing but case and separators.** Lowered, either form of an
ASCII identifier is the lowered identifier without its separators, and the two forms differ at most
in the case of the first character. So a name as a schema gives it, qualified or not, becomes a
small letter, or a capital, followed by letters and digits. -/
theorem camel_case_keeps_characters :
    (∀ name : Text, name.IsAscii →
      let kept := name.lower.filter fun c => !isSeparator c
      (camel name).lower = kept ∧ (pascal name).lower = kept ∧
        (camel name = [] ∧ pascal name = [] ∨
          ∃ c rest, pascal name = c :: rest ∧ camel name = c.toLower :: rest)) ∧
    ∀ name : Text, IsQualifiedName name →
      isCamel (camel name) = true ∧ isPascal (pascal name) = true := by
  refine ⟨fun name ascii => ?_, fun name named => named.camel_and_pascal⟩
  have pascalLower := lower_pascal ascii
  refine ⟨(lower_camel ascii).trans pascalLower, pascalLower, ?_⟩
  cases first : pascal name with
  | nil => exact .inl ⟨by rw [camel, first, uncapitalise], rfl⟩
  | cons c rest => exact .inr ⟨c, rest, rfl, camel_of_pascal_eq_cons ascii first⟩

/-- Runs of capitals, digits and separators at either end are converted, and so is a qualified
name. -/
theorem camel_case_of_serverName :
    let server : Text := "\tHTTPServer2-name_ ".toList
    let qualified : Text := "api_v1.HTTP2".toList
    server.IsAscii ∧ (camel server).lower = "httpserver2name".toList ∧
      (pascal server).lower = "httpserver2name".toList ∧
      (∃ c rest, pascal server = c :: rest ∧ camel server = c.toLower :: rest) ∧
      IsQualifiedName qualified ∧ isCamel (camel qualified) = true ∧
      isPascal (pascal qualified) = true := by
  intro server qualified
  obtain ⟨keeps, names⟩ := camel_case_keeps_characters
  have ascii : server.IsAscii := Text.isAscii_of_all (by decide)
  obtain ⟨camelLower, pascalLower, forms⟩ := keeps server ascii
  have kept : (server.lower.filter fun c => !isSeparator c) = "httpserver2name".toList := by
    decide +kernel
  have holds : pascal server ≠ [] := by decide +kernel
  have scope : isName "api_v1".toList = true := by decide
  have inner : isName "HTTP2".toList = true := by decide
  have named : IsQualifiedName qualified := .within scope (.alone inner)
  exact ⟨ascii, camelLower.trans kept, pascalLower.trans kept,
    forms.resolve_left fun empty => holds empty.2, named, names qualified named⟩

end Identifier

end ProtoInterfaces
