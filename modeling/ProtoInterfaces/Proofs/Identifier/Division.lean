import Mathlib.Data.List.SplitBy
import ProtoInterfaces.Identifier.Casing
import ProtoInterfaces.Proofs.Identifier.Boundaries

/-!
# The words of an identifier by their places

Marking changes of case in two passes and dividing at separators comes to one rule. Separators are
left out, and two characters that are left belong to one word exactly if their places follow each
other and the identifier is not cut between them, which the characters there and the one behind them
say (`cutsBehind`). A separator therefore parts an identifier into two that are converted each on
its own.
-/
namespace ProtoInterfaces

section

variable {α : Type} {related : α → α → Bool}

/-- An item that is not related to the next one is a group of its own. -/
theorem splitBy_cons_of_apart {a : α} {items : List α}
    (apart : ∀ b ∈ items.head?, related a b = false) :
    (a :: items).splitBy related = [a] :: items.splitBy related := by
  have single : [a].splitBy related = [[a]] := rfl
  have parted : ([a] ++ items).splitBy related = [a].splitBy related ++ items.splitBy related :=
    List.splitBy_append (by simpa using apart)
  rw [single] at parted
  exact parted

/-- An item that is related to the next one joins its group. -/
theorem exists_splitBy_cons_cons {a b : α} (joined : related a b = true) (items : List α) :
    ∃ group others, (b :: items).splitBy related = (b :: group) :: others ∧
      (a :: b :: items).splitBy related = (a :: b :: group) :: others := by
  cases parted : (b :: items).splitBy related with
  | nil => exact absurd parted (List.splitBy_ne_nil.mpr (List.cons_ne_nil b items))
  | cons first others =>
    obtain ⟨flattened, filled, chains, apart⟩ := List.splitBy_eq_iff.mp parted
    cases first with
    | nil => simp at filled
    | cons d group =>
      obtain ⟨rfl, left⟩ : b = d ∧ items = group ++ others.flatten := by simpa using flattened
      obtain ⟨chain, further⟩ := List.forall_mem_cons.mp chains
      have chained : ∀ members ∈ (a :: b :: group) :: others,
          members.IsChain fun x y => related x y = true :=
        List.forall_mem_cons.mpr ⟨List.isChain_cons_cons.mpr ⟨joined, chain⟩, further⟩
      have stillApart : ((a :: b :: group) :: others).IsChain fun left right =>
          ∃ holds begun, related (left.getLast holds) (right.head begun) = false := by
        rw [List.isChain_cons] at apart ⊢
        refine ⟨fun next after => ?_, apart.2⟩
        obtain ⟨_, begun, differ⟩ := apart.1 next after
        exact ⟨List.cons_ne_nil _ _, begun, differ⟩
      have stillFilled : [] ∉ (a :: b :: group) :: others := by simpa using filled
      have whole : a :: b :: items = ((a :: b :: group) :: others).flatten := by simp [left]
      exact ⟨group, others, rfl, List.splitBy_eq_iff.mpr ⟨whole, stillFilled, chained, stillApart⟩⟩

end

namespace Identifier

/-- Whether an identifier is cut between a place and the next one: between a small letter or digit
and a capital, or between two capitals with a small letter behind them. -/
def cutsBehind (name : Text) (i : Nat) : Bool :=
  (name[i]?.any isSmallOrDigit && name[i + 1]?.any isCapital) ||
    (name[i]?.any isCapital && name[i + 1]?.any isCapital && name[i + 2]?.any isSmall)

/-- Whether two characters with their places stand next to each other in an identifier that is not
cut between them. -/
def adjoins (name : Text) : Char × Nat → Char × Nat → Bool
  | (_, i), (_, j) => j = i + 1 && !cutsBehind name i

/-- The characters that do not separate, with their places from a first one on. -/
def placedFrom (first : Nat) (text : Text) : List (Char × Nat) :=
  (text.zipIdx first).filter fun (c, _) => !isSeparator c

/-- The pieces of what stands in an identifier from a place on: the longest groups of characters
that do not separate and adjoin each other. -/
def piecesFrom (name : Text) (first : Nat) (rest : Text) : List Text :=
  ((placedFrom first rest).splitBy (adjoins name)).map (List.map Prod.fst)

/-- The pieces of an identifier: its separators are left out, and it is cut at them and wherever the
rule says. -/
def piecesByPlace (name : Text) : List Text := piecesFrom name 0 name

/-- A separator is left out, and its place with it. -/
theorem placedFrom_cons_of_isSeparator {c : Char} (separates : isSeparator c = true) (first : Nat)
    (rest : Text) : placedFrom first (c :: rest) = placedFrom (first + 1) rest := by
  rw [placedFrom, List.zipIdx_cons, List.filter_cons_of_neg (by simp [separates]), placedFrom]

/-- A character that does not separate stays at its place. -/
theorem placedFrom_cons_of_plain {c : Char} (plain : isSeparator c = false) (first : Nat)
    (rest : Text) : placedFrom first (c :: rest) = (c, first) :: placedFrom (first + 1) rest := by
  rw [placedFrom, List.zipIdx_cons, List.filter_cons_of_pos (by simp [plain]), placedFrom]

/-- No place stands before the first one. -/
theorem le_of_mem_placedFrom {first : Nat} {text : Text} {next : Char × Nat}
    (member : next ∈ placedFrom first text) : first ≤ next.2 :=
  List.le_snd_of_mem_zipIdx (List.mem_of_mem_filter member)

/-- A separator at the beginning belongs to no piece. -/
theorem piecesFrom_cons_of_isSeparator {c : Char} (separates : isSeparator c = true) (name : Text)
    (first : Nat) (rest : Text) :
    piecesFrom name first (c :: rest) = piecesFrom name (first + 1) rest := by
  rw [piecesFrom, placedFrom_cons_of_isSeparator separates, piecesFrom]

/-- The rule looks at a character and at the two behind it. -/
theorem cutsBehind_append (lead : Text) (c : Char) (rest : Text) :
    cutsBehind (lead ++ c :: rest) lead.length = opensWord c rest := by
  have behind (k : Nat) : (lead ++ c :: rest)[lead.length + k]? = (c :: rest)[k]? := by
    rw [List.getElem?_append_right (Nat.le_add_right _ _), Nat.add_sub_cancel_left]
  have here := behind 0
  rw [Nat.add_zero] at here
  rw [cutsBehind, here, behind 1, behind 2, opensWord, opensHump]
  cases rest with
  | nil => simp [endsCapitals]
  | cons d rest => cases rest <;> simp [endsCapitals]

section

variable {name lead : Text} {c : Char} {rest : Text}

/-- Nothing that is left adjoins a character behind which a word opens or a separator stands. -/
theorem adjoins_eq_false (parted : name = lead ++ c :: rest)
    (ends : opensWord c rest = true ∨ ∀ d ∈ rest.head?, isSeparator d = true) :
    ∀ next ∈ (placedFrom (lead.length + 1) rest).head?,
      adjoins name (c, lead.length) next = false := by
  intro next first
  rcases ends with opens | divided
  · have cut : cutsBehind name lead.length = true := by rw [parted, cutsBehind_append, opens]
    simp [adjoins, cut]
  · cases rest with
    | nil => contradiction
    | cons d rest =>
      rw [placedFrom_cons_of_isSeparator (divided d rfl)] at first
      have beyond := le_of_mem_placedFrom (List.mem_of_mem_head? first)
      have away : next.2 ≠ lead.length + 1 := by omega
      simp [adjoins, away]

/-- The next character adjoins one behind which no word opens. -/
theorem adjoins_eq_true (parted : name = lead ++ c :: rest) (goesOn : opensWord c rest = false)
    (d : Char) : adjoins name (c, lead.length) (d, lead.length + 1) = true := by
  have uncut : cutsBehind name lead.length = false := by rw [parted, cutsBehind_append, goesOn]
  simp [adjoins, uncut]

/-- A character is a piece of its own if a word opens behind it, or if the identifier ends or is
separated there. -/
theorem piecesFrom_cons_of_ends (parted : name = lead ++ c :: rest) (plain : isSeparator c = false)
    (ends : opensWord c rest = true ∨ ∀ d ∈ rest.head?, isSeparator d = true) :
    piecesFrom name lead.length (c :: rest) = [c] :: piecesFrom name (lead.length + 1) rest := by
  have apart := adjoins_eq_false parted ends
  rw [piecesFrom, placedFrom_cons_of_plain plain, splitBy_cons_of_apart apart, List.map_cons,
    piecesFrom]
  rfl

/-- Two characters belong to one piece if neither separates and no word opens between them. -/
theorem exists_piecesFrom_cons_cons {d : Char} (parted : name = lead ++ c :: d :: rest)
    (plain : isSeparator c = false) (alsoPlain : isSeparator d = false)
    (goesOn : opensWord c (d :: rest) = false) :
    ∃ piece others, piecesFrom name (lead.length + 1) (d :: rest) = (d :: piece) :: others ∧
      piecesFrom name lead.length (c :: d :: rest) = (c :: d :: piece) :: others := by
  obtain ⟨group, groups, left, joined⟩ := exists_splitBy_cons_cons
    (adjoins_eq_true parted goesOn d) (placedFrom (lead.length + 1 + 1) rest)
  refine ⟨group.map Prod.fst, groups.map (List.map Prod.fst), ?_, ?_⟩
  · rw [piecesFrom, placedFrom_cons_of_plain alsoPlain, left, List.map_cons, List.map_cons]
  · rw [piecesFrom, placedFrom_cons_of_plain plain, placedFrom_cons_of_plain alsoPlain, joined,
      List.map_cons, List.map_cons, List.map_cons]

end

/-- The words of what follows in an identifier are its pieces from there on. -/
theorem words_eq_piecesFrom {name lead rest : Text} (parted : name = lead ++ rest) :
    words rest = piecesFrom name lead.length rest := by
  induction rest generalizing lead with
  | nil => exact words_nil
  | cons c rest ih =>
    have behind : name = (lead ++ [c]) ++ rest := by simp [parted]
    have further := ih behind
    rw [List.length_append, List.length_singleton] at further
    cases plain : isSeparator c with
    | true => rw [words_cons_of_isSeparator plain, piecesFrom_cons_of_isSeparator plain, further]
    | false =>
      -- The character is a piece of its own, or it joins the first piece of what follows.
      by_cases ends : opensWord c rest = true ∨ ∀ d ∈ rest.head?, isSeparator d = true
      · rw [words_cons_of_ends plain ends, piecesFrom_cons_of_ends parted plain ends, further]
      · obtain ⟨closed, undivided⟩ := not_or.mp ends
        cases rest with
        | nil => exact absurd (by simp) undivided
        | cons d rest =>
          have alsoPlain : isSeparator d = false := by simpa using undivided
          have goesOn : opensWord c (d :: rest) = false := Bool.eq_false_iff.mpr closed
          obtain ⟨word, others, first, whole⟩ := exists_words_cons_cons plain alsoPlain goesOn
          obtain ⟨piece, pieces, alsoFirst, joined⟩ :=
            exists_piecesFrom_cons_cons parted plain alsoPlain goesOn
          rw [first, alsoFirst] at further
          obtain ⟨same, later⟩ := List.cons.inj further
          rw [whole, joined, same, later]

/-- A separator parts an identifier into two that are converted each on its own. -/
theorem pascal_append_cons {s : Char} (separates : isSeparator s = true) (left right : Text) :
    pascal (left ++ s :: right) = pascal left ++ pascal right := by
  rw [pascal, words_append_cons separates, List.flatMap_append, pascal, pascal]

/-- **The words of an identifier are told from three neighbouring characters at a time.** They are
the pieces that are left of it when its separators are left out and it is cut at them, between a
small letter or digit and a capital, and between two capitals before a small letter. So a separator
parts an identifier into two that are converted to upper camel case each on its own. -/
theorem words_cut_by_local_rule :
    (∀ name : Text, words name = piecesByPlace name) ∧
      ∀ (left right : Text) (s : Char), isSeparator s = true →
        pascal (left ++ s :: right) = pascal left ++ pascal right := by
  refine ⟨fun name => ?_, fun left right s separates => pascal_append_cons separates left right⟩
  have whole : name = [] ++ name := rfl
  exact words_eq_piecesFrom whole

/-- A run of capitals is cut before its last one and a digit before a capital, and the capital sigma
before a separator ends its word. -/
theorem words_cut_by_local_rule_of_serverName :
    let left : Text := "getHTTPServer2Name".toList
    let right : Text := "ΟΔΟΣ_v1.APIKey".toList
    words left = ["get".toList, "HTTP".toList, "Server2".toList, "Name".toList] ∧
      isSeparator '-' = true ∧
      pascal (left ++ '-' :: right) = "GetHttpServer2NameΟδοςV1ApiKey".toList := by
  intro left right
  obtain ⟨cut, joined⟩ := words_cut_by_local_rule
  have separates : isSeparator '-' = true := by decide
  refine ⟨?_, separates, ?_⟩
  · rw [cut left]
    decide +kernel
  · rw [joined left right '-' separates]
    decide +kernel

end Identifier

end ProtoInterfaces
