import ProtoInterfaces.Text.Line

/-!
# Dividing texts into lines and joining them

No line of a text holds a line break. Lines without a line feed that are joined by line feeds
come back when the text is split at them, unless there is no line at all.
-/
namespace ProtoInterfaces

/-- A text without a line break. -/
def Unbroken (text : Text) : Prop := ∀ c ∈ text, isLineBreak c = false

instance (text : Text) : Decidable (Unbroken text) :=
  decidable_of_iff (text.all fun c => !isLineBreak c) (by simp [Unbroken])

namespace Unbroken

/-- Two texts without line breaks hold none together. -/
theorem append {left right : Text} (first : Unbroken left) (second : Unbroken right) :
    Unbroken (left ++ right) := by
  intro c member
  exact (List.mem_append.mp member).elim (first c) (second c)

/-- A text of characters of an unbroken one is unbroken. -/
theorem of_subset {text whole : Text} (unbroken : Unbroken whole) (inside : text ⊆ whole) :
    Unbroken text := fun c member => unbroken c (inside member)

/-- A text without line breaks holds no line feed. -/
theorem noLineFeed {text : Text} (unbroken : Unbroken text) : '\n' ∉ text := by
  intro member
  have plain := unbroken '\n' member
  contradiction

end Unbroken

namespace Text

/-- A character that breaks no line, put before unbroken lines, leaves them unbroken. -/
theorem unbroken_of_mem_extendFirst {c : Char} (plain : isLineBreak c = false)
    {lines : List Text} (unbroken : ∀ line ∈ lines, Unbroken line) :
    ∀ line ∈ extendFirst c lines, Unbroken line := by
  intro line member
  cases lines with
  | nil =>
    obtain rfl := List.mem_singleton.mp member
    simpa [Unbroken] using plain
  | cons first rest =>
    rcases List.mem_cons.mp member with rfl | later
    · intro d inside
      rcases List.mem_cons.mp inside with rfl | further
      · exact plain
      · exact unbroken first List.mem_cons_self d further
    · exact unbroken line (List.mem_cons_of_mem _ later)

/-- No line of a text holds a line break. -/
theorem unbroken_of_mem_lines {text line : Text} (member : line ∈ text.lines) :
    Unbroken line := by
  have empty : Unbroken [] := by decide
  fun_induction lines text generalizing line with
  | case1 => exact absurd member List.not_mem_nil
  | case2 rest ih =>
    rcases List.mem_cons.mp member with rfl | later
    · exact empty
    · exact ih later
  | case3 c rest single breaks ih =>
    rcases List.mem_cons.mp member with rfl | later
    · exact empty
    · exact ih later
  | case4 c rest single plain ih =>
    rw [Bool.not_eq_true] at plain
    exact unbroken_of_mem_extendFirst plain (fun _ => ih) line member

/-- Joining by line feeds puts one between neighbours. -/
theorem joinLines_eq_intercalate (lines : List Text) :
    joinLines lines = ['\n'].intercalate lines := by
  unfold joinLines
  induction lines with
  | nil => rfl
  | cons first rest ih =>
    cases rest with
    | nil => exact List.intercalate_singleton.symm
    | cons second rest =>
      rw [join, ih, List.intercalate_cons_cons]
      exact fun none => absurd none (List.cons_ne_nil _ _)

/-- Joining texts adds nothing but their separator. -/
theorem mem_join {separator : Text} {texts : List Text} {c : Char}
    (member : c ∈ join separator texts) : c ∈ separator ∨ ∃ text ∈ texts, c ∈ text := by
  fun_induction join separator texts with
  | case1 => exact absurd member List.not_mem_nil
  | case2 text => exact .inr ⟨text, List.mem_singleton_self text, member⟩
  | case3 text rest _ ih =>
    rcases List.mem_append.mp member with before | later
    · rcases List.mem_append.mp before with first | separates
      · exact .inr ⟨text, List.mem_cons_self, first⟩
      · exact .inl separates
    · rcases ih later with separates | ⟨other, inside, holds⟩
      · exact .inl separates
      · exact .inr ⟨other, List.mem_cons_of_mem text inside, holds⟩

/-- A line is joined with the lines after it by a line feed. -/
theorem joinLines_cons (line : Text) {lines : List Text} (holds : lines ≠ []) :
    joinLines (line :: lines) = line ++ '\n' :: joinLines lines := by
  obtain ⟨next, rest, rfl⟩ := List.exists_cons_of_ne_nil holds
  exact List.append_assoc line ['\n'] (joinLines (next :: rest))

/-- Joined lines begin with the first of them. -/
theorem exists_joinLines_cons_eq (line : Text) (lines : List Text) :
    ∃ more, joinLines (line :: lines) = line ++ more := by
  cases lines with
  | nil => exact ⟨[], (List.append_nil line).symm⟩
  | cons next lines => exact ⟨_, joinLines_cons line (List.cons_ne_nil next lines)⟩

/-- Splitting at line feeds undoes the joining of lines that hold none. -/
theorem splitOn_joinLines {lines : List Text} (holds : lines ≠ [])
    (unbroken : ∀ line ∈ lines, Unbroken line) : (joinLines lines).splitOn '\n' = lines := by
  rw [joinLines_eq_intercalate]
  exact List.splitOn_intercalate '\n' (fun line member => (unbroken line member).noLineFeed) holds

end Text

end ProtoInterfaces
