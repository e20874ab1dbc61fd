import ProtoInterfaces.Files.Path
import ProtoInterfaces.Proofs.Text.Words

/-!
# Segments of paths

Slashes divide a path into segments, so a path put after one that ends with a slash only adds its
segments. The shortest form of a path, the parent of a path and a path within a directory are told
apart by their segments and by whether they begin at the root.
-/
namespace ProtoInterfaces.Path

/-- A text that can be a segment: it holds something and no slash. -/
def IsSegment (segment : Text) : Prop := segment ≠ [] ∧ '/' ∉ segment

/-- Every segment of a path can be one. -/
theorem isSegment_of_mem_segments {path segment : Text} (member : segment ∈ segments path) :
    IsSegment segment := by
  refine ⟨Text.ne_nil_of_mem_runs member, fun slash => ?_⟩
  have undivided := (Text.mem_of_mem_runs member slash).2
  simp at undivided

/-- A slash divides the segments of a path. -/
theorem segments_append_slash (left right : Text) :
    segments (left ++ '/' :: right) = segments left ++ segments right :=
  Text.runs_append_cons (by simp) left right

/-- The empty path has no segments. -/
theorem segments_nil : segments [] = [] := Text.runs_nil _

/-- A slash at the beginning belongs to no segment. -/
theorem segments_slash (path : Text) : segments ('/' :: path) = segments path := by
  have divided := segments_append_slash [] path
  rwa [segments_nil, List.nil_append, List.nil_append] at divided

/-- Slashes alone are no segments. -/
theorem segments_of_slashes {slashes : Text} (only : ∀ c ∈ slashes, c = '/') :
    segments slashes = [] := by
  induction slashes with
  | nil => exact segments_nil
  | cons c slashes ih =>
    rw [only c List.mem_cons_self, segments_slash]
    exact ih fun d member => only d (List.mem_cons_of_mem _ member)

/-- Slashes at the end belong to no segment. -/
theorem segments_append_slashes (path : Text) {slashes : Text} (only : ∀ c ∈ slashes, c = '/') :
    segments (path ++ slashes) = segments path := by
  cases slashes with
  | nil => rw [List.append_nil]
  | cons c slashes =>
    have rest : segments slashes = [] :=
      segments_of_slashes fun d member => only d (List.mem_cons_of_mem _ member)
    rw [only c List.mem_cons_self, segments_append_slash, rest, List.append_nil]

/-- A text that can be a segment is the only one of itself. -/
theorem segments_of_isSegment {segment : Text} (single : IsSegment segment) :
    segments segment = [segment] := by
  refine Text.runs_of_undivided single.1 fun c member => ?_
  simpa using ne_of_mem_of_not_mem member single.2

/-- A path after one that is empty or ends with a slash only adds its segments. -/
theorem segments_append {left : Text} (ends : left = [] ∨ endsWithSlash left = true)
    (right : Text) : segments (left ++ right) = segments left ++ segments right := by
  rcases ends with rfl | slash
  · rw [segments_nil, List.nil_append, List.nil_append]
  · have last : left.getLast? = some '/' := by simpa [endsWithSlash] using slash
    obtain ⟨front, rfl⟩ := List.getLast?_eq_some_iff.mp last
    have bare : segments (front ++ ['/']) = segments front :=
      segments_append_slashes front fun c member => List.mem_singleton.mp member
    rw [bare, List.append_assoc, List.singleton_append, segments_append_slash]

/-- Segments joined by slashes are the segments of the path. -/
theorem segments_join {parts : List Text} (each : ∀ part ∈ parts, IsSegment part) :
    segments (Text.join ['/'] parts) = parts := by
  induction parts with
  | nil => exact segments_nil
  | cons part parts ih =>
    have single := segments_of_isSegment (each part List.mem_cons_self)
    cases parts with
    | nil => exact single
    | cons next parts =>
      have rest := ih fun other member => each other (List.mem_cons_of_mem _ member)
      rw [Text.join, List.append_assoc, List.cons_append, List.nil_append,
        segments_append_slash, single, rest]
      · rfl
      · exact List.cons_ne_nil _ _

/-! ## Paths in their shortest form -/

/-- Every step of a path can be a segment. -/
theorem isSegment_of_mem_steps {path step : Text} (member : step ∈ steps path) :
    IsSegment step := isSegment_of_mem_segments (List.mem_filter.mp member).1

/-- The root of a path is made of slashes. -/
theorem eq_slash_of_mem_root {path : Text} {c : Char} (member : c ∈ root path) : c = '/' := by
  unfold root at member
  split at member
  · contradiction
  · simpa using member
  · simpa using member

/-- A path begins with a root exactly if it begins at the root. -/
theorem root_eq_nil_iff (path : Text) : root path = [] ↔ isAbsolute path = false := by
  cases path with
  | nil => simp [root, isAbsolute]
  | cons c path =>
    by_cases slash : c = '/'
    · subst slash
      simp only [root, isAbsolute, List.takeWhile_cons, decide_true, if_true, List.head?_cons]
      split <;> simp_all
    · simp [root, isAbsolute, slash]

/-- Joined segments do not begin at the root. -/
theorem isAbsolute_join {parts : List Text} (each : ∀ part ∈ parts, IsSegment part) :
    isAbsolute (Text.join ['/'] parts) = false := by
  cases parts with
  | nil => rfl
  | cons part parts =>
    obtain ⟨holds, plain⟩ := each part List.mem_cons_self
    obtain ⟨c, text, rfl⟩ := List.exists_cons_of_ne_nil holds
    have first : c ≠ '/' := fun same => plain (same ▸ List.mem_cons_self)
    cases parts <;> simp [Text.join, isAbsolute, first]

/-- Joined segments hold something if there is one. -/
theorem join_ne_nil {parts : List Text} (each : ∀ part ∈ parts, IsSegment part)
    (some : parts ≠ []) : Text.join ['/'] parts ≠ [] := by
  intro empty
  have none := segments_join each
  rw [empty, segments_nil] at none
  exact some none.symm

/-- Segments that lead where a path leads: its steps, or none but such as stay in place if it has
no steps. -/
def LeadAs (path : Text) (parts : List Text) : Prop :=
  parts = steps path ∨ steps path = [] ∧ ∀ part ∈ parts, part = here

/-- The segments of the shortest form of a path lead where the path leads. -/
theorem leadAs_segments_normal (path : Text) : LeadAs path (segments (normal path)) := by
  have joined : segments (root path ++ Text.join ['/'] (steps path)) = steps path := by
    have only (c : Char) (member : c ∈ root path) : c = '/' := eq_slash_of_mem_root member
    have ends : root path = [] ∨ endsWithSlash (root path) = true := by
      by_cases none : root path = []
      · exact .inl none
      · have last := only _ (List.getLast_mem none)
        exact .inr (by simp [endsWithSlash, List.getLast?_eq_some_getLast none, last])
    rw [segments_append ends, segments_of_slashes only, List.nil_append,
      segments_join fun part => isSegment_of_mem_steps]
  unfold normal
  split
  · rename_i empty
    have alone : segments here = [here] := segments_of_isSegment ⟨by decide, by decide⟩
    rw [empty, segments_nil] at joined
    exact .inr ⟨joined.symm, by simp [alone]⟩
  · exact .inl joined

/-- The shortest form of a path begins at the root exactly if the path does. -/
theorem isAbsolute_normal (path : Text) : isAbsolute (normal path) = isAbsolute path := by
  unfold normal
  cases begins : root path with
  | nil =>
    have relative := (root_eq_nil_iff path).mp begins
    rw [List.nil_append, relative]
    split
    · rfl
    · exact isAbsolute_join fun part => isSegment_of_mem_steps
  | cons c rest =>
    have first : c ∈ root path := begins ▸ List.mem_cons_self
    have slash : c = '/' := eq_slash_of_mem_root first
    have absolute : isAbsolute path = true := by
      rw [← Bool.not_eq_false, ← root_eq_nil_iff, begins]
      exact List.cons_ne_nil _ _
    rw [absolute, slash]
    rfl

/-- Whether a path ends with a slash is told by what it ends with. -/
theorem endsWithSlash_append (left : Text) {right : Text} (held : right ≠ []) :
    endsWithSlash (left ++ right) = endsWithSlash right := by
  rw [endsWithSlash, List.getLast?_append, List.getLast?_eq_some_getLast held, Option.some_or,
    endsWithSlash, List.getLast?_eq_some_getLast held]

/-- Joined segments end with no slash. -/
theorem endsWithSlash_join {parts : List Text} (each : ∀ part ∈ parts, IsSegment part) :
    endsWithSlash (Text.join ['/'] parts) = false := by
  induction parts with
  | nil => rfl
  | cons part parts ih =>
    cases parts with
    | nil =>
      have plain := (each part List.mem_cons_self).2
      exact decide_eq_false fun last => plain (List.mem_of_getLast? last)
    | cons next parts =>
      have others : ∀ other ∈ next :: parts, IsSegment other :=
        fun other member => each other (List.mem_cons_of_mem _ member)
      have held := join_ne_nil others (List.cons_ne_nil _ _)
      rw [Text.join, endsWithSlash_append _ held]
      · exact ih others
      · exact List.cons_ne_nil _ _

/-- The shortest form of a path that leads somewhere ends with no slash. -/
theorem endsWithSlash_normal {path : Text} (leads : steps path ≠ []) :
    endsWithSlash (normal path) = false := by
  have each : ∀ step ∈ steps path, IsSegment step := fun step => isSegment_of_mem_steps
  have held := join_ne_nil each leads
  unfold normal
  split
  · rfl
  · rw [endsWithSlash_append _ held]
    exact endsWithSlash_join each

/-! ## Paths within a directory -/

/-- A path within a directory has the segments of the directory and then its own. -/
theorem segments_within (directory relative : Text) :
    segments (within directory relative) = segments directory ++ segments relative := by
  unfold within
  split
  · rename_i ends
    refine segments_append ?_ relative
    simpa using ends
  · rw [List.append_assoc, List.singleton_append, segments_append_slash]

/-- A path within a directory begins at the root if the directory does, and else only if the path
itself does. -/
theorem isAbsolute_within (directory : Text) {relative : Text}
    (below : isAbsolute relative = false) :
    isAbsolute (within directory relative) = isAbsolute directory := by
  cases directory with
  | nil => exact below
  | cons c directory =>
    unfold within
    split <;> rfl

/-- Two paths within one directory are the same only if they are the same themselves. -/
theorem within_inj {directory left right : Text} :
    within directory left = within directory right ↔ left = right := by
  unfold within
  split <;> simp

/-! ## The parent of a path -/

/-- Whether a path begins at the root is told by what it begins with. -/
theorem isAbsolute_append {left : Text} (held : left ≠ []) (right : Text) :
    isAbsolute (left ++ right) = isAbsolute left := by
  obtain ⟨c, rest, rfl⟩ := List.exists_cons_of_ne_nil held
  rfl

/-- The first part of a path divided before its last segment is the beginning of the path without
the slashes at its end, or nothing but slashes. -/
theorem exists_divide (path : Text) :
    ∃ slashes : Text, (∀ c ∈ slashes, c = '/') ∧
      path = (divide path).1 ++ slashes ++ (divide path).2 ∧
      ((divide path).1 ++ slashes = [] ∨ endsWithSlash ((divide path).1 ++ slashes) = true) := by
  let name := path.reverse.takeWhile (· ≠ '/')
  let before := path.reverse.dropWhile (· ≠ '/')
  have parted : path = before.reverse ++ name.reverse := by
    rw [← List.reverse_append, List.takeWhile_append_dropWhile, List.reverse_reverse]
  have ends : before.reverse = [] ∨ endsWithSlash before.reverse = true := by
    have stopped := List.head?_dropWhile_not (· ≠ '/') path.reverse
    cases held : before with
    | nil => exact .inl rfl
    | cons c rest =>
      rw [show path.reverse.dropWhile (· ≠ '/') = c :: rest from held] at stopped
      have slash : c = '/' := by simpa using stopped
      exact .inr (by simp [endsWithSlash, slash])
  have only : ∀ c ∈ (before.takeWhile (· = '/')).reverse, c = '/' := by
    intro c member
    simpa using List.all_eq_true.mp List.all_takeWhile c (List.mem_reverse.mp member)
  have kept : (before.dropWhile (· = '/')).reverse ++ (before.takeWhile (· = '/')).reverse =
      before.reverse := by
    rw [← List.reverse_append, List.takeWhile_append_dropWhile]
  -- Without anything but slashes before the name, none of them are dropped.
  cases directory : before.dropWhile (· = '/') with
  | nil =>
    have parts : divide path = (before.reverse, name.reverse) := by
      simp only [divide, name, before, directory]
    rw [parts]
    exact ⟨[], by simp, by rw [List.append_nil, ← parted], by rwa [List.append_nil]⟩
  | cons c rest =>
    have parts : divide path = ((c :: rest).reverse, name.reverse) := by
      simp only [divide, name, before, directory]
    rw [directory] at kept
    rw [parts]
    refine ⟨_, only, ?_, ?_⟩
    · rw [kept, ← parted]
    · rwa [kept]

/-- A path divided before its last segment has the segments of the two parts, and its first part
begins as the path does, unless it is empty. -/
theorem segments_divide (path : Text) :
    segments path = segments (divide path).1 ++ segments (divide path).2 ∧
      ((divide path).1 ≠ [] → isAbsolute (divide path).1 = isAbsolute path) := by
  obtain ⟨slashes, only, whole, ends⟩ := exists_divide path
  constructor
  · calc
      segments path = segments ((divide path).1 ++ slashes ++ (divide path).2) :=
        congrArg segments whole
      _ = segments (divide path).1 ++ segments (divide path).2 := by
        rw [segments_append ends, segments_append_slashes _ only]
  · intro held
    calc
      isAbsolute (divide path).1 = isAbsolute ((divide path).1 ++ (slashes ++ (divide path).2)) :=
        (isAbsolute_append held _).symm
      _ = isAbsolute path := by rw [← List.append_assoc, ← whole]

/-- A path has the segments of its parent and then its name, and its parent begins as the path
does, unless it is empty. -/
theorem segments_parentAndName (path : Text) :
    segments path = segments (parentAndName path).1 ++ segments (parentAndName path).2 ∧
      ((parentAndName path).1 ≠ [] → isAbsolute (parentAndName path).1 = isAbsolute path) := by
  obtain ⟨outer, outerBegins⟩ := segments_divide path
  unfold parentAndName
  by_cases bare : (divide path).2.isEmpty = true
  · obtain ⟨inner, innerBegins⟩ := segments_divide (divide path).1
    have unnamed : (divide path).2 = [] := List.isEmpty_iff.mp bare
    rw [if_pos bare]
    refine ⟨?_, fun held => ?_⟩
    · rw [outer, unnamed, segments_nil, List.append_nil, inner]
    · have above : (divide path).1 ≠ [] := by
        intro empty
        rw [empty] at held
        exact held rfl
      rw [innerBegins held, outerBegins above]
  · rw [if_neg bare]
    exact ⟨outer, outerBegins⟩

/-! ## Stems -/

/-- The characters of a name without its extension stand in the name. -/
theorem withoutExtension_subset (name : Text) : withoutExtension name ⊆ name := by
  simp only [withoutExtension]
  split
  · rename_i extension dot stem _ _ found
    intro c member
    have inside : c ∈ name.reverse.dropWhile (· ≠ '.') := by
      rw [found]
      exact List.mem_cons_of_mem _ (List.mem_reverse.mp member)
    exact List.mem_reverse.mp ((List.dropWhile_sublist _).subset inside)
  · exact List.Subset.refl name

/-- A stem holds no slash. -/
theorem noSlash_stem (path : Text) : '/' ∉ stem path := by
  intro slash
  have named : '/' ∈ lastName path := withoutExtension_subset _ slash
  unfold lastName at named
  by_cases none : steps path = []
  · rw [none] at named
    contradiction
  · rw [List.getLastD_eq_getLast?, List.getLast?_eq_some_getLast none, Option.getD_some] at named
    exact (isSegment_of_mem_steps (List.getLast_mem none)).2 named

end ProtoInterfaces.Path
