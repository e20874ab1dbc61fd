import ProtoInterfaces.Files.Tree
import ProtoInterfaces.Proofs.Files.Path

/-!
# Places along paths

Where a path leads is told by its text alone as long as every place that is gone through is a
directory, since there are no links. Reading and writing use a path in its shortest form, which
leads to the same place through the same places; both succeed exactly if directories lead there
and the place is a file or, for writing, no directory.
-/
namespace ProtoInterfaces

namespace Location

/-- The place that a segment leads to from a directory. -/
def towards (location : Location) (segment : Text) : Location :=
  if segment = Path.here then location
  else if segment = Path.above then location.parent
  else location.child segment

/-- The place that segments lead to from a location if every place on the way is a directory. -/
def along (location : Location) (segments : List Text) : Location := segments.foldl towards location

/-- The places that are left behind while segments are followed from a location. -/
def passed (location : Location) : List Text → List Location
  | [] => []
  | segment :: rest => location :: (location.towards segment).passed rest

/-- Segments are followed one part after the other. -/
theorem along_append (location : Location) (front back : List Text) :
    location.along (front ++ back) = (location.along front).along back := List.foldl_append

/-- The places left behind are those of one part and then those of the other. -/
theorem passed_append (location : Location) (front back : List Text) :
    location.passed (front ++ back) =
      location.passed front ++ (location.along front).passed back := by
  induction front generalizing location with
  | nil => rfl
  | cons segment front ih =>
    simp only [List.cons_append, passed, ih]
    rfl

/-- Segments that stay in place make no difference to where segments lead. -/
theorem along_filter_here (location : Location) (segments : List Text) :
    location.along (segments.filter fun segment => segment ≠ Path.here) =
      location.along segments := by
  induction segments generalizing location with
  | nil => rfl
  | cons segment segments ih =>
    by_cases stays : segment = Path.here
    · rw [List.filter_cons_of_neg (by simp [stays]), ih]
      simp [along, towards, stays]
    · rw [List.filter_cons_of_pos (by simp [stays])]
      exact ih _

/-- Segments that stay in place make no difference to the places gone through up to the last. -/
theorem mem_passed_filter_here {location place : Location} {segments : List Text} (last : Text) :
    place ∈ location.passed (segments.filter (fun segment => segment ≠ Path.here) ++ [last]) ↔
      place ∈ location.passed (segments ++ [last]) := by
  induction segments generalizing location with
  | nil => rfl
  | cons segment segments ih =>
    by_cases stays : segment = Path.here
    · have same : location.towards segment = location := by simp [towards, stays]
      rw [List.filter_cons_of_neg (by simp [stays]), ih, List.cons_append, passed, same,
        List.mem_cons, iff_or_self]
      -- The place is left behind again by the next segment, at the latest by the last one.
      rintro rfl
      cases segments <;> exact List.mem_cons_self
    · rw [List.filter_cons_of_pos (by simp [stays]), List.cons_append, List.cons_append, passed,
        passed, List.mem_cons, List.mem_cons, ih]

/-- Different names lead to different places of one location. -/
theorem child_inj {location : Location} {left right : Text} :
    location.child left = location.child right ↔ left = right := by
  simp [child]

end Location

namespace FileTree

/-- The place that a path leads to if every place on the way is a directory. -/
def placeOf (tree : FileTree) (path : Text) : Location :=
  (tree.start path).along (Path.segments path)

/-- The places that a path leads through, the one it leads to included. -/
def placesTo (tree : FileTree) (path : Text) : List Location :=
  (tree.start path).passed (Path.segments path) ++ [tree.placeOf path]

/-- Paths lead to the same places in trees with the same working directory. -/
theorem placesTo_congr {tree later : FileTree} (same : later.working = tree.working) (path : Text) :
    later.placesTo path = tree.placesTo path := by
  simp only [placesTo, placeOf, start, same]

/-- A path leads to the same place in trees with the same working directory. -/
theorem placeOf_congr {tree later : FileTree} (same : later.working = tree.working) (path : Text) :
    later.placeOf path = tree.placeOf path := by
  simp only [placeOf, start, same]

/-- A path within a directory begins where the directory does. -/
theorem start_within {tree : FileTree} (directory : Text) {relative : Text}
    (below : Path.isAbsolute relative = false) :
    tree.start (Path.within directory relative) = tree.start directory := by
  rw [start, Path.isAbsolute_within directory below, start]

/-- A path within a directory leads to where its segments lead from there. -/
theorem placeOf_within {tree : FileTree} (directory : Text) {relative : Text}
    (below : Path.isAbsolute relative = false) :
    tree.placeOf (Path.within directory relative) =
      (tree.placeOf directory).along (Path.segments relative) := by
  rw [placeOf, Path.segments_within, Location.along_append, start_within directory below, placeOf]

/-- The steps of a path lead where the path leads. -/
theorem along_steps (tree : FileTree) (path : Text) :
    (tree.start path).along (Path.steps path) = tree.placeOf path :=
  Location.along_filter_here _ _

/-- The shortest form of a path begins where the path does. -/
theorem start_normal (tree : FileTree) (path : Text) :
    tree.start (Path.normal path) = tree.start path := by
  rw [start, Path.isAbsolute_normal, start]

/-- The parent of a path lies on the way to it. -/
theorem placesTo_parentAndName {tree : FileTree} {path : Text}
    (held : (Path.parentAndName path).1 ≠ []) :
    tree.placesTo (Path.parentAndName path).1 ⊆ tree.placesTo path := by
  obtain ⟨parted, begins⟩ := Path.segments_parentAndName path
  have origin : tree.start (Path.parentAndName path).1 = tree.start path := by
    rw [start, begins held, start]
  intro place member
  rw [placesTo, placeOf, origin] at member
  rw [placesTo, placeOf, parted]
  cases Path.segments (Path.parentAndName path).2 with
  | nil => rwa [List.append_nil]
  | cons name rest =>
    rw [Location.passed_append, List.append_assoc]
    rcases List.mem_append.mp member with before | last
    · exact List.mem_append_left _ before
    · rw [List.mem_singleton.mp last]
      exact List.mem_append_right _ List.mem_cons_self

/-- A path begins at a directory. -/
theorem lookup_start (tree : FileTree) (path : Text) :
    tree.lookup (tree.start path) = some .directory := by
  have above : (tree.working.below? (tree.start path)).isSome = true := by
    unfold start
    split <;> simp [Location.below?, Location.root]
  rw [lookup, if_pos above]

/-- A segment is followed from a directory unless it is too long. -/
theorem follow_cons {tree : FileTree} {location : Location} {segment : Text} (rest : List Text)
    (opened : tree.lookup location = some .directory) :
    tree.follow location (segment :: rest) =
      if Utf8.size segment ≤ Path.longestName then tree.follow (location.towards segment) rest
      else .error .nameTooLong := by
  simp only [follow, opened, Location.towards]
  by_cases stays : segment = Path.here
  · rw [if_pos stays, if_pos stays, if_pos (by rw [stays]; decide)]
  · by_cases leads : segment = Path.above
    · rw [if_neg stays, if_neg stays, if_pos leads, if_pos leads, if_pos (by rw [leads]; decide)]
    · rw [if_neg stays, if_neg stays, if_neg leads, if_neg leads]
      by_cases long : Utf8.size segment > Path.longestName
      · rw [if_pos long, if_neg (Nat.not_le.mpr long)]
      · rw [if_neg long, if_pos (Nat.not_lt.mp long)]

/-- Segments can be followed exactly if every place left behind is a directory and no segment is
too long. -/
theorem follow_eq_ok_iff {tree : FileTree} {location place : Location} {segments : List Text} :
    tree.follow location segments = .ok place ↔
      (∀ passed ∈ location.passed segments, tree.lookup passed = some .directory) ∧
        (∀ segment ∈ segments, Utf8.size segment ≤ Path.longestName) ∧
        place = location.along segments := by
  induction segments generalizing location with
  | nil => simp [follow, Location.passed, Location.along, eq_comm]
  | cons segment rest ih =>
    rw [Location.passed, List.forall_mem_cons, List.forall_mem_cons, Location.along,
      List.foldl_cons, ← Location.along]
    by_cases opened : tree.lookup location = some .directory
    · rw [follow_cons rest opened]
      by_cases short : Utf8.size segment ≤ Path.longestName
      · simp only [short, if_true, ih, opened, true_and]
      · simp only [short, if_false, reduceCtorEq, false_and, and_false]
    · have stuck : ∀ found, tree.follow location (segment :: rest) ≠ .ok found := by
        intro found
        unfold follow
        split
        · exact nofun
        · exact nofun
        · rename_i directory
          exact absurd directory opened
      simp only [stuck, opened, false_and]

/-- A path leads to its own place if it leads anywhere. -/
theorem eq_placeOf_of_locate {tree : FileTree} {path : Text} {location : Location}
    (located : tree.locate path (Path.segments path) = .ok location) :
    location = tree.placeOf path := by
  unfold locate at located
  split at located
  · contradiction
  · split at located
    · contradiction
    · exact (follow_eq_ok_iff.mp located).2.2

/-- A path can be used in its shortest form: it holds no null character, neither it nor a name of
it is too long, and directories lead to its place. -/
structure Reaches (tree : FileTree) (path : Text) : Prop where
  plain : holdsNull path = false
  short : Utf8.size (Path.normal path) ≤ Path.longestPath
  named : ∀ step ∈ Path.steps path, Utf8.size step ≤ Path.longestName
  opened : ∀ place ∈ (tree.start path).passed (Path.steps path),
    tree.lookup place = some .directory

/-- Segments that lead where a path leads are followed as the steps of the path are. -/
theorem follow_of_leadAs {tree : FileTree} {path : Text} {segments : List Text}
    (same : Path.LeadAs path segments) :
    tree.follow (tree.start path) segments = tree.follow (tree.start path) (Path.steps path) := by
  rcases same with rfl | ⟨none, stay⟩
  · rfl
  · -- Segments that only stay in place can be followed, since a path begins at a directory.
    rw [none]
    induction segments with
    | nil => rfl
    | cons segment rest ih =>
      obtain ⟨rfl, others⟩ := List.forall_mem_cons.mp stay
      rw [follow_cons rest (lookup_start tree path), if_pos (by decide)]
      exact ih others

/-- Where the shortest form of a path leads is found exactly if the path can be used, whichever way
its steps are written. -/
theorem locate_normal_eq_ok_iff {tree : FileTree} {path : Text} {location : Location}
    {segments : List Text} (plain : holdsNull path = false) (same : Path.LeadAs path segments) :
    tree.locate (Path.normal path) segments = .ok location ↔
      tree.Reaches path ∧ location = tree.placeOf path := by
  have held : (Path.normal path).isEmpty = false := by
    unfold Path.normal
    split
    · rfl
    · rename_i some
      exact List.isEmpty_eq_false_iff.mpr some
  have reaches : tree.Reaches path ↔ Utf8.size (Path.normal path) ≤ Path.longestPath ∧
      (∀ place ∈ (tree.start path).passed (Path.steps path),
        tree.lookup place = some .directory) ∧
      ∀ step ∈ Path.steps path, Utf8.size step ≤ Path.longestName :=
    ⟨fun ⟨_, short, named, opened⟩ => ⟨short, opened, named⟩,
      fun ⟨short, opened, named⟩ => ⟨plain, short, named, opened⟩⟩
  unfold locate
  rw [held, if_neg Bool.false_ne_true, start_normal, reaches]
  by_cases long : Utf8.size (Path.normal path) > Path.longestPath
  · simp [if_pos long, Nat.not_le.mpr long]
  · rw [if_neg long, follow_of_leadAs same, follow_eq_ok_iff, along_steps]
    simp only [Nat.not_lt.mp long, true_and, and_assoc]

/-- The segments of the shortest form of a path still lead where the path leads when a slash at its
end is minded. -/
theorem leadAs_segmentsInto_normal (path : Text) :
    Path.LeadAs path (segmentsInto (Path.normal path)) := by
  unfold segmentsInto
  have segments := Path.leadAs_segments_normal path
  by_cases leads : Path.steps path = []
  · have stay : ∀ part ∈ Path.segments (Path.normal path), part = Path.here := by
      rcases segments with none | stay
      · simp [none, leads]
      · exact stay.2
    refine .inr ⟨leads, fun part member => ?_⟩
    rcases List.mem_append.mp member with inside | last
    · exact stay part inside
    · split at last
      · exact List.mem_singleton.mp last
      · contradiction
  · rw [Path.endsWithSlash_normal leads, if_neg Bool.false_ne_true, List.append_nil]
    exact segments

/-- A path leads to something exactly if its place can be found and is taken. -/
theorem find_eq_ok_iff {tree : FileTree} {path : Text} {node : Node} :
    tree.find path = .ok node ↔
      ∃ location, tree.locate path (segmentsInto path) = .ok location ∧
        tree.lookup location = some node := by
  unfold find
  cases tree.locate path (segmentsInto path) with
  | error cause => simp
  | ok location => cases found : tree.lookup location <;> simp [found]

/-- Bytes can be read at a path exactly if it can be used and its place is a file that holds
them. -/
theorem read_eq_ok_iff {tree : FileTree} {path : Text} {content : List UInt8} :
    tree.read path = .ok content ↔
      tree.Reaches path ∧ tree.lookup (tree.placeOf path) = some (.file content) := by
  by_cases plain : holdsNull path = false
  · have opened : tree.read path = .ok content ↔
        tree.find (Path.normal path) = .ok (.file content) := by
      simp only [read, plain, Bool.false_eq_true, if_false]
      split <;> rename_i found <;> simp [found]
    rw [opened, find_eq_ok_iff]
    simp only [locate_normal_eq_ok_iff plain (leadAs_segmentsInto_normal path), and_assoc,
      exists_and_left, exists_eq_left]
  · have refused : tree.read path = .error .nullInPath := by
      rw [read, if_pos (by simpa using plain)]
    rw [refused]
    exact iff_of_false nofun fun reached => plain reached.1.plain

/-- Bytes can be written at a path exactly if it can be used and its place is no directory; they
are then put there. -/
theorem write_eq_ok_iff {tree later : FileTree} {path : Text} {content : List UInt8} :
    tree.write path content = .ok later ↔
      tree.Reaches path ∧ tree.lookup (tree.placeOf path) ≠ some .directory ∧
        later = tree.put (tree.placeOf path) (.file content) := by
  by_cases plain : holdsNull path = false
  · have located (location : Location) :
        tree.locate (Path.normal path) (Path.segments (Path.normal path)) = .ok location ↔
          tree.Reaches path ∧ location = tree.placeOf path :=
      locate_normal_eq_ok_iff plain (Path.leadAs_segments_normal path)
    simp only [write, plain, Bool.false_eq_true, if_false]
    cases reached : tree.locate (Path.normal path) (Path.segments (Path.normal path)) with
    | error cause =>
      have unreached : ¬ tree.Reaches path := by
        intro reaches
        have found := (located _).mpr ⟨reaches, rfl⟩
        rw [reached] at found
        contradiction
      simp [unreached]
    | ok location =>
      obtain ⟨reaches, rfl⟩ := (located location).mp reached
      cases held : tree.lookup (tree.placeOf path) with
      | none => simp [reaches, held, eq_comm]
      | some node => cases node <;> simp [reaches, held, eq_comm]
  · have refused : tree.write path content = .error .nullInPath := by
      rw [write, if_pos (by simpa using plain)]
    rw [refused]
    exact iff_of_false nofun fun written => plain written.1.plain

/-- A path that can be used can be used as long as directories stay what they are. -/
theorem Reaches.of_directories {tree later : FileTree} {path : Text} (reaches : tree.Reaches path)
    (same : later.working = tree.working)
    (stay : ∀ place, tree.lookup place = some .directory → later.lookup place = some .directory) :
    later.Reaches path := by
  have origin : later.start path = tree.start path := by
    rw [start, same, start]
  refine { reaches with opened := fun place passed => ?_ }
  rw [origin] at passed
  exact stay place (reaches.opened place passed)

/-- Bytes that were written at a path can be read there. -/
theorem read_of_write {tree later : FileTree} {path : Text} {content : List UInt8}
    (written : tree.write path content = .ok later) : later.read path = .ok content := by
  obtain ⟨reaches, vacant, rfl⟩ := write_eq_ok_iff.mp written
  refine read_eq_ok_iff.mpr ⟨reaches.of_directories rfl fun place stood => ?_,
    lookup_put_self vacant⟩
  have elsewhere : place ≠ tree.placeOf path := by
    rintro rfl
    exact vacant stood
  rw [lookup_put_of_ne elsewhere, stood]

/-! ## Directories that are made -/

/-- A later tree holds what an earlier one holds, and perhaps directories at some of the given
places where nothing stood. -/
structure AddsDirectories (places : List Location) (earlier later : FileTree) : Prop where
  working : later.working = earlier.working
  lookup : ∀ place, later.lookup place = earlier.lookup place ∨
    place ∈ places ∧ earlier.lookup place = none ∧ later.lookup place = some .directory

namespace AddsDirectories

/-- Nothing is added to a tree that stays as it is. -/
theorem refl (places : List Location) (tree : FileTree) : AddsDirectories places tree tree :=
  ⟨rfl, fun _ => .inl rfl⟩

/-- Directories may be added to a tree in two goes. -/
theorem trans {places : List Location} {earlier middle later : FileTree}
    (first : AddsDirectories places earlier middle)
    (second : AddsDirectories places middle later) : AddsDirectories places earlier later := by
  refine ⟨second.working.trans first.working, fun place => ?_⟩
  rcases second.lookup place with same | ⟨inside, empty, made⟩
  · rw [same]
    exact first.lookup place
  · rcases first.lookup place with same | ⟨_, _, taken⟩
    · rw [same] at empty
      exact .inr ⟨inside, empty, made⟩
    · rw [taken] at empty
      contradiction

/-- Directories that are added at some places are added at more places. -/
theorem mono {fewer more : List Location} {earlier later : FileTree} (inside : fewer ⊆ more)
    (added : AddsDirectories fewer earlier later) : AddsDirectories more earlier later :=
  ⟨added.working, fun place =>
    (added.lookup place).imp_right fun ⟨member, change⟩ => ⟨inside member, change⟩⟩

end AddsDirectories

/-- A directory is made by putting it at its place, where nothing stood. -/
theorem makeDirectory_ok {tree made : FileTree} {path : Text}
    (done : tree.makeDirectory path = .ok made) :
    tree.lookup (tree.placeOf path) = none ∧ made = tree.put (tree.placeOf path) .directory := by
  unfold makeDirectory at done
  split at done
  · contradiction
  · split at done
    · contradiction
    · rename_i location located
      obtain rfl := eq_placeOf_of_locate located
      split at done
      · contradiction
      · rename_i empty
        exact ⟨empty, (Except.ok.inj done).symm⟩

/-- Making a directory adds it at its own place, if anywhere. -/
theorem addsDirectories_ensureDirectory (tree : FileTree) (path : Text) :
    AddsDirectories (tree.placesTo path) tree (tree.ensureDirectory path).1 := by
  unfold ensureDirectory
  split
  · rename_i made done
    obtain ⟨empty, rfl⟩ := makeDirectory_ok done
    have vacant : tree.lookup (tree.placeOf path) ≠ some .directory := by
      rw [empty]
      exact nofun
    refine ⟨rfl, fun place => ?_⟩
    by_cases here : place = tree.placeOf path
    · subst here
      exact .inr ⟨List.mem_append_right _ List.mem_cons_self, empty, lookup_put_self vacant⟩
    · exact .inl (lookup_put_of_ne here)
  · exact .refl _ tree

/-- Making a directory and those missing above it adds directories on the way to it, also if it is
ended by a fault. -/
theorem addsDirectories_makeDirectories (tree : FileTree) (path : Text) :
    AddsDirectories (tree.placesTo path) tree (tree.makeDirectories path).1 := by
  -- The parent is made first; the path itself only if that ended with no other fault than that
  -- the parent was taken.
  fun_induction makeDirectories tree path with
  | case1 path parts missing _ made _ ended _ _ above =>
    rw [ended] at above
    exact above.mono (placesTo_parentAndName missing.2.1)
  | case2 path parts missing _ made _ ended _ _ above =>
    rw [ended] at above
    exact above.mono (placesTo_parentAndName missing.2.1)
  | case3 path parts missing _ made _ ended _ _ above =>
    rw [ended] at above
    have own := addsDirectories_ensureDirectory made path
    rw [placesTo_congr above.working] at own
    exact (above.mono (placesTo_parentAndName missing.2.1)).trans own
  | case4 path => exact addsDirectories_ensureDirectory tree path

end FileTree

end ProtoInterfaces
