import Mathlib.Data.List.Nodup
import ProtoInterfaces.Proofs.Batch.Reading
import ProtoInterfaces.Proofs.Text.Utf8

/-!
# Writing the renderings of a batch

Several renderings are written into one directory, each under the stem of its input. A file that is
written never stands where a directory does, so the directories that lead to the output stay, and
after all writing every output path leads to the rendering that was written there last. Inputs
share an output path exactly if they share a stem.
-/
namespace ProtoInterfaces.Batch

/-! ## Output paths -/

/-- The name of an output file can be a segment, and it leads down. -/
theorem outputName_leads_down (input : Text) :
    Path.IsSegment (Path.stem input ++ ".ts".toList) ∧
      ∀ location : Location, location.towards (Path.stem input ++ ".ts".toList) =
        location.child (Path.stem input ++ ".ts".toList) := by
  have long : 3 ≤ (Path.stem input ++ ".ts".toList).length := by simp
  have apart (short : Text) (fewer : short.length < 3) :
      Path.stem input ++ ".ts".toList ≠ short := by
    rintro rfl
    omega
  refine ⟨⟨apart [] (by decide), fun slash => ?_⟩, fun location => ?_⟩
  · rcases List.mem_append.mp slash with inside | ending
    · exact Path.noSlash_stem input inside
    · exact absurd ending (by decide)
  · rw [Location.towards, if_neg (apart Path.here (by decide)),
      if_neg (apart Path.above (by decide))]

/-- The name of an output file does not begin at the root. -/
theorem isAbsolute_outputName (input : Text) :
    Path.isAbsolute (Path.stem input ++ ".ts".toList) = false := by
  have plain := (outputName_leads_down input).1.2
  exact decide_eq_false fun first => plain (List.mem_of_head? first)

/-- An output path leads to the name of the output file in the output directory. -/
theorem placeOf_outputPath (tree : FileTree) (directory input : Text) :
    tree.placeOf (outputPath directory input) =
      (tree.placeOf directory).child (Path.stem input ++ ".ts".toList) := by
  obtain ⟨segment, down⟩ := outputName_leads_down input
  rw [outputPath, FileTree.placeOf_within directory (isAbsolute_outputName input),
    Path.segments_of_isSegment segment, ← down]
  rfl

/-- Inputs have the same output path exactly if they have the same stem. -/
theorem outputPath_inj {directory left right : Text} :
    outputPath directory left = outputPath directory right ↔ Path.stem left = Path.stem right := by
  simp [outputPath, Path.within_inj]

/-- Output paths lead to the same place exactly if they are the same. -/
theorem placeOf_outputPath_inj {tree : FileTree} {directory left right : Text} :
    tree.placeOf (outputPath directory left) = tree.placeOf (outputPath directory right) ↔
      outputPath directory left = outputPath directory right := by
  rw [placeOf_outputPath, placeOf_outputPath, Location.child_inj, outputPath_inj,
    List.append_cancel_right_eq]

/-- If an output path can be used, every place on the way to the output directory is a directory,
and so is the output directory. -/
theorem lookup_of_reaches_outputPath {tree : FileTree} {directory input : Text}
    (reaches : tree.Reaches (outputPath directory input)) {place : Location}
    (inside : place ∈ tree.placesTo directory) : tree.lookup place = some .directory := by
  have segment := (outputName_leads_down input).1
  have moves : Path.stem input ++ ".ts".toList ≠ Path.here := by
    intro stays
    have short := congrArg List.length stays
    simp [Path.here] at short
  have steps : Path.steps (outputPath directory input) =
      (Path.segments directory).filter (fun part => part ≠ Path.here) ++
        [Path.stem input ++ ".ts".toList] := by
    rw [Path.steps, outputPath, Path.segments_within, Path.segments_of_isSegment segment,
      List.filter_append, List.filter_cons_of_pos (by simpa using moves), List.filter_nil]
  have origin : tree.start (outputPath directory input) = tree.start directory :=
    FileTree.start_within directory (isAbsolute_outputName input)
  -- The name comes after the output directory, so everything up to the directory is passed.
  apply reaches.opened
  rw [steps, origin, Location.mem_passed_filter_here, Location.passed_append]
  exact inside

/-! ## One rendering after the other -/

variable {directory : Text}

/-- Where the rendering of an entry is put. -/
def destination (tree : FileTree) (directory : Text) (entry : Text × Rendering) : Location :=
  tree.placeOf (outputPath directory entry.1)

/-- What is put there. -/
def outputFile (entry : Text × Rendering) : Node := .file (Utf8.encode entry.2.text)

/-- Writing several renderings succeeds by writing the first, which replaces no directory, and then
the others. -/
theorem writeAll_cons_ok {tree later : FileTree} {entry : Text × Rendering} {entries : Entries}
    {paths : List Text} (done : writeAll directory tree (entry :: entries) = (later, .ok paths)) :
    tree.Reaches (outputPath directory entry.1) ∧
      tree.lookup (destination tree directory entry) ≠ some .directory ∧
      ∃ others, paths = outputPath directory entry.1 :: others ∧
        writeAll directory (tree.put (destination tree directory entry) (outputFile entry)) entries =
          (later, .ok others) := by
  unfold writeAll at done
  split at done
  · simp at done
  · rename_i next written
    obtain ⟨reaches, vacant, rfl⟩ := FileTree.write_eq_ok_iff.mp written
    refine ⟨reaches, vacant, ?_⟩
    split at done
    · simp at done
    · rename_i last others rest
      obtain ⟨rfl, same⟩ := Prod.mk.inj done
      exact ⟨others, (Except.ok.inj same).symm, rest⟩

/-- The paths that are written are those of the inputs, in order. -/
theorem paths_of_writeAll {tree later : FileTree} {entries : Entries} {paths : List Text}
    (done : writeAll directory tree entries = (later, .ok paths)) :
    paths = entries.inputs.map (outputPath directory) := by
  induction entries generalizing tree paths with
  | nil =>
    obtain ⟨_, same⟩ := Prod.mk.inj done
    exact (Except.ok.inj same).symm
  | cons entry entries ih =>
    obtain ⟨_, _, others, rfl, rest⟩ := writeAll_cons_ok done
    rw [ih rest]
    rfl

/-- The working directory stays the same while renderings are written. -/
theorem working_of_writeAll {tree later : FileTree} {entries : Entries} {paths : List Text}
    (done : writeAll directory tree entries = (later, .ok paths)) :
    later.working = tree.working := by
  induction entries generalizing tree paths with
  | nil =>
    obtain ⟨rfl, _⟩ := Prod.mk.inj done
    rfl
  | cons entry entries ih =>
    obtain ⟨_, _, others, _, rest⟩ := writeAll_cons_ok done
    have same := ih rest
    exact same

/-- A directory stays one while renderings are written. -/
theorem directory_of_writeAll {tree later : FileTree} {entries : Entries} {paths : List Text}
    (done : writeAll directory tree entries = (later, .ok paths)) {place : Location}
    (stood : tree.lookup place = some .directory) : later.lookup place = some .directory := by
  induction entries generalizing tree paths with
  | nil =>
    obtain ⟨rfl, _⟩ := Prod.mk.inj done
    exact stood
  | cons entry entries ih =>
    obtain ⟨_, vacant, others, _, rest⟩ := writeAll_cons_ok done
    have elsewhere : place ≠ destination tree directory entry := by
      rintro rfl
      exact vacant stood
    exact ih rest ((FileTree.lookup_put_of_ne elsewhere).trans stood)

/-- A place that no rendering is put at holds what it held. -/
theorem other_of_writeAll {tree later : FileTree} {entries : Entries} {paths : List Text}
    (done : writeAll directory tree entries = (later, .ok paths)) {place : Location}
    (other : ∀ entry ∈ entries, destination tree directory entry ≠ place) :
    later.lookup place = tree.lookup place := by
  induction entries generalizing tree paths with
  | nil =>
    obtain ⟨rfl, _⟩ := Prod.mk.inj done
    rfl
  | cons entry entries ih =>
    obtain ⟨_, _, others, _, rest⟩ := writeAll_cons_ok done
    obtain ⟨here, there⟩ := List.forall_mem_cons.mp other
    rw [ih rest there, FileTree.lookup_put_of_ne here.symm]

/-- The rendering that is put at a place last stays there. -/
theorem last_of_writeAll {tree later : FileTree} {before after : Entries}
    {entry : Text × Rendering} {paths : List Text}
    (done : writeAll directory tree (before ++ entry :: after) = (later, .ok paths))
    (last : ∀ other ∈ after, destination tree directory other ≠ destination tree directory entry) :
    later.lookup (destination tree directory entry) = some (outputFile entry) := by
  induction before generalizing tree paths with
  | nil =>
    obtain ⟨_, vacant, others, _, rest⟩ := writeAll_cons_ok done
    rw [other_of_writeAll rest last, FileTree.lookup_put_self vacant]
  | cons first before ih =>
    obtain ⟨_, _, others, _, rest⟩ := writeAll_cons_ok done
    have stays := ih rest last
    exact stays

/-- Every output path can still be used after all renderings are written. -/
theorem reaches_of_writeAll {tree later : FileTree} {entries : Entries} {paths : List Text}
    (done : writeAll directory tree entries = (later, .ok paths)) {entry : Text × Rendering}
    (member : entry ∈ entries) : later.Reaches (outputPath directory entry.1) := by
  induction entries generalizing tree paths with
  | nil => contradiction
  | cons first entries ih =>
    obtain ⟨reaches, vacant, others, _, rest⟩ := writeAll_cons_ok done
    rcases List.mem_cons.mp member with rfl | further
    · exact reaches.of_directories (working_of_writeAll done) fun _ stood =>
        directory_of_writeAll done stood
    · exact ih rest further

/-- If something was written, every place on the way to the output directory was a directory before,
and so was the output directory. -/
theorem opened_of_writeAll {tree later : FileTree} {entries : Entries} {paths : List Text}
    (done : writeAll directory tree entries = (later, .ok paths)) (some : entries ≠ [])
    {place : Location} (inside : place ∈ tree.placesTo directory) :
    tree.lookup place = .some .directory := by
  obtain ⟨entry, rest, rfl⟩ := List.exists_cons_of_ne_nil some
  exact lookup_of_reaches_outputPath (writeAll_cons_ok done).1 inside

/-- The last of some inputs that has a given output path. -/
def lastFor (directory path : Text) (inputs : List Text) : Option Text :=
  inputs.reverse.find? fun input => outputPath directory input = path

/-- The last input that has a given output path has that path. -/
theorem outputPath_of_lastFor {path input : Text} {inputs : List Text}
    (last : lastFor directory path inputs = some input) : outputPath directory input = path := by
  have found := List.find?_some last
  exact of_decide_eq_true found

/-- The last of some entries that has a given output path divides them. -/
theorem exists_last_entry {entries : Entries} {path : Text}
    (member : path ∈ entries.inputs.map (outputPath directory)) :
    ∃ before entry after, entries = before ++ entry :: after ∧
      lastFor directory path entries.inputs = some entry.1 ∧
      outputPath directory entry.1 = path ∧
      ∀ other ∈ after, outputPath directory other.1 ≠ path := by
  obtain ⟨_, listed, leads⟩ := List.mem_map.mp member
  obtain ⟨first, present, rfl⟩ := List.mem_map.mp listed
  obtain ⟨entry, found⟩ : ∃ entry, entries.reverse.find? (fun entry : Text × Rendering =>
      outputPath directory entry.1 = path) = some entry :=
    Option.isSome_iff_exists.mp (List.find?_isSome.mpr
      ⟨first, List.mem_reverse.mpr present, decide_eq_true leads⟩)
  have last : lastFor directory path entries.inputs = some entry.1 := by
    rw [lastFor, Entries.inputs, ← List.map_reverse, List.find?_map]
    exact congrArg (Option.map Prod.fst) found
  obtain ⟨same, after, before, divided, others⟩ := List.find?_eq_some_iff_append.mp found
  have parted : entries = before.reverse ++ entry :: after.reverse := by
    rw [← List.reverse_reverse entries, divided, List.reverse_append, List.reverse_cons,
      List.append_assoc, List.singleton_append]
  refine ⟨before.reverse, entry, after.reverse, parted, last, of_decide_eq_true same,
    fun other further => ?_⟩
  simpa using others other (List.mem_reverse.mp further)

/-- An output path can be read after all renderings are written, and holds the rendering of the last
input that has it. -/
theorem read_of_writeAll {tree later : FileTree} {entries : Entries} {paths : List Text}
    (done : writeAll directory tree entries = (later, .ok paths)) {path : Text}
    (member : path ∈ paths) :
    ∃ entry ∈ entries, lastFor directory path entries.inputs = some entry.1 ∧
      later.read path = .ok (Utf8.encode entry.2.text) := by
  rw [paths_of_writeAll done] at member
  obtain ⟨before, entry, after, parted, last, rfl, others⟩ := exists_last_entry member
  have inside : entry ∈ entries := by
    rw [parted]
    exact List.mem_append_right _ List.mem_cons_self
  refine ⟨entry, inside, last, ?_⟩
  rw [FileTree.read_eq_ok_iff, FileTree.placeOf_congr (working_of_writeAll done)]
  refine ⟨reaches_of_writeAll done inside, ?_⟩
  rw [parted] at done
  -- No entry after this one shares its path, and so none shares its place.
  refine last_of_writeAll done fun other further => ?_
  rw [destination, destination, Ne, placeOf_outputPath_inj]
  exact others other further

/-! ## Several renderings -/

/-- Renderings that are written into a directory without a fault are written one after the other,
after directories were added on the way to it. -/
theorem saveAll_ok {tree : FileTree} {warnings : List Warning} {entries : Entries}
    {paths : List Text}
    (returned : (saveAll tree warnings entries directory).outcome = .ok paths) :
    ∃ made later, FileTree.AddsDirectories (tree.placesTo directory) tree made ∧
      writeAll directory made entries = (later, .ok paths) ∧
      saveAll tree warnings entries directory = ⟨.ok paths, doneNotice, warnings, later⟩ := by
  have added : FileTree.AddsDirectories (tree.placesTo directory) tree
      (prepareDirectory tree directory).1 := by
    unfold prepareDirectory
    split
    · exact .refl _ tree
    · exact FileTree.addsDirectories_makeDirectories tree directory
  unfold saveAll at returned ⊢
  cases ready : prepareDirectory tree directory with
  | mk made fault =>
    rw [ready] at returned added
    cases fault with
    | some fault => contradiction
    | none =>
      cases done : writeAll directory made entries with
      | mk later outcome =>
        simp only [done] at returned ⊢
        cases outcome with
        | error fault => contradiction
        | ok written =>
          obtain rfl := Except.ok.inj returned
          exact ⟨made, later, added, done, rfl⟩

/-- What a batch of several inputs that ends without a fault has done to the file tree: directories
were added on the way to the output, and then the renderings were written, each of an input as it
was at the beginning. -/
theorem exists_writeAll_of_ok {tree : FileTree} {inputs : List Text} {options : Options}
    {paths : List Text} (several : 2 ≤ inputs.length)
    (returned : (run tree ⟨inputs, .path directory, options⟩).outcome = .ok paths) :
    ∃ (entries : Entries) (made later : FileTree),
      inputs = entries.inputs ∧ Readable tree options entries ∧
      FileTree.AddsDirectories (tree.placesTo directory) tree made ∧
      writeAll directory made entries = (later, .ok paths) ∧
      run tree ⟨inputs, .path directory, options⟩ =
        ⟨.ok paths, doneNotice, entries.warnings, later⟩ := by
  obtain ⟨entries, _, same, readable, delivered⟩ := exists_entries_of_ok returned
  simp only at same delivered readable
  subst same
  have many : 2 ≤ entries.length := by simpa [Entries.inputs] using several
  rw [delivered, deliver_of_several many] at returned
  obtain ⟨made, later, added, done, saved⟩ := saveAll_ok returned
  exact ⟨entries, made, later, rfl, readable, added, done,
    by rw [delivered, deliver_of_several many, saved]⟩

/-- **Several inputs change the file tree at their output paths and on the way to them only.** If a
batch of several inputs ends without a fault, it returns one path for each input, the stem of the
input with `.ts` in the output directory, and prints that it is done. The output directory and every
place on the way to it are then directories, of which none was anything else before. Every returned
path holds the rendering of the last input that has it, as the inputs were at the beginning. Every
other place holds what it held, and the working directory stays the same. -/
theorem several_inputs_written_into_directory {tree : FileTree} {inputs : List Text} {out : Text}
    {options : Options} {paths : List Text} (several : 2 ≤ inputs.length)
    (returned : (run tree ⟨inputs, .path out, options⟩).outcome = .ok paths) :
    let report := run tree ⟨inputs, .path out, options⟩
    (paths = inputs.map fun input => Path.within out (Path.stem input ++ ".ts".toList)) ∧
      report.printed = "Done!\n".toList ∧
      (∀ place ∈ tree.placesTo out, report.tree.lookup place = some .directory ∧
        (tree.lookup place = none ∨ tree.lookup place = some .directory)) ∧
      (∀ path ∈ paths, ∃ input rendering, lastFor out path inputs = some input ∧
        rendered tree options input = .ok rendering ∧
        report.tree.read path = .ok (Utf8.encode rendering.text)) ∧
      report.tree.working = tree.working ∧
      ∀ place, place ∉ tree.placesTo out → (∀ path ∈ paths, tree.placeOf path ≠ place) →
        report.tree.lookup place = tree.lookup place := by
  intro report
  obtain ⟨entries, made, later, rfl, readable, added, done, same⟩ :=
    exists_writeAll_of_ok several returned
  have final : report = ⟨.ok paths, doneNotice, entries.warnings, later⟩ := same
  have written := paths_of_writeAll done
  have some : entries ≠ [] := by
    rintro rfl
    contradiction
  rw [final]
  have stays : later.working = tree.working := (working_of_writeAll done).trans added.working
  refine ⟨written, rfl, fun place inside => ?_, fun path member => ?_, stays,
    fun place outside other => ?_⟩
  · rw [← FileTree.placesTo_congr added.working] at inside
    have opened := opened_of_writeAll done some inside
    refine ⟨directory_of_writeAll done opened, ?_⟩
    rcases added.lookup place with kept | ⟨_, empty, _⟩
    · exact .inr (kept ▸ opened)
    · exact .inl empty
  · obtain ⟨entry, inside, last, read⟩ := read_of_writeAll done member
    exact ⟨entry.1, entry.2, last, readable entry inside, read⟩
  · have apart : ∀ entry ∈ entries, destination made out entry ≠ place := by
      intro entry inside
      rw [destination, FileTree.placeOf_congr added.working]
      refine other _ ?_
      rw [written]
      exact List.mem_map_of_mem (List.mem_map_of_mem inside)
    rw [other_of_writeAll done apart]
    rcases added.lookup place with kept | ⟨inside, _, _⟩
    · exact kept
    · exact absurd inside outside

/-- An outcome without a fault is told by its value. -/
theorem eq_ok_of_toOption {α : Type} {outcome : Except Fault α} {value : α}
    (held : outcome.toOption = some value) : outcome = .ok value := by
  cases outcome with
  | error fault => contradiction
  | ok found => exact congrArg Except.ok (Option.some.inj held)

/-- A file tree in which an output of a batch is one of its inputs. -/
def overlappingTree : FileTree :=
  treeOf [("out/a.ts", "message A \x7b\n\x7d"), ("b/a.proto", "message B \x7b\n\x7d"),
    ("c.proto", "message C \x7b\n\x7d")]

/-- Inputs of which the first is the output of itself and of the second. -/
def overlappingInputs : List Text := ["out/a.ts".toList, "b/a.proto".toList, "c.proto".toList]

/-- Two inputs share a path that is the first input: the second is rendered from its own file, a
directory that is only passed on the way to the output is made, and the file of the second input
stays as it is. -/
theorem overlapping_inputs_written :
    let out := "out/new/..".toList
    let path := "out/new/../a.ts".toList
    let report := run overlappingTree ⟨overlappingInputs, .path out, {}⟩
    2 ≤ overlappingInputs.length ∧
      report.outcome = .ok [path, path, "out/new/../c.ts".toList] ∧
      report.printed = "Done!\n".toList ∧
      overlappingTree.lookup (overlappingTree.placeOf "out/new".toList) = none ∧
      report.tree.lookup (overlappingTree.placeOf "out/new".toList) = some .directory ∧
      (∃ rendering, rendered overlappingTree {} "b/a.proto".toList = .ok rendering ∧
        report.tree.read path = .ok (Utf8.encode rendering.text)) ∧
      report.tree.working = overlappingTree.working ∧
      report.tree.lookup (overlappingTree.placeOf "b/a.proto".toList) =
        overlappingTree.lookup (overlappingTree.placeOf "b/a.proto".toList) := by
  intro out path report
  have several : 2 ≤ overlappingInputs.length := by decide
  have returned : report.outcome = .ok [path, path, "out/new/../c.ts".toList] :=
    eq_ok_of_toOption (by decide +kernel)
  obtain ⟨_, printed, opened, held, stays, kept⟩ :=
    several_inputs_written_into_directory several returned
  obtain ⟨input, rendering, last, readable, read⟩ := held path List.mem_cons_self
  have second : lastFor out path overlappingInputs = some "b/a.proto".toList := by decide +kernel
  obtain rfl : "b/a.proto".toList = input := Option.some.inj (second.symm.trans last)
  refine ⟨several, returned, printed, by decide +kernel, (opened _ (by decide +kernel)).1,
    ⟨rendering, readable, read⟩, stays, kept _ (by decide +kernel) (by decide +kernel)⟩

/-! ## Inputs that share an output path -/

/-- The rendering of an input can be read at the output path of the input. -/
def IsKept (tree : FileTree) (options : Options) (out : Text) (later : FileTree) (input : Text) :
    Prop :=
  ∃ rendering, rendered tree options input = .ok rendering ∧
    later.read (outputPath out input) = .ok (Utf8.encode rendering.text)

/-- Output paths are pairwise different exactly if the stems are. -/
theorem nodup_outputPaths_iff {inputs : List Text} :
    (inputs.map (outputPath directory)).Nodup ↔ (inputs.map Path.stem).Nodup := by
  unfold List.Nodup
  rw [List.pairwise_map, List.pairwise_map]
  simp only [Ne, outputPath_inj]

/-- After all renderings are written, every one of them can be read exactly if those of one stem are
the same. -/
theorem kept_iff_of_writeAll {tree made later : FileTree} {options : Options} {entries : Entries}
    {paths : List Text} (readable : Readable tree options entries)
    (done : writeAll directory made entries = (later, .ok paths)) :
    (∀ input ∈ entries.inputs, IsKept tree options directory later input) ↔
      ∀ input ∈ entries.inputs, ∀ other ∈ entries.inputs, Path.stem input = Path.stem other →
        (rendered tree options input).map Rendering.text =
          (rendered tree options other).map Rendering.text := by
  constructor
  · intro all input member other further agree
    obtain ⟨rendering, read, held⟩ := all input member
    obtain ⟨otherRendering, otherRead, otherHeld⟩ := all other further
    rw [outputPath_inj.mpr agree, otherHeld] at held
    have text : otherRendering.text = rendering.text := Utf8.encode_inj.mp (Except.ok.inj held)
    rw [read, otherRead]
    exact congrArg Except.ok text.symm
  · intro agree input member
    have listed : outputPath directory input ∈ paths :=
      paths_of_writeAll done ▸ List.mem_map_of_mem member
    obtain ⟨entry, inside, last, held⟩ := read_of_writeAll done listed
    obtain ⟨own, present, rfl⟩ := List.mem_map.mp member
    have shared : Path.stem entry.1 = Path.stem own.1 :=
      outputPath_inj.mp (outputPath_of_lastFor last)
    have text := agree entry.1 (List.mem_map_of_mem inside) own.1 member shared
    rw [readable entry inside, readable own present] at text
    refine ⟨own.2, readable own present, ?_⟩
    rw [held, show entry.2.text = own.2.text from Except.ok.inj text]

/-- **No rendering is lost exactly if inputs with one stem have one rendering.** If a batch of
several inputs ends without a fault, its paths are pairwise different exactly if the stems of the
inputs are, and then the rendering of each input can be read at its own path. In general that is so
exactly if every two inputs with the same stem have the same text as their rendering. -/
theorem renderings_kept_iff_stems_agree {tree : FileTree} {inputs : List Text} {out : Text}
    {options : Options} {paths : List Text} (several : 2 ≤ inputs.length)
    (returned : (run tree ⟨inputs, .path out, options⟩).outcome = .ok paths) :
    let later := (run tree ⟨inputs, .path out, options⟩).tree
    paths = inputs.map (outputPath out) ∧
      (paths.Nodup ↔ (inputs.map Path.stem).Nodup) ∧
      ((inputs.map Path.stem).Nodup → ∀ input ∈ inputs, IsKept tree options out later input) ∧
      ((∀ input ∈ inputs, IsKept tree options out later input) ↔
        ∀ input ∈ inputs, ∀ other ∈ inputs, Path.stem input = Path.stem other →
          (rendered tree options input).map Rendering.text =
            (rendered tree options other).map Rendering.text) := by
  intro later
  obtain ⟨entries, made, final, rfl, readable, _, done, same⟩ :=
    exists_writeAll_of_ok several returned
  obtain rfl : later = final := congrArg Report.tree same
  have written := paths_of_writeAll done
  have kept := kept_iff_of_writeAll readable done
  refine ⟨written, written ▸ nodup_outputPaths_iff, fun different => ?_, kept⟩
  refine kept.mpr fun input member other further agree => ?_
  rw [List.inj_on_of_nodup_map different member further agree]

/-- A file tree with schemas of the same name in two directories, and one of another name. -/
def twinTree : FileTree :=
  treeOf [("a/x.proto", "message A \x7b\n\x7d"), ("b/x.proto", "message B \x7b\n\x7d"),
    ("b/x.y.proto", "message C \x7b\n\x7d")]

/-- Inputs of different stems are kept at different paths. -/
theorem renderings_kept_of_different_stems :
    let inputs := ["a/x.proto".toList, "b/x.y.proto".toList]
    let out := "out/ts".toList
    let report := run twinTree ⟨inputs, .path out, {}⟩
    2 ≤ inputs.length ∧ report.outcome = .ok ["out/ts/x.ts".toList, "out/ts/x.y.ts".toList] ∧
      IsKept twinTree {} out report.tree "a/x.proto".toList ∧
      IsKept twinTree {} out report.tree "b/x.y.proto".toList := by
  intro inputs out report
  have several : 2 ≤ inputs.length := by decide
  have returned : report.outcome = .ok ["out/ts/x.ts".toList, "out/ts/x.y.ts".toList] :=
    eq_ok_of_toOption (by decide +kernel)
  obtain ⟨_, _, kept, _⟩ := renderings_kept_iff_stems_agree several returned
  have all := kept (by decide +kernel)
  exact ⟨several, returned, all _ List.mem_cons_self,
    all _ (List.mem_cons_of_mem _ List.mem_cons_self)⟩

/-- Different files of one stem share their output path. -/
theorem equal_stems_share_path :
    ¬ ∀ (tree : FileTree) (inputs : List Text) (out : Text) (options : Options)
      (paths : List Text), 2 ≤ inputs.length → (∀ input ∈ inputs, tree.isFile input = true) →
        (inputs.map tree.placeOf).Nodup →
        (run tree ⟨inputs, .path out, options⟩).outcome = .ok paths →
          paths.Nodup ∧ ∀ input ∈ inputs,
            IsKept tree options out (run tree ⟨inputs, .path out, options⟩).tree input := by
  intro kept
  let inputs := ["a/x.proto".toList, "b/x.proto".toList]
  have returned : (run twinTree ⟨inputs, .path "out".toList, {}⟩).outcome =
      .ok ["out/x.ts".toList, "out/x.ts".toList] := eq_ok_of_toOption (by decide +kernel)
  have files : ∀ input ∈ inputs, twinTree.isFile input = true := by decide +kernel
  have apart : (inputs.map twinTree.placeOf).Nodup := by decide +kernel
  have different := (kept twinTree inputs _ {} _ (by decide) files apart returned).1
  exact absurd different (by decide)

end ProtoInterfaces.Batch
