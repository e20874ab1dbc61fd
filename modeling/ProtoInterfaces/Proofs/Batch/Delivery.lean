import ProtoInterfaces.Proofs.Batch.Writing

/-!
# What a batch delivers

A batch that ends without a fault has read every input that is meant as the name of a file from that
file, and has taken every other input as a schema itself. What it prints or writes are the
renderings of these schemas. A missing file is therefore reported only if its name has the ending of
schema files.
-/
namespace ProtoInterfaces.Batch

/-- How the renderings of a batch that ended without a fault are found, by its output. -/
inductive Delivered (report : Report) : Output → Entries → List Text → Prop
  /-- A single rendering is printed. -/
  | printedAlone {input : Text} {rendering : Rendering}
      (printed : report.printed = rendering.text ++ ['\n']) :
      Delivered report .printed [(input, rendering)] []
  /-- Several renderings are printed, each under a heading with its input. -/
  | printedUnderHeadings {entries : Entries} (several : 2 ≤ entries.length)
      (printed : report.printed = entries.flatMap fun entry =>
        "// ----- ".toList ++ entry.1 ++ " -----\n\n".toList ++ (entry.2.text ++ ['\n'])) :
      Delivered report .printed entries []
  /-- A single rendering is written to the output. -/
  | writtenAlone {path input : Text} {rendering : Rendering}
      (held : report.tree.read path = .ok (Utf8.encode rendering.text)) :
      Delivered report (.path path) [(input, rendering)] [path]
  /-- Several renderings are written into the output directory, where the last of each path is
  found. -/
  | writtenIntoDirectory {directory : Text} {entries : Entries} (several : 2 ≤ entries.length)
      (held : ∀ path ∈ entries.inputs.map (outputPath directory), ∃ entry ∈ entries,
        lastFor directory path entries.inputs = some entry.1 ∧
          report.tree.read path = .ok (Utf8.encode entry.2.text)) :
      Delivered report (.path directory) entries (entries.inputs.map (outputPath directory))

/-- A single rendering is delivered. -/
theorem delivered_one {tree : FileTree} {warnings : List Warning} {output : Output} {input : Text}
    {rendering : Rendering} {paths : List Text}
    (returned : (deliver tree warnings output [(input, rendering)]).outcome = .ok paths) :
    Delivered (deliver tree warnings output [(input, rendering)]) output [(input, rendering)]
      paths := by
  cases output with
  | printed =>
    obtain rfl := Except.ok.inj returned
    exact .printedAlone rfl
  | path out =>
    simp only [deliver, saveOne] at returned ⊢
    cases saved : rendering.save tree out with
    | error fault =>
      rw [saved] at returned
      contradiction
    | ok later =>
      rw [saved] at returned
      obtain rfl := Except.ok.inj returned
      exact .writtenAlone (FileTree.read_of_write saved)
  | nameless => contradiction

/-- Several renderings are delivered. -/
theorem delivered_several {tree : FileTree} {warnings : List Warning} {entries : Entries}
    {output : Output} {paths : List Text} (several : 2 ≤ entries.length)
    (returned : (deliver tree warnings output entries).outcome = .ok paths) :
    Delivered (deliver tree warnings output entries) output entries paths := by
  cases output with
  | printed =>
    match entries, several with
    | first :: second :: rest, several =>
      obtain rfl := Except.ok.inj returned
      exact .printedUnderHeadings several rfl
  | path directory =>
    rw [deliver_of_several several] at returned ⊢
    obtain ⟨made, later, _, done, saved⟩ := saveAll_ok returned
    rw [saved]
    have written := paths_of_writeAll done
    subst written
    exact .writtenIntoDirectory several fun path member => read_of_writeAll done member
  | nameless =>
    match entries, several with
    | _ :: _ :: _, _ => contradiction

/-- An input that is meant as the name of a file stands for the text of a file that is there. -/
theorem StandsFor.exists_file {tree : FileTree} {input schema : Text}
    (stands : StandsFor tree input schema) (named : MeansFile tree input) :
    ∃ content text, tree.lookup (tree.placeOf input) = some (.file content) ∧
      Utf8.decode content = .ok text ∧ schema = Source.dropMark text.unifyLineEnds := by
  cases stands with
  | file _ found decoded => exact ⟨_, _, (FileTree.read_eq_ok_iff.mp found).2, decoded, rfl⟩
  | itself _ unnamed => exact absurd named unnamed

/-- A command line that ends well has run its batch without a fault. -/
theorem exists_run_of_exit {tree : FileTree} {arguments : List Text}
    {understood : CommandLine.Arguments}
    (parsed : CommandLine.Arguments.parse arguments = .ok understood)
    (exits : (CommandLine.run tree arguments).outcome = .ok 0) :
    ∃ options paths,
      (run tree ⟨understood.files, understood.output, options⟩).outcome = .ok paths := by
  have done : ∃ paths, (understood.run tree).outcome = .ok paths := by
    simp only [CommandLine.run, parsed, CommandLine.conclude] at exits
    cases outcome : (understood.run tree).outcome with
    | ok paths => exact ⟨paths, rfl⟩
    | error fault =>
      simp only [outcome] at exits
      split at exits <;> simp at exits
  obtain ⟨paths, returned⟩ := done
  unfold CommandLine.Arguments.run at returned
  split at returned
  · contradiction
  · exact ⟨_, paths, returned⟩

/-- **A batch that ends without a fault has rendered its inputs.** Every input stands for a schema,
and the rendering of that schema is what is printed or written for it. An input that is meant as the
name of a file stands for the text of the file at its path, so a file that is missing ends no
command line well if its name has the ending of schema files. -/
theorem inputs_rendered_from_files_or_themselves (tree : FileTree) :
    (∀ (request : Request) (paths : List Text), (run tree request).outcome = .ok paths →
      ∃ entries : Entries, request.inputs = entries.inputs ∧
        (∀ entry ∈ entries, ∃ schema, StandsFor tree entry.1 schema ∧
          entry.2 = renderDocument request.options schema ∧
          (MeansFile tree entry.1 → ∃ content text,
            tree.lookup (tree.placeOf entry.1) = some (.file content) ∧
              Utf8.decode content = .ok text ∧ schema = Source.dropMark text.unifyLineEnds)) ∧
        Delivered (run tree request) request.output entries paths) ∧
    ∀ (arguments : List Text) (understood : CommandLine.Arguments),
      CommandLine.Arguments.parse arguments = .ok understood →
      (CommandLine.run tree arguments).outcome = .ok 0 →
        ∀ input ∈ understood.files, (∃ schema, StandsFor tree input schema) ∧
          (MeansFile tree input → ∃ content,
            tree.lookup (tree.placeOf input) = some (.file content)) := by
  constructor
  · intro request paths returned
    obtain ⟨entries, some, same, readable, delivered⟩ := exists_entries_of_ok returned
    refine ⟨entries, same, fun entry inside => ?_, ?_⟩
    · obtain ⟨schema, stands, rendering⟩ := exists_standsFor (readable entry inside)
      exact ⟨schema, stands, rendering, stands.exists_file⟩
    · rw [delivered] at returned ⊢
      match entries, some with
      | [(_, _)], _ => exact delivered_one returned
      | _ :: _ :: _, _ => exact delivered_several (by simp) returned
  · intro arguments understood parsed exits input member
    obtain ⟨options, paths, returned⟩ := exists_run_of_exit parsed exits
    obtain ⟨entries, _, same, readable, _⟩ := exists_entries_of_ok returned
    simp only at same
    rw [same] at member
    obtain ⟨entry, inside, rfl⟩ := List.mem_map.mp member
    obtain ⟨schema, stands, _⟩ := exists_standsFor (readable entry inside)
    refine ⟨⟨schema, stands⟩, fun named => ?_⟩
    obtain ⟨content, _, found, _⟩ := stands.exists_file named
    exact ⟨content, found⟩

/-- A file and a name that no file has are both rendered, and a command line that names the file
ends well. -/
theorem file_and_text_rendered :
    let request : Request := ⟨["notes.proto".toList, "points".toList], .printed, {}⟩
    let files := ["notes.proto".toList]
    (run notesTree request).outcome = .ok [] ∧
      (∃ entries : Entries, request.inputs = entries.inputs ∧
        Delivered (run notesTree request) .printed entries []) ∧
      CommandLine.Arguments.parse files = .ok { files } ∧
      (CommandLine.run notesTree files).outcome = .ok 0 ∧
      MeansFile notesTree "notes.proto".toList ∧
      ∃ content,
        notesTree.lookup (notesTree.placeOf "notes.proto".toList) = some (.file content) := by
  intro request files
  have returned : (run notesTree request).outcome = .ok [] := eq_ok_of_toOption (by decide +kernel)
  have parsed : CommandLine.Arguments.parse files = .ok { files } := rfl
  have exits : (CommandLine.run notesTree files).outcome = .ok 0 :=
    eq_ok_of_toOption (by decide +kernel)
  have named : MeansFile notesTree "notes.proto".toList := namesFile_iff.mp (by decide +kernel)
  obtain ⟨batches, commands⟩ := inputs_rendered_from_files_or_themselves notesTree
  obtain ⟨entries, same, _, delivered⟩ := batches request [] returned
  exact ⟨returned, ⟨entries, same, delivered⟩, parsed, exits, named,
    (commands files _ parsed exits _ List.mem_cons_self).2 named⟩

/-- A name that no file has is a schema itself unless it has the ending of schema files, and so is
the name of a directory: neither is reported, and both end a command line well. -/
theorem other_names_taken_as_schemas :
    (¬ ∀ (tree : FileTree) (request : Request) (paths : List Text),
      (run tree request).outcome = .ok paths → ∀ input ∈ request.inputs, ∃ content,
        tree.lookup (tree.placeOf input) = some (.file content)) ∧
      notesTree.lookup (notesTree.placeOf "nots".toList) = none ∧
      (CommandLine.run notesTree ["nots".toList]).outcome = .ok 0 ∧
      notesTree.lookup (notesTree.placeOf "drafts".toList) = some .directory ∧
      (CommandLine.run notesTree ["drafts".toList]).outcome = .ok 0 := by
  have absent : notesTree.lookup (notesTree.placeOf "nots".toList) = none := by decide +kernel
  refine ⟨fun read => ?_, absent, eq_ok_of_toOption (by decide +kernel), by decide +kernel,
    eq_ok_of_toOption (by decide +kernel)⟩
  have returned : (run notesTree ⟨["nots".toList], .printed, {}⟩).outcome = .ok [] :=
    eq_ok_of_toOption (by decide +kernel)
  obtain ⟨content, found⟩ := read _ _ _ returned _ List.mem_cons_self
  rw [absent] at found
  contradiction

end ProtoInterfaces.Batch
