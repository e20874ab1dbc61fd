import ProtoInterfaces.CommandLine.Run
import ProtoInterfaces.Proofs.Files.Places

/-!
# Reading the inputs of a batch

An input on one line that has the ending of schema files, or at whose path a file stands, is read
from the file tree; any other input is a schema itself. Inputs are read in order, all of them
before anything is printed or written, so the first that cannot be read decides what a batch does:
nothing but to report it, after the warnings about the inputs before it.
-/
namespace ProtoInterfaces.Batch

/-- The rendering of an input, or the fault that keeps it from being read. -/
abbrev rendered (tree : FileTree) (options : Options) (input : Text) : Except Fault Rendering :=
  Source.render tree options (.value (.text input))

/-- An input is meant as the name of a file: it is on one line, and it has the ending of schema
files or a file stands at its path. -/
def MeansFile (tree : FileTree) (input : Text) : Prop :=
  '\n' ∉ input ∧ (Source.schemaEnding <:+ input ∨ tree.isFile input = true)

/-- The schema that an input stands for. -/
inductive StandsFor (tree : FileTree) (input : Text) : Text → Prop
  /-- The text of the file that is named, its line ends unified, without a mark. -/
  | file {content : List UInt8} {text : Text} (named : MeansFile tree input)
      (found : tree.read input = .ok content) (decoded : Utf8.decode content = .ok text) :
      StandsFor tree input (Source.dropMark text.unifyLineEnds)
  /-- The input itself, without a mark. -/
  | itself (holds : input ≠ []) (unnamed : ¬ MeansFile tree input) :
      StandsFor tree input (Source.dropMark input)

/-- Why an input cannot be read. -/
inductive Unreadable (tree : FileTree) (input : Text) : Fault → Prop
  /-- It is empty. -/
  | nameless (empty : input = []) : Unreadable tree input (.configuration .noInput)
  /-- The file that it names cannot be opened. -/
  | unopened {fault : Fault} (named : MeansFile tree input)
      (refused : tree.read input = .error fault) : Unreadable tree input fault
  /-- The file that it names does not hold the encoding of a text. -/
  | undecodable {content : List UInt8} {fault : Utf8.Fault} (named : MeansFile tree input)
      (found : tree.read input = .ok content) (illFormed : Utf8.decode content = .error fault) :
      Unreadable tree input (.undecodable fault)

/-- The test for the name of a file says whether an input is meant as one. -/
theorem namesFile_iff {tree : FileTree} {input : Text} :
    Source.namesFile tree input = true ↔ MeansFile tree input := by
  simp [Source.namesFile, MeansFile]

/-- No file is meant by an empty name. -/
theorem MeansFile.ne_nil {tree : FileTree} {name : Text} (named : MeansFile tree name) :
    name ≠ [] := by
  rintro rfl
  rcases named.2 with ending | file
  · exact absurd ending (by decide)
  · contradiction

/-- The rendering of an input whose text is read. -/
theorem rendered_of_content {tree : FileTree} (options : Options) {input text : Text}
    (held : Source.content tree (.value (.text input)) = .ok text) :
    rendered tree options input = .ok (renderDocument options (Source.dropMark text)) := by
  simp only [rendered, Source.render, Source.read, held]

/-- The fault of an input whose text cannot be read. -/
theorem rendered_of_fault {tree : FileTree} (options : Options) {input : Text} {fault : Fault}
    (refused : Source.content tree (.value (.text input)) = .error fault) :
    rendered tree options input = .error fault := by
  simp only [rendered, Source.render, Source.read, refused]

/-- What is read of an input that is not empty. -/
theorem content_of_ne_nil (tree : FileTree) {input : Text} (holds : input ≠ []) :
    Source.content tree (.value (.text input)) =
      if Source.namesFile tree input then Source.fileText tree input else .ok input := by
  obtain ⟨c, rest, rfl⟩ := List.exists_cons_of_ne_nil holds
  rfl

/-- An input either stands for a schema and becomes its rendering, or it cannot be read and ends in
the fault that says why. -/
theorem rendered_cases (tree : FileTree) (options : Options) (input : Text) :
    (∃ schema, StandsFor tree input schema ∧
        rendered tree options input = .ok (renderDocument options schema)) ∨
      ∃ fault, Unreadable tree input fault ∧ rendered tree options input = .error fault := by
  by_cases empty : input = []
  · exact .inr ⟨_, .nameless empty, by rw [empty]; rfl⟩
  have content := content_of_ne_nil tree empty
  by_cases named : MeansFile tree input
  · rw [if_pos (namesFile_iff.mpr named)] at content
    cases found : tree.read input with
    | error fault =>
      refine .inr ⟨fault, .unopened named found, rendered_of_fault options ?_⟩
      rw [content, Source.fileText, found]
      rfl
    | ok bytes =>
      cases decoded : Utf8.decode bytes with
      | error fault =>
        refine .inr ⟨_, .undecodable named found decoded, rendered_of_fault options ?_⟩
        simp only [content, Source.fileText, found, Source.decoded, bind, Except.bind, decoded]
      | ok text =>
        refine .inl ⟨_, .file named found decoded, rendered_of_content options ?_⟩
        simp only [content, Source.fileText, found, Source.decoded, bind, Except.bind, decoded]
        rfl
  · rw [if_neg (fun names => named (namesFile_iff.mp names))] at content
    exact .inl ⟨_, .itself empty named, rendered_of_content options content⟩

/-- A rendered input stands for the schema that was rendered. -/
theorem exists_standsFor {tree : FileTree} {options : Options} {input : Text}
    {rendering : Rendering} (readable : rendered tree options input = .ok rendering) :
    ∃ schema, StandsFor tree input schema ∧ rendering = renderDocument options schema := by
  rcases rendered_cases tree options input with ⟨schema, stands, same⟩ | ⟨fault, _, refused⟩
  · rw [same] at readable
    exact ⟨schema, stands, (Except.ok.inj readable).symm⟩
  · rw [refused] at readable
    contradiction

/-- An input that is not rendered cannot be read for the reason that its fault gives. -/
theorem unreadable_of_fault {tree : FileTree} {options : Options} {input : Text} {fault : Fault}
    (refused : rendered tree options input = .error fault) : Unreadable tree input fault := by
  rcases rendered_cases tree options input with ⟨schema, _, same⟩ | ⟨other, why, same⟩
  · rw [same] at refused
    contradiction
  · rw [same] at refused
    exact Except.error.inj refused ▸ why

/-! ## All inputs of a batch -/

/-- Inputs with their renderings. -/
abbrev Entries := List (Text × Rendering)

/-- Every input of some entries has the rendering that it is listed with. -/
def Readable (tree : FileTree) (options : Options) (entries : Entries) : Prop :=
  ∀ entry ∈ entries, rendered tree options entry.1 = .ok entry.2

/-- The inputs of some entries. -/
def Entries.inputs (entries : Entries) : List Text := entries.map Prod.fst

/-- The warnings about the inputs of some entries, in order. -/
def Entries.warnings (entries : Entries) : List Warning :=
  entries.flatMap fun entry => entry.2.warnings

/-- An input that can be read is rendered before the inputs after it. -/
theorem renderAll_cons {tree : FileTree} {options : Options} {input : Text} {rendering : Rendering}
    (read : rendered tree options input = .ok rendering) (rest : List Text) :
    renderAll tree options (input :: rest) =
      (rendering.warnings ++ (renderAll tree options rest).1,
        (renderAll tree options rest).2.map ((input, rendering) :: ·)) := by
  simp only [rendered] at read
  rw [renderAll, read]
  cases renderAll tree options rest with
  | mk warnings outcome => cases outcome <;> rfl

/-- Inputs that can be read are rendered before the inputs after them. -/
theorem renderAll_append {tree : FileTree} {options : Options} {entries : Entries}
    (readable : Readable tree options entries) (rest : List Text) :
    renderAll tree options (entries.inputs ++ rest) =
      (entries.warnings ++ (renderAll tree options rest).1,
        (renderAll tree options rest).2.map (entries ++ ·)) := by
  induction entries with
  | nil =>
    change renderAll tree options rest = ((renderAll tree options rest).1,
      (renderAll tree options rest).2.map ([] ++ ·))
    cases renderAll tree options rest with
    | mk warnings outcome => cases outcome <;> rfl
  | cons entry entries ih =>
    obtain ⟨first, others⟩ := List.forall_mem_cons.mp readable
    change renderAll tree options (entry.1 :: (Entries.inputs entries ++ rest)) = _
    rw [renderAll_cons first, ih others, ← List.append_assoc]
    cases (renderAll tree options rest).2 <;> rfl

/-- Inputs that can be read are all rendered. -/
theorem renderAll_of_readable {tree : FileTree} {options : Options} {entries : Entries}
    (readable : Readable tree options entries) :
    renderAll tree options entries.inputs = (entries.warnings, .ok entries) := by
  have all := renderAll_append readable []
  simpa [renderAll, Except.map] using all

/-- The first input that cannot be read ends the reading. -/
theorem renderAll_of_unreadable {tree : FileTree} {options : Options} {entries : Entries}
    (readable : Readable tree options entries) {input : Text} {fault : Fault}
    (refused : rendered tree options input = .error fault) (after : List Text) :
    renderAll tree options (entries.inputs ++ input :: after) =
      (entries.warnings, .error fault) := by
  have ended : renderAll tree options (input :: after) = ([], .error fault) := by
    simp only [rendered] at refused
    rw [renderAll, refused]
  rw [renderAll_append readable, ended, List.append_nil]
  rfl

/-- Either all inputs can be read, or there is a first that cannot. -/
theorem readable_or_first_unreadable (tree : FileTree) (options : Options) (inputs : List Text) :
    (∃ entries : Entries, inputs = entries.inputs ∧ Readable tree options entries) ∨
      ∃ (entries : Entries) (input : Text) (after : List Text) (fault : Fault),
        inputs = entries.inputs ++ input :: after ∧ Readable tree options entries ∧
          rendered tree options input = .error fault := by
  induction inputs with
  | nil => exact .inl ⟨[], rfl, by simp [Readable]⟩
  | cons input inputs ih =>
    cases read : rendered tree options input with
    | error fault => exact .inr ⟨[], input, inputs, fault, rfl, by simp [Readable], read⟩
    | ok rendering =>
      have extend {entries : Entries} (readable : Readable tree options entries) :
          Readable tree options ((input, rendering) :: entries) :=
        List.forall_mem_cons.mpr ⟨read, readable⟩
      rcases ih with ⟨entries, rfl, readable⟩ | ⟨entries, other, after, fault, rfl, readable, ends⟩
      · exact .inl ⟨(input, rendering) :: entries, rfl, extend readable⟩
      · exact .inr ⟨(input, rendering) :: entries, other, after, fault, rfl, extend readable, ends⟩

/-! ## What a batch does -/

/-- A batch whose inputs can all be read delivers their renderings. -/
theorem run_of_readable {tree : FileTree} {options : Options} {entries : Entries}
    (readable : Readable tree options entries) (some : entries ≠ []) (output : Output) :
    run tree ⟨entries.inputs, output, options⟩ =
      deliver tree entries.warnings output entries := by
  obtain ⟨entry, rest, rfl⟩ := List.exists_cons_of_ne_nil some
  have read := renderAll_of_readable readable
  simp only [Entries.inputs, List.map_cons] at read ⊢
  simp only [run, read]

/-- A batch with an input that cannot be read does nothing but to end in the fault of the first
such input. -/
theorem run_of_unreadable {tree : FileTree} {options : Options} {entries : Entries}
    (readable : Readable tree options entries) {input : Text} {fault : Fault}
    (refused : rendered tree options input = .error fault) (after : List Text) (output : Output) :
    run tree ⟨entries.inputs ++ input :: after, output, options⟩ =
      ⟨.error fault, [], entries.warnings, tree⟩ := by
  have read := renderAll_of_unreadable readable refused after
  unfold run
  split
  · rename_i none
    simp at none
  · simp only [read]

/-- A batch that ends without a fault has read all of its inputs, at least one, and delivered their
renderings. -/
theorem exists_entries_of_ok {tree : FileTree} {request : Request} {paths : List Text}
    (returned : (run tree request).outcome = .ok paths) :
    ∃ entries : Entries, entries ≠ [] ∧ request.inputs = entries.inputs ∧
      Readable tree request.options entries ∧
      run tree request = deliver tree entries.warnings request.output entries := by
  obtain ⟨inputs, output, options⟩ := request
  rcases readable_or_first_unreadable tree options inputs with
    ⟨entries, rfl, readable⟩ | ⟨entries, input, after, fault, rfl, readable, refused⟩
  · by_cases none : entries = []
    · subst none
      contradiction
    · exact ⟨entries, none, rfl, readable, run_of_readable readable none output⟩
  · rw [run_of_unreadable readable refused] at returned
    contradiction

/-- Several renderings are written into a directory. -/
theorem deliver_of_several {tree : FileTree} {warnings : List Warning} {entries : Entries}
    (several : 2 ≤ entries.length) (directory : Text) :
    deliver tree warnings (.path directory) entries = saveAll tree warnings entries directory := by
  match entries, several with
  | _ :: _ :: _, _ => rfl

/-- Several renderings are refused by a place that is taken by something else than a directory. -/
theorem saveAll_of_taken {tree : FileTree} {directory : Text}
    (taken : tree.exists? directory = true) (other : tree.isDirectory directory = false)
    (warnings : List Warning) (entries : Entries) :
    saveAll tree warnings entries directory =
      ⟨.error (.configuration (.outputNotDirectory directory)), [], warnings, tree⟩ := by
  have refused : prepareDirectory tree directory =
      (tree, some (.configuration (.outputNotDirectory directory))) := by
    simp [prepareDirectory, taken, other]
  simp only [saveAll, refused]

/-- A command line that cannot be understood does nothing but to say so. -/
theorem misused_of_exit {tree : FileTree} {arguments : List Text}
    (exits : (CommandLine.run tree arguments).outcome = .ok 2) :
    ∃ fault : CommandLine.UsageFault,
      CommandLine.run tree arguments = ⟨.ok 2, [], fault.report, tree⟩ := by
  unfold CommandLine.run at exits ⊢
  split at exits
  · simp at exits
  · exact ⟨_, rfl⟩
  · simp only [CommandLine.conclude] at exits
    split at exits
    · simp at exits
    · split at exits <;> simp at exits

/-- **A batch that cannot read an input leaves no trace.** It ends in the fault of the first input
that cannot be read, prints nothing, warns about the inputs before that one and about nothing else,
and leaves the file tree as it is. Several inputs leave no trace either if the place of their
output is taken by something else than a directory, nor does a command line that cannot be
understood. -/
theorem reading_fault_leaves_no_trace (tree : FileTree) :
    (∀ request : Request,
      (∃ input ∈ request.inputs, ∃ fault, rendered tree request.options input = .error fault) →
        ∃ (entries : Entries) (input : Text) (after : List Text) (fault : Fault),
          request.inputs = entries.inputs ++ input :: after ∧
          Readable tree request.options entries ∧
          rendered tree request.options input = .error fault ∧ Unreadable tree input fault ∧
          run tree request = ⟨.error fault, [], entries.warnings, tree⟩) ∧
    (∀ (request : Request) (out : Text), 2 ≤ request.inputs.length → request.output = .path out →
      tree.exists? out = true → tree.isDirectory out = false →
        ∃ fault warnings, run tree request = ⟨.error fault, [], warnings, tree⟩) ∧
    ∀ arguments : List Text, (CommandLine.run tree arguments).outcome = .ok 2 →
      (CommandLine.run tree arguments).output = [] ∧
        (CommandLine.run tree arguments).tree = tree := by
  refine ⟨?_, ?_, ?_⟩
  · rintro ⟨inputs, output, options⟩ ⟨input, member, fault, refused⟩
    rcases readable_or_first_unreadable tree options inputs with
      ⟨entries, rfl, readable⟩ | ⟨entries, first, after, cause, rfl, readable, ends⟩
    · obtain ⟨entry, listed, rfl⟩ := List.mem_map.mp member
      have read := readable entry listed
      rw [refused] at read
      contradiction
    · exact ⟨entries, first, after, cause, rfl, readable, ends, unreadable_of_fault ends,
        run_of_unreadable readable ends after output⟩
  · rintro ⟨inputs, output, options⟩ out several rfl taken other
    rcases readable_or_first_unreadable tree options inputs with
      ⟨entries, rfl, readable⟩ | ⟨entries, first, after, cause, rfl, readable, ends⟩
    · have some : entries ≠ [] := by
        rintro rfl
        contradiction
      have many : 2 ≤ entries.length := by simpa [Entries.inputs] using several
      have delivered := run_of_readable readable some (.path out)
      rw [deliver_of_several many, saveAll_of_taken taken other] at delivered
      exact ⟨_, _, delivered⟩
    · exact ⟨_, _, run_of_unreadable readable ends after (.path out)⟩
  · intro arguments exits
    obtain ⟨fault, same⟩ := misused_of_exit exits
    rw [same]
    exact ⟨rfl, rfl⟩

/-- A file tree with schemas in the files at the given paths. -/
def treeOf (schemas : List (String × String)) : FileTree :=
  schemas.foldl (fun tree (path, schema) =>
    tree.place path.toList (.file (Utf8.encode schema.toList))) {}

/-- A file tree with a schema, of which one line cannot be read, and a directory. -/
def notesTree : FileTree :=
  (treeOf [("notes.proto", "message Note \x7b\n  see below\n\x7d")]).place "drafts".toList .directory

/-- A missing file after one that was warned about, several inputs for an output that is a file, and
a command line that names no file leave the file tree as it is. -/
theorem no_trace_of_missing_input :
    let missing : Request :=
      ⟨["notes.proto".toList, "missing.proto".toList], .path "out".toList, {}⟩
    let taken : Request :=
      ⟨["notes.proto".toList, "drafts".toList], .path "notes.proto".toList, {}⟩
    (∃ input ∈ missing.inputs, ∃ fault, rendered notesTree missing.options input = .error fault) ∧
      (∃ fault warnings, run notesTree missing = ⟨.error fault, [], warnings, notesTree⟩) ∧
      notesTree.exists? "notes.proto".toList = true ∧
      notesTree.isDirectory "notes.proto".toList = false ∧
      (∃ fault warnings, run notesTree taken = ⟨.error fault, [], warnings, notesTree⟩) ∧
      (CommandLine.run notesTree ["-c".toList]).outcome = .ok 2 ∧
      (CommandLine.run notesTree ["-c".toList]).tree = notesTree := by
  intro missing taken
  have refused : rendered notesTree missing.options "missing.proto".toList =
      .error (.file ⟨.notFound, "missing.proto".toList⟩) := rfl
  have unread : ∃ input ∈ missing.inputs, ∃ fault,
      rendered notesTree missing.options input = .error fault :=
    ⟨_, List.mem_cons_of_mem _ List.mem_cons_self, _, refused⟩
  have present : notesTree.exists? "notes.proto".toList = true := by decide +kernel
  have file : notesTree.isDirectory "notes.proto".toList = false := by decide +kernel
  have exits : (CommandLine.run notesTree ["-c".toList]).outcome = .ok 2 := rfl
  obtain ⟨reading, writing, misuse⟩ := reading_fault_leaves_no_trace notesTree
  obtain ⟨entries, _, _, fault, _, _, _, _, done⟩ := reading missing unread
  exact ⟨unread, ⟨fault, _, done⟩, present, file,
    writing taken _ (by decide) rfl present file, exits, (misuse _ exits).2⟩

end ProtoInterfaces.Batch
