import ProtoInterfaces.Proofs.Files.Places
import ProtoInterfaces.Proofs.Rendering.OutputText
import ProtoInterfaces.Proofs.Source

/-!
# The text of a document in a file

The lines that are written stay lines: the only line breaks in the text of a document are the line
feeds between them, although a schema may hold breaks of every kind. A file that is read as text has
its line ends unified, and here nothing is left to unify, so a document that was saved is read back
as it is.
-/
namespace ProtoInterfaces

/-- The only line breaks in the text of a document are line feeds. -/
theorem eq_lineFeed_of_mem_renderDocument {options : Options} {text : Text} {c : Char}
    (member : c ∈ (renderDocument options text).text) (breaks : isLineBreak c = true) :
    c = '\n' := by
  rcases Text.mem_join member with separates | ⟨line, written, holds⟩
  · exact List.mem_singleton.mp separates
  · have plain := unbroken_of_mem_documentLines written c holds
    rw [breaks] at plain
    contradiction

/-- The text of a document has its line ends unified. -/
theorem unifyLineEnds_renderDocument (options : Options) (text : Text) :
    (renderDocument options text).text.unifyLineEnds = (renderDocument options text).text := by
  apply Text.unifyLineEnds_eq_self
  intro member
  have fed : '\r' = '\n' := eq_lineFeed_of_mem_renderDocument member (by decide)
  contradiction

/-- What is rendered from a source is the document of some text. -/
theorem Source.eq_renderDocument_of_render {tree : FileTree} {options : Options} {source : Source}
    {rendering : Rendering} (rendered : source.render tree options = .ok rendering) :
    ∃ text, rendering = renderDocument options text := by
  unfold Source.render at rendered
  split at rendered
  · rename_i text _
    exact ⟨text, (Except.ok.inj rendered).symm⟩
  · contradiction

/-- **The lines of a document stay lines**: none of them holds a line break of any kind, the text of
the document holds no line break but line feeds, and split at these it gives the lines back. And
the document of a source that was saved in a file is read from there as it is. -/
theorem document_lines_stay_lines (options : Options) :
    (∀ text : Text,
      let lines := (documentLines options text).1
      let written := (renderDocument options text).text
      (∀ line ∈ lines, Unbroken line) ∧
        (∀ c ∈ written, isLineBreak c = true → c = '\n') ∧
        written.splitOn '\n' = if lines = [] then [[]] else lines) ∧
      ∀ {source : Source} {before tree later : FileTree} {path : Text} {rendering : Rendering},
        source.render before options = .ok rendering → rendering.save tree path = .ok later →
          Source.fileText later path = .ok rendering.text := by
  refine ⟨fun text => ⟨fun _ => unbroken_of_mem_documentLines, fun _ =>
    eq_lineFeed_of_mem_renderDocument, splitOn_renderDocument options text⟩, ?_⟩
  intro source before tree later path rendering rendered saved
  obtain ⟨text, rfl⟩ := Source.eq_renderDocument_of_render rendered
  rw [Source.fileText_of_read (FileTree.read_of_write saved), unifyLineEnds_renderDocument]

/-- A schema with breaks of several kinds between its lines. -/
def brokenSchema : String :=
  "message A \x7b\x0b  string b = 1;\r\r\n  rpc\u2028\x7d\u0085"

/-- The document of the schema has line feeds alone between its lines, and is read back after it was
saved beside the schema. -/
theorem brokenSchema_saved_and_read :
    let tree := Batch.treeOf [("broken.proto", brokenSchema)]
    let source := Source.path "broken.proto".toList
    let path := "broken.ts".toList
    let written := "export interface A \x7b\n  b: string\n  rpc\n\x7d".toList
    ∃ rendering later, source.render tree {} = .ok rendering ∧ rendering.text = written ∧
      rendering.save tree path = .ok later ∧ Source.fileText later path = .ok written := by
  intro tree source path written
  let schema := Text.unifyLineEnds brokenSchema.toList
  have found : Source.fileText tree "broken.proto".toList = .ok schema :=
    Source.fileText_of_read rfl
  have rendered : source.render tree {} = .ok (renderDocument {} schema) := by
    rw [Source.render, Source.read, Source.content, found]
    rfl
  have text : (renderDocument {} schema).text = written := by decide +kernel
  obtain ⟨later, saved⟩ : ∃ later, (renderDocument {} schema).save tree path = .ok later :=
    ⟨_, rfl⟩
  have reread := (document_lines_stay_lines {}).2 rendered saved
  rw [text] at reread
  exact ⟨_, later, rendered, text, saved, reread⟩

end ProtoInterfaces
