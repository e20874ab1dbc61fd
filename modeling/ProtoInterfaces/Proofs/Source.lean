import ProtoInterfaces.Proofs.Batch.Reading
import ProtoInterfaces.Proofs.Rendering.LineEnds
import ProtoInterfaces.Proofs.Text.Utf8

/-!
# Ways to supply a schema

The characters of a schema may come from bytes, from a stream of bytes or of characters, from a file
at a path or under a name, or be given themselves. Files alone are read with line ends unified, and
a mark at the beginning is dropped wherever it comes from, so a schema gives one document in all of
these ways if its carriage returns stand before line feeds alone.
-/
namespace ProtoInterfaces

/-- The ways to supply a text. -/
inductive Supplies (tree : FileTree) (text : Text) : Source → Prop
  /-- The bytes of the text. -/
  | bytes : Supplies tree text (.bytes (Utf8.encode text))
  /-- A stream of its bytes. -/
  | byteStream : Supplies tree text (.byteStream (Utf8.encode text))
  /-- A stream of its characters. -/
  | characterStream : Supplies tree text (.characterStream text)
  /-- The path of a file that holds its bytes. -/
  | path {path : Text} (found : tree.read path = .ok (Utf8.encode text)) :
      Supplies tree text (.path path)
  /-- A value that names such a file. -/
  | name {name : Text} (named : Batch.MeansFile tree name)
      (found : tree.read name = .ok (Utf8.encode text)) : Supplies tree text (.value (.text name))
  /-- The text as a value, if it holds a line feed. -/
  | itself (fed : '\n' ∈ text) : Supplies tree text (.value (.text text))

namespace Source

/-- The bytes of a text are decoded to it. -/
theorem decoded_encode (text : Text) : decoded (Utf8.encode text) = .ok text := by
  rw [decoded, Utf8.decode_eq_ok_iff.mpr rfl]

/-- A file that holds the bytes of a text is read with the line ends of the text unified. -/
theorem fileText_of_read {tree : FileTree} {path text : Text}
    (found : tree.read path = .ok (Utf8.encode text)) :
    fileText tree path = .ok text.unifyLineEnds := by
  simp only [fileText, found, bind, Except.bind, decoded_encode]
  rfl

/-- A mark at the beginning is dropped whether line ends are unified before or after. -/
theorem dropMark_unifyLineEnds (text : Text) :
    dropMark text.unifyLineEnds = (dropMark text).unifyLineEnds := by
  have lineFeed : '\n' ≠ byteOrderMark := by decide
  have carriageReturn : '\r' ≠ byteOrderMark := by decide
  fun_cases Text.unifyLineEnds text with
  | case1 => rfl
  | case2 rest =>
    rw [dropMark, if_neg lineFeed, dropMark, if_neg carriageReturn, Text.unifyLineEnds]
  | case3 c rest single =>
    by_cases marked : c = byteOrderMark
    · subst marked
      rfl
    · rw [dropMark, dropMark, if_neg marked, Text.unifyLineEnds, if_neg]
      · by_cases returns : c = '\r'
        · rwa [if_pos returns]
        · rwa [if_neg returns]
      · exact single

/-- Nothing is dropped from a text without a mark at its beginning. -/
theorem dropMark_of_head?_ne {text : Text} (unmarked : text.head? ≠ some byteOrderMark) :
    dropMark text = text := by
  cases text with
  | nil => rfl
  | cons c rest =>
    rw [dropMark, if_neg]
    rintro rfl
    exact unmarked rfl

end Source

namespace Supplies

variable {tree : FileTree} {text : Text} {source : Source}

/-- What supplies a text gives it as it is or with line ends unified. -/
theorem content_eq (supplied : Supplies tree text source) (holds : text ≠ []) :
    source.content tree = .ok text ∨ source.content tree = .ok text.unifyLineEnds := by
  cases supplied with
  | bytes =>
    obtain ⟨lead, rest, encoded⟩ :=
      List.exists_cons_of_ne_nil (mt Utf8.encode_eq_nil_iff.mp holds)
    have decoded := Source.decoded_encode text
    rw [encoded] at decoded ⊢
    exact .inl decoded
  | byteStream => exact .inl (Source.decoded_encode text)
  | characterStream => exact .inl rfl
  | path found => exact .inr (Source.fileText_of_read found)
  | name named found =>
    rw [Batch.content_of_ne_nil tree named.ne_nil, if_pos (Batch.namesFile_iff.mpr named)]
    exact .inr (Source.fileText_of_read found)
  | itself fed =>
    have unnamed : ¬ Batch.MeansFile tree text := fun named => named.1 fed
    rw [Batch.content_of_ne_nil tree holds, if_neg (mt Batch.namesFile_iff.mp unnamed)]
    exact .inl rfl

/-- What supplies a text gives it without a mark, as it is or with line ends unified. -/
theorem read_eq (supplied : Supplies tree text source) (holds : text ≠ []) :
    source.read tree = .ok (Source.dropMark text) ∨
      source.read tree = .ok (Source.dropMark text).unifyLineEnds := by
  rw [← Source.dropMark_unifyLineEnds]
  rcases supplied.content_eq holds with content | content
  · exact .inl (by rw [Source.read, content])
  · exact .inr (by rw [Source.read, content])

end Supplies

/-- **A schema gives one document, however it is supplied**: as bytes, by a stream of bytes or of
characters, in a file at a path or under a name, or itself, and with a mark at its beginning or
without one, if carriage returns stand before line feeds alone. -/
theorem sources_of_one_schema_agree {tree : FileTree} {text : Text} (holds : text ≠ [])
    (unmarked : text.head? ≠ some Source.byteOrderMark) (paired : Text.isPaired text = true)
    {source : Source} (supplied : Supplies tree text source ∨
      Supplies tree (Source.byteOrderMark :: text) source) (options : Options) :
    source.render tree options = .ok (renderDocument options text) := by
  have read : source.read tree = .ok text ∨ source.read tree = .ok text.unifyLineEnds := by
    rcases supplied with plain | marked
    · have given := plain.read_eq holds
      rwa [Source.dropMark_of_head?_ne unmarked] at given
    · exact marked.read_eq (List.cons_ne_nil _ _)
  rcases read with read | read
  · rw [Source.render, read]
  · rw [Source.render, read]
    exact congrArg Except.ok (renderDocument_unifyLineEnds options paired)

/-- A schema whose lines end with a carriage return and a line feed. -/
def pairedSchema : String :=
  "syntax = \"proto3\";\r\nmessage Note \x7b\r\n  string text = 1;\r\n\x7d"

/-- The schema gives the same document from a file, under the name of the file, in bytes that begin
with a mark, and itself. -/
theorem pairedSchema_from_four_sources :
    let tree := Batch.treeOf [("notes.proto", pairedSchema)]
    let text := pairedSchema.toList
    let name := "notes.proto".toList
    text ≠ [] ∧ text.head? ≠ some Source.byteOrderMark ∧ Text.isPaired text = true ∧
      Batch.MeansFile tree name ∧ tree.read name = .ok (Utf8.encode text) ∧ '\n' ∈ text ∧
      ∀ source ∈ [.path name, .value (.text name),
          .bytes (Utf8.encode (Source.byteOrderMark :: text)), .value (.text text)],
        Source.render tree {} source = .ok (renderDocument {} text) := by
  intro tree text name
  have holds : text ≠ [] := by decide
  have unmarked : text.head? ≠ some Source.byteOrderMark := by decide
  have paired : Text.isPaired text = true := by decide
  have named : Batch.MeansFile tree name := Batch.namesFile_iff.mp (by decide +kernel)
  have found : tree.read name = .ok (Utf8.encode text) := rfl
  have fed : '\n' ∈ text := by decide
  have agree {source : Source} (supplied : Supplies tree text source ∨
      Supplies tree (Source.byteOrderMark :: text) source) :
      source.render tree {} = .ok (renderDocument {} text) :=
    sources_of_one_schema_agree holds unmarked paired supplied {}
  refine ⟨holds, unmarked, paired, named, found, fed, ?_⟩
  simp only [List.forall_mem_cons]
  exact ⟨agree (.inl (.path found)), agree (.inl (.name named found)), agree (.inr .bytes),
    agree (.inl (.itself fed)), by simp⟩

end ProtoInterfaces
