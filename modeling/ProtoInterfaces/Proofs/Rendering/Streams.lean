import ProtoInterfaces.Proofs.Declaration
import ProtoInterfaces.Proofs.Rendering.LineByLine

/-!
# Documents under the three stream behaviours

The stream behaviour is looked at in two places that have to agree: in the signature of a method
with a stream, and in the import at the beginning of the document. The import stands there exactly
if some signature writes the stream type, and apart from it the documents under the three
behaviours differ in those signatures alone.
-/
namespace ProtoInterfaces

/-- A signature from its parts. -/
def signatureOf (name parameter request response : Text) : Text :=
  name ++ [' ', '('] ++ parameter ++ [':', ' '] ++ request ++ [')', ':', ' '] ++ response

/-- A method with both streams taken for their messages. -/
def Method.withoutStreams (method : Method) : Method :=
  { method with
    request := { method.request with streamed := false }
    response := { method.response with streamed := false } }

/-- The stream type over a type. -/
def streamOver (type : Text) : Text := "Stream<".toList ++ type ++ ['>']

/-- What stands for a payload if a stream of it is written in the given way. -/
def streamedAs (written : Text) (payload : Payload) : Text :=
  if payload.streamed then written else payload.type

/-- The name of a parameter that holds a payload. -/
def streamParameter (payload : Payload) : Text :=
  Identifier.camel payload.type ++ if payload.streamed then "Stream".toList else []

/-- What stands before what a line declares: one unit inside the namespace and the line's own
indentation. -/
def leadOf (lines : List Text) (entry : Text × Nat) : Text :=
  (if packageBefore lines entry.2 then unitOf lines else []) ++ indentOf entry.1

namespace Declaration

/-- A parameter is named after the stream that it holds wherever streams are written. -/
theorem parameterName_of_ne_strip {behavior : StreamBehavior} (written : behavior ≠ .strip)
    (request : Payload) : parameterName behavior request = streamParameter request := by
  rw [parameterName, decide_eq_true written, Bool.and_true]
  rfl

/-- Streams taken for their messages are written like a method without streams. -/
theorem signature_strip (method : Method) :
    signature .strip method = signatureOf (Identifier.camel method.name)
      (Identifier.camel method.request.type) method.request.type method.response.type := by
  have payload (side : Payload) : payloadType .strip side = side.type := ite_self _
  have parameter : parameterName .strip method.request =
      Identifier.camel method.request.type := by simp [parameterName]
  rw [signature, payload, payload, parameter]
  rfl

/-- A method without streams is written in one way. -/
theorem signature_withoutStreams (behavior : StreamBehavior) (method : Method) :
    signature behavior method.withoutStreams = signature .strip method := by
  have parameter : parameterName behavior method.withoutStreams.request =
      Identifier.camel method.request.type := List.append_nil _
  rw [signature_strip, signature, parameter]
  rfl

/-- Streams of anything are written as the bare stream type. -/
theorem signature_native (method : Method) :
    signature .native method = signatureOf (Identifier.camel method.name)
      (streamParameter method.request) (streamedAs "Stream".toList method.request)
      (streamedAs "Stream".toList method.response) := by
  rw [signature, parameterName_of_ne_strip (by decide)]
  rfl

/-- Streams of a message are written as the stream type over it. -/
theorem signature_generic (method : Method) :
    signature .generic method = signatureOf (Identifier.camel method.name)
      (streamParameter method.request)
      (streamedAs (streamOver method.request.type) method.request)
      (streamedAs (streamOver method.response.type) method.response) := by
  rw [signature, parameterName_of_ne_strip (by decide)]
  rfl

/-- The behaviour does not matter to a method that has no stream. -/
theorem signature_of_not_isStreaming {method : Method} (still : method.isStreaming = false)
    (behavior other : StreamBehavior) : signature behavior method = signature other method := by
  have same : method.withoutStreams = method := by
    obtain ⟨name, ⟨request, streamed⟩, ⟨response, streamedBack⟩⟩ := method
    simp only [Method.isStreaming, Bool.or_eq_false_iff] at still
    simp only [Method.withoutStreams, still]
  rw [← same, signature_withoutStreams, signature_withoutStreams]

end Declaration

/-- What a method line becomes. -/
theorem emission_of_method {line : Text} {method : Method}
    (read : Method.ofLine? line = some method) (options : Options) (context : Context) :
    (renderLine options context line).emission =
      .line (indentOf line ++ Declaration.signature options.stream method) := by
  have kind : LineKind.ofWords line.words = .method := LineKind.ofLine_of_method read
  simp only [renderLine, kind, read]
  rfl

/-- The behaviour does not matter to a line that declares no stream. -/
theorem emission_of_not_declaresStream {line : Text} (still : declaresStream line = false)
    (options : Options) (behavior : StreamBehavior) (context : Context) :
    (renderLine { options with stream := behavior } context line).emission =
      (renderLine options context line).emission := by
  cases read : Method.ofLine? line with
  | some method =>
    rw [declaresStream, read, Option.any_some] at still
    rw [emission_of_method read, emission_of_method read,
      Declaration.signature_of_not_isStreaming still behavior options.stream]
  | none =>
    simp only [renderLine, read]

/-- An output line begins with its lead wherever the line becomes something under its own
indentation. -/
theorem outputLine_eq_lead_append {options : Options} {version : SyntaxVersion}
    {lines : List Text} {entry : Text × Nat} {content : Text} (holds : content ≠ [])
    (becomes : (renderAlone options version lines entry).emission =
      .line (indentOf entry.1 ++ content)) :
    outputLine options version (unitOf lines) lines entry = leadOf lines entry ++ content := by
  rw [outputLine, becomes, Emission.text, nested, leadOf]
  have filled : (indentOf entry.1 ++ content).isEmpty = false := by simp [holds]
  cases packageBefore lines entry.2 <;> simp [filled]

/-- A method that has a stream is never left out. -/
theorem isLeftOut_of_declaresStream (options : Options) {line : Text}
    (streams : declaresStream line = true) : isLeftOut options line = false := by
  by_contra leftOut
  rw [Bool.not_eq_false] at leftOut
  rw [(declares_of_isLeftOut leftOut).2] at streams
  contradiction

/-- A line declares a stream exactly if it is read as a method with a stream on either side. -/
theorem declaresStream_iff {line : Text} :
    declaresStream line = true ↔ ∃ method, Method.ofLine? line = some method ∧
      (method.request.streamed = true ∨ method.response.streamed = true) := by
  simp only [declaresStream, Option.any_eq_true, Method.isStreaming, Bool.or_eq_true]

/-- The output line at the place of a kept line is the one that it becomes. -/
theorem getElem?_body (options : Options) {lines : List Text} {position : Nat}
    {entry : Text × Nat} (kept : (keptLines options lines)[position]? = some entry)
    (version : SyntaxVersion) :
    (bodyLines options version lines ++ closingLines lines)[position]? =
      some (outputLine options version (unitOf lines) lines entry) := by
  have inside := (List.getElem?_eq_some_iff.mp kept).1
  rw [List.getElem?_append_left (by rw [bodyLines, List.length_map]; exact inside), bodyLines,
    List.getElem?_map, kept]
  rfl

/-- Beyond the places of the kept lines stands the end of the namespace. -/
theorem getElem?_body_of_none (options : Options) {lines : List Text} {position : Nat}
    (beyond : (keptLines options lines)[position]? = none) (version : SyntaxVersion) :
    (bodyLines options version lines ++ closingLines lines)[position]? =
      (closingLines lines)[position - (keptLines options lines).length]? := by
  have past := List.getElem?_eq_none_iff.mp beyond
  rw [List.getElem?_append_right (by rw [bodyLines, List.length_map]; exact past), bodyLines,
    List.length_map]

/-- The output line at the place of a method is its signature after the lead of its line. -/
theorem getElem?_body_of_method (options : Options) {lines : List Text} {position : Nat}
    {entry : Text × Nat} {method : Method}
    (kept : (keptLines options lines)[position]? = some entry)
    (read : Method.ofLine? entry.1 = some method) (version : SyntaxVersion) :
    (bodyLines options version lines ++ closingLines lines)[position]? =
      some (leadOf lines entry ++ Declaration.signature options.stream method) := by
  rw [getElem?_body options kept, outputLine_eq_lead_append (Declaration.signature_ne_nil _ _)]
  exact emission_of_method read _ _

/-- The behaviour does not matter to an output line that comes from no method with a stream. -/
theorem getElem?_body_of_still (options : Options) {lines : List Text} {position : Nat}
    (still : ∀ entry, (keptLines options lines)[position]? = some entry →
      declaresStream entry.1 = false) (version : SyntaxVersion) (behavior : StreamBehavior) :
    (bodyLines { options with stream := behavior } version lines ++
        closingLines lines)[position]? =
      (bodyLines options version lines ++ closingLines lines)[position]? := by
  have same : keptLines { options with stream := behavior } lines = keptLines options lines := rfl
  cases kept : (keptLines options lines)[position]? with
  | some entry =>
    rw [getElem?_body options kept, getElem?_body _ (same ▸ kept), outputLine, outputLine,
      renderAlone, renderAlone, emission_of_not_declaresStream (still entry kept)]
  | none =>
    rw [getElem?_body_of_none options kept, getElem?_body_of_none _ (same ▸ kept), same]

/-- A schema declares a stream exactly if one of its kept lines does. -/
theorem any_declaresStream_iff (options : Options) (lines : List Text) :
    lines.any declaresStream = true ↔ ∃ (position : Nat) (entry : Text × Nat),
      (keptLines options lines)[position]? = some entry ∧ declaresStream entry.1 = true := by
  constructor
  · intro somewhere
    obtain ⟨line, member, streams⟩ := List.any_eq_true.mp somewhere
    obtain ⟨index, found⟩ := List.mem_iff_getElem?.mp member
    have kept : (line, index) ∈ keptLines options lines :=
      mem_keptLines_iff.mpr ⟨found, isLeftOut_of_declaresStream options streams⟩
    obtain ⟨position, placed⟩ := List.mem_iff_getElem?.mp kept
    exact ⟨position, (line, index), placed, streams⟩
  · rintro ⟨position, ⟨line, index⟩, placed, streams⟩
    have found := (mem_keptLines_iff.mp (List.mem_of_getElem? placed)).1
    exact List.any_eq_true.mpr ⟨line, List.mem_of_getElem? found, streams⟩

/-- Without streams written there is no import. -/
theorem importLines_strip (lines : List Text) : importLines .strip lines = [] := ite_self _

/-- Without a stream there is no import. -/
theorem importLines_of_none (behavior : StreamBehavior) {lines : List Text}
    (none : ¬lines.any declaresStream = true) : importLines behavior lines = [] := if_neg none

/-- With a stream the import depends on the behaviour alone. -/
theorem importLines_of_any (behavior : StreamBehavior) {lines : List Text}
    (some : lines.any declaresStream = true) :
    importLines behavior lines = match behavior with
      | .strip => []
      | .native => ["import Stream from 'stream'".toList, []]
      | .generic => ["import Stream from 'ts-stream'".toList, []] := if_pos some

/-- **The three stream behaviours differ in signatures with streams alone.** Apart from the import
the documents have as many lines; a line that comes from a method with a stream is, after the same
lead, the signature of the method without streams, the one with the bare stream type, and the one
with the stream type over the message; every other line is the same. The import stands before them
exactly if the stream type is written and a line of the schema declares a stream, and then some
line of the output is a signature with a stream. -/
theorem documents_differ_in_streams_only (keepComments stripEmptyLines : Bool) (text : Text) :
    let options (behavior : StreamBehavior) : Options := ⟨keepComments, behavior, stripEmptyLines⟩
    let lines := text.lines
    let kept := keptLines (options .strip) lines
    let body (behavior : StreamBehavior) : List Text :=
      bodyLines (options behavior) (SyntaxVersion.detect text) lines ++ closingLines lines
    let streams (line : Text) (method : Method) : Prop :=
      Method.ofLine? line = some method ∧
        (method.request.streamed = true ∨ method.response.streamed = true)
    let imported : Prop := ∃ line ∈ lines, ∃ method, streams line method
    ((documentLines (options .strip) text).1 = body .strip ∧
      (imported → (documentLines (options .native) text).1 =
        "import Stream from 'stream'".toList :: [] :: body .native) ∧
      (imported → (documentLines (options .generic) text).1 =
        "import Stream from 'ts-stream'".toList :: [] :: body .generic) ∧
      (¬imported → ∀ behavior, (documentLines (options behavior) text).1 = body behavior)) ∧
    (imported ↔ ∃ (position : Nat) (entry : Text × Nat) (method : Method),
      kept[position]? = some entry ∧ streams entry.1 method) ∧
    (∀ behavior, (body behavior).length = (body .strip).length) ∧
    (∀ (position : Nat) (entry : Text × Nat) (method : Method),
      kept[position]? = some entry → streams entry.1 method →
      (body .strip)[position]? =
        some (leadOf lines entry ++ Declaration.signature .strip method.withoutStreams) ∧
      (body .native)[position]? =
        some (leadOf lines entry ++ signatureOf (Identifier.camel method.name)
          (streamParameter method.request) (streamedAs "Stream".toList method.request)
          (streamedAs "Stream".toList method.response)) ∧
      (body .generic)[position]? =
        some (leadOf lines entry ++ signatureOf (Identifier.camel method.name)
          (streamParameter method.request)
          (streamedAs (streamOver method.request.type) method.request)
          (streamedAs (streamOver method.response.type) method.response))) ∧
    (∀ position : Nat,
      (¬∃ (entry : Text × Nat) (method : Method),
        kept[position]? = some entry ∧ streams entry.1 method) →
        ∀ behavior, (body behavior)[position]? = (body .strip)[position]?) := by
  intro options lines kept body streams imported
  have seen : imported ↔ lines.any declaresStream = true := by
    simp only [List.any_eq_true, declaresStream_iff]
    exact Iff.rfl
  have placed (behavior : StreamBehavior) :
      (documentLines (options behavior) text).1 =
        importLines behavior lines ++ body behavior := by
    rw [documentLines_eq]
  refine ⟨⟨?_, ?_, ?_, ?_⟩, ?_, ?_, ?_, ?_⟩
  · rw [placed, importLines_strip, List.nil_append]
  · intro some
    rw [placed, importLines_of_any .native (seen.mp some)]
    rfl
  · intro some
    rw [placed, importLines_of_any .generic (seen.mp some)]
    rfl
  · intro none behavior
    rw [placed, importLines_of_none behavior (fun any => none (seen.mpr any)), List.nil_append]
  · rw [seen, any_declaresStream_iff (options .strip)]
    simp only [declaresStream_iff, exists_and_left]
    exact Iff.rfl
  · intro behavior
    rw [List.length_append, List.length_append, bodyLines, bodyLines, List.length_map,
      List.length_map]
    rfl
  · intro position entry method place streaming
    have placeIn (behavior : StreamBehavior) :
        (keptLines (options behavior) lines)[position]? = some entry := place
    rw [Declaration.signature_withoutStreams, ← Declaration.signature_native,
      ← Declaration.signature_generic]
    exact ⟨getElem?_body_of_method (options .strip) (placeIn .strip) streaming.1 _,
      getElem?_body_of_method (options .native) (placeIn .native) streaming.1 _,
      getElem?_body_of_method (options .generic) (placeIn .generic) streaming.1 _⟩
  · intro position still behavior
    apply getElem?_body_of_still (options .strip)
    intro entry place
    rw [← Bool.not_eq_true, declaresStream_iff]
    rintro ⟨method, streaming⟩
    exact still ⟨entry, method, place, streaming⟩

end ProtoInterfaces
