import ProtoInterfaces.Proofs.Rendering.Streams

/-!
# What a signature tells

Where a stream is written as the stream type over its message, the signature of a method can be read
back: its name up to camel case, the types of what it takes and returns, and which of them are
streams. No type of a schema holds the brackets of the stream type, so a type called like it is not
taken for a stream, and names that are empty in camel case leave the punctuation where it was.
-/
namespace ProtoInterfaces

/-- The payload that a type was written for: a stream exactly if the stream type stands over it. -/
def Payload.ofWritten (written : Text) : Payload :=
  match Text.after? "Stream<".toList written with
  | some rest => ⟨rest.dropLast, true⟩
  | none => ⟨written, false⟩

/-- The method that a signature was written for, with the name that it has there. -/
def Method.ofSignature (signature : Text) : Method :=
  let (name, parameter) := Text.cut ' ' signature
  let (_, types) := Text.cut ':' parameter
  let (request, response) := Text.cut ')' types
  ⟨name, .ofWritten (request.drop 1), .ofWritten (response.drop 2)⟩

/-- The payload is read back from the type that is written for it. -/
theorem Payload.ofWritten_streamedAs {payload : Payload}
    (named : ∀ c ∈ payload.type, isTypeCharacter c = true) :
    ofWritten (streamedAs (streamOver payload.type) payload) = payload := by
  obtain ⟨type, streamed⟩ := payload
  cases streamed with
  | true =>
    have opened : Text.after? "Stream<".toList (streamOver type) = some (type ++ ['>']) :=
      Text.after?_eq_some_iff.mpr (List.append_assoc ..)
    change ofWritten (streamOver type) = _
    rw [ofWritten, opened]
    simp
  | false =>
    -- A type that began like the stream type would hold its bracket.
    have bare : Text.after? "Stream<".toList type = none := by
      refine Option.eq_none_iff_forall_ne_some.mpr fun rest begins => ?_
      have bracket : '<' ∈ type := by
        rw [Text.after?_eq_some_iff.mp begins]
        exact List.mem_append_left rest (by decide)
      exact Text.not_mem_of_class named (by decide) bracket
    change ofWritten type = _
    rw [ofWritten, bare]

/-- The type that is written for a payload holds nothing but its type and the stream type. -/
theorem not_mem_streamedAs {payload : Payload}
    (named : ∀ c ∈ payload.type, isTypeCharacter c = true) {c : Char}
    (unnamed : isTypeCharacter c = false) (other : c ∉ streamOver []) :
    c ∉ streamedAs (streamOver payload.type) payload := by
  have absent := Text.not_mem_of_class named unnamed
  unfold streamOver at other
  unfold streamedAs streamOver
  split
  · simp only [List.append_nil, List.mem_append, not_or] at other ⊢
    exact ⟨⟨other.1, absent⟩, other.2⟩
  · exact absent

/-- The parts of a signature are read from it if none of them holds what stands behind it. -/
theorem Method.ofSignature_signatureOf {name parameter request : Text} (response : Text)
    (solid : ' ' ∉ name) (alone : ':' ∉ parameter) (enclosed : ')' ∉ request) :
    ofSignature (signatureOf name parameter request response) =
      ⟨name, .ofWritten request, .ofWritten response⟩ := by
  have parted : signatureOf name parameter request response =
      name ++ ' ' :: (('(' :: parameter) ++ ':' :: ((' ' :: request) ++ ')' :: ':' :: ' ' ::
        response)) := by
    simp [signatureOf]
  have afterName := Text.cut_append_cons solid
  have afterParameter (rest : Text) :
      Text.cut ':' ('(' :: parameter ++ ':' :: rest) = ('(' :: parameter, rest) :=
    Text.cut_append_cons (by simp [alone]) rest
  have afterRequest (rest : Text) :
      Text.cut ')' (' ' :: request ++ ')' :: rest) = (' ' :: request, rest) :=
    Text.cut_append_cons (by simp [enclosed]) rest
  simp only [parted, ofSignature, afterName, afterParameter, afterRequest]
  rfl

/-- A signature with stream types is read back as its method, the name in camel case. -/
theorem Method.ofSignature_signature {method : Method} (named : method.Named) :
    ofSignature (Declaration.signature .generic method) =
      { method with name := Identifier.camel method.name } := by
  have solid : ' ' ∉ Identifier.camel method.name :=
    Identifier.not_mem_camel named.name (by decide) (by decide)
  have converted : ':' ∉ Identifier.camel method.request.type :=
    Identifier.not_mem_camel named.request (by decide) (by decide)
  have alone : ':' ∉ streamParameter method.request := by
    rw [streamParameter, List.mem_append, not_or]
    refine ⟨converted, ?_⟩
    split <;> decide
  have enclosed : ')' ∉ streamedAs (streamOver method.request.type) method.request :=
    not_mem_streamedAs named.request (by decide) (by decide)
  rw [Declaration.signature_generic, ofSignature_signatureOf _ solid alone enclosed,
    Payload.ofWritten_streamedAs named.request, Payload.ofWritten_streamedAs named.response]

/-- **Signatures with stream types keep what a method takes and returns**: they are read back as the
methods of their lines, but for the camel case of the names, and so two of them are the same exactly
if the names are the same in camel case, and the types and the streams on both sides. -/
theorem generic_signature_tells_method {line other : Text} {method second : Method}
    (read : Method.ofLine? line = some method) (alsoRead : Method.ofLine? other = some second) :
    Method.ofSignature (Declaration.signature .generic method) =
        { method with name := Identifier.camel method.name } ∧
      (Declaration.signature .generic method = Declaration.signature .generic second ↔
        Identifier.camel method.name = Identifier.camel second.name ∧
          method.request.type = second.request.type ∧
          method.request.streamed = second.request.streamed ∧
          method.response.type = second.response.type ∧
          method.response.streamed = second.response.streamed) := by
  have back := Method.ofSignature_signature (Method.of_ofLine? read).1
  have alsoBack := Method.ofSignature_signature (Method.of_ofLine? alsoRead).1
  refine ⟨back, ?_, ?_⟩
  · intro same
    rw [← same, back] at alsoBack
    simp only [Method.mk.injEq] at alsoBack
    obtain ⟨name, request, response⟩ := alsoBack
    exact ⟨name, congrArg _ request, congrArg _ request, congrArg _ response, congrArg _ response⟩
  · rintro ⟨name, requestType, requestStreamed, responseType, responseStreamed⟩
    have request : method.request = second.request :=
      congrArg₂ Payload.mk requestType requestStreamed
    have response : method.response = second.response :=
      congrArg₂ Payload.mk responseType responseStreamed
    rw [Declaration.signature_generic, Declaration.signature_generic, name, request, response]

/-- Methods whose names are empty in camel case: two spellings of one that takes a stream of a type
without letters and returns a type called like the stream type, and one that returns a stream of
these. -/
theorem signatures_of_nameless_methods :
    let line : Text := "rpc _ (stream .) returns (Stream);".toList
    let respelt : Text := "\trpc __(stream  .)returns( Stream ) \x7b\x7d // none".toList
    let streaming : Text := "rpc _ (stream .) returns (stream Stream);".toList
    let method : Method := ⟨['_'], ⟨['.'], true⟩, ⟨"Stream".toList, false⟩⟩
    let second : Method := { method with name := ['_', '_'] }
    let third : Method := { method with response := ⟨"Stream".toList, true⟩ }
    Method.ofLine? line = some method ∧ Method.ofLine? respelt = some second ∧
      Method.ofLine? streaming = some third ∧
      Declaration.signature .generic method = " (Stream: Stream<.>): Stream".toList ∧
      Method.ofSignature (Declaration.signature .generic method) = { method with name := [] } ∧
      Declaration.signature .generic method = Declaration.signature .generic second ∧
      Declaration.signature .generic method ≠ Declaration.signature .generic third := by
  intro line respelt streaming method second third
  have read : Method.ofLine? line = some method := by decide +kernel
  have respeltRead : Method.ofLine? respelt = some second := by decide +kernel
  have streamingRead : Method.ofLine? streaming = some third := by decide +kernel
  obtain ⟨back, same⟩ := generic_signature_tells_method read respeltRead
  obtain ⟨_, differs⟩ := generic_signature_tells_method read streamingRead
  refine ⟨read, respeltRead, streamingRead, by decide +kernel, back, same.mpr (by decide +kernel),
    fun equal => ?_⟩
  have streams := (differs.mp equal).2.2.2.2
  contradiction

end ProtoInterfaces
