import ProtoInterfaces.Proofs.Text.Wording
import ProtoInterfaces.Proofs.Text.Words
import ProtoInterfaces.Schema.Method

/-!
# Complete method declarations

A method line is taken apart into its name, what the method takes and returns in parentheses, the
blanks between them and what may end the line. A method is read exactly from the lines that are put
together so, and a line can be taken apart into the parts of one method only. Two words stand in the
parentheses of a stream and one in all others, so a type is never mistaken for the word `stream`.
-/
namespace ProtoInterfaces

/-! ## Payloads -/

/-- The parts of what a method takes or returns, as a line has it in parentheses. -/
structure PayloadDeclaration where
  /-- Blanks after the opening parenthesis. -/
  lead : Text
  /-- The blanks after the word `stream`, if it stands before the type. -/
  stream : Option Text
  /-- The type. -/
  type : Text
  /-- Blanks before the closing parenthesis. -/
  trail : Text
  leadBlank : ∀ c ∈ lead, isBlank c = true
  streamGap : ∀ gap ∈ stream, gap ≠ [] ∧ ∀ c ∈ gap, isBlank c = true
  typeHolds : type ≠ []
  typeNamed : ∀ c ∈ type, isTypeCharacter c = true
  trailBlank : ∀ c ∈ trail, isBlank c = true

namespace PayloadDeclaration

/-- The word `stream` as a text, with the blanks after it. -/
def streamText (declaration : PayloadDeclaration) : Text :=
  match declaration.stream with
  | some gap => "stream".toList ++ gap
  | none => []

/-- What stands in the parentheses. -/
def inner (declaration : PayloadDeclaration) : Text :=
  declaration.lead ++ (declaration.streamText ++ (declaration.type ++ declaration.trail))

/-- The declaration as a text. -/
def text (declaration : PayloadDeclaration) : Text := '(' :: (declaration.inner ++ [')'])

/-- The payload that is declared. -/
def payload (declaration : PayloadDeclaration) : Payload :=
  ⟨declaration.type, declaration.stream.isSome⟩

variable (declaration : PayloadDeclaration)

/-- What stands behind the blanks in the parentheses begins with none. -/
theorem solid_typed (rest : Text) :
    ∀ c ∈ (declaration.streamText ++ (declaration.type ++ rest)).head?, isBlank c = false := by
  unfold streamText
  cases declaration.stream with
  | none =>
    exact Text.head?_append_of_ne_nil declaration.typeHolds
      (Text.solid_of_named declaration.typeNamed) _
  | some gap =>
    rw [List.append_assoc]
    exact Text.head?_append_of_ne_nil (by decide) (Text.solid_of_all (by decide)) _

end PayloadDeclaration

namespace Payload

/-- A type that is read is a name, and it stands alone or behind the word `stream` and a gap. -/
theorem of_readType? {text rest : Text} {payload : Payload}
    (read : readType? text = some (payload, rest)) :
    payload.type ≠ [] ∧ (∀ c ∈ payload.type, isTypeCharacter c = true) ∧
      if payload.streamed then
        ∃ gap, gap ≠ [] ∧ (∀ c ∈ gap, isBlank c = true) ∧
          text = "stream".toList ++ (gap ++ (payload.type ++ rest))
      else text = payload.type ++ rest := by
  unfold readType? at read
  split at read
  · contradiction
  · rename_i first middle taken
    obtain ⟨rfl, firstHolds, firstNamed, firstEnds⟩ := Text.takeRun?_eq_some_iff.mp taken
    split at read
    · rename_i second last further
      obtain ⟨parted, secondHolds, secondNamed, _⟩ := Text.takeRun?_eq_some_iff.mp further
      split at read
      · rename_i word
        obtain ⟨rfl, rfl⟩ := Prod.mk.inj (Option.some.inj read)
        obtain ⟨⟨gap, rfl, blanks⟩, _⟩ := Text.skipBlanks_eq_iff.mp parted
        refine ⟨secondHolds, secondNamed, gap, ?_, blanks, by rw [word]⟩
        -- Without a gap the first word would not have ended where it did.
        rintro rfl
        obtain ⟨c, others, rfl⟩ := List.exists_cons_of_ne_nil secondHolds
        exact Text.ne_of_class (secondNamed c List.mem_cons_self) (firstEnds c rfl) rfl
      · obtain ⟨rfl, rfl⟩ := Prod.mk.inj (Option.some.inj read)
        exact ⟨firstHolds, firstNamed, rfl⟩
    · obtain ⟨rfl, rfl⟩ := Prod.mk.inj (Option.some.inj read)
      exact ⟨firstHolds, firstNamed, rfl⟩

/-- A type before a closing parenthesis is read with the word `stream` before it, if that stands
there. -/
theorem readType?_append (declaration : PayloadDeclaration) (more : Text) :
    readType? (declaration.streamText ++ (declaration.type ++ (declaration.trail ++ ')' :: more))) =
      some (declaration.payload, declaration.trail ++ ')' :: more) := by
  have typeEnds : ∀ c ∈ (declaration.trail ++ ')' :: more).head?, isTypeCharacter c = false :=
    Text.head?_append_cons_of (Text.unnamed_of_blanks declaration.trailBlank) (by decide) more
  have typed := Text.takeRun?_eq_some_iff.mpr
    ⟨rfl, declaration.typeHolds, declaration.typeNamed, typeEnds⟩
  rw [PayloadDeclaration.streamText, PayloadDeclaration.payload]
  cases declared : declaration.stream with
  | none =>
    have skipped := Text.skipBlanks_append declaration.trailBlank (by decide : isBlank ')' = false)
      more
    have alone : Text.takeRun? isTypeCharacter (')' :: more) = none := by
      apply Text.takeRun?_eq_none
      intro c first
      obtain rfl := Option.some.inj first
      decide
    rw [List.nil_append, readType?, typed]
    simp only [skipped, alone]
    rfl
  | some gap =>
    obtain ⟨filled, blanks⟩ := declaration.streamGap gap declared
    have word : Text.takeRun? isTypeCharacter ("stream".toList ++
        (gap ++ (declaration.type ++ (declaration.trail ++ ')' :: more)))) =
        some ("stream".toList, gap ++ (declaration.type ++ (declaration.trail ++ ')' :: more))) :=
      Text.takeRun?_eq_some_iff.mpr ⟨rfl, by decide, List.all_eq_true.mp (by decide),
        Text.head?_append_of_ne_nil filled (Text.unnamed_of_blanks blanks) _⟩
    have skipped : Text.skipBlanks (gap ++ (declaration.type ++ (declaration.trail ++ ')' :: more))) =
        declaration.type ++ (declaration.trail ++ ')' :: more) :=
      Text.skipBlanks_append_of_solid blanks declaration.typeHolds
        (Text.solid_of_named declaration.typeNamed) _
    rw [List.append_assoc, readType?, word]
    simp only [skipped, typed, if_true]
    rfl

/-- A payload is read exactly if the text begins with its declaration. -/
theorem read?_eq_some_iff {text rest : Text} {payload : Payload} :
    read? text = some (payload, rest) ↔ ∃ declaration : PayloadDeclaration,
      text = declaration.text ++ rest ∧ payload = declaration.payload := by
  simp only [read?, bind, pure, Option.bind_eq_some_iff, Text.after?_eq_some_iff, Prod.exists,
    Option.some.injEq, Prod.mk.injEq]
  constructor
  · rintro ⟨opened, rfl, ⟨type, streamed⟩, inside, typed, closed, closes, rfl, rfl⟩
    obtain ⟨holds, named, parted⟩ := of_readType? typed
    obtain ⟨⟨trail, rfl, trailBlank⟩, _⟩ := Text.skipBlanks_eq_iff.mp closes
    cases streamed with
    | false =>
      obtain ⟨⟨lead, rfl, leadBlank⟩, _⟩ := Text.skipBlanks_eq_iff.mp parted
      refine ⟨⟨lead, none, type, trail, leadBlank, (fun _ found => nomatch found), holds, named,
        trailBlank⟩, ?_, rfl⟩
      simp [PayloadDeclaration.text, PayloadDeclaration.inner, PayloadDeclaration.streamText]
    | true =>
      obtain ⟨gap, filled, blanks, parted⟩ := parted
      obtain ⟨⟨lead, rfl, leadBlank⟩, _⟩ := Text.skipBlanks_eq_iff.mp parted
      refine ⟨⟨lead, some gap, type, trail, leadBlank, ?_, holds, named, trailBlank⟩, ?_, rfl⟩
      · rintro _ ⟨⟩
        exact ⟨filled, blanks⟩
      · simp [PayloadDeclaration.text, PayloadDeclaration.inner, PayloadDeclaration.streamText]
  · rintro ⟨declaration, rfl, rfl⟩
    let typed := declaration.streamText ++ (declaration.type ++ (declaration.trail ++ ')' :: rest))
    have skipped : Text.skipBlanks (declaration.lead ++ typed) = typed :=
      Text.skipBlanks_eq_iff.mpr ⟨⟨_, rfl, declaration.leadBlank⟩, declaration.solid_typed _⟩
    refine ⟨declaration.lead ++ typed, ?_, declaration.payload, declaration.trail ++ ')' :: rest, ?_,
      rest, ?_, rfl, rfl⟩
    · simp [PayloadDeclaration.text, PayloadDeclaration.inner, typed]
    · rw [skipped]
      exact readType?_append declaration rest
    · exact Text.skipBlanks_append declaration.trailBlank (by decide) rest

end Payload

/-! ## What may end a method line -/

/-- An empty body in braces, a semicolon, or nothing. -/
inductive IsMethodBody : Text → Prop
  /-- No body. -/
  | none : IsMethodBody []
  /-- A semicolon in the place of a body. -/
  | semicolon : IsMethodBody [';']
  /-- A body of blanks. -/
  | block {gap : Text} (blanks : ∀ c ∈ gap, isBlank c = true) : IsMethodBody ('{' :: (gap ++ ['}']))

/-- A comment that goes on to the end of its line, or nothing. -/
inductive IsTrailingComment : Text → Prop
  /-- No comment. -/
  | none : IsTrailingComment []
  /-- A comment. -/
  | comment {content : Text} (unfed : '\n' ∉ content) : IsTrailingComment ('/' :: '/' :: content)

/-- The parts of what may end a method line. -/
structure MethodEnding where
  /-- Blanks before the body. -/
  lead : Text
  /-- The body. -/
  body : Text
  /-- Blanks before the semicolon. -/
  space : Text
  /-- The semicolon, if there is one. -/
  semicolon : Text
  /-- Blanks before the comment. -/
  gap : Text
  /-- The comment. -/
  comment : Text
  /-- A last line feed, if there is one. -/
  feed : Text
  leadBlank : ∀ c ∈ lead, isBlank c = true
  bodyShape : IsMethodBody body
  spaceBlank : ∀ c ∈ space, isBlank c = true
  semicolonShape : semicolon = [] ∨ semicolon = [';']
  gapBlank : ∀ c ∈ gap, isBlank c = true
  commentShape : IsTrailingComment comment
  feedShape : feed = [] ∨ feed = ['\n']

namespace MethodEnding

/-- What stands behind the semicolon. -/
def remark (ending : MethodEnding) : Text := ending.gap ++ (ending.comment ++ ending.feed)

/-- What stands behind the body. -/
def afterBody (ending : MethodEnding) : Text := ending.space ++ (ending.semicolon ++ ending.remark)

/-- The ending as a text. -/
def text (ending : MethodEnding) : Text := ending.lead ++ (ending.body ++ ending.afterBody)

variable (ending : MethodEnding)

/-- Behind the semicolon, blanks set aside, stands a comment or nothing. -/
theorem isComment_remark : Method.isComment ending.remark.skipBlanks = true ∧
    ∀ c ∈ ending.remark.skipBlanks.head?, c = '/' := by
  have shape := ending.commentShape
  unfold remark
  generalize ending.comment = comment at shape ⊢
  cases shape with
  | none =>
    have blanks : ∀ c ∈ ending.gap ++ ([] ++ ending.feed), isBlank c = true := by
      intro c member
      rcases List.mem_append.mp member with gap | feed
      · exact ending.gapBlank c gap
      · rcases ending.feedShape with none | one
        · simp [none] at feed
        · obtain rfl : c = '\n' := by simpa [one] using feed
          decide
    have skipped : Text.skipBlanks (ending.gap ++ ([] ++ ending.feed)) = [] :=
      Text.skipBlanks_eq_iff.mpr ⟨⟨_, (List.append_nil _).symm, blanks⟩, by simp⟩
    rw [skipped]
    exact ⟨rfl, by simp⟩
  | comment unfed =>
    rename_i content
    have skipped := Text.skipBlanks_append ending.gapBlank (by decide : isBlank '/' = false)
      ('/' :: (content ++ ending.feed))
    have last : (content ++ ending.feed).dropWhile (fun c => c ≠ '\n') = ending.feed := by
      refine (Text.span_append (fun c member => ?_) (fun c first => ?_)).2
      · exact decide_eq_true fun same => unfed (same ▸ member)
      · rcases ending.feedShape with none | one
        · simp [none] at first
        · obtain rfl : '\n' = c := by simpa [one] using first
          rfl
    simp only [List.cons_append, skipped]
    refine ⟨?_, by simp⟩
    simp only [Method.isComment, last]
    rcases ending.feedShape with none | one
    · rw [none]
    · rw [one]

/-- A comment or nothing is left as it is where a body or a semicolon may stand. -/
theorem drop_eq_self {text : Text} (slashed : ∀ c ∈ text.head?, c = '/') :
    Method.dropBody text = text ∧ Method.dropSemicolon text = text := by
  cases text with
  | nil => exact ⟨rfl, rfl⟩
  | cons c rest =>
    obtain rfl := slashed c rfl
    exact ⟨rfl, rfl⟩

/-- What stands behind the body is read up to the comment. -/
theorem skipBlanks_dropSemicolon :
    (Method.dropSemicolon ending.afterBody.skipBlanks).skipBlanks = ending.remark.skipBlanks := by
  rw [afterBody, Text.skipBlanks_gap_append ending.spaceBlank]
  rcases ending.semicolonShape with none | one
  · rw [none, List.nil_append, (drop_eq_self ending.isComment_remark.2).2,
      Text.skipBlanks_skipBlanks]
  · rw [one]
    rfl

/-- The whole ending is read up to the comment. -/
theorem skipBlanks_dropBody :
    (Method.dropSemicolon (Method.dropBody ending.text.skipBlanks).skipBlanks).skipBlanks =
      ending.remark.skipBlanks := by
  have shape := ending.bodyShape
  rw [text, Text.skipBlanks_gap_append ending.leadBlank]
  generalize ending.body = body at shape ⊢
  cases shape with
  | none =>
    have plain := drop_eq_self ending.isComment_remark.2
    rw [List.nil_append, afterBody, Text.skipBlanks_gap_append ending.spaceBlank]
    -- A single semicolon is taken in the place of the body and not behind it.
    rcases ending.semicolonShape with none | one
    · rw [none, List.nil_append, plain.1, Text.skipBlanks_skipBlanks, plain.2,
        Text.skipBlanks_skipBlanks]
    · have skipped : Text.skipBlanks ([';'] ++ ending.remark) = ';' :: ending.remark := rfl
      have dropped : Method.dropBody (';' :: ending.remark) = ending.remark := rfl
      rw [one, skipped, dropped, plain.2, Text.skipBlanks_skipBlanks]
  | semicolon => exact ending.skipBlanks_dropSemicolon
  | block blanks =>
    rename_i gap
    have closed := Text.skipBlanks_append blanks (by decide : isBlank '}' = false) ending.afterBody
    have dropped : Method.dropBody ('{' :: (gap ++ '}' :: ending.afterBody)) = ending.afterBody := by
      simp only [Method.dropBody, closed]
    have whole : Text.skipBlanks ('{' :: (gap ++ ['}']) ++ ending.afterBody) =
        '{' :: (gap ++ '}' :: ending.afterBody) := by
      rw [List.cons_append, List.append_assoc]
      rfl
    rw [whole, dropped, ending.skipBlanks_dropSemicolon]

end MethodEnding

namespace Method

/-- What is dropped in the place of a body is one. -/
theorem exists_dropBody (text : Text) : ∃ body, IsMethodBody body ∧ text = body ++ dropBody text := by
  unfold dropBody
  split
  · rename_i rest
    split
    · rename_i after closed
      obtain ⟨⟨gap, rfl, blanks⟩, _⟩ := Text.skipBlanks_eq_iff.mp closed
      exact ⟨_, .block blanks, by simp⟩
    · exact ⟨[], .none, rfl⟩
  · exact ⟨[';'], .semicolon, rfl⟩
  · exact ⟨[], .none, rfl⟩

/-- What is dropped in the place of a semicolon is one, or nothing. -/
theorem exists_dropSemicolon (text : Text) :
    ∃ semicolon, (semicolon = [] ∨ semicolon = [';']) ∧ text = semicolon ++ dropSemicolon text := by
  unfold dropSemicolon
  split
  · exact ⟨[';'], .inr rfl, rfl⟩
  · exact ⟨[], .inl rfl, rfl⟩

/-- A comment is followed by the end of the text or by a last line feed. -/
theorem exists_of_isComment {text : Text} (commented : isComment text = true) :
    ∃ comment feed, text = comment ++ feed ∧ IsTrailingComment comment ∧
      (feed = [] ∨ feed = ['\n']) := by
  unfold isComment at commented
  split at commented
  · exact ⟨[], [], rfl, .none, .inl rfl⟩
  · rename_i rest
    have unfed : '\n' ∉ rest.takeWhile fun c => c ≠ '\n' := by
      intro member
      simpa using Text.mem_takeWhile_inside (fun c => decide (c ≠ '\n')) rest _ member
    have parted : rest = (rest.takeWhile fun c => c ≠ '\n') ++ rest.dropWhile fun c => c ≠ '\n' :=
      List.takeWhile_append_dropWhile.symm
    refine ⟨'/' :: '/' :: rest.takeWhile fun c => c ≠ '\n', rest.dropWhile fun c => c ≠ '\n',
      ?_, .comment unfed, ?_⟩
    · rw [List.cons_append, List.cons_append, ← parted]
    · split at commented
      · rename_i ended
        exact .inl ended
      · rename_i last ended
        have outside := Text.head?_dropWhile_outside (fun c => decide (c ≠ '\n')) rest last
          (by rw [ended]; rfl)
        obtain rfl : last = '\n' := by simpa using outside
        exact .inr ended
      · contradiction
  · contradiction

/-- A text may end a method line exactly if it is put together from the parts of an ending. -/
theorem isTrailer_iff {text : Text} :
    isTrailer text = true ↔ ∃ ending : MethodEnding, ending.text = text := by
  constructor
  · intro ends
    obtain ⟨lead, lead_eq, leadBlank⟩ := Text.leaves_skipBlanks text
    obtain ⟨body, bodyShape, body_eq⟩ := exists_dropBody text.skipBlanks
    obtain ⟨space, space_eq, spaceBlank⟩ := Text.leaves_skipBlanks (dropBody text.skipBlanks)
    obtain ⟨semicolon, semicolonShape, semicolon_eq⟩ :=
      exists_dropSemicolon (dropBody text.skipBlanks).skipBlanks
    obtain ⟨gap, gap_eq, gapBlank⟩ :=
      Text.leaves_skipBlanks (dropSemicolon (dropBody text.skipBlanks).skipBlanks)
    obtain ⟨comment, feed, comment_eq, commentShape, feedShape⟩ := exists_of_isComment ends
    refine ⟨⟨lead, body, space, semicolon, gap, comment, feed, leadBlank, bodyShape, spaceBlank,
      semicolonShape, gapBlank, commentShape, feedShape⟩, ?_⟩
    rw [lead_eq, body_eq, space_eq, semicolon_eq, gap_eq, comment_eq]
    rfl
  · rintro ⟨ending, rfl⟩
    rw [isTrailer, ending.skipBlanks_dropBody]
    exact ending.isComment_remark.1

end Method

/-! ## Methods -/

/-- The parts of a method line. -/
structure MethodDeclaration where
  /-- Blanks before the method. -/
  lead : Text
  /-- Blanks between the word `rpc` and the name. -/
  gap : Text
  /-- The name. -/
  name : Text
  /-- Blanks between the name and what the method takes. -/
  space : Text
  /-- What the method takes. -/
  request : PayloadDeclaration
  /-- Blanks before the word `returns`. -/
  before : Text
  /-- Blanks after the word `returns`. -/
  after : Text
  /-- What the method returns. -/
  response : PayloadDeclaration
  /-- What ends the line. -/
  ending : MethodEnding
  leadBlank : ∀ c ∈ lead, isBlank c = true
  gapHolds : gap ≠ []
  gapBlank : ∀ c ∈ gap, isBlank c = true
  nameHolds : name ≠ []
  nameWord : ∀ c ∈ name, isWordCharacter c = true
  spaceBlank : ∀ c ∈ space, isBlank c = true
  beforeBlank : ∀ c ∈ before, isBlank c = true
  afterBlank : ∀ c ∈ after, isBlank c = true

namespace MethodDeclaration

/-- The line up to what the method takes. -/
def front (declaration : MethodDeclaration) : Text :=
  declaration.lead ++ ("rpc".toList ++ (declaration.gap ++ (declaration.name ++ declaration.space)))

/-- The line between what the method takes and what it returns. -/
def middle (declaration : MethodDeclaration) : Text :=
  declaration.before ++ ("returns".toList ++ declaration.after)

/-- The line as a text. -/
def text (declaration : MethodDeclaration) : Text :=
  declaration.front ++ (declaration.request.text ++ (declaration.middle ++
    (declaration.response.text ++ declaration.ending.text)))

/-- The method that is declared. -/
def method (declaration : MethodDeclaration) : Method :=
  ⟨declaration.name, declaration.request.payload, declaration.response.payload⟩

end MethodDeclaration

/-- **A method is read exactly from a line that is put together from its parts.** -/
theorem Method.ofLine?_eq_some_iff {line : Text} {method : Method} :
    ofLine? line = some method ↔
      ∃ declaration : MethodDeclaration, declaration.text = line ∧ declaration.method = method := by
  simp only [ofLine?, bind, Option.bind_eq_some_iff, Prod.exists, Text.after?_eq_some_iff,
    Text.skipBlanks1?_eq_some_iff, Text.takeRun?_eq_some_iff, Payload.read?_eq_some_iff]
  constructor
  · rintro ⟨_, word, _, ⟨⟨gap, gapHolds, rfl, gapBlank⟩, _⟩, name, _,
      ⟨rfl, nameHolds, nameWord, _⟩, _, _, ⟨request, takes, rfl⟩, _, returns, _, rest,
      ⟨response, gives, rfl⟩, ending⟩
    split at ending
    · rename_i ends
      obtain rfl := Option.some.inj ending
      obtain ⟨ending, rfl⟩ := isTrailer_iff.mp ends
      obtain ⟨⟨lead, rfl, leadBlank⟩, _⟩ := Text.skipBlanks_eq_iff.mp word
      obtain ⟨⟨space, rfl, spaceBlank⟩, _⟩ := Text.skipBlanks_eq_iff.mp takes
      obtain ⟨⟨before, rfl, beforeBlank⟩, _⟩ := Text.skipBlanks_eq_iff.mp returns
      obtain ⟨⟨after, rfl, afterBlank⟩, _⟩ := Text.skipBlanks_eq_iff.mp gives
      refine ⟨⟨lead, gap, name, space, request, before, after, response, ending, leadBlank,
        gapHolds, gapBlank, nameHolds, nameWord, spaceBlank, beforeBlank, afterBlank⟩, ?_, rfl⟩
      simp [MethodDeclaration.text, MethodDeclaration.front, MethodDeclaration.middle]
    · contradiction
  · rintro ⟨declaration, rfl, rfl⟩
    let fromResponse := declaration.response.text ++ declaration.ending.text
    let fromReturns := "returns".toList ++ (declaration.after ++ fromResponse)
    let fromRequest := declaration.request.text ++ (declaration.before ++ fromReturns)
    let fromName := declaration.name ++ (declaration.space ++ fromRequest)
    have whole : declaration.text =
        declaration.lead ++ ("rpc".toList ++ (declaration.gap ++ fromName)) := by
      simp [MethodDeclaration.text, MethodDeclaration.front, MethodDeclaration.middle, fromName,
        fromRequest, fromReturns, fromResponse]
    have word : declaration.text.skipBlanks = "rpc".toList ++ (declaration.gap ++ fromName) := by
      rw [whole]
      exact Text.skipBlanks_append_of_solid declaration.leadBlank (by decide)
        (Text.solid_of_all (by decide)) _
    have gapEnds : ∀ c ∈ fromName.head?, isBlank c = false :=
      Text.head?_append_of_ne_nil declaration.nameHolds
        (Text.solid_of_named (Text.named_of_word declaration.nameWord)) _
    have nameEnds : ∀ c ∈ (declaration.space ++ fromRequest).head?, isWordCharacter c = false :=
      Text.head?_append_cons_of (Text.unworded_of_blanks declaration.spaceBlank) (by decide) _
    have takes : Text.skipBlanks (declaration.space ++ fromRequest) = fromRequest :=
      Text.skipBlanks_append declaration.spaceBlank (by decide : isBlank '(' = false) _
    have returns : Text.skipBlanks (declaration.before ++ fromReturns) = fromReturns :=
      Text.skipBlanks_append_of_solid declaration.beforeBlank (by decide)
        (Text.solid_of_all (by decide)) _
    have gives : Text.skipBlanks (declaration.after ++ fromResponse) = fromResponse :=
      Text.skipBlanks_append declaration.afterBlank (by decide : isBlank '(' = false) _
    have ends : isTrailer declaration.ending.text = true := isTrailer_iff.mpr ⟨_, rfl⟩
    refine ⟨_, word, fromName, ⟨⟨_, declaration.gapHolds, rfl, declaration.gapBlank⟩, gapEnds⟩,
      declaration.name, _, ⟨rfl, declaration.nameHolds, declaration.nameWord, nameEnds⟩, _, _,
      ⟨declaration.request, takes, rfl⟩, _, returns, _, _, ⟨declaration.response, gives, rfl⟩, ?_⟩
    rw [if_pos ends]
    rfl

/-! ## Words in parentheses -/

/-- What stands in the first parentheses of a text, and what follows them. -/
def Text.parenthesized (text : Text) : Text × Text :=
  let opened := (text.dropWhile fun c => c ≠ '(').tail
  (opened.takeWhile fun c => c ≠ ')', (opened.dropWhile fun c => c ≠ ')').tail)

/-- The words that stand for a payload in its parentheses. -/
def Payload.words (payload : Payload) : List Text :=
  (if payload.streamed then ["stream".toList] else []) ++ [payload.type]

namespace PayloadDeclaration

variable (declaration : PayloadDeclaration)

/-- What stands in the parentheses is wording. -/
theorem wording_inner : Text.IsWording declaration.inner := by
  have stream : Text.IsWording declaration.streamText := by
    unfold streamText
    split
    · rename_i gap declared
      exact (Text.IsWording.of_named (List.all_eq_true.mp (by decide))).append
        (.of_blanks (declaration.streamGap gap declared).2)
    · exact .of_blanks (by simp)
  exact (Text.IsWording.of_blanks declaration.leadBlank).append
    (stream.append ((Text.IsWording.of_named declaration.typeNamed).append
      (.of_blanks declaration.trailBlank)))

/-- The words in the parentheses are those of the payload. -/
theorem words_inner : declaration.inner.words = declaration.payload.words := by
  have type : Text.words (declaration.type ++ declaration.trail) = [declaration.type] := by
    rw [Text.words_append_of_solid declaration.typeHolds (Text.solid_of_named declaration.typeNamed)
        (fun c first => declaration.trailBlank c (List.mem_of_mem_head? first)),
      Text.words_of_blanks declaration.trailBlank]
  rw [inner, Text.words_append_of_blanks declaration.leadBlank, streamText, payload]
  cases declared : declaration.stream with
  | none => exact type
  | some gap =>
    obtain ⟨filled, blanks⟩ := declaration.streamGap gap declared
    rw [List.append_assoc, Text.words_append_gap (by decide) (Text.solid_of_all (by decide)) filled
      blanks, type]
    rfl

/-- A payload behind a text without an opening parenthesis stands in the first parentheses. -/
theorem parenthesized_append {front : Text} (unopened : '(' ∉ front) (more : Text) :
    Text.parenthesized (front ++ (declaration.text ++ more)) = (declaration.inner, more) := by
  have opened : (front ++ (declaration.text ++ more)).dropWhile (fun c => c ≠ '(') =
      declaration.text ++ more := by
    refine (Text.span_append (fun c member => ?_) (fun c first => ?_)).2
    · exact decide_eq_true fun same => unopened (same ▸ member)
    · obtain rfl := Option.some.inj first
      decide
  have unclosed : ∀ c ∈ declaration.inner, decide (c ≠ ')') = true := by
    intro c member
    have absent := declaration.wording_inner.not_mem (by decide : isBlank ')' = false) (by decide)
    exact decide_eq_true fun same => absent (same ▸ member)
  have closed : (declaration.inner ++ ')' :: more).takeWhile (fun c => c ≠ ')') = declaration.inner ∧
      (declaration.inner ++ ')' :: more).dropWhile (fun c => c ≠ ')') = ')' :: more :=
    Text.span_append unclosed (by simp)
  have inside : (declaration.text ++ more).tail = declaration.inner ++ ')' :: more := by
    simp [text]
  rw [Text.parenthesized, opened, inside, closed.1, closed.2]
  rfl

end PayloadDeclaration

namespace MethodDeclaration

variable (declaration : MethodDeclaration)

/-- No parenthesis stands before what the method takes. -/
theorem wording_front : Text.IsWording declaration.front := by
  have word : Text.IsWording "rpc".toList := .of_named (List.all_eq_true.mp (by decide))
  have name := (Text.IsWording.of_word declaration.nameWord).append
    (.of_blanks declaration.spaceBlank)
  exact (Text.IsWording.of_blanks declaration.leadBlank).append
    (word.append ((Text.IsWording.of_blanks declaration.gapBlank).append name))

/-- No parenthesis stands between what the method takes and what it returns. -/
theorem wording_middle : Text.IsWording declaration.middle := by
  have word : Text.IsWording "returns".toList := .of_named (List.all_eq_true.mp (by decide))
  exact (Text.IsWording.of_blanks declaration.beforeBlank).append
    (word.append (.of_blanks declaration.afterBlank))

end MethodDeclaration

/-- **A line declares a method exactly if it is put together from the parts of one, and from those
of one method only.** The words in the first parentheses are those of what the method takes, and the
words in the second of what it returns: a type that stands alone is none but the type, also if it
reads or begins like the word `stream`. -/
theorem method_read_iff_put_together (line : Text) :
    (∀ method, Method.ofLine? line = some method ↔
      ∃ declaration : MethodDeclaration, declaration.text = line ∧ declaration.method = method) ∧
    (∀ declaration other : MethodDeclaration, declaration.text = line → other.text = line →
      declaration.method = other.method) ∧
    ∀ method, Method.ofLine? line = some method →
      line.parenthesized.1.words = method.request.words ∧
        line.parenthesized.2.parenthesized.1.words = method.response.words := by
  refine ⟨fun method => Method.ofLine?_eq_some_iff, ?_, ?_⟩
  · intro declaration other whole alsoWhole
    have read := Method.ofLine?_eq_some_iff.mpr ⟨declaration, whole, rfl⟩
    have alsoRead := Method.ofLine?_eq_some_iff.mpr ⟨other, alsoWhole, rfl⟩
    exact Option.some.inj (read.symm.trans alsoRead)
  · intro method read
    obtain ⟨declaration, rfl, rfl⟩ := Method.ofLine?_eq_some_iff.mp read
    have first := declaration.request.parenthesized_append
      (declaration.wording_front.not_mem (by decide) (by decide))
      (declaration.middle ++ (declaration.response.text ++ declaration.ending.text))
    have second := declaration.response.parenthesized_append
      (declaration.wording_middle.not_mem (by decide) (by decide)) declaration.ending.text
    rw [MethodDeclaration.text, first, second]
    exact ⟨declaration.request.words_inner, declaration.response.words_inner⟩

/-- The word `stream` is read as what it is in each of its places: the name of a method, a type, the
mark of a stream and the beginning of a type. -/
theorem streams_told_apart :
    let line : Text :=
      "\trpc stream(stream)returns(\u00A0stream\tstreams.All )\x7b \x7d;//; \x7b\n".toList
    let method : Method := ⟨"stream".toList, ⟨"stream".toList, false⟩, ⟨"streams.All".toList, true⟩⟩
    Method.ofLine? line = some method ∧
      (∃ declaration : MethodDeclaration, declaration.text = line) ∧
      (∀ declaration : MethodDeclaration, declaration.text = line →
        declaration.method = method) ∧
      line.parenthesized.1.words = ["stream".toList] ∧
      line.parenthesized.2.parenthesized.1.words = ["stream".toList, "streams.All".toList] := by
  intro line method
  obtain ⟨read, unique, words⟩ := method_read_iff_put_together line
  have declared : Method.ofLine? line = some method := by decide
  obtain ⟨declaration, whole, same⟩ := (read method).mp declared
  refine ⟨declared, ⟨declaration, whole⟩, fun other alsoWhole => ?_, words method declared⟩
  rw [unique other declaration alsoWhole whole, same]

end ProtoInterfaces
