import ProtoInterfaces.Proofs.Text.Reading

/-!
# Words of a text

Characters of a class divide a text into runs and belong to none, blanks into words. Everything
follows from one equation: the runs of two texts with such a character between them are the runs of
the one and then those of the other.
-/
namespace ProtoInterfaces.Text

/-- A character of the dividing class between two texts divides their runs. -/
theorem runs_append_cons {separates : Char → Bool} {c : Char} (divides : separates c = true)
    (left right : Text) :
    runs separates (left ++ c :: right) = runs separates left ++ runs separates right := by
  simp only [runs, pieces, List.splitOnP_append_cons left right divides, List.filter_append]

/-- The empty text has no runs. -/
theorem runs_nil (separates : Char → Bool) : runs separates [] = [] := by
  simp [runs, pieces]

/-- A text without characters of the dividing class is one run. -/
theorem runs_of_undivided {separates : Char → Bool} {run : Text} (holds : run ≠ [])
    (undivided : ∀ c ∈ run, separates c = false) : runs separates run = [run] := by
  simp [runs, pieces, List.splitOnP_eq_singleton undivided, holds]

/-- A character of the dividing class at the beginning belongs to no run. -/
theorem runs_cons_of_divides {separates : Char → Bool} {c : Char} (divides : separates c = true)
    (text : Text) : runs separates (c :: text) = runs separates text := by
  have divided := runs_append_cons divides [] text
  rwa [runs_nil, List.nil_append, List.nil_append] at divided

/-- A character outside the dividing class is a run of its own if the text ends or is divided
after it. -/
theorem runs_cons_of_divided {separates : Char → Bool} {c : Char} (undivided : separates c = false)
    {text : Text} (divided : ∀ d ∈ text.head?, separates d = true) :
    runs separates (c :: text) = [c] :: runs separates text := by
  have single : runs separates [c] = [[c]] :=
    runs_of_undivided (List.cons_ne_nil c []) (by simpa using undivided)
  cases text with
  | nil => rw [single, runs_nil]
  | cons d text =>
    have divides : separates d = true := divided d rfl
    have parted := runs_append_cons divides [c] text
    rw [single, List.singleton_append, List.singleton_append] at parted
    rw [parted, runs_cons_of_divides divides]

/-- Two characters outside the dividing class that follow each other belong to one run. -/
theorem exists_runs_cons_cons {separates : Char → Bool} {c d : Char}
    (undivided : separates c = false) (alsoUndivided : separates d = false) (text : Text) :
    ∃ run others, runs separates (d :: text) = (d :: run) :: others ∧
      runs separates (c :: d :: text) = (c :: d :: run) :: others := by
  obtain ⟨first, others, parted⟩ :=
    List.exists_cons_of_ne_nil (List.splitOnP_ne_nil separates text)
  refine ⟨first, others.filter fun piece => !piece.isEmpty, ?_, ?_⟩
  · simp [runs, pieces, List.splitOnP_cons_eq_if_modifyHead, alsoUndivided, parted]
  · simp [runs, pieces, List.splitOnP_cons_eq_if_modifyHead, undivided, alsoUndivided, parted]

/-- A blank between two texts divides their words. -/
theorem words_append_blank {c : Char} (blank : isBlank c = true) (left right : Text) :
    words (left ++ c :: right) = words left ++ words right :=
  runs_append_cons blank left right

/-- The empty text has no words. -/
theorem words_nil : words [] = [] := runs_nil isBlank

/-- A blank at the beginning belongs to no word. -/
theorem words_cons_blank {c : Char} (blank : isBlank c = true) (text : Text) :
    words (c :: text) = words text :=
  runs_cons_of_divides blank text

/-- Blanks at the beginning belong to no word. -/
theorem words_append_of_blanks {lead : Text} (blanks : ∀ c ∈ lead, isBlank c = true)
    (text : Text) : words (lead ++ text) = words text := by
  induction lead with
  | nil => rfl
  | cons c lead ih =>
    rw [List.cons_append, words_cons_blank (blanks c List.mem_cons_self)]
    exact ih fun d member => blanks d (List.mem_cons_of_mem _ member)

/-- Blanks alone are no words. -/
theorem words_of_blanks {lead : Text} (blanks : ∀ c ∈ lead, isBlank c = true) :
    words lead = [] := by
  rw [← List.append_nil lead, words_append_of_blanks blanks, words_nil]

/-- Skipping blanks keeps the words. -/
theorem words_skipBlanks (text : Text) : words text.skipBlanks = words text := by
  obtain ⟨lead, parted, blanks⟩ := leaves_skipBlanks text
  calc
    words text.skipBlanks = words (lead ++ text.skipBlanks) :=
      (words_append_of_blanks blanks _).symm
    _ = words text := congrArg words parted.symm

/-- A text is solid if none of its characters is blank, by going through them. -/
theorem solid_of_all {word : Text} (solid : word.all (fun c => !isBlank c) = true) :
    ∀ c ∈ word, isBlank c = false := by
  simpa using solid

/-- A text without blanks is one word. -/
theorem words_of_solid {word : Text} (holds : word ≠ [])
    (solid : ∀ c ∈ word, isBlank c = false) : words word = [word] :=
  runs_of_undivided holds solid

/-- A text without blanks that ends or is followed by a blank is the first word. -/
theorem words_append_of_solid {word rest : Text} (holds : word ≠ [])
    (solid : ∀ c ∈ word, isBlank c = false) (ends : ∀ c ∈ rest.head?, isBlank c = true) :
    words (word ++ rest) = word :: words rest := by
  cases rest with
  | nil => rw [List.append_nil, words_of_solid holds solid, words_nil]
  | cons c rest =>
    have blank : isBlank c = true := ends c rfl
    rw [words_append_blank blank, words_of_solid holds solid, words_cons_blank blank]
    rfl

/-- A text without blanks that is followed by a gap is the first word. -/
theorem words_append_gap {word gap : Text} (holds : word ≠ [])
    (solid : ∀ c ∈ word, isBlank c = false) (filled : gap ≠ [])
    (blanks : ∀ c ∈ gap, isBlank c = true) (rest : Text) :
    words (word ++ (gap ++ rest)) = word :: words rest := by
  obtain ⟨d, others, begun⟩ := List.exists_cons_of_ne_nil filled
  have divided : ∀ c ∈ (gap ++ rest).head?, isBlank c = true := by
    intro c first
    rw [begun] at first
    obtain rfl := Option.some.inj first
    exact blanks d (by simp [begun])
  rw [words_append_of_solid holds solid divided, words_append_of_blanks blanks]

/-- The first word of a text that begins with no blank runs to the next blank. -/
theorem words_cons_solid {c : Char} (solid : isBlank c = false) (text : Text) :
    words (c :: text) = (c :: text.takeWhile fun d => !isBlank d) ::
      words (text.dropWhile fun d => !isBlank d) := by
  have parted : c :: text = (c :: text.takeWhile fun d => !isBlank d) ++
      text.dropWhile fun d => !isBlank d := by
    rw [List.cons_append, List.takeWhile_append_dropWhile]
  rw [parted, words_append_of_solid (List.cons_ne_nil _ _)]
  · intro d member
    rcases List.mem_cons.mp member with rfl | later
    · exact solid
    · simpa using mem_takeWhile_inside (fun d => !isBlank d) text d later
  · intro d first
    simpa using head?_dropWhile_outside (fun d => !isBlank d) text d first

/-- A text whose blanks are skipped begins with no blank. -/
theorem head_skipBlanks {text : Text} {c : Char} {rest : Text}
    (skipped : text.skipBlanks = c :: rest) : isBlank c = false :=
  (skipBlanks_eq_iff.mp skipped).2 c rfl

/-- The first word of a text stands behind its blanks, and the others behind it. -/
theorem exists_append_of_words_eq_cons {text word : Text} {others : List Text}
    (divided : text.words = word :: others) :
    ∃ rest, text.skipBlanks = word ++ rest ∧ words rest = others ∧
      ∀ c ∈ rest.head?, isBlank c = true := by
  rw [← words_skipBlanks] at divided
  cases skipped : text.skipBlanks with
  | nil =>
    rw [skipped, words_nil] at divided
    contradiction
  | cons c later =>
    rw [skipped, words_cons_solid (head_skipBlanks skipped)] at divided
    obtain ⟨rfl, rfl⟩ := List.cons.inj divided
    refine ⟨_, ?_, rfl, ?_⟩
    · rw [List.cons_append, List.takeWhile_append_dropWhile]
    · intro d first
      simpa using head?_dropWhile_outside (fun d => !isBlank d) later d first

/-- The pieces of a text hold its characters outside the dividing class, in order. -/
theorem flatten_pieces (separates : Char → Bool) (text : Text) :
    (text.pieces separates).flatten = text.filter fun c => !separates c := by
  induction text with
  | nil => simp [pieces]
  | cons c text ih =>
    unfold pieces at ih ⊢
    rw [List.splitOnP_cons_eq_if_modifyHead]
    by_cases divides : separates c = true
    · rw [if_pos divides, List.flatten_cons, ih, List.filter_cons_of_neg (by simp [divides])]
      rfl
    · obtain ⟨first, others, parted⟩ :=
        List.exists_cons_of_ne_nil (List.splitOnP_ne_nil separates text)
      rw [parted] at ih
      rw [if_neg divides, parted, List.modifyHead_cons, List.flatten_cons, List.cons_append,
        ← List.flatten_cons, ih, List.filter_cons_of_pos (by simpa using divides)]

/-- The runs of a text hold its characters outside the dividing class, in order. -/
theorem flatten_runs (separates : Char → Bool) (text : Text) :
    (text.runs separates).flatten = text.filter fun c => !separates c := by
  rw [runs, List.flatten_filter_not_isEmpty, flatten_pieces]

/-- A character of a run stands in the text and does not divide it. -/
theorem mem_of_mem_runs {separates : Char → Bool} {text run : Text} {c : Char}
    (found : run ∈ text.runs separates) (member : c ∈ run) :
    c ∈ text ∧ separates c = false := by
  have kept : c ∈ (text.runs separates).flatten := List.mem_flatten_of_mem found member
  rw [flatten_runs, List.mem_filter] at kept
  exact ⟨kept.1, by simpa using kept.2⟩

end ProtoInterfaces.Text
