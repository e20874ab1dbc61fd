import Mathlib.Data.List.Forall2
import Mathlib.Data.List.Induction
import ProtoInterfaces.Proofs.Batch.Writing

/-!
# Command lines as they are written

A command line says what is chosen, each choice by a flag in its short or its long spelling with a
value after it if the flag takes one, and it names the files, which stand together before, between
or after the choices. It is understood as it was written whatever the order, and then it does what
its batch does: only the exit code and the report of a fault are its own.
-/
namespace ProtoInterfaces.CommandLine

/-- What may be chosen on a command line. -/
inductive Choice where
  | keepComments
  | keepEmptyLines
  | stream (behavior : StreamBehavior)
  | output (path : Text)
  deriving DecidableEq, Repr

namespace Choice

/-- The flag of a choice. -/
def flag : Choice → Flag
  | .keepComments => .keepComments
  | .keepEmptyLines => .keepEmptyLines
  | .stream _ => .streamBehavior
  | .output _ => .output

/-- The value after the flag of a choice, if there is one. -/
def value? : Choice → Option Text
  | .stream behavior => some behavior.name
  | .output path => some path
  | _ => none

/-- The stream behaviour that is chosen, if it is one. -/
def stream? : Choice → Option StreamBehavior
  | .stream behavior => some behavior
  | _ => none

/-- The path that is chosen, if it is one. -/
def path? : Choice → Option Text
  | .output path => some path
  | _ => none

end Choice

/-- A choice as it is written, with one of the two spellings of its flag. -/
structure WrittenChoice where
  /-- What is chosen. -/
  choice : Choice
  /-- Whether the flag has its short spelling. -/
  isShort : Bool
  deriving DecidableEq, Repr

namespace WrittenChoice

/-- The arguments that a choice is written as. -/
def arguments (written : WrittenChoice) : List Text :=
  (if written.isShort then written.choice.flag.short else written.choice.flag.long) ::
    written.choice.value?.toList

/-- The tokens that a choice is written as. -/
def tokens (written : WrittenChoice) : List Token :=
  .flag written.choice.flag written.isShort none :: written.choice.value?.toList.map .word

end WrittenChoice

/-- The options that choices ask for: the last stream behaviour counts, and streams of anything are
written if there is none. -/
def optionsOf (choices : List Choice) : Options where
  keepComments := decide (.keepComments ∈ choices)
  stream := (choices.filterMap Choice.stream?).getLast?.getD .native
  stripEmptyLines := decide (.keepEmptyLines ∉ choices)

/-- The output that choices ask for: the last path counts, without one renderings are printed. -/
def outputOf (choices : List Choice) : Batch.Output :=
  match (choices.filterMap Choice.path?).getLast? with
  | some path => .path path
  | none => .printed

/-! ## Tokens -/

/-- Whether a text begins with a hyphen. -/
def isHyphened (text : Text) : Bool := text.head? = some '-'

/-- An argument is read as a token, and as nothing else wherever it stands. -/
def ReadAs (argument : Text) (token : Token) : Prop :=
  argument ≠ Token.separatorText ∧ Token.ofArgument argument = .ok token

/-- A text without a hyphen at its beginning is read as a word. -/
theorem readAs_word {text : Text} (plain : isHyphened text = false) : ReadAs text (.word text) := by
  constructor
  · rintro rfl
    contradiction
  · unfold Token.ofArgument
    split
    · contradiction
    · rfl

/-- Texts without a hyphen at their beginning are read as words. -/
theorem forall₂_words {texts : List Text} (plain : ∀ text ∈ texts, isHyphened text = false) :
    List.Forall₂ ReadAs texts (texts.map .word) := by
  rw [List.forall₂_map_right_iff, List.forall₂_same]
  exact fun text member => readAs_word (plain text member)

/-- A spelling of a flag is read as that flag. -/
theorem readAs_flag (flag : Flag) (isShort : Bool) :
    ReadAs (if isShort then flag.short else flag.long) (.flag flag isShort none) := by
  cases flag <;> cases isShort <;> exact ⟨by decide, rfl⟩

/-- The name of a stream behaviour begins with no hyphen. -/
theorem isHyphened_name (behavior : StreamBehavior) : isHyphened behavior.name = false := by
  cases behavior <;> rfl

/-- A choice is read as it was written, if the output that it asks for begins with no hyphen. -/
theorem forall₂_choice (written : WrittenChoice)
    (plain : ∀ path, written.choice = .output path → isHyphened path = false) :
    List.Forall₂ ReadAs written.arguments written.tokens := by
  refine .cons (readAs_flag _ _) (forall₂_words fun text member => ?_)
  obtain ⟨choice, isShort⟩ := written
  cases choice with
  | keepComments => contradiction
  | keepEmptyLines => contradiction
  | stream behavior =>
    obtain rfl := List.mem_singleton.mp member
    exact isHyphened_name behavior
  | output path =>
    obtain rfl := List.mem_singleton.mp member
    exact plain _ rfl

/-- Choices are read as they were written one after the other. -/
theorem forall₂_choices {written : List WrittenChoice}
    (plain : ∀ path, .output path ∈ written.map WrittenChoice.choice → isHyphened path = false) :
    List.Forall₂ ReadAs (written.flatMap WrittenChoice.arguments)
      (written.flatMap WrittenChoice.tokens) := by
  induction written with
  | nil => exact .nil
  | cons first written ih =>
    have here := forall₂_choice first fun path same =>
      plain path (same ▸ List.mem_cons_self)
    have later := ih fun path member => plain path (List.mem_cons_of_mem _ member)
    exact List.rel_append here later

/-- Arguments are read one by one. -/
theorem ofArguments_of_forall₂ {arguments : List Text} {tokens : List Token}
    (read : List.Forall₂ ReadAs arguments tokens) : Token.ofArguments arguments = .ok tokens := by
  induction read with
  | nil => rfl
  | cons first _ ih => rw [Token.ofArguments, if_neg first.1, first.2, ih]

/-! ## What choices do to the progress -/

/-- The arguments with one more choice made. -/
def Arguments.choose (arguments : Arguments) : Choice → Arguments
  | .keepComments => { arguments with keepComments := true }
  | .keepEmptyLines => { arguments with keepEmptyLines := true }
  | .stream behavior => { arguments with streamBehavior := some behavior }
  | .output path => { arguments with output := .path path }

/-- The progress after a choice, which ends a block of files. -/
def Progress.choose (progress : Progress) (choice : Choice) : Progress :=
  { progress.endBlock with arguments := progress.endBlock.arguments.choose choice }

/-- **One choice** leads to the progress that it makes. -/
theorem tokens_choice (progress : Progress) (written : WrittenChoice) (rest : List Token) :
    progress.tokens (written.tokens ++ rest) = (progress.choose written.choice).tokens rest := by
  obtain ⟨choice, isShort⟩ := written
  cases choice with
  | keepComments => rfl
  | keepEmptyLines => rfl
  | stream behavior => cases behavior <;> rfl
  | output path => rfl

/-- **Several choices** lead to the progress that they make one after the other. -/
theorem tokens_choices (progress : Progress) (written : List WrittenChoice) (rest : List Token) :
    progress.tokens (written.flatMap WrittenChoice.tokens ++ rest) =
      ((written.map WrittenChoice.choice).foldl Progress.choose progress).tokens rest := by
  induction written generalizing progress with
  | nil => rfl
  | cons first written ih =>
    rw [List.flatMap_cons, List.append_assoc, tokens_choice, ih]
    rfl

/-- Choices before the files add up in the arguments and do nothing else. -/
theorem foldl_choose_of_awaited {progress : Progress} (awaited : progress.block = .awaited)
    (choices : List Choice) :
    choices.foldl Progress.choose progress =
      { progress with arguments := choices.foldl Arguments.choose progress.arguments } := by
  induction choices generalizing progress with
  | nil => rfl
  | cons choice choices ih =>
    have unended : progress.endBlock = progress := by rw [Progress.endBlock, awaited]
    have step : progress.choose choice =
        { progress with arguments := progress.arguments.choose choice } := by
      rw [Progress.choose, unended]
    rw [List.foldl_cons, ih (step ▸ awaited), step]
    rfl

/-- Choices after the files add up in what is asked for in the end. -/
theorem finish_foldl_choose (progress : Progress) (choices : List Choice) :
    (choices.foldl Progress.choose progress).finish = Progress.finish
      { progress with arguments := choices.foldl Arguments.choose progress.arguments } := by
  induction choices generalizing progress with
  | nil => rfl
  | cons choice choices ih =>
    rw [List.foldl_cons, ih]
    obtain ⟨arguments, block, leftover⟩ := progress
    cases block <;> rfl

/-- Words after the first of the files are files too. -/
theorem tokens_words {progress : Progress} {known : List Text}
    (opened : progress.block = .opened known)
    (files : List Text) (rest : List Token) :
    progress.tokens (files.map .word ++ rest) =
      Progress.tokens { progress with block := .opened (known ++ files) } rest := by
  induction files generalizing progress known with
  | nil =>
    rw [List.append_nil, ← opened]
    rfl
  | cons file files ih =>
    have step : progress.word file = { progress with block := .opened (known ++ [file]) } := by
      rw [Progress.word, opened]
    have goesOn : (progress.word file).block = .opened (known ++ [file]) := by rw [step]
    have later := ih goesOn
    rw [step, List.append_assoc] at later
    calc
      progress.tokens (.word file :: (files.map .word ++ rest)) =
          (progress.word file).tokens (files.map .word ++ rest) := rfl
      _ = Progress.tokens { progress with block := .opened (known ++ ([file] ++ files)) } rest := by
        rw [step, later]

/-- The first words are the files. -/
theorem tokens_files {progress : Progress} (awaited : progress.block = .awaited)
    {files : List Text} (named : files ≠ []) (rest : List Token) :
    progress.tokens (files.map .word ++ rest) =
      Progress.tokens { progress with block := .opened files } rest := by
  obtain ⟨file, files, rfl⟩ := List.exists_cons_of_ne_nil named
  have first : progress.word file = { progress with block := .opened [file] } := by
    rw [Progress.word, awaited]
  calc
    progress.tokens (.word file :: (files.map .word ++ rest)) =
        (progress.word file).tokens (files.map .word ++ rest) := rfl
    _ = Progress.tokens { progress with block := .opened (file :: files) } rest := by
      rw [first, tokens_words rfl]
      rfl

/-- **A command line is understood as it was written**, whatever the order of its choices and the
place of its files. -/
theorem parse_written {before after : List WrittenChoice} {files : List Text} (named : files ≠ [])
    (plain : ∀ file ∈ files, isHyphened file = false)
    (plainOutput : ∀ path, .output path ∈ (before ++ after).map WrittenChoice.choice →
      isHyphened path = false) :
    Arguments.parse (before.flatMap WrittenChoice.arguments ++
        (files ++ after.flatMap WrittenChoice.arguments)) =
      .ok { ((before ++ after).map WrittenChoice.choice).foldl Arguments.choose {} with files } := by
  rw [List.map_append] at plainOutput ⊢
  have read : List.Forall₂ ReadAs
      (before.flatMap WrittenChoice.arguments ++
        (files ++ after.flatMap WrittenChoice.arguments))
      (before.flatMap WrittenChoice.tokens ++
        (files.map .word ++ after.flatMap WrittenChoice.tokens)) :=
    List.rel_append
      (forall₂_choices fun path member => plainOutput path (List.mem_append_left _ member))
      (List.rel_append (forall₂_words plain)
        (forall₂_choices fun path member => plainOutput path (List.mem_append_right _ member)))
  let opened : Progress :=
    { arguments := (before.map WrittenChoice.choice).foldl Arguments.choose {},
      block := .opened files }
  have rest := tokens_choices opened after []
  rw [List.append_nil] at rest
  have run : ({} : Progress).tokens (before.flatMap WrittenChoice.tokens ++
      (files.map .word ++ after.flatMap WrittenChoice.tokens)) =
        .ok ((after.map WrittenChoice.choice).foldl Progress.choose opened) := by
    rw [tokens_choices, foldl_choose_of_awaited rfl, tokens_files rfl named]
    exact rest
  simp only [Arguments.parse, ofArguments_of_forall₂ read, run, finish_foldl_choose,
    List.foldl_append]
  rfl

/-! ## What is asked for -/

/-- What several choices add up to. -/
theorem foldl_choose_arguments (choices : List Choice) :
    choices.foldl Arguments.choose {} =
      { keepComments := decide (.keepComments ∈ choices)
        streamBehavior := some ((choices.filterMap Choice.stream?).getLast?.getD .native)
        keepEmptyLines := decide (.keepEmptyLines ∈ choices)
        output := outputOf choices } := by
  induction choices using List.reverseRecOn with
  | nil => rfl
  | append_singleton choices choice ih =>
    rw [List.foldl_concat, ih]
    cases choice <;> simp [Arguments.choose, outputOf, Choice.stream?, Choice.path?]

/-- The arguments that choices add up to run the batch that they ask for. -/
theorem run_foldl_choose (tree : FileTree) (choices : List Choice) (files : List Text) :
    Arguments.run tree { choices.foldl Arguments.choose {} with files } =
      Batch.run tree ⟨files, outputOf choices, optionsOf choices⟩ := by
  have known (behavior : StreamBehavior) :
      StreamBehavior.ofValue (.text behavior.name) = .ok behavior := by
    cases behavior <;> rfl
  rw [foldl_choose_arguments]
  simp [Arguments.run, Arguments.settings, Settings.choose, known, bind, Except.bind, pure,
    Except.pure, optionsOf]

/-- The command reports refused requests and paths that cannot be used, and nothing else. -/
theorem isReported_iff {fault : Fault} :
    isReported fault = true ↔
      (∃ refused, fault = .configuration refused) ∨ ∃ used, fault = .file used := by
  cases fault <;> simp [isReported]

/-- Whatever becomes of a batch, the command prints what it prints and leaves the tree it leaves. -/
theorem conclude_output (report : Batch.Report) :
    (conclude report).output = report.printed ∧ (conclude report).tree = report.tree := by
  unfold conclude
  cases report.outcome with
  | ok paths => exact ⟨rfl, rfl⟩
  | error fault =>
    dsimp only
    split <;> exact ⟨rfl, rfl⟩

/-- A command whose batch returns ends well. -/
theorem conclude_of_ok {report : Batch.Report} {paths : List Text}
    (returned : report.outcome = .ok paths) :
    (conclude report).outcome = .ok 0 ∧
      (conclude report).errors = Warning.reports report.warnings := by
  simp only [conclude, returned, and_self]

/-- A command whose batch ends in a fault reports it or leaves it to the caller. -/
theorem conclude_of_error {report : Batch.Report} {fault : Fault}
    (ended : report.outcome = .error fault) :
    (conclude report).outcome = (if isReported fault then .ok 1 else .error fault) ∧
      (conclude report).errors = Warning.reports report.warnings ++
        if isReported fault then fatalReport fault else [] := by
  simp only [conclude, ended]
  cases isReported fault <;> simp

/-- **A command line does what its batch does.** Whichever choices stand before and after the files
of a command line, in any order and spelling, it prints what the batch prints that they ask for and
leaves the file tree that the batch leaves; the last of several values of one flag counts. Its exit
code is 0 if the batch returns. A refused request or a path that cannot be used is reported after
the warnings, with the exit code 1, and every other fault is that of the batch. -/
theorem command_line_runs_batch (tree : FileTree) {before after : List WrittenChoice}
    {files : List Text} (named : files ≠ []) (plain : ∀ file ∈ files, isHyphened file = false)
    (plainOutput : ∀ path, .output path ∈ (before ++ after).map WrittenChoice.choice →
      isHyphened path = false) :
    let choices := (before ++ after).map WrittenChoice.choice
    let report := Batch.run tree ⟨files, outputOf choices, optionsOf choices⟩
    let warned := Warning.reports report.warnings
    let effect := run tree (before.flatMap WrittenChoice.arguments ++
      (files ++ after.flatMap WrittenChoice.arguments))
    effect.output = report.printed ∧ effect.tree = report.tree ∧
      (∀ paths, report.outcome = .ok paths →
        effect.outcome = .ok 0 ∧ effect.errors = warned) ∧
      (∀ fault, report.outcome = .error fault →
        ((∃ refused, fault = .configuration refused) ∨ ∃ used, fault = .file used) →
          effect.outcome = .ok 1 ∧
            effect.errors = warned ++ ("FATAL: ".toList ++ fault.message ++ ['\n'])) ∧
      (∀ fault, report.outcome = .error fault →
        ¬((∃ refused, fault = .configuration refused) ∨ ∃ used, fault = .file used) →
          effect.outcome = .error fault ∧ effect.errors = warned) := by
  intro choices report warned effect
  have concluded : effect = conclude report := by
    change run tree _ = _
    rw [run, parse_written named plain plainOutput]
    exact congrArg conclude (run_foldl_choose tree choices files)
  rw [concluded]
  obtain ⟨printed, left⟩ := conclude_output report
  refine ⟨printed, left, fun paths returned => conclude_of_ok returned, ?_, ?_⟩
  · intro fault ended known
    obtain ⟨outcome, errors⟩ := conclude_of_error ended
    rw [if_pos (isReported_iff.mpr known)] at outcome errors
    exact ⟨outcome, errors⟩
  · intro fault ended other
    obtain ⟨outcome, errors⟩ := conclude_of_error ended
    have unreported : ¬ isReported fault = true :=
      fun reported => other (isReported_iff.mp reported)
    rw [if_neg unreported] at outcome errors
    rw [List.append_nil] at errors
    exact ⟨outcome, errors⟩

/-- The choices before the file name of a command line. -/
def keptComments : List WrittenChoice := [⟨.keepComments, true⟩]

/-- The choices after the file name of a command line. -/
def genericToFile : List WrittenChoice :=
  [⟨.stream .generic, false⟩, ⟨.output "out.ts".toList, true⟩]

/-- A command line with choices before and after the name of a file does what its batch does: one
writes the rendering of the file, and another, with the name of a missing file, reports that. -/
theorem command_line_of_notes :
    let arguments (name : String) : List Text :=
      ["-c", name, "--stream-behavior", "generic", "-o", "out.ts"].map String.toList
    let request (name : String) : Batch.Request :=
      ⟨[name.toList], .path "out.ts".toList, ⟨true, .generic, true⟩⟩
    let found := run Batch.notesTree (arguments "notes.proto")
    let missing := run Batch.notesTree (arguments "nots.proto")
    (∀ name ∈ ["notes.proto".toList, "nots.proto".toList], isHyphened name = false) ∧
      (∀ path, .output path ∈ (keptComments ++ genericToFile).map WrittenChoice.choice →
        isHyphened path = false) ∧
      found.outcome = .ok 0 ∧ found.output = "Done!\n".toList ∧
      found.tree = (Batch.run Batch.notesTree (request "notes.proto")).tree ∧
      missing.outcome = .ok 1 ∧
      missing.errors = "FATAL: [Errno 2] No such file or directory: 'nots.proto'\n".toList := by
  intro arguments request found missing
  have plain : ∀ name ∈ ["notes.proto".toList, "nots.proto".toList], isHyphened name = false := by
    decide
  have plainOutput : ∀ path, .output path ∈ (keptComments ++ genericToFile).map
      WrittenChoice.choice → isHyphened path = false := by
    simp [keptComments, genericToFile, isHyphened]
  have returned : (Batch.run Batch.notesTree (request "notes.proto")).outcome =
      .ok ["out.ts".toList] := Batch.eq_ok_of_toOption (by decide +kernel)
  have ended : (Batch.run Batch.notesTree (request "nots.proto")).outcome =
      .error (.file ⟨.notFound, "nots.proto".toList⟩) := rfl
  obtain ⟨printed, left, well, _, _⟩ := command_line_runs_batch Batch.notesTree
    (List.cons_ne_nil "notes.proto".toList []) (by decide) plainOutput
  obtain ⟨_, _, _, reported, _⟩ := command_line_runs_batch Batch.notesTree
    (List.cons_ne_nil "nots.proto".toList []) (by decide) plainOutput
  obtain ⟨exits, errors⟩ := reported _ ended (.inr ⟨_, rfl⟩)
  refine ⟨plain, plainOutput, (well _ returned).1, printed.trans (by decide +kernel), left, exits,
    errors.trans (by decide +kernel)⟩

end ProtoInterfaces.CommandLine
