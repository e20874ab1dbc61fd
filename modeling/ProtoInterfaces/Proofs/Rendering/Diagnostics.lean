import ProtoInterfaces.Proofs.Rendering.Filtering
import ProtoInterfaces.Proofs.Text.LineEnds
import ProtoInterfaces.Proofs.Text.Quoted

/-!
# Reports about a schema

The reports about a schema tell which of its lines could not be read. There is one line of report
for each of them, in order, and none for any other line, whatever the options; no report holds a
line break, since the line that it shows is quoted; and the kind of the line and the line itself,
blanks around it set aside, can be told from the report.
-/
namespace ProtoInterfaces

/-- The name of a kind of lines in a report. -/
def LineKind.name : LineKind → Text
  | .blank => "blank".toList
  | .comment => "comment".toList
  | .blockClose => "block_close".toList
  | .messageOpen => "message_open".toList
  | .serviceOpen => "service_open".toList
  | .method => "rpc".toList
  | .package => "package".toList
  | .field => "field".toList

/-- Whether a line should declare something and cannot be read: a message, a service or a package
without a name, or what is not a method or a field where one is expected. -/
def isUnread (version : SyntaxVersion) (line : Text) : Bool :=
  match LineKind.ofLine line with
  | .messageOpen | .serviceOpen | .package => (declaredName line.words).isEmpty
  | .method => (Method.ofLine? line).isNone
  | .field => (Field.ofLine? version line).isNone
  | .blank | .comment | .blockClose => false

/-- The lines of a schema that cannot be read, in order, each by its kind and without the blanks
around it. Statements about the schema as a whole and lines that read like the removal mark are not
looked at. -/
def unreadLines (text : Text) : List (LineKind × Text) :=
  (text.lines.filter fun line => !(isStatement line || line = removalMark) &&
    isUnread (SyntaxVersion.detect text) line).map fun line => (LineKind.ofLine line, line.trim)

/-- The report about a line that cannot be read, without its line feed. -/
def reportOf (unread : LineKind × Text) : Text :=
  "Warning: unrecognised ".toList ++ unread.1.name ++ " line, left unchanged: ".toList ++
    Text.quoted unread.2

/-! ## Reports of lines -/

/-- A warning is reported with the name that what was expected is called after. -/
theorem report_about {expected : Expectation} {name : Text}
    (called : expected.description = name ++ " line".toList) (line : Text) :
    (Warning.about expected line).report = "Warning: unrecognised ".toList ++ name ++
      " line, left unchanged: ".toList ++ Text.quoted line.trim ++ ['\n'] := by
  have parted : " line, left unchanged: ".toList =
      " line".toList ++ ", left unchanged: ".toList := rfl
  change "Warning: unrecognised ".toList ++ expected.description ++ ", left unchanged: ".toList ++
    Text.quoted line.trim ++ ['\n'] = _
  rw [called, parted]
  simp only [List.append_assoc]

/-- A line is reported exactly if it cannot be read. -/
theorem reports_renderLine (options : Options) (context : Context) (line : Text) :
    Warning.reports (renderLine options context line).warning.toList =
      if isUnread context.version line then reportOf (LineKind.ofLine line, line.trim) ++ ['\n']
      else [] := by
  have unwarned : Warning.reports (Option.toList none) = [] := rfl
  have warned {expected : Expectation} {kind : LineKind}
      (called : expected.description = kind.name ++ " line".toList) :
      Warning.reports (some (Warning.about expected line)).toList =
        reportOf (kind, line.trim) ++ ['\n'] := by
    rw [Option.toList_some, Warning.reports, List.flatMap_singleton, report_about called]
    rfl
  cases kind : LineKind.ofWords line.words <;>
    simp only [renderLine, isUnread, LineKind.ofLine, kind]
  case blank => cases options.stripEmptyLines <;> exact unwarned
  case comment => cases options.keepComments <;> exact unwarned
  case blockClose => exact unwarned
  case method => cases Method.ofLine? line <;> [exact warned rfl; exact unwarned]
  case field => cases Field.ofLine? context.version line <;> [exact warned rfl; exact unwarned]
  -- A message, a service or a package is read exactly if it has a name.
  all_goals cases (declaredName line.words).isEmpty <;> [exact unwarned; exact warned rfl]

/-- The reports of some lines that are picked out of a text are those of the lines one by one. -/
theorem ofLines_filter_map (picks : Text → Bool) (report : Text → Text) (lines : List Text) :
    Text.ofLines ((lines.filter picks).map report) =
      lines.flatMap fun line => if picks line then report line ++ ['\n'] else [] := by
  induction lines with
  | nil => rfl
  | cons line lines ih =>
    rw [List.flatMap_cons, ← ih]
    cases picked : picks line with
    | false =>
      rw [List.filter_cons_of_neg (by simp [picked])]
      rfl
    | true =>
      rw [List.filter_cons_of_pos picked]
      rfl

/-- **The reports about a document** are those of the lines that cannot be read, in order. -/
theorem reports_renderDocument (options : Options) (text : Text) :
    Warning.reports (renderDocument options text).warnings =
      Text.ofLines ((unreadLines text).map reportOf) := by
  let version := SyntaxVersion.detect text
  let lineReport (line : Text) : Text :=
    if !(isStatement line || line = removalMark) && isUnread version line then
      reportOf (LineKind.ofLine line, line.trim) ++ ['\n']
    else []
  have each (entry : Text × Nat) :
      Warning.reports (if isStatement entry.1 || entry.1 = removalMark then []
        else (renderAlone options version text.lines entry).warning.toList) =
      lineReport entry.1 := by
    simp only [lineReport]
    cases always : isStatement entry.1 || entry.1 = removalMark with
    | true => rfl
    | false => exact reports_renderLine options _ entry.1
  have warnings : (renderDocument options text).warnings =
      warningsAbout options version text.lines := by
    rw [renderDocument, documentLines_eq]
  calc
    Warning.reports (renderDocument options text).warnings
      = text.lines.zipIdx.flatMap fun entry => Warning.reports
          (if isStatement entry.1 || entry.1 = removalMark then []
            else (renderAlone options version text.lines entry).warning.toList) := by
        rw [warnings, warningsAbout_eq, Warning.reports, List.flatMap_assoc]
        rfl
    _ = text.lines.zipIdx.flatMap fun entry => lineReport entry.1 :=
        List.flatMap_congr fun entry _ => each entry
    _ = (text.lines.zipIdx.map Prod.fst).flatMap lineReport := (List.flatMap_map ..).symm
    _ = Text.ofLines ((unreadLines text).map reportOf) := by
        rw [List.zipIdx_map_fst, unreadLines, List.map_map, ofLines_filter_map]
        rfl

/-! ## What a report tells -/

/-- A report holds no line break, whatever the line holds. -/
theorem unbroken_reportOf (unread : LineKind × Text) : Unbroken (reportOf unread) := by
  have named : Unbroken unread.1.name := by
    cases unread.1 <;> decide
  have before : Unbroken "Warning: unrecognised ".toList := by decide
  have between : Unbroken " line, left unchanged: ".toList := by decide
  exact ((before.append named).append between).append (Text.unbroken_quoted unread.2)

/-- The kind of a line and the line can be told from their report. -/
theorem reportOf_inj {unread other : LineKind × Text} (same : reportOf unread = reportOf other) :
    unread = other := by
  have solid (kind : LineKind) : ' ' ∉ kind.name := by
    cases kind <;> decide
  have called : ∀ kind other : LineKind, kind.name = other.name → kind = other := by
    intro kind other
    cases kind <;> cases other <;> decide
  have parted (unread : LineKind × Text) : reportOf unread = "Warning: unrecognised ".toList ++
      (unread.1.name ++ ' ' :: ("line, left unchanged: ".toList ++ Text.quoted unread.2)) := by
    unfold reportOf
    rw [List.append_assoc, List.append_assoc]
    rfl
  rw [parted, parted] at same
  obtain ⟨names, shown⟩ := Text.append_cons_inj (solid unread.1) (solid other.1)
    (List.append_cancel_left same)
  exact Prod.ext (called _ _ names) (Text.quoted_inj (List.append_cancel_left shown))

/-- **The reports about a schema tell its unread lines**: every line that cannot be read, and no
other, is reported on one line, in order, and from all the reports together the kinds of these lines
and the lines themselves can be told, whatever the options. -/
theorem reports_tell_unread_lines (options : Options) (text : Text) :
    let reported (options : Options) (text : Text) : Text :=
      Warning.reports (renderDocument options text).warnings
    reported options text =
        ((unreadLines text).flatMap fun unread => reportOf unread ++ ['\n']) ∧
      (∀ unread ∈ unreadLines text, Unbroken (reportOf unread)) ∧
      (reported options text).lines = (unreadLines text).map reportOf ∧
      ∀ (others : Options) (other : Text),
        reported others other = reported options text ↔ unreadLines other = unreadLines text := by
  intro reported
  have told (options : Options) (text : Text) :
      (reported options text).lines = (unreadLines text).map reportOf := by
    have unbroken : ∀ report ∈ (unreadLines text).map reportOf, Unbroken report := by
      intro report member
      obtain ⟨unread, _, rfl⟩ := List.mem_map.mp member
      exact unbroken_reportOf unread
    rw [show reported options text = Text.ofLines ((unreadLines text).map reportOf) from
      reports_renderDocument options text, Text.lines_ofLines unbroken]
  refine ⟨?_, fun unread _ => unbroken_reportOf unread, told options text, fun others other => ?_⟩
  · exact (reports_renderDocument options text).trans (List.flatMap_map ..)
  · constructor
    · intro same
      have reports := told others other
      rw [same, told options text] at reports
      exact ((List.map_inj_right fun _ _ => reportOf_inj).mp reports).symm
    · intro same
      change Warning.reports _ = Warning.reports _
      rw [reports_renderDocument, reports_renderDocument, same]

/-- Lines that cannot be read beside a comment, a removal mark and a statement that would not be
read either; one of them holds both kinds of quotes and two control characters. -/
def oddSchema : Text :=
  Text.joinLines ["message".toList, "\t it's \"odd\"\x01\trpc ".toList, "// note".toList,
    "--remove--".toList, "option x".toList, "rpc Run".toList, "\x7d".toList]

/-- Three of the lines are reported, and no text with other lines that cannot be read is reported on
in the same way. -/
theorem reports_of_oddSchema :
    let unread : List (LineKind × Text) := [(.messageOpen, "message".toList),
      (.field, "it's \"odd\"\x01\trpc".toList), (.method, "rpc Run".toList)]
    let reports (options : Options) (text : Text) : Text :=
      Warning.reports (renderDocument options text).warnings
    unreadLines oddSchema = unread ∧
      (reports {} oddSchema).lines =
        ["Warning: unrecognised message_open line, left unchanged: 'message'".toList,
          "Warning: unrecognised field line, left unchanged: 'it\\'s \"odd\"\\x01\\trpc'".toList,
          "Warning: unrecognised rpc line, left unchanged: 'rpc Run'".toList] ∧
      ∀ (others : Options) (other : Text), reports others other = reports {} oddSchema →
        unreadLines other = unread := by
  intro unread reports
  have found : unreadLines oddSchema = unread := by decide +kernel
  obtain ⟨_, _, lines, told⟩ := reports_tell_unread_lines {} oddSchema
  refine ⟨found, ?_, fun others other same => ?_⟩
  · rw [found] at lines
    exact lines.trans (by decide +kernel)
  · exact ((told others other).mp same).trans found

end ProtoInterfaces
