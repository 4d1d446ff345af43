import CqlCompiler.CommandLine.Run

/-!
# What a session shows

A session answers each of its lines as if it were the only one.  So all that it
writes is what the lines contribute, one after the other, up to a line that ends
it, and an input can be cut between any two lines.

There are four groups.

* Lines.  `lineTexts_endedLines` cuts an input into lines, and `lineText_eq_trim`
  says what is left of a line on which nothing is taken back.
* Texts of transcripts.  What is written on each output, one lemma for each way
  to make a transcript.
* Contributions.  `contribution` is what a line makes a session write without
  colours, and `standardOutput_lineAnswer` and `standardError_lineAnswer` say so.
* Runs.  `step_of_ends` and `step_of_not_ends` are about one line, `converse_eq`
  is the induction over all of them, `answers_of_plan` is about whole runs of the
  program, and `run_repl_eq_contributions` adds that a run can be cut in two.
-/

namespace CqlCompiler.CommandLine

open Terminal

/-! ## Lines -/

/-- A line that ends with a newline is a line whatever follows it. -/
theorem textLines_cons_newline {line : List Char} (h : '\n' ∉ line) (rest : List Char) :
    textLines (line ++ '\n' :: rest) = line :: textLines rest := by
  induction line with
  | nil => simp [textLines]
  | cons c line ih =>
    obtain ⟨hc, hline⟩ := not_or.mp (mt List.mem_cons.mpr h)
    rw [List.cons_append, textLines, if_neg (Ne.symm hc), ih hline]

/-- What follows the last newline is a line if it is not empty. -/
theorem textLines_of_not_mem {line : List Char} (h : '\n' ∉ line) (hne : line ≠ []) :
    textLines line = [line] := by
  induction line with
  | nil => exact absurd rfl hne
  | cons c line ih =>
    obtain ⟨hc, hline⟩ := not_or.mp (mt List.mem_cons.mpr h)
    rw [textLines, if_neg (Ne.symm hc)]
    cases line with
    | nil => rfl
    | cons d line => rw [ih hline (List.cons_ne_nil d line)]

/-- Lines, each with a newline after it. -/
def endedLines (lines : List String) : String :=
  String.join (lines.map (· ++ "\n"))

/-- The texts of lines that end with a newline, and of what is left after them. -/
def textsOf (lines : List String) (last : String) : List String :=
  (lines ++ [last].filter (· ≠ "")).map fun line => lineText line.toList

theorem textsOf_append (front back : List String) (last : String) :
    textsOf (front ++ back) last = textsOf front "" ++ textsOf back last := by
  simp [textsOf]

theorem lineTexts_endedLines {lines : List String} {last : String}
    (hlines : ∀ line ∈ lines, '\n' ∉ line.toList) (hlast : '\n' ∉ last.toList) :
    lineTexts (endedLines lines ++ last) = textsOf lines last := by
  induction lines with
  | nil =>
    by_cases hempty : last = ""
    · subst hempty
      rfl
    · have hne : last.toList ≠ [] := mt String.toList_eq_nil_iff.mp hempty
      simp [endedLines, lineTexts, textsOf, textLines_of_not_mem hlast hne, hempty]
  | cons line lines ih =>
    have hrest := ih fun other hother => hlines other (List.mem_cons_of_mem line hother)
    have hinput : (endedLines (line :: lines) ++ last).toList =
        line.toList ++ '\n' :: (endedLines lines ++ last).toList := by
      simp [endedLines]
    rw [lineTexts, hinput, textLines_cons_newline (hlines line List.mem_cons_self),
      List.map_cons]
    exact congrArg (lineText line.toList :: ·) hrest

/-- If no character is a backspace, all that is typed is there in the end. -/
theorem Typed.foldl_type {clusters : List (List Char)} (h : ['\x08'] ∉ clusters)
    (typed : Typed) :
    (clusters.foldl Typed.type typed).text = clusters.flatten.reverse ++ typed.text := by
  induction clusters generalizing typed with
  | nil => rfl
  | cons cluster clusters ih =>
    obtain ⟨hcluster, hclusters⟩ := not_or.mp (mt List.mem_cons.mpr h)
    rw [List.foldl_cons, ih hclusters, Typed.type, if_neg (Ne.symm hcluster)]
    simp

/-- On a line without backspaces nothing is taken back. -/
theorem lineText_eq_trim {line : String} (h : '\x08' ∉ line.toList) :
    lineText line.toList = Text.trim line := by
  have hclusters : ['\x08'] ∉ Text.graphemes line.toList := fun hmem =>
    h (Text.flatten_graphemes line.toList ▸
      List.mem_flatten_of_mem hmem List.mem_cons_self)
  rw [lineText, Typed.foldl_type hclusters, Text.flatten_graphemes]
  simp

/-! ## Texts of transcripts -/

namespace Transcript

@[simp] theorem standardOutput_append (first second : Transcript) :
    standardOutput (first ++ second) = standardOutput first ++ standardOutput second := by
  rw [standardOutput, List.filterMap_append, String.join_append]
  rfl

@[simp] theorem standardError_append (first second : Transcript) :
    standardError (first ++ second) = standardError first ++ standardError second := by
  rw [standardError, List.filterMap_append, String.join_append]
  rfl

@[simp] theorem standardOutput_line (text : String) :
    standardOutput (line text) = text ++ "\n" := by
  simp [line, standardOutput]

@[simp] theorem standardError_line (text : String) : standardError (line text) = "" := rfl

@[simp] theorem standardOutput_err (text : String) : standardOutput [.err text] = "" := rfl

@[simp] theorem standardError_err (text : String) : standardError [.err text] = text := by
  simp [standardError]

@[simp] theorem standardOutput_events (reported : List Event) :
    standardOutput (events reported) = "" := by
  induction reported with
  | nil => rfl
  | cons event reported ih => exact ih

@[simp] theorem standardError_events (reported : List Event) :
    standardError (events reported) = "" := by
  induction reported with
  | nil => rfl
  | cons event reported ih => exact ih

theorem standardOutput_flatMap {α : Type} (f : α → Transcript) (items : List α) :
    standardOutput (items.flatMap f) = String.join (items.map (standardOutput ∘ f)) := by
  induction items with
  | nil => rfl
  | cons item items ih => simp [ih]

theorem standardError_flatMap {α : Type} (f : α → Transcript) (items : List α) :
    standardError (items.flatMap f) = String.join (items.map (standardError ∘ f)) := by
  induction items with
  | nil => rfl
  | cons item items ih => simp [ih]

end Transcript

/-! ## Contributions -/

/-- The table of column types. -/
def typeTableText : String :=
  padEnd 12 "SQL" ++ " CQL\n" ++ String.ofList (List.replicate 24 '─') ++ "\n"
    ++ String.join (ColumnType.recognised.map fun type =>
      padEnd 12 type.name ++ " " ++ type.cqlName ++ "\n")
    ++ padEnd 12 "(other)" ++ " text\n"

/-- What a session shows before its first line. -/
def bannerText : String :=
  "sql2cql REPL — Interactive Mode\nType SQL to see the generated CQL. '.exit' to quit.\n\n"

/-- What a line makes a session write. -/
structure Contribution where
  /-- On the standard output. -/
  out : String := ""
  /-- On the standard error output. -/
  err : String := ""

/-- What a line that does not end a session makes it write. -/
def contribution (line : String) : Contribution :=
  if line = "" then {}
  else if line = ".types" then { out := typeTableText }
  else match compile line with
    | .ok cql => { out := "→ " ++ cql ++ "\n\n" }
    | .error error => { err := "✗ " ++ error.message ++ "\n" }

@[simp] theorem paint_false (styles : List Style) (text : String) :
    paint false styles text = text := rfl

theorem standardOutput_banner : (banner false).standardOutput = bannerText := by
  decide +kernel

theorem standardError_banner (colors : Bool) : (banner colors).standardError = "" := rfl

theorem standardOutput_typeTable : (typeTable false).standardOutput = typeTableText := by
  simp only [typeTable, typeRow, paint_false, Transcript.standardOutput_append,
    Transcript.standardOutput_line, Transcript.standardOutput_flatMap, Function.comp_def]
  simp [typeTableText, String.append_assoc]

theorem standardError_typeTable (colors : Bool) : (typeTable colors).standardError = "" := by
  simp only [typeTable, Transcript.standardError_append, Transcript.standardError_line,
    Transcript.standardError_flatMap, Function.comp_def]
  rfl

theorem standardOutput_lineAnswer (line : String) :
    (lineAnswer false line).standardOutput = (contribution line).out := by
  by_cases hblank : line = ""
  · rw [lineAnswer, contribution, if_pos hblank, if_pos hblank]
    rfl
  · by_cases htypes : line = ".types"
    · rw [lineAnswer, contribution, if_neg hblank, if_neg hblank, if_pos htypes, if_pos htypes]
      exact standardOutput_typeTable
    · rw [lineAnswer, contribution, if_neg hblank, if_neg hblank, if_neg htypes, if_neg htypes,
        compiledAnswer, compile]
      cases Statement.ofSql line with
      | ok statement => simp [Except.map, String.append_assoc]
      | error error => simp [Except.map]

theorem standardError_lineAnswer (line : String) :
    (lineAnswer false line).standardError = (contribution line).err := by
  by_cases hblank : line = ""
  · rw [lineAnswer, contribution, if_pos hblank, if_pos hblank]
    rfl
  · by_cases htypes : line = ".types"
    · rw [lineAnswer, contribution, if_neg hblank, if_neg hblank, if_pos htypes, if_pos htypes]
      exact standardError_typeTable false
    · rw [lineAnswer, contribution, if_neg hblank, if_neg hblank, if_neg htypes, if_neg htypes,
        compiledAnswer, compile]
      cases Statement.ofSql line with
      | ok statement => simp [Except.map]
      | error error => simp [Except.map, String.append_assoc]

/-- What asks for a line on the standard output.  Only a terminal asks. -/
def LineSource.asks : LineSource → String
  | .plainTerminal => "sql> "
  | .stream => ""

theorem LineSource.standardOutput_opening (source : LineSource) :
    (source.opening false).standardOutput = source.asks := by
  cases source <;> rfl

theorem LineSource.standardError_opening (source : LineSource) :
    (source.opening false).standardError = "" := by
  cases source <;> rfl

/-! ## Runs -/

/-- The lines that a session answers: those before one that ends it. -/
def answered (lines : List String) : List String :=
  lines.takeWhile (!endsSession ·)

/-- The lines that a session reads: those that it answers and one that ends it. -/
def heard (lines : List String) : List String :=
  answered lines ++ (lines.dropWhile (!endsSession ·)).take 1

/-- The lines that a session remembers if it reads all of these. -/
def remembered (lines : List String) : List String :=
  lines.filter (· ≠ "")

/-- What a session shows while it answers these lines. -/
def said (colors : Bool) (source : LineSource) (lines : List String) : Transcript :=
  lines.flatMap fun line => source.opening colors ++ lineAnswer colors line

variable {colors : Bool} {source : LineSource}

theorem answered_append {front : List String} (h : ∀ line ∈ front, ¬endsSession line)
    (back : List String) : answered (front ++ back) = front ++ answered back := by
  rw [answered, List.takeWhile_append_of_pos]
  · rfl
  · simpa using h

/-- A line is remembered whatever was shown and remembered before it. -/
theorem hear_eq (state : SessionState) (line : String) :
    state.hear line = { state with remembered := state.remembered ++ remembered [line] } := by
  by_cases hblank : line = ""
  · simp [SessionState.hear, remembered, hblank]
  · simp [SessionState.hear, remembered, hblank]

theorem remembered_append (front back : List String) :
    remembered (front ++ back) = remembered front ++ remembered back := by
  simp [remembered]

/-- A line that ends the session is remembered, and nothing is shown for it. -/
theorem step_of_ends {line : String} (h : endsSession line) (state : SessionState) :
    state.step colors line =
      ({ state with remembered := state.remembered ++ remembered [line] }, false) := by
  rw [SessionState.step, if_pos h, hear_eq]

/-- Any other line adds its answer to what was shown before. -/
theorem step_of_not_ends {line : String} (h : ¬endsSession line) (state : SessionState) :
    state.step colors line =
      ({ shown := state.shown ++ lineAnswer colors line
         remembered := state.remembered ++ remembered [line] }, true) := by
  rw [SessionState.step, if_neg h, hear_eq]
  rfl

/-- What a session shows and remembers is what each of its lines adds. -/
theorem converse_eq (state : SessionState) (lines : List String) :
    converse colors source state lines =
      { shown := state.shown ++ said colors source (answered lines) ++ source.opening colors
        remembered := state.remembered ++ remembered (heard lines) } := by
  induction lines generalizing state with
  | nil => simp [converse, SessionState.say, answered, heard, said, remembered]
  | cons line lines ih =>
    rw [converse]
    by_cases hends : endsSession line
    · have hanswered : answered (line :: lines) = [] := by simp [answered, hends]
      have hheard : heard (line :: lines) = [line] := by simp [heard, answered, hends]
      rw [step_of_ends hends, hanswered, hheard]
      simp [SessionState.say, said]
    · have hanswered : answered (line :: lines) = [line] ++ answered lines := by
        simp [answered, hends]
      have hheard : heard (line :: lines) = [line] ++ heard lines := by
        simp [heard, answered, hends]
      rw [step_of_not_ends hends, hanswered, hheard, remembered_append]
      simp only [ih]
      simp [SessionState.say, said]

/-- What asking for lines and answering them writes on the standard output. -/
def answersOut (source : LineSource) (lines : List String) : String :=
  String.join (lines.map fun line => source.asks ++ (contribution line).out)

/-- What answering lines writes on the standard error output. -/
def answersErr (lines : List String) : String :=
  String.join (lines.map fun line => (contribution line).err)

theorem answersOut_append (source : LineSource) (front back : List String) :
    answersOut source (front ++ back) = answersOut source front ++ answersOut source back := by
  rw [answersOut, List.map_append, String.join_append]
  rfl

theorem answersErr_append (front back : List String) :
    answersErr (front ++ back) = answersErr front ++ answersErr back := by
  rw [answersErr, List.map_append, String.join_append]
  rfl

theorem standardOutput_said (source : LineSource) (lines : List String) :
    (said false source lines).standardOutput = answersOut source lines := by
  simp only [said, answersOut, Transcript.standardOutput_flatMap, Function.comp_def,
    Transcript.standardOutput_append, LineSource.standardOutput_opening,
    standardOutput_lineAnswer]

theorem standardError_said (source : LineSource) (lines : List String) :
    (said false source lines).standardError = answersErr lines := by
  simp only [said, answersErr, Transcript.standardError_flatMap, Function.comp_def,
    Transcript.standardError_append, LineSource.standardError_opening,
    standardError_lineAnswer, String.empty_append]

/-- A run without colours that holds a session with these lines. -/
structure Outcome.Answers (outcome : Outcome) (planned : Plan) (lines : List String) : Prop where
  exitCode_eq : outcome.exitCode = 0
  standardOutput_eq : outcome.transcript.standardOutput =
    bannerText ++ answersOut planned.source (answered lines) ++ planned.source.asks
  standardError_eq : outcome.transcript.standardError = answersErr (answered lines)
  /-- The order of the outputs, and the log.  Only the last events are not those
  of a single line. -/
  transcript_eq : outcome.transcript =
    banner false ++ said false planned.source (answered lines) ++ planned.source.opening false
      ++ Transcript.events (historyEvents planned.historyRefusal (remembered (heard lines)))

theorem answers_of_plan {surroundings : Surroundings} {args : List String} {planned : Plan}
    (hplan : plan surroundings args = .ok planned)
    (hrepl : planned.arguments.subcommand = some .repl) (hcolors : planned.colors = false)
    (input : String) :
    (run surroundings args input).Answers planned (lineTexts input) := by
  have hrun : run surroundings args input =
      ⟨session false planned.source planned.historyRefusal input, planned.logLevel, 0⟩ := by
    simp [run, hplan, Plan.run, Plan.attempt, hrepl, Attempt.outcome, hcolors]
  have hsession : session false planned.source planned.historyRefusal input =
      banner false ++ said false planned.source (answered (lineTexts input))
        ++ planned.source.opening false
        ++ Transcript.events
          (historyEvents planned.historyRefusal (remembered (heard (lineTexts input)))) := by
    simp [session, converse_eq]
  rw [hrun]
  constructor
  case exitCode_eq => rfl
  case transcript_eq => exact hsession
  case standardOutput_eq =>
    rw [hsession]
    simp only [Transcript.standardOutput_append, Transcript.standardOutput_events,
      standardOutput_banner, standardOutput_said, LineSource.standardOutput_opening,
      String.append_empty]
  case standardError_eq =>
    rw [hsession]
    simp only [Transcript.standardError_append, Transcript.standardError_events,
      standardError_banner, standardError_said, LineSource.standardError_opening,
      String.append_empty, String.empty_append]

/-- What `both` writes is what `first` and `second` write one after the other,
with the banner only at the beginning and nothing asked for in between. -/
def Outcome.Concatenates (source : LineSource) (first second both : Outcome) : Prop :=
  ∃ firstOut secondOut,
    first.transcript.standardOutput = bannerText ++ firstOut ++ source.asks ∧
    second.transcript.standardOutput = bannerText ++ secondOut ∧
    both.transcript.standardOutput = bannerText ++ firstOut ++ secondOut ∧
    both.transcript.standardError =
      first.transcript.standardError ++ second.transcript.standardError

theorem Outcome.Answers.concatenates {planned : Plan} {first second both : Outcome}
    {front back : List String} (hends : ∀ line ∈ front, ¬endsSession line)
    (hfirst : first.Answers planned front) (hsecond : second.Answers planned back)
    (hboth : both.Answers planned (front ++ back)) :
    Outcome.Concatenates planned.source first second both := by
  have hanswered : answered front = front := by
    simpa [answered] using answered_append hends []
  refine ⟨answersOut planned.source front,
    answersOut planned.source (answered back) ++ planned.source.asks, ?_, ?_, ?_, ?_⟩
  · rw [hfirst.standardOutput_eq, hanswered]
  · rw [hsecond.standardOutput_eq, String.append_assoc]
  · rw [hboth.standardOutput_eq, answered_append hends, answersOut_append]
    simp only [String.append_assoc]
  · rw [hboth.standardError_eq, answered_append hends, answersErr_append,
      hfirst.standardError_eq, hanswered, hsecond.standardError_eq]

/-- A session without colours writes what each of its lines contributes, in
order, up to a line that ends it, and ends with success.  So it can be cut after
any lines that do not end it.  If no character of a line is a backspace, its
text is the line without the white space at its ends. -/
theorem run_repl_eq_contributions {surroundings : Surroundings} {args : List String}
    {planned : Plan} (hplan : plan surroundings args = .ok planned)
    (hrepl : planned.arguments.subcommand = some .repl) (hcolors : planned.colors = false)
    {front back : List String} {last : String} (hfront : ∀ line ∈ front, '\n' ∉ line.toList)
    (hback : ∀ line ∈ back, '\n' ∉ line.toList) (hlast : '\n' ∉ last.toList) :
    let first := run surroundings args (endedLines front)
    let second := run surroundings args (endedLines back ++ last)
    let both := run surroundings args (endedLines (front ++ back) ++ last)
    second.Answers planned (textsOf back last) ∧
    ((∀ line ∈ front, ¬endsSession (lineText line.toList)) →
      Outcome.Concatenates planned.source first second both) ∧
    ∀ line : String, '\x08' ∉ line.toList → lineText line.toList = Text.trim line := by
  intro first second both
  have hanswers := answers_of_plan hplan hrepl hcolors
  have hfirst : first.Answers planned (textsOf front "") := by
    rw [← lineTexts_endedLines hfront (by simp), String.append_empty]
    exact hanswers _
  have hsecond : second.Answers planned (textsOf back last) := by
    rw [← lineTexts_endedLines hback hlast]
    exact hanswers _
  have hboth : both.Answers planned (textsOf front "" ++ textsOf back last) := by
    have hlines : ∀ line ∈ front ++ back, '\n' ∉ line.toList := fun line hline =>
      (List.mem_append.mp hline).elim (hfront line) (hback line)
    rw [← textsOf_append, ← lineTexts_endedLines hlines hlast]
    exact hanswers _
  refine ⟨hsecond, fun hends => ?_, fun line => lineText_eq_trim⟩
  have htexts : ∀ text ∈ textsOf front "", ¬endsSession text := by
    simpa [textsOf] using hends
  exact Outcome.Answers.concatenates htexts hfirst hsecond hboth

theorem run_repl_eq_contributions_of_failing_line :
    ∃ surroundings planned, plan surroundings ["repl"] = .ok planned ∧
      planned.arguments.subcommand = some .repl ∧ planned.colors = false ∧
      ∃ first second both,
        first = run surroundings ["repl"] "\nDROP;\n" ∧
        second = run surroundings ["repl"] " DROP TABLE t\n .exit\n.types" ∧
        both = run surroundings ["repl"] "\nDROP;\n DROP TABLE t\n .exit\n.types" ∧
        second.transcript.standardOutput = bannerText ++ "→ DROP TABLE \"t\";\n\n" ∧
        Outcome.Concatenates .stream first second both := by
  let surroundings : Surroundings :=
    { environment := fun _ => none, file := fun _ => { isFile := false, content := .error "" } }
  let planned : Plan :=
    { arguments := { subcommand := some .repl }, colors := false, format := .cql,
      logLevel := .warn, source := .stream, historyRefusal := none }
  have hplan : plan surroundings ["repl"] = .ok planned := by rfl
  have hfront : ∀ line ∈ ["", "DROP;"], '\n' ∉ line.toList := by decide
  have hback : ∀ line ∈ [" DROP TABLE t", " .exit"], '\n' ∉ line.toList := by decide
  have hlast : '\n' ∉ ".types".toList := by decide
  obtain ⟨hanswers, hcut, -⟩ := run_repl_eq_contributions hplan rfl rfl hfront hback hlast
  have hends : ∀ line ∈ ["", "DROP;"], ¬endsSession (lineText line.toList) := by decide +kernel
  have hout : answersOut .stream (answered (textsOf [" DROP TABLE t", " .exit"] ".types")) =
      "→ DROP TABLE \"t\";\n\n" := by
    decide +kernel
  have hsecond := hanswers.standardOutput_eq
  rw [show planned.source = .stream from rfl, hout] at hsecond
  exact ⟨surroundings, planned, hplan, rfl, rfl, _, _, _, rfl, rfl, rfl,
    hsecond.trans String.append_empty, hcut hends⟩

end CqlCompiler.CommandLine
