import CodeMarkup.Proofs.Command.Stages

/-!
Diagnostics. Debug notices and reports of phases are printed on the standard error and go nowhere
else: the exit code, the standard output and the files are the same whether they are asked for or
not. With reports each phase that is entered has one, also if it fails, and its failure is the same
as without them.
-/

namespace CodeMarkup

/-! ### Phases -/

namespace Phase

def failure? : Phase → Option String
  | mk _ _ _ failure => failure

mutual

/-- The phases inside a phase and the phase itself, in the order in which they end. -/
def ended : Phase → List Phase
  | mk label start inner failure => endedAll inner ++ [mk label start inner failure]

def endedAll : List Phase → List Phase
  | [] => []
  | p :: ps => p.ended ++ endedAll ps

end

/-- A line is the report of a phase, with whatever times. -/
def ReportedBy : Phase → String → Prop
  | mk label start inner _, line =>
    ∃ started now, line = Timing.report (label.text inner.length) started now start

/-- What phases that end leave behind. Their failures are caught with reports and without; with
reports there is one for each phase, and without them no clock is read. -/
structure Leave (enabled : Bool) (phases : List Phase) (before after : PhaseLog) : Prop where
  failures : after.failures = before.failures ++ phases.filterMap failure?
  reports : enabled = true → ∃ lines, after.reports = before.reports ++ lines ∧
    List.Forall₂ ReportedBy phases lines
  silence : enabled = false → after.reports = before.reports ∧ after.clock = before.clock

variable {enabled : Bool} {ps qs : List Phase} {log log' log'' : PhaseLog}

theorem Leave.nil (enabled : Bool) (log : PhaseLog) : Leave enabled [] log log :=
  ⟨(List.append_nil _).symm, fun _ => ⟨[], (List.append_nil _).symm, .nil⟩, fun _ => ⟨rfl, rfl⟩⟩

theorem Leave.append (h : Leave enabled ps log log') (h' : Leave enabled qs log' log'') :
    Leave enabled (ps ++ qs) log log'' where
  failures := by
    rw [h'.failures, h.failures, List.filterMap_append, List.append_assoc]
  reports := by
    intro henabled
    obtain ⟨lines, hlines, hreported⟩ := h.reports henabled
    obtain ⟨lines', hlines', hreported'⟩ := h'.reports henabled
    refine ⟨lines ++ lines', ?_, List.rel_append hreported hreported'⟩
    rw [hlines', hlines, List.append_assoc]
  silence := by
    intro henabled
    obtain ⟨hreports, hclock⟩ := h.silence henabled
    obtain ⟨hreports', hclock'⟩ := h'.silence henabled
    exact ⟨hreports'.trans hreports, hclock'.trans hclock⟩

/-- A phase that is not reported leaves its failure. -/
theorem leave_failure (p : Phase) (log : PhaseLog) :
    Leave false [p] log { log with failures := log.failures ++ p.failure?.toList } := by
  refine ⟨?_, nofun, fun _ => ⟨rfl, rfl⟩⟩
  cases h : p.failure? <;> simp [h]

/-- A phase that is reported leaves its report and its failure, whatever the clock was. -/
theorem leave_report {p : Phase} {line : String} (hline : ReportedBy p line) (log : PhaseLog)
    (clock : Clock) :
    Leave true [p] log
      { clock
        reports := log.reports ++ [line]
        failures := log.failures ++ p.failure?.toList } := by
  refine ⟨?_, fun _ => ⟨[line], rfl, .cons hline .nil⟩, nofun⟩
  cases h : p.failure? <;> simp [h]

/-- What is timed leaves what it leaves untimed, and after that the phase. -/
theorem leave_timed {inner : List Phase} {body : PhaseLog → PhaseLog}
    (hbody : ∀ log, Leave enabled inner log (body log)) {p : Phase} {label : String}
    {start : Option Float}
    (hline : ∀ started now, ReportedBy p (Timing.report label started now start))
    (log : PhaseLog) :
    Leave enabled (inner ++ [p]) log
      { log.timed enabled label start body with
        failures := (log.timed enabled label start body).failures ++ p.failure?.toList } := by
  cases enabled with
  | false =>
    rw [PhaseLog.timed_false]
    exact (hbody log).append (leave_failure p (body log))
  | true =>
    -- The clock is read before the body is run.
    have hinner := hbody { log with clock := log.clock.read.2 }
    have hstarted : Leave true inner log (body { log with clock := log.clock.read.2 }) :=
      ⟨hinner.failures, hinner.reports, nofun⟩
    exact hstarted.append (leave_report (hline _ _) _ _)

mutual

theorem leave_run (enabled : Bool) (p : Phase) (log : PhaseLog) :
    Leave enabled p.ended log (p.run enabled log) := by
  obtain ⟨label, start, inner, failure⟩ := p
  have hreported (started now : Float) : ReportedBy (mk label start inner failure)
      (Timing.report (label.text inner.length) started now start) := ⟨started, now, rfl⟩
  rw [ended, run]
  exact leave_timed (leave_runAll enabled inner) hreported log

theorem leave_runAll (enabled : Bool) (ps : List Phase) (log : PhaseLog) :
    Leave enabled (endedAll ps) log (runAll enabled ps log) := by
  cases ps with
  | nil => exact Leave.nil enabled log
  | cons p ps =>
    rw [endedAll, runAll]
    exact (leave_run enabled p log).append (leave_runAll enabled ps (p.run enabled log))

end

end Phase

namespace Command

/-! ### Notices -/

/-- The text of a notice where phases are not reported. -/
def Notice.text (debug : Bool) (n : Notice) : String :=
  (printNotice { debug } 0 {} n).1

def Notice.isPhase : Notice → Bool
  | phase _ => true
  | _ => false

/-- A line is the report of a phase, or there is none where none is shown. -/
def ReportedIf (shown : Bool) (label : String) (start : Float) (line : String) : Prop :=
  if shown then ∃ started now, line = Timing.report label started now (some start) else line = ""

variable {notices : List Notice}

theorem printNotice_of_not_isPhase {n : Notice} (h : n.isPhase = false) (p : Printing)
    (start : Float) (clock : Clock) :
    printNotice p start clock n = (n.text p.debug, clock) := by
  cases n with
  | phase label => cases h
  | _ => rfl

theorem printNotices_append (h : ∀ n ∈ notices, n.isPhase = false) (p : Printing) (start : Float)
    (clock : Clock) (more : List Notice) :
    printNotices p start clock (notices ++ more) =
      String.join (notices.map (Notice.text p.debug)) ++ printNotices p start clock more := by
  induction notices with
  | nil => simp
  | cons n notices ih =>
    obtain ⟨hn, hrest⟩ := List.forall_mem_cons.mp h
    simp only [List.cons_append, printNotices, printNotice_of_not_isPhase hn, ih hrest,
      List.map_cons, String.join_cons, String.append_assoc]

/-- The notice of a phase, if it is entered. -/
def phaseIf (entered : Bool) (label : String) : List Notice :=
  if entered then [.phase label] else []

/-- The notice of a phase is printed as its report, or as nothing. -/
theorem printNotice_phase (p : Printing) (start : Float) (clock : Clock) (label : String) :
    ReportedIf p.timing label start (printNotice p start clock (.phase label)).1 := by
  have hline (started now : Float) : Phase.ReportedBy (.mk (.fixed label) (some start) [] none)
      (Timing.report label started now (some start)) := ⟨started, now, rfl⟩
  have hleave := Phase.leave_timed (Phase.Leave.nil p.timing) hline { clock }
  show ReportedIf p.timing label start
    (String.join (PhaseLog.timed { clock } p.timing label (some start) id).reports)
  cases htiming : p.timing with
  | false =>
    rw [htiming] at hleave
    obtain ⟨hreports, -⟩ := hleave.silence rfl
    exact congrArg String.join hreports
  | true =>
    rw [htiming] at hleave
    obtain ⟨lines, hreports, hlines⟩ := hleave.reports rfl
    obtain ⟨line, rest, ⟨started, now, rfl⟩, hrest, rfl⟩ := List.forall₂_cons_left_iff.mp hlines
    obtain rfl := List.forall₂_nil_left_iff.mp hrest
    exact ⟨started, now, (congrArg String.join hreports).trans String.empty_append⟩

theorem printNotices_phaseIf (p : Printing) (start : Float) (clock : Clock) (entered : Bool)
    (label : String) (more : List Notice) :
    ∃ line clock', printNotices p start clock (phaseIf entered label ++ more) =
        line ++ printNotices p start clock' more ∧
      ReportedIf (p.timing && entered) label start line := by
  cases entered with
  | false =>
    refine ⟨"", clock, (String.empty_append).symm, ?_⟩
    rw [Bool.and_false]
    rfl
  | true =>
    refine ⟨_, (printNotice p start clock (.phase label)).2, rfl, ?_⟩
    rw [Bool.and_true]
    exact printNotice_phase p start clock label

/-! ### Phases of the command -/

/-- Whether the source comes to be read: there are a formatter and a lexer. -/
def entersReading (s : Setup) (r : Request) : Bool :=
  (Formatter.ofSettings (settings r) s.session).1.isOk && (chooseLexer s r).isOk

/-- Whether tokens come to be rendered: the source has been read. -/
def entersRendering (s : Setup) (r : Request) : Bool :=
  entersReading s r && (readSource s r.source).isOk

/-- Both phases are entered once all stages in front of the tokens succeed. -/
theorem Ready.enters {s : Setup} {r : Request} {f : Formatter} {l : Lexer} {source : String}
    (h : Ready s r f l source) : entersReading s r = true ∧ entersRendering s r = true := by
  have hreading : entersReading s r = true := by
    rw [entersReading, h.formatter, h.lexer]
    rfl
  refine ⟨hreading, ?_⟩
  rw [entersRendering, hreading, h.readSource_eq_ok]
  rfl

/-- The last notices of a command, with its exit code: a file is named that has been written, or a
failure. -/
inductive Ending (r : Request) : Nat → List Notice → Prop
  | success : Ending r 0 (r.output.toList.map .wrote)
  | failure (f : Failure) : Ending r 1 [.failure (f.message r.source)]

theorem ending_render (s : Setup) (r : Request) (notices : List Notice) (made : Run) :
    ∃ ending, (render s r notices made).notices =
        notices ++ made.last.log.map .log ++ [.phase "Render"] ++ ending ∧
      Ending r (render s r notices made).exitCode ending := by
  unfold render
  cases houtput : r.output with
  | none =>
    cases hfailure : made.failure with
    | none =>
      have hsuccess := Ending.success (r := r)
      rw [houtput] at hsuccess
      exact ⟨[], (List.append_nil _).symm, hsuccess⟩
    | some f => exact ⟨_, rfl, .failure (.run f)⟩
  | some output =>
    cases htext : made.text with
    | error f => exact ⟨_, rfl, .failure (.run f)⟩
    | ok markup =>
      simp only
      split
      · have hsuccess := Ending.success (r := r)
        rw [houtput] at hsuccess
        exact ⟨_, rfl, hsuccess⟩
      · exact ⟨_, rfl, .failure (.system _)⟩

/-- The notices of a command are its phases, each if it is entered, with its records between them
and its ending after them. -/
theorem notices_carryOut (s : Setup) (r : Request) :
    ∃ (records : List LogRecord) (ending : List Notice), (carryOut s r).notices =
        phaseIf (entersReading s r) "Read source" ++
          (records.map .log ++ (phaseIf (entersRendering s r) "Render" ++ ending)) ∧
      Ending r (carryOut s r).exitCode ending := by
  unfold carryOut entersRendering entersReading
  rcases Formatter.ofSettings (settings r) s.session with ⟨e | f, session⟩
  · exact ⟨session.log, _, rfl, .failure (.configuration e)⟩
  cases chooseLexer s r with
  | error e => exact ⟨[], _, rfl, .failure (.lexer e)⟩
  | ok lexer =>
    cases readSource s r.source with
    | error e => exact ⟨[], _, rfl, .failure e⟩
    | ok source =>
      let made := f.stream session.begin (s.tokens.getD (lexer.tokens source))
      obtain ⟨ending, hnotices, hending⟩ := ending_render s r [.phase "Read source"] made
      refine ⟨made.last.log, ending, ?_, hending⟩
      rw [List.append_assoc, List.append_assoc] at hnotices
      exact hnotices

/-! ### What is seen of a command -/

/-- What a command leaves in the world. -/
structure Seen where
  exitCode : Nat
  stdout : String
  workspace : Workspace
  stderr : String

/-- What is seen of a command if the switch for reports is set to something or not at all. -/
def seen (s : Setup) (args : List String) (switch : Option String) (clock : Clock) : Seen :=
  let o := run s args
  let printing : Printing :=
    { debug := asksForDebug s args, timing := Timing.isEnabled switch }
  ⟨o.exitCode, o.stdout, o.workspace, o.stderr printing clock⟩

/-- The last message of a command, with its exit code: on success the file that has been written, if
there is one, and otherwise the failure. -/
def LastMessage (r : Request) (exitCode : Nat) (last : Bool → String) : Prop :=
  (exitCode = 0 ∧ ∀ debug, last debug =
    (r.output.map fun path => echoed ("Wrote " ++ path.text)).getD "") ∨
  (exitCode = 1 ∧ ∃ message, ∀ debug, last debug =
    echoed message ++ if debug then "<traceback>" else "")

theorem Ending.lastMessage {r : Request} {exitCode : Nat} {ending : List Notice}
    (h : Ending r exitCode ending) :
    LastMessage r exitCode fun debug => String.join (ending.map (Notice.text debug)) := by
  cases h with
  | success =>
    refine .inl ⟨rfl, ?_⟩
    intro debug
    cases r.output with
    | none => rfl
    | some path => exact String.empty_append
  | failure f =>
    refine .inr ⟨rfl, f.message r.source, ?_⟩
    intro debug
    exact String.empty_append

theorem Ending.not_isPhase {r : Request} {exitCode : Nat} {ending : List Notice}
    (h : Ending r exitCode ending) : ∀ n ∈ ending, n.isPhase = false := by
  cases h with
  | success => cases r.output <;> simp [Notice.isPhase]
  | failure f => simp [Notice.isPhase]

/-- Debug notices are not shown unless they are asked for. -/
theorem join_text_log (records : List LogRecord) :
    String.join ((records.map Notice.log).map (Notice.text false)) = "" := by
  induction records with
  | nil => rfl
  | cons record records ih =>
    rw [List.map_cons, List.map_cons, String.join_cons, ih]
    rfl

/-- A request is carried out in one way. On the standard error the reports of the phases that are
entered stand before and after the debug notices, and the last message after all of them. -/
theorem seen_of_call {s : Setup} {r : Request} {records : List LogRecord} {ending : List Notice}
    (hnotices : (carryOut s r).notices =
      phaseIf (entersReading s r) "Read source" ++
        (records.map .log ++ (phaseIf (entersRendering s r) "Render" ++ ending)))
    (hending : ∀ n ∈ ending, n.isPhase = false) {args : List String} {debug : Bool}
    (hcall : Arguments.call s.workspace.isDirectory args = .ok (.request { r with debug }))
    (switch : Option String) (clock : Clock) :
    ∃ first second,
      seen s args switch clock =
        ⟨(carryOut s r).exitCode, (carryOut s r).stdout, (carryOut s r).workspace,
          first ++ (String.join ((records.map Notice.log).map (Notice.text debug)) ++
            (second ++ String.join (ending.map (Notice.text debug))))⟩ ∧
      ReportedIf (Timing.isEnabled switch && entersReading s r) "Read source" clock.read.1 first ∧
      ReportedIf (Timing.isEnabled switch && entersRendering s r) "Render" clock.read.1 second := by
  have hrecords : ∀ n ∈ records.map Notice.log, n.isPhase = false := by simp [Notice.isPhase]
  have hrun : run s args = carryOut s r := by
    simp only [run, hcall]
    rfl
  have hdebug : asksForDebug s args = debug := by simp only [asksForDebug, hcall]
  obtain ⟨first, clock', hfirst, hreading⟩ := printNotices_phaseIf
    { debug, timing := Timing.isEnabled switch } clock.read.1 clock.read.2 (entersReading s r)
    "Read source" (records.map .log ++ (phaseIf (entersRendering s r) "Render" ++ ending))
  obtain ⟨second, clock'', hsecond, hrendering⟩ := printNotices_phaseIf
    { debug, timing := Timing.isEnabled switch } clock.read.1 clock' (entersRendering s r)
    "Render" ending
  have hlast := printNotices_append hending
    { debug, timing := Timing.isEnabled switch } clock.read.1 clock'' []
  rw [List.append_nil, printNotices, String.append_empty] at hlast
  rw [printNotices_append hrecords, hsecond, hlast] at hfirst
  refine ⟨first, second, ?_, hreading, hrendering⟩
  simp only [seen, hrun, hdebug, Outcome.stderr, hnotices, hfirst]

theorem seen_of_help {s : Setup} {args : List String}
    (hcall : Arguments.call s.workspace.isDirectory args = .ok .help) (switch : Option String)
    (clock : Clock) : seen s args switch clock = ⟨0, helpText, s.workspace, ""⟩ := by
  simp only [seen, run, asksForDebug, hcall]
  rfl

/-- Debug notices and reports are seen on the standard error alone. What else there is of a request
is the same with them and without; on the standard error each phase that is entered has one report,
if reports are on, and the last message comes after them, whether the phases fail or not. An option
for debug notices can stand in front of any arguments. A phase of any kind ends with the failure it
has without a report. -/
theorem diagnostics_on_stderr (s : Setup) (r : Request) :
    (∃ exitCode stdout workspace, ∃ logs last : Bool → String,
      logs false = "" ∧ LastMessage r exitCode last ∧
      ∀ args debug switch clock,
        Arguments.call s.workspace.isDirectory args = .ok (.request { r with debug }) →
        ∃ first second,
          seen s args switch clock =
            ⟨exitCode, stdout, workspace, first ++ (logs debug ++ (second ++ last debug))⟩ ∧
          ReportedIf (Timing.isEnabled switch && entersReading s r) "Read source" clock.read.1
            first ∧
          ReportedIf (Timing.isEnabled switch && entersRendering s r) "Render" clock.read.1
            second) ∧
    (∀ args switch clock, Arguments.call s.workspace.isDirectory args = .ok .help →
      seen s args switch clock = ⟨0, helpText, s.workspace, ""⟩) ∧
    (∀ args, Arguments.call s.workspace.isDirectory ("--debug" :: args) =
      (Arguments.call s.workspace.isDirectory args).map (Call.withDebug true)) ∧
    ∀ enabled phases log, Phase.Leave enabled (Phase.endedAll phases) log
      (Phase.runAll enabled phases log) := by
  refine ⟨?_, ?_, Arguments.call_debug s.workspace.isDirectory, Phase.leave_runAll⟩
  · obtain ⟨records, ending, hnotices, hending⟩ := notices_carryOut s r
    refine ⟨(carryOut s r).exitCode, (carryOut s r).stdout, (carryOut s r).workspace,
      fun debug => String.join ((records.map .log).map (Notice.text debug)), _,
      join_text_log records, hending.lastMessage, ?_⟩
    intro args debug switch clock hcall
    exact seen_of_call hnotices hending.not_isPhase hcall switch clock
  · intro args switch clock hcall
    exact seen_of_help hcall switch clock

theorem diagnostics_on_stderr_unknown :
    Arguments.call unknownSetup.workspace.isDirectory ["-"] =
        .ok (.request { stdinRequest with debug := false }) ∧
      Arguments.call unknownSetup.workspace.isDirectory ["--debug", "-"] =
        .ok (.request { stdinRequest with debug := true }) ∧
      ∃ stdout workspace logs message first second,
        seen unknownSetup ["-"] none {} = ⟨1, stdout, workspace, echoed message⟩ ∧
        seen unknownSetup ["--debug", "-"] (some "1") {} =
          ⟨1, stdout, workspace,
            first ++ (logs ++ (second ++ (echoed message ++ "<traceback>")))⟩ ∧
        ReportedIf true "Read source" 0.0 first ∧ ReportedIf true "Render" 0.0 second := by
  have hcall := call_stdin unknownSetup.workspace.isDirectory
  obtain ⟨⟨exitCode, stdout, workspace, logs, last, hlogs, hlast, hseen⟩, -, hdebug, -⟩ :=
    diagnostics_on_stderr unknownSetup stdinRequest
  have hcall' : Arguments.call unknownSetup.workspace.isDirectory ["--debug", "-"] =
      .ok (.request { stdinRequest with debug := true }) := by
    rw [hdebug, hcall]
    rfl
  have hready : Ready unknownSetup stdinRequest Formatter.standard .plain "" := ready_of_stdin
  obtain ⟨hreading, hrendering⟩ := hready.enters
  simp only [hreading, hrendering, Bool.and_true] at hseen
  refine ⟨hcall, hcall', ?_⟩
  obtain ⟨first, second, hplain, hfirst, hsecond⟩ := hseen ["-"] false none {} hcall
  obtain ⟨first', second', hall, hfirst', hsecond'⟩ :=
    hseen ["--debug", "-"] true (some "1") {} hcall'
  obtain rfl : first = "" := hfirst
  obtain rfl : second = "" := hsecond
  have hon : Timing.isEnabled (some "1") = true := by decide
  rw [hon] at hfirst' hsecond'
  have hexit : exitCode = 1 := by
    have hcode : (run unknownSetup ["-"]).exitCode = exitCode := congrArg Seen.exitCode hplain
    rw [failsFirst_unknown.run_eq hcall rfl] at hcode
    exact hcode.symm
  rcases hlast with ⟨hzero, -⟩ | ⟨-, message, hmessage⟩
  · rw [hexit] at hzero
    cases hzero
  · rw [hexit, hlogs, hmessage] at hplain
    rw [hexit, hmessage] at hall
    refine ⟨stdout, workspace, logs true, message, first', second', hplain.trans ?_, hall, hfirst',
      hsecond'⟩
    simp

end Command

end CodeMarkup
