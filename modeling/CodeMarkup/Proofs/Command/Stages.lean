import CodeMarkup.Proofs.Command.LineNumbers
import CodeMarkup.Proofs.Text.Utf8

/-!
The stages of the command. It succeeds if the options make a formatter, a lexer is found, the source
is readable and its tokens have markup, with line numbers that can be written. Otherwise the first
stage that fails is the one that is reported, and the stages after it leave no trace. Without an
output file chunks are shown as they are made, each of them without its control sequences.
-/

namespace CodeMarkup

namespace Command

/-- The bytes of the source. -/
def sourceBytes (s : Setup) (p : Path) : Except SystemError (List UInt8) :=
  if isStdin p then .ok s.stdin else s.workspace.read p

/-- The tokens to render once a lexer has been found and the source been read: those given or, from
`text` and `output`, those made of the source. -/
def tokensOf (s : Setup) (l : Lexer) (source : String) : List Token :=
  s.tokens.getD (l.tokens (String.ofList (unifyBreaks source.toList)))

/-- The stages in front of the tokens succeed: the options make the formatter `f`, the lexer `l` is
found, and the bytes of the source are those of the text `source`. -/
structure Ready (s : Setup) (r : Request) (f : Formatter) (l : Lexer) (source : String) :
    Prop where
  formatter : (Formatter.ofSettings (settings r) s.session).1 = .ok f
  lexer : chooseLexer s r = .ok l
  bytes : sourceBytes s r.source = .ok source.toUTF8.data.toList

/-- The notices of a rendering that logs some records. -/
def renderNotices (records : List LogRecord) : List Notice :=
  [.phase "Read source"] ++ records.map .log ++ [.phase "Render"]

/-- The first stage that fails, with its failure, the notices up to it and the chunks that have been
shown by then. -/
inductive FailsFirst (s : Setup) (r : Request) : Failure → List Notice → List String → Prop
  | options {e : ConfigurationError} {session : Session} :
      Formatter.ofSettings (settings r) s.session = (.error e, session) →
      FailsFirst s r (.configuration e) (session.log.map .log) []
  | lexer {f : Formatter} {e : LexerError} :
      (Formatter.ofSettings (settings r) s.session).1 = .ok f → chooseLexer s r = .error e →
      FailsFirst s r (.lexer e) [] []
  | source {f : Formatter} {l : Lexer} {e : SystemError} :
      (Formatter.ofSettings (settings r) s.session).1 = .ok f → chooseLexer s r = .ok l →
      sourceBytes s r.source = .error e →
      FailsFirst s r (.system e) [.phase "Read source"] []
  | decoding {f : Formatter} {l : Lexer} {bytes : List UInt8} {e : Text.Utf8Error} :
      (Formatter.ofSettings (settings r) s.session).1 = .ok f → chooseLexer s r = .ok l →
      sourceBytes s r.source = .ok bytes → Text.decodeUtf8 bytes = .error e →
      FailsFirst s r (.decoding e) [.phase "Read source"] []
  | token {f : Formatter} {l : Lexer} {source : String} {before : List Token}
      {chunks : List String} {t : Taxonomy} {bad : Token} {failure : SpanFailure} :
      Ready s r f l source →
      f.options.spanRules.StopsAt s.session.taxonomy (tokensOf s l source) before chunks t bad
        failure →
      FailsFirst s r (.run (.span failure)) (renderNotices (s.session.log ++ [.span failure]))
        (if r.lineNumbers then [] else f.flatOpening ++ chunks)
  | lineNumber {f : Formatter} {l : Lexer} {source : String} {chunks : List String} {t : Taxonomy}
      {e : LongNumber} :
      Ready s r f l source →
      f.options.spanRules.Renders s.session.taxonomy (tokensOf s l source) chunks t →
      r.lineNumbers = true →
      Gutter.numbers f.options.startLine (lineCount (tokensOf s l source)) = .error e →
      FailsFirst s r (.run (.lineNumber e))
        (renderNotices (s.session.log ++
          [.drained (lineCount (tokensOf s l source)) f.options.startLine f.options.layout])) []

variable {s : Setup} {args : List String} {r : Request} {f : Formatter} {l : Lexer}
  {source : String} {failure : Failure} {notices : List Notice} {visible chunks : List String}
  {t : Taxonomy}

/-! ### The stages in front of the tokens -/

theorem readSource_eq (s : Setup) (p : Path) :
    readSource s p = match sourceBytes s p with
      | .error e => .error (.system e)
      | .ok bytes => match Text.decodeUtf8 bytes with
        | .error e => .error (.decoding e)
        | .ok cs => .ok (String.ofList (unifyBreaks cs)) := by
  unfold readSource sourceBytes
  by_cases hstdin : isStdin p = true
  · simp only [if_pos hstdin]
    cases hchars : Text.decodeUtf8 s.stdin <;>
      simp [hchars, bind, Except.bind, pure, Except.pure, Except.mapError]
  · simp only [if_neg hstdin]
    cases hbytes : s.workspace.read p with
    | error e => simp [bind, Except.bind, Except.mapError]
    | ok bytes =>
      cases hchars : Text.decodeUtf8 bytes <;>
        simp [hchars, bind, Except.bind, pure, Except.pure, Except.mapError]

theorem ofSettings_of_formatter (h : (Formatter.ofSettings (settings r) s.session).1 = .ok f) :
    Formatter.ofSettings (settings r) s.session = (.ok f, s.session) := by
  obtain ⟨o, hoptions, hf⟩ := Formatter.ofSettings_eq_ok_iff.mp h
  exact Formatter.ofSettings_of_ok hoptions hf

theorem Ready.readSource_eq_ok (h : Ready s r f l source) :
    readSource s r.source = .ok (String.ofList (unifyBreaks source.toList)) := by
  have hchars : Text.decodeUtf8 source.toUTF8.data.toList = .ok source.toList := by
    rw [Text.decodeUtf8_eq_ok_iff, String.ofList_toList]
  simp only [readSource_eq, h.bytes, hchars]

theorem Ready.prepare_eq (h : Ready s r f l source) :
    prepare s r = .ok (f.stream s.session.begin (tokensOf s l source)) :=
  prepare_eq_ok (ofSettings_of_formatter h.formatter) h.lexer h.readSource_eq_ok

theorem Ready.lineNumbers_eq (h : Ready s r f l source) :
    f.options.lineNumbers = r.lineNumbers := by
  obtain ⟨o, hoptions, hf⟩ := Formatter.ofSettings_eq_ok_iff.mp h.formatter
  obtain ⟨rfl, -⟩ := Formatter.of_ofOptions hf
  exact (options_of_settings hoptions).2.1

/-! ### The first stage that fails -/

theorem render_of_failure {made : Run} {e : RunFailure} (hr : r.output = none)
    (h : made.failure = some e) :
    render s r notices made =
      failed s r (String.join (made.chunks.map Text.withoutControls))
        (notices ++ made.last.log.map .log ++ [.phase "Render"]) (.run e) := by
  simp only [render, hr, h]

/-- The first stage that fails decides what the command leaves behind. -/
theorem FailsFirst.run_eq (h : FailsFirst s r failure notices visible)
    (hcall : Arguments.call s.workspace.isDirectory args = .ok (.request r))
    (hr : r.output = none) :
    run s args = failed s r (String.join (visible.map Text.withoutControls)) notices failure := by
  rw [run_of_request hcall]
  cases h with
  | options hformatter =>
    simp only [prepare, hformatter]
    rfl
  | lexer hformatter hlexer =>
    simp only [prepare, ofSettings_of_formatter hformatter, hlexer]
    rfl
  | source hformatter hlexer hbytes =>
    simp only [prepare, ofSettings_of_formatter hformatter, hlexer, readSource_eq, hbytes]
    rfl
  | decoding hformatter hlexer hbytes hchars =>
    simp only [prepare, ofSettings_of_formatter hformatter, hlexer, readSource_eq, hbytes, hchars]
    rfl
  | token hready hstops =>
    obtain ⟨hfailure, hchunks, hlog⟩ :=
      Formatter.stream_of_stopsAt (p := s.session.begin) hstops
    rw [hready.prepare_eq]
    simp only [render_of_failure hr hfailure, hchunks, hlog, hready.lineNumbers_eq]
    rfl
  | lineNumber hready hrenders hnumbers he =>
    obtain ⟨hfailure, hchunks, hlog⟩ := Formatter.stream_of_numbers (p := s.session.begin) hrenders
      (hready.lineNumbers_eq.trans hnumbers) he
    rw [hready.prepare_eq]
    simp only [render_of_failure hr hfailure, hchunks, hlog]
    rfl

/-- Every stage succeeds or one of them is the first that fails. -/
theorem succeeds_or_failsFirst (s : Setup) (r : Request) :
    (∃ f l source chunks t, Ready s r f l source ∧
      f.options.spanRules.Renders s.session.taxonomy (tokensOf s l source) chunks t ∧
      (r.lineNumbers = true → f.options.NumbersFit (lineCount (tokensOf s l source)))) ∨
    ∃ failure notices visible, FailsFirst s r failure notices visible := by
  rcases hsettings : Formatter.ofSettings (settings r) s.session with ⟨e | f, session⟩
  · exact .inr ⟨_, _, _, .options hsettings⟩
  have hformatter : (Formatter.ofSettings (settings r) s.session).1 = .ok f := by rw [hsettings]
  cases hlexer : chooseLexer s r with
  | error e => exact .inr ⟨_, _, _, .lexer hformatter hlexer⟩
  | ok l =>
    cases hbytes : sourceBytes s r.source with
    | error e => exact .inr ⟨_, _, _, .source hformatter hlexer hbytes⟩
    | ok bytes =>
      cases hchars : Text.decodeUtf8 bytes with
      | error e => exact .inr ⟨_, _, _, .decoding hformatter hlexer hbytes hchars⟩
      | ok cs =>
        rw [Text.decodeUtf8_eq_ok_iff.mp hchars] at hbytes
        have hready : Ready s r f l (String.ofList cs) := ⟨hformatter, hlexer, hbytes⟩
        rcases f.options.spanRules.renders_or_stopsAt s.session.taxonomy
          (tokensOf s l (String.ofList cs)) with ⟨chunks, t, hrenders⟩ | ⟨_, _, _, _, _, hstops⟩
        · by_cases hfits : r.lineNumbers = true →
            f.options.NumbersFit (lineCount (tokensOf s l (String.ofList cs)))
          · exact .inl ⟨f, l, _, chunks, t, hready, hrenders, hfits⟩
          · rw [Classical.not_imp] at hfits
            obtain ⟨e, he⟩ := Formatter.exists_numbers_of_not_fits hfits.2
            exact .inr ⟨_, _, _, .lineNumber hready hrenders hfits.1 he⟩
        · exact .inr ⟨_, _, _, .token hready hstops⟩

theorem Ready.run_eq (h : Ready s r f l source)
    (hcall : Arguments.call s.workspace.isDirectory args = .ok (.request r)) :
    run s args = render s r [.phase "Read source"]
      (f.stream s.session.begin (tokensOf s l source)) := by
  rw [run_of_request hcall, h.prepare_eq]

theorem Ready.exitCode_eq_zero (h : Ready s r f l source)
    (hrenders : f.options.spanRules.Renders s.session.taxonomy (tokensOf s l source) chunks t)
    (hfits : r.lineNumbers = true → f.options.NumbersFit (lineCount (tokensOf s l source)))
    (hcall : Arguments.call s.workspace.isDirectory args = .ok (.request r))
    (hr : r.output = none) : (run s args).exitCode = 0 := by
  have hfailure : (f.stream s.session.begin (tokensOf s l source)).failure = none := by
    refine Formatter.stream_of_renders hrenders fun hnumbers => hfits ?_
    rw [← h.lineNumbers_eq, hnumbers]
  rw [h.run_eq hcall]
  exact (render_stdout_of_ok s _ hr hfailure).1

/-- What a command without an output file shows once it succeeds. -/
theorem Ready.shown_of_exitCode (h : Ready s r f l source)
    (hcall : Arguments.call s.workspace.isDirectory args = .ok (.request r))
    (hr : r.output = none) (hexit : (run s args).exitCode = 0) :
    (f.stream s.session.begin (tokensOf s l source)).failure = none ∧
      (run s args).stdout = String.join
        ((f.stream s.session.begin (tokensOf s l source)).chunks.map Text.withoutControls) := by
  rw [h.run_eq hcall] at hexit ⊢
  cases hfailure : (f.stream s.session.begin (tokensOf s l source)).failure with
  | some e =>
    rw [render_stdout_of_error s _ hr hfailure] at hexit
    cases hexit
  | none => exact ⟨rfl, (render_stdout_of_ok s _ hr hfailure).2⟩

/-! ### Messages -/

/-- Whether a notice is printed only if it is asked for. -/
def Notice.isQuiet : Notice → Bool
  | log _ | phase _ => true
  | _ => false

theorem FailsFirst.quiet (h : FailsFirst s r failure notices visible) :
    ∀ n ∈ notices, n.isQuiet = true := by
  have hlog (records : List LogRecord) : ∀ n ∈ records.map Notice.log, n.isQuiet = true := by
    simp [Notice.isQuiet]
  have hphase (label : String) : ∀ n ∈ [Notice.phase label], n.isQuiet = true := by
    simp [Notice.isQuiet]
  have hrender (records : List LogRecord) : ∀ n ∈ renderNotices records, n.isQuiet = true := by
    rw [renderNotices, List.forall_mem_append, List.forall_mem_append]
    exact ⟨⟨hphase _, hlog records⟩, hphase _⟩
  cases h with
  | options _ => exact hlog _
  | lexer _ _ => nofun
  | source _ _ _ => exact hphase _
  | decoding _ _ _ _ => exact hphase _
  | token _ _ => exact hrender _
  | lineNumber _ _ _ _ => exact hrender _

theorem printNotices_append_failure (p : Printing) (start : Float) (clock : Clock)
    (notices : List Notice) (message : String) :
    printNotices p start clock (notices ++ [.failure message]) =
      printNotices p start clock notices ++
        (echoed message ++ if p.debug then "<traceback>" else "") := by
  induction notices generalizing clock with
  | nil => simp [printNotices, printNotice]
  | cons n notices ih => simp only [List.cons_append, printNotices, ih, String.append_assoc]

theorem printNotices_of_quiet {start : Float} {clock : Clock}
    (h : ∀ n ∈ notices, n.isQuiet = true) : printNotices {} start clock notices = "" := by
  induction notices generalizing clock with
  | nil => rfl
  | cons n notices ih =>
    have hrest : printNotices {} start clock notices = "" :=
      ih fun m hm => h m (List.mem_cons_of_mem _ hm)
    have hquiet := h n List.mem_cons_self
    cases n with
    | log _ | phase _ => simpa [printNotices, printNotice] using hrest
    | usage _ | failure _ | wrote _ => cases hquiet

/-- Without an output file the command succeeds exactly if all stages do, and then it shows the
markup of the tokens. Otherwise the first stage that fails is reported and nothing is shown, but for
what flat markup has in front of the first token that has none. Chunks are shown as they are unless
they have control sequences. -/
theorem run_stages (hcall : Arguments.call s.workspace.isDirectory args = .ok (.request r))
    (hr : r.output = none) :
    ((run s args).exitCode = 0 ↔ ∃ f l source chunks t, Ready s r f l source ∧
      f.options.spanRules.Renders s.session.taxonomy (tokensOf s l source) chunks t ∧
      (r.lineNumbers = true → f.options.NumbersFit (lineCount (tokensOf s l source)))) ∧
    (∀ f l source, Ready s r f l source → (run s args).exitCode = 0 →
      ∃ made, made = f.stream s.session.begin (tokensOf s l source) ∧
        made.text = .ok (String.join made.chunks) ∧
        (run s args).stdout = String.join (made.chunks.map Text.withoutControls) ∧
        ((run s args).stdout = String.join made.chunks ↔
          ∀ chunk ∈ made.chunks, ¬ Text.HasControls chunk)) ∧
    ((run s args).exitCode ≠ 0 →
      ∃ failure notices visible, FailsFirst s r failure notices visible) ∧
    ∀ failure notices visible, FailsFirst s r failure notices visible →
      run s args = ⟨1, String.join (visible.map Text.withoutControls),
        notices ++ [.failure (failure.message r.source)], s.workspace⟩ ∧
      ((run s args).stdout = String.join visible ↔
        ∀ chunk ∈ visible, ¬ Text.HasControls chunk) ∧
      (∀ clock, (run s args).stderr {} clock = echoed (failure.message r.source)) ∧
      ∀ p clock, ∃ printed, (run s args).stderr p clock = printed ++
        (echoed (failure.message r.source) ++ if p.debug then "<traceback>" else "") := by
  refine ⟨⟨fun hexit => ?_, ?_⟩, fun f l source hready hexit => ?_, fun hexit => ?_,
    fun failure notices visible h => ?_⟩
  · rcases succeeds_or_failsFirst s r with hsucceeds | ⟨failure, notices, visible, h⟩
    · exact hsucceeds
    · rw [h.run_eq hcall hr] at hexit
      cases hexit
  · rintro ⟨f, l, source, chunks, t, hready, hrenders, hfits⟩
    exact hready.exitCode_eq_zero hrenders hfits hcall hr
  · obtain ⟨hfailure, hstdout⟩ := hready.shown_of_exitCode hcall hr hexit
    refine ⟨_, rfl, Run.text_eq_ok_iff.mpr ⟨hfailure, rfl⟩, hstdout, ?_⟩
    rw [hstdout, Text.join_withoutControls_eq_iff]
  · rcases succeeds_or_failsFirst s r with ⟨f, l, source, chunks, t, hready, hrenders, hfits⟩ | h
    · exact absurd (hready.exitCode_eq_zero hrenders hfits hcall hr) hexit
    · exact h
  · have hrun := h.run_eq hcall hr
    have hstderr (p : Printing) (clock : Clock) : (run s args).stderr p clock =
        printNotices p clock.read.1 clock.read.2 notices ++
          (echoed (failure.message r.source) ++ if p.debug then "<traceback>" else "") := by
      rw [hrun]
      exact printNotices_append_failure _ _ _ _ _
    refine ⟨hrun, ?_, fun clock => ?_, fun p clock => ⟨_, hstderr p clock⟩⟩
    · rw [hrun, ← Text.join_withoutControls_eq_iff]
      rfl
    · rw [hstderr, printNotices_of_quiet h.quiet]
      simp

/-- A command that is given three tokens, of which the second has no kind. -/
def unknownSetup : Setup :=
  { tokens := some [⟨.kind .whitespace, "a"⟩, ⟨.value .null, "b"⟩, ⟨.kind .whitespace, "c"⟩] }

theorem ready_of_stdin {tokens : List Token} :
    Ready { tokens := some tokens } stdinRequest Formatter.standard .plain "" where
  formatter := by
    have hoptions : Options.ofSettings ({ tokens := some tokens } : Setup).session.taxonomy
        (settings stdinRequest) = .ok {} := rfl
    rw [Formatter.ofSettings_of_ok hoptions Formatter.ofOptions_default]
  lexer := rfl
  bytes := rfl

theorem failsFirst_unknown :
    FailsFirst unknownSetup stdinRequest (.run (.span (.unresolved (.value .null) "b")))
      (renderNotices [.span (.unresolved (.value .null) "b")])
      (Formatter.standard.flatOpening ++ [SpanRules.element "class" "w" (escapeText "a")]) := by
  have hstops : Formatter.standard.options.spanRules.StopsAt unknownSetup.session.taxonomy
      (tokensOf unknownSetup .plain "") [⟨.kind .whitespace, "a"⟩]
      [SpanRules.element "class" "w" (escapeText "a")] _ ⟨.value .null, "b"⟩
      (.unresolved (.value .null) "b") :=
    ⟨⟨[⟨.kind .whitespace, "c"⟩], rfl⟩, .cons (Formatter.renderKind_standard "a") .nil, rfl⟩
  exact .token ready_of_stdin hstops

theorem run_stages_unknown :
    Arguments.call unknownSetup.workspace.isDirectory ["-"] = .ok (.request stdinRequest) ∧
      stdinRequest.output = none ∧ (run unknownSetup ["-"]).exitCode = 1 ∧
      (run unknownSetup ["-"]).stdout =
        "<pre class=\"highlight\"><code><span class=\"w\">a</span>" ∧
      ∀ clock, (run unknownSetup ["-"]).stderr {} clock =
        "Error: Unknown token kind: None for 'b'\n" := by
  have hcall := call_stdin unknownSetup.workspace.isDirectory
  obtain ⟨-, -, -, hfailed⟩ := run_stages hcall rfl
  obtain ⟨hrun, -, hstderr, -⟩ := hfailed _ _ _ failsFirst_unknown
  refine ⟨hcall, rfl, ?_, ?_, fun clock => ?_⟩
  · rw [hrun]
  · rw [hrun]
    rfl
  · rw [hstderr]
    rfl

/-- A text that sets a color is rendered with the sequence and shown without it. -/
theorem shown_colored :
    Ready (blankSetup "\x1b[31mred\n") stdinRequest Formatter.standard .plain "" ∧
      (run (blankSetup "\x1b[31mred\n") ["-"]).exitCode = 0 ∧
      ∃ markup, (Formatter.standard.stream (blankSetup "\x1b[31mred\n").session.begin
          (tokensOf (blankSetup "\x1b[31mred\n") .plain "")).text = .ok markup ∧
        (run (blankSetup "\x1b[31mred\n") ["-"]).stdout ≠ markup := by
  obtain ⟨hsuccess, hchunks⟩ := Formatter.flat_standard {} "\x1b[31mred\n"
  obtain ⟨-, -, hexit, hstdout⟩ := run_blankSetup "\x1b[31mred\n" hchunks
  have htokens : tokensOf (blankSetup "\x1b[31mred\n") .plain "" =
      Formatter.blankTokens "\x1b[31mred\n" := rfl
  have hbegin : (blankSetup "\x1b[31mred\n").session.begin = {} := rfl
  have hstream (p : Progress) (tokens : List Token) :
      Formatter.standard.stream p tokens = Formatter.standard.flat p tokens := rfl
  have hstripped : (run (blankSetup "\x1b[31mred\n") ["-"]).stdout =
      "<pre class=\"highlight\"><code><span class=\"w\">red\n</span></code></pre>\n" := by
    rw [hstdout]
    rfl
  rw [htokens, hbegin, hstream, hstripped]
  refine ⟨ready_of_stdin, hexit,
    "<pre class=\"highlight\"><code><span class=\"w\">\x1b[31mred\n</span></code></pre>\n", ?_,
    by decide⟩
  refine Run.text_eq_ok_iff.mpr ⟨hsuccess, ?_⟩
  rw [hchunks]
  rfl

end Command

end CodeMarkup
