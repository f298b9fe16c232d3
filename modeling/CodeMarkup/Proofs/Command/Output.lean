import CodeMarkup.Command
import CodeMarkup.Proofs.Command.Arguments
import CodeMarkup.Proofs.Command.Workspace
import CodeMarkup.Proofs.Formatter.Page
import CodeMarkup.Proofs.Text.ControlSequence
import CodeMarkup.Proofs.Text.Encoding

/-!
The two ways in which the command gives its markup. What it does up to the tokens is the same with
and without an output file, so both fail together, and a file is written only once there is markup
to the end. The file gets the markup as it is; the standard output loses control sequences, chunk by
chunk, so it shows what the file holds only if no chunk has one.
-/

namespace CodeMarkup

namespace Command

/-- What there is to render for a request, or why there is nothing, with the notices up to then. -/
def prepare (s : Setup) (r : Request) : Except (List Notice × Failure) Run :=
  match Formatter.ofSettings (settings r) s.session with
  | (.error e, session) => .error (session.log.map .log, .configuration e)
  | (.ok formatter, session) =>
    match chooseLexer s r with
    | .error e => .error ([], .lexer e)
    | .ok lexer =>
      match readSource s r.source with
      | .error f => .error ([.phase "Read source"], f)
      | .ok source =>
        .ok (formatter.stream session.begin (s.tokens.getD (lexer.tokens source)))

theorem carryOut_eq (s : Setup) (r : Request) :
    carryOut s r = match prepare s r with
      | .error (notices, f) => failed s r "" notices f
      | .ok run => render s r [.phase "Read source"] run := by
  unfold carryOut prepare
  rcases Formatter.ofSettings (settings r) s.session with ⟨_ | formatter, session⟩
  · rfl
  · cases chooseLexer s r with
    | error e => rfl
    | ok lexer => cases readSource s r.source <;> rfl

theorem prepare_eq_ok {s : Setup} {r : Request} {formatter : Formatter} {session : Session}
    {lexer : Lexer} {source : String}
    (hformatter : Formatter.ofSettings (settings r) s.session = (.ok formatter, session))
    (hlexer : chooseLexer s r = .ok lexer) (hsource : readSource s r.source = .ok source) :
    prepare s r =
      .ok (formatter.stream session.begin (s.tokens.getD (lexer.tokens source))) := by
  simp only [prepare, hformatter, hlexer, hsource]

/-- Whether there is markup does not depend on where it goes. -/
theorem run_of_call {s : Setup} {args : List String} {r : Request} {output : Option Path}
    (h : Arguments.call s.workspace.isDirectory args =
      .ok (.request { r with output := output })) :
    run s args = match prepare s r with
      | .error (notices, f) => failed s { r with output := output } "" notices f
      | .ok made => render s { r with output := output } [.phase "Read source"] made := by
  have hprepare : prepare s { r with output := output } = prepare s r := rfl
  simp only [run, h, carryOut_eq, hprepare]

theorem run_of_request {s : Setup} {args : List String} {r : Request}
    (h : Arguments.call s.workspace.isDirectory args = .ok (.request r)) :
    run s args = match prepare s r with
      | .error (notices, f) => failed s r "" notices f
      | .ok made => render s r [.phase "Read source"] made :=
  @run_of_call s args r r.output h

theorem run_of_prepare {s : Setup} {args : List String} {r : Request} {output : Option Path}
    {made : Run} (h : Arguments.call s.workspace.isDirectory args =
      .ok (.request { r with output := output })) (hmade : prepare s r = .ok made) :
    run s args = render s { r with output := output } [.phase "Read source"] made := by
  rw [run_of_call h, hmade]

section

variable (s : Setup) {r : Request} (notices : List Notice) {path : Path} {made : Run}
  {f : RunFailure}

theorem render_stdout_of_ok (hr : r.output = none) (h : made.failure = none) :
    (render s r notices made).exitCode = 0 ∧
      (render s r notices made).stdout = String.join (made.chunks.map Text.withoutControls) := by
  simp only [render, hr, h]
  exact ⟨trivial, trivial⟩

theorem render_stdout_of_error (hr : r.output = none) (h : made.failure = some f) :
    (render s r notices made).exitCode = 1 := by
  simp only [render, hr, h]
  rfl

/-- The whole markup is written into the file in UTF-8. -/
theorem render_file_of_ok (hr : r.output = some path) (h : made.failure = none)
    (hwrite : ∀ bytes, ∃ w, s.workspace.write path bytes = .ok w) :
    (render s r notices made).exitCode = 0 ∧ (render s r notices made).stdout = "" ∧
      s.workspace.write path (String.join made.chunks).toUTF8.data.toList =
        .ok (render s r notices made).workspace := by
  have htext : made.text = .ok (String.join made.chunks) := Run.text_eq_ok_iff.mpr ⟨h, rfl⟩
  have hbytes : (String.join made.chunks).toList.flatMap Text.Encoding.utf8.charBytes =
      (String.join made.chunks).toUTF8.data.toList :=
    Text.Encoding.bytes_utf8 _
  obtain ⟨w, hw⟩ := hwrite (String.join made.chunks).toUTF8.data.toList
  simp only [render, hr, htext, hbytes, hw]
  exact ⟨trivial, trivial, trivial⟩

theorem render_file_of_error (hr : r.output = some path) (h : made.failure = some f) :
    (render s r notices made).exitCode = 1 ∧ (render s r notices made).stdout = "" ∧
      (render s r notices made).workspace = s.workspace := by
  have htext : made.text = .error f := by simp [Run.text, h]
  simp only [render, hr, htext]
  exact ⟨rfl, rfl, rfl⟩

end

/-! ### A text of white space -/

/-- A command that is given a text of white space as its tokens. -/
def blankSetup (text : String) : Setup :=
  { tokens := some (Formatter.blankTokens text) }

/-- The request for the markup of the standard input. -/
def stdinRequest : Request :=
  { source := .ofText "-" }

theorem call_stdin (isDirectory : String → Bool) :
    Arguments.call isDirectory ["-"] = .ok (.request stdinRequest) := by
  have hplain : Argument.ofText "-" = .ok .plain := rfl
  have hread : Arguments.read ["-"] = .ok { others := ["-"] } := by
    rw [Arguments.read]
    · simp only [hplain, Arguments.read]
      rfl
    · decide
  exact Arguments.call_eq_request_iff.mpr ⟨{ others := ["-"] }, "-", hread, rfl, by simp, rfl,
    Arguments.checkPath_of_notMem (by decide), rfl⟩

theorem call_stdin_output (text : String) :
    Arguments.call (blankSetup text).workspace.isDirectory ["-o", "out.html", "-"] =
      .ok (.request { stdinRequest with output := some (.ofText "out.html") }) :=
  Arguments.call_output (call_stdin _) rfl (by decide) rfl

theorem write_blankSetup (text : String) (bytes : List UInt8) :
    ∃ w, (blankSetup text).workspace.write (.ofText "out.html") bytes = .ok w :=
  ⟨_, Workspace.write_eq_ok_iff.mpr ⟨["out.html"], rfl, rfl⟩⟩

theorem prepare_blankSetup (text : String) :
    prepare (blankSetup text) stdinRequest =
      .ok (Formatter.standard.flat {} (Formatter.blankTokens text)) := by
  have hoptions : Options.ofSettings (blankSetup text).session.taxonomy (settings stdinRequest) =
      .ok {} := rfl
  have hformatter := Formatter.ofSettings_of_ok hoptions Formatter.ofOptions_default
  have hlexer : chooseLexer (blankSetup text) stdinRequest = .ok .plain := rfl
  have hsource : readSource (blankSetup text) stdinRequest.source = .ok "" := rfl
  have htokens : (blankSetup text).tokens.getD (Lexer.plain.tokens "") =
      Formatter.blankTokens text := rfl
  have hbegin : (blankSetup text).session.begin = {} := rfl
  have hstream (p : Progress) (tokens : List Token) :
      Formatter.standard.stream p tokens = Formatter.standard.flat p tokens := rfl
  rw [prepare_eq_ok hformatter hlexer hsource, htokens, hbegin, hstream]

theorem run_blankSetup (text : String) {chunks : List String}
    (hchunks : (Formatter.standard.flat {} (Formatter.blankTokens text)).chunks = chunks) :
    (run (blankSetup text) ["-o", "out.html", "-"]).exitCode = 0 ∧
      (run (blankSetup text) ["-o", "out.html", "-"]).workspace.read (.ofText "out.html") =
        .ok (String.join chunks).toUTF8.data.toList ∧
      (run (blankSetup text) ["-"]).exitCode = 0 ∧
      (run (blankSetup text) ["-"]).stdout = String.join (chunks.map Text.withoutControls) := by
  subst hchunks
  have hsuccess := (Formatter.flat_standard {} text).1
  have hinto : { stdinRequest with output := some (.ofText "out.html") }.output =
      some (.ofText "out.html") := rfl
  have honto : stdinRequest.output = none := rfl
  obtain ⟨hexit, -, hwritten⟩ := render_file_of_ok (blankSetup text) [.phase "Read source"] hinto
    hsuccess (write_blankSetup text)
  obtain ⟨hother, hshown⟩ :=
    render_stdout_of_ok (blankSetup text) [.phase "Read source"] honto hsuccess
  have hstdout : Arguments.call (blankSetup text).workspace.isDirectory ["-"] =
      .ok (.request { stdinRequest with output := none }) := call_stdin _
  rw [run_of_prepare (call_stdin_output text) (prepare_blankSetup text),
    run_of_prepare hstdout (prepare_blankSetup text)]
  exact ⟨hexit, Workspace.read_write hwritten, hother, hshown⟩

/-! ### With and without a file -/

/-- With an output file the command succeeds exactly if it does without one. Then the file holds the
markup and the standard output nothing; otherwise no file is touched. The file holds what the
standard output would have shown if and only if no chunk of the markup has a control sequence. -/
theorem run_with_output {s : Setup} {args args' : List String} {r : Request} {path : Path}
    (hfile : Arguments.call s.workspace.isDirectory args =
      .ok (.request { r with output := some path }))
    (hstdout : Arguments.call s.workspace.isDirectory args' =
      .ok (.request { r with output := none }))
    (hwrite : ∀ bytes, ∃ w, s.workspace.write path bytes = .ok w) :
    ((run s args).exitCode = 0 ↔ (run s args').exitCode = 0) ∧
      (((run s args).exitCode = 0 ∧ (run s args).stdout = "" ∧
          ∃ made, prepare s r = .ok made ∧
            s.workspace.write path (String.join made.chunks).toUTF8.data.toList =
              .ok (run s args).workspace ∧
            (run s args).workspace.read path =
              .ok (String.join made.chunks).toUTF8.data.toList ∧
            (run s args').stdout = String.join (made.chunks.map Text.withoutControls) ∧
            ((run s args).workspace.read path = .ok (run s args').stdout.toUTF8.data.toList ↔
              ∀ chunk ∈ made.chunks, ¬ Text.HasControls chunk)) ∨
        ((run s args).exitCode = 1 ∧ (run s args).stdout = "" ∧
          (run s args).workspace = s.workspace)) := by
  rw [run_of_call hfile, run_of_call hstdout]
  cases prepare s r with
  | error e => exact ⟨Iff.rfl, .inr ⟨rfl, rfl, rfl⟩⟩
  | ok made =>
    have hinto : { r with output := some path }.output = some path := rfl
    have honto : { r with output := none }.output = none := rfl
    cases hfailure : made.failure with
    | some f =>
      obtain ⟨hexit, hempty, hsame⟩ :=
        render_file_of_error s [.phase "Read source"] hinto hfailure
      have hother := render_stdout_of_error s [.phase "Read source"] honto hfailure
      refine ⟨?_, .inr ⟨hexit, hempty, hsame⟩⟩
      simp only [hexit, hother]
    | none =>
      obtain ⟨hexit, hempty, hwritten⟩ :=
        render_file_of_ok s [.phase "Read source"] hinto hfailure hwrite
      obtain ⟨hother, hshown⟩ := render_stdout_of_ok s [.phase "Read source"] honto hfailure
      have hread := Workspace.read_write hwritten
      refine ⟨?_, .inl ⟨hexit, hempty, made, rfl, hwritten, hread, hshown, ?_⟩⟩
      · simp only [hexit, hother]
      · rw [hread, hshown, ← Text.join_withoutControls_eq_iff, Except.ok.injEq]
        constructor
        · intro h
          have harray := ByteArray.ext (Array.toList_inj.mp h)
          exact (String.toByteArray_inj.mp harray).symm
        · intro h
          rw [h]

theorem run_with_output_blank :
    Arguments.call (blankSetup "x\n").workspace.isDirectory ["-o", "out.html", "-"] =
        .ok (.request { stdinRequest with output := some (.ofText "out.html") }) ∧
      Arguments.call (blankSetup "x\n").workspace.isDirectory ["-"] =
        .ok (.request { stdinRequest with output := none }) ∧
      (∀ bytes, ∃ w, (blankSetup "x\n").workspace.write (.ofText "out.html") bytes = .ok w) ∧
      (run (blankSetup "x\n") ["-o", "out.html", "-"]).exitCode = 0 ∧
      (run (blankSetup "x\n") ["-o", "out.html", "-"]).stdout = "" ∧
      (run (blankSetup "x\n") ["-o", "out.html", "-"]).workspace.read (.ofText "out.html") =
        .ok (run (blankSetup "x\n") ["-"]).stdout.toUTF8.data.toList := by
  have hfile := call_stdin_output "x\n"
  have hstdout := call_stdin (blankSetup "x\n").workspace.isDirectory
  have hwrite := write_blankSetup "x\n"
  refine ⟨hfile, hstdout, hwrite, ?_⟩
  obtain ⟨-, ⟨hexit, hempty, made, hmade, -, -, -, hsame⟩ | ⟨hfailed, -, -⟩⟩ :=
    run_with_output hfile hstdout hwrite
  · have hchunks := (Formatter.flat_standard {} "x\n").2
    obtain rfl := Except.ok.inj ((prepare_blankSetup "x\n").symm.trans hmade)
    rw [hchunks] at hsame
    refine ⟨hexit, hempty, hsame.mpr fun chunk hchunk => ?_⟩
    have hwhole : ∀ chunk ∈ ["<pre class=\"highlight\"><code>",
        SpanRules.element "class" "w" (escapeText "x\n"), "</code></pre>\n"],
        Text.withoutControls chunk = chunk := by decide
    exact Text.withoutControls_eq_self_iff.mp (hwhole chunk hchunk)
  · rw [(run_blankSetup "x\n" rfl).1] at hfailed
    cases hfailed

/-- A text that sets a color loses the sequence on the standard output and keeps it in the file. -/
theorem run_with_output_colored :
    (run (blankSetup "\x1b[31mred\n") ["-o", "out.html", "-"]).exitCode = 0 ∧
      (run (blankSetup "\x1b[31mred\n") ["-"]).exitCode = 0 ∧
      (run (blankSetup "\x1b[31mred\n") ["-o", "out.html", "-"]).workspace.read
          (.ofText "out.html") =
        .ok ("<pre class=\"highlight\"><code><span class=\"w\">\x1b[31mred\n</span></code></pre>\n"
          ).toUTF8.data.toList ∧
      (run (blankSetup "\x1b[31mred\n") ["-"]).stdout =
        "<pre class=\"highlight\"><code><span class=\"w\">red\n</span></code></pre>\n" ∧
      (run (blankSetup "\x1b[31mred\n") ["-o", "out.html", "-"]).workspace.read
          (.ofText "out.html") ≠
        .ok (run (blankSetup "\x1b[31mred\n") ["-"]).stdout.toUTF8.data.toList := by
  obtain ⟨hexit, hread, hother, hshown⟩ :=
    run_blankSetup "\x1b[31mred\n" (Formatter.flat_standard {} "\x1b[31mred\n").2
  have hmarkup : String.join ["<pre class=\"highlight\"><code>",
      SpanRules.element "class" "w" (escapeText "\x1b[31mred\n"), "</code></pre>\n"] =
        "<pre class=\"highlight\"><code><span class=\"w\">\x1b[31mred\n</span></code></pre>\n" :=
    rfl
  have hstripped : String.join (["<pre class=\"highlight\"><code>",
      SpanRules.element "class" "w" (escapeText "\x1b[31mred\n"), "</code></pre>\n"].map
        Text.withoutControls) =
        "<pre class=\"highlight\"><code><span class=\"w\">red\n</span></code></pre>\n" := rfl
  rw [hread, hshown, hmarkup, hstripped]
  refine ⟨hexit, hother, rfl, rfl, fun hsame => ?_⟩
  exact absurd (Except.ok.inj hsame) (by decide)

end Command

end CodeMarkup
