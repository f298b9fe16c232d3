import CodeMarkup.Proofs.Command.Output
import CodeMarkup.Proofs.Formatter.Construction
import CodeMarkup.Proofs.Formatter.Displayed
import CodeMarkup.Proofs.Lexer.Source
import CodeMarkup.Proofs.Options.Issues

/-!
Line numbers and the lines of a source. A command that numbers plain text writes the lines that the
lexer keeps beside consecutive numbers from the first one. The lexer drops the line feeds in front
of the source, so a line has the number of its place in the source exactly if there are none, or if
there is nothing else. On the standard output a line also loses its control sequences.
-/

namespace CodeMarkup

open Markup

/-- A page in a layout shows lines of code beside their numbers: the gutter holds the numbers and
the code the markup of the lines, one to a line each, with no tag in either. -/
def Layout.ShowsBeside (l : Layout) (page : String) (numbers : List Int) (lines : List String) :
    Prop :=
  ∃ wrapper gutter code closing,
    page = wrapper ++ l.frame.gridOpen ++
      (l.frame.gutterOpen ++ "<pre class=\"lineno\">" ++ gutter ++ "</pre>" ++
        l.frame.gutterClose) ++
      (l.frame.codeOpen ++ "<pre>" ++ code ++ "</pre>" ++ l.frame.codeClose) ++
      l.frame.gridClose ++ closing ∧
    wrapper.toList.count '<' ≤ 1 ∧ closing.toList.count '<' ≤ 1 ∧
    '<' ∉ gutter.toList ∧ '<' ∉ code.toList ∧
    (Text.pieces '\n' gutter).map String.toInt? = numbers.map some ∧
    (Text.pieces '\n' code).map plainText = lines ++ [""] ∧
    numbers.length = lines.length

/-! ### Plain text -/

open Formatter (plainTokens)

theorem Options.renderKind_text {o : Options} (h : o.shortNames = .standard) (text : String) :
    o.spanRules.renderKind (Kind.root.child "Text") text =
      .ok (String.ofList (escapeChars o.theme.isSome text.toList)) := by
  have hname : o.shortNames.find? (Kind.root.child "Text") = some "" := by
    rw [h, ShortNames.find?_text]
  cases htheme : o.theme <;>
    simp [SpanRules.renderKind, spanRules, hname, htheme, escapeText, escapeAll]

theorem Lexer.tokens_of_text {l : Lexer} (h : l.name = "text") (source : String) :
    l.tokens source = plainTokens (prepareSource source) := by
  have hkind : l.kind = Kind.root.child "Text" := by
    rw [kind, h]
    rfl
  rw [tokens, hkind, plainTokens]

theorem endsInNewline_prepareSource (source : String) :
    endsInNewline (plainTokens (prepareSource source)) = true := by
  simp [endsInNewline, plainTokens, prepareSource]

theorem lineCount_prepareSource (source : String) :
    lineCount (plainTokens (prepareSource source)) = (keptLines source).length := by
  have htext : sourceText (plainTokens (prepareSource source)) = prepareSource source := by
    simp [sourceText, plainTokens]
  have hpieces := congrArg List.length (pieces_prepareSource source)
  rw [Text.pieces, List.length_map, Text.length_cut, List.length_append,
    List.length_singleton] at hpieces
  rw [lineCount_eq, htext, endsInNewline_prepareSource, if_pos rfl]
  omega

namespace Formatter

theorem lineBlock_prepareSource (f : Formatter) (source : String) :
    f.lineBlock (plainTokens (prepareSource source)) =
      "<pre class=\"lineno\">" ++ f.options.lineNumbering (keptLines source).length ++
        "</pre>" := by
  unfold lineBlock
  rw [lineCount_prepareSource]

theorem closedCode_prepareSource (f : Formatter) (source markup : String) :
    f.closedCode (plainTokens (prepareSource source)) [markup] = markup := by
  rw [closedCode, endsInNewline_prepareSource]
  simp

/-- The wrapper in front of a numbered layout. -/
def boxOpening (f : Formatter) : List String :=
  if f.options.wrap then ["<div" ++ f.options.wrapperAttribute ++ ">"] else []

/-- The end of the wrapper behind a numbered layout. -/
def boxClosing (f : Formatter) : List String :=
  if f.options.wrap then ["</div>\n"] else []

theorem numbered_eq_box (f : Formatter) (l : Layout) (gutter code : String) :
    f.numbered l gutter code = f.boxOpening ++
      [l.frame.gridOpen, l.frame.gutterOpen, gutter, l.frame.gutterClose, l.frame.codeOpen, "<pre>",
        code, "</pre>", l.frame.codeClose, l.frame.gridClose] ++ f.boxClosing := rfl

end Formatter

namespace Command

/-! ### Markup as it goes out -/

/-- Markup as it goes out: on the standard output it loses its control sequences. -/
def shown (r : Request) (markup : String) : String :=
  if r.output.isSome then markup else Text.withoutControls markup

/-- The markup of a line of plain text. Under a theme its quotation marks are escaped too. -/
def lineMarkup (r : Request) (line : String) : String :=
  String.ofList (escapeChars r.inlineTheme.isSome line.toList)

/-- What there is to be read of a line of plain text. -/
def shownLine (r : Request) (line : String) : String :=
  plainText (shown r (lineMarkup r line))

variable {s : Setup} {args : List String} {r : Request} {made : Run} {notices : List Notice}

theorem shown_of_notMem {markup : String} (h : '\x1b' ∉ markup.toList) :
    shown r markup = markup := by
  unfold shown
  split
  · rfl
  · exact Text.withoutControls_of_notMem h

theorem shown_of_stdout (h : r.output = none) : shown r = Text.withoutControls := by
  funext markup
  rw [shown, h]
  rfl

theorem shown_of_file {path : Path} (h : r.output = some path) : shown r = id := by
  funext markup
  rw [shown, h]
  rfl

theorem shown_sublist (r : Request) (markup : String) :
    (shown r markup).toList.Sublist markup.toList := by
  unfold shown
  split
  · exact List.Sublist.refl _
  · exact Text.withoutControls_sublist markup

theorem pieces_shown (r : Request) (markup : String) :
    Text.pieces '\n' (shown r markup) = (Text.pieces '\n' markup).map (shown r) := by
  unfold shown
  split
  · exact (List.map_id' _).symm
  · exact Text.pieces_withoutControls markup

theorem pieces_lineMarkup (r : Request) (text : String) :
    Text.pieces '\n' (lineMarkup r text) = (Text.pieces '\n' text).map (lineMarkup r) :=
  Text.pieces_map (Text.cut_escapeChars r.inlineTheme.isSome) text

theorem lt_notMem_shown (r : Request) (line : String) :
    '<' ∉ (shown r (lineMarkup r line)).toList := by
  intro hmem
  have hmarkup := (shown_sublist r (lineMarkup r line)).subset hmem
  rw [lineMarkup, String.toList_ofList] at hmarkup
  exact lt_notMem_escapeChars _ _ hmarkup

theorem plainText_lineMarkup (r : Request) (line : String) : plainText (lineMarkup r line) = line :=
  plainText_escapeChars _ line

theorem count_shownLine_le (r : Request) (line : String) :
    (shownLine r line).toList.count '\x1b' ≤ (shown r (lineMarkup r line)).toList.count '\x1b' := by
  rw [shownLine, plainText, String.toList_ofList, deleteTags_of_notMem (lt_notMem_shown r line)]
  exact count_decode_le _

/-- A line is read as it is unless it goes to the standard output and has a control sequence. -/
theorem shownLine_eq_iff (r : Request) (line : String) :
    shownLine r line = line ↔ r.output.isSome ∨ ¬ Text.HasControls (lineMarkup r line) := by
  constructor
  · intro h
    by_cases houtput : r.output.isSome
    · exact .inl houtput
    · refine .inr (Text.withoutControls_eq_self_iff.mp ?_)
      by_contra hne
      -- An escape character that is lost with a sequence does not come back.
      have hlost : (Text.withoutControls (lineMarkup r line)).toList.count '\x1b' <
          (lineMarkup r line).toList.count '\x1b' := by
        rw [Text.withoutControls, String.toList_ofList]
        refine Text.ControlSequence.count_removeAfter_lt fun heq => hne ?_
        rw [Text.withoutControls, heq, String.ofList_toList]
      have hread := count_shownLine_le r line
      have hescaped : (lineMarkup r line).toList.count '\x1b' = line.toList.count '\x1b' := by
        rw [lineMarkup, String.toList_ofList, Text.count_escapeChars (by decide)]
      rw [h, shown, if_neg houtput] at hread
      omega
  · intro h
    have hsame : shown r (lineMarkup r line) = lineMarkup r line := by
      unfold shown
      split
      · rfl
      · next houtput => exact Text.withoutControls_eq_self_iff.mpr (h.resolve_left houtput)
    rw [shownLine, hsame, plainText_lineMarkup]

/-! ### The page -/

theorem shownLine_empty (r : Request) : shownLine r "" = "" := by
  rw [shownLine, shown_of_notMem (by simp [lineMarkup])]
  exact plainText_lineMarkup r ""

/-- The lines of the code are the lines that the lexer keeps. -/
theorem pieces_shown_prepareSource (r : Request) (source : String) :
    (Text.pieces '\n' (shown r (lineMarkup r (prepareSource source)))).map plainText =
      (keptLines source).map (shownLine r) ++ [""] := by
  rw [pieces_shown, pieces_lineMarkup, pieces_prepareSource, List.map_append, List.map_append,
    List.map_append, List.map_map, List.map_map]
  exact congrArg (_ ++ [·]) (shownLine_empty r)

/-- A wrapper has one tag at most, with and without its control sequences. -/
theorem count_boxOpening_le (r : Request) (f : Formatter) :
    (String.join (f.boxOpening.map (shown r))).toList.count '<' ≤ 1 := by
  have hattribute : f.options.wrapperAttribute.toList.count '<' = 0 := by
    unfold Options.wrapperAttribute
    split
    · rfl
    · split
      · rfl
      · next c _ _ =>
        simp [List.count_eq_zero.mpr fun hmem => (inert_escapeAll c _ hmem).1 rfl]
  have hcount := (shown_sublist r ("<div" ++ f.options.wrapperAttribute ++ ">")).count_le '<'
  unfold Formatter.boxOpening
  cases f.options.wrap with
  | false => simp
  | true => simpa [hattribute] using hcount

theorem count_boxClosing_le (r : Request) (f : Formatter) :
    (String.join (f.boxClosing.map (shown r))).toList.count '<' ≤ 1 := by
  have hcount := (shown_sublist r "</div>\n").count_le '<'
  unfold Formatter.boxClosing
  cases f.options.wrap with
  | false => simp
  | true => simpa using hcount

theorem shown_frame (r : Request) (l : Layout) :
    shown r l.frame.gridOpen = l.frame.gridOpen ∧ shown r l.frame.gutterOpen = l.frame.gutterOpen ∧
      shown r l.frame.gutterClose = l.frame.gutterClose ∧
      shown r l.frame.codeOpen = l.frame.codeOpen ∧ shown r l.frame.codeClose = l.frame.codeClose ∧
      shown r l.frame.gridClose = l.frame.gridClose := by
  cases l <;> refine ⟨?_, ?_, ?_, ?_, ?_, ?_⟩ <;> exact shown_of_notMem (by decide +kernel)

theorem showsBeside_numbered (f : Formatter) (l : Layout) (r : Request) (source : String) :
    l.ShowsBeside
      (String.join ((f.numbered l
        ("<pre class=\"lineno\">" ++ f.options.lineNumbering (keptLines source).length ++ "</pre>")
        (lineMarkup r (prepareSource source))).map (shown r)))
      (Gutter.range f.options.startLine (keptLines source).length)
      ((keptLines source).map (shownLine r)) := by
  have hpos : 1 ≤ (keptLines source).length := List.length_pos_iff.mpr (keptLines_ne_nil source)
  have hchars {c : Char} : c ∈ (f.options.lineNumbering (keptLines source).length).toList →
      c = '\n' ∨ c = '-' ∨ c.isDigit = true := Options.mem_lineNumbering
  have hnumbers := f.options.toInt?_lineNumbering hpos
  generalize f.options.lineNumbering (keptLines source).length = gutter at *
  have hblock : shown r ("<pre class=\"lineno\">" ++ gutter ++ "</pre>") =
      "<pre class=\"lineno\">" ++ gutter ++ "</pre>" := by
    refine shown_of_notMem fun hmem => ?_
    have hgutter : '\x1b' ∈ gutter.toList := by simpa using hmem
    exact absurd (hchars hgutter) (by decide)
  have hpre : shown r "<pre>" = "<pre>" ∧ shown r "</pre>" = "</pre>" :=
    ⟨shown_of_notMem (by decide), shown_of_notMem (by decide)⟩
  obtain ⟨hgrid, hgutter, hgutterClose, hcode, hcodeClose, hgridClose⟩ := shown_frame r l
  refine ⟨String.join (f.boxOpening.map (shown r)), gutter,
    shown r (lineMarkup r (prepareSource source)), String.join (f.boxClosing.map (shown r)), ?_,
    count_boxOpening_le r f, count_boxClosing_le r f, fun hmem => absurd (hchars hmem) (by decide),
    lt_notMem_shown r _, ?_, pieces_shown_prepareSource r source, ?_⟩
  · rw [Formatter.numbered_eq_box]
    simp only [List.map_append, List.map_cons, List.map_nil, String.join_append, String.join_cons,
      hblock, hpre, hgrid, hgutter, hgutterClose, hcode, hcodeClose, hgridClose]
    simp only [show String.join [] = "" from rfl, String.empty_append, String.append_assoc]
  · rw [hnumbers, Gutter.range_eq_map, List.map_map]
    rfl
  · rw [Gutter.length_range, List.length_map]

/-! ### Runs that number plain text -/

theorem options_of_settings {t : Taxonomy} {o : Options}
    (h : Options.ofSettings t (settings r) = .ok o) :
    o.layout = r.layout ∧ o.lineNumbers = r.lineNumbers ∧ o.startLine = r.startLine ∧
      o.shortNames = .standard ∧ o.theme.isSome = r.inlineTheme.isSome := by
  have hreads := Options.ofSettings_eq_ok_iff.mp h
  have hlayout : Field.layout.check (settings r) .table Setting.toLayout = .ok r.layout := by
    have hvalue : Layout.ofValue? (.text r.layout.name) = some r.layout :=
      Layout.ofValue?_eq_some_iff.mpr rfl
    show (Setting.toLayout (.value (.text r.layout.name))).mapError _ = _
    simp only [Setting.toLayout, hvalue]
    rfl
  have hnumbers : Field.lineNumbers.check (settings r) false Setting.toBool =
      .ok r.lineNumbers := rfl
  have hstart : Field.startLine.check (settings r) 1 Setting.toInt = .ok r.startLine := rfl
  have hnames : Field.shortNames.check (settings r) .standard (Setting.toNames t) =
      .ok .standard := rfl
  have htheme : Field.theme.check (settings r) none Setting.toTheme =
      (Setting.toTheme (.value (r.inlineTheme.elim .null .text))).mapError
        (⟨"inline_theme", ·, .value (r.inlineTheme.elim .null .text)⟩) := rfl
  refine ⟨Except.ok.inj (hreads.layout.symm.trans hlayout),
    Except.ok.inj (hreads.lineNumbers.symm.trans hnumbers),
    Except.ok.inj (hreads.startLine.symm.trans hstart),
    Except.ok.inj (hreads.shortNames.symm.trans hnames), ?_⟩
  have hread := htheme.symm.trans hreads.theme
  cases hname : r.inlineTheme with
  | none =>
    rw [hname] at hread
    rw [← Except.ok.inj hread]
    rfl
  | some name =>
    rw [hname] at hread
    cases hstyle : Style.named? name with
    | none => simp [Setting.toTheme, Setting.themeSource, ThemeSource.theme?, hstyle,
        Except.mapError] at hread
    | some style =>
      simp only [Option.elim_some, Setting.toTheme, Setting.themeSource, ThemeSource.theme?, hstyle,
        Except.mapError] at hread
      rw [← Except.ok.inj hread]
      rfl

theorem exists_of_prepare (h : prepare s r = .ok made) :
    ∃ o f session l source, Options.ofSettings s.session.taxonomy (settings r) = .ok o ∧
      Formatter.ofOptions o = .ok f ∧ chooseLexer s r = .ok l ∧
      readSource s r.source = .ok source ∧
      made = f.stream (Session.begin session) (s.tokens.getD (l.tokens source)) := by
  unfold prepare at h
  split at h
  · cases h
  · next f session hformatter =>
    obtain ⟨o, hoptions, hf⟩ := Formatter.ofSettings_eq_ok_iff.mp (congrArg Prod.fst hformatter)
    split at h
    · cases h
    · next l hlexer =>
      split at h
      · cases h
      · next source hsource =>
        exact ⟨o, f, session, l, source, hoptions, hf, hlexer, hsource, (Except.ok.inj h).symm⟩

/-- Numbered plain text shows the lines that the lexer keeps. -/
theorem showsBeside_of_prepare {l : Lexer} (hmade : prepare s r = .ok made)
    (hnumbers : r.lineNumbers = true) (htokens : s.tokens = none)
    (hlexer : chooseLexer s r = .ok l) (hname : l.name = "text") (hfailure : made.failure = none) :
    ∃ source, readSource s r.source = .ok source ∧
      r.layout.ShowsBeside (String.join (made.chunks.map (shown r)))
        (Gutter.range r.startLine (keptLines source).length)
        ((keptLines source).map (shownLine r)) := by
  obtain ⟨o, f, session, l', source, hoptions, hf, hlexer', hsource, rfl⟩ :=
    exists_of_prepare hmade
  obtain rfl : l' = l := Except.ok.inj (hlexer'.symm.trans hlexer)
  obtain ⟨hlayout, hlines, hstart, hnames, htheme⟩ := options_of_settings hoptions
  obtain ⟨rfl, -⟩ := Formatter.of_ofOptions hf
  refine ⟨source, hsource, ?_⟩
  rw [htokens, Option.getD_none, Lexer.tokens_of_text hname, Formatter.stream,
    if_pos (hlines.trans hnumbers)] at hfailure ⊢
  have hmarkup := Options.renderKind_text hnames (prepareSource source)
  rw [htheme] at hmarkup
  have hchunks : (Run.ofTokens f.options.spanRules session.begin
      (plainTokens (prepareSource source))).chunks = [lineMarkup r (prepareSource source)] :=
    (Run.ofTokens_single hmarkup session.begin).2
  rw [Formatter.chunks_buffered hfailure, hchunks, f.closedCode_prepareSource,
    f.lineBlock_prepareSource, hlayout, ← hstart]
  exact showsBeside_numbered f r.layout r source

/-- A file that was written once can be written with any bytes. -/
theorem write_of_exitCode_render {path : Path} (houtput : r.output = some path)
    (hfailure : made.failure = none) (h : (render s r notices made).exitCode = 0)
    (bytes : List UInt8) : ∃ w, s.workspace.write path bytes = .ok w := by
  have htext : made.text = .ok (String.join made.chunks) := Run.text_eq_ok_iff.mpr ⟨hfailure, rfl⟩
  simp only [render, houtput, htext] at h
  split at h
  · next w hw =>
    obtain ⟨spot, hspot, -⟩ := Workspace.write_eq_ok_iff.mp hw
    exact ⟨_, Workspace.write_eq_ok_iff.mpr ⟨spot, hspot, rfl⟩⟩
  · cases h

theorem of_exitCode_render (h : (render s r notices made).exitCode = 0) :
    made.failure = none ∧
      (r.output = none →
        (render s r notices made).stdout = String.join (made.chunks.map (shown r))) ∧
      ∀ path, r.output = some path → (render s r notices made).stdout = "" ∧
        (render s r notices made).workspace.read path =
          .ok (String.join (made.chunks.map (shown r))).toUTF8.data.toList := by
  cases hfailure : made.failure with
  | some f =>
    cases houtput : r.output with
    | none =>
      rw [render_stdout_of_error s notices houtput hfailure] at h
      cases h
    | some path =>
      rw [(render_file_of_error s notices houtput hfailure).1] at h
      cases h
  | none =>
    refine ⟨rfl, fun houtput => ?_, fun path houtput => ?_⟩
    · rw [shown_of_stdout houtput]
      exact (render_stdout_of_ok s notices houtput hfailure).2
    · have hwrite := write_of_exitCode_render houtput hfailure h
      obtain ⟨-, hempty, hwritten⟩ := render_file_of_ok s notices houtput hfailure hwrite
      rw [shown_of_file houtput, List.map_id]
      exact ⟨hempty, Workspace.read_write hwritten⟩

/-- What a command that numbers plain text gives shows the lines that the lexer keeps. -/
theorem showsBeside_of_run {l : Lexer}
    (hcall : Arguments.call s.workspace.isDirectory args = .ok (.request r))
    (hnumbers : r.lineNumbers = true) (htokens : s.tokens = none)
    (hlexer : chooseLexer s r = .ok l) (hname : l.name = "text")
    (hexit : (run s args).exitCode = 0) :
    ∃ source page, readSource s r.source = .ok source ∧
      (r.output = none → (run s args).stdout = page) ∧
      (∀ path, r.output = some path → (run s args).stdout = "" ∧
        (run s args).workspace.read path = .ok page.toUTF8.data.toList) ∧
      r.layout.ShowsBeside page (Gutter.range r.startLine (keptLines source).length)
        ((keptLines source).map (shownLine r)) := by
  have hrun := run_of_request hcall
  cases hmade : prepare s r with
  | error e =>
    rw [hmade] at hrun
    rw [hrun] at hexit
    cases hexit
  | ok made =>
    rw [hmade] at hrun
    rw [hrun] at hexit ⊢
    obtain ⟨hfailure, hstdout, hfile⟩ := of_exitCode_render hexit
    obtain ⟨source, hsource, hshows⟩ :=
      showsBeside_of_prepare hmade hnumbers htokens hlexer hname hfailure
    exact ⟨source, _, hsource, hstdout, hfile, hshows⟩

/-- Numbered plain text shows, beside consecutive numbers from the first one, the lines of the
source after the line feeds in front of it. So the numbers are those of the lines in the source
exactly if there are no such line feeds or nothing else. A line is shown as it is unless it goes to
the standard output and has a control sequence. -/
theorem run_numbered {l : Lexer}
    (hcall : Arguments.call s.workspace.isDirectory args = .ok (.request r))
    (hnumbers : r.lineNumbers = true) (htokens : s.tokens = none)
    (hlexer : chooseLexer s r = .ok l) (hname : l.name = "text")
    (hexit : (run s args).exitCode = 0) :
    ∃ source page, readSource s r.source = .ok source ∧
      (r.output = none → (run s args).stdout = page) ∧
      (∀ path, r.output = some path → (run s args).stdout = "" ∧
        (run s args).workspace.read path = .ok page.toUTF8.data.toList) ∧
      r.layout.ShowsBeside page (Gutter.range r.startLine (keptLines source).length)
        ((keptLines source).map (shownLine r)) ∧
      keptLines source ≠ [] ∧
      (∀ k < (keptLines source).length,
        (keptLines source)[k]? = (sourceLines source)[leadingBreaks source + k]?) ∧
      ((∀ k < (keptLines source).length, (keptLines source)[k]? = (sourceLines source)[k]?) ↔
        leadingBreaks source = 0 ∨ ∀ c ∈ sourceChars source, c = '\n') ∧
      ∀ line, shownLine r line = line ↔
        r.output.isSome ∨ ¬ Text.HasControls (lineMarkup r line) := by
  obtain ⟨source, page, hsource, hstdout, hfile, hshows⟩ :=
    showsBeside_of_run hcall hnumbers htokens hlexer hname hexit
  exact ⟨source, page, hsource, hstdout, hfile, hshows, keptLines_ne_nil source,
    fun _ => getElem?_keptLines, keptLines_inPlace_iff source, shownLine_eq_iff r⟩

/-! ### The standard input -/

/-- A command that finds some bytes on the standard input. -/
def stdinSetup (bytes : List UInt8) : Setup :=
  { stdin := bytes }

/-- The request for the numbered markup of the standard input. -/
def numberedRequest : Request :=
  { stdinRequest with lineNumbers := true }

theorem call_numbered (isDirectory : String → Bool) :
    Arguments.call isDirectory ["-n", "-"] = .ok (.request numberedRequest) := by
  have hflag : Argument.ofText "-n" = .ok (.flags [(.lineNumbers, "")]) := by rfl
  have hplain : Argument.ofText "-" = .ok .plain := rfl
  have hread : Arguments.read ["-n", "-"] =
      .ok { flags := [(.lineNumbers, "")], others := ["-"] } := by
    rw [Arguments.read, Arguments.read]
    · simp only [hflag, hplain, Arguments.read]
      rfl
    · decide
    · decide
  refine Arguments.call_eq_request_iff.mpr ⟨_, "-", hread, rfl, ?_, rfl,
    Arguments.checkPath_of_notMem (by decide), rfl⟩
  intro e he
  obtain rfl := List.mem_singleton.mp he
  rfl

theorem chooseLexer_stdinSetup (bytes : List UInt8) :
    chooseLexer (stdinSetup bytes) numberedRequest = .ok .plain := rfl

/-- The formatter with the default options but for line numbers. -/
def numberedFormatter : Formatter :=
  ⟨{ lineNumbers := true }, Formatter.standard.trailingNewline⟩

theorem exitCode_numbered {bytes : List UInt8} {source : String}
    (hsource : readSource (stdinSetup bytes) (.ofText "-") = .ok source)
    (hlines : 1 + (keptLines source).length ≤ Gutter.numberBound) :
    (run (stdinSetup bytes) ["-n", "-"]).exitCode = 0 := by
  have hcall : Arguments.call (stdinSetup bytes).workspace.isDirectory ["-n", "-"] =
      .ok (.request { numberedRequest with output := none }) := call_numbered _
  have hoptions : Options.ofSettings (stdinSetup bytes).session.taxonomy
      (settings numberedRequest) = .ok numberedFormatter.options := rfl
  have hf : Formatter.ofOptions numberedFormatter.options = .ok numberedFormatter :=
    Formatter.ofOptions_eq_ok_iff.mpr ⟨rfl, Formatter.renderKind_standard "\n"⟩
  have hmade := prepare_eq_ok (Formatter.ofSettings_of_ok hoptions hf)
    (chooseLexer_stdinSetup bytes) hsource
  have htokens : (stdinSetup bytes).tokens.getD (Lexer.plain.tokens source) =
      plainTokens (prepareSource source) := Lexer.tokens_of_text rfl source
  have hstream (p : Progress) (tokens : List Token) :
      numberedFormatter.stream p tokens = numberedFormatter.buffered .table p tokens := rfl
  have hmarkup :=
    Options.renderKind_text (o := numberedFormatter.options) rfl (prepareSource source)
  have hfits : numberedFormatter.options.NumbersFit
      (lineCount (plainTokens (prepareSource source))) := by
    rw [lineCount_prepareSource]
    exact Options.numbersFit_of_le hlines
  have hfailure :
      (numberedFormatter.buffered .table {} (plainTokens (prepareSource source))).failure = none :=
    Formatter.failure_buffered_eq_none_iff.mpr ⟨(Run.ofTokens_single hmarkup _).1, hfits⟩
  rw [run_of_prepare hcall hmade, htokens, hstream]
  exact (render_stdout_of_ok _ _ rfl hfailure).1

theorem run_numbered_stdin :
    Arguments.call (stdinSetup [97, 10, 32, 32, 98]).workspace.isDirectory ["-n", "-"] =
        .ok (.request numberedRequest) ∧
      numberedRequest.lineNumbers = true ∧ (stdinSetup [97, 10, 32, 32, 98]).tokens = none ∧
      chooseLexer (stdinSetup [97, 10, 32, 32, 98]) numberedRequest = .ok .plain ∧
      Lexer.plain.name = "text" ∧ (run (stdinSetup [97, 10, 32, 32, 98]) ["-n", "-"]).exitCode = 0 ∧
      Layout.table.ShowsBeside (run (stdinSetup [97, 10, 32, 32, 98]) ["-n", "-"]).stdout
        [1, 2] ["a", "  b"] := by
  have hcall := call_numbered (stdinSetup [97, 10, 32, 32, 98]).workspace.isDirectory
  have hlexer := chooseLexer_stdinSetup [97, 10, 32, 32, 98]
  have hread : readSource (stdinSetup [97, 10, 32, 32, 98]) (.ofText "-") = .ok "a\n  b" := rfl
  have hkept : keptLines "a\n  b" = ["a", "  b"] := by decide +kernel
  have hexit := exitCode_numbered hread (Formatter.le_numberBound (by rw [hkept]; decide))
  obtain ⟨source, page, hsource, hstdout, -, hshows, -⟩ :=
    run_numbered hcall rfl rfl hlexer rfl hexit
  obtain rfl : "a\n  b" = source := Except.ok.inj (hread.symm.trans hsource)
  have hlines : ["a", "  b"].map (shownLine numberedRequest) = ["a", "  b"] := by decide +kernel
  rw [hkept, hlines, ← hstdout rfl] at hshows
  exact ⟨hcall, rfl, rfl, hlexer, rfl, hexit, hshows⟩

/-- Of a source with a line feed in front, the second line is shown beside the first number. -/
theorem run_numbered_feed :
    readSource (stdinSetup [10, 120, 10]) numberedRequest.source = .ok "\nx\n" ∧
      sourceLines "\nx\n" = ["", "x", ""] ∧
      (run (stdinSetup [10, 120, 10]) ["-n", "-"]).exitCode = 0 ∧
      Layout.table.ShowsBeside (run (stdinSetup [10, 120, 10]) ["-n", "-"]).stdout [1] ["x"] := by
  have hread : readSource (stdinSetup [10, 120, 10]) (.ofText "-") = .ok "\nx\n" := rfl
  have hkept : keptLines "\nx\n" = ["x"] := by decide +kernel
  have hexit := exitCode_numbered hread (Formatter.le_numberBound (by rw [hkept]; decide))
  obtain ⟨source, page, hsource, hstdout, -, hshows⟩ := showsBeside_of_run (call_numbered _) rfl rfl
    (chooseLexer_stdinSetup [10, 120, 10]) rfl hexit
  obtain rfl : "\nx\n" = source := Except.ok.inj (hread.symm.trans hsource)
  have hlines : ["x"].map (shownLine numberedRequest) = ["x"] := by decide +kernel
  rw [hkept, hlines, ← hstdout rfl] at hshows
  exact ⟨hread, by decide +kernel, hexit, hshows⟩

end Command

end CodeMarkup
