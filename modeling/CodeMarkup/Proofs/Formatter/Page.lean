import CodeMarkup.Proofs.Formatter.Chunks
import CodeMarkup.Proofs.Span.Reading

/-!
Pages: what a reader meets in the whole markup of a formatter. Around the spans of the tokens stand
the elements of the wrapper and of the layout in a fixed order, and what callers give, as texts, as
the class of the wrapper or as declarations, comes back as it was.
-/

namespace CodeMarkup

open Markup

/-! ### Layouts as elements -/

namespace Layout

/-- The element of a cell. -/
def cellName : Layout → String
  | table => "td"
  | div => "div"

/-- The attributes of the gutter cell. -/
def gutterMarks : Layout → List (String × String)
  | table => [("class", "gutter gl"), ("style", "text-align: right")]
  | div => [("class", "gutter gl"), ("style", "display: table-cell; text-align: right")]

/-- The attributes of the code cell. -/
def codeMarks : Layout → List (String × String)
  | table => [("class", "code")]
  | div => [("style", "display: table-cell;"), ("class", "code")]

/-- The events of the gutter cell. -/
def gutterEvents (l : Layout) (numbers : String) : List Event :=
  element l.cellName l.gutterMarks (element "pre" [("class", "lineno")] (Markup.text numbers))

/-- The events of the code cell. -/
def codeEvents (l : Layout) (code : List Event) : List Event :=
  element l.cellName l.codeMarks (element "pre" [] code)

/-- The events of the cells in their grid. -/
def gridEvents (l : Layout) (cells : List Event) : List Event :=
  (match l with
    | table =>
      element "table" [("style", "border-spacing: 0")] (element "tbody" [] (element "tr" [] cells))
    | div =>
      element "div" [("style", "display: table; border-spacing: 0")]
        (element "div" [("style", "display: table-row")] cells)) ++
  Markup.text "\n"

theorem read_gutterCell (l : Layout) {numbers : String}
    (h : Markup.read numbers = some (Markup.text numbers)) :
    Markup.read (l.frame.gutterOpen ++ ("<pre class=\"lineno\">" ++ numbers ++ "</pre>") ++
      l.frame.gutterClose) = some (l.gutterEvents numbers) := by
  have hopen : Markup.read l.frame.gutterOpen = some [.opening l.cellName l.gutterMarks] := by
    cases l <;> decide +kernel
  have hclose : Markup.read l.frame.gutterClose = some [.closing l.cellName] := by
    cases l <;> rfl
  have hstart : Markup.read "<pre class=\"lineno\">" =
      some [.opening "pre" [("class", "lineno")]] := by rfl
  have hend : Markup.read "</pre>" = some [.closing "pre"] := by rfl
  exact read_element hopen (read_element hstart h hend) hclose

theorem read_codeCell (l : Layout) {code : String} {events : List Event}
    (h : Markup.read code = some events) :
    Markup.read (l.frame.codeOpen ++ ("<pre>" ++ code ++ "</pre>") ++ l.frame.codeClose) =
      some (l.codeEvents events) := by
  have hopen : Markup.read l.frame.codeOpen = some [.opening l.cellName l.codeMarks] := by
    cases l <;> rfl
  have hclose : Markup.read l.frame.codeClose = some [.closing l.cellName] := by
    cases l <;> rfl
  have hstart : Markup.read "<pre>" = some [.opening "pre" []] := by rfl
  have hend : Markup.read "</pre>" = some [.closing "pre"] := by rfl
  exact read_element hopen (read_element hstart h hend) hclose

theorem read_grid (l : Layout) {cells : String} {events : List Event}
    (h : Markup.read cells = some events) :
    Markup.read (l.frame.gridOpen ++ cells ++ l.frame.gridClose) = some (l.gridEvents events) := by
  cases l with
  | table =>
    have hopen : Markup.read table.frame.gridOpen =
        some [.opening "table" [("style", "border-spacing: 0")], .opening "tbody" [],
          .opening "tr" []] := by rfl
    have hclose : Markup.read table.frame.gridClose =
        some [.closing "tr", .closing "tbody", .closing "table", .char '\n'] := by rfl
    rw [read_append (read_append hopen h) hclose]
    simp [gridEvents, element, Markup.text]
  | div =>
    have hopen : Markup.read div.frame.gridOpen =
        some [.opening "div" [("style", "display: table; border-spacing: 0")],
          .opening "div" [("style", "display: table-row")]] := by decide +kernel
    have hclose : Markup.read div.frame.gridClose =
        some [.closing "div", .closing "div", .char '\n'] := by rfl
    rw [read_append (read_append hopen h) hclose]
    simp [gridEvents, element, Markup.text]

end Layout

theorem balanced_flatMap_events (spans : List Span) : Balanced (spans.flatMap Span.events) := by
  induction spans with
  | nil => exact .nil
  | cons span spans ih => exact span.balanced_events.append ih

theorem Layout.balanced_gridEvents (l : Layout) {cells : List Event} (h : Balanced cells) :
    Balanced (l.gridEvents cells) := by
  unfold gridEvents
  cases l with
  | table =>
    exact (balanced_element _ _ (balanced_element _ _ (balanced_element _ _ h))).append
      (balanced_text _)
  | div => exact (balanced_element _ _ (balanced_element _ _ h)).append (balanced_text _)

/-! ### Line numbers as text -/

theorem read_of_plain {s : String} (h : ∀ c ∈ s.toList, c ≠ '<' ∧ c ≠ '>' ∧ c ≠ '&') :
    Markup.read s = some (Markup.text s) := by
  rw [Markup.read, Markup.text]
  generalize s.toList = cs at h
  induction cs with
  | nil => rfl
  | cons c cs ih =>
    obtain ⟨hlt, hgt, hamp⟩ := h c List.mem_cons_self
    have hstep : step .text c = some (.text, some (.char c)) := by simp [step, hlt, hgt, hamp]
    have hrest := ih fun d hd => h d (List.mem_cons_of_mem _ hd)
    rw [readFrom, hstep, Option.bind_some, hrest]
    rfl

theorem mem_toString_int {n : Int} {c : Char} (h : c ∈ (toString n).toList) :
    c = '-' ∨ c.isDigit = true := by
  have hdigit {m : Nat} (hm : c ∈ m.repr.toList) : c.isDigit = true := by
    rw [Nat.toList_repr] at hm
    exact Nat.isDigit_of_mem_toDigits (by decide) (by decide) hm
  rw [Int.toString_eq_repr, Int.repr_eq_if] at h
  split at h
  · exact .inr (hdigit h)
  · rw [String.toList_append, List.mem_append] at h
    rcases h with h | h
    · exact .inl (by simpa using h)
    · exact .inr (hdigit h)

namespace Options

/-- The characters of each line number, in order. -/
def lineDigits (o : Options) (lines : Nat) : List (List Char) :=
  (Gutter.range o.startLine lines).map fun n => (toString n).toList

theorem toList_lineNumbering (o : Options) (lines : Nat) :
    (o.lineNumbering lines).toList = ['\n'].intercalate (o.lineDigits lines) := by
  rw [lineNumbering, String.toList_intercalate, List.map_map]
  rfl

theorem mem_lineDigits {o : Options} {lines : Nat} {digits : List Char} {c : Char}
    (h : digits ∈ o.lineDigits lines) (hc : c ∈ digits) : c = '-' ∨ c.isDigit = true := by
  obtain ⟨n, -, rfl⟩ := List.mem_map.mp h
  exact mem_toString_int hc

theorem mem_lineNumbering {o : Options} {lines : Nat} {c : Char}
    (h : c ∈ (o.lineNumbering lines).toList) : c = '\n' ∨ c = '-' ∨ c.isDigit = true := by
  rw [toList_lineNumbering] at h
  rcases Text.mem_of_mem_intercalate h with h | ⟨digits, hdigits, h⟩
  · exact .inl (List.mem_singleton.mp h)
  · exact .inr (mem_lineDigits hdigits h)

theorem read_lineNumbering (o : Options) (lines : Nat) :
    Markup.read (o.lineNumbering lines) = some (Markup.text (o.lineNumbering lines)) := by
  refine read_of_plain fun c hc => ?_
  have hplain := mem_lineNumbering hc
  refine ⟨?_, ?_, ?_⟩ <;> rintro rfl <;> exact absurd hplain (by decide)

/-! ### Pages -/

/-- The attribute of the outer element, if it has one. -/
def wrapperMark (o : Options) : List (String × String) :=
  match o.wrapperClass with
  | none => []
  | some c => if c = "" then [] else [("class", c)]

/-- The events of flat markup. -/
def flatPage (o : Options) (spans : List Span) : List Event :=
  let code := spans.flatMap Span.events
  if o.wrap then element "pre" o.wrapperMark (element "code" [] code) ++ Markup.text "\n" else code

/-- The events of a numbered layout. -/
def numberedPage (o : Options) (l : Layout) (lines : Nat) (spans : List Span) : List Event :=
  let code := spans.flatMap Span.events
  let grid := l.gridEvents (l.gutterEvents (o.lineNumbering lines) ++ l.codeEvents code)
  if o.wrap then element "div" o.wrapperMark grid ++ Markup.text "\n" else grid

theorem read_wrapper (o : Options) {name : String} (hname : isName name.toList = true) :
    Markup.read ("<" ++ name ++ o.wrapperAttribute ++ ">") =
      some [.opening name o.wrapperMark] := by
  have hbare := read_bare hname
  cases hc : o.wrapperClass with
  | none => simpa [wrapperAttribute, wrapperMark, hc] using hbare
  | some c =>
    by_cases hempty : c = ""
    · simpa [wrapperAttribute, wrapperMark, hc, hempty] using hbare
    · have hattribute : o.wrapperAttribute = " class=\"" ++ escapeAll c ++ "\"" := by
        simp [wrapperAttribute, hc, hempty]
      have hmark : o.wrapperMark = [("class", c)] := by simp [wrapperMark, hc, hempty]
      have hlabel : isName "class".toList = true := rfl
      have h := read_opening hname hlabel (inert_escapeAll c)
      rw [decode_escapeAll, String.ofList_toList] at h
      rw [hattribute, hmark, ← h]
      simp [String.append_assoc]

theorem balanced_flatPage (o : Options) (spans : List Span) : Balanced (o.flatPage spans) := by
  have hcode := balanced_flatMap_events spans
  unfold flatPage
  split
  · exact (balanced_element _ _ (balanced_element _ _ hcode)).append (balanced_text _)
  · exact hcode

theorem balanced_numberedPage (o : Options) (l : Layout) (lines : Nat) (spans : List Span) :
    Balanced (o.numberedPage l lines spans) := by
  have hgutter : Balanced (l.gutterEvents (o.lineNumbering lines)) :=
    balanced_element _ _ (balanced_element _ _ (balanced_text _))
  have hcode : Balanced (l.codeEvents (spans.flatMap Span.events)) :=
    balanced_element _ _ (balanced_element _ _ (balanced_flatMap_events spans))
  have hgrid := l.balanced_gridEvents (hgutter.append hcode)
  unfold numberedPage
  split
  · exact (balanced_element _ _ hgrid).append (balanced_text _)
  · exact hgrid

end Options

/-! ### Streams of tokens -/

theorem SpanRules.read_renders {r : SpanRules} (hr : r.PlainNames) {t t' : Taxonomy}
    {tokens : List Token} {chunks : List String} (h : r.Renders t tokens chunks t') :
    ∃ spans, r.ShowsAll t tokens spans ∧
      Markup.read (String.join chunks) = some (spans.flatMap Span.events) := by
  induction h with
  | nil => exact ⟨[], .nil, rfl⟩
  | cons hchunk _ ih =>
    obtain ⟨k, mark, hk, hshows, hread⟩ := read_render hr hchunk
    obtain ⟨spans, hall, hspans⟩ := ih
    refine ⟨_, .cons hk hshows hall, ?_⟩
    rw [String.join_cons, read_append hread hspans, List.flatMap_cons]

theorem SpanRules.read_ofTokens {r : SpanRules} (hr : r.PlainNames) {p : Progress}
    {tokens : List Token} (h : (Run.ofTokens r p tokens).failure = none) :
    ∃ spans, r.ShowsAll p.taxonomy tokens spans ∧
      Markup.read (String.join (Run.ofTokens r p tokens).chunks) =
        some (spans.flatMap Span.events) := by
  obtain ⟨t', hrenders⟩ := Run.renders_of_ofTokens h
  exact read_renders hr hrenders

/-- The spans of code that is closed by a line break, which is shown with a mark of its own. -/
def closedSpans (tokens : List Token) (mark : Option (String × String)) (spans : List Span) :
    List Span :=
  spans ++ if endsInNewline tokens then [] else [⟨mark, "\n"⟩]

theorem ShortNames.find?_whitespace : standard.find? .whitespace = some "w" := by
  have hkind : Kind.whitespace = .ofDotted "Text.Whitespace" := rfl
  rw [hkind]
  exact find?_standard_ofDotted rfl

theorem ShortNames.find?_text : standard.find? (Kind.root.child "Text") = some "" := by
  have hkind : Kind.root.child "Text" = .ofDotted "Text" := rfl
  rw [hkind]
  exact find?_standard_ofDotted rfl

namespace Formatter

variable {o : Options} {f : Formatter} {l : Layout} {p : Progress} {tokens : List Token}

theorem of_ofOptions (hf : ofOptions o = .ok f) :
    f.options = o ∧ o.spanRules.renderKind .whitespace "\n" = .ok f.trailingNewline := by
  unfold ofOptions at hf
  cases h : o.spanRules.renderKind .whitespace "\n" with
  | error e => simp [h, Except.map] at hf
  | ok newline =>
    obtain rfl : ⟨o, newline⟩ = f := by simpa [h, Except.map] using hf
    exact ⟨rfl, rfl⟩

theorem ofSettings_of_ok {given : List (String × Setting)} {s : Session}
    (h : Options.ofSettings s.taxonomy given = .ok o) (hf : ofOptions o = .ok f) :
    ofSettings given s = (.ok f, s) := by
  simp only [ofSettings, h, build, hf]

/-- The code of a numbered layout reads as the spans of its tokens, and one for the line break that
may close it. -/
theorem read_closedCode_of_plainNames (hf : ofOptions o = .ok f)
    (hplain : o.spanRules.PlainNames) (h : (Run.ofTokens o.spanRules p tokens).failure = none) :
    ∃ spans mark, o.spanRules.ShowsAll p.taxonomy tokens spans ∧
      o.spanRules.Shows .whitespace mark ∧
      Markup.read (f.closedCode tokens (Run.ofTokens o.spanRules p tokens).chunks) =
        some ((closedSpans tokens mark spans).flatMap Span.events) := by
  obtain ⟨spans, hall, hchunks⟩ := SpanRules.read_ofTokens hplain h
  obtain ⟨mark, hmark, hnewline⟩ := SpanRules.read_renderKind hplain (of_ofOptions hf).2
  refine ⟨spans, mark, hall, hmark, ?_⟩
  unfold closedCode closedSpans
  cases endsInNewline tokens with
  | true => simpa using hchunks
  | false => simpa using read_append hchunks hnewline

theorem read_closedCode (hf : ofOptions o = .ok f)
    (hnames : o.theme.isSome ∨ o.shortNames = .standard)
    (h : (Run.ofTokens o.spanRules p tokens).failure = none) :
    ∃ spans mark, o.spanRules.ShowsAll p.taxonomy tokens spans ∧
      o.spanRules.Shows .whitespace mark ∧
      Markup.read (f.closedCode tokens (Run.ofTokens o.spanRules p tokens).chunks) =
        some ((closedSpans tokens mark spans).flatMap Span.events) :=
  read_closedCode_of_plainNames hf (SpanRules.plainNames_of hnames) h

theorem read_flatChunks {chunks : List String} {spans : List Span}
    (h : Markup.read (String.join chunks) = some (spans.flatMap Span.events)) :
    Markup.read (String.join (f.flatOpening ++ chunks ++ f.flatClosing)) =
      some (f.options.flatPage spans) := by
  have hname : isName "pre".toList = true := rfl
  have hwrapper := f.options.read_wrapper hname
  have hopen : Markup.read "<code>" = some [.opening "code" []] := by rfl
  have hclose : Markup.read "</code></pre>\n" =
      some [.closing "code", .closing "pre", .char '\n'] := by rfl
  unfold flatOpening flatClosing Options.flatPage
  cases f.options.wrap with
  | false => simpa using h
  | true =>
    have hpage := read_append (read_append (read_append hwrapper hopen) h) hclose
    simpa [element, Markup.text, String.append_assoc] using hpage

theorem read_numbered {code : String} {spans : List Span}
    (h : Markup.read code = some (spans.flatMap Span.events)) :
    Markup.read (String.join (f.numbered l (f.lineBlock tokens) code)) =
      some (f.options.numberedPage l (lineCount tokens) spans) := by
  have hname : isName "div".toList = true := rfl
  have hwrapper := f.options.read_wrapper hname
  have hclose : Markup.read "</div>\n" = some [.closing "div", .char '\n'] := by rfl
  have hcells := read_append
    (l.read_gutterCell (f.options.read_lineNumbering (lineCount tokens))) (l.read_codeCell h)
  have hgrid := l.read_grid hcells
  unfold numbered lineBlock Options.numberedPage
  cases f.options.wrap with
  | false => simpa [String.append_assoc] using hgrid
  | true =>
    have hpage := read_append (read_append hwrapper hgrid) hclose
    simpa [element, Markup.text, String.append_assoc] using hpage

theorem read_gutterCell_buffered (h : (f.buffered l p tokens).failure = none) :
    Markup.read (String.join (l.gutterCell (f.buffered l p tokens).chunks)) =
      some (l.gutterEvents (f.options.lineNumbering (lineCount tokens))) := by
  have hgutter : Markup.read
      (l.frame.gutterOpen ++ f.lineBlock tokens ++ l.frame.gutterClose) = _ :=
    l.read_gutterCell (f.options.read_lineNumbering (lineCount tokens))
  have hcell : String.join [l.frame.gutterOpen, f.lineBlock tokens, l.frame.gutterClose] =
      l.frame.gutterOpen ++ f.lineBlock tokens ++ l.frame.gutterClose := by
    simp [String.append_assoc]
  rw [chunks_buffered h, gutterCell_numbered, hcell, hgutter]

theorem read_codeCell_buffered (h : (f.buffered l p tokens).failure = none) {events : List Event}
    (hread : Markup.read
      (f.closedCode tokens (Run.ofTokens f.options.spanRules p tokens).chunks) = some events) :
    Markup.read (String.join (l.codeCell (f.buffered l p tokens).chunks)) =
      some (l.codeEvents events) := by
  have hcell (code : String) :
      String.join [l.frame.codeOpen, "<pre>", code, "</pre>", l.frame.codeClose] =
        l.frame.codeOpen ++ ("<pre>" ++ code ++ "</pre>") ++ l.frame.codeClose := by
    simp [String.append_assoc]
  rw [chunks_buffered h, codeCell_numbered, hcell, l.read_codeCell hread]

theorem le_numberBound {n : Nat} (h : n ≤ 10) : n ≤ Gutter.numberBound := by
  have hlimit : 1 ≤ Gutter.digitLimit := by decide
  unfold Gutter.numberBound
  generalize Gutter.digitLimit = limit at hlimit ⊢
  have hpow : 10 ^ 1 ≤ 10 ^ limit := Nat.pow_le_pow_right (by decide) hlimit
  exact Nat.le_trans h hpow

/-- The formatter with the default options. -/
def standard : Formatter :=
  ⟨{}, SpanRules.element "class" "w" (escapeText "\n")⟩

theorem renderKind_standard (text : String) :
    (Options.spanRules {}).renderKind .whitespace text =
      .ok (SpanRules.element "class" "w" (escapeText text)) :=
  SpanRules.renderKind_of_classed rfl ShortNames.find?_whitespace (by decide)

theorem ofOptions_default : ofOptions {} = .ok standard := by
  rw [ofOptions, renderKind_standard]
  rfl

/-- A stream of one text of white space. -/
def blankTokens (text : String) : List Token :=
  [⟨.kind .whitespace, text⟩]

theorem run_standard (p : Progress) (text : String) :
    (Run.ofTokens standard.options.spanRules p (blankTokens text)).failure = none ∧
      (Run.ofTokens standard.options.spanRules p (blankTokens text)).chunks =
        [SpanRules.element "class" "w" (escapeText text)] :=
  Run.ofTokens_single (renderKind_standard text) p

theorem failure_standard (p : Progress) (text : String) :
    (Run.ofTokens standard.options.spanRules p (blankTokens text)).failure = none :=
  (run_standard p text).1

theorem flat_standard (p : Progress) (text : String) :
    (standard.flat p (blankTokens text)).failure = none ∧
      (standard.flat p (blankTokens text)).chunks = ["<pre class=\"highlight\"><code>",
        SpanRules.element "class" "w" (escapeText text), "</code></pre>\n"] := by
  have hopening : standard.flatOpening = ["<pre class=\"highlight\"><code>"] := by rfl
  have hclosing : standard.flatClosing = ["</code></pre>\n"] := by rfl
  have hsuccess : (standard.flat p (blankTokens text)).failure = none := by
    rw [failure_flat, failure_standard]
  refine ⟨hsuccess, ?_⟩
  rw [chunks_flat_of_ok hsuccess, (run_standard p text).2, hopening, hclosing]
  rfl

theorem failure_buffered_standard (l : Layout) (p : Progress) (text : String)
    (h : 1 + lineCount (blankTokens text) ≤ Gutter.numberBound) :
    (standard.buffered l p (blankTokens text)).failure = none :=
  failure_buffered_eq_none_iff.mpr ⟨failure_standard p text, Options.numbersFit_of_le h⟩

/-- Markup reads as the elements of its wrapper and its layout around one span for each token with a
short name. The attributes that callers give come back as they were, and no character of what they
give delimits a tag or an attribute. -/
theorem readsAs_page {o : Options} {f : Formatter} (hf : ofOptions o = .ok f)
    (hnames : o.theme.isSome ∨ o.shortNames = .standard) (p : Progress) (tokens : List Token) :
    ((f.flat p tokens).failure = none →
      ∃ spans, o.spanRules.ShowsAll p.taxonomy tokens spans ∧
        ReadsAs (String.join (f.flat p tokens).chunks) (o.flatPage spans)) ∧
    ∀ l, (f.buffered l p tokens).failure = none →
      ∃ spans mark, o.spanRules.ShowsAll p.taxonomy tokens spans ∧
        o.spanRules.Shows .whitespace mark ∧
        ReadsAs (String.join (f.buffered l p tokens).chunks)
          (o.numberedPage l (lineCount tokens) (closedSpans tokens mark spans)) := by
  obtain ⟨rfl, -⟩ := of_ofOptions hf
  constructor
  · intro hflat
    have hrun := (failure_flat f p tokens).symm.trans hflat
    obtain ⟨spans, hall, hread⟩ := SpanRules.read_ofTokens (SpanRules.plainNames_of hnames) hrun
    refine ⟨spans, hall, readsAs_of_read ?_ (f.options.balanced_flatPage spans)⟩
    rw [chunks_flat_of_ok hflat]
    exact read_flatChunks hread
  · intro l hbuffered
    obtain ⟨hrun, -⟩ := failure_buffered_eq_none_iff.mp hbuffered
    obtain ⟨spans, mark, hall, hmark, hread⟩ := read_closedCode hf hnames hrun
    refine ⟨spans, mark, hall, hmark, readsAs_of_read ?_ (f.options.balanced_numberedPage _ _ _)⟩
    rw [chunks_buffered hbuffered]
    exact read_numbered hread

theorem readsAs_page_standard :
    ofOptions {} = .ok standard ∧ ∃ spans mark,
      (Options.spanRules {}).ShowsAll ({} : Progress).taxonomy (blankTokens "a<b") spans ∧
        (Options.spanRules {}).Shows .whitespace mark ∧
        ReadsAs (String.join (standard.buffered .table {} (blankTokens "a<b")).chunks)
          (Options.numberedPage {} .table (lineCount (blankTokens "a<b"))
            (closedSpans (blankTokens "a<b") mark spans)) := by
  have hsuccess := failure_buffered_standard .table {} "a<b" (by decide +kernel)
  exact ⟨ofOptions_default, (readsAs_page ofOptions_default (.inr rfl) {} _).2 .table hsuccess⟩

end Formatter

end CodeMarkup
