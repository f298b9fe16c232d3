import CodeMarkup.Formatter
import CodeMarkup.Proofs.Markup.Element
import CodeMarkup.Proofs.Run.Stream

/-!
The chunks of a formatter. Flat markup is the chunks of the tokens between two chunks of the
wrapper. A numbered layout is complete or has no chunk at all, and which of its chunks make up the
gutter cell and the code cell can be told from the frame.
-/

namespace CodeMarkup

open Markup

namespace Options

/-- Whether the numbers of that many lines can be written. -/
def NumbersFit (o : Options) (lines : Nat) : Prop :=
  ∀ n ∈ Gutter.range o.startLine lines, n.natAbs < Gutter.numberBound

theorem numbersFit_of_le {o : Options} {lines : Nat}
    (h : o.startLine.natAbs + lines ≤ Gutter.numberBound) : o.NumbersFit lines := by
  intro n hn
  have := Gutter.mem_range.mp hn
  omega

/-- The numbers of that many lines, with line breaks between them. -/
def lineNumbering (o : Options) (lines : Nat) : String :=
  "\n".intercalate ((Gutter.range o.startLine lines).map toString)

end Options

/-- The number of lines that a stream of tokens takes up. -/
def lineCount (tokens : List Token) : Nat :=
  countLines (tokens.map Token.text)

/-- Whether the last text of a stream of tokens ends with a line break. -/
def endsInNewline (tokens : List Token) : Bool :=
  tokens.getLast?.any fun token => token.text.toList.getLast? == some '\n'

theorem needsNewline_feedAll (tokens : List Token) :
    (LineCount.feedAll {} (tokens.map Token.text)).needsNewline = !endsInNewline tokens := by
  rw [LineCount.needsNewline, LineCount.last_feedAll, List.getLast?_map, endsInNewline]
  cases tokens.getLast? with
  | none => rfl
  | some token => simp [bne]

namespace Formatter

/-- The chunk in front of flat markup. -/
def flatOpening (f : Formatter) : List String :=
  if f.options.wrap then ["<pre" ++ f.options.wrapperAttribute ++ "><code>"] else []

/-- The chunk after flat markup. -/
def flatClosing (f : Formatter) : List String :=
  if f.options.wrap then ["</code></pre>\n"] else []

/-- The chunks of flat markup that belong to tokens. -/
def tokenChunks (f : Formatter) (chunks : List String) : List String :=
  if f.options.wrap then (chunks.drop 1).dropLast else chunks

variable {f : Formatter} {l : Layout} {p : Progress} {tokens : List Token}

/-! ### Flat markup -/

theorem failure_flat (f : Formatter) (p : Progress) (tokens : List Token) :
    (f.flat p tokens).failure = (Run.ofTokens f.options.spanRules p tokens).failure := by
  unfold flat
  cases f.options.wrap with
  | false => rfl
  | true =>
    cases h : (Run.ofTokens f.options.spanRules p tokens).failure <;> simp [Run.close, Run.cons, h]

theorem last_flat (f : Formatter) (p : Progress) (tokens : List Token) :
    (f.flat p tokens).last = (Run.ofTokens f.options.spanRules p tokens).last := by
  unfold flat
  cases f.options.wrap with
  | false => rfl
  | true =>
    cases h : (Run.ofTokens f.options.spanRules p tokens).failure <;> simp [Run.close, Run.cons, h]

theorem chunks_flat_of_ok (h : (f.flat p tokens).failure = none) :
    (f.flat p tokens).chunks = f.flatOpening ++
      (Run.ofTokens f.options.spanRules p tokens).chunks ++ f.flatClosing := by
  rw [failure_flat] at h
  unfold flat flatOpening flatClosing
  cases f.options.wrap <;> simp [Run.close, Run.cons, Run.chunks, h]

theorem chunks_flat_of_error {e : RunFailure} (h : (f.flat p tokens).failure = some e) :
    (f.flat p tokens).chunks = f.flatOpening ++
      (Run.ofTokens f.options.spanRules p tokens).chunks := by
  rw [failure_flat] at h
  unfold flat flatOpening
  cases f.options.wrap <;> simp [Run.close, Run.cons, Run.chunks, h]

theorem tokenChunks_append (f : Formatter) (chunks : List String) :
    f.tokenChunks (f.flatOpening ++ chunks ++ f.flatClosing) = chunks := by
  unfold tokenChunks flatOpening flatClosing
  cases f.options.wrap <;> simp

theorem tokenChunks_flat (h : (f.flat p tokens).failure = none) :
    f.tokenChunks (f.flat p tokens).chunks =
      (Run.ofTokens f.options.spanRules p tokens).chunks := by
  rw [chunks_flat_of_ok h, tokenChunks_append]

/-! ### Numbered layouts -/

/-- The line numbers of a stream of tokens as a block. -/
def lineBlock (f : Formatter) (tokens : List Token) : String :=
  "<pre class=\"lineno\">" ++ f.options.lineNumbering (lineCount tokens) ++ "</pre>"

/-- The code of a stream of tokens with the given chunks, closed by a line break. -/
def closedCode (f : Formatter) (tokens : List Token) (chunks : List String) : String :=
  String.join chunks ++ if endsInNewline tokens then "" else f.trailingNewline

/-- The progress once a stream has been drained, with a record of it. -/
def drained (f : Formatter) (l : Layout) (p : Progress) (tokens : List Token) : Progress :=
  ⟨p.toSession.note (.drained (lineCount tokens) f.options.startLine l), p.pulled⟩

theorem body_feedAll (f : Formatter) (tokens : List Token) (chunks : List String) :
    f.body (LineCount.feedAll {} (tokens.map Token.text)) chunks = f.closedCode tokens chunks := by
  rw [body, closedCode, needsNewline_feedAll]
  cases endsInNewline tokens <;> simp

theorem buffered_of_error {e : RunFailure}
    (h : (Run.ofTokens f.options.spanRules p tokens).failure = some e) :
    f.buffered l p tokens = .fail e (Run.ofTokens f.options.spanRules p tokens).last := by
  simp only [buffered, h]

theorem buffered_of_fits (h : (Run.ofTokens f.options.spanRules p tokens).failure = none)
    (hfits : f.options.NumbersFit (lineCount tokens)) :
    f.buffered l p tokens =
      .atOnce (f.numbered l (f.lineBlock tokens)
          (f.closedCode tokens (Run.ofTokens f.options.spanRules p tokens).chunks))
        (f.drained l (Run.ofTokens f.options.spanRules p tokens).last tokens) := by
  have hnumbers : Gutter.numbers f.options.startLine (lineCount tokens) =
      .ok (f.options.lineNumbering (lineCount tokens)) := Gutter.numbers_eq_ok hfits
  have hblock : Gutter.block f.options.startLine
      ((LineCount.feedAll {} (tokens.map Token.text)).lines : Int) = .ok (f.lineBlock tokens) := by
    show (Gutter.numbers f.options.startLine (lineCount tokens)).map _ = _
    rw [hnumbers]
    rfl
  simp only [buffered, h, hblock, body_feedAll]
  rfl

theorem buffered_of_numbers {e : LongNumber}
    (h : (Run.ofTokens f.options.spanRules p tokens).failure = none)
    (he : Gutter.numbers f.options.startLine (lineCount tokens) = .error e) :
    f.buffered l p tokens = .fail (.lineNumber e)
      (f.drained l (Run.ofTokens f.options.spanRules p tokens).last tokens) := by
  have hblock : Gutter.block f.options.startLine
      ((LineCount.feedAll {} (tokens.map Token.text)).lines : Int) = .error e := by
    show (Gutter.numbers f.options.startLine (lineCount tokens)).map _ = _
    rw [he]
    rfl
  simp only [buffered, h, hblock]
  rfl

theorem exists_numbers_of_not_fits {o : Options} {lines : Nat} (h : ¬ o.NumbersFit lines) :
    ∃ e, Gutter.numbers o.startLine lines = .error e := by
  have hlong : ∃ n ∈ Gutter.range o.startLine lines, Gutter.numberBound ≤ n.natAbs := by
    simpa [Options.NumbersFit] using h
  exact Gutter.numbers_eq_error hlong

theorem buffered_of_not_fits (h : (Run.ofTokens f.options.spanRules p tokens).failure = none)
    (hfits : ¬ f.options.NumbersFit (lineCount tokens)) :
    ∃ e, f.buffered l p tokens = .fail (.lineNumber e)
      (f.drained l (Run.ofTokens f.options.spanRules p tokens).last tokens) := by
  obtain ⟨e, he⟩ := exists_numbers_of_not_fits hfits
  exact ⟨e, buffered_of_numbers h he⟩

/-- A numbered layout fails at a token or at a line number, without a chunk, or it is made at
once. -/
theorem buffered_cases (f : Formatter) (l : Layout) (p : Progress) (tokens : List Token) :
    (∃ e, (Run.ofTokens f.options.spanRules p tokens).failure = some e ∧
      f.buffered l p tokens = .fail e (Run.ofTokens f.options.spanRules p tokens).last) ∨
    (∃ e, f.buffered l p tokens = .fail (.lineNumber e)
      (f.drained l (Run.ofTokens f.options.spanRules p tokens).last tokens)) ∨
    (f.buffered l p tokens).failure = none := by
  cases hrun : (Run.ofTokens f.options.spanRules p tokens).failure with
  | some e => exact .inl ⟨e, rfl, buffered_of_error hrun⟩
  | none =>
    by_cases hfits : f.options.NumbersFit (lineCount tokens)
    · refine .inr (.inr ?_)
      rw [buffered_of_fits hrun hfits]
      rfl
    · exact .inr (.inl (buffered_of_not_fits hrun hfits))

theorem failure_buffered_eq_none_iff :
    (f.buffered l p tokens).failure = none ↔
      (Run.ofTokens f.options.spanRules p tokens).failure = none ∧
        f.options.NumbersFit (lineCount tokens) := by
  constructor
  · intro h
    cases hrun : (Run.ofTokens f.options.spanRules p tokens).failure with
    | some e =>
      rw [buffered_of_error hrun] at h
      cases h
    | none =>
      by_cases hfits : f.options.NumbersFit (lineCount tokens)
      · exact ⟨rfl, hfits⟩
      · obtain ⟨e, he⟩ := buffered_of_not_fits (l := l) hrun hfits
        rw [he] at h
        cases h
  · rintro ⟨hrun, hfits⟩
    rw [buffered_of_fits hrun hfits]
    rfl

theorem chunks_buffered (h : (f.buffered l p tokens).failure = none) :
    (f.buffered l p tokens).chunks = f.numbered l (f.lineBlock tokens)
      (f.closedCode tokens (Run.ofTokens f.options.spanRules p tokens).chunks) := by
  obtain ⟨hrun, hfits⟩ := failure_buffered_eq_none_iff.mp h
  rw [buffered_of_fits hrun hfits]
  simp [Run.atOnce, Run.chunks, Function.comp_def]

/-! ### The configured way -/

variable {before : List Token} {chunks : List String} {t : Taxonomy} {bad : Token}
  {failure : SpanFailure}

theorem stream_of_renders (h : f.options.spanRules.Renders p.taxonomy tokens chunks t)
    (hfits : f.options.lineNumbers = true → f.options.NumbersFit (lineCount tokens)) :
    (f.stream p tokens).failure = none := by
  have hrun := (Run.ofTokens_of_renders h).1
  unfold stream
  split
  · next hnumbers => exact failure_buffered_eq_none_iff.mpr ⟨hrun, hfits hnumbers⟩
  · rw [failure_flat, hrun]

theorem stream_of_stopsAt
    (h : f.options.spanRules.StopsAt p.taxonomy tokens before chunks t bad failure) :
    (f.stream p tokens).failure = some (.span failure) ∧
      (f.stream p tokens).chunks =
        (if f.options.lineNumbers then [] else f.flatOpening ++ chunks) ∧
      (f.stream p tokens).last.log = p.log ++ [.span failure] := by
  obtain ⟨hfailure, hchunks, hlast⟩ := Run.ofTokens_of_stopsAt h
  have hlog : (Run.ofTokens f.options.spanRules p tokens).last.log = p.log ++ [.span failure] := by
    rw [hlast]
    rfl
  unfold stream
  split
  · next hnumbers =>
    rw [buffered_of_error hfailure]
    exact ⟨rfl, rfl, hlog⟩
  · next hnumbers =>
    have hflat := (failure_flat f p tokens).trans hfailure
    refine ⟨hflat, ?_, ?_⟩
    · rw [chunks_flat_of_error hflat, hchunks]
    · rw [last_flat, hlog]

theorem stream_of_numbers {e : LongNumber}
    (h : f.options.spanRules.Renders p.taxonomy tokens chunks t)
    (hnumbers : f.options.lineNumbers = true)
    (he : Gutter.numbers f.options.startLine (lineCount tokens) = .error e) :
    (f.stream p tokens).failure = some (.lineNumber e) ∧ (f.stream p tokens).chunks = [] ∧
      (f.stream p tokens).last.log =
        p.log ++ [.drained (lineCount tokens) f.options.startLine f.options.layout] := by
  obtain ⟨hfailure, -, hlast⟩ := Run.ofTokens_of_renders h
  rw [stream, if_pos hnumbers, buffered_of_numbers hfailure he, hlast]
  exact ⟨rfl, rfl, rfl⟩

end Formatter

/-! ### Cells -/

theorem dropWhile_ne_append {opening : String} {front : List String} (h : opening ∉ front)
    (rest : List String) :
    (front ++ opening :: rest).dropWhile (· ≠ opening) = opening :: rest := by
  have hfront : ∀ chunk ∈ front, decide (chunk ≠ opening) = true := by
    intro chunk hchunk
    simp only [ne_eq, decide_eq_true_eq]
    rintro rfl
    exact h hchunk
  rw [List.dropWhile_append_of_pos hfront]
  simp

namespace Layout

/-- The chunks of the gutter cell among those of a numbered layout. -/
def gutterCell (l : Layout) (chunks : List String) : List String :=
  (chunks.dropWhile (· ≠ l.frame.gutterOpen)).take 3

/-- The chunks of the code cell among those of a numbered layout; the third one is the code. -/
def codeCell (l : Layout) (chunks : List String) : List String :=
  (chunks.dropWhile (· ≠ l.frame.codeOpen)).take 5

end Layout

/-- The opening chunk of the wrapper opens no cell: a table cell has another name, and a box has two
attributes. -/
theorem Options.wrapper_ne_frame (o : Options) (l : Layout) :
    "<div" ++ o.wrapperAttribute ++ ">" ≠ l.frame.gutterOpen ∧
      "<div" ++ o.wrapperAttribute ++ ">" ≠ l.frame.codeOpen := by
  have hquotes : ("<div" ++ o.wrapperAttribute ++ ">").toList.count '"' ≤ 2 := by
    unfold wrapperAttribute
    split
    · simp
    · next c _ =>
      split
      · simp
      · simp [List.count_eq_zero.mpr fun hmem => (inert_escapeAll c _ hmem).2.2 rfl]
  have hname : ("<div" ++ o.wrapperAttribute ++ ">").toList[1]? = some 'd' := by simp
  cases l with
  | table =>
    constructor
    · intro h
      rw [h] at hname
      exact absurd hname (by decide)
    · intro h
      rw [h] at hname
      exact absurd hname (by decide)
  | div =>
    constructor
    · intro h
      rw [h] at hquotes
      exact absurd hquotes (by decide)
    · intro h
      rw [h] at hquotes
      exact absurd hquotes (by decide)

namespace Formatter

theorem block_ne_codeOpen (l : Layout) (numbers : String) :
    "<pre class=\"lineno\">" ++ numbers ++ "</pre>" ≠ l.frame.codeOpen := by
  have hname : ("<pre class=\"lineno\">" ++ numbers ++ "</pre>").toList[1]? = some 'p' := by simp
  intro h
  rw [h] at hname
  cases l <;> exact absurd hname (by decide)

/-- The chunks in front of the cells of a numbered layout. -/
def gridOpening (f : Formatter) (l : Layout) : List String :=
  (if f.options.wrap then ["<div" ++ f.options.wrapperAttribute ++ ">"] else []) ++
    [l.frame.gridOpen]

/-- The chunks after the cells of a numbered layout. -/
def gridClosing (f : Formatter) (l : Layout) : List String :=
  l.frame.gridClose :: if f.options.wrap then ["</div>\n"] else []

theorem numbered_eq (f : Formatter) (l : Layout) (gutter code : String) :
    f.numbered l gutter code = f.gridOpening l ++
      [l.frame.gutterOpen, gutter, l.frame.gutterClose] ++
      [l.frame.codeOpen, "<pre>", code, "</pre>", l.frame.codeClose] ++ f.gridClosing l := by
  unfold numbered gridOpening gridClosing
  cases f.options.wrap <;> rfl

theorem notMem_gridOpening (f : Formatter) (l : Layout) :
    l.frame.gutterOpen ∉ f.gridOpening l ∧ l.frame.codeOpen ∉ f.gridOpening l := by
  obtain ⟨hgutter, hcode⟩ := f.options.wrapper_ne_frame l
  have hgrid : l.frame.gutterOpen ≠ l.frame.gridOpen ∧ l.frame.codeOpen ≠ l.frame.gridOpen := by
    cases l <;> decide
  unfold gridOpening
  cases f.options.wrap with
  | false => exact ⟨by simpa using hgrid.1, by simpa using hgrid.2⟩
  | true => exact ⟨by simpa using ⟨hgutter.symm, hgrid.1⟩, by simpa using ⟨hcode.symm, hgrid.2⟩⟩

theorem gutterCell_numbered (f : Formatter) (l : Layout) (gutter code : String) :
    l.gutterCell (f.numbered l gutter code) =
      [l.frame.gutterOpen, gutter, l.frame.gutterClose] := by
  rw [Layout.gutterCell, numbered_eq, List.append_assoc, List.append_assoc, List.cons_append,
    dropWhile_ne_append (f.notMem_gridOpening l).1]
  rfl

theorem codeCell_numbered (f : Formatter) (l : Layout) (tokens : List Token) (code : String) :
    l.codeCell (f.numbered l (f.lineBlock tokens) code) =
      [l.frame.codeOpen, "<pre>", code, "</pre>", l.frame.codeClose] := by
  have hframe : l.frame.codeOpen ≠ l.frame.gutterOpen ∧
      l.frame.codeOpen ≠ l.frame.gutterClose := by cases l <;> decide
  -- The line numbers are no literal, so that they open no code cell is seen from their first tag.
  have hfront : l.frame.codeOpen ∉ f.gridOpening l ++
      [l.frame.gutterOpen, f.lineBlock tokens, l.frame.gutterClose] := by
    have hblock := (block_ne_codeOpen l (f.options.lineNumbering (lineCount tokens))).symm
    simp only [List.mem_append, List.mem_cons, List.not_mem_nil, or_false, not_or]
    exact ⟨(f.notMem_gridOpening l).2, hframe.1, hblock, hframe.2⟩
  rw [Layout.codeCell, numbered_eq, List.append_assoc, List.cons_append,
    dropWhile_ne_append hfront]
  rfl

end Formatter

end CodeMarkup
