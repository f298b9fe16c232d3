import CodeMarkup.Proofs.Formatter.LineNumbers
import CodeMarkup.Proofs.Span.Leading
import CodeMarkup.Proofs.Value.Plain

/-!
Numbered code as pages display it. The gutter counts the lines of the source, but a page drops a
line feed that comes directly after the tag of the code. Where it does, the code is displayed on a
line less than there are numbers, and every line stands beside the number of the one before it.
-/

namespace CodeMarkup

open Markup

theorem Options.leadingFeed_lineNumbering (o : Options) {lines : Nat} (h : 1 ≤ lines) :
    leadingFeed (Markup.text (o.lineNumbering lines)) = [] := by
  have hpieces := o.pieces_lineNumbering h
  obtain ⟨n, rfl⟩ : ∃ n, lines = n + 1 := ⟨lines - 1, by omega⟩
  refine if_neg fun hfeed => ?_
  -- With a line feed in front, the first piece would be empty, and no number is written so.
  obtain ⟨cs, hcs⟩ : ∃ cs, (o.lineNumbering (n + 1)).toList = '\n' :: cs :=
    List.head?_eq_some_iff.mp (by simpa [Markup.text] using hfeed)
  have hfirst : "" = toString o.startLine := by
    rw [Text.pieces, hcs, Gutter.range] at hpieces
    simpa [Text.cut] using congrArg List.head? hpieces
  exact toString_int_ne_empty o.startLine hfirst.symm

namespace Formatter

variable {o : Options} {f : Formatter} {l : Layout} {p : Progress} {tokens : List Token}

theorem startsAlike_closedCode (hf : ofOptions o = .ok f)
    (h : (Run.ofTokens o.spanRules p tokens).failure = none) {spans : List Span}
    {mark : Option (String × String)} (hall : o.spanRules.ShowsAll p.taxonomy tokens spans)
    (hmark : o.spanRules.Shows .whitespace mark) :
    StartsAlike (f.closedCode tokens (Run.ofTokens o.spanRules p tokens).chunks).toList
      ((closedSpans tokens mark spans).flatMap Span.events) := by
  obtain ⟨t', hrenders⟩ := Run.renders_of_ofTokens h
  have hchunks := hall.startsAlike hrenders
  have hnewline := hmark.startsAlike (of_ofOptions hf).2
  rw [closedCode, closedSpans, String.toList_append, List.flatMap_append]
  cases endsInNewline tokens with
  | true => simpa using hchunks
  | false => exact hchunks.append (by simpa using hnewline)

/-- The gutter displays its numbers as they are. -/
theorem displayed_gutterEvents (l : Layout) (o : Options) (tokens : List Token) :
    displayed (l.gutterEvents (o.lineNumbering (lineCount tokens))) =
      (o.lineNumbering (lineCount tokens)).toList := by
  have hcell := leadingFeed_append_displayed (opensPre_text (o.lineNumbering (lineCount tokens)))
    l.cellName l.gutterMarks [("class", "lineno")]
  rw [o.leadingFeed_lineNumbering (lineCount_pos tokens), List.nil_append, characters_text] at hcell
  exact hcell

/-- The code cell displays the text of its spans, except for a line feed in front. -/
theorem displayed_codeEvents (l : Layout) {tokens : List Token} {spans : List Span}
    (mark : Option (String × String)) (h : spans.map Span.text = tokens.map Token.text) :
    leadingFeed ((closedSpans tokens mark spans).flatMap Span.events) ++
        displayed (l.codeEvents ((closedSpans tokens mark spans).flatMap Span.events)) =
      (closedText tokens).toList := by
  have hcell := leadingFeed_append_displayed
    (opensPre_flatMap_events (closedSpans tokens mark spans)) l.cellName l.codeMarks []
  rw [characters_flatMap_events, join_closedSpans h] at hcell
  exact hcell

/-- A stream of one text of no particular kind. -/
def plainTokens (text : String) : List Token :=
  [⟨.kind (Kind.root.child "Text"), text⟩]

theorem run_plainTokens (p : Progress) (text : String) :
    (Run.ofTokens standard.options.spanRules p (plainTokens text)).failure = none ∧
      (Run.ofTokens standard.options.spanRules p (plainTokens text)).chunks =
        [escapeText text] := by
  have hmarkup : (Options.spanRules {}).renderKind (Kind.root.child "Text") text =
      .ok (escapeText text) := SpanRules.renderKind_of_untagged rfl ShortNames.find?_text
  exact Run.ofTokens_single hmarkup p

/-- The page displays the source beside its numbers if the code does not start with a line feed, and
this is up to the first text that is shown. -/
theorem displayed_codeCell {o : Options} {f : Formatter} (hf : ofOptions o = .ok f) {l : Layout}
    {p : Progress} {tokens : List Token} (h : (f.buffered l p tokens).failure = none) :
    ∃ code, l.codeCell (f.buffered l p tokens).chunks =
        [l.frame.codeOpen, "<pre>", code, "</pre>", l.frame.codeClose] ∧
      (∃ spans mark, o.spanRules.ShowsAll p.taxonomy tokens spans ∧
        o.spanRules.Shows .whitespace mark ∧
        (code.toList.head? = some '\n' ↔ LeadsWithFeed (closedSpans tokens mark spans))) ∧
      (o.spanRules.PlainNames → ∃ numbers events,
        Markup.read (String.join (l.gutterCell (f.buffered l p tokens).chunks)) = some numbers ∧
        Markup.read (String.join (l.codeCell (f.buffered l p tokens).chunks)) = some events ∧
        (Text.pieces '\n' (String.ofList (displayed numbers))).map String.toInt? =
          (List.range (lineCount tokens)).map (fun i : Nat => some (o.startLine + i)) ∧
        (if code.toList.head? = some '\n' then ['\n'] else []) ++ displayed events =
          (closedText tokens).toList ∧
        lineTotal (displayed events) + (if code.toList.head? = some '\n' then 1 else 0) =
          lineCount tokens) := by
  obtain ⟨rfl, -⟩ := of_ofOptions hf
  obtain ⟨hrun, -⟩ := failure_buffered_eq_none_iff.mp h
  refine ⟨_, by rw [chunks_buffered h, codeCell_numbered], ?_, ?_⟩
  · obtain ⟨t', hrenders⟩ := Run.renders_of_ofTokens hrun
    obtain ⟨spans, hall⟩ := SpanRules.exists_showsAll hrenders
    obtain ⟨mark, hmark⟩ := SpanRules.exists_shows (of_ofOptions hf).2
    refine ⟨spans, mark, hall, hmark, ?_⟩
    rw [← head?_flatMap_events]
    exact (startsAlike_closedCode hf hrun hall hmark).feed
  · intro hplain
    obtain ⟨spans, mark, hall, hmark, hread⟩ := read_closedCode_of_plainNames hf hplain hrun
    have hdisplayed := displayed_codeEvents l mark hall.map_text
    have hend := getLast?_closedText tokens
    rw [← hdisplayed] at hend
    have hlines := lineTotal_append hend
    rw [hdisplayed, count_closedText] at hlines
    refine ⟨_, _, read_gutterCell_buffered h, read_codeCell_buffered h hread, ?_, ?_, ?_⟩
    · rw [displayed_gutterEvents, String.ofList_toList,
        f.options.toInt?_lineNumbering (lineCount_pos tokens)]
    · simp only [(startsAlike_closedCode hf hrun hall hmark).feed]
      exact hdisplayed
    · simp only [(startsAlike_closedCode hf hrun hall hmark).feed]
      rw [← hlines, leadingFeed]
      split <;> rfl

theorem displayed_codeCell_standard :
    ofOptions {} = .ok standard ∧
      (standard.buffered .div {} (blankTokens "\nx\n")).failure = none ∧
      ∃ code, Layout.div.codeCell (standard.buffered .div {} (blankTokens "\nx\n")).chunks =
          [Layout.div.frame.codeOpen, "<pre>", code, "</pre>", Layout.div.frame.codeClose] ∧
        ∃ numbers events,
          Markup.read (String.join (Layout.div.gutterCell
            (standard.buffered .div {} (blankTokens "\nx\n")).chunks)) = some numbers ∧
          Markup.read (String.join (Layout.div.codeCell
            (standard.buffered .div {} (blankTokens "\nx\n")).chunks)) = some events ∧
          (Text.pieces '\n' (String.ofList (displayed numbers))).map String.toInt? =
            (List.range 2).map (fun i : Nat => some (1 + (i : Int))) ∧
          lineTotal (displayed events) + (if code.toList.head? = some '\n' then 1 else 0) = 2 := by
  have hsuccess := failure_buffered_standard .div {} "\nx\n" (le_numberBound (by decide))
  have hlines : lineCount (blankTokens "\nx\n") = 2 := rfl
  obtain ⟨code, hcell, -, hplain⟩ := displayed_codeCell ofOptions_default hsuccess
  obtain ⟨numbers, events, hgutter, hcode, hnumbers, -, htotal⟩ :=
    hplain (SpanRules.plainNames_of (.inr rfl))
  rw [hlines] at hnumbers htotal
  exact ⟨ofOptions_default, hsuccess, code, hcell, numbers, events, hgutter, hcode, hnumbers,
    htotal⟩

/-- Of a text that starts with a line feed and is not tagged, the first line is not displayed: the
first of its two numbers stands beside its second line. -/
theorem displayed_plainTokens :
    ofOptions {} = .ok standard ∧
      (standard.buffered .table {} (plainTokens "\nx\n")).failure = none ∧
      ∃ numbers events,
        Markup.read (String.join (Layout.table.gutterCell
          (standard.buffered .table {} (plainTokens "\nx\n")).chunks)) = some numbers ∧
        Markup.read (String.join (Layout.table.codeCell
          (standard.buffered .table {} (plainTokens "\nx\n")).chunks)) = some events ∧
        displayed numbers = "1\n2".toList ∧ displayed events = "x\n".toList ∧
        lineTotal (displayed numbers) = 2 ∧ lineTotal (displayed events) = 1 := by
  obtain ⟨hrun, hchunks⟩ := run_plainTokens {} "\nx\n"
  have hsuccess : (standard.buffered .table {} (plainTokens "\nx\n")).failure = none :=
    failure_buffered_eq_none_iff.mpr ⟨hrun, Options.numbersFit_of_le (le_numberBound (by decide))⟩
  have hread : Markup.read (standard.closedCode (plainTokens "\nx\n")
      (Run.ofTokens standard.options.spanRules {} (plainTokens "\nx\n")).chunks) =
        some [.char '\n', .char 'x', .char '\n'] := by
    rw [hchunks]
    rfl
  exact ⟨ofOptions_default, hsuccess, _, _, read_gutterCell_buffered hsuccess,
    read_codeCell_buffered hsuccess hread, rfl, rfl, rfl, rfl⟩

end Formatter

end CodeMarkup
