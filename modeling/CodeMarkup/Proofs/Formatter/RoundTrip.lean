import CodeMarkup.Proofs.Formatter.Page

/-!
Round trips. The plain text of the markup of tokens is the text that they were given with: flat
markup gives it back from the chunks of the tokens, and a numbered layout from its code cell, there
with a line break at the end in any case. Chunks are joined before they are read, so nothing that is
escaped comes apart between two of them.
-/

namespace CodeMarkup

open Markup

/-- The whole text of a stream of tokens. -/
def sourceText (tokens : List Token) : String :=
  String.join (tokens.map Token.text)

/-- The whole text of a stream of tokens, closed by a line break. -/
def closedText (tokens : List Token) : String :=
  sourceText tokens ++ if endsInNewline tokens then "" else "\n"

theorem SpanRules.ShowsAll.map_text {r : SpanRules} {t : Taxonomy} {tokens : List Token}
    {spans : List Span} (h : r.ShowsAll t tokens spans) :
    spans.map Span.text = tokens.map Token.text := by
  induction h with
  | nil => rfl
  | cons _ _ _ ih => rw [List.map_cons, List.map_cons, ih]

theorem characters_flatMap_events (spans : List Span) :
    characters (spans.flatMap Span.events) = (String.join (spans.map Span.text)).toList := by
  induction spans with
  | nil => rfl
  | cons span spans ih =>
    rw [List.flatMap_cons, characters_append, span.characters_events, ih, List.map_cons,
      String.join_cons, String.toList_append]

theorem join_closedSpans {tokens : List Token} {spans : List Span}
    (h : spans.map Span.text = tokens.map Token.text) (mark : Option (String × String)) :
    String.join ((closedSpans tokens mark spans).map Span.text) = closedText tokens := by
  rw [closedSpans, closedText, List.map_append, String.join_append, h, sourceText]
  cases endsInNewline tokens <;> rfl

namespace Formatter

variable {o : Options} {f : Formatter} {p : Progress} {tokens : List Token}

theorem plainText_tokenChunks (hf : ofOptions o = .ok f)
    (hnames : o.theme.isSome ∨ o.shortNames = .standard) (h : (f.flat p tokens).failure = none) :
    plainText (String.join (f.tokenChunks (f.flat p tokens).chunks)) = sourceText tokens := by
  obtain ⟨rfl, -⟩ := of_ofOptions hf
  have hrun := (failure_flat f p tokens).symm.trans h
  obtain ⟨spans, hall, hread⟩ := SpanRules.read_ofTokens (SpanRules.plainNames_of hnames) hrun
  rw [tokenChunks_flat h, plainText_of_read hread, characters_flatMap_events, hall.map_text,
    String.ofList_toList, sourceText]

theorem plainText_codeCell (hf : ofOptions o = .ok f)
    (hnames : o.theme.isSome ∨ o.shortNames = .standard) {l : Layout}
    (h : (f.buffered l p tokens).failure = none) :
    plainText (String.join (l.codeCell (f.buffered l p tokens).chunks)) = closedText tokens := by
  obtain ⟨rfl, -⟩ := of_ofOptions hf
  obtain ⟨hrun, -⟩ := failure_buffered_eq_none_iff.mp h
  obtain ⟨spans, mark, hall, -, hread⟩ := read_closedCode hf hnames hrun
  rw [plainText_of_read (read_codeCell_buffered h hread), Layout.codeEvents,
    characters_element, characters_element, characters_flatMap_events,
    join_closedSpans hall.map_text, String.ofList_toList]

/-- Deleting the tags and decoding the entities gives back the text of the tokens. -/
theorem plainText_markup (hf : ofOptions o = .ok f)
    (hnames : o.theme.isSome ∨ o.shortNames = .standard) (p : Progress) (tokens : List Token) :
    ((f.flat p tokens).failure = none →
      plainText (String.join (f.tokenChunks (f.flat p tokens).chunks)) =
        String.join (tokens.map Token.text)) ∧
    ∀ l, (f.buffered l p tokens).failure = none →
      plainText (String.join (l.codeCell (f.buffered l p tokens).chunks)) =
        String.join (tokens.map Token.text) ++ if endsInNewline tokens then "" else "\n" :=
  ⟨plainText_tokenChunks hf hnames, fun _ => plainText_codeCell hf hnames⟩

theorem plainText_markup_standard :
    ofOptions {} = .ok standard ∧
      plainText (String.join (standard.tokenChunks
        (standard.flat {} (blankTokens "<b>&lt;")).chunks)) = "<b>&lt;" := by
  have hsuccess : (standard.flat {} (blankTokens "<b>&lt;")).failure = none := by
    rw [failure_flat, failure_standard]
  refine ⟨ofOptions_default, ?_⟩
  rw [(plainText_markup ofOptions_default (.inr rfl) {} (blankTokens "<b>&lt;")).1 hsuccess]
  rfl

end Formatter

end CodeMarkup
