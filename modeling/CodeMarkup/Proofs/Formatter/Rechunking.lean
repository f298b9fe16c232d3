import CodeMarkup.Proofs.Formatter.RoundTrip

/-!
The lines of a text that comes in pieces. Of the pieces only the line breaks and the last text are
kept, and still the count is that of the whole text, however it is cut: the last text, unless it is
empty, ends as the whole text does. After a line break an empty last text counts as one more line.
-/

namespace CodeMarkup

/-! ### Pieces of a text -/

section

variable {texts more : List String}

theorem join_filter_ne_empty (texts : List String) :
    String.join (texts.filter (· ≠ "")) = String.join texts := by
  induction texts with
  | nil => rfl
  | cons text texts ih =>
    rw [String.join_cons, ← ih, List.filter_cons]
    by_cases h : text = ""
    · simp [h]
    · simp [h, String.join_cons]

theorem getLast?_join (h : texts.getLast? ≠ some "") :
    (String.join texts).toList.getLast? = (texts.getLast?.getD "").toList.getLast? := by
  cases hlast : texts.getLast? with
  | none =>
    rw [List.getLast?_eq_none_iff.mp hlast]
    rfl
  | some last =>
    have hne : last.toList ≠ [] := fun hnil =>
      h (by rw [hlast, String.toList_eq_nil_iff.mp hnil])
    obtain ⟨c, hc⟩ := Option.ne_none_iff_exists'.mp (mt List.getLast?_eq_none_iff.mp hne)
    obtain ⟨front, rfl⟩ := List.getLast?_eq_some_iff.mp hlast
    rw [String.toList_join, List.flatMap_append, List.flatMap_singleton, List.getLast?_append,
      Option.getD_some, hc, Option.some_or]

namespace LineCount

theorem needsNewline_join (h : texts.getLast? ≠ some "") :
    (feedAll {} texts).needsNewline = (feedAll {} [String.join texts]).needsNewline := by
  rw [needsNewline, needsNewline, last_feedAll, last_feedAll, List.getLast?_singleton,
    Option.getD_some, getLast?_join h]

theorem needsNewline_of_empty (h : texts.getLast? = some "") :
    (feedAll {} texts).needsNewline = true := by
  rw [needsNewline, last_feedAll, h]
  rfl

end LineCount

/-- The count is that of the whole text, and one more after an empty last text that follows a line
break. -/
theorem countLines_join (texts : List String) :
    countLines texts = countLines [String.join texts] +
      if texts.getLast? = some "" ∧ (String.join texts).toList.getLast? = some '\n' then 1
      else 0 := by
  rw [countLines_eq, countLines_eq, List.flatMap_singleton, String.toList_join]
  by_cases h : texts.getLast? = some ""
  · rw [LineCount.needsNewline_of_empty h, LineCount.needsNewline, LineCount.last_feedAll,
      List.getLast?_singleton, Option.getD_some, String.toList_join]
    by_cases hbreak : (texts.flatMap String.toList).getLast? = some '\n' <;> simp [h, hbreak]
  · simp [h, LineCount.needsNewline_join h]

theorem countLines_congr (h : String.join texts = String.join more)
    (hlast : texts.getLast? = more.getLast?) : countLines texts = countLines more := by
  rw [countLines_join texts, countLines_join more, h, hlast]

end

/-! ### Streams of tokens -/

namespace Formatter

variable {f : Formatter} {l : Layout} {p q : Progress} {tokens more : List Token}

theorem lineBlock_congr (h : lineCount tokens = lineCount more) :
    f.lineBlock tokens = f.lineBlock more := by
  unfold lineBlock
  rw [h]

/-- Streams of as many lines have one gutter; where it has a number that is not written, that number
stops them both. -/
theorem gutterCell_congr (h : lineCount tokens = lineCount more)
    (htokens : (Run.ofTokens f.options.spanRules p tokens).failure = none)
    (hmore : (Run.ofTokens f.options.spanRules q more).failure = none) :
    (f.buffered l p tokens).failure = (f.buffered l q more).failure ∧
      l.gutterCell (f.buffered l p tokens).chunks =
        l.gutterCell (f.buffered l q more).chunks := by
  by_cases hfits : f.options.NumbersFit (lineCount tokens)
  · have hfits' : f.options.NumbersFit (lineCount more) := by rwa [← h]
    have ht := failure_buffered_eq_none_iff (l := l).mpr ⟨htokens, hfits⟩
    have hm := failure_buffered_eq_none_iff (l := l).mpr ⟨hmore, hfits'⟩
    refine ⟨ht.trans hm.symm, ?_⟩
    rw [chunks_buffered ht, chunks_buffered hm, gutterCell_numbered, gutterCell_numbered,
      lineBlock_congr h]
  · obtain ⟨e, he⟩ := exists_numbers_of_not_fits hfits
    rw [buffered_of_numbers htokens he, buffered_of_numbers hmore (h ▸ he)]
    exact ⟨rfl, rfl⟩

end Formatter

theorem lineCount_congr {tokens more : List Token} (h : sourceText tokens = sourceText more)
    (htokens : (tokens.map Token.text).getLast? ≠ some "")
    (hmore : (more.map Token.text).getLast? ≠ some "") :
    lineCount tokens = lineCount more ∧
      (LineCount.feedAll {} (tokens.map Token.text)).needsNewline =
        (LineCount.feedAll {} (more.map Token.text)).needsNewline := by
  rw [sourceText, sourceText] at h
  constructor
  · rw [lineCount, lineCount, countLines_join, if_neg fun hlast => htokens hlast.1, h,
      countLines_join (more.map _), if_neg fun hlast => hmore hlast.1]
  · rw [LineCount.needsNewline_join htokens, h, ← LineCount.needsNewline_join hmore]

/-- The lines of texts are those of the whole text, and one more where an empty last text follows a
line break. So streams of tokens with one text and non-empty last texts agree on the lines, on the
line break at the end and on the gutter, and empty texts in front of the last one do not count. -/
theorem countLines_of_cuts :
    (∀ texts : List String, countLines texts = countLines [String.join texts] +
      if texts.getLast? = some "" ∧ (String.join texts).toList.getLast? = some '\n' then 1
      else 0) ∧
    (∀ tokens more : List Token, sourceText tokens = sourceText more →
      (tokens.map Token.text).getLast? ≠ some "" → (more.map Token.text).getLast? ≠ some "" →
        lineCount tokens = lineCount more ∧
        (LineCount.feedAll {} (tokens.map Token.text)).needsNewline =
          (LineCount.feedAll {} (more.map Token.text)).needsNewline ∧
        ∀ (f : Formatter) (l : Layout) (p q : Progress),
          (Run.ofTokens f.options.spanRules p tokens).failure = none →
          (Run.ofTokens f.options.spanRules q more).failure = none →
            (f.buffered l p tokens).failure = (f.buffered l q more).failure ∧
            l.gutterCell (f.buffered l p tokens).chunks =
              l.gutterCell (f.buffered l q more).chunks) ∧
    ∀ texts more : List String, texts.filter (· ≠ "") = more.filter (· ≠ "") →
      texts.getLast? = more.getLast? → countLines texts = countLines more := by
  refine ⟨countLines_join, ?_, ?_⟩
  · intro tokens more h htokens hmore
    obtain ⟨hlines, hbreak⟩ := lineCount_congr h htokens hmore
    exact ⟨hlines, hbreak, fun _ _ _ _ => Formatter.gutterCell_congr hlines⟩
  · intro texts more h hlast
    refine countLines_congr ?_ hlast
    rw [← join_filter_ne_empty texts, h, join_filter_ne_empty]

theorem countLines_of_cuts_standard :
    Layout.div.gutterCell (Formatter.standard.buffered .div {}
        (Formatter.blankTokens "a\n" ++ Formatter.blankTokens "b")).chunks =
      Layout.div.gutterCell
        (Formatter.standard.buffered .div {} (Formatter.blankTokens "a\nb")).chunks ∧
    countLines ["a\n", "", "b"] = countLines ["a\n", "b"] := by
  obtain ⟨-, htokens, htexts⟩ := countLines_of_cuts
  have hrender (t : Taxonomy) (text : String) :
      Formatter.standard.options.spanRules.render t ⟨.kind .whitespace, text⟩ =
        .ok (SpanRules.element "class" "w" (escapeText text)) :=
    Formatter.renderKind_standard text
  have hrun : (Run.ofTokens Formatter.standard.options.spanRules {}
      (Formatter.blankTokens "a\n" ++ Formatter.blankTokens "b")).failure = none :=
    (Run.ofTokens_of_renders (.cons (hrender _ _) (.cons (hrender _ _) .nil))).1
  obtain ⟨-, -, hgutter⟩ := htokens (Formatter.blankTokens "a\n" ++ Formatter.blankTokens "b")
    (Formatter.blankTokens "a\nb") (by decide) (by decide) (by decide)
  exact ⟨(hgutter _ _ _ _ hrun (Formatter.failure_standard {} _)).2,
    htexts _ _ (by decide) (by decide)⟩

/-- An empty text at the end counts as a line of its own after a line break. -/
example : countLines ["a\n", ""] = 2 ∧ countLines ["a\n"] = 1 := by decide

end CodeMarkup
