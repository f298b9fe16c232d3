import CodeMarkup.Proofs.Formatter.Rechunking
import Mathlib

/-!
Line numbers beside the code that they number. The lines are counted over the texts as they come,
the numbers are written on their own and the code is joined from markup, and yet the gutter cell has
one number for each line of the code cell, in order from the first.
-/

namespace CodeMarkup

open Markup

/-! ### The lines of a stream -/

theorem toList_sourceText (tokens : List Token) :
    (sourceText tokens).toList = (tokens.map Token.text).flatMap String.toList := by
  rw [sourceText, String.toList_join]

theorem lineCount_eq (tokens : List Token) :
    lineCount tokens =
      (sourceText tokens).toList.count '\n' + if endsInNewline tokens then 0 else 1 := by
  rw [lineCount, countLines_eq, needsNewline_feedAll, toList_sourceText]
  cases endsInNewline tokens <;> rfl

theorem count_closedText (tokens : List Token) :
    (closedText tokens).toList.count '\n' = lineCount tokens := by
  rw [lineCount_eq, closedText, String.toList_append, List.count_append]
  cases endsInNewline tokens <;> rfl

theorem getLast?_sourceText {tokens : List Token} (h : endsInNewline tokens = true) :
    (sourceText tokens).toList.getLast? = some '\n' := by
  obtain ⟨token, hlast, hnewline⟩ : ∃ token, tokens.getLast? = some token ∧
      token.text.toList.getLast? = some '\n' := by
    simpa [endsInNewline, Option.any_eq_true] using h
  have htext : (tokens.map Token.text).getLast? = some token.text := by
    rw [List.getLast?_map, hlast, Option.map_some]
  have hne : token.text ≠ "" := by
    intro hempty
    simp [hempty] at hnewline
  rw [sourceText, getLast?_join fun h => hne (Option.some.inj (htext.symm.trans h)), htext,
    Option.getD_some, hnewline]

theorem getLast?_closedText (tokens : List Token) :
    (closedText tokens).toList.getLast? = some '\n' := by
  rw [closedText, String.toList_append]
  cases h : endsInNewline tokens with
  | true => simpa using getLast?_sourceText h
  | false => simp

theorem lineCount_pos (tokens : List Token) : 1 ≤ lineCount tokens := by
  rw [← count_closedText]
  exact List.count_pos_iff.mpr (List.mem_of_getLast? (getLast?_closedText tokens))

/-! ### The numbers of the lines -/

namespace Options

theorem pieces_lineNumbering (o : Options) {lines : Nat} (h : 1 ≤ lines) :
    Text.pieces '\n' (o.lineNumbering lines) = (Gutter.range o.startLine lines).map toString := by
  have hne : o.lineDigits lines ≠ [] := by
    intro hnil
    have hlength := congrArg List.length hnil
    rw [lineDigits, List.length_map, Gutter.length_range] at hlength
    simp at hlength
    omega
  have hdigits : ∀ digits ∈ o.lineDigits lines, '\n' ∉ digits := fun digits hmem hnewline =>
    absurd (mem_lineDigits hmem hnewline) (by decide)
  rw [Text.pieces, toList_lineNumbering, Text.cut_intercalate hne hdigits, lineDigits, List.map_map]
  simp [Function.comp_def]

theorem toInt?_lineNumbering (o : Options) {lines : Nat} (h : 1 ≤ lines) :
    (Text.pieces '\n' (o.lineNumbering lines)).map String.toInt? =
      (List.range lines).map fun i : Nat => some (o.startLine + i) := by
  rw [o.pieces_lineNumbering h, List.map_map, Gutter.range_eq_map, List.map_map]
  refine List.map_congr_left fun i _ => ?_
  exact Int.toInt?_repr _

end Options

namespace Formatter

theorem plainText_gutterCell {f : Formatter} {l : Layout} {p : Progress} {tokens : List Token}
    (h : (f.buffered l p tokens).failure = none) :
    plainText (String.join (l.gutterCell (f.buffered l p tokens).chunks)) =
      f.options.lineNumbering (lineCount tokens) := by
  rw [plainText_of_read (read_gutterCell_buffered h), Layout.gutterEvents, characters_element,
    characters_element, characters_text, String.ofList_toList]

/-- The code ends with a line break, and the gutter numbers as many lines as the code has line
breaks. -/
theorem lineNumbers_of_buffered {o : Options} {f : Formatter} (hf : ofOptions o = .ok f)
    (hnames : o.theme.isSome ∨ o.shortNames = .standard) {l : Layout} {p : Progress}
    {tokens : List Token} (h : (f.buffered l p tokens).failure = none) :
    ∃ n, 1 ≤ n ∧
      (Text.pieces '\n' (plainText (String.join
          (l.gutterCell (f.buffered l p tokens).chunks)))).map String.toInt? =
        (List.range n).map (fun i : Nat => some (o.startLine + i)) ∧
      (plainText (String.join (l.codeCell (f.buffered l p tokens).chunks))).toList.count '\n' = n ∧
      (plainText (String.join (l.codeCell (f.buffered l p tokens).chunks))).toList.getLast? =
        some '\n' := by
  have hcode := plainText_codeCell hf hnames h
  obtain ⟨rfl, -⟩ := of_ofOptions hf
  refine ⟨lineCount tokens, lineCount_pos tokens, ?_, ?_, ?_⟩
  · rw [plainText_gutterCell h, f.options.toInt?_lineNumbering (lineCount_pos tokens)]
  · rw [hcode, count_closedText]
  · rw [hcode, getLast?_closedText]

theorem lineNumbers_of_buffered_standard :
    (standard.buffered .div {} (blankTokens "a\n\nb")).failure = none ∧ ∃ n, 1 ≤ n ∧
      (Text.pieces '\n' (plainText (String.join
          (Layout.div.gutterCell (standard.buffered .div {} (blankTokens "a\n\nb")).chunks)))).map
        String.toInt? = (List.range n).map (fun i : Nat => some (1 + (i : Int))) ∧
      (plainText (String.join (Layout.div.codeCell
        (standard.buffered .div {} (blankTokens "a\n\nb")).chunks))).toList.count '\n' = n ∧
      (plainText (String.join (Layout.div.codeCell
        (standard.buffered .div {} (blankTokens "a\n\nb")).chunks))).toList.getLast? =
          some '\n' := by
  have hsuccess := failure_buffered_standard .div {} "a\n\nb" (by decide +kernel)
  exact ⟨hsuccess, lineNumbers_of_buffered ofOptions_default (.inr rfl) hsuccess⟩

end Formatter

end CodeMarkup
