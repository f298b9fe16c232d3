import CodeMarkup.Output
import CodeMarkup.Proofs.Formatter.Page

/-!
Flat markup and numbered layouts side by side. Both render the same tokens in the same order, so
they fail at the same token and for the same reason. A numbered layout holds the chunks of flat
markup in its code cell, but it has line numbers to write as well, and one with too many digits
fails it where flat markup ends.
-/

namespace CodeMarkup

/-- A failure is about a token: it has its text, and its kind as given or as it resolved. -/
def SpanFailure.About (t : Taxonomy) (token : Token) (failure : SpanFailure) : Prop :=
  failure.unknownKind.text = some token.text ∧
    (failure.unknownKind.ref = token.kind ∨
      ∃ k, token.kind.resolve? t = some k ∧ failure.unknownKind.ref = .kind k)

namespace SpanRules

theorem unknownKind_of_renderKind {r : SpanRules} {k : Kind} {text : String}
    {failure : SpanFailure} (h : r.renderKind k text = .error failure) :
    failure.unknownKind = ⟨.kind k, some text⟩ := by
  unfold renderKind at h
  split at h
  · cases h; rfl
  · split at h
    · split at h <;> cases h
    · split at h
      · cases h
      · split at h
        · cases h; rfl
        · cases h

theorem about_of_render {r : SpanRules} {t : Taxonomy} {token : Token} {failure : SpanFailure}
    (h : r.render t token = .error failure) : failure.About t token := by
  unfold render at h
  split at h
  · cases h
    exact ⟨rfl, .inl rfl⟩
  · next k hk =>
    have hunknown := unknownKind_of_renderKind h
    exact ⟨by rw [hunknown], .inr ⟨k, hk, by rw [hunknown]⟩⟩

end SpanRules

namespace Formatter

variable {f : Formatter} {l : Layout} {p : Progress} {tokens : List Token}

theorem failure_buffered_iff_flat (f : Formatter) (l : Layout) (p : Progress)
    (tokens : List Token) :
    (f.buffered l p tokens).failure = none ↔
      (f.flat p tokens).failure = none ∧ f.options.NumbersFit (lineCount tokens) := by
  rw [failure_buffered_eq_none_iff, failure_flat]

theorem flat_of_ok (h : (f.flat p tokens).failure = none) :
    (f.flat p tokens).chunks =
        f.flatOpening ++ f.tokenChunks (f.flat p tokens).chunks ++ f.flatClosing ∧
      (f.tokenChunks (f.flat p tokens).chunks).length = tokens.length ∧
      (f.flat p tokens).last.pulled = p.pulled + tokens.length := by
  have hrun := (failure_flat f p tokens).symm.trans h
  obtain ⟨t', hrenders⟩ := Run.renders_of_ofTokens hrun
  refine ⟨?_, ?_, ?_⟩
  · rw [tokenChunks_flat h, chunks_flat_of_ok h]
  · rw [tokenChunks_flat h, hrenders.length_eq]
  · rw [last_flat, (Run.ofTokens_of_renders hrenders).2.2]
    rfl

theorem code_buffered (h : (f.buffered l p tokens).failure = none) :
    (l.codeCell (f.buffered l p tokens).chunks)[2]? =
      some (f.closedCode tokens (f.tokenChunks (f.flat p tokens).chunks)) := by
  have hflat := ((f.failure_buffered_iff_flat l p tokens).mp h).1
  rw [chunks_buffered h, codeCell_numbered, tokenChunks_flat hflat]
  rfl

theorem buffered_of_flat_of_not_fits (h : (f.flat p tokens).failure = none)
    (hfits : ¬ f.options.NumbersFit (lineCount tokens)) :
    ∃ e, (f.buffered l p tokens).failure = some (.lineNumber e) ∧
      (f.buffered l p tokens).emissions = [] ∧
      (f.buffered l p tokens).last.pulled = p.pulled + tokens.length := by
  have hpulled := (flat_of_ok h).2.2
  rw [last_flat] at hpulled
  rw [failure_flat] at h
  obtain ⟨e, he⟩ := buffered_of_not_fits (l := l) h hfits
  rw [he]
  exact ⟨e, rfl, rfl, hpulled⟩

theorem buffered_of_flat_of_error {e : RunFailure} (h : (f.flat p tokens).failure = some e) :
    f.buffered l p tokens = .fail e (f.flat p tokens).last := by
  rw [last_flat]
  rw [failure_flat] at h
  exact buffered_of_error h

theorem flat_of_error {e : RunFailure} (h : (f.flat p tokens).failure = some e) :
    ∃ before chunks t bad failure,
      f.options.spanRules.StopsAt p.taxonomy tokens before chunks t bad failure ∧
      e = .span failure ∧ (f.flat p tokens).chunks = f.flatOpening ++ chunks ∧
      (f.flat p tokens).last.pulled = p.pulled + (before.length + 1) := by
  have hrun := (failure_flat f p tokens).symm.trans h
  rcases f.options.spanRules.renders_or_stopsAt p.taxonomy tokens with
    ⟨chunks, t, hrenders⟩ | ⟨before, chunks, t, bad, failure, hstops⟩
  · rw [(Run.ofTokens_of_renders hrenders).1] at hrun
    cases hrun
  · obtain ⟨hfailure, hchunks, hlast⟩ := Run.ofTokens_of_stopsAt hstops
    rw [hfailure] at hrun
    refine ⟨before, chunks, t, bad, failure, hstops, (Option.some.inj hrun).symm, ?_, ?_⟩
    · rw [chunks_flat_of_error h, hchunks]
    · rw [last_flat, hlast]

theorem write_of_fail {e : RunFailure} {q : Progress} (h : f.stream p tokens = .fail e q) :
    (f.stream p tokens).emissions = [] ∧ (f.stream p tokens).text = .error e ∧
      f.write "" p tokens = .text ⟨[], some (.run e), q⟩ := by
  refine ⟨?_, ?_, ?_⟩
  · rw [h]; rfl
  · rw [h]; rfl
  · rw [write, if_pos rfl, h]; rfl

/-- A numbered layout is made exactly if flat markup comes to its end and the line numbers can be
written. Its code is what flat markup has for the tokens; if one of these has no markup, both fail
with it, flat markup after the chunks of those before it and a numbered layout without a chunk. -/
theorem buffered_agrees_with_flat (f : Formatter) (l : Layout) (p : Progress)
    (tokens : List Token) :
    ((f.buffered l p tokens).failure = none ↔
      (f.flat p tokens).failure = none ∧ f.options.NumbersFit (lineCount tokens)) ∧
    ((f.flat p tokens).failure = none →
      (f.flat p tokens).chunks =
          f.flatOpening ++ f.tokenChunks (f.flat p tokens).chunks ++ f.flatClosing ∧
        (f.tokenChunks (f.flat p tokens).chunks).length = tokens.length ∧
        (f.flat p tokens).last.pulled = p.pulled + tokens.length) ∧
    ((f.buffered l p tokens).failure = none →
      (l.codeCell (f.buffered l p tokens).chunks)[2]? =
        some (String.join (f.tokenChunks (f.flat p tokens).chunks) ++
          if endsInNewline tokens then "" else f.trailingNewline)) ∧
    ((f.flat p tokens).failure = none → ¬ f.options.NumbersFit (lineCount tokens) →
      ∃ e, (f.buffered l p tokens).failure = some (.lineNumber e) ∧
        (f.buffered l p tokens).emissions = [] ∧
        (f.buffered l p tokens).last.pulled = p.pulled + tokens.length) ∧
    ∀ e, (f.flat p tokens).failure = some e →
      ∃ before chunks t bad failure,
        f.options.spanRules.StopsAt p.taxonomy tokens before chunks t bad failure ∧
        e = .span failure ∧ failure.About (bad.kind.register t) bad ∧
        (f.flat p tokens).chunks = f.flatOpening ++ chunks ∧
        (f.flat p tokens).last.pulled = p.pulled + (before.length + 1) ∧
        f.buffered l p tokens = .fail e (f.flat p tokens).last ∧
        (f.options.lineNumbers = true →
          (f.stream p tokens).emissions = [] ∧ (f.stream p tokens).text = .error e ∧
            f.write "" p tokens = .text ⟨[], some (.run e), (f.flat p tokens).last⟩) := by
  refine ⟨f.failure_buffered_iff_flat l p tokens, flat_of_ok, code_buffered,
    buffered_of_flat_of_not_fits, fun e he => ?_⟩
  obtain ⟨before, chunks, t, bad, failure, hstops, hfailure, hchunks, hpulled⟩ := flat_of_error he
  refine ⟨before, chunks, t, bad, failure, hstops, hfailure,
    SpanRules.about_of_render hstops.fails, hchunks, hpulled, buffered_of_flat_of_error he,
    fun hnumbers => ?_⟩
  have hstream : f.stream p tokens = .fail e (f.flat p tokens).last := by
    rw [stream, if_pos hnumbers, buffered_of_flat_of_error he]
  exact write_of_fail hstream

/-- The formatter with the default options but for numbers that start at the greatest one that is
written. -/
def numberedLast : Formatter :=
  ⟨{ lineNumbers := true, startLine := (Gutter.numberBound : Int) - 1 }, standard.trailingNewline⟩

theorem buffered_agrees_with_flat_numberedLast :
    (numberedLast.flat {} (blankTokens "x\ny")).failure = none ∧
      ∃ e, (numberedLast.buffered .table {} (blankTokens "x\ny")).failure = some (.lineNumber e) ∧
        (numberedLast.buffered .table {} (blankTokens "x\ny")).emissions = [] ∧
        (numberedLast.buffered .table {} (blankTokens "x\ny")).last.pulled = 0 + 1 := by
  have hflat : (numberedLast.flat {} (blankTokens "x\ny")).failure = none := by
    rw [failure_flat]
    exact failure_standard {} "x\ny"
  have hlines : lineCount (blankTokens "x\ny") = 2 := by decide +kernel
  have hlong : (Gutter.numberBound : Int) ∈
      Gutter.range numberedLast.options.startLine (lineCount (blankTokens "x\ny")) := by
    rw [hlines, Gutter.mem_range, numberedLast]
    constructor <;> simp only <;> omega
  have hfits : ¬ numberedLast.options.NumbersFit (lineCount (blankTokens "x\ny")) := by
    intro hfit
    have hlt := hfit _ hlong
    rw [Int.natAbs_natCast] at hlt
    exact Nat.lt_irrefl _ hlt
  exact ⟨hflat, (buffered_agrees_with_flat numberedLast .table {} _).2.2.2.1 hflat hfits⟩

end Formatter

end CodeMarkup
