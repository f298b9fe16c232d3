import CodeMarkup.Proofs.Formatter.Chunks
import CodeMarkup.Proofs.Kind.Growth
import CodeMarkup.Proofs.Run.Encoded

/-!
Runs in taxonomies that grow. A run only adds kinds. With more kinds at its start a run that came to
its end is the same run, and one that failed gets at least as far: what it made before is a prefix
of what it makes then.
-/

namespace CodeMarkup

open Text (Encoding)

theorem SpanRules.render_mono {r : SpanRules} {t t' : Taxonomy} (h : t ⊆ t') {token : Token}
    {chunk : String} (hrender : r.render t token = .ok chunk) : r.render t' token = .ok chunk := by
  unfold render at hrender ⊢
  cases hk : token.kind.resolve? t with
  | none => simp [hk] at hrender
  | some k =>
    rw [hk] at hrender
    rw [KindRef.resolve?_mono h hk]
    exact hrender

theorem SpanRules.Renders.mono {r : SpanRules} {t t' u : Taxonomy} (h : t ⊆ t')
    {tokens : List Token} {chunks : List String} (hrenders : r.Renders t tokens chunks u) :
    ∃ u', r.Renders t' tokens chunks u' := by
  induction hrenders generalizing t' with
  | nil => exact ⟨t', .nil⟩
  | @cons t u token tokens chunk chunks hchunk _ ih =>
    have hregister := KindRef.register_mono h token.kind
    obtain ⟨u', hrest⟩ := ih hregister
    exact ⟨u', .cons (SpanRules.render_mono hregister hchunk) hrest⟩

namespace Run

/-! ### Kinds that a run adds -/

/-- The kinds of `t` are there at every moment of a run. -/
structure Keeps (t : Taxonomy) (r : Run) : Prop where
  emissions : ∀ m ∈ r.emissions, t ⊆ m.progress.taxonomy
  last : t ⊆ r.last.taxonomy

variable {t : Taxonomy} {r : Run} {rules : SpanRules} {p : Progress} {tokens : List Token}

theorem Keeps.cons {m : Emission} (hm : t ⊆ m.progress.taxonomy) (h : Keeps t r) :
    Keeps t (r.cons m) :=
  ⟨List.forall_mem_cons.mpr ⟨hm, h.emissions⟩, h.last⟩

theorem Keeps.close (h : Keeps t r) (chunk : String) : Keeps t (r.close chunk) := by
  unfold Run.close
  split
  · refine ⟨fun m hm => ?_, h.last⟩
    rcases List.mem_append.mp hm with hm | hm
    · exact h.emissions m hm
    · obtain rfl := List.mem_singleton.mp hm
      exact h.last
  · exact h

theorem Keeps.fail (h : t ⊆ p.taxonomy) (e : RunFailure) : Keeps t (.fail e p) :=
  ⟨by simp [Run.fail], h⟩

theorem Keeps.atOnce (h : t ⊆ p.taxonomy) (chunks : List String) : Keeps t (.atOnce chunks p) := by
  refine ⟨fun m hm => ?_, h⟩
  obtain ⟨chunk, -, rfl⟩ := List.mem_map.mp hm
  exact h

theorem keeps_ofTokens (rules : SpanRules) (h : t ⊆ p.taxonomy) (tokens : List Token) :
    Keeps t (ofTokens rules p tokens) := by
  induction tokens generalizing p with
  | nil => exact ⟨by simp [ofTokens], h⟩
  | cons token tokens ih =>
    have hregister := Taxonomy.subset_trans h (KindRef.subset_register p.taxonomy token.kind)
    cases hrender : rules.render (token.kind.register p.taxonomy) token with
    | ok chunk =>
      rw [ofTokens_cons_of_ok hrender]
      exact (ih hregister).cons hregister
    | error failure =>
      rw [ofTokens_cons_of_error hrender]
      exact .fail hregister _

theorem Keeps.last_encodeFrom {e : Encoding} (h : Keeps t r) {ms : List Emission}
    (hms : ∀ m ∈ ms, t ⊆ m.progress.taxonomy) (mark : List UInt8) :
    t ⊆ (r.encodeFrom e mark ms).last.taxonomy := by
  induction ms generalizing mark with
  | nil => exact h.last
  | cons m ms ih =>
    rw [encodeFrom]
    split
    · exact hms m List.mem_cons_self
    · exact ih (fun m' hm' => hms m' (List.mem_cons_of_mem _ hm')) []

/-! ### Runs with more kinds at their start -/

/-- What came of a stream of tokens with more kinds at the start: all that there was before comes
first, and there is nothing else if the run came to its end before. -/
structure GrowsTo (r r' : Run) : Prop where
  chunks_prefix : r.chunks <+: r'.chunks
  completes : r.failure = none →
    r'.failure = none ∧ r'.chunks = r.chunks ∧ r'.last.pulled = r.last.pulled

theorem GrowsTo.of_completed {r' : Run} (hfailure : r'.failure = none)
    (hchunks : r'.chunks = r.chunks) (hpulled : r'.last.pulled = r.last.pulled) : GrowsTo r r' :=
  ⟨hchunks ▸ List.prefix_rfl, fun _ => ⟨hfailure, hchunks, hpulled⟩⟩

theorem GrowsTo.of_failed {r' : Run} {e : RunFailure} (hfailure : r.failure = some e)
    (hchunks : r.chunks <+: r'.chunks) : GrowsTo r r' := by
  refine ⟨hchunks, fun hnone => ?_⟩
  rw [hfailure] at hnone
  cases hnone

theorem chunks_ofTokens_append {before : List Token} {chunks : List String} {u : Taxonomy}
    (h : rules.Renders p.taxonomy before chunks u) (more : List Token) :
    chunks <+: (ofTokens rules p (before ++ more)).chunks := by
  generalize ht : p.taxonomy = t at h
  induction h generalizing p with
  | nil => exact List.nil_prefix
  | @cons t u token before chunk chunks hchunk _ ih =>
    subst ht
    have hrest := ih (p := p.advance (token.kind.register p.taxonomy) 1) rfl
    rw [List.cons_append, ofTokens_cons_of_ok hchunk, chunks_cons]
    exact List.cons_prefix_cons.mpr ⟨rfl, hrest⟩

theorem ofTokens_growsTo (rules : SpanRules) {p' : Progress} (h : p.taxonomy ⊆ p'.taxonomy)
    (hpulled : p'.pulled = p.pulled) (tokens : List Token) :
    GrowsTo (ofTokens rules p tokens) (ofTokens rules p' tokens) := by
  rcases rules.renders_or_stopsAt p.taxonomy tokens with
    ⟨chunks, u, hrenders⟩ | ⟨before, chunks, u, bad, failure, hstops⟩
  · obtain ⟨u', hrenders'⟩ := hrenders.mono h
    obtain ⟨-, hchunks, hlast⟩ := ofTokens_of_renders hrenders
    obtain ⟨hfailure', hchunks', hlast'⟩ := ofTokens_of_renders hrenders'
    refine .of_completed hfailure' (hchunks'.trans hchunks.symm) ?_
    rw [hlast, hlast']
    exact congrArg (· + tokens.length) hpulled
  · obtain ⟨hfailure, hchunks, -⟩ := ofTokens_of_stopsAt hstops
    obtain ⟨⟨after, rfl⟩, hrenders, -⟩ := hstops
    obtain ⟨u', hrenders'⟩ := hrenders.mono h
    refine .of_failed hfailure ?_
    rw [hchunks]
    exact chunks_ofTokens_append hrenders' (bad :: after)

/-! ### Encoded runs -/

theorem written_encodeFrom_prefix {e : Encoding} {r' : Run} {ms ms' : List Emission}
    (h : ms.map Emission.chunk <+: ms'.map Emission.chunk) (mark : List UInt8) :
    (r.encodeFrom e mark ms).written <+: (r'.encodeFrom e mark ms').written := by
  induction ms generalizing ms' mark with
  | nil => exact List.nil_prefix
  | cons m ms ih =>
    cases ms' with
    | nil => simp at h
    | cons m' ms' =>
      obtain ⟨hchunk, hrest⟩ := List.cons_prefix_cons.mp h
      rw [encodeFrom, encodeFrom, ← hchunk]
      cases e.encode m.chunk.toList with
      | error u => exact List.prefix_rfl
      | ok bytes => exact (List.prefix_append_right_inj _).mpr (ih hrest [])

theorem of_encodeFrom {e : Encoding} {ms : List Emission} {mark : List UInt8}
    (h : (r.encodeFrom e mark ms).failure = none) :
    r.failure = none ∧ ∀ m ∈ ms, e.Encodable m.chunk := by
  induction ms generalizing mark with
  | nil => exact ⟨by simpa [encodeFrom] using h, by simp⟩
  | cons m ms ih =>
    rw [encodeFrom] at h
    cases hm : e.encode m.chunk.toList with
    | error u => simp [hm] at h
    | ok bytes =>
      rw [hm] at h
      obtain ⟨hfailure, hms⟩ := ih h
      exact ⟨hfailure, List.forall_mem_cons.mpr ⟨(Encoding.encode_eq_ok_iff.mp hm).1, hms⟩⟩

theorem GrowsTo.encoded {e : Encoding} {r' : Run} (h : GrowsTo r r')
    (hfailure : (r.encoded e).failure = none) :
    (r'.encoded e).failure = none ∧ (r'.encoded e).written = (r.encoded e).written ∧
      (r'.encoded e).last.pulled = (r.encoded e).last.pulled := by
  obtain ⟨hrun, hms⟩ := of_encodeFrom hfailure
  obtain ⟨hrun', hchunks, hpulled⟩ := h.completes hrun
  have hencodable : ∀ chunk ∈ r.chunks, e.Encodable chunk := by
    intro chunk hchunk
    obtain ⟨m, hm, rfl⟩ := List.mem_map.mp hchunk
    exact hms m hm
  have hencodable' : ∀ chunk ∈ r'.chunks, e.Encodable chunk := by
    rw [hchunks]
    exact hencodable
  rw [encoded_of_encodable hencodable, encoded_of_encodable hencodable', hchunks, hrun']
  exact ⟨rfl, rfl, hpulled⟩

end Run

namespace Formatter

variable {f : Formatter} {t : Taxonomy} {p p' : Progress}

theorem keeps_flat (h : t ⊆ p.taxonomy) (tokens : List Token) : (f.flat p tokens).Keeps t := by
  have hrun := Run.keeps_ofTokens f.options.spanRules h tokens
  dsimp only [flat]
  split
  · exact (hrun.cons h).close _
  · exact hrun

theorem keeps_buffered (h : t ⊆ p.taxonomy) (l : Layout) (tokens : List Token) :
    (f.buffered l p tokens).Keeps t := by
  have hrun := Run.keeps_ofTokens f.options.spanRules h tokens
  dsimp only [buffered]
  split
  · exact .fail hrun.last _
  · split
    · refine .fail ?_ _
      exact hrun.last
    · refine .atOnce ?_ _
      exact hrun.last

theorem keeps_stream (h : t ⊆ p.taxonomy) (tokens : List Token) :
    (f.stream p tokens).Keeps t := by
  unfold stream
  split
  · exact keeps_buffered h _ tokens
  · exact keeps_flat h tokens

theorem keeps_write (h : t ⊆ p.taxonomy) (encoding : String) (tokens : List Token) :
    t ⊆ (f.write encoding p tokens).last.taxonomy := by
  have hstream := keeps_stream (f := f) h tokens
  unfold write
  split
  · exact hstream.last
  · split
    · exact h
    · split
      · exact h
      · exact hstream.last_encodeFrom hstream.emissions _

theorem flat_growsTo (h : p.taxonomy ⊆ p'.taxonomy) (hpulled : p'.pulled = p.pulled)
    (tokens : List Token) : (f.flat p tokens).GrowsTo (f.flat p' tokens) := by
  have hrun := Run.ofTokens_growsTo f.options.spanRules h hpulled tokens
  cases hfailure : (f.flat p tokens).failure with
  | none =>
    obtain ⟨hok, hchunks, hlast⟩ := hrun.completes ((failure_flat f p tokens).symm.trans hfailure)
    have hfailure' : (f.flat p' tokens).failure = none := (failure_flat f p' tokens).trans hok
    refine .of_completed hfailure' ?_ ?_
    · rw [chunks_flat_of_ok hfailure', chunks_flat_of_ok hfailure, hchunks]
    · rw [last_flat, last_flat, hlast]
  | some e =>
    have hprefix : f.flatOpening ++ (Run.ofTokens f.options.spanRules p tokens).chunks <+:
        f.flatOpening ++ (Run.ofTokens f.options.spanRules p' tokens).chunks :=
      (List.prefix_append_right_inj _).mpr hrun.chunks_prefix
    refine .of_failed hfailure ?_
    rw [chunks_flat_of_error hfailure]
    cases hfailure' : (f.flat p' tokens).failure with
    | none =>
      rw [chunks_flat_of_ok hfailure']
      exact hprefix.trans (List.prefix_append _ _)
    | some e' =>
      rw [chunks_flat_of_error hfailure']
      exact hprefix

theorem buffered_growsTo (h : p.taxonomy ⊆ p'.taxonomy) (hpulled : p'.pulled = p.pulled)
    (l : Layout) (tokens : List Token) :
    (f.buffered l p tokens).GrowsTo (f.buffered l p' tokens) := by
  have hrun := Run.ofTokens_growsTo f.options.spanRules h hpulled tokens
  cases hok : (Run.ofTokens f.options.spanRules p tokens).failure with
  | some e =>
    rw [buffered_of_error hok]
    exact .of_failed rfl List.nil_prefix
  | none =>
    obtain ⟨hok', hchunks, hlast⟩ := hrun.completes hok
    by_cases hfits : f.options.NumbersFit (lineCount tokens)
    · rw [buffered_of_fits hok hfits, buffered_of_fits hok' hfits, hchunks]
      exact .of_completed rfl (by simp [Run.atOnce, Run.chunks]) hlast
    · obtain ⟨e, he⟩ := buffered_of_not_fits (l := l) hok hfits
      rw [he]
      exact .of_failed rfl List.nil_prefix

theorem stream_growsTo (h : p.taxonomy ⊆ p'.taxonomy) (hpulled : p'.pulled = p.pulled)
    (tokens : List Token) : (f.stream p tokens).GrowsTo (f.stream p' tokens) := by
  unfold stream
  split
  · exact buffered_growsTo h hpulled _ tokens
  · exact flat_growsTo h hpulled tokens

end Formatter

end CodeMarkup
