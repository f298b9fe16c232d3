import CodeMarkup.Proofs.Formatter.Agreement
import CodeMarkup.Proofs.Run.Encoded

/-!
Markup written in an encoding. Written chunk by chunk it has the bytes of the whole markup, with one
mark in front. A chunk that cannot be encoded and a token without markup may both end it early: flat
markup ends at the one that comes first, and a numbered layout, which renders all tokens before it
writes, at the token.
-/

namespace CodeMarkup

open Text (Encoding Unencodable)

/-- An encoding goes by a name, which has no zero character in it. -/
structure Text.Encoding.GoesUnder (e : Encoding) (name : String) : Prop where
  found : Encoding.named? name = some e
  zero_notMem : '\x00' ∉ name.toList

theorem Text.Encoding.GoesUnder.ne_empty {e : Encoding} {name : String}
    (h : e.GoesUnder name) : name ≠ "" := by
  rintro rfl
  have hnone : Encoding.named? "" = none := rfl
  rw [h.found] at hnone
  cases hnone

namespace Formatter

variable {f : Formatter} {e : Encoding} {p : Progress} {tokens : List Token}

theorem write_of_goesUnder {name : String} (h : e.GoesUnder name) (f : Formatter) (p : Progress)
    (tokens : List Token) : f.write name p tokens = .bytes ((f.stream p tokens).encoded e) := by
  unfold write
  rw [if_neg h.ne_empty, if_neg h.zero_notMem, h.found]

/-! ### Flat markup -/

theorem encodable_flatClosing {chunk : String} (h : chunk ∈ f.flatClosing) : e.Encodable chunk := by
  unfold flatClosing at h
  split at h
  · obtain rfl := List.mem_singleton.mp h
    exact Encoding.encodable_of_ascii rfl
  · cases h

/-- The place of a chunk of flat markup tells how many tokens have been taken for it. The opening
chunk takes none. -/
theorem pulled_flat {i : Nat} {m : Emission} (h : (f.flat p tokens).emissions[i]? = some m)
    (hchunk : m.chunk ∉ f.flatClosing) :
    m.progress.pulled = p.pulled + (i + 1 - f.flatOpening.length) := by
  unfold flat at h
  unfold flatClosing at hchunk
  unfold flatOpening
  cases hwrap : f.options.wrap with
  | false =>
    rw [hwrap] at h
    exact Run.pulled_ofTokens h
  | true =>
    simp only [hwrap, ↓reduceIte, List.mem_singleton] at h hchunk
    have hfront := Run.getElem?_close h hchunk
    cases i with
    | zero =>
      obtain rfl := Option.some.inj hfront
      rfl
    | succ i =>
      have hpulled : m.progress.pulled = p.pulled + (i + 1) := Run.pulled_ofTokens hfront
      rw [hpulled, if_pos rfl, List.length_singleton, Nat.add_sub_cancel]

/-! ### Tokens without markup -/

section Stops

variable {before : List Token} {chunks : List String} {t : Taxonomy} {bad : Token}
  {failure : SpanFailure}

theorem flat_of_stopsAt
    (h : f.options.spanRules.StopsAt p.taxonomy tokens before chunks t bad failure) :
    (f.flat p tokens).failure = some (.span failure) ∧
      (f.flat p tokens).chunks = f.flatOpening ++ chunks ∧
      (f.flat p tokens).last.pulled = p.pulled + (before.length + 1) := by
  obtain ⟨hfailure, hchunks, hlast⟩ := Run.ofTokens_of_stopsAt h
  rw [← failure_flat] at hfailure
  refine ⟨hfailure, ?_, ?_⟩
  · rw [chunks_flat_of_error hfailure, hchunks]
  · rw [last_flat, hlast]

theorem buffered_of_stopsAt (l : Layout)
    (h : f.options.spanRules.StopsAt p.taxonomy tokens before chunks t bad failure) :
    f.buffered l p tokens = .fail (.span failure) (f.flat p tokens).last :=
  buffered_of_flat_of_error (flat_of_stopsAt h).1

/-- Flat markup is written up to the first token without markup or up to the first chunk that cannot
be encoded, and no token behind that one is taken. -/
theorem encoded_flat_of_stopsAt
    (h : f.options.spanRules.StopsAt p.taxonomy tokens before chunks t bad failure) :
    (f.flat p tokens).chunks = f.flatOpening ++ chunks ∧
      ((∀ chunk ∈ f.flatOpening ++ chunks, e.Encodable chunk) →
        ((f.flat p tokens).encoded e).failure = some (.run (.span failure)) ∧
        ((f.flat p tokens).encoded e).written = e.markedBytes e.mark (f.flatOpening ++ chunks) ∧
        ((f.flat p tokens).encoded e).last.pulled = p.pulled + (before.length + 1)) ∧
      ∀ good late u, e.StopsAt (f.flatOpening ++ chunks) good late u →
        ((f.flat p tokens).encoded e).failure = some (.unencodable u) ∧
        ((f.flat p tokens).encoded e).last.pulled =
          p.pulled + (good.length + 1 - f.flatOpening.length) := by
  obtain ⟨hfailure, hchunks, hpulled⟩ := flat_of_stopsAt h
  refine ⟨hchunks, ?_, ?_⟩
  · intro hencodable
    rw [← hchunks] at hencodable
    rw [Run.encoded_of_encodable hencodable, hfailure, hchunks]
    exact ⟨rfl, rfl, hpulled⟩
  · intro good late u hstops
    rw [← hchunks] at hstops
    obtain ⟨-, hunencodable, m, hm, hlate, hlast⟩ := Run.encoded_of_stopsAt hstops
    have hclosing : m.chunk ∉ f.flatClosing := by
      intro hmem
      have hok := Encoding.encode_of_encodable (encodable_flatClosing (e := e) hmem)
      rw [hlate, hstops.fails] at hok
      cases hok
    exact ⟨hunencodable, by rw [hlast, pulled_flat hm hclosing]⟩

end Stops

/-! ### Whole markup -/

/-- Markup that is made whole and can be encoded has the bytes of one text with one mark. -/
theorem encoded_of_text {r : Run} {markup : String} (htext : r.text = .ok markup)
    (hchunks : r.chunks ≠ []) (hencodable : ∀ chunk ∈ r.chunks, e.Encodable chunk) :
    (r.encoded e).failure = none ∧ e.encodeMarked markup = .ok (r.encoded e).written := by
  obtain ⟨hfailure, rfl⟩ := Run.text_eq_ok_iff.mp htext
  rw [Run.encoded_of_encodable hencodable, hfailure]
  refine ⟨rfl, ?_⟩
  rw [Encoding.encodeMarked_of_encodable (Encoding.encodable_join hencodable)]
  simp only [Encoding.markedBytes, if_neg hchunks]

theorem goesUnder_utf16 : Encoding.utf16.GoesUnder "utf-16" :=
  ⟨rfl, by decide⟩

theorem goesUnder_ascii : Encoding.ascii.GoesUnder "ASCII" :=
  ⟨rfl, by decide⟩

/-- Written in an encoding, markup has the bytes of the whole with one mark in front, or none at all
if there is no chunk. A chunk that cannot be encoded ends it after those in front of it; of such a
chunk and a token without markup the first one counts in flat markup, and always the token in a
numbered layout. -/
theorem write_encoded {name : String} (hname : e.GoesUnder name) (f : Formatter) (p : Progress)
    (tokens : List Token) :
    ∃ w, f.write name p tokens = .bytes w ∧
      e.mark = (if e = .utf8Signed ∨ e = .utf16 ∨ e = .utf32 then e.charBytes '\ufeff' else []) ∧
      (∀ markup, (f.stream p tokens).text = .ok markup → (f.stream p tokens).chunks ≠ [] →
        (∀ chunk ∈ (f.stream p tokens).chunks, e.Encodable chunk) →
        w.failure = none ∧ e.encodeMarked markup = .ok w.written) ∧
      ((f.stream p tokens).failure = none → (f.stream p tokens).chunks = [] →
        w.failure = none ∧ w.written = []) ∧
      (∀ good late u, e.StopsAt (f.stream p tokens).chunks good late u →
        (e = .ascii ∨ e = .latin1) ∧ w.failure = some (.unencodable u) ∧
          w.written = good.flatMap e.bytes) ∧
      ∀ before chunks t bad failure,
        f.options.spanRules.StopsAt p.taxonomy tokens before chunks t bad failure →
        (f.options.lineNumbers = false →
          (f.stream p tokens).chunks = f.flatOpening ++ chunks ∧
          ((∀ chunk ∈ f.flatOpening ++ chunks, e.Encodable chunk) →
            w.failure = some (.run (.span failure)) ∧
            w.written = e.markedBytes e.mark (f.flatOpening ++ chunks) ∧
            w.last.pulled = p.pulled + (before.length + 1)) ∧
          ∀ good late u, e.StopsAt (f.flatOpening ++ chunks) good late u →
            w.failure = some (.unencodable u) ∧
            w.last.pulled = p.pulled + (good.length + 1 - f.flatOpening.length)) ∧
        (f.options.lineNumbers = true →
          w.failure = some (.run (.span failure)) ∧ w.written = [] ∧
            w.last.pulled = p.pulled + (before.length + 1)) := by
  refine ⟨_, write_of_goesUnder hname f p tokens, e.mark_eq, fun _ => encoded_of_text, ?_, ?_, ?_⟩
  · intro hfailure hchunks
    have hencodable : ∀ chunk ∈ (f.stream p tokens).chunks, e.Encodable chunk := by simp [hchunks]
    rw [Run.encoded_of_encodable hencodable, hfailure, hchunks]
    exact ⟨rfl, rfl⟩
  · intro good late u hstops
    have hpartial := Encoding.partial_of_error hstops.fails
    obtain ⟨hwritten, hfailure, -⟩ := Run.encoded_of_stopsAt hstops
    exact ⟨hpartial, hfailure, by rw [hwritten, Encoding.markedBytes_of_partial hpartial]⟩
  · intro before chunks t bad failure hstops
    constructor
    · intro hnumbers
      have hstream : f.stream p tokens = f.flat p tokens := by
        rw [stream, if_neg (by simp [hnumbers])]
      rw [hstream]
      exact encoded_flat_of_stopsAt hstops
    · intro hnumbers
      have hstream : f.stream p tokens = .fail (.span failure) (f.flat p tokens).last := by
        rw [stream, if_pos hnumbers, buffered_of_stopsAt _ hstops]
      rw [hstream]
      exact ⟨rfl, rfl, (flat_of_stopsAt hstops).2.2⟩

theorem write_encoded_standard :
    (∃ w, standard.write "utf-16" {} [] = .bytes w ∧ w.failure = none ∧
      w.written = Encoding.utf16.mark ++
        Encoding.utf16.bytes (String.join (standard.flatOpening ++ standard.flatClosing))) ∧
    ∃ w, standard.write "ASCII" {} (blankTokens "é" ++ [⟨.value .null, "x"⟩]) = .bytes w ∧
      (∃ u, w.failure = some (.unencodable u)) ∧ w.last.pulled = 1 := by
  constructor
  · obtain ⟨w, hw, -, hwhole, -⟩ := write_encoded goesUnder_utf16 standard {} []
    have htext : (standard.stream {} []).text =
        .ok (String.join (standard.flatOpening ++ standard.flatClosing)) := rfl
    have hencodable : ∀ chunk ∈ (standard.stream {} []).chunks, Encoding.utf16.Encodable chunk :=
      fun chunk _ => Encoding.encodable_of_total (by decide) (by decide) chunk
    have hwritten := hwhole _ htext (List.cons_ne_nil _ _) hencodable
    rw [Encoding.encodeMarked_of_encodable
      (Encoding.encodable_of_total (by decide) (by decide) _)] at hwritten
    exact ⟨w, hw, hwritten.1, (Except.ok.inj hwritten.2).symm⟩
  · obtain ⟨w, hw, -, -, -, -, hstops⟩ := write_encoded goesUnder_ascii standard {}
      (blankTokens "é" ++ [⟨.value .null, "x"⟩])
    have hchunk (t : Taxonomy) : (Options.spanRules {}).render t ⟨.kind .whitespace, "é"⟩ =
        .ok (SpanRules.element "class" "w" (escapeText "é")) := renderKind_standard "é"
    have hlate : ∃ u, Encoding.ascii.encode
        (SpanRules.element "class" "w" (escapeText "é")).toList = .error u :=
      ⟨_, if_neg (by decide)⟩
    obtain ⟨u, hu⟩ := hlate
    have hrace := ((hstops _ _ _ _ _ ⟨⟨[], rfl⟩, .cons (hchunk _) .nil, rfl⟩).1 rfl).2.2
    have hopening : ∀ chunk ∈ standard.flatOpening, Encoding.ascii.Encodable chunk := by
      intro chunk hchunk
      obtain rfl := List.mem_singleton.mp hchunk
      exact Encoding.encodable_of_ascii rfl
    obtain ⟨hfailure, hpulled⟩ := hrace standard.flatOpening _ u ⟨⟨[], rfl⟩, hopening, hu⟩
    exact ⟨w, hw, ⟨u, hfailure⟩, hpulled⟩

end Formatter

end CodeMarkup
