import CodeMarkup.Output
import CodeMarkup.Proofs.Run.Stream
import CodeMarkup.Proofs.Text.Encoding

/-!
Runs written in an encoding. The chunks of a run are taken one after the other, and its own failure
counts only once they all are written: a chunk that cannot be encoded comes first. How many tokens
have been taken then is told by the place of that chunk among the others.
-/

namespace CodeMarkup

open Text (Encoding Unencodable)

namespace Run

variable {e : Encoding} {r : Run}

theorem encodeFrom_of_encodable {ms : List Emission} (h : ∀ m ∈ ms, e.Encodable m.chunk)
    (mark : List UInt8) :
    r.encodeFrom e mark ms =
      ⟨e.markedBytes mark (ms.map Emission.chunk), r.failure.map .run, r.last⟩ := by
  induction ms generalizing mark with
  | nil => rfl
  | cons m ms ih =>
    have hm := Encoding.encode_of_encodable (h m List.mem_cons_self)
    have hms := ih (fun m' hm' => h m' (List.mem_cons_of_mem _ hm')) []
    simp only [encodeFrom, hm, hms, List.map_cons, Encoding.markedBytes_cons]

theorem encodeFrom_of_unencodable {good : List Emission} {late : Emission} {u : Unencodable}
    (h : ∀ m ∈ good, e.Encodable m.chunk) (hlate : e.encode late.chunk.toList = .error u)
    (mark : List UInt8) (more : List Emission) :
    r.encodeFrom e mark (good ++ late :: more) =
      ⟨e.markedBytes mark (good.map Emission.chunk), some (.unencodable u), late.progress⟩ := by
  induction good generalizing mark with
  | nil => simp only [List.nil_append, encodeFrom, hlate, List.map_nil, Encoding.markedBytes_nil]
  | cons m good ih =>
    have hm := Encoding.encode_of_encodable (h m List.mem_cons_self)
    have hgood := ih (fun m' hm' => h m' (List.mem_cons_of_mem _ hm')) []
    simp only [List.cons_append, encodeFrom, hm, hgood, List.map_cons, Encoding.markedBytes_cons]

theorem encoded_of_encodable (h : ∀ chunk ∈ r.chunks, e.Encodable chunk) :
    r.encoded e = ⟨e.markedBytes e.mark r.chunks, r.failure.map .run, r.last⟩ :=
  encodeFrom_of_encodable (fun m hm => h m.chunk (List.mem_map_of_mem hm)) e.mark

theorem encoded_of_stopsAt {good : List String} {late : String} {u : Unencodable}
    (h : e.StopsAt r.chunks good late u) :
    (r.encoded e).written = e.markedBytes e.mark good ∧
      (r.encoded e).failure = some (.unencodable u) ∧
      ∃ m, r.emissions[good.length]? = some m ∧ m.chunk = late ∧
        (r.encoded e).last = m.progress := by
  obtain ⟨⟨more, hsplit⟩, hgood, hlate⟩ := h
  obtain ⟨before, rest, hemissions, rfl, hrest⟩ := List.map_eq_append_iff.mp hsplit
  obtain ⟨m, after, rfl, rfl, -⟩ := List.map_eq_cons_iff.mp hrest
  have hbefore : ∀ m' ∈ before, e.Encodable m'.chunk := by
    intro m' hm'
    exact hgood m'.chunk (List.mem_map_of_mem hm')
  have hencoded := encodeFrom_of_unencodable (r := r) hbefore hlate e.mark after
  rw [encoded, hemissions, hencoded]
  exact ⟨rfl, rfl, m, by simp, rfl, rfl⟩

/-! ### Tokens taken -/

/-- The chunk of a token is made when that token and those before it have been taken. -/
theorem pulled_ofTokens {rules : SpanRules} {p : Progress} {tokens : List Token} {i : Nat}
    {m : Emission} (h : (ofTokens rules p tokens).emissions[i]? = some m) :
    m.progress.pulled = p.pulled + (i + 1) := by
  induction tokens generalizing p i with
  | nil => cases h
  | cons token tokens ih =>
    cases hrender : rules.render (token.kind.register p.taxonomy) token with
    | error failure =>
      rw [ofTokens_cons_of_error hrender] at h
      cases h
    | ok chunk =>
      rw [ofTokens_cons_of_ok hrender] at h
      cases i with
      | zero =>
        obtain rfl := Option.some.inj h
        rfl
      | succ i =>
        have hrest := ih h
        simp only [Progress.advance] at hrest
        omega

/-- A chunk that closes a run comes after all others. -/
theorem getElem?_close {chunk : String} {i : Nat} {m : Emission}
    (h : (r.close chunk).emissions[i]? = some m) (hchunk : m.chunk ≠ chunk) :
    r.emissions[i]? = some m := by
  unfold close at h
  split at h
  · rw [List.getElem?_append] at h
    split at h
    · exact h
    · obtain rfl := List.mem_singleton.mp (List.mem_of_getElem? h)
      exact absurd rfl hchunk
  · exact h

end Run

end CodeMarkup
