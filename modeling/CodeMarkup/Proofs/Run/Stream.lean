import CodeMarkup.Run

/-!
Streams of tokens, said without runs: a stream renders if every token has markup in the taxonomy
that the tokens up to it leave behind, and otherwise it stops at the first token that has none. A
run of the tokens makes the chunks in front of that token and takes no token after it.
-/

namespace CodeMarkup

namespace SpanRules

/-- Every token of a stream has markup. The last taxonomy is the one that the whole stream leaves
behind. -/
inductive Renders (r : SpanRules) : Taxonomy → List Token → List String → Taxonomy → Prop
  | nil {t : Taxonomy} : Renders r t [] [] t
  | cons {t t' : Taxonomy} {token : Token} {tokens : List Token} {chunk : String}
      {chunks : List String} :
      r.render (token.kind.register t) token = .ok chunk →
      Renders r (token.kind.register t) tokens chunks t' →
      Renders r t (token :: tokens) (chunk :: chunks) t'

/-- The first token of a stream without markup is `bad`: those `before` it are rendered as `chunks`
and leave the taxonomy `t'` behind. -/
structure StopsAt (r : SpanRules) (t : Taxonomy) (tokens before : List Token)
    (chunks : List String) (t' : Taxonomy) (bad : Token) (failure : SpanFailure) : Prop where
  split : ∃ after, tokens = before ++ bad :: after
  renders : r.Renders t before chunks t'
  fails : r.render (bad.kind.register t') bad = .error failure

theorem Renders.length_eq {r : SpanRules} {t t' : Taxonomy} {tokens : List Token}
    {chunks : List String} (h : r.Renders t tokens chunks t') : chunks.length = tokens.length := by
  induction h with
  | nil => rfl
  | cons _ _ ih => rw [List.length_cons, List.length_cons, ih]

theorem StopsAt.cons {r : SpanRules} {t t' : Taxonomy} {token bad : Token}
    {tokens before : List Token} {chunk : String} {chunks : List String} {failure : SpanFailure}
    (hchunk : r.render (token.kind.register t) token = .ok chunk)
    (h : r.StopsAt (token.kind.register t) tokens before chunks t' bad failure) :
    r.StopsAt t (token :: tokens) (token :: before) (chunk :: chunks) t' bad failure := by
  obtain ⟨⟨after, hsplit⟩, hrenders, hfails⟩ := h
  exact ⟨⟨after, by rw [hsplit, List.cons_append]⟩, .cons hchunk hrenders, hfails⟩

theorem renders_or_stopsAt (r : SpanRules) (t : Taxonomy) (tokens : List Token) :
    (∃ chunks t', r.Renders t tokens chunks t') ∨
      ∃ before chunks t' bad failure, r.StopsAt t tokens before chunks t' bad failure := by
  induction tokens generalizing t with
  | nil => exact .inl ⟨[], t, .nil⟩
  | cons token tokens ih =>
    cases hrender : r.render (token.kind.register t) token with
    | error failure => exact .inr ⟨[], [], t, token, failure, ⟨tokens, rfl⟩, .nil, hrender⟩
    | ok chunk =>
      rcases ih (token.kind.register t) with ⟨chunks, t', h⟩ | ⟨before, chunks, t', bad, failure, h⟩
      · exact .inl ⟨chunk :: chunks, t', .cons hrender h⟩
      · exact .inr ⟨token :: before, chunk :: chunks, t', bad, failure, h.cons hrender⟩

/-! ### One token -/

theorem renderNext_of_ok {r : SpanRules} {s : Session} {token : Token} {chunk : String}
    (h : r.render (token.kind.register s.taxonomy) token = .ok chunk) :
    r.renderNext s token = (.ok chunk, s.register token.kind) := by
  have h' : r.render (s.register token.kind).taxonomy token = .ok chunk := h
  simp only [renderNext, h']

theorem renderNext_of_error {r : SpanRules} {s : Session} {token : Token} {failure : SpanFailure}
    (h : r.render (token.kind.register s.taxonomy) token = .error failure) :
    r.renderNext s token =
      (.error failure, (s.register token.kind).note (.span failure)) := by
  have h' : r.render (s.register token.kind).taxonomy token = .error failure := h
  simp only [renderNext, h']

end SpanRules

/-! ### Runs of tokens -/

/-- The progress after `n` more tokens, which leave the taxonomy `t` behind. -/
def Progress.advance (p : Progress) (t : Taxonomy) (n : Nat) : Progress :=
  ⟨⟨t, p.log⟩, p.pulled + n⟩

theorem Progress.advance_advance (p : Progress) (t t' : Taxonomy) (m n : Nat) :
    (p.advance t m).advance t' n = p.advance t' (m + n) := by
  simp only [advance, Nat.add_assoc]

namespace Run

variable {r : SpanRules} {p : Progress} {t' : Taxonomy} {tokens before : List Token}
  {chunks : List String} {bad : Token} {failure : SpanFailure}

theorem ofTokens_cons_of_ok {token : Token} {chunk : String}
    (h : r.render (token.kind.register p.taxonomy) token = .ok chunk) (tokens : List Token) :
    ofTokens r p (token :: tokens) =
      (ofTokens r (p.advance (token.kind.register p.taxonomy) 1) tokens).cons
        ⟨chunk, p.advance (token.kind.register p.taxonomy) 1⟩ := by
  rw [ofTokens, SpanRules.renderNext_of_ok h]
  rfl

theorem ofTokens_cons_of_error {token : Token}
    (h : r.render (token.kind.register p.taxonomy) token = .error failure) (tokens : List Token) :
    ofTokens r p (token :: tokens) =
      fail (.span failure)
        ⟨(p.advance (token.kind.register p.taxonomy) 1).note (.span failure), p.pulled + 1⟩ := by
  rw [ofTokens, SpanRules.renderNext_of_error h]
  rfl

theorem ofTokens_of_renders (h : r.Renders p.taxonomy tokens chunks t') :
    (ofTokens r p tokens).failure = none ∧ (ofTokens r p tokens).chunks = chunks ∧
      (ofTokens r p tokens).last = p.advance t' tokens.length := by
  -- The progress moves with every token; of it the derivation knows the taxonomy alone.
  generalize ht : p.taxonomy = t at h
  induction h generalizing p with
  | nil =>
    subst ht
    exact ⟨rfl, rfl, rfl⟩
  | @cons t t' token tokens chunk chunks hchunk _ ih =>
    subst ht
    obtain ⟨hfailure, hchunks, hlast⟩ := ih (p := p.advance (token.kind.register p.taxonomy) 1) rfl
    rw [ofTokens_cons_of_ok hchunk]
    refine ⟨hfailure, ?_, ?_⟩
    · rw [chunks_cons, hchunks]
    · rw [List.length_cons, Nat.add_comm, ← p.advance_advance]
      exact hlast

/-- A stream of one text of a kind has one chunk. -/
theorem ofTokens_single {k : Kind} {text markup : String} (h : r.renderKind k text = .ok markup)
    (p : Progress) :
    (ofTokens r p [⟨.kind k, text⟩]).failure = none ∧
      (ofTokens r p [⟨.kind k, text⟩]).chunks = [markup] := by
  have hrender (t : Taxonomy) : r.render t ⟨.kind k, text⟩ = .ok markup := h
  obtain ⟨hfailure, hchunks, -⟩ := ofTokens_of_renders (p := p) (.cons (hrender _) .nil)
  exact ⟨hfailure, hchunks⟩

theorem ofTokens_of_stopsAt (h : r.StopsAt p.taxonomy tokens before chunks t' bad failure) :
    (ofTokens r p tokens).failure = some (.span failure) ∧ (ofTokens r p tokens).chunks = chunks ∧
      (ofTokens r p tokens).last =
        ⟨(p.advance (bad.kind.register t') (before.length + 1)).note (.span failure),
          p.pulled + (before.length + 1)⟩ := by
  obtain ⟨⟨after, rfl⟩, hrenders, hfails⟩ := h
  generalize ht : p.taxonomy = t at hrenders
  induction hrenders generalizing p with
  | nil =>
    subst ht
    rw [List.nil_append, ofTokens_cons_of_error hfails]
    exact ⟨rfl, rfl, rfl⟩
  | @cons t t' token before chunk chunks hchunk _ ih =>
    subst ht
    obtain ⟨hfailure, hchunks, hlast⟩ :=
      ih (p := p.advance (token.kind.register p.taxonomy) 1) hfails rfl
    rw [List.cons_append, ofTokens_cons_of_ok hchunk]
    refine ⟨hfailure, ?_, ?_⟩
    · rw [chunks_cons, hchunks]
    · rw [p.advance_advance] at hlast
      rw [List.length_cons, Nat.add_comm before.length 1, Nat.add_assoc]
      refine hlast.trans ?_
      simp only [Progress.advance, Nat.add_assoc]

theorem renders_of_ofTokens (h : (ofTokens r p tokens).failure = none) :
    ∃ t', r.Renders p.taxonomy tokens (ofTokens r p tokens).chunks t' := by
  rcases r.renders_or_stopsAt p.taxonomy tokens with ⟨chunks, t', hr⟩ | ⟨_, _, _, _, _, hs⟩
  · rw [(ofTokens_of_renders hr).2.1]
    exact ⟨t', hr⟩
  · rw [(ofTokens_of_stopsAt hs).1] at h
    cases h

end Run

end CodeMarkup
