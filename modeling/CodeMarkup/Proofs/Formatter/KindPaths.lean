import CodeMarkup.Call
import CodeMarkup.Proofs.Kind.Paths
import CodeMarkup.Proofs.Run.Stream

/-!
Streams of tokens whose kinds are given in other ways. A kind that exists may be given itself or by
one of its two paths, and what is made of a stream does not depend on which of them is chosen for
each token.
-/

namespace CodeMarkup

namespace KindRef

/-- A kind that is given itself can be told by its path. -/
def WellNamed : KindRef → Prop
  | kind k => k.WellNamed
  | value _ => True

/-- `r'` is `r` or gives the existing kind that `r` resolves to, itself or by one of its paths. -/
inductive Respells (t : Taxonomy) (r : KindRef) : KindRef → Prop
  | same : Respells t r r
  | kind {k : Kind} : k ∈ t → r.resolve? t = some k → Respells t r (.kind k)
  | text {k : Kind} : k ∈ t → r.resolve? t = some k → Respells t r (.path k.text)
  | dotted {k : Kind} : k ∈ t → k ≠ .root → r.resolve? t = some k → Respells t r (.path k.dotted)

variable {t : Taxonomy} {r r' : KindRef} {k : Kind}

theorem resolve_path_eq_ok_iff {dotted : String} :
    (path dotted).resolve t = .ok k ↔ t.find? dotted = some k := by
  rw [resolve, path, resolve?]
  cases t.find? dotted <;> simp

theorem resolve_path_eq_error {dotted : String} (h : ∀ k, t.find? dotted ≠ some k) :
    (path dotted).resolve t = .error ⟨path dotted, none⟩ := by
  have hnone : t.find? dotted = none := Option.eq_none_iff_forall_ne_some.mpr h
  simp only [resolve, path, resolve?, hnone]

theorem register_of_resolve? (hk : k ∈ t) (h : r.resolve? t = some k) : r.register t = t := by
  cases r with
  | kind j =>
    obtain rfl : j = k := Option.some.inj h
    exact Taxonomy.declare_of_mem hk
  | value v => rfl

theorem reachable_register (ht : t.Reachable) (hr : r.WellNamed) : (r.register t).Reachable := by
  cases r with
  | kind k => exact .declare ht hr
  | value v => exact ht

/-- A reference that is not left alone resolves, like the one in its place, and neither of the two
brings a kind into being. -/
theorem Respells.eq_or_resolve? (ht : t.Reachable) (h : r.Respells t r') :
    r' = r ∨ r.register t = t ∧ r'.register t = t ∧
      ∃ k, r.resolve? t = some k ∧ r'.resolve? t = some k := by
  cases h with
  | same => exact .inl rfl
  | @kind k hk hr =>
    exact .inr ⟨register_of_resolve? hk hr, register_of_resolve? hk rfl, k, hr, rfl⟩
  | @text k hk hr =>
    have hfind := ht.find?_eq_some_iff.mpr ⟨hk, .inl rfl⟩
    exact .inr ⟨register_of_resolve? hk hr, rfl, k, hr, hfind⟩
  | @dotted k hk hne hr =>
    have hfind := ht.find?_eq_some_iff.mpr ⟨hk, .inr ⟨hne, rfl⟩⟩
    exact .inr ⟨register_of_resolve? hk hr, rfl, k, hr, hfind⟩

theorem Respells.register_eq (ht : t.Reachable) (h : r.Respells t r') :
    r'.register t = r.register t := by
  rcases h.eq_or_resolve? ht with rfl | ⟨hr, hr', -⟩
  · rfl
  · exact hr'.trans hr.symm

end KindRef

/-- Two streams of tokens with the same texts that refer to the same kinds, each in the taxonomy
that the tokens in front leave behind. -/
inductive Respelled : Taxonomy → List Token → List Token → Prop
  | nil {t : Taxonomy} : Respelled t [] []
  | cons {t : Taxonomy} {r r' : KindRef} {text : String} {tokens tokens' : List Token} :
      r.WellNamed → r.Respells t r' → Respelled (r.register t) tokens tokens' →
      Respelled t (⟨r, text⟩ :: tokens) (⟨r', text⟩ :: tokens')

variable {t : Taxonomy} {tokens tokens' : List Token}

theorem SpanRules.render_respells {rules : SpanRules} {r r' : KindRef} (ht : t.Reachable)
    (h : r.Respells t r') (text : String) :
    rules.render (r'.register t) ⟨r', text⟩ = rules.render (r.register t) ⟨r, text⟩ := by
  rcases h.eq_or_resolve? ht with rfl | ⟨hr, hr', k, hk, hk'⟩
  · rfl
  · simp only [render, hr, hr', hk, hk']

theorem Respelled.map_text (h : Respelled t tokens tokens') :
    tokens'.map Token.text = tokens.map Token.text := by
  induction h with
  | nil => rfl
  | cons _ _ _ ih => rw [List.map_cons, List.map_cons, ih]

theorem Respelled.ofTokens_eq {rules : SpanRules} {p : Progress}
    (h : Respelled p.taxonomy tokens tokens') (ht : p.taxonomy.Reachable) :
    Run.ofTokens rules p tokens' = Run.ofTokens rules p tokens := by
  generalize hp : p.taxonomy = t at h ht
  induction h generalizing p with
  | nil => rfl
  | @cons t r r' text tokens tokens' hnamed hrespells _ ih =>
    subst hp
    have hrender : rules.render (r'.register p.taxonomy) ⟨r', text⟩ =
        rules.render (r.register p.taxonomy) ⟨r, text⟩ :=
      SpanRules.render_respells ht hrespells text
    have hregister := hrespells.register_eq ht
    cases hr : rules.render (r.register p.taxonomy) ⟨r, text⟩ with
    | ok chunk =>
      have hrest := ih (p := p.advance (r.register p.taxonomy) 1) rfl
        (KindRef.reachable_register ht hnamed)
      rw [Run.ofTokens_cons_of_ok hr, Run.ofTokens_cons_of_ok (hrender.trans hr)]
      simp only [hregister, hrest]
    | error failure =>
      rw [Run.ofTokens_cons_of_error hr, Run.ofTokens_cons_of_error (hrender.trans hr)]
      simp only [hregister]

namespace Formatter

variable {f : Formatter} {p : Progress}

theorem flat_respelled (h : Respelled p.taxonomy tokens tokens') (ht : p.taxonomy.Reachable) :
    f.flat p tokens' = f.flat p tokens := by
  simp only [flat, h.ofTokens_eq ht]

theorem buffered_respelled (h : Respelled p.taxonomy tokens tokens') (ht : p.taxonomy.Reachable)
    (l : Layout) : f.buffered l p tokens' = f.buffered l p tokens := by
  simp only [buffered, h.ofTokens_eq ht, h.map_text]

theorem stream_respelled (h : Respelled p.taxonomy tokens tokens') (ht : p.taxonomy.Reachable) :
    f.stream p tokens' = f.stream p tokens := by
  simp only [stream, flat_respelled h ht, buffered_respelled h ht]

theorem perform_respelled {s : Session} (h : Respelled s.taxonomy tokens tokens')
    (ht : s.taxonomy.Reachable) (i : Instance) (method : Method) :
    i.perform s ⟨method, tokens'⟩ = i.perform s ⟨method, tokens⟩ := by
  have hbegin : Respelled s.begin.taxonomy tokens tokens' := h
  cases method with
  | render => simp only [Instance.perform, stream_respelled hbegin ht]
  | stream => simp only [Instance.perform, stream_respelled hbegin ht]
  | flat => simp only [Instance.perform, flat_respelled hbegin ht]
  | numbered layout => simp only [Instance.perform, buffered_respelled hbegin ht]
  | format encoding => simp only [Instance.perform, write, stream_respelled hbegin ht]

/-- In a taxonomy that grew from the standard one a path resolves exactly if it is one of the two
paths of a kind that exists, and then to that kind, in whatever order children are visited and
whatever kinds are added later. So kinds can be given in any of these ways: what is made of a stream
of tokens is the same. -/
theorem resolve_paths {t : Taxonomy} (ht : t.Reachable) :
    (∀ dotted k, (KindRef.path dotted).resolve t = .ok k ↔
      k ∈ t ∧ (dotted = k.text ∨ k ≠ .root ∧ dotted = k.dotted)) ∧
    (∀ k ∈ t, (KindRef.path k.text).resolve t = .ok k) ∧
    (∀ dotted, (∀ k ∈ t, dotted ≠ k.text ∧ (k ≠ .root → dotted ≠ k.dotted)) →
      (KindRef.path dotted).resolve t = .error ⟨.path dotted, none⟩) ∧
    (∀ dotted, ("" ∈ Text.pieces '.' dotted ∨
        ∃ rest, Text.pieces '.' dotted = "Token" :: "Token" :: rest) →
      (KindRef.path dotted).resolve t = .error ⟨.path dotted, none⟩) ∧
    (∀ visit, t.Visits visit → ∀ dotted, Taxonomy.findBy? visit dotted = t.find? dotted) ∧
    (∀ t' dotted k, t ⊆ t' → (KindRef.path dotted).resolve t = .ok k →
      (KindRef.path dotted).resolve t' = .ok k) ∧
    ∀ tokens tokens', Respelled t tokens tokens' → ∀ (i : Instance) log method,
      i.perform ⟨t, log⟩ ⟨method, tokens'⟩ = i.perform ⟨t, log⟩ ⟨method, tokens⟩ := by
  have hiff (dotted : String) (k : Kind) : (KindRef.path dotted).resolve t = .ok k ↔
      k ∈ t ∧ (dotted = k.text ∨ k ≠ .root ∧ dotted = k.dotted) := by
    rw [KindRef.resolve_path_eq_ok_iff, ht.find?_eq_some_iff]
  refine ⟨hiff, fun k hk => (hiff _ k).mpr ⟨hk, .inl rfl⟩, ?_, ?_,
    fun visit hvisit => hvisit.findBy?_eq, fun t' dotted k h => KindRef.resolve_mono h, ?_⟩
  · intro dotted hother
    refine KindRef.resolve_path_eq_error fun k hfind => ?_
    obtain ⟨hk, hpath⟩ := ht.find?_eq_some_iff.mp hfind
    obtain ⟨htext, hdotted⟩ := hother k hk
    rcases hpath with hpath | ⟨hne, hpath⟩
    · exact htext hpath
    · exact hdotted hne hpath
  · intro dotted hpieces
    refine KindRef.resolve_path_eq_error fun k hfind => ?_
    obtain ⟨hempty, htwice⟩ := ht.pieces_of_find? hfind
    rcases hpieces with h | ⟨rest, h⟩
    · exact hempty h
    · exact htwice rest h
  · intro tokens tokens' h i log method
    exact perform_respelled h ht i method

/-- A kind that is not among the standard ones. -/
def madeKeyword : Kind :=
  (Kind.root.child "Keyword").child "Made"

theorem resolve_paths_made :
    (Taxonomy.standard.declare madeKeyword).Reachable ∧
      (KindRef.path "Token.Keyword.Made").resolve (Taxonomy.standard.declare madeKeyword) =
        .ok madeKeyword ∧
      (KindRef.path "Keyword..Made").resolve (Taxonomy.standard.declare madeKeyword) =
        .error ⟨.path "Keyword..Made", none⟩ ∧
      ∀ (i : Instance) method,
        i.perform ⟨Taxonomy.standard.declare madeKeyword, []⟩
            ⟨method, [⟨.path "Keyword.Made", "x"⟩]⟩ =
          i.perform ⟨Taxonomy.standard.declare madeKeyword, []⟩
            ⟨method, [⟨.kind madeKeyword, "x"⟩]⟩ := by
  have hnamed : madeKeyword.WellNamed := by decide
  have ht : (Taxonomy.standard.declare madeKeyword).Reachable := .declare .standard hnamed
  have hmem : madeKeyword ∈ Taxonomy.standard.declare madeKeyword :=
    Taxonomy.mem_declare.mpr (.inr madeKeyword.self_mem_lineage)
  have hdotted : madeKeyword.dotted = "Keyword.Made" := by decide +kernel
  have hrespells : (KindRef.kind madeKeyword).Respells (Taxonomy.standard.declare madeKeyword)
      (.path "Keyword.Made") := by
    rw [← hdotted]
    exact .dotted hmem (by decide) rfl
  obtain ⟨-, htext, -, hpieces, -, -, hperform⟩ := resolve_paths ht
  have hempty : "" ∈ Text.pieces '.' "Keyword..Made" := by decide +kernel
  have hroot : madeKeyword.text = "Token.Keyword.Made" := by decide +kernel
  refine ⟨ht, ?_, hpieces _ (.inl hempty), fun i method => ?_⟩
  · rw [← hroot]
    exact htext madeKeyword hmem
  · have hstream : Respelled (Taxonomy.standard.declare madeKeyword) [⟨.kind madeKeyword, "x"⟩]
        [⟨.path "Keyword.Made", "x"⟩] := .cons hnamed hrespells .nil
    exact hperform _ _ hstream i [] method

end Formatter

end CodeMarkup
