import CodeMarkup.ShortNames

/-!
Taxonomies that grow. A reference to a kind may bring the kind into being, and nothing takes a kind
away again, so a path that resolves once resolves to the same kind from then on. Short names that
were accepted once are accepted again, with the same kinds.
-/

namespace CodeMarkup

namespace Taxonomy

instance : HasSubset Taxonomy := ⟨fun t t' => ∀ k, k ∈ t → k ∈ t'⟩

variable {t t' t'' : Taxonomy}

theorem subset_refl (t : Taxonomy) : t ⊆ t := fun _ hk => hk

theorem subset_trans (h : t ⊆ t') (h' : t' ⊆ t'') : t ⊆ t'' := fun k hk => h' k (h k hk)

theorem subset_declare (t : Taxonomy) (k : Kind) : t ⊆ t.declare k := by
  intro j hj
  exact mem_declare.mpr (.inl hj)

theorem declare_mono (h : t ⊆ t') (k : Kind) : t.declare k ⊆ t'.declare k := by
  intro j hj
  rcases mem_declare.mp hj with hj | hj
  · exact mem_declare.mpr (.inl (h j hj))
  · exact mem_declare.mpr (.inr hj)

theorem walk?_mono (h : t ⊆ t') {segments : List String} {j k : Kind}
    (hwalk : t.walk? j segments = some k) : t'.walk? j segments = some k := by
  induction segments generalizing j with
  | nil => exact hwalk
  | cons segment segments ih =>
    rw [walk?] at hwalk ⊢
    by_cases hchild : j.child segment ∈ t
    · rw [if_pos hchild] at hwalk
      rw [if_pos (h _ hchild)]
      exact ih hwalk
    · rw [if_neg hchild] at hwalk
      cases hwalk

theorem find?_mono (h : t ⊆ t') {dotted : String} {k : Kind} (hfind : t.find? dotted = some k) :
    t'.find? dotted = some k := by
  dsimp only [find?] at hfind ⊢
  split at hfind
  · cases hfind
  · next hparts =>
    rw [if_neg hparts]
    exact walk?_mono h hfind

end Taxonomy

namespace KindRef

variable {t t' : Taxonomy}

theorem subset_register (t : Taxonomy) (r : KindRef) : t ⊆ r.register t := by
  cases r with
  | kind k => exact t.subset_declare k
  | value v => exact t.subset_refl

theorem register_mono (h : t ⊆ t') (r : KindRef) : r.register t ⊆ r.register t' := by
  cases r with
  | kind k => exact Taxonomy.declare_mono h k
  | value v => exact h

theorem resolve?_mono (h : t ⊆ t') {r : KindRef} {k : Kind} (hr : r.resolve? t = some k) :
    r.resolve? t' = some k := by
  unfold resolve? at hr ⊢
  split at hr
  · exact hr
  · exact Taxonomy.find?_mono h hr
  · cases hr

theorem resolve_mono (h : t ⊆ t') {r : KindRef} {k : Kind} (hr : r.resolve t = .ok k) :
    r.resolve t' = .ok k := by
  unfold resolve at hr ⊢
  cases hresolve : r.resolve? t with
  | none => simp [hresolve] at hr
  | some j =>
    rw [hresolve] at hr
    rw [resolve?_mono h hresolve]
    exact hr

end KindRef

namespace ShortNames

variable {t t' : Taxonomy}

theorem extend_mono (h : t ⊆ t') {es : List (KindRef × Value)}
    {d d' : Dictionary Kind (Option String)} (hextend : extend t d es = .ok d') :
    extend t' d es = .ok d' := by
  induction es generalizing d with
  | nil => exact hextend
  | cons e es ih =>
    rw [extend] at hextend ⊢
    cases hk : e.1.resolve t with
    | error u =>
      rw [hk] at hextend
      cases hextend
    | ok k =>
      rw [hk] at hextend
      rw [KindRef.resolve_mono h hk]
      exact ih hextend

theorem ofMapping_mono (h : t ⊆ t') {es : List (KindRef × Value)} {names : ShortNames}
    (hnames : ofMapping t es = .ok names) : ofMapping t' es = .ok names := by
  unfold ofMapping at hnames ⊢
  cases hextend : extend t .empty es with
  | error u => simp [hextend, Except.map] at hnames
  | ok d =>
    rw [hextend] at hnames
    rw [extend_mono h hextend]
    exact hnames

end ShortNames

end CodeMarkup
