import CodeMarkup.Kind.Standard
import CodeMarkup.Proofs.Kind.Growth

/-!
Kinds by their paths. In a taxonomy that grew from the standard one every path tells its kind, so
looking a path up finds exactly the kinds that exist, each under two paths: with the name of the
root in front and without it. The children of a kind may be visited in any order.
-/

namespace CodeMarkup

namespace Kind

/-- The path of a kind below the root. -/
def dotted (k : Kind) : String :=
  ".".intercalate k.path

/-- The segments of a kind can be told from each other and from the name of the root. -/
structure WellNamed (k : Kind) : Prop where
  ne_empty : ∀ segment ∈ k.path, segment ≠ ""
  dot_notMem : ∀ segment ∈ k.path, '.' ∉ segment.toList
  head_ne : k.path.head? ≠ some "Token"

instance (k : Kind) : Decidable k.WellNamed :=
  decidable_of_iff
    ((∀ segment ∈ k.path, segment ≠ "") ∧ (∀ segment ∈ k.path, '.' ∉ segment.toList) ∧
      k.path.head? ≠ some "Token")
    ⟨fun ⟨h, h', h''⟩ => ⟨h, h', h''⟩, fun ⟨h, h', h''⟩ => ⟨h, h', h''⟩⟩

variable {j k : Kind} {dotted : String}

theorem path_eq_nil_iff : k.path = [] ↔ k = root := by
  cases k <;> simp [path]

theorem mem_lineage_iff : j ∈ k.lineage ↔ j.path <+: k.path := by
  induction k with
  | root => simp [lineage, path, path_eq_nil_iff]
  | child parent segment ih =>
    have hself : j = parent.child segment ↔ j.path = parent.path ++ [segment] := by
      constructor
      · rintro rfl
        rfl
      · exact fun h => path_injective h
    rw [lineage, List.mem_cons, ih, hself, path, List.prefix_concat_iff]

theorem WellNamed.of_mem_lineage (h : k.WellNamed) (hj : j ∈ k.lineage) : j.WellNamed := by
  obtain ⟨rest, hrest⟩ := mem_lineage_iff.mp hj
  have hmem : ∀ segment ∈ j.path, segment ∈ k.path := by
    intro segment hsegment
    exact hrest ▸ List.mem_append_left rest hsegment
  refine ⟨fun s hs => h.ne_empty s (hmem s hs), fun s hs => h.dot_notMem s (hmem s hs), ?_⟩
  intro hhead
  apply h.head_ne
  rw [← hrest, List.head?_append, hhead, Option.some_or]

/-! ### Paths in pieces -/

theorem text_eq (k : Kind) : k.text = ".".intercalate ("Token" :: k.path) := by
  induction k with
  | root => rfl
  | child parent segment ih =>
    have happend := String.intercalate_append_of_ne_nil (s := ".")
      (List.cons_ne_nil "Token" parent.path) (List.cons_ne_nil segment [])
    rw [String.intercalate_singleton, ← ih] at happend
    exact happend.symm

theorem WellNamed.pieces_text (h : k.WellNamed) :
    Text.pieces '.' k.text = "Token" :: k.path := by
  rw [text_eq]
  refine Text.pieces_intercalate (List.cons_ne_nil _ _) ?_
  exact List.forall_mem_cons.mpr ⟨by decide, h.dot_notMem⟩

theorem WellNamed.pieces_dotted (h : k.WellNamed) (hk : k ≠ root) :
    Text.pieces '.' k.dotted = k.path :=
  Text.pieces_intercalate (fun hnil => hk (path_eq_nil_iff.mp hnil)) h.dot_notMem

end Kind

namespace Taxonomy

open Kind (WellNamed)

variable {t t' : Taxonomy} {j k : Kind} {dotted : String}

theorem segments_of_token {rest : List String} (h : Text.pieces '.' dotted = "Token" :: rest) :
    segments dotted = rest := by
  simp only [segments, h]

theorem segments_of_head?_ne (h : (Text.pieces '.' dotted).head? ≠ some "Token") :
    segments dotted = Text.pieces '.' dotted := by
  unfold segments
  split
  · next rest hpieces => simp [hpieces] at h
  · rfl

/-- The segments of a path are those of a kind if it is one of the two paths of the kind. -/
theorem segments_eq_path_iff (h : k.WellNamed) :
    segments dotted = k.path ↔ dotted = k.text ∨ k ≠ .root ∧ dotted = k.dotted := by
  constructor
  · intro hsegments
    by_cases hhead : (Text.pieces '.' dotted).head? = some "Token"
    · obtain ⟨rest, hpieces⟩ := List.head?_eq_some_iff.mp hhead
      rw [segments_of_token hpieces] at hsegments
      left
      rw [Kind.text_eq, ← hsegments, ← hpieces]
      exact (Text.intercalate_pieces '.' dotted).symm
    · rw [segments_of_head?_ne hhead] at hsegments
      right
      constructor
      · rintro rfl
        exact Text.pieces_ne_nil '.' dotted hsegments
      · rw [Kind.dotted, ← hsegments]
        exact (Text.intercalate_pieces '.' dotted).symm
  · rintro (rfl | ⟨hk, rfl⟩)
    · exact segments_of_token h.pieces_text
    · have hpieces := h.pieces_dotted hk
      rw [segments_of_head?_ne (by rw [hpieces]; exact h.head_ne), hpieces]

/-! ### Looking paths up -/

theorem mem_of_mem_lineage (h : k ∈ t) (hj : j ∈ k.lineage) : j ∈ t :=
  t.closed k h j hj

theorem walk?_eq_some_iff {segments : List String} (hj : j ∈ t) :
    t.walk? j segments = some k ↔ k ∈ t ∧ k = j.extend segments := by
  induction segments generalizing j with
  | nil =>
    rw [walk?, Kind.extend, Option.some.injEq]
    constructor
    · rintro rfl
      exact ⟨hj, rfl⟩
    · rintro ⟨-, rfl⟩
      rfl
  | cons segment segments ih =>
    rw [walk?, Kind.extend]
    by_cases hchild : j.child segment ∈ t
    · rw [if_pos hchild, ih hchild]
    · rw [if_neg hchild]
      -- What lies below a kind that does not exist does not exist either.
      have hbelow : j.child segment ∈ ((j.child segment).extend segments).lineage := by
        rw [Kind.mem_lineage_iff, Kind.path_extend]
        exact List.prefix_append _ _
      constructor
      · intro h
        cases h
      · rintro ⟨hk, rfl⟩
        exact absurd (mem_of_mem_lineage hk hbelow) hchild

theorem find?_eq_some_iff_segments :
    t.find? dotted = some k ↔ k ∈ t ∧ segments dotted = k.path ∧ k.path.head? ≠ some "" := by
  have hkind (ss : List String) : k = Kind.root.extend ss ↔ ss = k.path := by
    constructor
    · rintro rfl
      exact (Kind.path_ofPath ss).symm
    · rintro rfl
      exact (Kind.ofPath_path k).symm
  have hwalk : t.walk? .root (segments dotted) = some k ↔
      k ∈ t ∧ k = Kind.root.extend (segments dotted) := walk?_eq_some_iff t.root_mem
  rw [hkind] at hwalk
  dsimp only [find?]
  by_cases hhead : (segments dotted).head? = some ""
  · rw [if_pos hhead]
    constructor
    · intro h
      cases h
    · rintro ⟨-, hsegments, hne⟩
      rw [hsegments] at hhead
      exact absurd hhead hne
  · rw [if_neg hhead, hwalk]
    constructor
    · rintro ⟨hk, hsegments⟩
      exact ⟨hk, hsegments, hsegments ▸ hhead⟩
    · rintro ⟨hk, hsegments, -⟩
      exact ⟨hk, hsegments⟩

/-! ### Taxonomies that grew from the standard one -/

/-- A taxonomy to which one kind after the other has been added. -/
inductive Reachable : Taxonomy → Prop
  | standard : Reachable .standard
  | declare {t : Taxonomy} {k : Kind} : Reachable t → k.WellNamed → Reachable (t.declare k)

theorem mem_declareAll {ks : List Kind} :
    k ∈ t.declareAll ks ↔ k ∈ t ∨ ∃ j ∈ ks, k ∈ j.lineage := by
  induction ks generalizing t with
  | nil => simp [declareAll]
  | cons j ks ih =>
    rw [declareAll, List.foldl_cons, ← declareAll, ih, mem_declare, or_assoc]
    simp

theorem wellNamed_of_mem_standard (h : k ∈ standard) : k.WellNamed := by
  have hall : ∀ j ∈ Kind.standard.map Prod.fst, j.WellNamed := by decide +kernel
  rcases mem_declareAll.mp h with h | ⟨j, hj, h⟩
  · obtain rfl : k = .root := List.mem_singleton.mp h
    decide
  · exact (hall j hj).of_mem_lineage h

theorem Reachable.wellNamed (h : t.Reachable) (hk : k ∈ t) : k.WellNamed := by
  induction h with
  | standard => exact wellNamed_of_mem_standard hk
  | declare _ hnew ih =>
    rcases mem_declare.mp hk with hk | hk
    · exact ih hk
    · exact hnew.of_mem_lineage hk

theorem declare_of_mem (h : k ∈ t) : t.declare k = t :=
  if_pos h

/-- A path is found exactly if it is one of the two paths of a kind that exists. -/
theorem Reachable.find?_eq_some_iff (h : t.Reachable) :
    t.find? dotted = some k ↔ k ∈ t ∧ (dotted = k.text ∨ k ≠ .root ∧ dotted = k.dotted) := by
  rw [find?_eq_some_iff_segments]
  constructor
  · rintro ⟨hk, hsegments, -⟩
    exact ⟨hk, (segments_eq_path_iff (h.wellNamed hk)).mp hsegments⟩
  · rintro ⟨hk, hpath⟩
    have hnamed := h.wellNamed hk
    refine ⟨hk, (segments_eq_path_iff hnamed).mpr hpath, fun hhead => ?_⟩
    exact hnamed.ne_empty "" (List.mem_of_mem_head? hhead) rfl

/-- A path with an empty piece, or with the name of the root twice in front, is not found. -/
theorem Reachable.pieces_of_find? (h : t.Reachable) (hfind : t.find? dotted = some k) :
    "" ∉ Text.pieces '.' dotted ∧ ∀ rest, Text.pieces '.' dotted ≠ "Token" :: "Token" :: rest := by
  obtain ⟨hk, hpath⟩ := h.find?_eq_some_iff.mp hfind
  have hnamed := h.wellNamed hk
  rcases hpath with rfl | ⟨hne, rfl⟩
  · rw [hnamed.pieces_text]
    refine ⟨fun hempty => ?_, fun rest hrest => ?_⟩
    · rcases List.mem_cons.mp hempty with hroot | hempty
      · exact absurd hroot (by decide)
      · exact hnamed.ne_empty "" hempty rfl
    · apply hnamed.head_ne
      rw [(List.cons.inj hrest).2]
      rfl
  · rw [hnamed.pieces_dotted hne]
    refine ⟨fun hempty => hnamed.ne_empty "" hempty rfl, fun rest hrest => ?_⟩
    apply hnamed.head_ne
    rw [hrest]
    rfl

/-! ### Children in any order -/

/-- `visit` goes through the children of each kind, in some order. -/
def Visits (t : Taxonomy) (visit : Kind → List Kind) : Prop :=
  ∀ k j, j ∈ visit k ↔ j ∈ t ∧ ∃ segment, j = k.child segment

/-- The kind reached from `k` by a list of segments when for each of them the children are visited
until one has it as its last segment. -/
def walkBy? (visit : Kind → List Kind) : Kind → List String → Option Kind
  | k, [] => some k
  | k, s :: ss => ((visit k).find? fun j => j.path.getLast? = some s).bind (walkBy? visit · ss)

/-- The kind that a dotted path names when children are visited one after the other. -/
def findBy? (visit : Kind → List Kind) (dotted : String) : Option Kind :=
  let parts := segments dotted
  if parts.head? = some "" then none else walkBy? visit .root parts

theorem Visits.find?_eq {visit : Kind → List Kind} (h : t.Visits visit) (k : Kind)
    (segment : String) :
    (visit k).find? (fun j => j.path.getLast? = some segment) =
      if k.child segment ∈ t then some (k.child segment) else none := by
  have hlast (other : String) :
      (k.child other).path.getLast? = some segment ↔ other = segment := by
    simp [Kind.path]
  split
  · next hchild =>
    have hmem : k.child segment ∈ visit k := (h k _).mpr ⟨hchild, segment, rfl⟩
    cases hfind : (visit k).find? fun j => j.path.getLast? = some segment with
    | none =>
      have hnone := List.find?_eq_none.mp hfind _ hmem
      simp [hlast] at hnone
    | some j =>
      obtain ⟨-, other, rfl⟩ := (h k j).mp (List.mem_of_find?_eq_some hfind)
      have hother := List.find?_some hfind
      rw [decide_eq_true_eq, hlast] at hother
      rw [hother]
  · next hchild =>
    refine List.find?_eq_none.mpr fun j hj => ?_
    obtain ⟨hmem, other, rfl⟩ := (h k j).mp hj
    rw [decide_eq_true_eq, hlast]
    rintro rfl
    exact hchild hmem

theorem Visits.walkBy?_eq {visit : Kind → List Kind} (h : t.Visits visit) (k : Kind)
    (segments : List String) : walkBy? visit k segments = t.walk? k segments := by
  induction segments generalizing k with
  | nil => rfl
  | cons segment segments ih =>
    rw [walkBy?, walk?, h.find?_eq]
    split
    · exact ih _
    · rfl

theorem Visits.findBy?_eq {visit : Kind → List Kind} (h : t.Visits visit) (dotted : String) :
    findBy? visit dotted = t.find? dotted := by
  simp only [findBy?, find?, h.walkBy?_eq]

end Taxonomy

end CodeMarkup
