import CodeMarkup.Kind

/-!
Taxonomies: the kinds that exist at some moment. The root always exists, and so does every ancestor
of a kind that exists. A dotted path names a kind that exists; looking it up adds nothing.
-/

namespace CodeMarkup

/-- A set of kinds that holds the root and the ancestors of its members. -/
structure Taxonomy where
  kinds : List Kind
  root_mem : Kind.root ∈ kinds
  closed : ∀ k ∈ kinds, ∀ a ∈ k.lineage, a ∈ kinds

namespace Taxonomy

instance : Membership Kind Taxonomy := ⟨fun t k => k ∈ t.kinds⟩

instance (t : Taxonomy) (k : Kind) : Decidable (k ∈ t) :=
  inferInstanceAs (Decidable (k ∈ t.kinds))

def rootOnly : Taxonomy :=
  ⟨[.root], by simp, by simp [Kind.lineage]⟩

/-- The taxonomy in which `k` exists too, with its ancestors. -/
def declare (t : Taxonomy) (k : Kind) : Taxonomy :=
  if k ∈ t.kinds then t
  else
    ⟨t.kinds ++ k.lineage, by simp [t.root_mem], fun j hj a ha => by
      rcases List.mem_append.mp hj with hj | hj
      · exact List.mem_append_left _ (t.closed j hj a ha)
      · exact List.mem_append_right _ (Kind.lineage_subset hj a ha)⟩

def declareAll (t : Taxonomy) (ks : List Kind) : Taxonomy :=
  ks.foldl declare t

theorem mem_declare {t : Taxonomy} {j k : Kind} : j ∈ t.declare k ↔ j ∈ t ∨ j ∈ k.lineage := by
  by_cases h : k ∈ t.kinds
  · simp only [declare, h, ↓reduceIte]
    exact ⟨.inl, fun hj => hj.elim id (t.closed k h j)⟩
  · simp only [declare, h, ↓reduceIte]
    exact List.mem_append

/-- The kind reached from `k` by a list of segments, through kinds that exist. -/
def walk? (t : Taxonomy) : Kind → List String → Option Kind
  | k, [] => some k
  | k, s :: ss => if k.child s ∈ t then t.walk? (k.child s) ss else none

/-- The segments of a dotted path, without the name of the root in front of them. -/
def segments (dotted : String) : List String :=
  match Text.pieces '.' dotted with
  | "Token" :: rest => rest
  | parts => parts

/-- The kind that a dotted path names. The path starts at the root, whose name may stand in front,
and names at least one child unless it is the name of the root. -/
def find? (t : Taxonomy) (dotted : String) : Option Kind :=
  let parts := segments dotted
  if parts.head? = some "" then none else t.walk? .root parts

end Taxonomy

end CodeMarkup
