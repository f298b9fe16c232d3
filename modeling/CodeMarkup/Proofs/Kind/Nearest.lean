import CodeMarkup.Proofs.Kind.Paths

/-!
Values that kinds take over from their ancestors. A kind and its ancestors are the kinds whose paths
are prefixes of its own, so the nearest of them with a value is the one with the longest path.
-/

namespace CodeMarkup

namespace Kind

variable {β : Type} {f : Kind → Option β} {i j k : Kind} {b c : β} {segment : String}

/-- Of the kinds with values whose paths are prefixes of that of `k`, `j` has the longest path, and
its value is `b`. -/
structure Nearest (f : Kind → Option β) (k j : Kind) (b : β) : Prop where
  above : j.path <+: k.path
  value : f j = some b
  longest : ∀ i, i.path <+: k.path → f i ≠ none → i.path.length ≤ j.path.length

theorem eq_of_length_path (hi : i.path <+: k.path) (hj : j.path <+: k.path)
    (h : i.path.length = j.path.length) : i = j :=
  path_injective ((List.prefix_of_prefix_length_le hi hj (Nat.le_of_eq h)).eq_of_length h)

/-- There is one nearest kind at most. -/
theorem Nearest.unique (h : Nearest f k i b) (h' : Nearest f k j c) : i = j ∧ b = c := by
  have hi : f i ≠ none := by
    rw [h.value]
    exact Option.some_ne_none b
  have hj : f j ≠ none := by
    rw [h'.value]
    exact Option.some_ne_none c
  obtain rfl : i = j := by
    refine eq_of_length_path h.above h'.above (Nat.le_antisymm ?_ ?_)
    · exact h'.longest i h.above hi
    · exact h.longest j h'.above hj
  exact ⟨rfl, Option.some.inj (h.value.symm.trans h'.value)⟩

theorem nearest_self (h : f k = some b) : Nearest f k k b :=
  ⟨List.prefix_rfl, h, fun _ hi _ => hi.length_le⟩

theorem prefix_child_iff :
    j.path <+: (k.child segment).path ↔ j = k.child segment ∨ j.path <+: k.path := by
  rw [← mem_lineage_iff, ← mem_lineage_iff, lineage, List.mem_cons]

/-- A kind without a value takes over that of its parent. -/
theorem Nearest.child (h : Nearest f k j b) (hself : f (k.child segment) = none) :
    Nearest f (k.child segment) j b := by
  refine ⟨prefix_child_iff.mpr (.inr h.above), h.value, fun i hi hvalue => ?_⟩
  rcases prefix_child_iff.mp hi with rfl | hi
  · exact absurd hself hvalue
  · exact h.longest i hi hvalue

theorem exists_nearest (h : k.nearest? f = some b) : ∃ j, Nearest f k j b := by
  induction k with
  | root =>
    have hroot : f root = some b := by
      simpa [nearest?, lineage] using h
    exact ⟨root, nearest_self hroot⟩
  | child parent segment ih =>
    rw [nearest?_child] at h
    cases hself : f (parent.child segment) with
    | some c =>
      rw [hself, Option.some_or, Option.some.injEq] at h
      exact ⟨_, nearest_self (hself.trans (congrArg some h))⟩
    | none =>
      rw [hself, Option.none_or] at h
      obtain ⟨j, hj⟩ := ih h
      exact ⟨j, hj.child hself⟩

theorem nearest?_eq_none_iff : k.nearest? f = none ↔ ∀ j, j.path <+: k.path → f j = none := by
  simp only [nearest?, List.findSome?_eq_none_iff, mem_lineage_iff]

/-- The value that a kind has or takes over is that of the longest prefix of its path with one. -/
theorem nearest?_eq_some_iff : k.nearest? f = some b ↔ ∃ j, Nearest f k j b := by
  refine ⟨exists_nearest, fun ⟨j, hj⟩ => ?_⟩
  cases hvalue : k.nearest? f with
  | none =>
    have hnone := nearest?_eq_none_iff.mp hvalue j hj.above
    rw [hj.value] at hnone
    cases hnone
  | some c =>
    obtain ⟨i, hi⟩ := exists_nearest hvalue
    rw [(hi.unique hj).2]

/-- Where the root has a value every kind has or takes over one. -/
theorem exists_nearest?_of_root (h : f root ≠ none) (k : Kind) : ∃ b, k.nearest? f = some b := by
  refine Option.ne_none_iff_exists'.mp fun hnone => h ?_
  exact nearest?_eq_none_iff.mp hnone root List.nil_prefix

end Kind

namespace ShortNames

theorem find?_eq_some_iff {names : ShortNames} {k : Kind} {name : String} :
    names.find? k = some name ↔ ∃ j, k.Nearest names.own? j name :=
  Kind.nearest?_eq_some_iff

theorem find?_eq_none_iff {names : ShortNames} {k : Kind} :
    names.find? k = none ↔ ∀ j, j.path <+: k.path → names.own? j = none :=
  Kind.nearest?_eq_none_iff

end ShortNames

end CodeMarkup
