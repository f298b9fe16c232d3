import CodeMarkup.Text.Pieces

/-!
Kinds of tokens. A kind is the root or a named child of another kind; it is written as the segments
on the way from the root, with dots between them, after the name of the root.
-/

namespace CodeMarkup

/-- A kind, by the way that leads to it from the root. -/
inductive Kind where
  | root
  | child (parent : Kind) (segment : String)
  deriving DecidableEq, Repr, Inhabited

namespace Kind

/-- The segments on the way from the root to a kind. -/
def path : Kind → List String
  | root => []
  | child parent segment => parent.path ++ [segment]

def extend (k : Kind) : List String → Kind
  | [] => k
  | s :: ss => (k.child s).extend ss

def ofPath (segments : List String) : Kind := root.extend segments

/-- The kind with the given dotted path below the root. -/
def ofDotted (dotted : String) : Kind :=
  if dotted = "" then root else ofPath (Text.pieces '.' dotted)

def text : Kind → String
  | root => "Token"
  | child parent segment => parent.text ++ "." ++ segment

/-- A kind and its ancestors, the nearest first. -/
def lineage : Kind → List Kind
  | root => [root]
  | child parent segment => child parent segment :: parent.lineage

/-- The value of `f` at the nearest of the kind and its ancestors where `f` has one. -/
def nearest? {β : Type} (f : Kind → Option β) (k : Kind) : Option β :=
  k.lineage.findSome? f

theorem path_extend (k : Kind) (ss : List String) : (k.extend ss).path = k.path ++ ss := by
  induction ss generalizing k with
  | nil => simp [extend]
  | cons s ss ih => simp [extend, ih, path]

theorem extend_append (k : Kind) (ss ts : List String) :
    k.extend (ss ++ ts) = (k.extend ss).extend ts := by
  induction ss generalizing k with
  | nil => rfl
  | cons s ss ih => exact ih (k.child s)

@[simp] theorem path_ofPath (ss : List String) : (ofPath ss).path = ss := by
  simp [ofPath, path_extend, path]

@[simp] theorem ofPath_path (k : Kind) : ofPath k.path = k := by
  induction k with
  | root => rfl
  | child parent segment ih =>
    rw [path, ofPath, extend_append]
    exact congrArg (child · segment) ih

theorem path_injective {j k : Kind} (h : j.path = k.path) : j = k := by
  rw [← ofPath_path j, h, ofPath_path]

theorem intercalate_path_ofDotted (dotted : String) :
    ['.'].intercalate ((ofDotted dotted).path.map String.toList) = dotted.toList := by
  unfold ofDotted
  split
  · next h => simp [h, path]
  · simp [Text.pieces, Function.comp_def, Text.intercalate_cut]

theorem ofDotted_injective (a b : String) (h : ofDotted a = ofDotted b) : a = b := by
  rw [← String.toList_inj, ← intercalate_path_ofDotted, h, intercalate_path_ofDotted]

theorem nearest?_child {β : Type} (f : Kind → Option β) (k : Kind) (segment : String) :
    (k.child segment).nearest? f = (f (k.child segment)).or (k.nearest? f) := by
  rw [nearest?, lineage, List.findSome?_cons]
  cases f (k.child segment) <;> rfl

theorem self_mem_lineage (k : Kind) : k ∈ k.lineage := by
  cases k <;> simp [lineage]

theorem lineage_subset {j k : Kind} (h : j ∈ k.lineage) : ∀ i ∈ j.lineage, i ∈ k.lineage := by
  induction k with
  | root => simp only [lineage, List.mem_singleton] at h; simp [h]
  | child parent segment ih =>
    simp only [lineage, List.mem_cons] at h
    rcases h with rfl | h
    · exact fun _ hi => hi
    · exact fun i hi => List.mem_cons_of_mem _ (ih h i hi)

end Kind

end CodeMarkup
