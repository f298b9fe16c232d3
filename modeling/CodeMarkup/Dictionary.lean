/-!
Dictionaries that keep the order in which their keys were first put. A key occurs once; putting it
again replaces its value and leaves its place.
-/

namespace CodeMarkup

variable {α β : Type}

/-- Puts a value under a key of a list of entries. -/
def putEntry [DecidableEq α] (a : α) (b : β) : List (α × β) → List (α × β)
  | [] => [(a, b)]
  | e :: es => if e.1 = a then (a, b) :: es else e :: putEntry a b es

def valueAt? [DecidableEq α] (a : α) : List (α × β) → Option β
  | [] => none
  | e :: es => if e.1 = a then some e.2 else valueAt? a es

theorem mem_keys_putEntry [DecidableEq α] {a x : α} {b : β} {es : List (α × β)} :
    x ∈ (putEntry a b es).map Prod.fst ↔ x = a ∨ x ∈ es.map Prod.fst := by
  induction es with
  | nil => simp [putEntry]
  | cons e es ih =>
    by_cases h : e.1 = a
    · simp only [putEntry, h, ↓reduceIte, List.map_cons, List.mem_cons]
      grind
    · simp only [putEntry, h, ↓reduceIte, List.map_cons, List.mem_cons, ih]
      grind

theorem nodup_keys_putEntry [DecidableEq α] {a : α} {b : β} {es : List (α × β)}
    (h : (es.map Prod.fst).Nodup) : ((putEntry a b es).map Prod.fst).Nodup := by
  induction es with
  | nil => simp [putEntry]
  | cons e es ih =>
    simp only [List.map_cons, List.nodup_cons] at h
    by_cases he : e.1 = a
    · simp only [putEntry, he, ↓reduceIte, List.map_cons, List.nodup_cons]
      exact he ▸ h
    · rw [putEntry, if_neg he, List.map_cons, List.nodup_cons, mem_keys_putEntry]
      exact ⟨fun hx => hx.elim he h.1, ih h.2⟩

theorem valueAt?_putEntry [DecidableEq α] {a x : α} {b : β} {es : List (α × β)} :
    valueAt? x (putEntry a b es) = if a = x then some b else valueAt? x es := by
  induction es with
  | nil => simp [putEntry, valueAt?]
  | cons e es ih =>
    by_cases h : e.1 = a
    · by_cases hx : a = x <;> simp [putEntry, valueAt?, h, hx]
    · rw [putEntry, if_neg h, valueAt?, valueAt?, ih]
      by_cases hx : e.1 = x
      · have : a ≠ x := fun ha => h (hx.trans ha.symm)
        simp [hx, this]
      · simp [hx]

theorem valueAt?_eq_none_iff [DecidableEq α] {a : α} {es : List (α × β)} :
    valueAt? a es = none ↔ a ∉ es.map Prod.fst := by
  induction es with
  | nil => simp [valueAt?]
  | cons e es ih =>
    by_cases h : e.1 = a
    · simp [valueAt?, h]
    · simp only [valueAt?, h, ↓reduceIte, ih, List.map_cons, List.mem_cons, not_or]
      exact ⟨fun hm => ⟨fun ha => h ha.symm, hm⟩, fun hm => hm.2⟩

theorem valueAt?_append [DecidableEq α] {a : α} {es fs : List (α × β)} :
    valueAt? a (es ++ fs) = (valueAt? a es).or (valueAt? a fs) := by
  induction es with
  | nil => rfl
  | cons e es ih =>
    by_cases h : e.1 = a
    · simp [valueAt?, h]
    · simp [valueAt?, h, ih]

theorem valueAt?_map {γ δ : Type} [DecidableEq α] [DecidableEq γ] {f : α → γ} (g : β → δ)
    (hf : ∀ a b, f a = f b → a = b) (a : α) (es : List (α × β)) :
    valueAt? (f a) (es.map fun e => (f e.1, g e.2)) = (valueAt? a es).map g := by
  induction es with
  | nil => rfl
  | cons e es ih =>
    by_cases h : e.1 = a
    · simp [valueAt?, h]
    · have hne : f e.1 ≠ f a := fun hfe => h (hf _ _ hfe)
      simp [valueAt?, h, hne, ih]

theorem mem_of_valueAt? [DecidableEq α] {a : α} {b : β} {es : List (α × β)}
    (h : valueAt? a es = some b) : (a, b) ∈ es := by
  induction es with
  | nil => cases h
  | cons e es ih =>
    rw [valueAt?] at h
    split at h
    · next he =>
      obtain rfl := Option.some.inj h
      exact he ▸ List.mem_cons_self
    · exact List.mem_cons_of_mem _ (ih h)

theorem exists_valueAt? [DecidableEq α] {a : α} {es : List (α × β)} (h : a ∈ es.map Prod.fst) :
    ∃ b, valueAt? a es = some b := by
  cases hvalue : valueAt? a es with
  | none => exact absurd h (valueAt?_eq_none_iff.mp hvalue)
  | some b => exact ⟨b, rfl⟩

theorem valueAt?_eq_some_iff [DecidableEq α] {a : α} {b : β} {es : List (α × β)}
    (h : (es.map Prod.fst).Nodup) : valueAt? a es = some b ↔ (a, b) ∈ es := by
  refine ⟨mem_of_valueAt?, fun hmem => ?_⟩
  induction es with
  | nil => cases hmem
  | cons e es ih =>
    rw [List.map_cons, List.nodup_cons] at h
    rcases List.mem_cons.mp hmem with rfl | hmem
    · rw [valueAt?, if_pos rfl]
    · have hne : e.1 ≠ a := by
        rintro rfl
        exact h.1 (List.mem_map.mpr ⟨_, hmem, rfl⟩)
      rw [valueAt?, if_neg hne, ih h.2 hmem]

/-- Where keys are distinct, their order does not matter. -/
theorem valueAt?_perm [DecidableEq α] {es fs : List (α × β)} (hperm : es.Perm fs)
    (h : (es.map Prod.fst).Nodup) (a : α) : valueAt? a es = valueAt? a fs := by
  have hfs : (fs.map Prod.fst).Nodup := (hperm.map Prod.fst).nodup_iff.mp h
  refine Option.ext fun b => ?_
  rw [valueAt?_eq_some_iff h, valueAt?_eq_some_iff hfs, hperm.mem_iff]

/-- A finite map with distinct keys in a fixed order. -/
structure Dictionary (α β : Type) where
  entries : List (α × β)
  nodup : (entries.map Prod.fst).Nodup

namespace Dictionary

variable [DecidableEq α]

def empty : Dictionary α β := ⟨[], List.nodup_nil⟩

def size (d : Dictionary α β) : Nat := d.entries.length

def get? (d : Dictionary α β) (a : α) : Option β := valueAt? a d.entries

def contains (d : Dictionary α β) (a : α) : Bool := (d.get? a).isSome

/-- Puts a value under a key, in place of the one it may have. -/
def put (d : Dictionary α β) (a : α) (b : β) : Dictionary α β :=
  ⟨putEntry a b d.entries, nodup_keys_putEntry d.nodup⟩

/-- Puts a value under a key that has none. -/
def putNew (d : Dictionary α β) (a : α) (b : β) : Dictionary α β :=
  if d.contains a then d else d.put a b

/-- The dictionary of the entries of a list, put one after the other. -/
def ofList (es : List (α × β)) : Dictionary α β :=
  es.foldl (fun d e => d.put e.1 e.2) empty

@[simp] theorem get?_empty (a : α) : (empty : Dictionary α β).get? a = none := rfl

theorem get?_put (d : Dictionary α β) (a x : α) (b : β) :
    (d.put a b).get? x = if a = x then some b else d.get? x :=
  valueAt?_putEntry

/-- Of the entries with one key the last one counts. -/
theorem get?_ofList (es : List (α × β)) (a : α) :
    (ofList es).get? a = valueAt? a es.reverse := by
  have hfold : ∀ d : Dictionary α β, (es.foldl (fun d e => d.put e.1 e.2) d).get? a =
      (valueAt? a es.reverse).or (d.get? a) := by
    induction es with
    | nil => exact fun d => rfl
    | cons e es ih =>
      intro d
      rw [List.foldl_cons, ih, get?_put, List.reverse_cons, valueAt?_append, Option.or_assoc]
      by_cases h : e.1 = a <;> simp [valueAt?, h]
  rw [ofList, hfold, get?_empty, Option.or_none]

end Dictionary

end CodeMarkup
