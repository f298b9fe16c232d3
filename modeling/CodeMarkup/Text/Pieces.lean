/-!
Texts cut at a separator character, and the text before or after one occurrence of it.
-/

namespace CodeMarkup.Text

/-- The pieces of a list of characters between the occurrences of `sep`; there is always one more
piece than occurrences. -/
def cut (sep : Char) : List Char → List (List Char)
  | [] => [[]]
  | c :: cs =>
    if c = sep then [] :: cut sep cs
    else match cut sep cs with
      | piece :: pieces => (c :: piece) :: pieces
      | [] => [[c]]

/-- The pieces of a text between the occurrences of `sep`. -/
def pieces (sep : Char) (s : String) : List String :=
  (cut sep s.toList).map String.ofList

/-- The characters before the first occurrence of `sep` and those after it, if there is one. -/
def cutFirst? (sep : Char) : List Char → Option (List Char × List Char)
  | [] => none
  | c :: cs =>
    if c = sep then some ([], cs)
    else (cutFirst? sep cs).map fun (before, after) => (c :: before, after)

/-- The characters after the last occurrence of `sep`, if there is one. -/
def afterLast? (sep : Char) : List Char → Option (List Char)
  | [] => none
  | c :: cs => match afterLast? sep cs with
    | some after => some after
    | none => if c = sep then some cs else none

theorem cut_ne_nil (sep : Char) (cs : List Char) : cut sep cs ≠ [] := by
  cases cs with
  | nil => simp [cut]
  | cons c cs =>
    unfold cut
    split
    · simp
    · split <;> simp

theorem length_cut (sep : Char) (cs : List Char) : (cut sep cs).length = cs.count sep + 1 := by
  induction cs with
  | nil => rfl
  | cons c cs ih =>
    by_cases h : c = sep
    · simp [cut, h, ih]
    · obtain ⟨piece, pieces, hcut⟩ := List.exists_cons_of_ne_nil (cut_ne_nil sep cs)
      rw [hcut] at ih
      simp [cut, h, hcut, ← ih]

theorem intercalate_cut (sep : Char) (cs : List Char) : [sep].intercalate (cut sep cs) = cs := by
  induction cs with
  | nil => rfl
  | cons c cs ih =>
    obtain ⟨piece, pieces, hcut⟩ := List.exists_cons_of_ne_nil (cut_ne_nil sep cs)
    rw [hcut] at ih
    by_cases h : c = sep
    · rw [← ih, h]
      simp [cut, hcut, ih, List.intercalate_cons_cons]
    · cases pieces with
      | nil => simp_all [cut]
      | cons p ps =>
        rw [List.intercalate_cons_cons] at ih
        simp only [cut, h, hcut, ↓reduceIte, List.intercalate_cons_cons, List.cons_append, ih]

theorem sep_notMem_of_mem_cut {sep : Char} {cs piece : List Char} (h : piece ∈ cut sep cs) :
    sep ∉ piece := by
  induction cs generalizing piece with
  | nil => simp_all [cut]
  | cons c cs ih =>
    obtain ⟨first, pieces, hcut⟩ := List.exists_cons_of_ne_nil (cut_ne_nil sep cs)
    rw [hcut] at ih
    by_cases hc : c = sep
    · simp only [cut, hc, ↓reduceIte, hcut, List.mem_cons] at h
      rcases h with rfl | h
      · simp
      · exact ih (List.mem_cons.mpr h)
    · simp only [cut, hc, ↓reduceIte, hcut, List.mem_cons] at h
      rcases h with rfl | h
      · simp only [List.mem_cons, not_or]
        exact ⟨fun hs => hc hs.symm, ih List.mem_cons_self⟩
      · exact ih (List.mem_cons_of_mem _ h)

theorem cut_eq_singleton {sep : Char} {cs : List Char} (h : sep ∉ cs) : cut sep cs = [cs] := by
  induction cs with
  | nil => rfl
  | cons c cs ih =>
    simp only [List.mem_cons, not_or] at h
    simp only [cut, Ne.symm h.1, ↓reduceIte, ih h.2]

theorem cut_append_cons {sep : Char} {cs : List Char} (h : sep ∉ cs) (rest : List Char) :
    cut sep (cs ++ sep :: rest) = cs :: cut sep rest := by
  induction cs with
  | nil => simp [cut]
  | cons c cs ih =>
    simp only [List.mem_cons, not_or] at h
    simp only [List.cons_append, cut, Ne.symm h.1, ↓reduceIte, ih h.2]

theorem cut_intercalate {sep : Char} {pieces : List (List Char)} (hne : pieces ≠ [])
    (h : ∀ piece ∈ pieces, sep ∉ piece) : cut sep ([sep].intercalate pieces) = pieces := by
  induction pieces with
  | nil => exact absurd rfl hne
  | cons piece pieces ih =>
    cases pieces with
    | nil => simpa using cut_eq_singleton (h piece List.mem_cons_self)
    | cons next pieces =>
      have hrest := ih (List.cons_ne_nil _ _) fun p hp => h p (List.mem_cons_of_mem _ hp)
      rw [List.intercalate_cons_cons, List.append_assoc, List.singleton_append,
        cut_append_cons (h piece List.mem_cons_self), hrest]

theorem pieces_ne_nil (sep : Char) (s : String) : pieces sep s ≠ [] := by
  simpa [pieces] using cut_ne_nil sep s.toList

theorem intercalate_pieces (sep : Char) (s : String) :
    (String.singleton sep).intercalate (pieces sep s) = s := by
  rw [← String.toList_inj, String.toList_intercalate, pieces, List.map_map]
  simp [Function.comp_def, intercalate_cut]

theorem pieces_intercalate {sep : Char} {ss : List String} (hne : ss ≠ [])
    (h : ∀ s ∈ ss, sep ∉ s.toList) : pieces sep ((String.singleton sep).intercalate ss) = ss := by
  have hlists : ∀ piece ∈ ss.map String.toList, sep ∉ piece := by simpa using h
  rw [pieces, String.toList_intercalate, String.toList_singleton,
    cut_intercalate (by simpa using hne) hlists, List.map_map]
  simp [Function.comp_def]

theorem mem_of_mem_intercalate {sep : List Char} {pieces : List (List Char)} {c : Char}
    (h : c ∈ sep.intercalate pieces) : c ∈ sep ∨ ∃ piece ∈ pieces, c ∈ piece := by
  induction pieces with
  | nil => simp at h
  | cons piece pieces ih =>
    cases pieces with
    | nil => exact .inr ⟨piece, List.mem_cons_self, by simpa using h⟩
    | cons next pieces =>
      rw [List.intercalate_cons_cons, List.mem_append, List.mem_append] at h
      rcases h with (h | h) | h
      · exact .inr ⟨piece, List.mem_cons_self, h⟩
      · exact .inl h
      · rcases ih h with hsep | ⟨p, hp, hc⟩
        · exact .inl hsep
        · exact .inr ⟨p, List.mem_cons_of_mem _ hp, hc⟩

theorem cutFirst?_eq_some_iff {sep : Char} {cs before after : List Char} :
    cutFirst? sep cs = some (before, after) ↔ sep ∉ before ∧ cs = before ++ sep :: after := by
  induction cs generalizing before after with
  | nil => simp [cutFirst?]
  | cons c cs ih =>
    by_cases h : c = sep
    · subst h
      cases before with
      | nil => simp [cutFirst?]
      | cons b bs => simp +contextual [cutFirst?]
    · cases before with
      | nil => simp [cutFirst?, h]
      | cons b bs =>
        have hne : ¬ sep = c := fun hs => h hs.symm
        simp only [cutFirst?, h, ↓reduceIte, Option.map_eq_some_iff, Prod.exists, ih, Prod.mk.injEq,
          List.cons.injEq, List.cons_append, List.mem_cons, not_or]
        constructor
        · rintro ⟨x, y, ⟨hx, rfl⟩, ⟨rfl, rfl⟩, rfl⟩
          exact ⟨⟨hne, hx⟩, rfl, rfl⟩
        · rintro ⟨⟨_, hb⟩, rfl, rfl⟩
          exact ⟨bs, after, ⟨hb, rfl⟩, ⟨rfl, rfl⟩, rfl⟩

theorem afterLast?_eq_none_iff {sep : Char} {cs : List Char} :
    afterLast? sep cs = none ↔ sep ∉ cs := by
  induction cs with
  | nil => simp [afterLast?]
  | cons c cs ih =>
    cases h : afterLast? sep cs with
    | some after =>
      have : sep ∈ cs := by
        rw [h] at ih
        simpa using ih
      simp [afterLast?, h, this]
    | none =>
      have : sep ∉ cs := ih.mp h
      simp [afterLast?, h, this, eq_comm]

theorem afterLast?_eq_some_iff {sep : Char} {cs after : List Char} :
    afterLast? sep cs = some after ↔ sep ∉ after ∧ ∃ before, cs = before ++ sep :: after := by
  induction cs with
  | nil => simp [afterLast?]
  | cons c cs ih =>
    cases h : afterLast? sep cs with
    | some found =>
      rw [h] at ih
      simp only [afterLast?, h, ih]
      constructor
      · rintro ⟨hn, before, rfl⟩
        exact ⟨hn, c :: before, rfl⟩
      · rintro ⟨hn, before, hb⟩
        cases before with
        | nil =>
          obtain ⟨rfl, rfl⟩ := List.cons.inj hb
          rw [afterLast?_eq_none_iff.mpr hn] at h
          cases h
        | cons b bs => exact ⟨hn, bs, (List.cons.inj hb).2⟩
    | none =>
      have hcs := afterLast?_eq_none_iff.mp h
      simp only [afterLast?, h]
      constructor
      · intro hs
        split at hs
        · rename_i hc
          obtain rfl := Option.some.inj hs
          exact ⟨hcs, [], by rw [hc]; rfl⟩
        · cases hs
      · rintro ⟨hn, before, hb⟩
        cases before with
        | nil =>
          obtain ⟨rfl, rfl⟩ := List.cons.inj hb
          simp
        | cons b bs =>
          exact absurd (by rw [(List.cons.inj hb).2]; simp) hcs

end CodeMarkup.Text
