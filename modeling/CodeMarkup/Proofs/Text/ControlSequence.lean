import CodeMarkup.Text.ControlSequence

/-!
What is lost with control sequences. A text stays as it is exactly if no sequence starts in it. What
is left of a text is part of it, so joined texts come out whole only if each of them does.
-/

namespace CodeMarkup.Text

/-- Whether a control sequence starts somewhere in a text. -/
def HasControls (s : String) : Prop :=
  ∃ tail, tail <:+ s.toList ∧ (ControlSequence.length? tail).isSome

theorem ControlSequence.removeAfter_eq_self_iff {cs : List Char} :
    removeAfter 0 cs = cs ↔ ∀ tail, tail <:+ cs → length? tail = none := by
  induction cs with
  | nil =>
    refine ⟨fun _ tail htail => ?_, fun _ => rfl⟩
    obtain rfl := List.suffix_nil.mp htail
    rfl
  | cons c cs ih =>
    rw [removeAfter]
    cases hlength : length? (c :: cs) with
    | some n =>
      constructor
      · intro h
        -- A character is gone for good: what follows cannot bring it back.
        have hshort := (removeAfter_sublist (n - 1) cs).length_le
        have hwhole : (removeAfter (n - 1) cs).length = cs.length + 1 := congrArg List.length h
        omega
      · intro h
        rw [h _ List.suffix_rfl] at hlength
        cases hlength
    | none =>
      rw [List.cons_inj_right, ih]
      constructor
      · intro h tail htail
        rcases List.suffix_cons_iff.mp htail with rfl | htail
        · exact hlength
        · exact h tail htail
      · intro h tail htail
        exact h tail (List.suffix_cons_iff.mpr (.inr htail))

/-! ### Line feeds -/

theorem ControlSequence.takeWhile_append_cons {p : Char → Bool} {c : Char} (hc : p c = false)
    (cs rest : List Char) : (cs ++ c :: rest).takeWhile p = cs.takeWhile p := by
  induction cs with
  | nil => simp [hc]
  | cons d cs ih => simp only [List.cons_append, List.takeWhile_cons, ih]

/-- A sequence starts with an escape character and a bracket. -/
theorem ControlSequence.eq_cons_of_length? {cs : List Char} {n : Nat} (h : length? cs = some n) :
    ∃ tail, cs = '\x1b' :: '[' :: tail := by
  unfold length? at h
  split at h
  · exact ⟨_, rfl⟩
  · cases h

theorem ControlSequence.length?_le {cs : List Char} {n : Nat} (h : length? cs = some n) :
    n ≤ cs.length := by
  obtain ⟨tail, rfl⟩ := eq_cons_of_length? h
  simp only [length?] at h
  split at h
  · next c after hafter =>
    have hlength := congrArg List.length hafter
    rw [List.length_drop, List.length_drop, List.length_cons] at hlength
    split at h
    · cases h
      simp only [List.length_cons]
      omega
    · cases h
  · cases h

/-- A sequence that is not ended in front of a line feed is none. -/
theorem ControlSequence.length?_append_newline {cs : List Char} (h : cs ≠ []) (rest : List Char) :
    length? (cs ++ '\n' :: rest) = length? cs := by
  by_cases hstart : ∃ tail, cs = '\x1b' :: '[' :: tail
  · obtain ⟨tail, rfl⟩ := hstart
    have hparameter : isParameter '\n' = false := rfl
    have hintermediate : isIntermediate '\n' = false := rfl
    have hparameters := (List.takeWhile_prefix isParameter (l := tail)).length_le
    simp only [List.cons_append, length?, takeWhile_append_cons hparameter,
      List.drop_append_of_le_length hparameters]
    generalize tail.drop (tail.takeWhile isParameter).length = after
    have hintermediates := (List.takeWhile_prefix isIntermediate (l := after)).length_le
    simp only [takeWhile_append_cons hintermediate,
      List.drop_append_of_le_length hintermediates]
    cases after.drop (after.takeWhile isIntermediate).length <;> rfl
  · have hnone : length? cs = none :=
      Option.eq_none_iff_forall_ne_some.mpr fun n hn => hstart (eq_cons_of_length? hn)
    rw [hnone]
    refine Option.eq_none_iff_forall_ne_some.mpr fun n hn => hstart ?_
    obtain ⟨tail, htail⟩ := eq_cons_of_length? hn
    match cs, h with
    | [c], _ => simp at htail
    | c :: d :: cs, _ =>
      obtain ⟨hc, hrest⟩ := List.cons.inj htail
      obtain ⟨hd, -⟩ := List.cons.inj hrest
      exact ⟨cs, by rw [hc, hd]⟩

theorem ControlSequence.removeAfter_append_newline {skip : Nat} {cs : List Char}
    (h : skip ≤ cs.length) (rest : List Char) :
    removeAfter skip (cs ++ '\n' :: rest) =
      removeAfter skip cs ++ '\n' :: removeAfter 0 rest := by
  induction cs generalizing skip with
  | nil =>
    obtain rfl := Nat.le_zero.mp h
    simp only [List.nil_append, removeAfter, length?_eq_none (c := '\n') (by decide)]
  | cons c cs ih =>
    cases skip with
    | succ skip => exact ih (Nat.le_of_succ_le_succ h)
    | zero =>
      have hlength := length?_append_newline (List.cons_ne_nil c cs) rest
      rw [List.cons_append] at hlength ⊢
      rw [removeAfter, removeAfter, hlength]
      cases hn : length? (c :: cs) with
      | none => exact congrArg (c :: ·) (ih (Nat.zero_le _))
      | some n =>
        have hle := length?_le hn
        rw [List.length_cons] at hle
        exact ih (by omega)

/-! ### What is lost -/

/-- With every sequence an escape character is lost. -/
theorem ControlSequence.count_removeAfter_lt {cs : List Char} (h : removeAfter 0 cs ≠ cs) :
    (removeAfter 0 cs).count '\x1b' < cs.count '\x1b' := by
  induction cs with
  | nil => exact absurd rfl h
  | cons c cs ih =>
    rw [removeAfter] at h ⊢
    cases hn : length? (c :: cs) with
    | some n =>
      obtain ⟨tail, htail⟩ := eq_cons_of_length? hn
      obtain ⟨rfl, -⟩ := List.cons.inj htail
      have hcount := (removeAfter_sublist (n - 1) cs).count_le '\x1b'
      rw [List.count_cons_self]
      exact Nat.lt_succ_of_le hcount
    | none =>
      have hrest : removeAfter 0 cs ≠ cs := by
        rintro heq
        rw [hn, heq] at h
        exact h rfl
      have hcount := ih hrest
      simp only [List.count_cons]
      omega

theorem withoutControls_eq_self_iff {s : String} : withoutControls s = s ↔ ¬ HasControls s := by
  have hchars : withoutControls s = s ↔ ControlSequence.removeAfter 0 s.toList = s.toList := by
    rw [← String.toList_inj, withoutControls, String.toList_ofList]
  rw [hchars, ControlSequence.removeAfter_eq_self_iff]
  simp [HasControls]

theorem withoutControls_sublist (s : String) : (withoutControls s).toList.Sublist s.toList := by
  rw [withoutControls, String.toList_ofList]
  exact ControlSequence.removeAfter_sublist 0 s.toList

theorem join_withoutControls_sublist (chunks : List String) :
    (String.join (chunks.map withoutControls)).toList.Sublist (String.join chunks).toList := by
  induction chunks with
  | nil => exact List.Sublist.refl _
  | cons chunk chunks ih =>
    rw [List.map_cons, String.join_cons, String.join_cons, String.toList_append,
      String.toList_append]
    exact (withoutControls_sublist chunk).append ih

theorem join_withoutControls_eq_iff {chunks : List String} :
    String.join (chunks.map withoutControls) = String.join chunks ↔
      ∀ chunk ∈ chunks, ¬ HasControls chunk := by
  constructor
  · intro h
    induction chunks with
    | nil => simp
    | cons chunk chunks ih =>
      rw [List.map_cons, String.join_cons, String.join_cons] at h
      have hlength : (withoutControls chunk).toList.length +
          (String.join (chunks.map withoutControls)).toList.length =
            chunk.toList.length + (String.join chunks).toList.length := by
        rw [← List.length_append, ← List.length_append, ← String.toList_append,
          ← String.toList_append, h]
      -- Neither part can make up for characters that the other one loses.
      have hfirst := (withoutControls_sublist chunk).length_le
      have hrest := (join_withoutControls_sublist chunks).length_le
      have hchunk : withoutControls chunk = chunk :=
        String.toList_inj.mp ((withoutControls_sublist chunk).eq_of_length (by omega))
      have hchunks : String.join (chunks.map withoutControls) = String.join chunks :=
        String.toList_inj.mp ((join_withoutControls_sublist chunks).eq_of_length (by omega))
      exact List.forall_mem_cons.mpr ⟨withoutControls_eq_self_iff.mp hchunk, ih hchunks⟩
  · intro h
    have hchunks : ∀ chunk ∈ chunks, withoutControls chunk = chunk := fun chunk hchunk =>
      withoutControls_eq_self_iff.mpr (h chunk hchunk)
    rw [List.map_congr_left hchunks, List.map_id']

end CodeMarkup.Text
