import CodeMarkup.Escape
import CodeMarkup.Proofs.Text.ControlSequence
import CodeMarkup.Text.Pieces

/-!
Texts line by line. What is done to a text without regard to its line feeds is done to each of its
lines: no line feed is escaped, and no control sequence goes on after one.
-/

namespace CodeMarkup.Text

/-! ### Pieces between separators -/

section

variable {sep : Char}

theorem cut_append_sep (cs rest : List Char) :
    cut sep (cs ++ sep :: rest) = cut sep cs ++ cut sep rest := by
  induction cs with
  | nil => simp [cut]
  | cons c cs ih =>
    obtain ⟨piece, pieces, hcut⟩ := List.exists_cons_of_ne_nil (cut_ne_nil sep cs)
    rw [hcut] at ih
    by_cases h : c = sep
    · simp [cut, h, ih, hcut]
    · simp [cut, h, ih, hcut]

theorem cut_replicate_append (m : Nat) (cs : List Char) :
    cut sep (List.replicate m sep ++ cs) = List.replicate m [] ++ cut sep cs := by
  induction m with
  | zero => rfl
  | succ m ih => simp [List.replicate_succ, cut, ih]

theorem cut_append_replicate (cs : List Char) (m : Nat) :
    cut sep (cs ++ List.replicate m sep) = cut sep cs ++ List.replicate m [] := by
  cases m with
  | zero => simp
  | succ m =>
    have hrest : cut sep (List.replicate m sep) = List.replicate (m + 1) [] := by
      have h : cut sep (List.replicate m sep ++ []) = List.replicate m [] ++ cut sep [] :=
        cut_replicate_append m []
      rw [List.append_nil] at h
      rw [h, List.replicate_succ']
      rfl
    rw [List.replicate_succ, cut_append_sep, hrest]

theorem head?_cut_eq_nil_iff {cs : List Char} :
    (cut sep cs).head? = some [] ↔ cs = [] ∨ cs.head? = some sep := by
  cases cs with
  | nil => simp [cut]
  | cons c cs =>
    obtain ⟨piece, pieces, hcut⟩ := List.exists_cons_of_ne_nil (cut_ne_nil sep cs)
    by_cases h : c = sep <;> simp [cut, h, hcut]

/-- What is done to joined pieces piece by piece is done to the pieces of every list. -/
theorem cut_map {f : List Char → List Char}
    (hf : ∀ pieces, f ([sep].intercalate pieces) = [sep].intercalate (pieces.map f))
    (hsep : ∀ piece, sep ∉ piece → sep ∉ f piece) (cs : List Char) :
    cut sep (f cs) = (cut sep cs).map f := by
  have hne : (cut sep cs).map f ≠ [] := by simp [cut_ne_nil]
  have hpieces : ∀ piece ∈ (cut sep cs).map f, sep ∉ piece := by
    intro piece hpiece
    obtain ⟨p, hp, rfl⟩ := List.mem_map.mp hpiece
    exact hsep p (sep_notMem_of_mem_cut hp)
  rw [← cut_intercalate hne hpieces, ← hf, intercalate_cut]

/-- What keeps the pieces of characters apart keeps the pieces of texts apart. -/
theorem pieces_map {f : List Char → List Char} (hf : ∀ cs, cut sep (f cs) = (cut sep cs).map f)
    (s : String) :
    pieces sep (String.ofList (f s.toList)) =
      (pieces sep s).map fun piece => String.ofList (f piece.toList) := by
  rw [pieces, pieces, String.toList_ofList, hf, List.map_map, List.map_map]
  simp only [Function.comp_def, String.toList_ofList]

end

/-! ### Escaped lines -/

theorem escapeChar_newline (quotes : Bool) : escapeChar quotes '\n' = ['\n'] := by
  cases quotes <;> rfl

theorem count_eq_zero_of_printable {d : Char} (hd : d < ' ') {cs : List Char}
    (h : cs.all (' ' ≤ ·) = true) : cs.count d = 0 := by
  refine List.count_eq_zero.mpr fun hmem => ?_
  have hle : ' ' ≤ d := by simpa using List.all_eq_true.mp h d hmem
  exact absurd hd (Char.not_lt.mpr hle)

/-- An escape neither adds nor removes a character that is not printed. -/
theorem count_escapeChars {quotes : Bool} {d : Char} (hd : d < ' ') (cs : List Char) :
    (escapeChars quotes cs).count d = cs.count d := by
  have hchar (c : Char) : (escapeChar quotes c).count d = [c].count d := by
    have hzero {cs : List Char} : cs.all (' ' ≤ ·) = true → cs.count d = 0 :=
      count_eq_zero_of_printable hd
    unfold escapeChar
    split
    · next h => rw [h, hzero rfl, hzero rfl]
    split
    · next h => rw [h, hzero rfl, hzero rfl]
    split
    · next h => rw [h, hzero rfl, hzero rfl]
    split
    · next h => rw [h.2, hzero rfl, hzero rfl]
    split
    · next h => rw [h.2, hzero rfl, hzero rfl]
    · rfl
  induction cs with
  | nil => rfl
  | cons c cs ih =>
    rw [escapeChars_cons, List.count_append, ih, hchar, ← List.count_append]
    rfl

theorem newline_notMem_escapeChars {quotes : Bool} {cs : List Char} (h : '\n' ∉ cs) :
    '\n' ∉ escapeChars quotes cs := by
  rw [← List.count_eq_zero] at h ⊢
  rw [count_escapeChars (by decide), h]

theorem escapeChars_intercalate (quotes : Bool) (pieces : List (List Char)) :
    escapeChars quotes (['\n'].intercalate pieces) =
      ['\n'].intercalate (pieces.map (escapeChars quotes)) := by
  induction pieces with
  | nil => rfl
  | cons piece pieces ih =>
    cases pieces with
    | nil => simp
    | cons next pieces =>
      rw [List.map_cons, List.map_cons] at *
      rw [List.intercalate_cons_cons, List.intercalate_cons_cons, escapeChars_append,
        escapeChars_append, ih, escapeChars_cons, escapeChar_newline]
      rfl

theorem cut_escapeChars (quotes : Bool) (cs : List Char) :
    cut '\n' (escapeChars quotes cs) = (cut '\n' cs).map (escapeChars quotes) :=
  cut_map (escapeChars_intercalate quotes) (fun _ => newline_notMem_escapeChars) cs

/-! ### Lines without control sequences -/

namespace ControlSequence

theorem removeAfter_intercalate (pieces : List (List Char)) :
    removeAfter 0 (['\n'].intercalate pieces) =
      ['\n'].intercalate (pieces.map (removeAfter 0)) := by
  induction pieces with
  | nil => rfl
  | cons piece pieces ih =>
    cases pieces with
    | nil => simp
    | cons next pieces =>
      rw [List.map_cons, List.map_cons] at *
      rw [List.intercalate_cons_cons, List.intercalate_cons_cons, List.append_assoc,
        List.append_assoc, List.singleton_append, removeAfter_append_newline (Nat.zero_le _), ih]
      rfl

theorem cut_removeAfter (cs : List Char) :
    cut '\n' (removeAfter 0 cs) = (cut '\n' cs).map (removeAfter 0) :=
  cut_map removeAfter_intercalate
    (fun piece h hmem => h ((removeAfter_sublist 0 piece).subset hmem)) cs

end ControlSequence

theorem pieces_withoutControls (s : String) :
    pieces '\n' (withoutControls s) = (pieces '\n' s).map withoutControls :=
  pieces_map ControlSequence.cut_removeAfter s

end CodeMarkup.Text
