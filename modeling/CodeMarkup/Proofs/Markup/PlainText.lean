import CodeMarkup.Escape

/-!
The plain text of markup: what is left of it once its tags are deleted and its entities decoded.
Neither step looks into what the other one removes, and text that was escaped comes back as it was,
whatever follows it.
-/

namespace CodeMarkup.Markup

mutual

/-- Deletes every tag, which goes from a `<` to the next `>`. A `<` with no `>` after it stays. -/
def deleteTags : List Char → List Char
  | [] => []
  | c :: cs =>
    if c = '<' then
      match afterTag? cs with
      | some rest => rest
      | none => c :: deleteTags cs
    else c :: deleteTags cs

/-- What is left after the end of a tag, if it ends. -/
def afterTag? : List Char → Option (List Char)
  | [] => none
  | c :: cs => if c = '>' then some (deleteTags cs) else afterTag? cs

end

/-- Decodes entities in one pass from left to right. An ampersand that starts none stays. -/
def decode : List Char → List Char
  | '&' :: 'a' :: 'm' :: 'p' :: ';' :: cs => '&' :: decode cs
  | '&' :: 'l' :: 't' :: ';' :: cs => '<' :: decode cs
  | '&' :: 'g' :: 't' :: ';' :: cs => '>' :: decode cs
  | '&' :: 'q' :: 'u' :: 'o' :: 't' :: ';' :: cs => '"' :: decode cs
  | '&' :: '#' :: 'x' :: '2' :: '7' :: ';' :: cs => '\'' :: decode cs
  | c :: cs => c :: decode cs
  | [] => []

/-- The text of markup without its tags and with its entities decoded. -/
def plainText (markup : String) : String :=
  String.ofList (decode (deleteTags markup.toList))

theorem deleteTags_of_notMem {cs : List Char} (h : '<' ∉ cs) : deleteTags cs = cs := by
  induction cs with
  | nil => rfl
  | cons c cs ih =>
    simp only [List.mem_cons, not_or] at h
    rw [deleteTags, if_neg (Ne.symm h.1), ih h.2]

theorem decode_cons {c : Char} (h : c ≠ '&') (cs : List Char) :
    decode (c :: cs) = c :: decode cs := by
  rw [decode.eq_def]
  split <;> simp_all

theorem decode_append {cs : List Char} (h : '&' ∉ cs) (rest : List Char) :
    decode (cs ++ rest) = cs ++ decode rest := by
  induction cs with
  | nil => rfl
  | cons c cs ih =>
    simp only [List.mem_cons, not_or] at h
    rw [List.cons_append, decode_cons (Ne.symm h.1), ih h.2, List.cons_append]

theorem decode_eq_self {cs : List Char} (h : '&' ∉ cs) : decode cs = cs := by
  simpa [decode] using decode_append h []

/-- No entity stands for an escape character. -/
theorem count_decode_le (cs : List Char) : (decode cs).count '\x1b' ≤ cs.count '\x1b' := by
  fun_induction decode cs <;> simp_all [List.count_cons]

theorem decode_escapeChar (quotes : Bool) (c : Char) (rest : List Char) :
    decode (escapeChar quotes c ++ rest) = c :: decode rest := by
  unfold escapeChar
  split
  · next h => subst h; rfl
  split
  · next h => subst h; rfl
  split
  · next h => subst h; rfl
  split
  · next h => obtain ⟨-, rfl⟩ := h; rfl
  split
  · next h => obtain ⟨-, rfl⟩ := h; rfl
  · next h _ _ _ _ => exact decode_cons h rest

theorem decode_escapeChars (quotes : Bool) (cs rest : List Char) :
    decode (escapeChars quotes cs ++ rest) = cs ++ decode rest := by
  induction cs with
  | nil => rfl
  | cons c cs ih =>
    rw [escapeChars_cons, List.append_assoc, decode_escapeChar, ih, List.cons_append]

end CodeMarkup.Markup
