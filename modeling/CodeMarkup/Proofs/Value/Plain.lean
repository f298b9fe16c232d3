import CodeMarkup.Value

/-!
Values as plain text. The empty text is the plain text of no other value, so that a value which is
present is never written as nothing.
-/

namespace CodeMarkup

theorem toString_int_ne_empty (n : Int) : toString n ≠ "" := by
  rw [Int.toString_eq_repr, Int.repr_eq_if]
  split
  · exact Nat.repr_ne_empty
  · simp

namespace Value

theorem placePoint_ne_nil (digits : List Char) (point : Int) : placePoint digits point ≠ [] := by
  unfold placePoint
  split
  · simp
  · split <;> simp [exponentText]

theorem floatText_ne_empty (x : Float) : floatText x ≠ "" := by
  unfold floatText
  split
  · decide
  · split <;> decide
  · next negative m e _ =>
    have hdigits : (if m = 0 then ['0', '.', '0']
        else placePoint (Decimal.shortestDigits m e).1 (Decimal.shortestDigits m e).2) ≠ [] := by
      split
      · simp
      · exact placePoint_ne_nil _ _
    cases negative with
    | true => simp
    | false => simpa using hdigits

theorem quoted_ne_empty {v : Value} (h : ∀ s, v ≠ .text s) : v.quoted ≠ "" := by
  cases v with
  | null => decide
  | bool b => cases b <;> decide
  | int i => exact toString_int_ne_empty i
  | float x => exact floatText_ne_empty x
  | text s => exact absurd rfl (h s)
  | list items => simp [quoted]
  | record fields => simp [quoted]

theorem plain_ne_empty {v : Value} (h : v.isPresent = true) : v.plain ≠ "" := by
  cases v with
  | text s => simpa [isPresent, plain] using h
  | null | bool | int | float | list | record => exact quoted_ne_empty nofun

end Value

end CodeMarkup
