import CodeMarkup.Command.Workspace

/-!
Files that are written. What steps lead to depends on the directories and on the files along the
way, and writing changes neither, so a path that leads to where a file is or can be made leads to
the file once it has been written, with the bytes that were written.
-/

namespace CodeMarkup

/-- Where a file is or can be made. -/
def Place.spot? : Place → Option (List String)
  | .file spot _ => some spot
  | .free spot => some spot
  | _ => none

namespace Workspace

/-- The workspace with the bytes of the file at a spot put in place of those it may have. -/
def put (w : Workspace) (spot : List String) (bytes : List UInt8) : Workspace :=
  { w with files := w.files.put spot bytes }

theorem write_eq_ok_iff {w w' : Workspace} {p : Path} {bytes : List UInt8} :
    w.write p bytes = .ok w' ↔ ∃ spot, (w.place p).spot? = some spot ∧ w' = w.put spot bytes := by
  unfold write
  cases w.place p <;> simp [Place.spot?, put, eq_comm]

/-- Steps lead to a file that has just been written where they led to its spot. -/
theorem walk_put {w : Workspace} {spot here steps : List String} (bytes : List UInt8)
    (h : (w.walk here steps).spot? = some spot) :
    (w.put spot bytes).walk here steps = .file spot bytes := by
  induction steps generalizing here with
  | nil => cases h
  | cons step steps ih =>
    have hdirectory : (w.put spot bytes).isDirectoryAt (next here step) =
        w.isDirectoryAt (next here step) := rfl
    have hfile : (w.put spot bytes).files.get? (next here step) =
        if spot = next here step then some bytes else w.files.get? (next here step) :=
      w.files.get?_put spot _ bytes
    rw [walk] at h ⊢
    simp only [hdirectory, hfile]
    by_cases hlong : nameLimit < step.utf8ByteSize
    · rw [if_pos hlong] at h
      cases h
    by_cases hthere : w.isDirectoryAt (next here step) = true
    · rw [if_neg hlong, if_pos hthere] at h ⊢
      exact ih h
    -- Steps go through directories alone, so there are no more of them after a file.
    · rw [if_neg hlong, if_neg hthere] at h ⊢
      cases steps with
      | nil =>
        have hspot : next here step = spot := by
          cases hget : w.files.get? (next here step) <;> simpa [hget, Place.spot?] using h
        simp [hspot]
      | cons step steps =>
        cases hget : w.files.get? (next here _) <;> simp [hget, Place.spot?] at h

theorem read_write {w w' : Workspace} {p : Path} {bytes : List UInt8}
    (h : w.write p bytes = .ok w') : w'.read p = .ok bytes := by
  obtain ⟨spot, hspot, rfl⟩ := write_eq_ok_iff.mp h
  unfold place at hspot
  split at hspot
  · cases hspot
  · next hshort =>
    rw [read, place, if_neg hshort, walk_put bytes hspot]

end Workspace

end CodeMarkup
