/-!
How much two texts have in common, and the texts that are close to a given one. The longest run of
characters that both texts have is matched, then the texts before it and those after it in the same
way; of runs of one length the one that starts first counts.
-/

namespace CodeMarkup.Text

/-- A run of characters that two texts share: where it starts in either of them, and its length. -/
structure SharedRun where
  first : Nat
  second : Nat
  length : Nat
  deriving DecidableEq, Repr

namespace SharedRun

/-- The number of characters that two texts share at their beginnings. -/
def lengthOfFront : List Char → List Char → Nat
  | a :: as, b :: bs => if a = b then lengthOfFront as bs + 1 else 0
  | _, _ => 0

/-- The first run if it is as long as the second one, and the second one otherwise. -/
def longer (r s : SharedRun) : SharedRun :=
  if r.length < s.length then s else r

/-- The runs that start at place `i` of the first text, where `as` is left of it, and at place `j`
of the second one or later. -/
def startingAt (i : Nat) (as : List Char) : (j : Nat) → List Char → List SharedRun
  | _, [] => []
  | j, b :: bs => ⟨i, j, lengthOfFront as (b :: bs)⟩ :: startingAt i as (j + 1) bs

/-- The runs that start at place `i` of the first text or later, and anywhere in the second one. -/
def startingFrom (bs : List Char) : (i : Nat) → List Char → List SharedRun
  | _, [] => []
  | i, a :: as => startingAt i (a :: as) 0 bs ++ startingFrom bs (i + 1) as

/-- The longest run that two texts share; it is empty if they share no character. -/
def longest (as bs : List Char) : SharedRun :=
  (startingFrom bs 0 as).foldl longer ⟨0, 0, 0⟩

theorem lengthOfFront_le (as bs : List Char) : lengthOfFront as bs ≤ as.length := by
  fun_induction lengthOfFront as bs with
  | case1 a as bs ih => exact Nat.succ_le_succ ih
  | case2 => exact Nat.zero_le _
  | case3 => exact Nat.zero_le _

theorem foldl_longer_mem (r : SharedRun) (rs : List SharedRun) :
    rs.foldl longer r = r ∨ rs.foldl longer r ∈ rs := by
  induction rs generalizing r with
  | nil => exact .inl rfl
  | cons s rs ih =>
    rw [List.foldl_cons]
    rcases ih (longer r s) with h | h
    · rw [h, longer]
      split
      · exact .inr List.mem_cons_self
      · exact .inl rfl
    · exact .inr (List.mem_cons_of_mem _ h)

theorem le_of_mem_startingAt {i j : Nat} {as bs : List Char} {r : SharedRun}
    (h : r ∈ startingAt i as j bs) : r.first + r.length ≤ i + as.length := by
  induction bs generalizing j with
  | nil => cases h
  | cons b bs ih =>
    rcases List.mem_cons.mp h with rfl | h
    · exact Nat.add_le_add_left (lengthOfFront_le as (b :: bs)) i
    · exact ih h

theorem le_of_mem_startingFrom {bs as : List Char} {i : Nat} {r : SharedRun}
    (h : r ∈ startingFrom bs i as) : r.first + r.length ≤ i + as.length := by
  induction as generalizing i with
  | nil => cases h
  | cons a as ih =>
    rcases List.mem_append.mp h with h | h
    · exact le_of_mem_startingAt h
    · have := ih h
      rw [List.length_cons]
      omega

/-- The longest run lies within the first text. -/
theorem longest_le (as bs : List Char) :
    (longest as bs).first + (longest as bs).length ≤ as.length := by
  unfold longest
  rcases foldl_longer_mem ⟨0, 0, 0⟩ (startingFrom bs 0 as) with h | h
  · rw [h]
    exact Nat.zero_le _
  · simpa using le_of_mem_startingFrom h

end SharedRun

/-- The number of characters that two texts share in runs. -/
def sharedCount (as bs : List Char) : Nat :=
  let run := SharedRun.longest as bs
  if _h : run.length = 0 then 0
  else
    sharedCount (as.take run.first) (bs.take run.second) + run.length +
      sharedCount (as.drop (run.first + run.length)) (bs.drop (run.second + run.length))
termination_by as.length
decreasing_by
  all_goals
    have hle : run.first + run.length ≤ as.length := SharedRun.longest_le as bs
    rw [show SharedRun.longest as bs = run from rfl]
    simp only [List.length_take, List.length_drop]
    omega

/-- A text beside another one: the number of characters that they share, and their common length. -/
structure Likeness where
  text : String
  shared : Nat
  size : Nat
  deriving DecidableEq, Repr

namespace Likeness

/-- A candidate beside a word. -/
def of (word candidate : String) : Likeness :=
  ⟨candidate, sharedCount candidate.toList word.toList, candidate.length + word.length⟩

/-- Whether at least three fifths of the characters are shared. -/
def isClose (l : Likeness) : Bool :=
  3 * l.size ≤ 10 * l.shared

/-- Whether one candidate comes before another one: the one of which more is shared, and of two with
the same share the one with the later text. -/
def precedes (l m : Likeness) : Bool :=
  m.shared * l.size < l.shared * m.size ||
    (m.shared * l.size == l.shared * m.size && m.text < l.text)

end Likeness

/-- The candidates closest to a word, at most `limit` of them, in the order of their texts. -/
def closeTexts (limit : Nat) (word : String) (candidates : List String) : List String :=
  let close := (candidates.map (Likeness.of word)).filter Likeness.isClose
  let closest := (close.mergeSort fun l m => !m.precedes l).take limit
  (closest.map Likeness.text).mergeSort fun s t => !(t < s : Bool)

end CodeMarkup.Text
