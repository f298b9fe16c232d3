/-!
Control sequences of terminals, which set colors or move the cursor, and texts without them. A
sequence starts with an escape character and an opening bracket; parameters and intermediate
characters may follow, and one final character ends it. A beginning that is not ended in this way is
ordinary text.
-/

namespace CodeMarkup.Text

namespace ControlSequence

/-- Whether a character may stand among the parameters of a sequence. -/
def isParameter (c : Char) : Bool :=
  '0' ≤ c && c ≤ '?'

/-- Whether a character may stand between the parameters and the end of a sequence. -/
def isIntermediate (c : Char) : Bool :=
  ' ' ≤ c && c ≤ '/'

def isFinal (c : Char) : Bool :=
  '@' ≤ c && c ≤ '~'

/-- The number of characters of the sequence in front, if there is one. -/
def length? : List Char → Option Nat
  | '\x1b' :: '[' :: cs =>
    let parameters := cs.takeWhile isParameter
    let rest := cs.drop parameters.length
    let intermediates := rest.takeWhile isIntermediate
    match rest.drop intermediates.length with
    | c :: _ => if isFinal c then some (parameters.length + intermediates.length + 3) else none
    | [] => none
  | _ => none

/-- What is left of the characters after the first `skip` ones once their sequences are removed. -/
def removeAfter : (skip : Nat) → List Char → List Char
  | _, [] => []
  | skip + 1, _ :: cs => removeAfter skip cs
  | 0, c :: cs => match length? (c :: cs) with
    | some n => removeAfter (n - 1) cs
    | none => c :: removeAfter 0 cs

theorem length?_eq_none {c : Char} {cs : List Char} (h : c ≠ '\x1b') :
    length? (c :: cs) = none := by
  unfold length?
  split
  · rename_i heq
    exact absurd (List.cons.inj heq).1 h
  · rfl

theorem removeAfter_of_notMem {cs : List Char} (h : '\x1b' ∉ cs) : removeAfter 0 cs = cs := by
  induction cs with
  | nil => rfl
  | cons c cs ih =>
    rw [List.mem_cons, not_or] at h
    simp only [removeAfter, length?_eq_none (Ne.symm h.1), ih h.2]

theorem removeAfter_sublist (skip : Nat) (cs : List Char) : (removeAfter skip cs).Sublist cs := by
  induction cs generalizing skip with
  | nil => cases skip <;> exact List.Sublist.slnil
  | cons c cs ih =>
    cases skip with
    | succ skip => exact (ih skip).cons c
    | zero =>
      unfold removeAfter
      split
      · exact (ih _).cons c
      · exact (ih 0).cons_cons c

end ControlSequence

def withoutControls (s : String) : String :=
  String.ofList (ControlSequence.removeAfter 0 s.toList)

theorem withoutControls_of_notMem {s : String} (h : '\x1b' ∉ s.toList) : withoutControls s = s := by
  rw [withoutControls, ControlSequence.removeAfter_of_notMem h, String.ofList_toList]

end CodeMarkup.Text
