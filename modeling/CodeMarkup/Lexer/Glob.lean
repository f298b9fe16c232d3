import CodeMarkup.Text.Pieces

/-!
Globs: patterns for file names, in which a star stands for any characters, a question mark for one,
and a set in brackets for one of its members. A glob matches whole names, and case counts. What a
glob matches is said by `matchParts`; `search` finds it out in one pass over the name for each part,
however many stars there are.
-/

namespace CodeMarkup

namespace Glob

/-- A member of a set: one character, or all from one to another. -/
inductive Member where
  | char (c : Char)
  | range (first last : Char)
  deriving DecidableEq, Repr

inductive Part where
  | star
  | any
  | char (c : Char)
  | set (negated : Bool) (members : List Member)
  deriving DecidableEq, Repr

/-- The text of a set and what follows its closing bracket. A closing bracket that comes first, or
after the mark of negation, belongs to the set. -/
def cutSet? (cs : List Char) : Option (List Char × List Char) :=
  let bang := match cs with
    | '!' :: _ => ['!']
    | _ => []
  let bracket := match cs.drop bang.length with
    | ']' :: _ => [']']
    | _ => []
  (Text.cutFirst? ']' (cs.drop (bang.length + bracket.length))).map fun (inside, after) =>
    (bang ++ bracket ++ inside, after)

/-- Cuts the text of a set at the hyphens that make ranges. The first `skip` characters are no such
hyphens, nor are the two characters after one. -/
def cutRanges : Nat → List Char → List (List Char)
  | _, [] => [[]]
  | 0, '-' :: cs => [] :: cutRanges 2 cs
  | skip, c :: cs => match cutRanges (skip - 1) cs with
    | chunk :: chunks => (c :: chunk) :: chunks
    | [] => [[c]]

/-- A hyphen at the end of a set is an ordinary character. -/
def closeRanges : List (List Char) → List (List Char)
  | [chunk, []] => [chunk ++ ['-']]
  | chunk :: chunks => chunk :: closeRanges chunks
  | [] => []

/-- Drops the ranges that hold nothing, from the last to the first: the chunks on either side lose
the ends of the range and become one. -/
def dropEmptyRanges : List (List Char) → List (List Char)
  | [] => []
  | chunk :: chunks => match dropEmptyRanges chunks with
    | [] => [chunk]
    | after :: rest => match chunk.getLast?, after with
      | some first, last :: tail =>
        if last < first then (chunk.dropLast ++ tail) :: rest else chunk :: after :: rest
      | _, _ => chunk :: after :: rest

/-- The characters of a set, and `none` for each hyphen that makes a range. -/
def setTokens : List (List Char) → List (Option Char)
  | [] => []
  | [chunk] => chunk.map some
  | chunk :: chunks => chunk.map some ++ none :: setTokens chunks

def membersOf : List (Option Char) → List Member
  | [] => []
  | some a :: none :: some b :: ts => .range a b :: membersOf ts
  | some a :: ts => .char a :: membersOf ts
  | none :: ts => .char '-' :: membersOf ts

def Part.ofSet (cs : List Char) : Part :=
  -- A hyphen makes no range if it comes first or directly after the mark of negation.
  let skip := if cs.head? = some '!' then 2 else 1
  match setTokens (dropEmptyRanges (closeRanges (cutRanges skip cs))) with
  | some '!' :: ts => .set true (membersOf ts)
  | ts => .set false (membersOf ts)

/-- The parts of a glob; `fuel` bounds their number. A bracket that is not closed is an ordinary
character. -/
def partsWith : Nat → List Char → List Part
  | 0, _ => []
  | _, [] => []
  | fuel + 1, '*' :: cs => .star :: partsWith fuel cs
  | fuel + 1, '?' :: cs => .any :: partsWith fuel cs
  | fuel + 1, '[' :: cs => match cutSet? cs with
    | some (body, after) => .ofSet body :: partsWith fuel after
    | none => .char '[' :: partsWith fuel cs
  | fuel + 1, c :: cs => .char c :: partsWith fuel cs

def parts (cs : List Char) : List Part :=
  partsWith cs.length cs

def Member.holds (c : Char) : Member → Bool
  | char a => c = a
  | range a b => a ≤ c && c ≤ b

/-- Whether a part that stands for one character stands for `c`. -/
def Part.holds (c : Char) : Part → Bool
  | star => false
  | any => true
  | char a => c = a
  | set negated members => members.any (·.holds c) != negated

/-- The ends of a list, from the whole list to the empty one. -/
def ends : List Char → List (List Char)
  | [] => [[]]
  | c :: cs => (c :: cs) :: ends cs

/-- Whether parts match the whole of a name. -/
def matchParts : List Part → List Char → Bool
  | [], cs => cs.isEmpty
  | .star :: ps, cs => (ends cs).any (matchParts ps)
  | _ :: _, [] => false
  | p :: ps, c :: cs => p.holds c && matchParts ps cs

/-- For each place in a list, whether there is a true entry there or later. -/
def laterTrue : List Bool → List Bool
  | [] => []
  | b :: bs =>
    let later := laterTrue bs
    (b || later.headD false) :: later

/-- For each end of a name, whether parts match it. -/
def row (cs : List Char) : List Part → List Bool
  | [] => cs.map (fun _ => false) ++ [true]
  | .star :: ps => laterTrue (row cs ps)
  | p :: ps => List.zipWith (fun c later => p.holds c && later) cs (row cs ps).tail ++ [false]

/-- Whether parts match the whole of a name. The parts in front of the first star are compared with
one character each. -/
def search : List Part → List Char → Bool
  | [], cs => cs.isEmpty
  | .star :: ps, cs => (row cs ps).any id
  | _ :: _, [] => false
  | p :: ps, c :: cs => p.holds c && search ps cs

theorem mem_ends_iff {cs after : List Char} : after ∈ ends cs ↔ ∃ before, cs = before ++ after := by
  induction cs with
  | nil => simp [ends, eq_comm]
  | cons c cs ih =>
    rw [ends, List.mem_cons, ih]
    constructor
    · rintro (rfl | ⟨before, rfl⟩)
      · exact ⟨[], rfl⟩
      · exact ⟨c :: before, rfl⟩
    · rintro ⟨before, h⟩
      cases before with
      | nil => exact .inl h.symm
      | cons b bs => exact .inr ⟨bs, (List.cons.inj h).2⟩

theorem ends_eq (cs : List Char) : ends cs = cs :: (ends cs).tail := by
  cases cs <;> rfl

theorem headD_laterTrue (bs : List Bool) : (laterTrue bs).headD false = bs.any id := by
  induction bs with
  | nil => rfl
  | cons b bs ih => rw [laterTrue, List.headD_cons, ih, List.any_cons, id]

theorem laterTrue_map_ends (p : List Char → Bool) (cs : List Char) :
    laterTrue ((ends cs).map p) = (ends cs).map fun after => (ends after).any p := by
  induction cs with
  | nil => simp [ends, laterTrue]
  | cons c cs ih =>
    rw [ends, List.map_cons, laterTrue, headD_laterTrue, ih, List.map_cons, ends, List.any_cons,
      List.any_map, Function.id_comp]

theorem zipWith_map_ends {p q : List Char → Bool} {f : Char → Bool → Bool} {b : Bool}
    (nil : q [] = b) (cons : ∀ c cs, q (c :: cs) = f c (p cs)) (cs : List Char) :
    List.zipWith f cs ((ends cs).map p).tail ++ [b] = (ends cs).map q := by
  induction cs with
  | nil => simp [ends, nil]
  | cons c cs ih =>
    rw [ends, List.map_cons, List.map_cons, List.tail_cons, cons, ← ih, ends_eq, List.map_cons,
      List.zipWith_cons_cons, List.tail_cons, List.cons_append]

theorem row_eq (cs : List Char) (ps : List Part) : row cs ps = (ends cs).map (matchParts ps) := by
  induction ps with
  | nil =>
    induction cs with
    | nil => rfl
    | cons c cs ih => rw [ends, List.map_cons, ← ih]; rfl
  | cons p ps ih =>
    cases p with
    | star =>
      rw [row, ih, laterTrue_map_ends]
      exact List.map_congr_left fun _ _ => rfl
    | any | char | set =>
      simp only [row, ih]
      refine zipWith_map_ends ?_ ?_ cs
      · rfl
      · exact fun _ _ => rfl

theorem search_eq (ps : List Part) (cs : List Char) : search ps cs = matchParts ps cs := by
  induction ps generalizing cs with
  | nil => rfl
  | cons p ps ih =>
    cases p with
    | star => rw [search, row_eq, List.any_map, Function.id_comp, matchParts]
    | any | char | set =>
      cases cs with
      | nil => rfl
      | cons c cs => simp only [search, matchParts, ih]

def isMatch (glob name : String) : Bool :=
  search (parts glob.toList) name.toList

end Glob

end CodeMarkup
