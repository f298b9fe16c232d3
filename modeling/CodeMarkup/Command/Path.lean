import CodeMarkup.Text.Pieces

/-!
Paths in normal form: without empty parts and without parts that name the directory they are in. A
path that starts with two slashes keeps both.
-/

namespace CodeMarkup

/-- A path: its root, which is empty for a relative path, and its parts. -/
structure Path where
  root : String
  parts : List String
  deriving DecidableEq, Repr

namespace Path

/-- The root of a path as given. -/
def rootOf (cs : List Char) : String :=
  match (cs.takeWhile (· == '/')).length with
  | 0 => ""
  | 2 => "//"
  | _ => "/"

def ofText (s : String) : Path :=
  ⟨rootOf s.toList, (Text.pieces '/' s).filter fun part => part ≠ "" ∧ part ≠ "."⟩

/-- The text of a path; the path without parts is the directory it starts from. -/
def text (p : Path) : String :=
  let s := p.root ++ "/".intercalate p.parts
  if s = "" then "." else s

def name (p : Path) : String :=
  p.parts.getLast?.getD ""

/-- The steps from the directory of the program to what a path names; the root is a step. -/
def steps (p : Path) : List String :=
  if p.root = "" then p.parts else "/" :: p.parts

end Path

end CodeMarkup
