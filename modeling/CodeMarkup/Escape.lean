/-!
Escaped markup. The characters that could start a tag or an entity are written as entities, and
inside an attribute the two quotation marks are too.
-/

namespace CodeMarkup

/-- A character inside markup. Quotation marks are escaped only if asked for. -/
def escapeChar (quotes : Bool) (c : Char) : List Char :=
  if c = '&' then ['&', 'a', 'm', 'p', ';']
  else if c = '<' then ['&', 'l', 't', ';']
  else if c = '>' then ['&', 'g', 't', ';']
  else if quotes ∧ c = '"' then ['&', 'q', 'u', 'o', 't', ';']
  else if quotes ∧ c = '\'' then ['&', '#', 'x', '2', '7', ';']
  else [c]

def escapeChars (quotes : Bool) (cs : List Char) : List Char :=
  cs.flatMap (escapeChar quotes)

@[simp] theorem escapeChars_nil (quotes : Bool) : escapeChars quotes [] = [] := rfl

@[simp] theorem escapeChars_cons (quotes : Bool) (c : Char) (cs : List Char) :
    escapeChars quotes (c :: cs) = escapeChar quotes c ++ escapeChars quotes cs := rfl

theorem escapeChars_append (quotes : Bool) (cs ds : List Char) :
    escapeChars quotes (cs ++ ds) = escapeChars quotes cs ++ escapeChars quotes ds := by
  simp [escapeChars]

theorem escapeChar_ne_nil (quotes : Bool) (c : Char) : escapeChar quotes c ≠ [] := by
  unfold escapeChar
  repeat' split
  all_goals simp

/-- A text inside an element; its quotation marks stay as they are. -/
def escapeText (s : String) : String :=
  String.ofList (escapeChars false s.toList)

/-- A text inside an attribute, or one whose quotation marks are escaped too. -/
def escapeAll (s : String) : String :=
  String.ofList (escapeChars true s.toList)

end CodeMarkup
