import CodeMarkup.Options.Setting

/-!
The report of all issues of a list of settings, as one text. A setting is shown in at most 50 bytes:
of a longer one the beginning and the end are left.
-/

namespace CodeMarkup

def Value.typeName : Value → String
  | null => "NoneType"
  | bool _ => "bool"
  | int _ => "int"
  | float _ => "float"
  | text _ => "str"
  | list _ => "list"
  | record _ => "dict"

namespace Setting

/-- The form in which a report shows a setting. -/
def shown : Setting → String
  | value v => v.quoted
  | theme (.value v) => v.quoted
  | theme (.theme (.style s)) => s.label
  | theme (.theme (.resolver _)) => "resolver"
  | theme (.typeName name) => "<class " ++ Text.quoted name ++ ">"
  | mapping es =>
    "\x7b" ++ ", ".intercalate (es.map fun (r, v) => r.quoted ++ ": " ++ v.quoted) ++ "\x7d"
  | names _ => "ShortNames"

def typeName : Setting → String
  | value v => v.typeName
  | theme (.value v) => v.typeName
  | theme (.theme _) => "Theme"
  | theme (.typeName _) => "type"
  | mapping _ => "dict"
  | names _ => "ShortNameTable"

end Setting

/-- The longest beginning of at most `room` bytes. -/
def headBytes (room : Nat) : List Char → List Char
  | [] => []
  | c :: cs => if c.utf8Size ≤ room then c :: headBytes (room - c.utf8Size) cs else []

/-- A text of more than 50 bytes, cut down to 25 bytes at its beginning and 24 at its end. -/
def abridge (s : String) : String :=
  if s.utf8ByteSize ≤ 50 then s
  else
    let cs := s.toList
    String.ofList (headBytes 25 cs ++ ['.', '.', '.'] ++ (headBytes 24 cs.reverse).reverse)

namespace Issue

/-- The lines of a report about one issue. -/
def paragraph (i : Issue) : String :=
  i.key ++ "\n  " ++ i.problem.message ++ " [type=" ++ i.problem.code ++ ", input_value=" ++
    abridge i.input.shown ++ ", input_type=" ++ i.input.typeName ++
    "]\n    For further information visit https://errors.pydantic.dev/2.14/v/" ++ i.problem.code

def report (issues : List Issue) : String :=
  toString issues.length ++ (if issues.length = 1 then " validation error" else
    " validation errors") ++ " for FormatterOptions\n" ++ "\n".intercalate (issues.map paragraph)

end Issue

end CodeMarkup
