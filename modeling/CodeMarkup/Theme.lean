import CodeMarkup.Style.Catalogue

/-!
Inline themes. A theme gives a kind its declarations, or none at all. It is made of a style or is
any such function; a setting may also name a style.
-/

namespace CodeMarkup

inductive Theme where
  | style (s : Style)
  | resolver (declarations? : Kind → Option (List String))

namespace Theme

/-- The declarations for a kind, if the theme has any rules for it. -/
def declarations? : Theme → Kind → Option (List String)
  | style s, k => s.declarations? k
  | resolver f, k => f k

/-- The theme with one rule per kind, the later of two counting, and a rule for all other kinds. -/
def ofRules (rules : List (Kind × Option (List String))) (otherwise : Option (List String)) :
    Theme :=
  let table := Dictionary.ofList rules
  resolver fun k => (table.get? k).getD otherwise

end Theme

/-- What a caller gives where a theme is expected. -/
inductive ThemeSource where
  | value (v : Value)
  | theme (t : Theme)
  | typeName (name : String)

inductive ThemeError where
  | unknownName (name : String)
  | unusable (shown : String)
  deriving DecidableEq, Repr

def ThemeError.message : ThemeError → String
  | unknownName name => "Unknown inline theme: " ++ Text.quoted name
  | unusable shown =>
    "inline_theme must be a style name, a Style subclass or a theme resolver, got " ++ shown

/-- The theme that a setting asks for: null asks for none, a text for the style of that name. -/
def ThemeSource.theme? : ThemeSource → Except ThemeError (Option Theme)
  | value .null => .ok none
  | value (.text name) => match Style.named? name with
    | some s => .ok (some (.style s))
    | none => .error (.unknownName name)
  | value v => .error (.unusable v.quoted)
  | theme t => .ok (some t)
  | typeName name => .error (.unusable ("<class " ++ Text.quoted name ++ ">"))

end CodeMarkup
