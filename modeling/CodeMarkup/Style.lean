import CodeMarkup.Dictionary
import CodeMarkup.Kind
import CodeMarkup.Value

/-!
Styles. A style gives each of the kinds that it lists a look, from which declarations follow in a
fixed order; any other kind looks like its nearest listed ancestor.
-/

namespace CodeMarkup

/-- How tokens look. An empty colour is none. -/
structure StyleInfo where
  color : String := ""
  background : String := ""
  bold : Bool := false
  italic : Bool := false
  underline : Bool := false
  border : String := ""
  deriving DecidableEq, Repr

namespace StyleInfo

/-- A field of a record, where an absent value counts as null. -/
def field (fields : List (String × Value)) (name : String) : Value :=
  (valueAt? name fields).getD .null

def colorOf (v : Value) : String :=
  if v.isPresent then v.plain else ""

/-- The look described by the fields of a record; other fields are left aside. -/
def ofFields (fields : List (String × Value)) : StyleInfo where
  color := colorOf (field fields "color")
  background := colorOf (field fields "bgcolor")
  bold := (field fields "bold").isPresent
  italic := (field fields "italic").isPresent
  underline := (field fields "underline").isPresent
  border := colorOf (field fields "border")

/-- A declaration, made only under a condition. -/
def declare (condition : Bool) (declaration : String) : List String :=
  if condition then [declaration] else []

def declarations (i : StyleInfo) : List String :=
  declare (i.color != "") ("color: #" ++ i.color) ++
  declare (i.background != "") ("background-color: #" ++ i.background) ++
  declare i.bold "font-weight: bold" ++
  declare i.italic "font-style: italic" ++
  declare i.underline "text-decoration: underline" ++
  declare (i.border != "") ("border: 1px solid #" ++ i.border)

end StyleInfo

/-- A style: its name and the looks of the kinds that it lists. -/
structure Style where
  name : String
  infos : Dictionary Kind StyleInfo

namespace Style

/-- The style with the given looks; of two looks of one kind the later counts. -/
def ofInfos (name : String) (infos : List (Kind × StyleInfo)) : Style :=
  ⟨name, .ofList infos⟩

/-- The declarations for a kind: those of the nearest listed kind among it and its ancestors. -/
def declarations? (s : Style) (k : Kind) : Option (List String) :=
  (k.nearest? s.infos.get?).map StyleInfo.declarations

/-- The form in which a theme made of the style is shown. -/
def label (s : Style) : String :=
  "InlineTheme(" ++ s.name ++ ")"

end Style

end CodeMarkup
