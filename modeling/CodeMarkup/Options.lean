import CodeMarkup.Options.Setting
import CodeMarkup.Span

/-!
The options of a formatter. An option may be spelled in several ways, and the first of its spellings
that is given counts; any other key is unknown. All options are checked, and all problems reported:
those of the options in a fixed order, then the unknown keys in the order given.
-/

namespace CodeMarkup

inductive Field where
  | wrapperClass
  | layout
  | lineNumbers
  | startLine
  | theme
  | wrap
  | shortNames
  deriving DecidableEq, Repr

namespace Field

/-- All options, in the order in which their problems are reported. -/
def all : List Field :=
  [wrapperClass, layout, lineNumbers, startLine, theme, wrap, shortNames]

/-- The spellings of an option; of those given the first one counts. -/
def spellings : Field → List String
  | wrapperClass => ["wrapper_class", "wrapperClass", "css_class"]
  | layout => ["layout_style", "layoutStyle", "format_style"]
  | lineNumbers => ["lineNumbers", "line_numbers"]
  | startLine => ["startLine", "start_line"]
  | theme => ["inlineTheme", "inline_theme"]
  | wrap => ["wrap"]
  | shortNames => ["shortNames", "short_names"]

/-- The key and the setting that count for an option, if it is given at all. -/
def find? (f : Field) (given : List (String × Setting)) : Option (String × Setting) :=
  f.spellings.findSome? fun key => (valueAt? key given).map fun s => (key, s)

/-- Reads an option, which has a default if it is not given. -/
def check {β : Type} (f : Field) (given : List (String × Setting)) (default : β)
    (read : Setting → Except Problem β) : Except Issue β :=
  match f.find? given with
  | none => .ok default
  | some (key, s) => (read s).mapError (⟨key, ·, s⟩)

end Field

/-- The checked options of a formatter. -/
structure Options where
  wrapperClass : Option String := some "highlight"
  layout : Layout := .table
  lineNumbers : Bool := false
  startLine : Int := 1
  theme : Option Theme := none
  wrap : Bool := true
  shortNames : ShortNames := .standard

namespace Options

/-- The keys that count for some option. -/
def usedKeys (given : List (String × Setting)) : List String :=
  Field.all.filterMap fun f => (f.find? given).map Prod.fst

/-- The issues of the keys that count for no option. -/
def unknownKeys (given : List (String × Setting)) : List Issue :=
  (given.filter (·.1 ∉ usedKeys given)).map fun (key, s) => ⟨key, .unknownKey, s⟩

def issueOf {β : Type} : Except Issue β → List Issue
  | .ok _ => []
  | .error i => [i]

/-- The options that settings with distinct keys give, or all that is wrong with them. -/
def ofSettings (t : Taxonomy) (given : List (String × Setting)) : Except (List Issue) Options :=
  -- Every option is read, also after one that could not be: all problems are reported together.
  let base : Options := {}
  let wrapperClass := Field.wrapperClass.check given base.wrapperClass Setting.toText
  let layout := Field.layout.check given base.layout Setting.toLayout
  let lineNumbers := Field.lineNumbers.check given base.lineNumbers Setting.toBool
  let startLine := Field.startLine.check given base.startLine Setting.toInt
  let theme := Field.theme.check given base.theme Setting.toTheme
  let wrap := Field.wrap.check given base.wrap Setting.toBool
  let shortNames := Field.shortNames.check given base.shortNames (Setting.toNames t)
  let unknown := unknownKeys given
  match wrapperClass, layout, lineNumbers, startLine, theme, wrap, shortNames, unknown with
  | .ok wrapperClass, .ok layout, .ok lineNumbers, .ok startLine, .ok theme, .ok wrap,
    .ok shortNames, [] =>
    .ok { wrapperClass, layout, lineNumbers, startLine, theme, wrap, shortNames }
  | _, _, _, _, _, _, _, _ =>
    .error (issueOf wrapperClass ++ issueOf layout ++ issueOf lineNumbers ++ issueOf startLine ++
      issueOf theme ++ issueOf wrap ++ issueOf shortNames ++ unknown)

/-- The issue of setting an option once it has been checked: options never change. -/
def assign (_ : Options) (key : String) (s : Setting) : Issue :=
  ⟨key, .frozen, s⟩

/-- The `class` attribute of the outer element; an absent or empty class has none. -/
def wrapperAttribute (o : Options) : String :=
  match o.wrapperClass with
  | none => ""
  | some c => if c = "" then "" else " class=\"" ++ escapeAll c ++ "\""

def spanRules (o : Options) : SpanRules :=
  ⟨o.shortNames, o.theme⟩

end Options

end CodeMarkup
