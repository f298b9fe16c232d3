import CodeMarkup.Escape
import CodeMarkup.ShortNames
import CodeMarkup.Theme

/-!
Spans: the markup of single tokens. A token becomes a `span` element that carries the short name of
its kind as its class or, under a theme, the declarations for its kind as its style. A token whose
short name is empty is not tagged, and no theme is asked about it.
-/

namespace CodeMarkup

/-- A piece of text and the kind that it is of. -/
structure Token where
  kind : KindRef
  text : String
  deriving Inhabited

/-- Why a token has no markup: its kind does not resolve, or no short name or no rules of the theme
are found for it. -/
inductive SpanFailure where
  | unresolved (ref : KindRef) (text : String)
  | unnamed (kind : Kind) (text : String)
  | unstyled (kind : Kind) (text : String)

/-- The kind that is missing, as given if it does not resolve, with the text of the token. -/
def SpanFailure.unknownKind : SpanFailure → UnknownKind
  | unresolved ref text => ⟨ref, some text⟩
  | unnamed kind text => ⟨.kind kind, some text⟩
  | unstyled kind text => ⟨.kind kind, some text⟩

/-- What is needed to render tokens: short names and, for literal styles, a theme. -/
structure SpanRules where
  names : ShortNames
  theme : Option Theme := none

namespace SpanRules

/-- A `span` element with one attribute. The value is written as it is. -/
def element (label value content : String) : String :=
  "<span " ++ label ++ "=\"" ++ value ++ "\">" ++ content ++ "</span>"

/-- The markup of a text of an existing kind. -/
def renderKind (r : SpanRules) (k : Kind) (text : String) : Except SpanFailure String :=
  match r.names.find? k with
  | none => .error (.unnamed k text)
  | some name =>
    match r.theme with
    | none => .ok (if name = "" then escapeText text else element "class" name (escapeText text))
    | some theme =>
      if name = "" then .ok (escapeAll text)
      else match theme.declarations? k with
        | none => .error (.unstyled k text)
        | some declarations =>
          .ok (element "style" (escapeAll (";".intercalate declarations)) (escapeAll text))

/-- The markup of a token, whose kind has to exist in the taxonomy. -/
def render (r : SpanRules) (t : Taxonomy) (token : Token) : Except SpanFailure String :=
  match token.kind.resolve? t with
  | none => .error (.unresolved token.kind token.text)
  | some k => r.renderKind k token.text

end SpanRules

end CodeMarkup
