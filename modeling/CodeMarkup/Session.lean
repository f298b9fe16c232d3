import CodeMarkup.Layout
import CodeMarkup.Span

/-!
What rendering leaves behind: the kinds that exist by now and a log. The log has a record for every
token that could not be rendered and one for every stream of tokens that was drained into a numbered
layout.
-/

namespace CodeMarkup

inductive LogRecord where
  | span (f : SpanFailure)
  | drained (lines : Nat) (start : Int) (layout : Layout)

def LogRecord.message : LogRecord → String
  | span (.unresolved ref text) =>
    "Cannot resolve token kind " ++ ref.quoted ++ " for " ++ Text.quoted text
  | span (.unnamed kind _) => "No short name for token kind " ++ kind.text
  | span (.unstyled kind _) => "Inline theme has no rules for token kind " ++ kind.text
  | drained lines start layout =>
    "Rendered " ++ toString lines ++ " lines starting at " ++ toString start ++ " for " ++
      layout.name ++ " gutter"

/-- The kinds that exist and the records logged, the oldest first. -/
structure Session where
  taxonomy : Taxonomy := .standard
  log : List LogRecord := []

/-- A session in the middle of a stream of tokens, `pulled` of which have been taken. -/
structure Progress extends Session where
  pulled : Nat := 0

namespace Session

/-- The session once a reference to a kind has been made. -/
def register (s : Session) (r : KindRef) : Session :=
  { s with taxonomy := r.register s.taxonomy }

def note (s : Session) (r : LogRecord) : Session :=
  { s with log := s.log ++ [r] }

def begin (s : Session) : Progress :=
  { s with pulled := 0 }

end Session

/-- Renders the next token of a session: its kind exists from now on if it is given as a kind, and a
failure is logged. -/
def SpanRules.renderNext (r : SpanRules) (s : Session) (token : Token) :
    Except SpanFailure String × Session :=
  let s := s.register token.kind
  match r.render s.taxonomy token with
  | .ok markup => (.ok markup, s)
  | .error f => (.error f, s.note (.span f))

end CodeMarkup
