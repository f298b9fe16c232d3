import CodeMarkup.Options
import CodeMarkup.Options.Report
import CodeMarkup.Run

/-!
Formatters. Without line numbers the markup is made token by token; with them the whole stream of
tokens is drained first, because the numbers stand in front of the code. Options are accepted only
if the line break that may be added at the end of numbered code can be rendered. They are given as
settings or as a record of options checked before, which has a key of its own among the settings.
-/

namespace CodeMarkup

/-- Checked options and the markup of a line break added at the end. -/
structure Formatter where
  options : Options
  trailingNewline : String

inductive ConfigurationError where
  | invalid (issues : List Issue)
  | optionsTwice
  | givenTwice (key : String)
  | notRecord (typeName : String)
  | trailingNewline (f : SpanFailure)

def ConfigurationError.message : ConfigurationError → String
  | invalid issues => Issue.report issues
  | optionsTwice => "Pass either a FormatterOptions record or keyword options, not both"
  | givenTwice key => "got multiple values for argument " ++ Text.quoted key
  | notRecord typeName => Text.quoted typeName ++ " object has no attribute 'layout_style'"
  | trailingNewline f =>
    "Cannot render the trailing newline token: " ++ f.unknownKind.message

structure InvalidLayout where
  value : Value

def InvalidLayout.message (e : InvalidLayout) : String :=
  e.value.quoted ++ " is not a valid LayoutStyle"

/-- The kind of a line break added at the end. -/
def Kind.whitespace : Kind :=
  (root.child "Text").child "Whitespace"

namespace Formatter

def ofOptions (o : Options) : Except SpanFailure Formatter :=
  (o.spanRules.renderKind .whitespace "\n").map (⟨o, ·⟩)

/-- The formatter with the given options, and the session with a record if there is none. -/
def build (o : Options) (s : Session) : Except ConfigurationError Formatter × Session :=
  match ofOptions o with
  | .ok f => (.ok f, s)
  | .error e => (.error (.trailingNewline e), s.note (.span e))

def ofSettings (given : List (String × Setting)) (s : Session) :
    Except ConfigurationError Formatter × Session :=
  match Options.ofSettings s.taxonomy given with
  | .ok o => build o s
  | .error issues => (.error (.invalid issues), s)

/-- The key for a record of options among the settings. -/
def recordKey : String := "options"

/-- The key that stands for the formatter itself, for which nothing can be given. -/
def ownKey : String := "self"

/-- The formatter with options that have been checked before; there may be no settings beside. -/
def ofRecord (o : Options) (given : List (String × Setting)) (s : Session) :
    Except ConfigurationError Formatter × Session :=
  match given.find? fun e => e.1 = ownKey ∨ e.1 = recordKey with
  | some (key, _) => (.error (.givenTwice key), s)
  | none => if given.isEmpty then build o s else (.error .optionsTwice, s)

/-- The formatter that keyed arguments ask for: settings, and perhaps null under the key for a
record. No other setting is a record. -/
def ofArguments (given : List (String × Setting)) (s : Session) :
    Except ConfigurationError Formatter × Session :=
  let settings := given.filter (·.1 ≠ recordKey)
  if (valueAt? ownKey given).isSome then (.error (.givenTwice ownKey), s)
  else match valueAt? recordKey given with
    | none | some (.value .null) => ofSettings settings s
    | some record =>
      (.error (if settings.isEmpty then .notRecord record.typeName else .optionsTwice), s)

/-- The markup of a stream of tokens, one chunk for each token as it comes, without line numbers. -/
def flat (f : Formatter) (p : Progress) (tokens : List Token) : Run :=
  let run := Run.ofTokens f.options.spanRules p tokens
  if f.options.wrap then
    (run.cons ⟨"<pre" ++ f.options.wrapperAttribute ++ "><code>", p⟩).close "</code></pre>\n"
  else run

/-- The code in a numbered layout: the markup of the tokens, with a line break at the end if the
last text has none. -/
def body (f : Formatter) (count : LineCount) (chunks : List String) : String :=
  String.join (chunks ++ if count.needsNewline then [f.trailingNewline] else [])

/-- The chunks of a numbered layout around a gutter and the code. -/
def numbered (f : Formatter) (layout : Layout) (gutter body : String) : List String :=
  let frame := layout.frame
  (if f.options.wrap then ["<div" ++ f.options.wrapperAttribute ++ ">"] else []) ++
  [frame.gridOpen, frame.gutterOpen, gutter, frame.gutterClose, frame.codeOpen, "<pre>", body,
    "</pre>", frame.codeClose, frame.gridClose] ++
  (if f.options.wrap then ["</div>\n"] else [])

/-- The markup of a stream of tokens in a numbered layout. All tokens are rendered and all lines
numbered before there is a chunk, so a token without markup or a number that is not written leaves
none. -/
def buffered (f : Formatter) (layout : Layout) (p : Progress) (tokens : List Token) : Run :=
  let run := Run.ofTokens f.options.spanRules p tokens
  match run.failure with
  | some e => .fail e run.last
  | none =>
    let count := LineCount.feedAll {} (tokens.map Token.text)
    let record : LogRecord := .drained count.lines f.options.startLine layout
    let drained : Progress := ⟨run.last.toSession.note record, run.last.pulled⟩
    match Gutter.block f.options.startLine count.lines with
    | .error e => .fail (.lineNumber e) drained
    | .ok gutter => .atOnce (f.numbered layout gutter (f.body count run.chunks)) drained

/-- The layout that a value asks for, where null asks for the configured one. -/
def chooseLayout (f : Formatter) : Value → Except InvalidLayout Layout
  | .null => .ok f.options.layout
  | v => match Layout.ofValue? v with
    | some l => .ok l
    | none => .error ⟨v⟩

/-- The markup of a stream of tokens in the configured way. -/
def stream (f : Formatter) (p : Progress) (tokens : List Token) : Run :=
  if f.options.lineNumbers then f.buffered f.options.layout p tokens else f.flat p tokens

end Formatter

end CodeMarkup
