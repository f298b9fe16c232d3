import CodeMarkup.Command.Arguments
import CodeMarkup.Lexer
import CodeMarkup.Output
import CodeMarkup.Text.ControlSequence
import CodeMarkup.Text.Utf8
import CodeMarkup.Timing

/-!
The command: one source in, its markup out. The stages are the options, the lexer, the source and
the tokens, and the first of them that fails is reported. Markup that goes into a file is made whole
before the file is written. Diagnostics are notices in the order of events; whether they are shown
is decided when they are printed. Control sequences of terminals are removed from every chunk of
markup on the standard output and from every message, but not from files and the log.
-/

namespace CodeMarkup

def Text.Utf8Error.message (e : Text.Utf8Error) : String :=
  let reason := match e.fault with
    | .start => "invalid start byte"
    | .continuation => "invalid continuation byte"
    | .endOfData => "unexpected end of data"
  let what :=
    if e.width = 1 then
      "byte 0x" ++ String.ofList (Text.hexDigits 2 e.byte.toNat) ++ " in position " ++
        toString e.position
    else
      let last := e.position + e.width - 1
      "bytes in position " ++ toString e.position ++ "-" ++ toString last
  "'utf-8' codec can't decode " ++ what ++ ": " ++ reason

namespace Command

/-- What the command finds when it starts. Tokens that are given take the place of those that a
lexer makes of the source; for lexers other than `text` and `output` they have to be given. -/
structure Setup where
  workspace : Workspace := {}
  stdin : List UInt8 := []
  rules : FilenameRules := .ofRegistry .standard
  tokens : Option (List Token) := none
  session : Session := {}

inductive Failure where
  | configuration (e : ConfigurationError)
  | lexer (e : LexerError)
  | system (e : SystemError)
  | decoding (e : Text.Utf8Error)
  | run (f : RunFailure)

/-- The message of a failure. The source is named unless the failure speaks for itself. -/
def Failure.message (source : Path) (f : Failure) : String :=
  let naming (m : String) := "Error rendering " ++ source.text ++ ": " ++ m
  match f with
  | .configuration e => "Error: " ++ e.message
  | .lexer (.unknownName name) => "Error: " ++ (LexerError.unknownName name).message
  | .lexer e => naming e.message
  | .system (.noSuchFile path) => "Error: " ++ (SystemError.noSuchFile path).message
  | .system e => naming e.message
  | .decoding e => naming e.message
  | .run (.span f) => "Error: " ++ (RunFailure.span f).message
  | .run f => naming f.message

inductive Notice where
  | log (r : LogRecord)
  | phase (label : String)
  | usage (e : UsageError)
  | failure (message : String)
  | wrote (path : Path)

structure Outcome where
  exitCode : Nat
  stdout : String
  notices : List Notice
  workspace : Workspace

def settings (r : Request) : List (String × Setting) := [
  ("wrapper_class", .value (.text r.cssClass)),
  ("layout_style", .value (.text r.layout.name)),
  ("line_numbers", .value (.bool r.lineNumbers)),
  ("start_line", .value (.int r.startLine)),
  ("inline_theme", .value (r.inlineTheme.elim .null .text)),
  ("wrap", .value (.bool r.wrap))]

def isStdin (p : Path) : Bool :=
  p.text == "-"

/-- The lexer for a request; it plays no part where tokens are given. -/
def chooseLexer (s : Setup) (r : Request) : Except LexerError Lexer :=
  if s.tokens.isSome then .ok .plain
  else Lexer.choose s.rules r.lexer (if isStdin r.source then "" else r.source.name)

/-- The text of the source, with line feeds for line breaks of every kind. -/
def readSource (s : Setup) (p : Path) : Except Failure String := do
  let bytes ← if isStdin p then pure s.stdin else (s.workspace.read p).mapError .system
  let chars ← (Text.decodeUtf8 bytes).mapError .decoding
  return String.ofList (unifyBreaks chars)

def failed (s : Setup) (r : Request) (stdout : String) (notices : List Notice) (f : Failure) :
    Outcome :=
  ⟨1, stdout, notices ++ [.failure (f.message r.source)], s.workspace⟩

/-- Renders the tokens onto the standard output, or whole into a file. -/
def render (s : Setup) (r : Request) (notices : List Notice) (run : Run) : Outcome :=
  let notices := notices ++ run.last.log.map .log ++ [.phase "Render"]
  match r.output with
  | none =>
    -- Chunks are shown as they come, so those in front of a failure stay.
    let stdout := String.join (run.chunks.map Text.withoutControls)
    match run.failure with
    | none => ⟨0, stdout, notices, s.workspace⟩
    | some f => failed s r stdout notices (.run f)
  | some output => match run.text with
    | .error f => failed s r "" notices (.run f)
    | .ok markup =>
      let bytes := markup.toList.flatMap Text.Encoding.utf8.charBytes
      match s.workspace.write output bytes with
      | .ok workspace => ⟨0, "", notices ++ [.wrote output], workspace⟩
      | .error e => failed s r "" notices (.system e)

def carryOut (s : Setup) (r : Request) : Outcome :=
  match Formatter.ofSettings (settings r) s.session with
  | (.error e, session) => failed s r "" (session.log.map .log) (.configuration e)
  | (.ok formatter, session) =>
    match chooseLexer s r with
    | .error e => failed s r "" [] (.lexer e)
    | .ok lexer =>
      let notices := [.phase "Read source"]
      match readSource s r.source with
      | .error f => failed s r "" notices f
      | .ok source =>
        let tokens := s.tokens.getD (lexer.tokens source)
        render s r notices (formatter.stream session.begin tokens)

def reminder : String :=
  "Usage: main [OPTIONS] SOURCE\nTry 'main --help' for help.\n\n"

def helpText : String := "\n".intercalate [
  "Usage: main [OPTIONS] SOURCE",
  "",
  "  Render SOURCE as a syntax-highlighted HTML fragment.",
  "",
  "  SOURCE: Path to a source file, or - to read from stdin.",
  "",
  "Options:",
  "  -o, --output FILE     Write the HTML fragment to this file (default: stdout)",
  "  -l, --lexer TEXT      Pygments lexer name (default: guessed from the file",
  "                        name, plain text otherwise)",
  "  -n, --line-numbers    Render a line-number gutter next to the code",
  "  --layout [table|div]  Gutter layout when --line-numbers is set (default:",
  "                        table)",
  "  --start-line INTEGER  First line number shown in the gutter (default: 1)",
  "  --inline-theme TEXT   Inline styles from this Pygments style (e.g. \"monokai\")",
  "                        instead of CSS classes",
  "  --css-class TEXT      Class of the outer wrapper element (default:",
  "                        \"highlight\"; \"\" for none)",
  "  --no-wrap             Do not wrap the output in an outer container element",
  "  --debug               Enable debug logging and show full traceback on errors.",
  "  --help                Show this message and exit.",
  ""]

def run (s : Setup) (args : List String) : Outcome :=
  match Arguments.call s.workspace.isDirectory args with
  | .error (.usage e) => ⟨2, "", [.usage e], s.workspace⟩
  | .error .unusablePath => ⟨1, "", [], s.workspace⟩
  | .ok .help => ⟨0, helpText, [], s.workspace⟩
  | .ok (.request r) => carryOut s r

def asksForDebug (s : Setup) (args : List String) : Bool :=
  match Arguments.call s.workspace.isDirectory args with
  | .ok (.request r) => r.debug
  | _ => false

/-- How notices are printed: whether debug notices and reports of phases are shown. -/
structure Printing where
  debug : Bool := false
  timing : Bool := false

/-- A message as it is printed, in a line of its own. -/
def echoed (message : String) : String :=
  Text.withoutControls (message ++ "\n")

/-- Prints a notice, for which the clock may be read. The command started at `start`. -/
def printNotice (p : Printing) (start : Float) (clock : Clock) : Notice → String × Clock
  | .log r => (if p.debug then "DEBUG: " ++ r.message ++ "\n" else "", clock)
  | .phase label =>
    -- What a phase prints itself is noticed in front of it and reads no clock.
    let log := PhaseLog.timed { clock } p.timing label (some start) id
    (String.join log.reports, log.clock)
  | .usage e =>
    ((if e.withReminder then reminder else "") ++ echoed ("Error: " ++ e.message), clock)
  | .failure message => (echoed message ++ (if p.debug then "<traceback>" else ""), clock)
  | .wrote path => (echoed ("Wrote " ++ path.text), clock)

def printNotices (p : Printing) (start : Float) : Clock → List Notice → String
  | _, [] => ""
  | clock, n :: ns =>
    let (text, clock) := printNotice p start clock n
    text ++ printNotices p start clock ns

/-- What is printed on the standard error; the clock is first read when the command starts. -/
def Outcome.stderr (o : Outcome) (p : Printing) (clock : Clock) : String :=
  let (start, clock) := clock.read
  printNotices p start clock o.notices

end Command

end CodeMarkup
