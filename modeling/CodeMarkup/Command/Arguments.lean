import CodeMarkup.Command.Workspace
import CodeMarkup.Layout
import CodeMarkup.Text.Integer
import CodeMarkup.Text.Similarity

/-!
The arguments of the command. Options may stand before and after the source, short ones together in
one argument, and a value in the argument of its option or the one after it. An option given twice
has its last value. What is wrong with the form of the arguments is found first, from left to right;
then the request for help counts; then the values are checked, in the order in which their options
first occur, and the source after them. The message about an unknown long option names the options
that are close to it. A path that holds a null character is no path: it ends the command without a
message.
-/

namespace CodeMarkup

inductive Flag where
  | output
  | lexer
  | lineNumbers
  | layout
  | startLine
  | inlineTheme
  | cssClass
  | noWrap
  | debug
  | help
  deriving DecidableEq, Repr

inductive ValueError where
  | directory (given : String)
  | notLayout (given : String)
  | notInteger (given : String)
  deriving DecidableEq, Repr

inductive UsageError where
  | noSuchOption (name : String) (closest : List String)
  | needsValue (name : String)
  | takesNoValue (name : String)
  | invalidValue (flag : Flag) (e : ValueError)
  | missingSource
  | extraArguments (given : List String)
  deriving DecidableEq, Repr

namespace Flag

def longNames : List (String × Flag) := [
  ("--output", output), ("--lexer", lexer), ("--line-numbers", lineNumbers), ("--layout", layout),
  ("--start-line", startLine), ("--inline-theme", inlineTheme), ("--css-class", cssClass),
  ("--no-wrap", noWrap), ("--debug", debug), ("--help", help)]

def ofLong? (name : String) : Option Flag :=
  valueAt? name longNames

/-- The long options closest to a name that is none, three at most. -/
def closestTo (name : String) : List String :=
  Text.closeTexts 3 name (longNames.map Prod.fst)

/-- The option with a given letter. -/
def ofLetter? : Char → Option Flag
  | 'o' => some output
  | 'l' => some lexer
  | 'n' => some lineNumbers
  | _ => none

def takesValue : Flag → Bool
  | lineNumbers | noWrap | debug | help => false
  | _ => true

def hint : Flag → String
  | output => "'-o' / '--output'"
  | lexer => "'-l' / '--lexer'"
  | lineNumbers => "'-n' / '--line-numbers'"
  | flag => "'" ++ ((longNames.find? (·.2 = flag)).map Prod.fst).getD "" ++ "'"

end Flag

def ValueError.message : ValueError → String
  | directory given => "File " ++ Text.quoted given ++ " is a directory."
  | notLayout given => Text.quoted given ++ " is not one of 'table', 'div'."
  | notInteger given => Text.quoted given ++ " is not a valid integer."

def suggestion : List String → String
  | [] => ""
  | [name] => " Did you mean " ++ Text.quoted name ++ "?"
  | names => " (Did you mean one of: " ++ ", ".intercalate (names.map Text.quoted) ++ "?)"

def UsageError.message : UsageError → String
  | noSuchOption name closest =>
    "No such option " ++ Text.quoted name ++ "." ++ suggestion closest
  | needsValue name => "Option " ++ Text.quoted name ++ " requires an argument."
  | takesNoValue name => "Option " ++ Text.quoted name ++ " does not take a value."
  | invalidValue flag e => "Invalid value for " ++ flag.hint ++ ": " ++ e.message
  | missingSource => "Missing argument 'SOURCE'."
  | extraArguments given =>
    "Got unexpected extra argument" ++ (if given.length = 1 then "" else "s") ++ " (" ++
      " ".intercalate given ++ ")"

/-- Whether the message comes after a reminder of how the command is used. -/
def UsageError.withReminder : UsageError → Bool
  | needsValue _ => false
  | takesNoValue _ => false
  | _ => true

/-- Why the arguments ask for nothing that can be done: they are used in a wrong way, or a text that
should be a path cannot be one. -/
inductive Refusal where
  | usage (e : UsageError)
  | unusablePath
  deriving DecidableEq, Repr

/-- An option as given, with its value or an empty one. -/
abbrev GivenFlag := Flag × String

/-- What one argument says: something that is no option, or options, the last of which may have its
value in the next argument. -/
inductive Argument where
  | plain
  | flags (given : List GivenFlag)
  | pending (given : List GivenFlag) (flag : Flag) (name : String)

namespace Argument

/-- Options given by letters in one argument. -/
def ofLetters : List Char → Except UsageError Argument
  | [] => .ok (.flags [])
  | c :: cs =>
    let name := String.ofList ['-', c]
    match Flag.ofLetter? c with
    | none => .error (.noSuchOption name [])
    | some flag =>
      if flag.takesValue then
        .ok (if cs.isEmpty then .pending [] flag name else .flags [(flag, String.ofList cs)])
      else do match ← ofLetters cs with
        | .plain => return .flags [(flag, "")]
        | .flags given => return .flags ((flag, "") :: given)
        | .pending given last lastName => return .pending ((flag, "") :: given) last lastName

/-- An option given by its long name, perhaps with a value after an equals sign. -/
def ofLong (flag : Flag) (name : String) : Option String → Except UsageError Argument
  | some v =>
    if flag.takesValue then .ok (.flags [(flag, v)]) else .error (.takesNoValue name)
  | none => .ok (if flag.takesValue then .pending [] flag name else .flags [(flag, "")])

def ofText (s : String) : Except UsageError Argument :=
  match s.toList with
  | '-' :: c :: cs =>
    let (name, v) := match Text.cutFirst? '=' s.toList with
      | some (before, after) => (String.ofList before, some (String.ofList after))
      | none => (s, none)
    match Flag.ofLong? name with
    | some flag => ofLong flag name v
    | none =>
      if c = '-' then .error (.noSuchOption name (Flag.closestTo name)) else ofLetters (c :: cs)
  | _ => .ok .plain

end Argument

/-- The arguments read: options in order, and the other arguments. -/
structure Arguments where
  flags : List GivenFlag := []
  others : List String := []

namespace Arguments

/-- The arguments with some options in front. -/
def withFlags (a : Arguments) (given : List GivenFlag) : Arguments :=
  { a with flags := given ++ a.flags }

/-- Reads the arguments; two hyphens alone end the options. -/
def read : List String → Except UsageError Arguments
  | [] => .ok {}
  | "--" :: args => .ok { others := args }
  | arg :: args => do
    match ← Argument.ofText arg with
    | .plain =>
      let a ← read args
      return { a with others := arg :: a.others }
    | .flags given => return (← read args).withFlags given
    | .pending given flag name => match args with
      | [] => throw (.needsValue name)
      | v :: args => return (← read args).withFlags (given ++ [(flag, v)])

def value? (a : Arguments) (flag : Flag) : Option String :=
  valueAt? flag a.flags.reverse

def has (a : Arguments) (flag : Flag) : Bool :=
  (a.value? flag).isSome

end Arguments

/-- What the command is asked to do. An empty name of a lexer is none. -/
structure Request where
  source : Path
  output : Option Path := none
  lexer : String := ""
  lineNumbers : Bool := false
  layout : Layout := .table
  startLine : Int := 1
  inlineTheme : Option String := none
  cssClass : String := "highlight"
  wrap : Bool := true
  debug : Bool := false

inductive Call where
  | help
  | request (r : Request)

namespace Arguments

def checkPath (given : String) : Except Refusal Unit :=
  if given.contains '\x00' then throw .unusablePath else return

def check (isDirectory : String → Bool) (a : Arguments) (flag : Flag) : Except Refusal Unit := do
  -- Of an option that is given twice only the last value is looked at.
  let v := (a.value? flag).getD ""
  let invalid (e : ValueError) := Refusal.usage (.invalidValue flag e)
  match flag with
  | .output =>
    checkPath v
    if isDirectory v then throw (invalid (.directory v))
  | .layout =>
    if (Layout.ofValue? (.text v)).isNone then throw (invalid (.notLayout v))
  | .startLine =>
    if (Text.lenientInt? v).isNone then throw (invalid (.notInteger v))
  | _ => return

/-- The request that checked arguments make for a source. -/
def toRequest (a : Arguments) (source : String) : Request where
  source := .ofText source
  output := (a.value? .output).map .ofText
  lexer := (a.value? .lexer).getD ""
  lineNumbers := a.has .lineNumbers
  layout := ((a.value? .layout).bind (Layout.ofValue? ∘ .text)).getD .table
  startLine := ((a.value? .startLine).bind Text.lenientInt?).getD 1
  inlineTheme := a.value? .inlineTheme
  cssClass := (a.value? .cssClass).getD "highlight"
  wrap := !a.has .noWrap
  debug := a.has .debug

/-- What the arguments ask for, or why they are refused. -/
def call (isDirectory : String → Bool) (args : List String) : Except Refusal Call := do
  let a ← (read args).mapError .usage
  if a.has .help then return .help
  -- Values are checked in the order given, and before it is asked whether there is a source.
  for (flag, _) in a.flags do
    a.check isDirectory flag
  match a.others with
  | [] => throw (.usage .missingSource)
  | source :: extra =>
    checkPath source
    if extra.isEmpty then return .request (a.toRequest source)
    else throw (.usage (.extraArguments extra))

end Arguments

end CodeMarkup
