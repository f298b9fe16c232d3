import CodeMarkup.Lexer.Catalogue
import CodeMarkup.Span

/-!
Lexers: the choice of one by its name or the name of a file, and the tokens of a source. Line breaks
at either end of the source are dropped before one is added, so every source ends in one. Of the
lexers themselves there are only `text` and `output`, which make one token of the whole source; how
any other lexer cuts a source is left out, and its tokens are given beside the source.
-/

namespace CodeMarkup

/-- Why there is no lexer: the name asked for is unknown, or the one that a registry gives for a
file. -/
inductive LexerError where
  | unknownName (name : String)
  | unknownAlias (name : String)
  deriving DecidableEq, Repr

def LexerError.message : LexerError → String
  | unknownName name => "Unknown lexer: " ++ Text.quoted name
  | unknownAlias name => "no lexer for alias " ++ Text.quoted name ++ " found"

/-- A lexer, by the first of its names, and whether it strips blanks, if it was told. -/
structure Lexer where
  name : String
  stripsBlanks : Option Bool
  deriving DecidableEq, Repr

/-- The text with every kind of line break made a line feed. -/
def unifyBreaks : List Char → List Char
  | '\r' :: '\n' :: cs => '\n' :: unifyBreaks cs
  | '\r' :: cs => '\n' :: unifyBreaks cs
  | c :: cs => c :: unifyBreaks cs
  | [] => []

/-- The text without the line feeds at either end. -/
def stripBreaks (cs : List Char) : List Char :=
  ((cs.dropWhile (· == '\n')).reverse.dropWhile (· == '\n')).reverse

/-- The text without a byte order mark in front. -/
def dropMark : List Char → List Char
  | '\ufeff' :: cs => cs
  | cs => cs

/-- The source as a lexer sees it. -/
def prepareSource (source : String) : String :=
  String.ofList (stripBreaks (unifyBreaks (dropMark source.toList)) ++ ['\n'])

namespace Lexer

def plain : Lexer := ⟨"text", none⟩

/-- The lexer of a given name among the standard ones, told to keep blanks. -/
def named? (name : String) : Option Lexer :=
  (Registry.standard.named? name).map (⟨·, some false⟩)

/-- The lexer asked for by name or, without a name, the one for the file at a path according to the
rules, or the plain one if there is none. An empty name or path is none. -/
def choose (rules : FilenameRules) (name path : String) : Except LexerError Lexer :=
  if name ≠ "" then match named? name with
    | some l => .ok l
    | none => .error (.unknownName name)
  else match if path = "" then none else rules.lexerForPath? path with
    | none => .ok plain
    | some found => match named? found with
      | some l => .ok l
      | none => .error (.unknownAlias found)

/-- The kind of the one token that `text` or `output` makes of a source. -/
def kind (l : Lexer) : Kind :=
  if l.name = "output" then (Kind.root.child "Generic").child "Output" else Kind.root.child "Text"

/-- The tokens that `text` or `output` makes of a source. They stand for those of no other lexer. -/
def tokens (l : Lexer) (source : String) : List Token :=
  [⟨.kind l.kind, prepareSource source⟩]

end Lexer

end CodeMarkup
