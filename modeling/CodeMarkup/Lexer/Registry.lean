import CodeMarkup.Dictionary
import CodeMarkup.Lexer.Glob
import CodeMarkup.Text.Lowercase

/-!
Registries of lexers, and the lookup of a lexer by the name of a file. Of the lexers that a name
fits, the one registered first counts; names are compared in lower case. Globs that ask for no more
than an extension stand in a table of their own, which is looked up first.
-/

namespace CodeMarkup

/-- What is registered about a lexer: the names it goes by, and the globs of the files it is for. -/
structure LexerEntry where
  aliases : List String
  globs : List String
  deriving DecidableEq, Repr

/-- The registered lexers, in order. -/
abbrev Registry := List LexerEntry

def baseName (path : String) : String :=
  match Text.afterLast? '/' path.toList with
  | some after => String.ofList after
  | none => path

/-- The extension that a glob asks for, if it asks for nothing else. -/
def plainExtension? (glob : String) : Option String :=
  match glob.toList with
  | '*' :: '.' :: extension =>
    if extension.any (fun c => c == '*' || c == '?' || c == '[') then none
    else some (String.ofList extension)
  | _ => none

/-- The lexers by extension and by glob. -/
structure FilenameRules where
  byExtension : Dictionary String String
  byPattern : Dictionary String String

namespace FilenameRules

/-- The rules once a glob has been added for a lexer. -/
def add (rules : FilenameRules) (lexer glob : String) : FilenameRules :=
  let glob := Text.lower glob
  { byPattern := rules.byPattern.putNew glob lexer
    byExtension := match plainExtension? glob with
      | some extension => rules.byExtension.putNew extension lexer
      | none => rules.byExtension }

/-- The rules once the globs of a lexer have been added; one without a name is left out. -/
def addEntry (rules : FilenameRules) (e : LexerEntry) : FilenameRules :=
  match e.aliases with
  | [] => rules
  | lexer :: _ => e.globs.foldl (fun r glob => r.add lexer glob) rules

def ofRegistry (registry : Registry) : FilenameRules :=
  registry.foldl addEntry ⟨.empty, .empty⟩

/-- The lexer for a file of the given name, which is in lower case. -/
def lexerFor? (rules : FilenameRules) (name : String) : Option String :=
  let byExtension := do
    let extension ← Text.afterLast? '.' name.toList
    rules.byExtension.get? (String.ofList extension)
  match byExtension with
  | some lexer => some lexer
  | none => (rules.byPattern.entries.find? fun e => Glob.isMatch e.1 name).map Prod.snd

def lexerForPath? (rules : FilenameRules) (path : String) : Option String :=
  rules.lexerFor? (Text.lower (baseName path))

end FilenameRules

/-- The lexer that goes by a name, in whatever case: the first of its names. -/
def Registry.named? (registry : Registry) (name : String) : Option String :=
  (registry.find? fun e => Text.lower name ∈ e.aliases).bind (·.aliases.head?)

end CodeMarkup
