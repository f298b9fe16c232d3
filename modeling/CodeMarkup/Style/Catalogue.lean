import CodeMarkup.Style

/-!
The named styles.
-/

namespace CodeMarkup.Style

/-- A style in which kinds are grouped by their look; the kinds are given by their paths below the
root. -/
def ofGroups (name : String) (groups : List (StyleInfo × List String)) : Style :=
  ofInfos name (groups.flatMap fun (info, paths) => paths.map fun p => (Kind.ofDotted p, info))

def standard : Style := ofGroups "DefaultStyle" [
  ({}, [
    "", "Text", "Name", "Literal", "Generic", "Escape", "Other", "Name.Property", "Name.Other",
    "Literal.Date", "Punctuation", "Punctuation.Marker"]),
  ({ color := "bbbbbb" }, [
    "Text.Whitespace"]),
  ({ color := "3D7B7B", italic := true }, [
    "Comment", "Comment.Hashbang", "Comment.Multiline", "Comment.PreprocFile", "Comment.Single",
    "Comment.Special"]),
  ({ color := "9C6500" }, [
    "Comment.Preproc"]),
  ({ color := "008000", bold := true }, [
    "Keyword", "Name.Tag", "Keyword.Constant", "Keyword.Declaration", "Keyword.Namespace",
    "Keyword.Reserved"]),
  ({ color := "008000" }, [
    "Keyword.Pseudo", "Name.Builtin", "Literal.String.Other", "Name.Builtin.Pseudo"]),
  ({ color := "B00040" }, [
    "Keyword.Type"]),
  ({ color := "666666" }, [
    "Operator", "Literal.Number", "Literal.Number.Bin", "Literal.Number.Float",
    "Literal.Number.Hex", "Literal.Number.Integer", "Literal.Number.Integer.Long",
    "Literal.Number.Oct"]),
  ({ color := "AA22FF", bold := true }, [
    "Operator.Word"]),
  ({ color := "0000FF" }, [
    "Name.Function", "Name.Function.Magic"]),
  ({ color := "0000FF", bold := true }, [
    "Name.Class", "Name.Namespace"]),
  ({ color := "CB3F38", bold := true }, [
    "Name.Exception"]),
  ({ color := "19177C" }, [
    "Name.Variable", "Literal.String.Symbol", "Name.Variable.Class", "Name.Variable.Global",
    "Name.Variable.Instance", "Name.Variable.Magic"]),
  ({ color := "880000" }, [
    "Name.Constant"]),
  ({ color := "767600" }, [
    "Name.Label"]),
  ({ color := "717171", bold := true }, [
    "Name.Entity"]),
  ({ color := "687822" }, [
    "Name.Attribute"]),
  ({ color := "AA22FF" }, [
    "Name.Decorator"]),
  ({ color := "BA2121" }, [
    "Literal.String", "Literal.String.Affix", "Literal.String.Backtick", "Literal.String.Char",
    "Literal.String.Delimiter", "Literal.String.Double", "Literal.String.Heredoc",
    "Literal.String.Single"]),
  ({ color := "BA2121", italic := true }, [
    "Literal.String.Doc"]),
  ({ color := "A45A77", bold := true }, [
    "Literal.String.Interpol"]),
  ({ color := "AA5D1F", bold := true }, [
    "Literal.String.Escape"]),
  ({ color := "A45A77" }, [
    "Literal.String.Regex"]),
  ({ color := "000080", bold := true }, [
    "Generic.Heading", "Generic.Prompt"]),
  ({ color := "800080", bold := true }, [
    "Generic.Subheading"]),
  ({ color := "A00000" }, [
    "Generic.Deleted"]),
  ({ color := "008400" }, [
    "Generic.Inserted"]),
  ({ color := "E40000" }, [
    "Generic.Error"]),
  ({ italic := true }, [
    "Generic.Emph"]),
  ({ bold := true }, [
    "Generic.Strong"]),
  ({ bold := true, italic := true }, [
    "Generic.EmphStrong"]),
  ({ color := "717171" }, [
    "Generic.Output"]),
  ({ color := "0044DD" }, [
    "Generic.Traceback"]),
  ({ border := "FF0000" }, [
    "Error"])]

def monokai : Style := ofGroups "MonokaiStyle" [
  ({ color := "f8f8f2" }, [
    "", "Text", "Text.Whitespace", "Other", "Punctuation", "Name", "Name.Entity",
    "Name.Property", "Name.Label", "Name.Namespace", "Name.Variable", "Name.Variable.Class",
    "Name.Variable.Global", "Name.Variable.Instance", "Generic", "Generic.Heading", "Escape",
    "Name.Variable.Magic", "Punctuation.Marker"]),
  ({ color := "ed007e", background := "1e0010" }, [
    "Error"]),
  ({ color := "959077" }, [
    "Comment", "Comment.Multiline", "Comment.Preproc", "Comment.Single", "Comment.Special",
    "Generic.Subheading", "Comment.Hashbang", "Comment.PreprocFile"]),
  ({ color := "66d9ef" }, [
    "Keyword", "Keyword.Constant", "Keyword.Declaration", "Keyword.Pseudo", "Keyword.Reserved",
    "Keyword.Type", "Name.Constant", "Generic.Output", "Generic.Traceback"]),
  ({ color := "ff4689" }, [
    "Keyword.Namespace", "Operator", "Operator.Word", "Name.Tag", "Generic.Deleted",
    "Generic.Error"]),
  ({ color := "a6e22e" }, [
    "Name.Attribute", "Name.Builtin", "Name.Builtin.Pseudo", "Name.Class", "Name.Decorator",
    "Name.Exception", "Name.Function", "Name.Other", "Generic.Inserted", "Name.Function.Magic"]),
  ({ color := "ae81ff" }, [
    "Literal", "Literal.Number", "Literal.Number.Float", "Literal.Number.Hex",
    "Literal.Number.Integer", "Literal.Number.Integer.Long", "Literal.Number.Oct",
    "Literal.String.Escape", "Literal.Number.Bin"]),
  ({ color := "e6db74" }, [
    "Literal.Date", "Literal.String", "Literal.String.Backtick", "Literal.String.Char",
    "Literal.String.Doc", "Literal.String.Double", "Literal.String.Heredoc",
    "Literal.String.Interpol", "Literal.String.Other", "Literal.String.Regex",
    "Literal.String.Single", "Literal.String.Symbol", "Literal.String.Affix",
    "Literal.String.Delimiter"]),
  ({ color := "f8f8f2", italic := true }, [
    "Generic.Emph"]),
  ({ color := "ff4689", bold := true }, [
    "Generic.Prompt"]),
  ({ color := "f8f8f2", bold := true }, [
    "Generic.Strong"]),
  ({ color := "f8f8f2", bold := true, italic := true }, [
    "Generic.EmphStrong"])]

def blackWhite : Style := ofGroups "BlackWhiteStyle" [
  ({}, [
    "", "Comment.Preproc", "Keyword.Pseudo", "Keyword.Type", "Operator", "Name", "Literal",
    "Generic", "Text", "Text.Whitespace", "Escape", "Other", "Name.Attribute", "Name.Builtin",
    "Name.Builtin.Pseudo", "Name.Constant", "Name.Decorator", "Name.Function",
    "Name.Function.Magic", "Name.Property", "Name.Label", "Name.Other", "Name.Variable",
    "Name.Variable.Class", "Name.Variable.Global", "Name.Variable.Instance",
    "Name.Variable.Magic", "Literal.Date", "Literal.Number", "Literal.Number.Bin",
    "Literal.Number.Float", "Literal.Number.Hex", "Literal.Number.Integer",
    "Literal.Number.Integer.Long", "Literal.Number.Oct", "Punctuation", "Punctuation.Marker",
    "Generic.Deleted", "Generic.Error", "Generic.Inserted", "Generic.Output",
    "Generic.Traceback"]),
  ({ italic := true }, [
    "Comment", "Literal.String", "Generic.Emph", "Literal.String.Affix",
    "Literal.String.Backtick", "Literal.String.Char", "Literal.String.Delimiter",
    "Literal.String.Doc", "Literal.String.Double", "Literal.String.Heredoc",
    "Literal.String.Other", "Literal.String.Regex", "Literal.String.Single",
    "Literal.String.Symbol", "Comment.Hashbang", "Comment.Multiline", "Comment.PreprocFile",
    "Comment.Single", "Comment.Special"]),
  ({ bold := true }, [
    "Keyword", "Operator.Word", "Name.Class", "Name.Namespace", "Name.Exception", "Name.Entity",
    "Name.Tag", "Generic.Heading", "Generic.Subheading", "Generic.Strong", "Generic.Prompt",
    "Keyword.Constant", "Keyword.Declaration", "Keyword.Namespace", "Keyword.Reserved"]),
  ({ bold := true, italic := true }, [
    "Literal.String.Interpol", "Literal.String.Escape", "Generic.EmphStrong"]),
  ({ border := "FF0000" }, [
    "Error"])]

def algol : Style := ofGroups "AlgolStyle" [
  ({}, [
    "", "Name", "Operator", "Literal", "Text", "Text.Whitespace", "Escape", "Other",
    "Name.Attribute", "Name.Decorator", "Name.Entity", "Name.Exception", "Name.Property",
    "Name.Label", "Name.Other", "Name.Tag", "Literal.Date", "Literal.Number",
    "Literal.Number.Bin", "Literal.Number.Float", "Literal.Number.Hex", "Literal.Number.Integer",
    "Literal.Number.Integer.Long", "Literal.Number.Oct", "Punctuation", "Punctuation.Marker",
    "Generic", "Generic.Deleted", "Generic.Emph", "Generic.Error", "Generic.Heading",
    "Generic.Inserted", "Generic.Output", "Generic.Prompt", "Generic.Strong",
    "Generic.Subheading", "Generic.EmphStrong", "Generic.Traceback"]),
  ({ color := "888888", italic := true }, [
    "Comment", "Comment.Hashbang", "Comment.Multiline", "Comment.PreprocFile", "Comment.Single"]),
  ({ color := "888888", bold := true }, [
    "Comment.Preproc", "Comment.Special"]),
  ({ bold := true, underline := true }, [
    "Keyword", "Keyword.Constant", "Keyword.Namespace", "Keyword.Pseudo", "Keyword.Reserved",
    "Keyword.Type"]),
  ({ bold := true, italic := true, underline := true }, [
    "Keyword.Declaration"]),
  ({ bold := true, italic := true }, [
    "Name.Builtin", "Name.Builtin.Pseudo"]),
  ({ color := "666666", bold := true, italic := true }, [
    "Name.Namespace", "Name.Class", "Name.Function", "Name.Variable", "Name.Constant",
    "Name.Function.Magic", "Name.Variable.Class", "Name.Variable.Global",
    "Name.Variable.Instance", "Name.Variable.Magic"]),
  ({ bold := true }, [
    "Operator.Word"]),
  ({ color := "666666", italic := true }, [
    "Literal.String", "Literal.String.Affix", "Literal.String.Backtick", "Literal.String.Char",
    "Literal.String.Delimiter", "Literal.String.Doc", "Literal.String.Double",
    "Literal.String.Escape", "Literal.String.Heredoc", "Literal.String.Interpol",
    "Literal.String.Other", "Literal.String.Regex", "Literal.String.Single",
    "Literal.String.Symbol"]),
  ({ border := "FF0000" }, [
    "Error"])]

def native : Style := ofGroups "NativeStyle" [
  ({ color := "d0d0d0" }, [
    "", "Text", "Operator", "Literal", "Name", "Generic", "Escape", "Other", "Name.Entity",
    "Name.Property", "Name.Label", "Name.Other", "Literal.Date", "Punctuation",
    "Punctuation.Marker"]),
  ({ color := "666666" }, [
    "Text.Whitespace"]),
  ({ color := "ababab", italic := true }, [
    "Comment", "Comment.Hashbang", "Comment.Multiline", "Comment.PreprocFile", "Comment.Single"]),
  ({ color := "ff3a3a", bold := true }, [
    "Comment.Preproc"]),
  ({ color := "e50808", background := "520000", bold := true }, [
    "Comment.Special"]),
  ({ color := "6ebf26", bold := true }, [
    "Keyword", "Operator.Word", "Name.Tag", "Keyword.Constant", "Keyword.Declaration",
    "Keyword.Namespace", "Keyword.Reserved", "Keyword.Type"]),
  ({ color := "6ebf26" }, [
    "Keyword.Pseudo"]),
  ({ color := "ed9d13" }, [
    "Literal.String", "Literal.String.Affix", "Literal.String.Backtick", "Literal.String.Char",
    "Literal.String.Delimiter", "Literal.String.Doc", "Literal.String.Double",
    "Literal.String.Escape", "Literal.String.Heredoc", "Literal.String.Interpol",
    "Literal.String.Regex", "Literal.String.Single", "Literal.String.Symbol"]),
  ({ color := "ffa500" }, [
    "Literal.String.Other", "Name.Decorator"]),
  ({ color := "51b2fd" }, [
    "Literal.Number", "Literal.Number.Bin", "Literal.Number.Float", "Literal.Number.Hex",
    "Literal.Number.Integer", "Literal.Number.Integer.Long", "Literal.Number.Oct"]),
  ({ color := "2fbccd" }, [
    "Name.Builtin", "Name.Builtin.Pseudo"]),
  ({ color := "40ffff" }, [
    "Name.Variable", "Name.Constant", "Name.Variable.Class", "Name.Variable.Global",
    "Name.Variable.Instance", "Name.Variable.Magic"]),
  ({ color := "71adff", underline := true }, [
    "Name.Class", "Name.Namespace"]),
  ({ color := "71adff" }, [
    "Name.Function", "Name.Function.Magic"]),
  ({ color := "bbbbbb" }, [
    "Name.Exception", "Name.Attribute"]),
  ({ color := "ffffff", bold := true }, [
    "Generic.Heading"]),
  ({ color := "ffffff", underline := true }, [
    "Generic.Subheading"]),
  ({ color := "ff3a3a" }, [
    "Generic.Deleted", "Generic.Error", "Generic.Traceback"]),
  ({ color := "589819" }, [
    "Generic.Inserted"]),
  ({ color := "d0d0d0", italic := true }, [
    "Generic.Emph"]),
  ({ color := "d0d0d0", bold := true }, [
    "Generic.Strong"]),
  ({ color := "d0d0d0", bold := true, italic := true }, [
    "Generic.EmphStrong"]),
  ({ color := "aaaaaa" }, [
    "Generic.Prompt"]),
  ({ color := "cccccc" }, [
    "Generic.Output"]),
  ({ color := "a61717", background := "e3d2d2" }, [
    "Error"])]

def catalogue : List (String × Style) := [
  ("default", standard), ("monokai", monokai), ("bw", blackWhite), ("algol", algol),
  ("native", native)]

def named? (name : String) : Option Style :=
  valueAt? name catalogue

end CodeMarkup.Style
