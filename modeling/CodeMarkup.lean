import CodeMarkup.Main
import CodeMarkup.Proofs.Command.LineNumbers
import CodeMarkup.Proofs.Command.Output
import CodeMarkup.Proofs.Formatter.Agreement
import CodeMarkup.Proofs.Formatter.Displayed
import CodeMarkup.Proofs.Formatter.Encoded
import CodeMarkup.Proofs.Formatter.LineNumbers
import CodeMarkup.Proofs.Formatter.Reuse
import CodeMarkup.Proofs.Formatter.ShortNames
import CodeMarkup.Proofs.Options.Spelling
import CodeMarkup.Proofs.Kind.Paths
import CodeMarkup.Proofs.Formatter.KindPaths
import CodeMarkup.Proofs.Command.Stages
import CodeMarkup.Proofs.Kind.Nearest
import CodeMarkup.Proofs.ShortNames.Mapping
import CodeMarkup.Proofs.Span.Failure
import CodeMarkup.Proofs.Style.Declarations
import CodeMarkup.Proofs.Lexer.Precedence
import CodeMarkup.Proofs.Formatter.Rechunking
import CodeMarkup.Proofs.Formatter.Paging
import CodeMarkup.Proofs.Formatter.Layouts
import CodeMarkup.Proofs.Formatter.Records
import CodeMarkup.Proofs.Command.Diagnostics
