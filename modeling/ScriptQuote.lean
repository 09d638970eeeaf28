import ScriptQuote.Catalog
import ScriptQuote.Main
import ScriptQuote.Session
import ScriptQuote.Proofs.Context.BlockComment
import ScriptQuote.Proofs.Text.Pieces
import ScriptQuote.Proofs.Context.SingleQuoted
import ScriptQuote.Proofs.Context.Wildcard
import ScriptQuote.Proofs.Context.DoubleQuoted
import ScriptQuote.Proofs.Context.Unreadable
import ScriptQuote.Proofs.Context.NumberedEscape
import ScriptQuote.Proofs.Argument.Bareword
import ScriptQuote.Proofs.Argument.RoundTrip
import ScriptQuote.Proofs.Argument.Decision
import ScriptQuote.Proofs.Config.Document
import ScriptQuote.Proofs.Config.Dialect
import ScriptQuote.Proofs.Config.Contribution
import ScriptQuote.Proofs.Config.Priority
import ScriptQuote.Proofs.Config.Faults
import ScriptQuote.Proofs.Config.Merging
import ScriptQuote.Proofs.Json.ReadBack
import ScriptQuote.Proofs.Json.Numerals
import ScriptQuote.Proofs.World
import ScriptQuote.Proofs.Command
import ScriptQuote.Proofs.FileTree
import ScriptQuote.Proofs.Json.WholeNumber
import ScriptQuote.Proofs.Json.Visible
import ScriptQuote.Proofs.Record.Entry
import ScriptQuote.Proofs.Record.Logging
import ScriptQuote.Proofs.Request
import ScriptQuote.Proofs.Refusal
import ScriptQuote.Proofs.Argument.FirstRule
import ScriptQuote.Proofs.Argument.PatternRule
import ScriptQuote.Proofs.Context.BracedVariable
import ScriptQuote.Proofs.Context.Doubling
import ScriptQuote.Proofs.Argument.MemberName
import ScriptQuote.Proofs.Text.Runs
import ScriptQuote.Proofs.Context.Canonical
import ScriptQuote.Proofs.Config.Grouping
import ScriptQuote.Proofs.Config.Acceptance
import ScriptQuote.Proofs.Argument.PlainName
import ScriptQuote.Proofs.Config.ProjectSearch
import ScriptQuote.Proofs.ImportCheck.BreadthFirst
import ScriptQuote.Proofs.ImportCheck.Verdict
import ScriptQuote.Proofs.ImportCheck.Listing
import ScriptQuote.Proofs.Numeral.Hexadecimal
