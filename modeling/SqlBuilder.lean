import SqlBuilder.Proofs.Enumeration.Acceptance
import SqlBuilder.Proofs.Expr.Comparator
import SqlBuilder.Proofs.History.Program
import SqlBuilder.Proofs.Grammar.NameGrammar
import SqlBuilder.Proofs.Grammar.Requote
import SqlBuilder.Proofs.Interleaving.Order
import SqlBuilder.Proofs.Keyword.Hook
import SqlBuilder.Proofs.Nesting.Script
import SqlBuilder.Proofs.Param.Soundness
import SqlBuilder.Proofs.Query.Assembly
import SqlBuilder.Proofs.Query.Attempt
import SqlBuilder.Proofs.Query.Correlation
import SqlBuilder.Proofs.Query.Enclosure
import SqlBuilder.Proofs.Query.KeyLookup
import SqlBuilder.Proofs.Query.Page
import SqlBuilder.Proofs.Query.Seam
import SqlBuilder.Proofs.Script.Counting
import SqlBuilder.Proofs.Script.JoinCount
import SqlBuilder.Proofs.Script.Listed
import SqlBuilder.Proofs.Script.Selection
import SqlBuilder.Proofs.Statement.LiteralReader
import SqlBuilder.Proofs.Statement.Span
import SqlBuilder.Proofs.Text.Truncation
import SqlBuilder.Proofs.Wire.RoundTrip
import SqlBuilder.Script.Run
