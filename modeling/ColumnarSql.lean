import ColumnarSql.CommandLine.FileTree
import ColumnarSql.Main
import ColumnarSql.Proofs.AddressForms
import ColumnarSql.Proofs.CoercionSteps
import ColumnarSql.Proofs.DecimalTruncation
import ColumnarSql.Proofs.DecimalRounding
import ColumnarSql.Proofs.TestGrouping
import ColumnarSql.Proofs.ArithmeticDivergence
import ColumnarSql.Proofs.EngineRoundTrip
import ColumnarSql.Proofs.PercentDoubling
import ColumnarSql.Proofs.Conformance
import ColumnarSql.Proofs.RepeatedCoercion
import ColumnarSql.Proofs.CompileFailures
import ColumnarSql.Proofs.DoubleText
import ColumnarSql.Proofs.JsonText
import ColumnarSql.Proofs.ValueTexts
import ColumnarSql.Proofs.JsonForms
import ColumnarSql.Proofs.StatementForms
import ColumnarSql.Proofs.InsertedRows
import ColumnarSql.Proofs.LiteralTokens
import ColumnarSql.Proofs.TextCoercion
import ColumnarSql.Proofs.KeyLists
import ColumnarSql.Proofs.BareColumns
import ColumnarSql.Proofs.TtlTargets
import ColumnarSql.Proofs.ReportedSettings
import ColumnarSql.Proofs.EnumerationMembers
import ColumnarSql.Proofs.BytePositions
import ColumnarSql.Proofs.ClausePositions
import ColumnarSql.Proofs.ErrorPositions
import ColumnarSql.Proofs.CompilationPass
