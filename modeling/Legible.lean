import Legible.Main
import Legible.Page.Script
import Legible.Proofs.Faults
import Legible.Proofs.Layout
import Legible.Snapshot
import Legible.Proofs.LiteralText
import Legible.Proofs.LineBreaks
import Legible.Proofs.Grammar.Basic
import Legible.Proofs.Grammar.Words
import Legible.Proofs.Grammar.Heads
import Legible.Proofs.Grammar.Reader
import Legible.Proofs.Grammar.Unambiguous
import Legible.Proofs.Grammar.Levels
import Legible.Proofs.Grammar.Literals
import Legible.Proofs.Grouping
import Legible.Proofs.Grammar.Tally
import Legible.Proofs.Parentheses
import Legible.Proofs.DecimalNumber
import Legible.Proofs.ExactEvaluation
import Legible.Proofs.TypeRoundTrip
import Legible.Proofs.SnapshotRuns
import Legible.Proofs.SerializedParts
import Legible.Proofs.SerializedTrees
import Legible.Proofs.CapturedConstants
import Legible.Proofs.Concatenation
import Legible.Proofs.RenderCommand
import Legible.Proofs.ConcurrentCalls
import Legible.Proofs.FittingLines
import Legible.Proofs.OperandTypes
import Legible.Proofs.BuiltTrees
import Legible.Proofs.DecimalArithmetic
import Legible.Proofs.DecimalReading
import Legible.Proofs.DecimalRoundTrip
import Legible.Proofs.TypeGrammar
import Legible.Proofs.PageStrokes
import Legible.Proofs.TrailingBreaks
import Legible.Proofs.LayerStacks
import Legible.Proofs.QuotedLiterals
import Legible.Proofs.SubstringBounds
import Legible.Proofs.SampleTrees
import Legible.Proofs.Discovery
import Legible.Proofs.FieldsByName
import Legible.Proofs.ObjectLayouts
import Legible.Proofs.PageBookkeeping
import Legible.Proofs.PiecewiseText
import Legible.Proofs.CarriageReturns
