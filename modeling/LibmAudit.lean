import LibmAudit.Arguments
import LibmAudit.Binary
import LibmAudit.Category
import LibmAudit.Check.Distance
import LibmAudit.Check.Report
import LibmAudit.Check.Special
import LibmAudit.Check.Subject
import LibmAudit.Check.Table
import LibmAudit.Check.Verdict
import LibmAudit.CommandLine.Arguments
import LibmAudit.CommandLine.Session
import LibmAudit.Datum
import LibmAudit.Decimal.ExtendedText
import LibmAudit.Decimal.NumberText
import LibmAudit.Decimal.Numeral
import LibmAudit.Decimal.Shortest
import LibmAudit.Element.Basic
import LibmAudit.Element.Code
import LibmAudit.Element.Listing
import LibmAudit.Element.Problem
import LibmAudit.Element.TimeUnit
import LibmAudit.Enclosure.Arc
import LibmAudit.Enclosure.Basic
import LibmAudit.Enclosure.Bracket
import LibmAudit.Enclosure.Constants
import LibmAudit.Enclosure.Dyadic
import LibmAudit.Enclosure.ErrorFunction
import LibmAudit.Enclosure.Exponential
import LibmAudit.Enclosure.Gamma
import LibmAudit.Enclosure.Logarithm
import LibmAudit.Enclosure.Power
import LibmAudit.Enclosure.Root
import LibmAudit.Enclosure.Trigonometric
import LibmAudit.Environment
import LibmAudit.Environment.Action
import LibmAudit.Fault
import LibmAudit.Flags
import LibmAudit.Format.Basic
import LibmAudit.Format.Context
import LibmAudit.Format.Image
import LibmAudit.Format.Named
import LibmAudit.Format.Pattern
import LibmAudit.Format.Reading
import LibmAudit.Format.Rendering
import LibmAudit.Format.Round
import LibmAudit.FrozenMap
import LibmAudit.Library.Basic
import LibmAudit.Library.Choice
import LibmAudit.Library.Operands
import LibmAudit.Library.Step
import LibmAudit.Literal
import LibmAudit.Main
import LibmAudit.Mode
import LibmAudit.Multiprecision.Arithmetic
import LibmAudit.Multiprecision.Elementary
import LibmAudit.Multiprecision.Operands
import LibmAudit.Multiprecision.Operation
import LibmAudit.Multiprecision.Outcome
import LibmAudit.Multiprecision.Pattern
import LibmAudit.Multiprecision.Special
import LibmAudit.Native.Arithmetic
import LibmAudit.Native.Library
import LibmAudit.Native.Remainder
import LibmAudit.Policy
import LibmAudit.Proofs.Check.Accept
import LibmAudit.Proofs.Check.Account
import LibmAudit.Proofs.Check.Answers
import LibmAudit.Proofs.Check.Completion
import LibmAudit.Proofs.Check.Conversion
import LibmAudit.Proofs.Check.Distance
import LibmAudit.Proofs.Check.Integer
import LibmAudit.Proofs.Check.Judgement
import LibmAudit.Proofs.Check.Output
import LibmAudit.Proofs.Check.Relax
import LibmAudit.Proofs.Check.Rows
import LibmAudit.Proofs.Check.Run
import LibmAudit.Proofs.Check.Split
import LibmAudit.Proofs.Check.Table
import LibmAudit.Proofs.Check.Trial
import LibmAudit.Proofs.CommandLine.Answer
import LibmAudit.Proofs.CommandLine.Printed
import LibmAudit.Proofs.Context
import LibmAudit.Proofs.Decimal.Grammar
import LibmAudit.Proofs.Decimal.Literal
import LibmAudit.Proofs.Decimal.Reader
import LibmAudit.Proofs.Dyadic
import LibmAudit.Proofs.Enclosure.Root
import LibmAudit.Proofs.Environment.Scopes
import LibmAudit.Proofs.Environment.Stack
import LibmAudit.Proofs.Fallible
import LibmAudit.Proofs.Image
import LibmAudit.Proofs.Literal.Exact
import LibmAudit.Proofs.Literal.Faults
import LibmAudit.Proofs.Literal.Hexadecimal
import LibmAudit.Proofs.Literal.Outcome
import LibmAudit.Proofs.Literal.Range
import LibmAudit.Proofs.Magnitude
import LibmAudit.Proofs.Multiprecision.Bridge
import LibmAudit.Proofs.Multiprecision.Completion
import LibmAudit.Proofs.Multiprecision.Exact
import LibmAudit.Proofs.Multiprecision.Modes
import LibmAudit.Proofs.Multiprecision.Outcome
import LibmAudit.Proofs.Multiprecision.Reading
import LibmAudit.Proofs.Multiprecision.Root
import LibmAudit.Proofs.Multiprecision.Truncation
import LibmAudit.Proofs.Native.Agreement
import LibmAudit.Proofs.Native.Outputs
import LibmAudit.Proofs.Native.Round
import LibmAudit.Proofs.Native.Scaling
import LibmAudit.Proofs.Order.Count
import LibmAudit.Proofs.Order.Finite
import LibmAudit.Proofs.Order.Neighbour
import LibmAudit.Proofs.Order.Ordinal
import LibmAudit.Proofs.Pattern
import LibmAudit.Proofs.Reading
import LibmAudit.Proofs.Reference.Action
import LibmAudit.Proofs.Reference.Decomposition
import LibmAudit.Proofs.Reference.Exactness
import LibmAudit.Proofs.Reference.Extrema
import LibmAudit.Proofs.Reference.Faults
import LibmAudit.Proofs.Reference.GammaSign
import LibmAudit.Proofs.Reference.Integral
import LibmAudit.Proofs.Reference.Modes
import LibmAudit.Proofs.Reference.Operations
import LibmAudit.Proofs.Reference.Outputs
import LibmAudit.Proofs.Reference.Parts
import LibmAudit.Proofs.Reference.Remainders
import LibmAudit.Proofs.Reference.Roots
import LibmAudit.Proofs.Reference.Scaling
import LibmAudit.Proofs.Reference.Sums
import LibmAudit.Proofs.Remainder.Constants
import LibmAudit.Proofs.Remainder.Correct
import LibmAudit.Proofs.Remainder.Division
import LibmAudit.Proofs.Remainder.Evaluation
import LibmAudit.Proofs.Remainder.Grid
import LibmAudit.Proofs.Remainder.Machine
import LibmAudit.Proofs.Remainder.Native
import LibmAudit.Proofs.Remainder.Operand
import LibmAudit.Proofs.Remainder.Quotient
import LibmAudit.Proofs.Remainder.Reduction
import LibmAudit.Proofs.Remainder.Reference
import LibmAudit.Proofs.Remainder.Rest
import LibmAudit.Proofs.Remainder.Trace
import LibmAudit.Proofs.Rendering.Fraction
import LibmAudit.Proofs.Rendering.Layout
import LibmAudit.Proofs.Rendering.RoundTrip
import LibmAudit.Proofs.Rounding.Basic
import LibmAudit.Proofs.Rounding.Bracket
import LibmAudit.Proofs.Rounding.Correct
import LibmAudit.Proofs.Rounding.Directed
import LibmAudit.Proofs.Rounding.Exact
import LibmAudit.Proofs.Rounding.Integer
import LibmAudit.Proofs.Rounding.Nearest
import LibmAudit.Proofs.Rounding.Neighbours
import LibmAudit.Proofs.Rounding.Outcome
import LibmAudit.Proofs.Rounding.Pack
import LibmAudit.Proofs.Rounding.Range
import LibmAudit.Proofs.Rounding.Ratio
import LibmAudit.Proofs.Rounding.Real
import LibmAudit.Proofs.Rounding.Root
import LibmAudit.Proofs.Rounding.Saturation
import LibmAudit.Proofs.Rounding.TwoStep
import LibmAudit.Proofs.Rounding.Unique
import LibmAudit.Proofs.Suite.Action
import LibmAudit.Proofs.Suite.Policies
import LibmAudit.Proofs.Suite.Sessions
import LibmAudit.Proofs.Suite.Tables
import LibmAudit.Proofs.Suite.Verdicts
import LibmAudit.Proofs.Text.Digits
import LibmAudit.Proofs.Text.Normal
import LibmAudit.Proofs.Text.Numeric
import LibmAudit.Proofs.Text.Plain
import LibmAudit.Proofs.Text.Shortest
import LibmAudit.Proofs.Value
import LibmAudit.Reference.Action
import LibmAudit.Reference.Exact
import LibmAudit.Reference.Library
import LibmAudit.Routine
import LibmAudit.Suite.Action
import LibmAudit.Suite.Rows.General
import LibmAudit.Suite.Rows.Particular
import LibmAudit.Suite.Session
import LibmAudit.Suite.Tables
import LibmAudit.Text.Blank
import LibmAudit.Text.Digit
import LibmAudit.Text.Leading
import LibmAudit.Text.LowerCase
import LibmAudit.Text.Printable
import LibmAudit.Text.Quoted
import LibmAudit.Text.Runs
import LibmAudit.Value.Basic
import LibmAudit.Value.Conversion
