import Reporting.Store.Connection
import Reporting.Mapping.Entity
import Reporting.Registry.Load
import Reporting.Settings.Loading
import Reporting.Wire.Assembly
import Reporting.Wire.Output
import Reporting.Proofs.Assembly
import Reporting.Proofs.Formatting
import Reporting.Proofs.Tree
import Reporting.Proofs.Totals
import Reporting.Proofs.Places
import Reporting.Proofs.Placement
import Reporting.Proofs.Columns
import Reporting.Proofs.Pieces
import Reporting.Proofs.Token
import Reporting.Proofs.Truth
import Reporting.Proofs.Condition
import Reporting.Proofs.FilterText
import Reporting.Proofs.Placeholders
import Reporting.Proofs.Access
import Reporting.Proofs.Plan
import Reporting.Proofs.Staging
import Reporting.Proofs.Stream
import Reporting.Proofs.Digits
import Reporting.Proofs.TokenText
import Reporting.Proofs.Paging
import Reporting.Proofs.Walk
import Reporting.Proofs.Meaning
import Reporting.Proofs.Negation
import Reporting.Proofs.Chains
import Reporting.Proofs.Operators
import Reporting.Proofs.RowOrder
import Reporting.Proofs.Completion
import Reporting.Proofs.Interleaving
import Reporting.Proofs.DecimalValue
import Reporting.Proofs.Statistics
import Reporting.Proofs.RollUp
import Reporting.Proofs.PageClause
import Reporting.Proofs.Scopes
import Reporting.Proofs.ReadBack
import Reporting.Proofs.Pool
import Reporting.Proofs.RowPermutation
import Reporting.Proofs.Refusal
import Reporting.Proofs.OperandLists
import Reporting.Proofs.GroupLabels
import Reporting.Proofs.Subqueries
import Reporting.Proofs.Documents
import Reporting.Proofs.SingleOperand
import Reporting.Proofs.Settings
import Reporting.Proofs.Addresses
import Reporting.Proofs.Enclosure
import Reporting.Proofs.Listing
import Reporting.Proofs.Nearest
import Reporting.Proofs.SquareRoot
import Reporting.Proofs.Definedness
import Reporting.Proofs.Accuracy
import Reporting.Proofs.Directives
import Reporting.Proofs.Fallback
import Reporting.Proofs.Letters
import Reporting.Proofs.NearestEven
import Reporting.Proofs.NumberText
import Reporting.Proofs.QuotedText
import Reporting.Proofs.Progress
import Reporting.Proofs.DayNumbers
import Reporting.Proofs.StoreReading
import Reporting.Proofs.HeldTexts
import Reporting.Proofs.ShortestDigits
import Reporting.Proofs.DecimalReading
import Reporting.Proofs.GivenOperands
import Reporting.Proofs.NarrowAddresses
import Reporting.Proofs.BoundValues
import Reporting.Proofs.TimestampText
import Reporting.Proofs.Lexemes
import Reporting.Proofs.Layout
