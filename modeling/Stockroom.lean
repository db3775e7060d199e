import Stockroom.Json.Same
import Stockroom.Json.Printer
import Stockroom.Json.Parser
import Stockroom.Entity.Json
import Stockroom.Entity.Inventory
import Stockroom.Entity.Metric
import Stockroom.Entity.Device
import Stockroom.Entity.Report
import Stockroom.Entity.ProductWeights
import Stockroom.Query.Compile
import Stockroom.Query.Pipeline
import Stockroom.Store.Memory
import Stockroom.Postgres.ConnectionUrl
import Stockroom.Reporting.Response
import Stockroom.Proofs.Compilation
import Stockroom.Proofs.Searching
import Stockroom.Proofs.ForeignKeys
import Stockroom.Proofs.InventorySearch
import Stockroom.Proofs.Codec
import Stockroom.Proofs.Interleaving
import Stockroom.Proofs.JoinedSearches
import Stockroom.Proofs.CombinedReports
import Stockroom.Proofs.DecimalText
import Stockroom.Proofs.KeyAssignment
import Stockroom.Proofs.Ingest
import Stockroom.Proofs.IngestSearch
import Stockroom.Proofs.ExactComparison
import Stockroom.Proofs.RoundTrip
import Stockroom.Proofs.DoubleSums
import Stockroom.Proofs.Grouping
import Stockroom.Proofs.WeightTotals
import Stockroom.Proofs.Observations
import Stockroom.Proofs.CallDiscipline
import Stockroom.Proofs.BatchInsertion
import Stockroom.Proofs.Fragments
import Stockroom.Proofs.StatementText
import Stockroom.Proofs.StatementBindings
import Stockroom.Proofs.StoreLog
import Stockroom.Proofs.SentStatements
import Stockroom.Proofs.ClauseOrder
import Stockroom.Proofs.IdentifierSpelling
import Stockroom.Proofs.LateCalls
import Stockroom.Proofs.IngestedWeights
import Stockroom.Proofs.Overflow
import Stockroom.Proofs.IntegerGrammar
import Stockroom.Proofs.NumberGrammar
import Stockroom.Proofs.ParameterFaults
import Stockroom.Proofs.RestrictingClauses
import Stockroom.Proofs.IntegerRanges
import Stockroom.Proofs.LimitLiterals
import Stockroom.Proofs.SameValues
import Stockroom.Proofs.GroupRows
import Stockroom.Proofs.GroupSearch
import Stockroom.Proofs.IntegerTexts
import Stockroom.Proofs.Decoding
import Stockroom.Proofs.IntegerNumbers
import Stockroom.Proofs.FieldValueSearch
import Stockroom.Proofs.FilterEdits
import Stockroom.Proofs.BindingCounts
import Stockroom.Proofs.IdentifierForms
import Stockroom.Proofs.ParameterForms
import Stockroom.Proofs.CriteriaForms
import Stockroom.Proofs.PercentText
import Stockroom.Proofs.UrlParts
import Stockroom.Proofs.Connecting
