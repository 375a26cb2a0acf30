import HostTypes.Attempt
import HostTypes.Builtin.Entries
import HostTypes.Builtin.Parsers
import HostTypes.Builtin.Types
import HostTypes.Cache
import HostTypes.Catalog.Basic
import HostTypes.Catalog.Builder
import HostTypes.Catalog.Display
import HostTypes.Catalog.Entry
import HostTypes.Catalog.Lookup
import HostTypes.Catalog.Order
import HostTypes.Catalog.Parsing
import HostTypes.Catalog.Storage
import HostTypes.Change
import HostTypes.Codec.Binary
import HostTypes.Codec.Bytes
import HostTypes.Codec.Hex
import HostTypes.Codec.Json
import HostTypes.Codec.JsonPayload
import HostTypes.Codec.Serializer
import HostTypes.Conversion.Convert
import HostTypes.Conversion.Graph
import HostTypes.Event.Expression
import HostTypes.Event.Getter
import HostTypes.Event.Resolve
import HostTypes.Hierarchy
import HostTypes.Host
import HostTypes.Number.Binary64
import HostTypes.Number.FixedPoint
import HostTypes.Number.Numeral
import HostTypes.Number.Power
import HostTypes.Number.Shortest
import HostTypes.Parser
import HostTypes.Pattern.Basic
import HostTypes.Pattern.CharSet
import HostTypes.Pattern.Matching
import HostTypes.Pattern.Reader
import HostTypes.Query
import HostTypes.Report.Error
import HostTypes.Report.Notice
import HostTypes.Settings.Basic
import HostTypes.Settings.File
import HostTypes.Settings.Logging
import HostTypes.Stock.Affixes
import HostTypes.Stock.Mappings
import HostTypes.Stock.Readers
import HostTypes.Stock.Recorder
import HostTypes.Text.Blank
import HostTypes.Text.Case
import HostTypes.Text.Category
import HostTypes.Text.Digit
import HostTypes.Timespan.Basic
import HostTypes.Timespan.Clock
import HostTypes.Timespan.Phrase
import HostTypes.Toml.Basic
import HostTypes.Toml.Reader
import HostTypes.Toml.Writer
import HostTypes.Value
import HostTypes.Proofs.Catalog.Emission
import HostTypes.Proofs.Catalog.PriorityOrder
import HostTypes.Proofs.Conversion.Path
import HostTypes.Proofs.Conversion.Search
import HostTypes.Proofs.Query.Faithful
import HostTypes.Proofs.Query.Nesting
import HostTypes.Proofs.Query.Questions
import HostTypes.Proofs.Catalog.Registration
import HostTypes.Proofs.Catalog.ClosestEntry
import HostTypes.Proofs.Event.Selection
import HostTypes.Proofs.Hierarchy.Declaring
import HostTypes.Proofs.Query.Sharing
import HostTypes.Proofs.Catalog.RoundTrip
import HostTypes.Proofs.Query.Ensuring
import HostTypes.Proofs.Event.Recall
import HostTypes.Proofs.Event.Session
import HostTypes.Proofs.Catalog.Circularity
import HostTypes.Proofs.Catalog.Conflicts
import HostTypes.Proofs.Catalog.Aliases
import HostTypes.Proofs.Event.SetUp
import HostTypes.Proofs.Event.Rearrangement
import HostTypes.Proofs.Conversion.Running
import HostTypes.Proofs.Catalog.Reading
import HostTypes.Proofs.Catalog.Ranks
import HostTypes.Proofs.Catalog.ConvertedReading
import HostTypes.Proofs.Catalog.Complaints
import HostTypes.Proofs.Catalog.Flags
import HostTypes.Proofs.Codec.ExactFormat
import HostTypes.Proofs.Conversion.Composing
import HostTypes.Proofs.Hierarchy.CommonSupertype
import HostTypes.Proofs.Catalog.SharedEntry
import HostTypes.Proofs.Catalog.Freezing
import HostTypes.Proofs.Event.ConvertedValues
import HostTypes.Proofs.Codec.JsonText
import HostTypes.Proofs.Codec.JsonDocument
import HostTypes.Proofs.Codec.StockSerializers
import HostTypes.Proofs.Catalog.Issues
import HostTypes.Proofs.Catalog.AliasWalk
import HostTypes.Proofs.Timespan.ClockReading
import HostTypes.Proofs.Pattern.Spans
import HostTypes.Proofs.Pattern.Locality
import HostTypes.Proofs.Pattern.Readers
import HostTypes.Proofs.Pattern.Anchoring
import HostTypes.Proofs.Pattern.CaseFlag
import HostTypes.Proofs.Catalog.UserInput
import HostTypes.Proofs.Number.Rounding
import HostTypes.Proofs.Number.ShortestDecimal
import HostTypes.Proofs.Codec.NumberDocuments
import HostTypes.Proofs.Catalog.Loading
import HostTypes.Proofs.Number.DecimalDigits
import HostTypes.Proofs.Number.Nearest
import HostTypes.Proofs.Number.WholeDoubles
import HostTypes.Proofs.Number.Numerals
import HostTypes.Proofs.Number.DisplayedNumber
import HostTypes.Proofs.Builtin.NumberReading
import HostTypes.Proofs.Text.Words
import HostTypes.Proofs.Timespan.PhraseWords
import HostTypes.Proofs.Timespan.Phrases
import HostTypes.Proofs.Timespan.PhraseReading
import HostTypes.Proofs.Timespan.ShownPhrase
import HostTypes.Proofs.Timespan.Rereading
import HostTypes.Proofs.Timespan.Carrying
import HostTypes.Proofs.Catalog.PendingCounts
import HostTypes.Proofs.Event.Changing
import HostTypes.Proofs.Toml.Documents
import HostTypes.Proofs.Toml.IntegerRange
import HostTypes.Proofs.Settings.SavedSettings
