import Sift.Aggregation.Basic
import Sift.Aggregation.Compute
import Sift.Aggregation.Encoding
import Sift.Aggregation.Group
import Sift.Aggregation.Grouping
import Sift.Aggregation.Renaming
import Sift.Aggregation.Result
import Sift.Aggregation.ResultEncoding
import Sift.Configuration.Basic
import Sift.Configuration.Content
import Sift.Configuration.Shape
import Sift.Error
import Sift.Geo.Cell
import Sift.Geo.Distance
import Sift.Geo.Extent
import Sift.Geo.Point
import Sift.Geo.Reading
import Sift.Json.Basic
import Sift.Json.Reader
import Sift.Json.Record
import Sift.Number.Decimal
import Sift.Number.Exact
import Sift.Number.Floating
import Sift.Number.Numeral
import Sift.Number.Rounding
import Sift.Path.Basic
import Sift.Path.Error
import Sift.Path.Evaluator
import Sift.Pattern.Basic
import Sift.Pattern.Class
import Sift.Pattern.Escape
import Sift.Pattern.Flags
import Sift.Pattern.Glob
import Sift.Pattern.Reader
import Sift.Pattern.Size
import Sift.Query.Basic
import Sift.Query.Encoding
import Sift.Query.Predicate
import Sift.Query.Substitution
import Sift.QueryText.Error
import Sift.QueryText.Lexer
import Sift.QueryText.Literal
import Sift.QueryText.Parser
import Sift.QueryText.Token
import Sift.Search.Backend
import Sift.Search.Request
import Sift.Search.Result
import Sift.Sorting
import Sift.Store.Basic
import Sift.Store.Search
import Sift.Table
import Sift.Text.Basic
import Sift.Time.Calendar
import Sift.Time.Error
import Sift.Time.Expression
import Sift.Time.Format
import Sift.Time.Instant
import Sift.Time.Interval
import Sift.Time.Literal
import Sift.Time.Region
import Sift.Time.Regions
import Sift.Time.Unit
import Sift.Time.Zone
import Sift.Toml.Node
import Sift.Toml.Reader
import Sift.Toml.Scalar
import Sift.Unicode.Ages
import Sift.Unicode.Alphanumeric
import Sift.Unicode.Blank
import Sift.Unicode.Breaks
import Sift.Unicode.CaseFold
import Sift.Unicode.Categories
import Sift.Unicode.CharSet
import Sift.Unicode.Encoding
import Sift.Unicode.Listing
import Sift.Unicode.Property
import Sift.Unicode.Ranges
import Sift.Unicode.ScriptExtensions
import Sift.Unicode.Scripts
import Sift.Unicode.Traits
import Sift.Value.Basic
import Sift.Value.Coerce
import Sift.Value.Order
import Sift.Vocabulary.Basic
import Sift.Vocabulary.Expansion
import Sift.Vocabulary.NameError
import Sift.Vocabulary.Request
import Sift.Vocabulary.Selection
import Sift.Yaml.Cursor
import Sift.Yaml.Document
import Sift.Yaml.Layout
import Sift.Yaml.Node
import Sift.Yaml.Reader
import Sift.Yaml.Resolution
import Sift.Yaml.Scalar
import Sift.Yaml.Tag
import Sift.Yaml.Token
import Sift.Proofs.IntegerRounding
import Sift.Proofs.SortOrder
import Sift.Proofs.Sequencing
import Sift.Proofs.Leaves
import Sift.Proofs.Nesting
import Sift.Proofs.References
import Sift.Proofs.FieldRenaming
import Sift.Proofs.Aliases
import Sift.Proofs.DrillDown
import Sift.Proofs.TokenTexts
import Sift.Proofs.Grammar
import Sift.Proofs.ClauseLeaves
import Sift.Proofs.QueryNames
import Sift.Proofs.Computability
import Sift.Proofs.WrittenRecords
import Sift.Proofs.RoundTrip
import Sift.Proofs.NestedFilters
import Sift.Proofs.NearestMagnitude
import Sift.Proofs.BoundComparison
import Sift.Proofs.NamedBuckets
import Sift.Proofs.RangeBuckets
import Sift.Proofs.ShortestDecimal
import Sift.Proofs.NumberTexts
import Sift.Proofs.TermComparison
import Sift.Proofs.TermBuckets
import Sift.Proofs.ReadPaths
import Sift.Proofs.ReturnedFilters
import Sift.Proofs.EndlessNames
import Sift.Proofs.CalendarMonths
import Sift.Proofs.IntervalTiling
import Sift.Proofs.DateExpressions
import Sift.Proofs.DateBuckets
import Sift.Proofs.FixedClocks
import Sift.Proofs.ByteOrder
import Sift.Proofs.StoreRuns
import Sift.Proofs.RegionalClocks
import Sift.Proofs.RegionalBuckets
import Sift.Proofs.SentDocuments
import Sift.Proofs.SentQueries
import Sift.Proofs.ResultTexts
import Sift.Proofs.ExpressibleGroups
import Sift.Proofs.SurvivingResults
import Sift.Proofs.BracketedTimes
import Sift.Proofs.CalendarDays
import Sift.Proofs.WrittenDates
import Sift.Proofs.DateRanges
import Sift.Proofs.StableSorting
import Sift.Proofs.OnePassGroups
import Sift.Proofs.SortedResults
import Sift.Proofs.TermLists
import Sift.Proofs.Pages
import Sift.Proofs.PathTexts
import Sift.Proofs.Demands
import Sift.Proofs.ValueSets
import Sift.Proofs.CaseFolding
import Sift.Proofs.PatternRuns
import Sift.Proofs.PatternLanguages
import Sift.Proofs.GlobSources
import Sift.Proofs.GlobMatches
import Sift.Proofs.Refusals
import Sift.Proofs.PlainClauses
import Sift.Proofs.RegexRests
import Sift.Proofs.RegexEndings
import Sift.Proofs.RegexReadings
import Sift.Proofs.EnclosedExpressions
import Sift.Proofs.FullMatches
import Sift.Proofs.ListPaths
import Sift.Proofs.EpochAnchors
import Sift.Proofs.CalendarCycles
import Sift.Proofs.RecordDates
import Sift.Proofs.IntegerParts
import Sift.Proofs.IntegerCoercions
import Sift.Proofs.TermsAndBounds
import Sift.Proofs.CellNames
import Sift.Proofs.LongIntervals
import Sift.Proofs.DateOperations
import Sift.Proofs.DatePrecisions
import Sift.Proofs.RoundedRuns
import Sift.Proofs.RoundingDirections
import Sift.Proofs.ComposedOperations
import Sift.Proofs.RenderedPaths
