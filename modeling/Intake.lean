import Intake.Cache
import Intake.Calendar.Date
import Intake.Calendar.Pattern
import Intake.Calendar.Reading
import Intake.Condition
import Intake.Content
import Intake.Context
import Intake.Decimal.Binary
import Intake.Decimal.Layout
import Intake.Decimal.Shortest
import Intake.Definition
import Intake.Definition.Build
import Intake.Definition.Printer
import Intake.Definition.Reader
import Intake.Directory
import Intake.Failure
import Intake.Feed
import Intake.Field
import Intake.Graph
import Intake.Instant
import Intake.Json.Basic
import Intake.Json.Printer
import Intake.Json.Reader
import Intake.Keyed
import Intake.Locator
import Intake.Metrics
import Intake.Metrics.Summary
import Intake.Parser
import Intake.Parser.Build
import Intake.Parser.Parse
import Intake.Parser.Session
import Intake.Parser.Spread
import Intake.Path
import Intake.PreParser
import Intake.Proofs.Addresses
import Intake.Proofs.Agreement
import Intake.Proofs.Arrangement
import Intake.Proofs.Causes
import Intake.Proofs.Closing
import Intake.Proofs.Collecting
import Intake.Proofs.Composing
import Intake.Proofs.Conversion
import Intake.Proofs.Cutting
import Intake.Proofs.Days
import Intake.Proofs.Declining
import Intake.Proofs.Delivery
import Intake.Proofs.Demand
import Intake.Proofs.Digits
import Intake.Proofs.Documents
import Intake.Proofs.Elements
import Intake.Proofs.Encoding
import Intake.Proofs.Epochs
import Intake.Proofs.Eviction
import Intake.Proofs.Excluded
import Intake.Proofs.Failing
import Intake.Proofs.Finished
import Intake.Proofs.Finite
import Intake.Proofs.Futile
import Intake.Proofs.Gathering
import Intake.Proofs.GetSet
import Intake.Proofs.Grammar
import Intake.Proofs.History
import Intake.Proofs.Hits
import Intake.Proofs.Indegrees
import Intake.Proofs.Inside
import Intake.Proofs.Intervals
import Intake.Proofs.Isolation
import Intake.Proofs.Least
import Intake.Proofs.Lines
import Intake.Proofs.Merging
import Intake.Proofs.Messages
import Intake.Proofs.Namesakes
import Intake.Proofs.Naming
import Intake.Proofs.Order
import Intake.Proofs.Ordinals
import Intake.Proofs.Overrides
import Intake.Proofs.Padding
import Intake.Proofs.Pairing
import Intake.Proofs.Parts
import Intake.Proofs.Placeholders
import Intake.Proofs.Places
import Intake.Proofs.Pointing
import Intake.Proofs.Precedence
import Intake.Proofs.Prevailing
import Intake.Proofs.Ready
import Intake.Proofs.Rebuilding
import Intake.Proofs.References
import Intake.Proofs.Registration
import Intake.Proofs.Registries
import Intake.Proofs.Required
import Intake.Proofs.Run
import Intake.Proofs.Scaling
import Intake.Proofs.Several
import Intake.Proofs.Sight
import Intake.Proofs.Simulation
import Intake.Proofs.Spreading
import Intake.Proofs.Stacking
import Intake.Proofs.Steady
import Intake.Proofs.Times
import Intake.Proofs.Turns
import Intake.Proofs.Words
import Intake.Proofs.Written
import Intake.Properties
import Intake.RawData
import Intake.Readable
import Intake.Record.Apply
import Intake.Record.Basic
import Intake.Record.Completion
import Intake.Record.Delivery
import Intake.Record.Document
import Intake.Record.EventType
import Intake.Record.Merge
import Intake.Record.Severity
import Intake.Record.Slot
import Intake.Record.Times
import Intake.Regex.Basic
import Intake.Regex.Bracket
import Intake.Regex.CharSet
import Intake.Regex.Escape
import Intake.Regex.Flags
import Intake.Regex.Program
import Intake.Regex.Property
import Intake.Regex.Reader
import Intake.Regex.Replacement
import Intake.Regex.Search
import Intake.Regex.Weight
import Intake.Registry
import Intake.Resolution
import Intake.Resolver
import Intake.Saturating
import Intake.Settings
import Intake.Template
import Intake.Text.Base64
import Intake.Text.Blank
import Intake.Text.Casing
import Intake.Text.Casing.Table
import Intake.Text.Category
import Intake.Text.Category.Table
import Intake.Text.CodeSet
import Intake.Text.Hex
import Intake.Text.LineEnd
import Intake.Text.Number
import Intake.Text.Script
import Intake.Text.Script.Table
import Intake.Text.Trait
import Intake.Text.Trait.Table
import Intake.Text.Utf8
import Intake.Text.WordTable
import Intake.TimeFormat
import Intake.TimeUnit
import Intake.Toml.Datum
import Intake.Toml.Reader
import Intake.Toml.Scalar
import Intake.Toml.Table
import Intake.Transform
import Intake.Value
import Intake.Value.Json
import Intake.Yaml.Block
import Intake.Yaml.Cursor
import Intake.Yaml.Lexer
import Intake.Yaml.Node
import Intake.Yaml.Plain
import Intake.Yaml.Reader
import Intake.Yaml.Scalar
import Intake.Yaml.Tag
import Intake.Yaml.Token
