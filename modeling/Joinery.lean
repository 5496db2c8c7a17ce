import Joinery.Binary64
import Joinery.Code
import Joinery.Code.Parser
import Joinery.Command.Arguments
import Joinery.Command.Generate
import Joinery.Command.Rendering
import Joinery.Command.Report
import Joinery.Command.Run
import Joinery.Command.Workshop
import Joinery.Config
import Joinery.Config.Document
import Joinery.Config.File
import Joinery.Config.Load
import Joinery.Configurator
import Joinery.Decimal
import Joinery.Decimal.Text
import Joinery.Design
import Joinery.Flags
import Joinery.Generation
import Joinery.Index
import Joinery.Json
import Joinery.Json.Decode
import Joinery.Json.Documents
import Joinery.Json.Printer
import Joinery.Json.Reader
import Joinery.Main
import Joinery.Money
import Joinery.Preset
import Joinery.Preset.Standard
import Joinery.Preview
import Joinery.Preview.Batch
import Joinery.Pricing.Fault
import Joinery.Pricing.Quote
import Joinery.Pricing.Supplement
import Joinery.Pricing.Tier
import Joinery.Pricing.Volume
import Joinery.Proofs.Code.Language
import Joinery.Proofs.Code.Offences
import Joinery.Proofs.Code.Reading
import Joinery.Proofs.Code.RoundTrip
import Joinery.Proofs.Command.Exits
import Joinery.Proofs.Command.Generation
import Joinery.Proofs.Command.Reports
import Joinery.Proofs.Config.Precedence
import Joinery.Proofs.Config.RoundTrip
import Joinery.Proofs.Config.Usability
import Joinery.Proofs.Configurator.Data
import Joinery.Proofs.Configurator.Finalization
import Joinery.Proofs.Decimal.Amount
import Joinery.Proofs.Decimal.Fitting
import Joinery.Proofs.Decimal.RoundTrip
import Joinery.Proofs.Design.RoundTrip
import Joinery.Proofs.Generation.Keys
import Joinery.Proofs.Json.Layout
import Joinery.Proofs.Json.RoundTrip
import Joinery.Proofs.Json.Structures
import Joinery.Proofs.Preview.Batches
import Joinery.Proofs.Preview.Calls
import Joinery.Proofs.Preview.Evictions
import Joinery.Proofs.Preview.Flights
import Joinery.Proofs.Preview.History
import Joinery.Proofs.Preview.Operations
import Joinery.Proofs.Preview.Outcomes
import Joinery.Proofs.Preview.Sharing
import Joinery.Proofs.Preview.Soundness
import Joinery.Proofs.Preview.Steadiness
import Joinery.Proofs.Preview.Tables
import Joinery.Proofs.Pricing.Amounts
import Joinery.Proofs.Pricing.Catalogs
import Joinery.Proofs.Pricing.Exactness
import Joinery.Proofs.Pricing.Monotonicity
import Joinery.Proofs.Pricing.Overflows
import Joinery.Proofs.Pricing.Volumes
import Joinery.Proofs.Pricing.WholeUnits
import Joinery.Proofs.Registry.Consistency
import Joinery.Proofs.Registry.Construction
import Joinery.Proofs.Service.Endpoints
import Joinery.Proofs.Service.Loops
import Joinery.Proofs.Service.Records
import Joinery.Proofs.Service.Redirects
import Joinery.Proofs.Service.Refusals
import Joinery.Proofs.Service.Requests
import Joinery.Proofs.Service.Retries
import Joinery.Proofs.Text.Numerals
import Joinery.Proofs.Timestamp.RoundTrip
import Joinery.Proofs.Toml.Lines
import Joinery.Proofs.Toml.Quotes
import Joinery.Proofs.Toml.Tables
import Joinery.Proofs.Toml.Values
import Joinery.Proofs.Traversal
import Joinery.Proofs.Url.Paths
import Joinery.Proofs.Url.Percent
import Joinery.Proofs.Validation.Report
import Joinery.Proofs.Validation.RoundTrip
import Joinery.Rounding
import Joinery.Service
import Joinery.Service.Endpoint
import Joinery.Service.Exchange
import Joinery.Service.Fault
import Joinery.Service.Retry
import Joinery.Table
import Joinery.Text.Blank
import Joinery.Text.Front
import Joinery.Text.Hex
import Joinery.Timestamp
import Joinery.Toml.Date
import Joinery.Toml.Number
import Joinery.Toml.Printer
import Joinery.Toml.Reader
import Joinery.Toml.Table
import Joinery.Toml.Text
import Joinery.Url.Address
import Joinery.Url.Domain
import Joinery.Url.Domain.Composition
import Joinery.Url.Domain.Direction
import Joinery.Url.Domain.Joining
import Joinery.Url.Domain.Mapping
import Joinery.Url.Domain.Marks
import Joinery.Url.Domain.Table
import Joinery.Url.Host
import Joinery.Url.Parser
import Joinery.Url.Percent
import Joinery.Url.Punycode
import Joinery.Url.Resolution
import Joinery.Validation
import Joinery.Word
