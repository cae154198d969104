import PersistentId.CommandLine.Request
import PersistentId.CommandLine.Run
import PersistentId.CommandLine.Word
import PersistentId.Decimal.Basic
import PersistentId.Decimal.Binary
import PersistentId.Decimal.Shortest
import PersistentId.Event
import PersistentId.Failure
import PersistentId.Handle
import PersistentId.Http.RequestLine
import PersistentId.Http.Response
import PersistentId.Http.Route
import PersistentId.Http.Service
import PersistentId.Http.Target
import PersistentId.Json.Basic
import PersistentId.Json.Reader
import PersistentId.Logging.Fault
import PersistentId.Logging.Format
import PersistentId.Logging.Parts
import PersistentId.Logging.Setup
import PersistentId.Logging.Shown
import PersistentId.Logging.Value
import PersistentId.Main
import PersistentId.Outcome
import PersistentId.Proofs.Handle.Composition
import PersistentId.Proofs.Minting.Distinct
import PersistentId.Proofs.Minting.Freshness
import PersistentId.Proofs.Minting.Integrity
import PersistentId.Proofs.Minting.Interleaving
import PersistentId.Proofs.Minting.Schedule
import PersistentId.Proofs.Registry.Resolution
import PersistentId.Proofs.Run.Effect
import PersistentId.Proofs.Run.Passage
import PersistentId.Proofs.Run.Permanence
import PersistentId.Registry
import PersistentId.Resolver
import PersistentId.Resource
import PersistentId.ResourceType
import PersistentId.Schema.Catalog
import PersistentId.Schema.Ddl
import PersistentId.Schema.Insertion
import PersistentId.Schema.Migration
import PersistentId.Schema.Tables
import PersistentId.Service.Measuring
import PersistentId.Service.Startup
import PersistentId.Settings.Basic
import PersistentId.Settings.Conversion
import PersistentId.Settings.Problem
import PersistentId.Site
import PersistentId.Store.Database
import PersistentId.Store.Minting
import PersistentId.Store.Pattern
import PersistentId.Store.Record
import PersistentId.Store.Statement
import PersistentId.Text.Blank
import PersistentId.Text.Category
import PersistentId.Text.CodeTable
import PersistentId.Text.CombiningTable
import PersistentId.Text.CompatibilityTable
import PersistentId.Text.DecompositionTable
import PersistentId.Text.Digit
import PersistentId.Text.Direction
import PersistentId.Text.Folding
import PersistentId.Text.LoneUnit
import PersistentId.Text.Lowercase
import PersistentId.Text.LowercaseTable
import PersistentId.Text.Normal
import PersistentId.Text.Numeral
import PersistentId.Text.Percent
import PersistentId.Text.Printable
import PersistentId.Text.Quoted
import PersistentId.Text.Ranges
import PersistentId.Text.Script
import PersistentId.Text.Simplified
import PersistentId.Text.Split
import PersistentId.Text.Utf8
import PersistentId.Url.Database
import PersistentId.Url.Escaping
import PersistentId.Url.HostName
import PersistentId.Url.HostName.Label
import PersistentId.Url.HostName.Mapping
import PersistentId.Url.HostName.Older
import PersistentId.Url.IpAddress
import PersistentId.Url.Location
import PersistentId.Url.Punycode
import PersistentId.World
import PersistentId.Proofs.Registry.Recognition
import PersistentId.Proofs.Minting.Resolution
import PersistentId.Proofs.Run.Rollback
import PersistentId.Proofs.Minting.ReverseLookup
import PersistentId.Proofs.Registry.RoundTrip
import PersistentId.Proofs.Run.Transaction
import PersistentId.Proofs.Minting.Enumeration
import PersistentId.Proofs.Registry.Agreement
import PersistentId.Proofs.Service.Request
import PersistentId.Proofs.Run.Outage
import PersistentId.Proofs.Service.Endpoints
import PersistentId.Proofs.Registry.Sink
import PersistentId.Proofs.Run.Sink
import PersistentId.Proofs.Service.Accounting
import PersistentId.Proofs.Service.Counters
import PersistentId.Proofs.Run.Counters
import PersistentId.Proofs.Run.LiveSettings
import PersistentId.Proofs.Store.PrefixQuery
import PersistentId.Proofs.Minting.Verdict
import PersistentId.Proofs.Minting.Recovery
import PersistentId.Proofs.Registry.Extension
import PersistentId.Proofs.Run.Extension
import PersistentId.Proofs.Service.Batch
import PersistentId.Proofs.Registry.Reordering
import PersistentId.Proofs.Run.Reordering
import PersistentId.Proofs.Run.InsertionOrder
import PersistentId.Proofs.Service.RequestLine
import PersistentId.Proofs.Service.Methods
import PersistentId.Proofs.Schema.Reversal
import PersistentId.Json.Grammar
import PersistentId.Proofs.Json.Reading
import PersistentId.Proofs.Schema.Supply
import PersistentId.Proofs.Schema.Refinement
import PersistentId.Proofs.Service.Bodies
import PersistentId.Proofs.Handle.Decoding
