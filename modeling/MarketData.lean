import MarketData.Address.Basic
import MarketData.Address.Host
import MarketData.Address.Path
import MarketData.Address.Read
import MarketData.Batch.Drive
import MarketData.Batch.Engine
import MarketData.Batch.Results
import MarketData.Binary64.Basic
import MarketData.Binary64.Shortest
import MarketData.Binary64.Text
import MarketData.CommandLine.Arguments
import MarketData.CommandLine.Help
import MarketData.CommandLine.Run
import MarketData.CommandLine.Usage
import MarketData.Distinct
import MarketData.Domain.Composition
import MarketData.Domain.CompositionTable
import MarketData.Domain.Direction
import MarketData.Domain.ExpansionTable
import MarketData.Domain.Joining
import MarketData.Domain.Mapping
import MarketData.Domain.Name
import MarketData.Domain.PropertyTable
import MarketData.Domain.Punycode
import MarketData.Domain.ReplacementTable
import MarketData.Domain.StatusTable
import MarketData.Gate
import MarketData.HashOrder
import MarketData.Json.Error
import MarketData.Json.Number
import MarketData.Json.Read
import MarketData.Json.Text
import MarketData.Json.Typed
import MarketData.Json.Value
import MarketData.Json.Writer
import MarketData.Main
import MarketData.Market.Client
import MarketData.Market.Config
import MarketData.Market.Endpoint
import MarketData.Market.Error
import MarketData.Market.Options
import MarketData.Market.Request
import MarketData.Market.Sections
import MarketData.Market.Symbol
import MarketData.Policy
import MarketData.Pool
import MarketData.Proofs.Attempts
import MarketData.Proofs.Batch.Basic
import MarketData.Proofs.Batch.Course
import MarketData.Proofs.Batch.Coverage
import MarketData.Proofs.Batch.Custody
import MarketData.Proofs.Batch.Endings
import MarketData.Proofs.Batch.Schedule
import MarketData.Proofs.Batch.Transparency
import MarketData.Proofs.Drive.Moves
import MarketData.Proofs.Drive.Places
import MarketData.Proofs.Drive.Rest
import MarketData.Proofs.Drive.Run
import MarketData.Proofs.Gate.Course
import MarketData.Proofs.Gate.Dispatch
import MarketData.Proofs.Gate.Order
import MarketData.Proofs.Gate.Safety
import MarketData.Proofs.Gate.Traffic
import MarketData.Proofs.Pool.Acquire
import MarketData.Proofs.Pool.Custody
import MarketData.Proofs.Request.Said
import MarketData.Proofs.Request.Valid
import MarketData.Proofs.Results
import MarketData.Proofs.SortedMap
import MarketData.Proofs.Steps
import MarketData.Proofs.Stock.Call
import MarketData.Proofs.Stock.Merging
import MarketData.Proofs.Stock.Split
import MarketData.SortedMap
import MarketData.Text.Bytes
import MarketData.Text.CodePoints
import MarketData.Text.Cut
import MarketData.Text.Decimal
import MarketData.Text.Percent
import MarketData.Text.Quoted
import MarketData.Text.Terminal
import MarketData.Text.UnprintableTable
import MarketData.Text.Upper
import MarketData.Text.UpperTable
import MarketData.Transport.Config
import MarketData.Transport.Fault
import MarketData.Transport.Network
import MarketData.Url.Basic
import MarketData.Url.Params
import MarketData.Proofs.Drive.Slots
import MarketData.Proofs.Drive.Termination
import MarketData.Proofs.Url.Percent
import MarketData.Proofs.Url.Decoded
import MarketData.Proofs.Url.FirstWins
import MarketData.Proofs.Request.Signing
import MarketData.Proofs.Client.Alike
import MarketData.Proofs.Client.Secrecy
import MarketData.Proofs.Stock.Order
import MarketData.Proofs.Stock.Chunks
import MarketData.Proofs.Batch.Paths
import MarketData.Proofs.Client.Apart
import MarketData.Proofs.Batch.Built
import MarketData.Proofs.Transport.Process
import MarketData.Proofs.Transport.FirstSetup
import MarketData.Proofs.Pool.Tiers
import MarketData.Proofs.Text.Upper
import MarketData.Proofs.Json.Strings
import MarketData.Proofs.Json.Numbers
import MarketData.Proofs.Json.Sequences
import MarketData.Proofs.Json.Documents
import MarketData.Proofs.Symbol.UpperCase
import MarketData.Proofs.Batch.Reports
import MarketData.Proofs.Batch.Loosening
import MarketData.Proofs.Batch.RollUp
import MarketData.Proofs.Client.Endpoint
import MarketData.Proofs.Stock.Naming
import MarketData.Proofs.Gate.Spacing
import MarketData.Proofs.CommandLine.StockOutput
