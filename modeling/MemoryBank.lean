import MemoryBank.Batch.Coordinator
import MemoryBank.Batch.Outcome
import MemoryBank.CommandLine.Arguments
import MemoryBank.CommandLine.ByteSize
import MemoryBank.CommandLine.Command
import MemoryBank.CommandLine.Report
import MemoryBank.CommandLine.Run
import MemoryBank.CommandLine.Table
import MemoryBank.CommandLine.Timestamp
import MemoryBank.Decimal.Digits
import MemoryBank.Decimal.Reading
import MemoryBank.Decimal.Shortest
import MemoryBank.Decode.Basic
import MemoryBank.Decode.Fields
import MemoryBank.Decode.Mismatch
import MemoryBank.Engine.Basic
import MemoryBank.Engine.Canned
import MemoryBank.Engine.Direct
import MemoryBank.Failure
import MemoryBank.Filter.Condition
import MemoryBank.Filter.Predicate
import MemoryBank.Index.Descriptor
import MemoryBank.Index.Kind
import MemoryBank.Index.Status
import MemoryBank.Index.Upkeep
import MemoryBank.Json.Basic
import MemoryBank.Json.Equality
import MemoryBank.Json.Object
import MemoryBank.Json.Printer
import MemoryBank.Json.Reader
import MemoryBank.Main
import MemoryBank.Memory.Category
import MemoryBank.Memory.Item
import MemoryBank.Memory.Payload
import MemoryBank.Memory.Record
import MemoryBank.Memory.Request
import MemoryBank.Memory.Scope
import MemoryBank.NameMap
import MemoryBank.Number.Binary64
import MemoryBank.Number.Single
import MemoryBank.Number.Word
import MemoryBank.Program.Basic
import MemoryBank.Program.Pool
import MemoryBank.Proofs.Batch.Collecting
import MemoryBank.Proofs.Batch.Reporting
import MemoryBank.Proofs.CommandLine.Redacting
import MemoryBank.Proofs.Decode.Fields
import MemoryBank.Proofs.Engine.Isolation
import MemoryBank.Proofs.Fallible
import MemoryBank.Proofs.Filter.Conditions
import MemoryBank.Proofs.Filter.Numbers
import MemoryBank.Proofs.Filter.Translation
import MemoryBank.Proofs.Fleet
import MemoryBank.Proofs.Index.Cataloguing
import MemoryBank.Proofs.Index.Choice
import MemoryBank.Proofs.Index.Concurrent
import MemoryBank.Proofs.Index.Ensuring
import MemoryBank.Proofs.Index.Making
import MemoryBank.Proofs.Index.Resetting
import MemoryBank.Proofs.Index.Searchable
import MemoryBank.Proofs.Index.Sharing
import MemoryBank.Proofs.Index.Specs
import MemoryBank.Proofs.Index.Standing
import MemoryBank.Proofs.Index.Verdicts
import MemoryBank.Proofs.Json.Equality
import MemoryBank.Proofs.Json.Objects
import MemoryBank.Proofs.Memory.Codec
import MemoryBank.Proofs.Memory.Expiry
import MemoryBank.Proofs.Memory.Legibility
import MemoryBank.Proofs.Memory.Normalizing
import MemoryBank.Proofs.Memory.Reading
import MemoryBank.Proofs.Memory.Updating
import MemoryBank.Proofs.Number.Comparing
import MemoryBank.Proofs.Number.Doubles
import MemoryBank.Proofs.Number.Narrowing
import MemoryBank.Proofs.Number.Rounding
import MemoryBank.Proofs.Number.Singles
import MemoryBank.Proofs.Number.Values
import MemoryBank.Proofs.Number.Widening
import MemoryBank.Proofs.Program.Chronicle
import MemoryBank.Proofs.Program.Exchanges
import MemoryBank.Proofs.Program.Interference
import MemoryBank.Proofs.Program.Runs
import MemoryBank.Proofs.Program.Schedules
import MemoryBank.Proofs.Service.Adding
import MemoryBank.Proofs.Service.Batches
import MemoryBank.Proofs.Service.Deeds
import MemoryBank.Proofs.Service.Errands
import MemoryBank.Proofs.Service.Failing
import MemoryBank.Proofs.Service.Hiding
import MemoryBank.Proofs.Service.Listing
import MemoryBank.Proofs.Service.Paging
import MemoryBank.Proofs.Service.Refusals
import MemoryBank.Proofs.Service.Tending
import MemoryBank.Proofs.Sorting
import MemoryBank.Proofs.Store.Adapter
import MemoryBank.Proofs.Store.Catalogues
import MemoryBank.Proofs.Store.Changes
import MemoryBank.Proofs.Store.Documents
import MemoryBank.Proofs.Store.Filtering
import MemoryBank.Proofs.Store.Finding
import MemoryBank.Proofs.Store.Halfway
import MemoryBank.Proofs.Store.Identity
import MemoryBank.Proofs.Store.Inserting
import MemoryBank.Proofs.Store.Ledger
import MemoryBank.Proofs.Store.Metrics
import MemoryBank.Proofs.Store.Modifiers
import MemoryBank.Proofs.Store.Operations
import MemoryBank.Proofs.Store.Paths
import MemoryBank.Proofs.Store.Places
import MemoryBank.Proofs.Store.Ranking
import MemoryBank.Proofs.Store.Refusals
import MemoryBank.Proofs.Store.Remaining
import MemoryBank.Proofs.Store.Requests
import MemoryBank.Proofs.Store.Searching
import MemoryBank.Proofs.Store.Selecting
import MemoryBank.Proofs.Store.Shuffling
import MemoryBank.Proofs.Store.Sweeping
import MemoryBank.Proofs.Store.Uniqueness
import MemoryBank.Proofs.Store.Walking
import MemoryBank.Proofs.Sweep
import MemoryBank.Service.Basic
import MemoryBank.Service.Together
import MemoryBank.Settings.Config
import MemoryBank.Settings.ConfigFile
import MemoryBank.Settings.Environment
import MemoryBank.Sorting
import MemoryBank.Store.Call
import MemoryBank.Store.Catalogue
import MemoryBank.Store.Database
import MemoryBank.Store.Document
import MemoryBank.Store.Identifier
import MemoryBank.Store.Path
import MemoryBank.Store.Pipeline
import MemoryBank.Store.Query
import MemoryBank.Store.Script
import MemoryBank.Store.Similarity
import MemoryBank.Store.SimilarityQuery
import MemoryBank.Store.Update
import MemoryBank.Sweep
import MemoryBank.Text.Blank
import MemoryBank.Text.CharWidth
import MemoryBank.Text.Emoji
import MemoryBank.Text.EmojiTable
import MemoryBank.Text.LetterCase
import MemoryBank.Text.LetterTable
import MemoryBank.Text.Ligature
import MemoryBank.Text.MarkTable
import MemoryBank.Text.Quoted
import MemoryBank.Text.Split
import MemoryBank.Text.Width
import MemoryBank.Toml.Lexical
import MemoryBank.Toml.Reader
import MemoryBank.Toml.Table
import MemoryBank.VectorStore
