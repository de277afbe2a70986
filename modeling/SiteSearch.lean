import SiteSearch.Binary64.Basic
import SiteSearch.Binary64.Shortest
import SiteSearch.Binary64.Text
import SiteSearch.Collection.Language
import SiteSearch.Collection.Name
import SiteSearch.Connection.Clock
import SiteSearch.Connection.Config
import SiteSearch.Connection.Retry
import SiteSearch.Connection.Signature
import SiteSearch.Content.Element
import SiteSearch.Content.Model
import SiteSearch.Engine.Call
import SiteSearch.Engine.Error
import SiteSearch.Engine.Journal
import SiteSearch.Engine.Memory.Analysis
import SiteSearch.Engine.Memory.Clause
import SiteSearch.Engine.Memory.Condition
import SiteSearch.Engine.Memory.Document
import SiteSearch.Engine.Memory.Engine
import SiteSearch.Engine.Memory.Glob
import SiteSearch.Engine.Memory.Index
import SiteSearch.Engine.Memory.Search
import SiteSearch.Engine.Memory.Store
import SiteSearch.Engine.Program
import SiteSearch.Engine.Rehearsal
import SiteSearch.Engine.Remote.Client
import SiteSearch.Engine.Remote.Delivery
import SiteSearch.Engine.Remote.Reply
import SiteSearch.Engine.Remote.Request
import SiteSearch.Field.Mapping
import SiteSearch.Field.Name
import SiteSearch.Field.Signature
import SiteSearch.Field.SignatureCache
import SiteSearch.Hash.Sha256
import SiteSearch.Json.Basic
import SiteSearch.Json.Fields
import SiteSearch.Json.Printer
import SiteSearch.Json.Reader
import SiteSearch.NameMap
import SiteSearch.Query.Ranking
import SiteSearch.Query.Reader
import SiteSearch.Query.Rendering
import SiteSearch.Query.Request
import SiteSearch.Query.Token
import SiteSearch.Service.Administration
import SiteSearch.Service.Alias
import SiteSearch.Service.Cleanup
import SiteSearch.Service.Document
import SiteSearch.Service.Drift
import SiteSearch.Service.Indexing
import SiteSearch.Service.Inspection
import SiteSearch.Service.Lifecycle
import SiteSearch.Service.Lock
import SiteSearch.Service.Metric
import SiteSearch.Service.Operation
import SiteSearch.Service.Search
import SiteSearch.Service.WriteBlock
import SiteSearch.Text.Alphanumeric
import SiteSearch.Text.Bytes
import SiteSearch.Text.Blank
import SiteSearch.Text.CodeRange
import SiteSearch.Text.Composition
import SiteSearch.Text.LetterCase
import SiteSearch.Text.Mark
import SiteSearch.Text.MarkOrder
import SiteSearch.Text.Pieces
import SiteSearch.Text.Quoted
import SiteSearch.Text.Unsigned
import SiteSearch.Text.Utf8
import SiteSearch.Url.Address
import SiteSearch.Url.Basic
import SiteSearch.Url.Domain.Label
import SiteSearch.Url.Domain.Direction
import SiteSearch.Url.Domain.Joining
import SiteSearch.Url.Domain.Punycode
import SiteSearch.Url.Domain.Reading
import SiteSearch.Url.Domain.Refused
import SiteSearch.Url.Escape
import SiteSearch.Url.Host
import SiteSearch.Url.Path
import SiteSearch.Url.Reader
import SiteSearch.Proofs.Service.Dialogue
import SiteSearch.Proofs.Collection.Generation
import SiteSearch.Proofs.Memory.Frame
import SiteSearch.Proofs.Memory.Carriers
import SiteSearch.Proofs.Memory.Answer
import SiteSearch.Proofs.Service.History
import SiteSearch.Proofs.Service.Calls
import SiteSearch.Proofs.Service.Lookup
import SiteSearch.Proofs.Service.Making
import SiteSearch.Proofs.Memory.Look
import SiteSearch.Proofs.Alias.NextTime
import SiteSearch.Proofs.Service.Move
import SiteSearch.Proofs.Service.Cloning
import SiteSearch.Proofs.Service.Sweep
import SiteSearch.Proofs.Alias.Ownership
import SiteSearch.Proofs.Alias.Bound
import SiteSearch.Proofs.Memory.Copy
import SiteSearch.Proofs.Migration.Binding
import SiteSearch.Proofs.Migration.Generations
import SiteSearch.Proofs.Memory.Block
import SiteSearch.Proofs.Memory.Writing
import SiteSearch.Proofs.Service.Sharing
import SiteSearch.Proofs.Memory.Backing
import SiteSearch.Proofs.Migration.Writes
import SiteSearch.Proofs.Migration.Blocks
import SiteSearch.Proofs.Alias.Orderly
import SiteSearch.Proofs.Migration.Renewal
import SiteSearch.Proofs.Alias.Upkeep
import SiteSearch.Proofs.Field.Signature
import SiteSearch.Proofs.Memory.Properties
import SiteSearch.Proofs.Drift.Coherence
import SiteSearch.Proofs.Drift.Agreement
import SiteSearch.Proofs.Memory.Reading
import SiteSearch.Proofs.Alias.Marks
import SiteSearch.Proofs.Document.Ids
import SiteSearch.Proofs.Document.Readback
import SiteSearch.Proofs.Collection.Isolation
import SiteSearch.Proofs.Migration.Replica
import SiteSearch.Proofs.Memory.Effects
import SiteSearch.Proofs.Service.Pairing
import SiteSearch.Proofs.Alias.Contest
import SiteSearch.Proofs.Alias.Sweeping
import SiteSearch.Proofs.Migration.Interference
import SiteSearch.Proofs.Text.LetterCase
import SiteSearch.Proofs.Query.Clauses
import SiteSearch.Proofs.Memory.Stars
import SiteSearch.Proofs.Query.Matching
import SiteSearch.Proofs.Memory.Hits
import SiteSearch.Proofs.Query.Answering
import SiteSearch.Proofs.Query.PlainTerms
import SiteSearch.Proofs.Query.Satisfaction
import SiteSearch.Proofs.Document.Fields
import SiteSearch.Proofs.Document.Keywords
import SiteSearch.Proofs.Document.Indexing
import SiteSearch.Proofs.Document.Findable
import SiteSearch.Proofs.Migration.Content
import SiteSearch.Proofs.Connection.Attempts
import SiteSearch.Proofs.Remote.Rounds
import SiteSearch.Proofs.Remote.Delivery
import SiteSearch.Proofs.Memory.Scores
import SiteSearch.Proofs.Query.Ranking
import SiteSearch.Proofs.Text.Quotations
import SiteSearch.Proofs.Text.Cuts
import SiteSearch.Proofs.Query.Reading
import SiteSearch.Proofs.Query.Scope
import SiteSearch.Proofs.Query.Readable
import SiteSearch.Proofs.Engine.Run
import SiteSearch.Proofs.Memory.Collisions
import SiteSearch.Proofs.Field.Types
import SiteSearch.Proofs.Memory.Types
import SiteSearch.Proofs.Service.Keeping
import SiteSearch.Proofs.Drift.Union
import SiteSearch.Proofs.Memory.Showing
import SiteSearch.Proofs.Service.Deletion
import SiteSearch.Proofs.Drift.Failure
import SiteSearch.Proofs.Service.InStep
import SiteSearch.Proofs.Collection.Reserved
import SiteSearch.Proofs.Collection.Steady
import SiteSearch.Proofs.Collection.Batch
import SiteSearch.Proofs.Collection.Precedence
import SiteSearch.Proofs.Alias.Swept
import SiteSearch.Proofs.Text.Digits
import SiteSearch.Proofs.Migration.Succession
import SiteSearch.Proofs.Alias.Newest
import SiteSearch.Proofs.Drift.Convergence
import SiteSearch.Proofs.Document.Deleting
import SiteSearch.Proofs.Document.Orphans
import SiteSearch.Proofs.Service.Founding
import SiteSearch.Proofs.Document.Replacing
import SiteSearch.Proofs.Document.Failing
import SiteSearch.Proofs.Memory.Bulk
import SiteSearch.Proofs.Memory.InPlace
import SiteSearch.Proofs.Binary64.Order
import SiteSearch.Proofs.Query.BestFirst
import SiteSearch.Proofs.Query.Widening
import SiteSearch.Proofs.Query.Grouping
import SiteSearch.Proofs.Document.Settled
import SiteSearch.Proofs.Field.RoundTrip
import SiteSearch.Proofs.Connection.Script
import SiteSearch.Proofs.Remote.Resending
import SiteSearch.Proofs.Document.Fitting
import SiteSearch.Proofs.Content.Registration
import SiteSearch.Proofs.Field.Coverage
import SiteSearch.Proofs.Connection.Canonical
import SiteSearch.Proofs.Binary64.Rounding
import SiteSearch.Proofs.Binary64.Shortest
import SiteSearch.Proofs.Json.Number
import SiteSearch.Proofs.Json.RoundTrip
import SiteSearch.Proofs.Remote.BulkBody
import SiteSearch.Proofs.Text.Runs
import SiteSearch.Proofs.Memory.Tokens
