import SymbolAtlas.Ascending
import SymbolAtlas.Atlas
import SymbolAtlas.Command.Arguments
import SymbolAtlas.Command.Run
import SymbolAtlas.CursorKind
import SymbolAtlas.Diagnostic
import SymbolAtlas.Error
import SymbolAtlas.Extract.Basic
import SymbolAtlas.Extract.Record
import SymbolAtlas.Extract.Walk
import SymbolAtlas.FileTree
import SymbolAtlas.Identity
import SymbolAtlas.Json.Basic
import SymbolAtlas.Json.Printer
import SymbolAtlas.Json.Reader
import SymbolAtlas.Listing
import SymbolAtlas.Location
import SymbolAtlas.Main
import SymbolAtlas.Options
import SymbolAtlas.Path
import SymbolAtlas.Project
import SymbolAtlas.Proofs.Cycle
import SymbolAtlas.Proofs.Extract.Account
import SymbolAtlas.Proofs.Extract.Announcement
import SymbolAtlas.Proofs.Extract.Blind
import SymbolAtlas.Proofs.Extract.Chronicle
import SymbolAtlas.Proofs.Extract.Completion
import SymbolAtlas.Proofs.Extract.Composition
import SymbolAtlas.Proofs.Extract.Guard
import SymbolAtlas.Proofs.Extract.Image
import SymbolAtlas.Proofs.Extract.Measure
import SymbolAtlas.Proofs.Extract.Nesting
import SymbolAtlas.Proofs.Extract.Portrait
import SymbolAtlas.Proofs.Extract.Ready
import SymbolAtlas.Proofs.Extract.Recursion
import SymbolAtlas.Proofs.Extract.Refusal
import SymbolAtlas.Proofs.Extract.Rest
import SymbolAtlas.Proofs.Extract.Route
import SymbolAtlas.Proofs.Extract.Run
import SymbolAtlas.Proofs.Extract.Step
import SymbolAtlas.Proofs.Extract.Trace
import SymbolAtlas.Proofs.Extract.Visit
import SymbolAtlas.Proofs.Json.Record
import SymbolAtlas.Proofs.Json.Text
import SymbolAtlas.Proofs.Lineage
import SymbolAtlas.Proofs.Options.Layering
import SymbolAtlas.Proofs.Options.Reading
import SymbolAtlas.Proofs.Outcome
import SymbolAtlas.Proofs.Registry.Coherence
import SymbolAtlas.Proofs.Registry.Containment
import SymbolAtlas.Proofs.Registry.Core
import SymbolAtlas.Proofs.Registry.Edges
import SymbolAtlas.Proofs.Registry.Everywhere
import SymbolAtlas.Proofs.Registry.Growth
import SymbolAtlas.Proofs.Registry.Mirror
import SymbolAtlas.Proofs.Registry.Operations
import SymbolAtlas.Proofs.Registry.Order
import SymbolAtlas.Proofs.Registry.Preorder
import SymbolAtlas.Proofs.Registry.Sightings
import SymbolAtlas.Proofs.Registry.Slots
import SymbolAtlas.Proofs.Registry.Transaction
import SymbolAtlas.Proofs.Registry.Undo
import SymbolAtlas.Proofs.Session
import SymbolAtlas.Proofs.Session.Abort
import SymbolAtlas.Proofs.Session.Coherence
import SymbolAtlas.Proofs.Session.Completion
import SymbolAtlas.Proofs.Session.Counting
import SymbolAtlas.Proofs.Session.Growth
import SymbolAtlas.Proofs.Session.History
import SymbolAtlas.Proofs.Session.Image
import SymbolAtlas.Proofs.Session.Interning
import SymbolAtlas.Proofs.Session.Isolation
import SymbolAtlas.Proofs.Session.Listing
import SymbolAtlas.Proofs.Session.Mirror
import SymbolAtlas.Proofs.Session.Repetition
import SymbolAtlas.Proofs.Session.Safety
import SymbolAtlas.Proofs.Session.Scope
import SymbolAtlas.Proofs.Session.Termination
import SymbolAtlas.Proofs.Snapshot.Acceptance
import SymbolAtlas.Proofs.Snapshot.Built
import SymbolAtlas.Proofs.Snapshot.Calls
import SymbolAtlas.Proofs.Snapshot.Handles
import SymbolAtlas.Proofs.Snapshot.Retelling
import SymbolAtlas.Proofs.Snapshot.RoundTrip
import SymbolAtlas.Proofs.Snapshot.WellFormed
import SymbolAtlas.Proofs.Type.Spelling
import SymbolAtlas.Registry
import SymbolAtlas.Settings
import SymbolAtlas.Snapshot.Basic
import SymbolAtlas.Snapshot.Builder
import SymbolAtlas.Snapshot.Json
import SymbolAtlas.Snapshot.Naming
import SymbolAtlas.Snapshot.Raw
import SymbolAtlas.Snapshot.Validity
import SymbolAtlas.Symbol
import SymbolAtlas.Text
import SymbolAtlas.Toml.DateTime
import SymbolAtlas.Toml.Document
import SymbolAtlas.Toml.Number
import SymbolAtlas.Toml.Table
import SymbolAtlas.Toml.Text
import SymbolAtlas.Toml.Value
import SymbolAtlas.Type.Basic
import SymbolAtlas.Type.Fundamental
import SymbolAtlas.Type.Kind
