/-
This library serves typed resources from a versioned key-value store.
-/

import ResourceApi.ApiError
import ResourceApi.Backend
import ResourceApi.Backend.Call
import ResourceApi.Backend.Fault
import ResourceApi.Backend.Location
import ResourceApi.BuildError
import ResourceApi.Builder
import ResourceApi.Capabilities
import ResourceApi.Catalog
import ResourceApi.Catalog.Gadget
import ResourceApi.Catalog.Mover
import ResourceApi.Catalog.Plain
import ResourceApi.Catalog.Widget
import ResourceApi.Checked
import ResourceApi.Cli
import ResourceApi.Context
import ResourceApi.Dict
import ResourceApi.Endpoint
import ResourceApi.FeatureGate
import ResourceApi.FieldError
import ResourceApi.Handler
import ResourceApi.Identity
import ResourceApi.Json
import ResourceApi.Json.Parser
import ResourceApi.Json.Printer
import ResourceApi.Json.Reader
import ResourceApi.Kind
import ResourceApi.ListFilter
import ResourceApi.ListOptions
import ResourceApi.Main
import ResourceApi.Metadata
import ResourceApi.Options
import ResourceApi.Options.Document
import ResourceApi.Proofs.Backend.Effect
import ResourceApi.Proofs.Backend.History
import ResourceApi.Proofs.Backend.Ledger
import ResourceApi.Proofs.Backend.Region
import ResourceApi.Proofs.Backend.Scan
import ResourceApi.Proofs.Backend.Snapshot
import ResourceApi.Proofs.Builder.Admission
import ResourceApi.Proofs.Builder.EmulationRequest
import ResourceApi.Proofs.Builder.EmulationWindow
import ResourceApi.Proofs.Builder.FeatureSpecs
import ResourceApi.Proofs.Builder.InjectedRegistry
import ResourceApi.Proofs.Builder.Joining
import ResourceApi.Proofs.Builder.Preparation
import ResourceApi.Proofs.Builder.Registration
import ResourceApi.Proofs.Builder.Settlement
import ResourceApi.Proofs.Builder.Union
import ResourceApi.Proofs.Builder.VersionOrder
import ResourceApi.Proofs.Catalog
import ResourceApi.Proofs.Dict
import ResourceApi.Proofs.FeatureGate
import ResourceApi.Proofs.FeatureGate.Accumulation
import ResourceApi.Proofs.FeatureGate.History
import ResourceApi.Proofs.Json.Record
import ResourceApi.Proofs.Metadata
import ResourceApi.Proofs.Object
import ResourceApi.Proofs.Registry.Attempt
import ResourceApi.Proofs.Registry.Declaration
import ResourceApi.Proofs.Registry.History
import ResourceApi.Proofs.Registry.Mapping
import ResourceApi.Proofs.Registry.Missing
import ResourceApi.Proofs.Registry.Outcome
import ResourceApi.Proofs.Registry.Passes
import ResourceApi.Proofs.Registry.Settlement
import ResourceApi.Proofs.Registry.Wiring
import ResourceApi.Proofs.Selector
import ResourceApi.Proofs.Selector.Composition
import ResourceApi.Proofs.Selector.Term
import ResourceApi.Proofs.Server.Merge
import ResourceApi.Proofs.Server.Start
import ResourceApi.Proofs.Server.StorageMap
import ResourceApi.Proofs.StopSignal.Slots
import ResourceApi.Proofs.StopSignal.Turns
import ResourceApi.Proofs.StopSignal.Wakeup
import ResourceApi.Proofs.Store.AllOrNothing
import ResourceApi.Proofs.Store.Checks
import ResourceApi.Proofs.Store.Deletion
import ResourceApi.Proofs.Store.Interleaving
import ResourceApi.Proofs.Store.Key
import ResourceApi.Proofs.Store.ListedDocuments
import ResourceApi.Proofs.Store.Listing
import ResourceApi.Proofs.Store.NamespaceSelection
import ResourceApi.Proofs.Store.Placement
import ResourceApi.Proofs.Store.PlainKind
import ResourceApi.Proofs.Store.Reachable
import ResourceApi.Proofs.Store.Refusal
import ResourceApi.Proofs.Store.Run
import ResourceApi.Proofs.Store.Separation
import ResourceApi.Proofs.Store.Sharing
import ResourceApi.Proofs.Store.Shelf
import ResourceApi.Proofs.Store.StatusCreation
import ResourceApi.Proofs.Store.StatusSplit
import ResourceApi.Proofs.Store.StoredForm
import ResourceApi.Proofs.Store.UpdateOutcome
import ResourceApi.Proofs.Store.Visit
import ResourceApi.Proofs.Text.Blank
import ResourceApi.Proofs.Text.Decimal
import ResourceApi.Proofs.Text.Order
import ResourceApi.Proofs.Text.Slash
import ResourceApi.Proofs.Text.Split
import ResourceApi.Proofs.Version
import ResourceApi.Proofs.Version.Display
import ResourceApi.Proofs.Version.Mapping
import ResourceApi.Proofs.Version.Overflow
import ResourceApi.Proofs.Version.Reading
import ResourceApi.Registry
import ResourceApi.Report.Failure
import ResourceApi.Report.Kind
import ResourceApi.Report.Program
import ResourceApi.Report.Selection
import ResourceApi.Report.State
import ResourceApi.Selector
import ResourceApi.Server
import ResourceApi.Server.Config
import ResourceApi.Server.Group
import ResourceApi.Server.StorageMap
import ResourceApi.StopSignal
import ResourceApi.Store
import ResourceApi.Store.Attributes
import ResourceApi.Strategy
import ResourceApi.Table
import ResourceApi.Text.Blank
import ResourceApi.Text.Decimal
import ResourceApi.Text.Form
import ResourceApi.Text.Hex
import ResourceApi.Text.Lower
import ResourceApi.Text.Quoted
import ResourceApi.Text.Ranges
import ResourceApi.Text.Split
import ResourceApi.Text.Unseen
import ResourceApi.Version
import ResourceApi.Version.Effective
import ResourceApi.Workbench
import ResourceApi.Yaml.Lexer
import ResourceApi.Yaml.Node
import ResourceApi.Yaml.Plain
import ResourceApi.Yaml.Printer
import ResourceApi.Yaml.Reader
import ResourceApi.Yaml.Scalar
import ResourceApi.Yaml.Source
import ResourceApi.Yaml.Token
