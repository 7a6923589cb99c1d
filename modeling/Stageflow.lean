import Stageflow.Counters.Json
import Stageflow.Engine
import Stageflow.Phase.Json
import Stageflow.Phase.Yaml
import Stageflow.Proofs.Names
import Stageflow.Rules
import Stageflow.Settings.Formats
import Stageflow.Sink.Pool
import Stageflow.Proofs.Order
import Stageflow.Proofs.JoinedRows
import Stageflow.Proofs.Phases
import Stageflow.Proofs.Visits
import Stageflow.Proofs.Listing
import Stageflow.Proofs.Channels
import Stageflow.Proofs.Workers
import Stageflow.Proofs.InTurn
import Stageflow.Proofs.Coverage
import Stageflow.Proofs.Ledgers
import Stageflow.Proofs.Accounts
import Stageflow.Proofs.Footprints
import Stageflow.Proofs.Deferred
import Stageflow.Proofs.Delivery
import Stageflow.Proofs.Contents
import Stageflow.Proofs.Races
import Stageflow.Proofs.Entries
import Stageflow.Proofs.Outlines
import Stageflow.Proofs.SideChannels
import Stageflow.Proofs.Ways
import Stageflow.Proofs.NewReader
import Stageflow.Proofs.Cycles
import Stageflow.Proofs.Publications
import Stageflow.Proofs.Histories
import Stageflow.Proofs.Caching
import Stageflow.Proofs.NestedLoops
import Stageflow.Proofs.Plans
import Stageflow.Proofs.MergedRows
import Stageflow.Proofs.Outlets
import Stageflow.Proofs.Groups
import Stageflow.Proofs.Declarations
import Stageflow.Proofs.Failures
import Stageflow.Proofs.Counts
import Stageflow.Proofs.JsonText
import Stageflow.Proofs.Readers
import Stageflow.Proofs.Elements
import Stageflow.Proofs.FieldKeys
import Stageflow.Proofs.Degrees
import Stageflow.Proofs.Overrides
import Stageflow.Proofs.RoundTrips
import Stageflow.Proofs.PlainLines
import Stageflow.Proofs.SettingsText
