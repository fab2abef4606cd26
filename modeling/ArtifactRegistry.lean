import ArtifactRegistry.Bytes
import ArtifactRegistry.Command
import ArtifactRegistry.Command.Arguments
import ArtifactRegistry.Command.Failure
import ArtifactRegistry.Command.Line
import ArtifactRegistry.Configuration
import ArtifactRegistry.Decimal.Numeral
import ArtifactRegistry.Decimal.Shortest
import ArtifactRegistry.Descriptor
import ArtifactRegistry.Descriptor.Json
import ArtifactRegistry.Digest
import ArtifactRegistry.Json.Error
import ArtifactRegistry.Json.Node
import ArtifactRegistry.Json.Number
import ArtifactRegistry.Json.Printer
import ArtifactRegistry.Json.Reader
import ArtifactRegistry.Json.Record
import ArtifactRegistry.Json.Token
import ArtifactRegistry.Json.Value
import ArtifactRegistry.Log
import ArtifactRegistry.Log.Filter
import ArtifactRegistry.Main
import ArtifactRegistry.Manifest.Dependency
import ArtifactRegistry.Manifest.Document
import ArtifactRegistry.Manifest.Error
import ArtifactRegistry.Manifest.Handler
import ArtifactRegistry.Manifest.Kind
import ArtifactRegistry.Manifest.Probe
import ArtifactRegistry.Manifest.SchemaRegistry
import ArtifactRegistry.Manifest.Service
import ArtifactRegistry.Manifest.Variant
import ArtifactRegistry.Payload
import ArtifactRegistry.Program
import ArtifactRegistry.Referrers.Closure
import ArtifactRegistry.Referrers.Error
import ArtifactRegistry.Referrers.Extension
import ArtifactRegistry.Referrers.Index
import ArtifactRegistry.Registry
import ArtifactRegistry.Sha2
import ArtifactRegistry.SortedMap
import ArtifactRegistry.Storage.Action
import ArtifactRegistry.Storage.Backend
import ArtifactRegistry.Storage.Error
import ArtifactRegistry.Storage.FileStore
import ArtifactRegistry.Storage.FileTree
import ArtifactRegistry.Storage.LinkPath
import ArtifactRegistry.Storage.Memory
import ArtifactRegistry.Text.Blank
import ArtifactRegistry.Text.Quoted
import ArtifactRegistry.Text.Split
import ArtifactRegistry.Text.Visible
import ArtifactRegistry.Timestamp
import ArtifactRegistry.Timestamp.Calendar
import ArtifactRegistry.Yaml.Cursor
import ArtifactRegistry.Yaml.Error
import ArtifactRegistry.Yaml.Node
import ArtifactRegistry.Yaml.Scalar
import ArtifactRegistry.Yaml.Schema
import ArtifactRegistry.Yaml.Section
import ArtifactRegistry.Yaml.Token
import ArtifactRegistry.Yaml.Value
import ArtifactRegistry.Proofs.Action
import ArtifactRegistry.Proofs.Manifest.Put
import ArtifactRegistry.Proofs.Storage.Memory
import ArtifactRegistry.Proofs.Manifest.Requests
import ArtifactRegistry.Proofs.Referrers.Closure
import ArtifactRegistry.Proofs.Referrers.Survival
import ArtifactRegistry.Proofs.Manifest.Lookup
import ArtifactRegistry.Proofs.Manifest.Visibility
import ArtifactRegistry.Proofs.Storage.Links
import ArtifactRegistry.Proofs.Storage.FileLinks
import ArtifactRegistry.Proofs.Manifest.Linking
import ArtifactRegistry.Proofs.Referrers.Attribution
import ArtifactRegistry.Proofs.Referrers.Listing
import ArtifactRegistry.Proofs.Storage.Listings
import ArtifactRegistry.Proofs.Referrers.Reachability
import ArtifactRegistry.Proofs.Manifest.Dependencies
import ArtifactRegistry.Proofs.Storage.FileView
import ArtifactRegistry.Proofs.Storage.LinkPlaces
import ArtifactRegistry.Proofs.Storage.FileRepositories
import ArtifactRegistry.Proofs.Referrers.Isolation
import ArtifactRegistry.Proofs.Storage.FileAnswers
import ArtifactRegistry.Proofs.Manifest.Interchange
import ArtifactRegistry.Proofs.Storage.Mirror
import ArtifactRegistry.Proofs.Referrers.Interchange
import ArtifactRegistry.Proofs.Json.Skipping
import ArtifactRegistry.Proofs.Manifest.Routing
import ArtifactRegistry.Proofs.Manifest.Verification
import ArtifactRegistry.Proofs.Storage.Consistency
import ArtifactRegistry.Proofs.Referrers.Lookup
import ArtifactRegistry.Proofs.Referrers.Order
import ArtifactRegistry.Proofs.Storage.FileLookups
import ArtifactRegistry.Proofs.Storage.FileRepair
import ArtifactRegistry.Proofs.Manifest.Authenticity
import ArtifactRegistry.Proofs.Manifest.Verbatim
import ArtifactRegistry.Proofs.Manifest.Upkeep
import ArtifactRegistry.Proofs.Storage.Repetition
import ArtifactRegistry.Proofs.Json.Grammar
import ArtifactRegistry.Proofs.Json.Derivation
import ArtifactRegistry.Proofs.Manifest.Objects
import ArtifactRegistry.Proofs.Storage.LinkSets
import ArtifactRegistry.Proofs.Manifest.Refusals
import ArtifactRegistry.Proofs.Referrers.Availability
import ArtifactRegistry.Proofs.Manifest.Extensions
import ArtifactRegistry.Proofs.Json.Canonical
import ArtifactRegistry.Proofs.Storage.FileRefusals
import ArtifactRegistry.Proofs.Manifest.Registration
import ArtifactRegistry.Proofs.Digest.Grammar
import ArtifactRegistry.Proofs.Timestamp.RoundTrip
