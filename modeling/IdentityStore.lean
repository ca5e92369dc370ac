import IdentityStore.Action
import IdentityStore.ConfigValue.Basic
import IdentityStore.ConfigValue.Equality
import IdentityStore.ConfigValue.Json
import IdentityStore.ConfigValue.Printer
import IdentityStore.ConfigValue.Table
import IdentityStore.Context
import IdentityStore.Credential
import IdentityStore.Deployment.Basic
import IdentityStore.Deployment.Draft
import IdentityStore.Deployment.Handle
import IdentityStore.Error
import IdentityStore.Event
import IdentityStore.Json.Basic
import IdentityStore.Json.Decode
import IdentityStore.Json.Number
import IdentityStore.Keyed
import IdentityStore.ManagedType
import IdentityStore.Number.Binary64
import IdentityStore.Number.Format
import IdentityStore.Number.Rounding
import IdentityStore.Number.Shortest
import IdentityStore.Operation
import IdentityStore.OperationSet
import IdentityStore.Policy.Basic
import IdentityStore.Policy.Credentials
import IdentityStore.Policy.Draft
import IdentityStore.Policy.Ledger
import IdentityStore.Policy.Relationships
import IdentityStore.Proofs.Action
import IdentityStore.Proofs.ConfigValue.Display
import IdentityStore.Proofs.ConfigValue.Equality
import IdentityStore.Proofs.ConfigValue.Reading
import IdentityStore.Proofs.ConfigValue.RoundTrip
import IdentityStore.Proofs.Deployment.Build
import IdentityStore.Proofs.Deployment.Events
import IdentityStore.Proofs.Deployment.Extension
import IdentityStore.Proofs.Deployment.Failure
import IdentityStore.Proofs.Deployment.Handle
import IdentityStore.Proofs.Deployment.History
import IdentityStore.Proofs.Deployment.Isolation
import IdentityStore.Proofs.Deployment.MappedEntities
import IdentityStore.Proofs.Deployment.Repair
import IdentityStore.Proofs.Deployment.Routing
import IdentityStore.Proofs.Deployment.Validate
import IdentityStore.Proofs.Deployment.Visit
import IdentityStore.Proofs.Follows
import IdentityStore.Proofs.Lifecycle
import IdentityStore.Proofs.ManagedType.Grammar
import IdentityStore.Proofs.ManagedType.Naming
import IdentityStore.Proofs.ManagedType.RoundTrip
import IdentityStore.Proofs.Number.Integral
import IdentityStore.Proofs.Number.Nearest
import IdentityStore.Proofs.OperationSet
import IdentityStore.Proofs.Policy.Accumulation
import IdentityStore.Proofs.Policy.Contribution
import IdentityStore.Proofs.Policy.Declaration
import IdentityStore.Proofs.Policy.Events
import IdentityStore.Proofs.Policy.Handlers
import IdentityStore.Proofs.Policy.History
import IdentityStore.Proofs.Policy.Initialization
import IdentityStore.Proofs.Policy.Invariant
import IdentityStore.Proofs.Policy.Ledger
import IdentityStore.Proofs.Policy.Lifecycle
import IdentityStore.Proofs.Policy.Merge
import IdentityStore.Proofs.Policy.Permission
import IdentityStore.Proofs.Policy.Replay
import IdentityStore.Proofs.Secrecy.Noninterference
import IdentityStore.Proofs.Secrecy.Redaction
import IdentityStore.Proofs.Secrecy.Steps
import IdentityStore.Proofs.Settings.RoundTrip
import IdentityStore.Proofs.Store.Steps
import IdentityStore.Proofs.Text.ByteOrder
import IdentityStore.Proofs.Text.Lowercase
import IdentityStore.RelationshipType
import IdentityStore.Session
import IdentityStore.Settings.Basic
import IdentityStore.Settings.Json
import IdentityStore.Settings.Outline
import IdentityStore.Store.Basic
import IdentityStore.Store.Draft
import IdentityStore.StoreType
import IdentityStore.Text.Blank
import IdentityStore.Text.Join
import IdentityStore.Text.Lowercase
import IdentityStore.Text.Lowercase.Table
import IdentityStore.Text.Outline
import IdentityStore.Text.Path
import IdentityStore.Text.Quoted
import IdentityStore.TypeKind
import IdentityStore.Workspace
