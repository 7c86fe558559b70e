import CapabilityArena.Expr.Dispatch
import CapabilityArena.Main
import CapabilityArena.Realm.Capabilities
import CapabilityArena.Realm.Entities
import CapabilityArena.Realm.Merge
import CapabilityArena.Realm.Scope
import CapabilityArena.Value.Json
import CapabilityArena.Proofs.Heap.Operations
import CapabilityArena.Proofs.Address
import CapabilityArena.Proofs.Heap.Run
import CapabilityArena.Proofs.Arena.Counting
import CapabilityArena.Proofs.Heap.Counting
import CapabilityArena.Proofs.Transaction.Change
import CapabilityArena.Proofs.Arena.Content
import CapabilityArena.Proofs.Heap.Content
import CapabilityArena.Proofs.Realm.Transaction
import CapabilityArena.Proofs.Realm.Run
import CapabilityArena.Proofs.Realm.Atomicity
import CapabilityArena.Proofs.Entity.WellFormed
import CapabilityArena.Proofs.Realm.Scope
import CapabilityArena.Proofs.Realm.WellFormed
import CapabilityArena.Proofs.Realm.Permission
import CapabilityArena.Proofs.Value.References
import CapabilityArena.Proofs.Heap.Allocation
import CapabilityArena.Proofs.Heap.Soundness
import CapabilityArena.Proofs.Heap.History
import CapabilityArena.Proofs.Heap.Lifetime
import CapabilityArena.Proofs.Heap.Teardown
import CapabilityArena.Proofs.Heap.Accounts
import CapabilityArena.Proofs.Transaction.Machine
import CapabilityArena.Proofs.Realm.History
import CapabilityArena.Proofs.Realm.Addresses
import CapabilityArena.Proofs.Realm.Teardown
import CapabilityArena.Proofs.Realm.Aliasing
import CapabilityArena.Proofs.Realm.Machine
import CapabilityArena.Proofs.Realm.Walk
import CapabilityArena.Proofs.Json.RoundTrip
import CapabilityArena.Proofs.Text.Utf8
import CapabilityArena.Proofs.Offer.Canonical
import CapabilityArena.Proofs.Offer.Digest
import CapabilityArena.Proofs.Expr.Grammar
import CapabilityArena.Proofs.Expr.Printing
import CapabilityArena.Proofs.Context.Guards
import CapabilityArena.Proofs.Context.Permission
import CapabilityArena.Proofs.Arena.Bracket
import CapabilityArena.Proofs.Heap.Bracket
import CapabilityArena.Proofs.Realm.Bracket
import CapabilityArena.Proofs.Dictionary.Filing
import CapabilityArena.Proofs.Registry.Consistency
import CapabilityArena.Proofs.Scopes
import CapabilityArena.Proofs.Realm.Unwinding
import CapabilityArena.Proofs.Heap.Isolation
import CapabilityArena.Proofs.Realm.Isolation
import CapabilityArena.Proofs.Realm.Acquisition
import CapabilityArena.Proofs.Realm.Sequence
import CapabilityArena.Proofs.Realm.Merging
import CapabilityArena.Proofs.Dictionary.Overwriting
import CapabilityArena.Proofs.Transaction.Declarative
import CapabilityArena.Proofs.Realm.Undoing
import CapabilityArena.Proofs.Manifest.Building
import CapabilityArena.Proofs.Yaml.Value
import CapabilityArena.Proofs.Transaction.Fitting
import CapabilityArena.Proofs.Manifest.Attaching
import CapabilityArena.Proofs.Transaction.Attaching
import CapabilityArena.Proofs.Realm.Policy
import CapabilityArena.Proofs.Realm.Invocation
import CapabilityArena.Proofs.Transaction.Independence
import CapabilityArena.Proofs.Manifest.Commuting
import CapabilityArena.Proofs.Transaction.Implementing
import CapabilityArena.Proofs.Realm.Creation
import CapabilityArena.Proofs.Arena.Dropping
import CapabilityArena.Proofs.Heap.Holding
import CapabilityArena.Proofs.Realm.Exiting
import CapabilityArena.Proofs.Arena.Releasing
import CapabilityArena.Proofs.Heap.Releasing
import CapabilityArena.Proofs.Realm.Releasing
import CapabilityArena.Proofs.Expr.Reparsing
import CapabilityArena.Proofs.Realm.Asking
import CapabilityArena.Proofs.Expr.Questions
import CapabilityArena.Proofs.Machine.Entries
import CapabilityArena.Proofs.Yaml.Conversion
import CapabilityArena.Proofs.Manifest.Translation
import CapabilityArena.Proofs.Value.Position
import CapabilityArena.Proofs.Value.Json
import CapabilityArena.Proofs.Offer.Transport
import CapabilityArena.Proofs.Manifest.Description
