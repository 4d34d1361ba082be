import AccessControl.Check
import AccessControl.Command.Encoding
import AccessControl.Configuration.Load
import AccessControl.Diagnostic.Subscriber
import AccessControl.Reconcile.Basic
import AccessControl.Store.Backend
import AccessControl.Store.Listing
import AccessControl.Store.Script
import AccessControl.Store.Snapshot
import AccessControl.Proofs.Digits
import AccessControl.Proofs.Json.Text
import AccessControl.Proofs.Json.Scalar
import AccessControl.Proofs.Json.Record
import AccessControl.Proofs.Encoding
import AccessControl.Proofs.Store.Reachable
import AccessControl.Proofs.Store.Batch
import AccessControl.Proofs.Store.Contents
import AccessControl.Proofs.Store.Steps
import AccessControl.Proofs.Contents.Meaning
import AccessControl.Proofs.Store.Queue
import AccessControl.Proofs.Reconcile.Ends
import AccessControl.Proofs.Reconcile.Listing
import AccessControl.Proofs.Reconcile.Calls
import AccessControl.Proofs.Reconcile.Steps
import AccessControl.Proofs.Reconcile.Outcome
import AccessControl.Proofs.Reconcile.RuleGroup
import AccessControl.Proofs.Reconcile.Lookups
import AccessControl.Proofs.Reconcile.TearDown
import AccessControl.Proofs.Reconcile.Linking
import AccessControl.Proofs.Reconcile.RelyingParty
import AccessControl.Proofs.Reconcile.Runs
import AccessControl.Proofs.Contents.Sequence
import AccessControl.Proofs.Declaration
import AccessControl.Proofs.Contents.Snapshot
import AccessControl.Proofs.Store.Snapshot
import AccessControl.Proofs.Store.Integrity
import AccessControl.Proofs.Idempotence
import AccessControl.Proofs.Recovery
import AccessControl.Proofs.Replay
import AccessControl.Proofs.Namespace
import AccessControl.Proofs.Independence
import AccessControl.Proofs.Faults
import AccessControl.Proofs.Store.Rebuild
import AccessControl.Proofs.Narration
import AccessControl.Proofs.Accounts.Basic
import AccessControl.Proofs.Accounts.Commands
import AccessControl.Proofs.Abstraction
import AccessControl.Proofs.Reconcile.Plan
import AccessControl.Proofs.Reconcile.Words
import AccessControl.Proofs.Protocol
import AccessControl.Proofs.Pattern.Choice
import AccessControl.Proofs.Pattern.Exact
import AccessControl.Proofs.Contents.Taking
import AccessControl.Proofs.Store.Records
import AccessControl.Proofs.Reconcile.Replacement
import AccessControl.Proofs.RelyingParty
import AccessControl.Proofs.Inline
import AccessControl.Proofs.Standing
import AccessControl.Proofs.Store.Refusal
import AccessControl.Proofs.Store.Commit
import AccessControl.Proofs.RuleGroup
import AccessControl.Proofs.Validation
import AccessControl.Proofs.Clauses
import AccessControl.Proofs.Listing
import AccessControl.Proofs.Keys
import AccessControl.Proofs.Leftover
import AccessControl.Proofs.Compilation
import AccessControl.Proofs.Checks
import AccessControl.Proofs.Lifetime
