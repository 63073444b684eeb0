import StorageArray.Main
import StorageArray.Replication.Teardown
import StorageArray.Resource.Host
import StorageArray.Resource.MaskingView
import StorageArray.Resource.PortGroup
import StorageArray.Script
import StorageArray.Snapshot.Bracket
import StorageArray.Proofs.Transcript
import StorageArray.Proofs.Operation
import StorageArray.Proofs.Http.Reply
import StorageArray.Proofs.Job.Polling
import StorageArray.Proofs.Job.Clock
import StorageArray.Proofs.Job.Settlement
import StorageArray.Proofs.Call
import StorageArray.Proofs.Job.Deferral
import StorageArray.Proofs.Volume.Teardown
import StorageArray.Proofs.Volume.Release
import StorageArray.Proofs.Volume.Accounting
import StorageArray.Proofs.Replication.Teardown
import StorageArray.Proofs.Source
import StorageArray.Proofs.Volume.Retry
import StorageArray.Proofs.Text.Lowercase
import StorageArray.Proofs.Resource.Creation
import StorageArray.Proofs.Resource.Creators
import StorageArray.Proofs.Resource.Deletion
import StorageArray.Proofs.Resource.Refinement
import StorageArray.Proofs.Resource.NameMap
import StorageArray.Proofs.Listing
import StorageArray.Proofs.Validation
import StorageArray.Proofs.Snapshot.Bracket
import StorageArray.Proofs.Resource.Protocol
import StorageArray.Proofs.Mutation.Payload
import StorageArray.Proofs.Mutation.Change
import StorageArray.Proofs.Mutation.Calls
import StorageArray.Proofs.Mutation.Sending
import StorageArray.Proofs.Addressing
import StorageArray.Proofs.Wire.RoundTrip
import StorageArray.Proofs.Volume.Deallocation
import StorageArray.Proofs.Replication.Action
import StorageArray.Proofs.Replication.Fate
import StorageArray.Proofs.Job.Gateway
import StorageArray.Proofs.Job.Deadline
import StorageArray.Proofs.Sequence
import StorageArray.Proofs.Listing.Shape
import StorageArray.Proofs.Volume.Lookup
import StorageArray.Proofs.Volume.Creation
import StorageArray.Proofs.Decimal.Value
import StorageArray.Proofs.Volume.Expansion
import StorageArray.Proofs.Listing.Request
import StorageArray.Proofs.Listing.Distinct
import StorageArray.Proofs.Snapshot.Generation
import StorageArray.Proofs.Error.Message
import StorageArray.Proofs.Resource.PortKey
import StorageArray.Proofs.Benign
import StorageArray.Proofs.Wire.Identifier
import StorageArray.Proofs.Identifier
