import TestDouble.Config.Load
import TestDouble.Predicate
import TestDouble.Proofs.Recorder.Bookkeeping
import TestDouble.Proofs.Recorder.Silence
import TestDouble.Scenario
import TestDouble.Session
import TestDouble.Proofs.Recorder.History
import TestDouble.Proofs.Matching.Overlap
import TestDouble.Proofs.Recorder.Capacity
import TestDouble.Proofs.Recorder.Starvation
import TestDouble.Proofs.Harness.Teardown
import TestDouble.Proofs.Recorder.Forbidden
import TestDouble.Proofs.Recorder.Caps
import TestDouble.Proofs.Recorder.Answer
import TestDouble.Proofs.Recorder.Modes
import TestDouble.Proofs.Recorder.Demand
import TestDouble.Proofs.Recorder.Saturation
import TestDouble.Proofs.Recorder.Relevance
import TestDouble.Proofs.Recorder.Nesting
import TestDouble.Proofs.Recorder.Linearisation
import TestDouble.Proofs.Recorder.Depth
import TestDouble.Proofs.Recorder.Separation
import TestDouble.Proofs.Client.Erasure
import TestDouble.Proofs.Recorder.Accounting
import TestDouble.Proofs.Recorder.Numbering
import TestDouble.Proofs.Recorder.Reordering
import TestDouble.Proofs.Recorder.Arrival
import TestDouble.Proofs.Log.Emission
import TestDouble.Proofs.Recorder.Recount
import TestDouble.Proofs.Log.Collection
import TestDouble.Proofs.Log.Forwarding
import TestDouble.Proofs.Harness.Incidents
import TestDouble.Proofs.Harness.Verdict
import TestDouble.Proofs.Matching.Sharing
import TestDouble.Proofs.Client.RoundTrip
import TestDouble.Proofs.Client.Naming
import TestDouble.Proofs.Recorder.Filling
import TestDouble.Proofs.Harness.Folding
import TestDouble.Proofs.Log.Fields
import TestDouble.Proofs.Log.Sifting
import TestDouble.Proofs.Config.Layering
import TestDouble.Proofs.Service.Orders
import TestDouble.Proofs.Service.Notices
