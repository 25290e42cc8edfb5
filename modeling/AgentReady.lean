import AgentReady.Services.Commands
import AgentReady.Safety.Transitions
import AgentReady.Safety.Payment
import AgentReady.Safety.Approval
import AgentReady.Settlement.Lifecycle
import AgentReady.Settlement.Admission
import AgentReady.Settlement.Fencing
import AgentReady.Settlement.Bytes
import AgentReady.Settlement.Once
import AgentReady.Settlement.Binding
import AgentReady.Settlement.Operator
import AgentReady.Settlement.History
import AgentReady.Settlement.Reopening
import AgentReady.Settlement.Identifier
import AgentReady.Lib.Segments
import AgentReady.Safety.Budget
import AgentReady.Safety.Mandate
import AgentReady.Safety.Refund
import AgentReady.Payments.Adapters
import AgentReady.Safety.Authenticated
import AgentReady.Safety.Checkout
import AgentReady.Safety.Dedup
import AgentReady.Core.Hashing
import AgentReady.Domain.Reapproval
import AgentReady.Domain.Shortlist
import AgentReady.Core.AtMostOnce
import AgentReady.Safety.Cheaper
import AgentReady.Safety.Current
import AgentReady.Safety.Domain
import AgentReady.Settlement.Finalized
import AgentReady.Settlement.Joining
import AgentReady.Settlement.Terms
import AgentReady.Machine.Untrusted
import AgentReady.Settlement.Signature
import AgentReady.Settlement.OperationId
import AgentReady.Services.SessionLock
import AgentReady.Services.SessionToken
import AgentReady.Safety.Timeline
import AgentReady.Safety.Spend
import AgentReady.Lifecycle.Composition
import AgentReady.Safety.Initiation
import AgentReady.Safety.Intact
import AgentReady.Safety.Verification
import AgentReady.Safety.Versions
