import XrplBridge.Protocol.Accounts
import XrplBridge.Protocol.Bridging
import XrplBridge.Protocol.Cancelling
import XrplBridge.Protocol.Closing
import XrplBridge.Protocol.Confinement
import XrplBridge.Protocol.Confluence
import XrplBridge.Protocol.Denoms
import XrplBridge.Protocol.Encoding
import XrplBridge.Protocol.ExactlyOnce
import XrplBridge.Protocol.FeeClaims
import XrplBridge.Protocol.FeeLedger
import XrplBridge.Protocol.Halting
import XrplBridge.Protocol.Honesty
import XrplBridge.Protocol.Instances
import XrplBridge.Protocol.Journeys
import XrplBridge.Protocol.Keys
import XrplBridge.Protocol.Limits
import XrplBridge.Protocol.Migration
import XrplBridge.Protocol.Naming
import XrplBridge.Protocol.Outgoing
import XrplBridge.Protocol.Panicking
import XrplBridge.Protocol.Payments
import XrplBridge.Protocol.Precision
import XrplBridge.Protocol.Progress
import XrplBridge.Protocol.Queries
import XrplBridge.Protocol.Quorum
import XrplBridge.Protocol.Refunds
import XrplBridge.Protocol.Reports
import XrplBridge.Protocol.Resolution
import XrplBridge.Protocol.Reuse
import XrplBridge.Protocol.Rotation
import XrplBridge.Protocol.SequenceKind
import XrplBridge.Protocol.Shares
import XrplBridge.Protocol.Signatures
import XrplBridge.Protocol.Solvency
import XrplBridge.Protocol.Supply
import XrplBridge.Protocol.Swaps
import XrplBridge.Protocol.Thresholds
import XrplBridge.Protocol.TrustLines
import XrplBridge.Protocol.Views
import XrplBridge.Protocol.WindingUp
import XrplBridge.Protocol.Withdrawals
