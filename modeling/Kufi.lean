import Kufi.Shared.Interleaving
import Kufi.Shared.History
import Kufi.Shared.Journal
import Kufi.Shared.Number
import Kufi.Shared.Program
import Kufi.Shared.Table
import Kufi.Shared.Text
import Kufi.Shared.Time
import Kufi.Shared.Json
import Kufi.Shared.Dict
import Kufi.Shared.Path
import Kufi.Transactions.LedgerAgreement
import Kufi.Transactions.Advances
import Kufi.Transactions.ReconcileRuns
import Kufi.Shared.Locks
import Kufi.Transactions.Reversals
import Kufi.Transactions.ReversalRuns
import Kufi.Transactions.Finality
import Kufi.Transactions.Refunds
import Kufi.Transactions.Conservation
import Kufi.Transactions.CreationAlone
import Kufi.Transactions.CreditRule
import Kufi.Transactions.Idempotency
import Kufi.Settlement.LostOutcomes
import Kufi.Gateway.TamperEvidence
import Kufi.Gateway.Replay
import Kufi.Gateway.OwnTransfer
import Kufi.Gateway.StoredReceipts
import Kufi.Gateway.ReceiptConsistency
import Kufi.Gateway.PolicyFlags
import Kufi.Shared.PendingWrites
import Kufi.Gateway.FileStores
import Kufi.Notifications.Messages
import Kufi.Notifications.Delivery
import Kufi.Gateway.Submissions
import Kufi.Gateway.OneIntent
import Kufi.ChainService.Adapter
import Kufi.ChainService.Exchange
import Kufi.ChainService.Anchoring
import Kufi.ChainService.Retries
import Kufi.Settlement.OwnResponses
import Kufi.Shared.Batches
import Kufi.Shared.Claims
import Kufi.Shared.Leases
import Kufi.Workers.ChainWorker
import Kufi.Workers.AnchorCalls
import Kufi.Workers.Outbox
import Kufi.Workers.Delivery
import Kufi.Workers.Announcements
import Kufi.Transactions.ReceiptRefresh
import Kufi.Workers.AnchoredRows
import Kufi.Gateway.Verdict
import Kufi.Gateway.Evidence
import Kufi.Gateway.Conversions
import Kufi.Gateway.OwnReceipts
import Kufi.Shared.JsonText
import Kufi.Shared.JsonObject
import Kufi.Shared.Unmarshal
import Kufi.Gateway.ReceiptJson
import Kufi.ChainService.ReceiptJson
import Kufi.Shared.Serial
import Kufi.Chaincode.Governance
import Kufi.Chaincode.GovernanceSteps
import Kufi.Chaincode.Voting
import Kufi.Chaincode.Registration
import Kufi.Chaincode.VotingRuns
import Kufi.Chaincode.Electorate
import Kufi.Chaincode.Expiry
import Kufi.Chaincode.IntentJson
import Kufi.Chaincode.PrivateData
import Kufi.Chaincode.Intents
import Kufi.Shared.Procedure
import Kufi.NodeManager.Types
import Kufi.NodeManager.Store
import Kufi.NodeManager.Manager
import Kufi.NodeManager.Node
import Kufi.NodeManager.ApprovalFlow
import Kufi.NodeManager.VoteSafety
import Kufi.NodeManager.Convergence
import Kufi.NodeManager.Network
import Kufi.NodeManager.Verdicts
import Kufi.NodeManager.VoteHandlers
import Kufi.NodeManager.Consent
import Kufi.Shared.Matching
import Kufi.Shared.Halves
import Kufi.Wire.Amounts
import Kufi.Auth.Entities
import Kufi.Auth.Sessions
import Kufi.Auth.SessionRotation
import Kufi.Auth.PhoneNumbers
import Kufi.Auth.Users
import Kufi.Auth.Recipients
import Kufi.Auth.OneTimeCodes
import Kufi.Auth.StepUp
import Kufi.ApiGateway.Movements
import Kufi.ApiGateway.StepUpRuns
import Kufi.ApiGateway.StepUpSoundness
import Kufi.ApiGateway.TransferCodes
import Kufi.Shared.Frames
import Kufi.Aml.TransactionStore
import Kufi.Aml.FeatureEngineer
import Kufi.Aml.Scans
import Kufi.Aml.ScanRuns
import Kufi.Aml.HistoryFaults
import Kufi.Aml.BatchCuts
import Kufi.Shared.JsValue
import Kufi.OutsidePayment.Partner
import Kufi.OutsidePayment.Transfers
import Kufi.OutsidePayment.StatusTokens
import Kufi.OutsidePayment.AskedOnce
import Kufi.Workers.BusinessOutcome
import Kufi.Workers.ChainEligibility
import Kufi.Shared.Double
import Kufi.Shared.EcmaNumber
import Kufi.Shared.EcmaValue
import Kufi.Shared.EcmaJson
import Kufi.Shared.EcmaCoercion
import Kufi.Shared.EcmaOrder
import Kufi.Shared.EcmaSimilar
import Kufi.ChainService.Responses
import Kufi.ChainService.AnchoredReceipts
import Kufi.ChainService.Signatures
import Kufi.ChainService.Observers
import Kufi.ChainService.Lookups
import Kufi.Transactions.ReceiptEvidence
import Kufi.Gateway.PrivateOpening
import Kufi.Chaincode.InternalRefs
import Kufi.Shared.FileTree
import Kufi.FabricOps.Bundles
import Kufi.FabricOps.Packaging
import Kufi.NodeManager.RequestFiles
import Kufi.Shared.StdEncoding
import Kufi.FabricOps.Policies
import Kufi.FabricOps.Lifecycle
import Kufi.FabricOps.Upgrades
import Kufi.Shared.ExpiringCache
import Kufi.Transactions.FundingSources
import Kufi.Transactions.AtoRisk
import Kufi.Workers.StoredPayments
import Kufi.ApiGateway.RiskCalls
import Kufi.ApiGateway.RiskHistory
import Kufi.Chaincode.ExpiryHours
import Kufi.Gateway.EndorsementPolicies
import Kufi.Shared.SlidingWindow
import Kufi.Gateway.RateLimits
import Kufi.Shared.LockOrder
import Kufi.Transactions.TransferLocks
import Kufi.Transactions.LockCycles
import Kufi.Shared.DartJson
import Kufi.Shared.DartJsonText
import Kufi.Frontend.TransferQr
import Kufi.Shared.EcmaBytes
import Kufi.Auth.TransferTokens
import Kufi.Auth.TokenRuns
import Kufi.Shared.Servers
import Kufi.Monitoring.AdminAccess
import Kufi.Monitoring.AccessRuns
import Kufi.Shared.WorkQueue
import Kufi.Settlement.Backlog
import Kufi.Settlement.MoneySupply
import Kufi.Shared.Der
import Kufi.Shared.HashChains
import Kufi.Gateway.BlockHistory
import Kufi.Auth.AccountRecords
import Kufi.Auth.AccountRuns
import Kufi.Shared.PercentEncoding
import Kufi.OutsidePayment.Signing
import Kufi.OutsidePayment.SignedFields
