import XrplBridge.Library.Pages
import XrplBridge.Contract.State

/-!
# Queries

The queries of `contract.rs`, with the messages and responses of `msg.rs`. Those that list a store page by
page are one query (`paginate`) of different stores; the refunds are listed from the index on their
addresses.
-/

namespace XrplBridge.Contract

open Library Std

/-- `MAX_PAGE_LIMIT`. -/
def maxPageLimit : ℕ := 250

/-- `limit.unwrap_or(MAX_PAGE_LIMIT).min(MAX_PAGE_LIMIT)`. -/
def pageLimit (limit : Option ℕ) : ℕ := min (limit.getD maxPageLimit) maxPageLimit

/-- The page of a store that a query answers with, and its last key. What is stored can be read, so
`filter_map(Result::ok)` leaves nothing out. -/
def paginate {K V B : Type} [Ord K] (entries : List (K × V)) (startAfterKey : Option K) (limit : Option ℕ)
    (f : K → V → B) : Option K × List B :=
  answer f (page entries startAfterKey (pageLimit limit))

/-! ### Responses -/

/-- `XRPLTokensResponse`. -/
structure XRPLTokensResponse where
  lastKey : Option String
  tokens : List XRPLToken
  deriving DecidableEq, Repr

/-- `CosmosTokensResponse`. -/
structure CosmosTokensResponse where
  lastKey : Option String
  tokens : List CosmosToken
  deriving DecidableEq, Repr

/-- `PendingOperationsResponse`. -/
structure PendingOperationsResponse where
  lastKey : Option ℕ
  operations : List Operation
  deriving DecidableEq, Repr

/-- `msg::PendingRefund`, without the address that was asked for. -/
structure ShownRefund where
  id : String
  xrplTxHash : Option String
  coin : Coin
  deriving DecidableEq, Repr

/-- `PendingRefundsResponse`. -/
structure PendingRefundsResponse where
  lastKey : Option RefundKey
  pendingRefunds : List ShownRefund
  deriving DecidableEq

/-- `TransactionEvidence`. -/
structure TransactionEvidence where
  hash : String
  relayerAddresses : List Addr
  deriving DecidableEq, Repr

/-- `TransactionEvidencesResponse`. -/
structure TransactionEvidencesResponse where
  lastKey : Option String
  transactionEvidences : List TransactionEvidence
  deriving DecidableEq, Repr

/-- `ProcessedTxsResponse`. -/
structure ProcessedTxsResponse where
  lastKey : Option String
  processedTxs : List String
  deriving DecidableEq, Repr

/-- `AvailableTicketsResponse`. -/
structure AvailableTicketsResponse where
  tickets : List ℕ
  deriving DecidableEq, Repr

/-- `FeesCollectedResponse`. -/
structure FeesCollectedResponse where
  feesCollected : List Coin
  deriving DecidableEq, Repr

/-- `BridgeStateResponse`. -/
structure BridgeStateResponse where
  state : BridgeState
  deriving DecidableEq, Repr

/-- `ProhibitedXRPLAddressesResponse`. -/
structure ProhibitedXRPLAddressesResponse where
  prohibitedXRPLAddresses : List String
  deriving DecidableEq, Repr

/-- `QueryMsg`, with the `Ownership` that `cw_ownable_query` adds. -/
inductive QueryMsg where
  | config
  | xrplTokens (startAfterKey : Option String) (limit : Option ℕ)
  | xrplToken (key : String)
  | cosmosTokens (startAfterKey : Option String) (limit : Option ℕ)
  | cosmosToken (key : String)
  | pendingOperations (startAfterKey : Option ℕ) (limit : Option ℕ)
  | availableTickets
  | feesCollected (relayerAddress : Addr)
  | pendingRefunds (address : Addr) (startAfterKey : Option RefundKey) (limit : Option ℕ)
  | bridgeState
  | transactionEvidence (hash : String)
  | transactionEvidences (startAfterKey : Option String) (limit : Option ℕ)
  | processedTx (hash : String)
  | processedTxs (startAfterKey : Option String) (limit : Option ℕ)
  | prohibitedXRPLAddresses
  | ownership
  deriving DecidableEq

/-- What a query is answered with, before it is serialized. -/
inductive QueryResponse where
  | config (r : Config)
  | xrplTokens (r : XRPLTokensResponse)
  | xrplToken (r : XRPLToken)
  | cosmosTokens (r : CosmosTokensResponse)
  | cosmosToken (r : CosmosToken)
  | ownership (r : Ownership)
  | pendingOperations (r : PendingOperationsResponse)
  | availableTickets (r : AvailableTicketsResponse)
  | pendingRefunds (r : PendingRefundsResponse)
  | feesCollected (r : FeesCollectedResponse)
  | bridgeState (r : BridgeStateResponse)
  | transactionEvidence (r : TransactionEvidence)
  | transactionEvidences (r : TransactionEvidencesResponse)
  | processedTx (r : Bool)
  | processedTxs (r : ProcessedTxsResponse)
  | prohibitedXRPLAddresses (r : ProhibitedXRPLAddressesResponse)
  deriving DecidableEq

/-! ### Queries -/

variable (s : Storage)

/-- `query_xrpl_tokens`. -/
def queryXRPLTokens (startAfterKey : Option String) (limit : Option ℕ) : XRPLTokensResponse :=
  let (lastKey, tokens) := paginate s.xrplTokens.primary.toList startAfterKey limit fun _ token => token
  { lastKey, tokens }

/-- `query_cosmos_tokens`. -/
def queryCosmosTokens (startAfterKey : Option String) (limit : Option ℕ) : CosmosTokensResponse :=
  let (lastKey, tokens) := paginate s.cosmosTokens.primary.toList startAfterKey limit fun _ token => token
  { lastKey, tokens }

/-- `query_pending_operations`. -/
def queryPendingOperations (startAfterKey : Option ℕ) (limit : Option ℕ) : PendingOperationsResponse :=
  let (lastKey, operations) := paginate s.pendingOperations.toList startAfterKey limit fun _ operation => operation
  { lastKey, operations }

/-- `query_pending_refunds`: of the entries of the index under an address. A start key is compared as it is
stored, whatever its address. -/
def queryPendingRefunds (address : Addr) (startAfterKey : Option RefundKey) (limit : Option ℕ) :
    PendingRefundsResponse :=
  let prefixed := s.pendingRefunds.toList.filter fun e => e.2.address = address
  let (lastKey, pendingRefunds) := paginate prefixed startAfterKey limit fun _ refund =>
    { id := refund.id, xrplTxHash := refund.xrplTxHash, coin := refund.coin : ShownRefund }
  { lastKey, pendingRefunds }

/-- `query_transaction_evidences`. -/
def queryTransactionEvidences (startAfterKey : Option String) (limit : Option ℕ) : TransactionEvidencesResponse :=
  let (lastKey, transactionEvidences) := paginate s.txEvidences.toList startAfterKey limit fun hash evidences =>
    { hash, relayerAddresses := evidences.relayerCosmosAddresses : TransactionEvidence }
  { lastKey, transactionEvidences }

/-- `query_processed_txs`. -/
def queryProcessedTxs (startAfterKey : Option String) (limit : Option ℕ) : ProcessedTxsResponse :=
  let (lastKey, processedTxs) := paginate s.processedTxs.toList startAfterKey limit fun hash _ => hash
  { lastKey, processedTxs }

/-- `load`, of what a key holds. -/
def load {α : Type} (x : Option α) (typeName : String) (key : List UInt8) : Except StdError α :=
  x.elim (.error (.notFound (notFoundObjectInfo typeName key))) .ok

/-- `query_config`. -/
def queryConfig : Config := s.config

/-- `query_bridge_state`. -/
def queryBridgeState : BridgeStateResponse := { state := s.config.bridgeState }

/-- `query_xrpl_token`. -/
def queryXRPLToken (key : String) : Except StdError XRPLToken :=
  load s.xrplTokens.primary[key]? "cw_xrpl::state::XRPLToken" (mapKey "5" key)

/-- `query_cosmos_token`. -/
def queryCosmosToken (key : String) : Except StdError CosmosToken :=
  load s.cosmosTokens.primary[key]? "cw_xrpl::state::CosmosToken" (mapKey "4" key)

/-- `query_available_tickets`. -/
def queryAvailableTickets : AvailableTicketsResponse := { tickets := s.availableTickets }

/-- `query_fees_collected`. -/
def queryFeesCollected (relayerAddress : Addr) : FeesCollectedResponse :=
  { feesCollected := s.feesCollected[relayerAddress]?.getD [] }

/-- `query_transaction_evidence`. -/
def queryTransactionEvidence (hash : String) : TransactionEvidence :=
  { hash, relayerAddresses := (s.txEvidences[hash]?.map Evidences.relayerCosmosAddresses).getD [] }

/-- `query_processed_tx`: the hash is looked up as it is written. -/
def queryProcessedTx (hash : String) : Bool := s.processedTxs.contains hash

/-- `query_prohibited_xrpl_addresses`. -/
def queryProhibitedXRPLAddresses : ProhibitedXRPLAddressesResponse :=
  { prohibitedXRPLAddresses := s.prohibitedXRPLAddresses.toList.map Prod.fst }

/-- `query`. -/
def query : QueryMsg → Except StdError QueryResponse
  | .config => .ok (.config (queryConfig s))
  | .xrplTokens startAfterKey limit => .ok (.xrplTokens (queryXRPLTokens s startAfterKey limit))
  | .xrplToken key => do
    let token ← queryXRPLToken s key
    pure (.xrplToken token)
  | .cosmosTokens startAfterKey limit => .ok (.cosmosTokens (queryCosmosTokens s startAfterKey limit))
  | .cosmosToken key => do
    let token ← queryCosmosToken s key
    pure (.cosmosToken token)
  | .ownership => .ok (.ownership s.ownership)
  | .pendingOperations startAfterKey limit => .ok (.pendingOperations (queryPendingOperations s startAfterKey limit))
  | .availableTickets => .ok (.availableTickets (queryAvailableTickets s))
  | .pendingRefunds address startAfterKey limit =>
    .ok (.pendingRefunds (queryPendingRefunds s address startAfterKey limit))
  | .feesCollected relayerAddress => .ok (.feesCollected (queryFeesCollected s relayerAddress))
  | .bridgeState => .ok (.bridgeState (queryBridgeState s))
  | .transactionEvidence hash => .ok (.transactionEvidence (queryTransactionEvidence s hash))
  | .transactionEvidences startAfterKey limit =>
    .ok (.transactionEvidences (queryTransactionEvidences s startAfterKey limit))
  | .processedTx hash => .ok (.processedTx (queryProcessedTx s hash))
  | .processedTxs startAfterKey limit => .ok (.processedTxs (queryProcessedTxs s startAfterKey limit))
  | .prohibitedXRPLAddresses => .ok (.prohibitedXRPLAddresses (queryProhibitedXRPLAddresses s))

end XrplBridge.Contract
