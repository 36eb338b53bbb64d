import XrplBridge.Contract.Basic

/-!
# The contract's state

The stores of `state.rs` with the records they hold: the config, the two token
registries, the collected evidences and the processed transactions, the tickets, the
pending operations, the refunds and the fees. An `Item` that `instantiate` saves is a
field; a `Map` is an ordered map, and an `IndexedMap` over a `UniqueIndex` a map whose
index is unique. Signatures, operations, evidences and relayers are declared in the
source next to the functions that handle them.
-/

namespace XrplBridge.Contract

open Library Std

/-! ### Relayers, operations and evidences -/

/-- `Relayer`. -/
structure Relayer where
  cosmosAddress : Addr
  xrplAddress : String
  xrplPubKey : String
  deriving DecidableEq, Repr

/-- `Signature`. -/
structure Signature where
  relayerCosmosAddress : Addr
  signature : String
  deriving DecidableEq, Repr

/-- `OperationType`. -/
inductive OperationType where
  | allocateTickets (number : ℕ)
  | trustSet (issuer currency : String) (trustSetLimitAmount : ℕ)
  | rotateKeys (newRelayers : List Relayer) (newEvidenceThreshold : ℕ)
  | cosmosToXRPLTransfer (issuer currency : String) (amount : ℕ) (maxAmount : Option ℕ)
      (sender : Addr) (recipient : String)
  deriving DecidableEq, Repr

/-- `OperationType::as_str`. -/
def OperationType.asStr : OperationType → String
  | .allocateTickets _ => "allocate_tickets"
  | .trustSet _ _ _ => "trust_set"
  | .rotateKeys _ _ => "rotate_keys"
  | .cosmosToXRPLTransfer _ _ _ _ _ _ => "cosmos_to_xrpl_transfer"

/-- `Operation`. -/
structure Operation where
  id : String
  /-- Raised by one, and the signatures dropped, when the XRPL base fee changes. -/
  version : ℕ
  ticketSequence : Option ℕ
  accountSequence : Option ℕ
  signatures : List Signature
  operationType : OperationType
  xrplBaseFee : ℕ
  deriving DecidableEq, Repr

/-- `TransactionResult`. -/
inductive TransactionResult where
  | accepted | rejected | invalid
  deriving DecidableEq, Repr

/-- `TransactionResult::as_str`. -/
def TransactionResult.asStr : TransactionResult → String
  | .accepted => "transaction_accepted"
  | .rejected => "transaction_rejected"
  | .invalid => "transaction_invalid"

/-- `OperationResult`. -/
inductive OperationResult where
  | ticketsAllocation (tickets : Option (List ℕ))
  deriving DecidableEq, Repr

/-- `Evidence::XRPLTransactionResult`'s fields. -/
structure ResultEvidence where
  txHash : Option String
  accountSequence : Option ℕ
  ticketSequence : Option ℕ
  transactionResult : TransactionResult
  operationResult : Option OperationResult
  deriving DecidableEq, Repr

/-- `Evidence::XRPLToCosmosTransfer`'s fields. -/
structure TransferEvidence where
  txHash : String
  issuer : String
  currency : String
  amount : ℕ
  recipient : Addr
  memo : Option String
  deriving DecidableEq, Repr

/-- `Evidence`. -/
inductive Evidence where
  | xrplToCosmosTransfer (e : TransferEvidence)
  | xrplTransactionResult (e : ResultEvidence)
  deriving DecidableEq, Repr

/-- `Evidences`. -/
structure Evidences where
  relayerCosmosAddresses : List Addr
  deriving DecidableEq, Repr

/-! ### Config and tokens -/

/-- `BridgeState`. -/
inductive BridgeState where
  | active | halted
  deriving DecidableEq, Repr

/-- `Config`. -/
structure Config where
  relayers : List Relayer
  evidenceThreshold : ℕ
  usedTicketSequenceThreshold : ℕ
  trustSetLimitAmount : ℕ
  bridgeXRPLAddress : String
  bridgeState : BridgeState
  xrplBaseFee : ℕ
  tokenFactoryAddr : Addr
  rateLimitAddr : Option Addr
  osorEntryPoint : Option Addr
  deriving DecidableEq, Repr

/-- `TokenState`. -/
inductive TokenState where
  /-- The token can be bridged. -/
  | enabled
  /-- The owner has disabled it. -/
  | disabled
  /-- Its TrustSet operation is pending. -/
  | processing
  /-- Its TrustSet operation failed. -/
  | inactive
  deriving DecidableEq, Repr

/-- `XRPLToken`. -/
structure XRPLToken where
  issuer : String
  currency : String
  cosmosDenom : String
  sendingPrecision : ℤ
  maxHoldingAmount : ℕ
  state : TokenState
  bridgingFee : ℕ
  deriving DecidableEq, Repr

/-- `CosmosToken`. -/
structure CosmosToken where
  denom : String
  decimals : ℕ
  xrplCurrency : String
  sendingPrecision : ℤ
  maxHoldingAmount : ℕ
  state : TokenState
  bridgingFee : ℕ
  deriving DecidableEq, Repr

/-- `PendingRefund`. -/
structure PendingRefund where
  address : Addr
  id : String
  xrplTxHash : Option String
  coin : Coin
  deriving DecidableEq, Repr

/-- `TempUniversalSwap`. -/
structure TempUniversalSwap where
  recoveryAddress : String
  returnAmount : Coin
  deriving DecidableEq, Repr

/-- `cw2::ContractVersion`. -/
structure ContractVersion where
  contract : String
  version : String
  deriving DecidableEq, Repr

/-! ### The stores -/

/-- `XRPL_TOKENS`: keyed by issuer and currency, indexed by the denom on Cosmos. -/
abbrev XRPLTokens := IndexedMap String XRPLToken XRPLToken.cosmosDenom

/-- `COSMOS_TOKENS`: keyed by denom, indexed by the currency on XRPL. -/
abbrev CosmosTokens := IndexedMap String CosmosToken CosmosToken.xrplCurrency

/-- The key of a pending refund: the user and the id of the operation. -/
structure RefundKey where
  address : Addr
  id : String
  deriving DecidableEq, Repr

/-- How a composite key is stored: the address stands behind its length. -/
def RefundKey.raw (key : RefundKey) : ℕ ×ₗ Addr ×ₗ String :=
  toLex (key.address.utf8ByteSize, toLex (key.address, key.id))

/-- Keys are in the order in which they are stored. -/
instance instOrdRefundKey : Ord RefundKey := ⟨compareOn RefundKey.raw⟩

instance instTransOrdRefundKey : Std.TransOrd RefundKey := inferInstanceAs (Std.TransCmp (compareOn RefundKey.raw))

instance instLawfulEqOrdRefundKey : Std.LawfulEqOrd RefundKey where
  eq_of_compare {key key'} h := by
    have hraw : key.raw = key'.raw := Std.LawfulEqOrd.eq_of_compare h
    cases key
    cases key'
    simp only [RefundKey.raw, toLex_inj, Prod.mk.injEq] at hraw
    rw [hraw.2.1, hraw.2.2]

example : compare (RefundKey.mk "b" "1") (RefundKey.mk "aa" "1") = .lt := by decide +kernel

/-- The contract's storage. -/
structure Storage where
  /-- cw2's version record. -/
  contractVersion : ContractVersion
  /-- cw_ownable's record. -/
  ownership : Ownership
  /-- `CONFIG`. -/
  config : Config
  /-- `TX_EVIDENCES`, keyed by the hash of the evidence. -/
  txEvidences : ExtTreeMap String Evidences
  /-- `PROCESSED_TXS`, keyed by the transaction hash. -/
  processedTxs : ExtTreeMap String Unit
  /-- `COSMOS_TOKENS`. -/
  cosmosTokens : CosmosTokens
  /-- `XRPL_TOKENS`. -/
  xrplTokens : XRPLTokens
  /-- `AVAILABLE_TICKETS`, from the front of the queue. -/
  availableTickets : List ℕ
  /-- `USED_TICKETS_COUNTER`. -/
  usedTicketsCounter : ℕ
  /-- `PENDING_OPERATIONS`, keyed by the ticket or account sequence. -/
  pendingOperations : ExtTreeMap ℕ Operation
  /-- `PENDING_TICKET_UPDATE`. -/
  pendingTicketUpdate : Bool
  /-- `PENDING_ROTATE_KEYS`. -/
  pendingRotateKeys : Bool
  /-- `PENDING_REFUNDS`. -/
  pendingRefunds : ExtTreeMap RefundKey PendingRefund
  /-- `FEES_COLLECTED`, per relayer. -/
  feesCollected : ExtTreeMap Addr (List Coin)
  /-- `FEE_REMAINDERS`, per denom. -/
  feeRemainders : ExtTreeMap String ℕ
  /-- `PROHIBITED_XRPL_ADDRESSES`. -/
  prohibitedXRPLAddresses : ExtTreeMap String Unit
  /-- `TEMP_UNIVERSAL_SWAP`. -/
  tempUniversalSwap : Option TempUniversalSwap

/-- `token.save` on a registry, with the error of the unique index. -/
def orUniqueConstraint {α : Type} (x : Option α) : ContractResult α :=
  orFail x (.std (.genericErr "Violates unique constraint on index"))

/-! ### Who may do what -/

/-- `ContractActions`. -/
inductive ContractActions where
  | instantiation
  | createCosmosToken
  | mintCosmosToken
  | registerCosmosToken
  | registerXRPLToken
  | recoverTickets
  | recoverXRPLTokenRegistration
  | saveEvidence
  | saveSignature
  | sendToXRPL
  | claimFees
  | updateXRPLToken
  | updateCosmosToken
  | updateXRPLBaseFee
  | updateProhibitedXRPLAddresses
  | claimRefunds
  | haltBridge
  | resumeBridge
  | rotateKeys
  | cancelPendingOperation
  | updateUsedTicketSequenceThreshold
  | addRateLimit
  | removeRateLimit
  | resetRateLimitQuota
  deriving DecidableEq, Repr

/-- `ContractActions::as_str`. -/
def ContractActions.asStr : ContractActions → String
  | .instantiation => "bridge_instantiation"
  | .createCosmosToken => "create_cosmos_token"
  | .mintCosmosToken => "mint_cosmos_token"
  | .registerCosmosToken => "register_cosmos_token"
  | .registerXRPLToken => "register_xrpl_token"
  | .recoverTickets => "recover_tickets"
  | .recoverXRPLTokenRegistration => "recover_xrpl_token_registration"
  | .saveEvidence => "save_evidence"
  | .saveSignature => "save_signature"
  | .sendToXRPL => "send_to_xrpl"
  | .claimFees => "claim_fees"
  | .claimRefunds => "claim_refunds"
  | .updateXRPLToken => "update_xrpl_token"
  | .updateCosmosToken => "update_cosmos_token"
  | .updateXRPLBaseFee => "update_xrpl_base_fee"
  | .updateProhibitedXRPLAddresses => "update_invalid_xrpl_addresses"
  | .haltBridge => "halt_bridge"
  | .resumeBridge => "resume_bridge"
  | .rotateKeys => "rotate_keys"
  | .cancelPendingOperation => "cancel_pending_operation"
  | .updateUsedTicketSequenceThreshold => "update_used_ticket_sequence_threshold"
  | .addRateLimit => "add_rate_limit"
  | .removeRateLimit => "remove_rate_limit"
  | .resetRateLimitQuota => "reset_rate_limit_quota"

/-- `UserType`. -/
inductive UserType where
  | owner | relayer
  deriving DecidableEq, Repr

/-- `UserType::is_authorized`. -/
def UserType.isAuthorized (u : UserType) : ContractActions → Bool
  | .instantiation | .sendToXRPL | .claimRefunds => true
  | .saveEvidence | .saveSignature | .claimFees => u = .relayer
  | .haltBridge => u = .owner ∨ u = .relayer
  | .registerCosmosToken | .registerXRPLToken | .recoverTickets | .createCosmosToken | .mintCosmosToken
  | .recoverXRPLTokenRegistration | .updateXRPLToken | .updateCosmosToken | .updateXRPLBaseFee
  | .updateProhibitedXRPLAddresses | .resumeBridge | .rotateKeys | .cancelPendingOperation
  | .updateUsedTicketSequenceThreshold | .addRateLimit | .removeRateLimit | .resetRateLimitQuota => u = .owner

/-- `cw_ownable::is_owner`. -/
def isOwner (s : Storage) (sender : Addr) : Bool := s.ownership.owner = some sender

/-- `is_relayer`. -/
def isRelayer (s : Storage) (sender : Addr) : Bool := s.config.relayers.any fun r => r.cosmosAddress = sender

/-- `check_authorization`. -/
def checkAuthorization (s : Storage) (sender : Addr) (action : ContractActions) : ContractResult Unit :=
  let userTypes := (if isOwner s sender then [UserType.owner] else []) ++
    (if isRelayer s sender then [UserType.relayer] else [])
  failIf (¬ userTypes.any fun u => u.isAuthorized action) .unauthorizedSender

/-- `assert_bridge_active`. -/
def assertBridgeActive (s : Storage) : ContractResult Unit :=
  failIf (s.config.bridgeState ≠ .active) .bridgeHalted

/-- `update_bridge_state`. -/
def updateBridgeState (s : Storage) (state : BridgeState) : Storage :=
  { s with config := { s.config with bridgeState := state } }

/-- An action of relayers is refused to everyone else. -/
theorem isRelayer_of_checkAuthorization {s : Storage} {sender : Addr} {action : ContractActions} {u : Unit}
    (ha : UserType.owner.isAuthorized action = false) (h : checkAuthorization s sender action = .ok u) :
    isRelayer s sender = true := by
  simp only [checkAuthorization, failIf_eq_ok, not_not] at h
  by_contra hr
  simp only [hr, if_false, List.append_nil] at h
  split_ifs at h <;> simp [ha] at h

/-- An action of the owner is refused to everyone else. -/
theorem isOwner_of_checkAuthorization {s : Storage} {sender : Addr} {action : ContractActions} {u : Unit}
    (ha : UserType.relayer.isAuthorized action = false) (h : checkAuthorization s sender action = .ok u) :
    isOwner s sender = true := by
  simp only [checkAuthorization, failIf_eq_ok, not_not] at h
  by_contra hr
  simp only [hr, if_false, List.nil_append] at h
  split_ifs at h <;> simp [ha] at h

/-- A relayer may do what relayers may do. -/
theorem checkAuthorization_relayer {s : Storage} {sender : Addr} {action : ContractActions}
    (ha : UserType.relayer.isAuthorized action = true) (hr : isRelayer s sender = true) :
    checkAuthorization s sender action = .ok () := by
  simp [checkAuthorization, hr, ha]

/-- The owner may do what the owner may do. -/
theorem checkAuthorization_owner {s : Storage} {sender : Addr} {action : ContractActions}
    (ha : UserType.owner.isAuthorized action = true) (hr : isOwner s sender = true) :
    checkAuthorization s sender action = .ok () := by
  simp [checkAuthorization, hr, ha]

end XrplBridge.Contract
