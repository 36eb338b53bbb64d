import XrplBridge.Contract.Evidence
import XrplBridge.Contract.Fees
import XrplBridge.Contract.Operation

/-!
# Transfers and evidences

The two directions of the bridge: `sendToXRPL` takes a user's coins and prepares the
transaction that delivers them on XRPL, `saveEvidence` collects the relayers' votes and,
with the vote that reaches the threshold, pays out a transfer from XRPL or ends a pending
operation.

A token is either XRPL originated (minted and burnt on Cosmos) or Cosmos originated
(issued by the bridge's own account on XRPL, and held in escrow on Cosmos).
-/

namespace XrplBridge.Contract

open Library Std

/-- `deps.querier`: the contract's own balances, and the supplies. -/
structure Querier where
  /-- `query_balance`, of the contract's own address. -/
  balance : String → ℕ
  /-- `query_supply`. -/
  supply : String → ℕ

variable (H : Host)

/-! ### Universal swaps -/

/-- `is_universal_swap`. -/
def isUniversalSwap (config : Config) (memo : String) : Bool := memo ≠ "" && config.osorEntryPoint.isSome

/-- The call of the entry point, if the transfer is a universal swap. -/
def universalSwapMsgs (config : Config) (memo : String) (coin : Coin) : List SubMsg :=
  match config.osorEntryPoint with
  | some entryPoint =>
    if memo ≠ "" then [⟨.wasmExecute entryPoint (.universalSwap memo) [coin], some universalSwapErrorId⟩] else []
  | none => []

/-! ### From XRPL to Cosmos -/

/-- The decimals of an XRPL originated token. -/
def xrplDecimals (issuer currency : String) : ℕ :=
  if isTokenXRP issuer currency then xrpDecimals else xrplTokensDecimals

/-- The amount a packet to the rate limiter reports of an XRPL originated token, none if
there is no rate limiter. -/
def recvPacketXRPL (config : Config) (token : XRPLToken) (decimals : ℕ) (key : String) (amount : ℕ) :
    ContractResult (List CosmosMsg) :=
  match config.rateLimitAddr with
  | some _ => do
    let (truncated, _) ← truncateAmount token.sendingPrecision decimals amount
    pure (rateLimitMsgs config (.recvPacket (packet key truncated)))
  | none => .ok []

/-- The mint of the fee to the contract, unless it is zero. -/
def mintFeeMsgs (config : Config) (denom : String) (feeCollected : ℕ) : List CosmosMsg :=
  if feeCollected ≠ 0 then [tokenFactoryMsg config.tokenFactoryAddr (.mintTokens denom feeCollected H.contract)]
  else []

/-- The executed transfer of an XRPL originated token: the fee and the amount are minted. -/
def mintXRPLOriginated (s : Storage) (token : XRPLToken) (decimals : ℕ) (key : String) (e : TransferEvidence)
    (memo : String) (amountToSend remainder : ℕ) (response : Response) :
    ContractResult (Storage × Response) := do
  let config := s.config
  let (s, feeCollected) ← handleFeeCollection s token.bridgingFee token.cosmosDenom remainder
  let feeMsgs := mintFeeMsgs H config token.cosmosDenom feeCollected
  if amountToSend ≠ 0 then do
    let recipientToMint := if isUniversalSwap config memo then H.contract else e.recipient
    let mintMsg := tokenFactoryMsg config.tokenFactoryAddr
      (.mintTokens token.cosmosDenom amountToSend recipientToMint)
    let rateLimit ← recvPacketXRPL config token decimals key e.amount
    pure (s, (response.addMessages (feeMsgs ++ [mintMsg] ++ rateLimit)).addSubmessages
      (universalSwapMsgs config memo ⟨token.cosmosDenom, amountToSend⟩))
  else pure (s, response.addMessages feeMsgs)

/-- `save_evidence`, a transfer of an XRPL originated token. -/
def receiveXRPLOriginated (s : Storage) (q : Querier) (e : TransferEvidence) (memo : String)
    (thresholdReached : Bool) (response : Response) : ContractResult (Storage × Response) := do
  let key := buildXRPLTokenKey e.issuer e.currency
  let token ← orFail s.xrplTokens.primary[key]? .tokenNotRegistered
  failIf (token.state ≠ .enabled) .tokenNotEnabled
  let decimals := xrplDecimals token.issuer token.currency
  let afterFees ← amountAfterBridgeFees e.amount token.bridgingFee
  let (amountToSend, remainder) ← truncateAmount token.sendingPrecision decimals afterFees
  let bridged ← checkedAdd e.amount (q.supply token.cosmosDenom)
  failIf (bridged > token.maxHoldingAmount) .maximumBridgedAmountReached
  if thresholdReached then
    mintXRPLOriginated H s token decimals key e memo amountToSend remainder response
  else pure (s, response)

/-- The amount a packet to the rate limiter reports of a Cosmos originated token. -/
def recvPacketCosmos (config : Config) (token : CosmosToken) (key : String) (amount : ℕ) :
    ContractResult (List CosmosMsg) :=
  match config.rateLimitAddr with
  | some _ => do
    let converted ← convertAmountDecimals xrplTokensDecimals token.decimals amount
    pure (rateLimitMsgs config (.recvPacket (packet key converted)))
  | none => .ok []

/-- The executed transfer of a Cosmos originated token: it is sent from the escrow. -/
def sendCosmosOriginated (s : Storage) (token : CosmosToken) (e : TransferEvidence) (memo : String)
    (amountToSend remainder : ℕ) (response : Response) : ContractResult (Storage × Response) := do
  let config := s.config
  let (s, _) ← handleFeeCollection s token.bridgingFee token.denom remainder
  let coin : Coin := ⟨token.denom, amountToSend⟩
  let sendMsgs := if isUniversalSwap config memo then [] else [.bankSend e.recipient [coin]]
  let rateLimit ← recvPacketCosmos config token (buildXRPLTokenKey e.issuer e.currency) e.amount
  pure (s, (response.addMessages (sendMsgs ++ rateLimit)).addSubmessages (universalSwapMsgs config memo coin))

/-- `save_evidence`, a transfer of a Cosmos originated token. -/
def receiveCosmosOriginated (s : Storage) (e : TransferEvidence) (memo : String) (thresholdReached : Bool)
    (response : Response) : ContractResult (Storage × Response) := do
  let (_, token) ← orFail (s.cosmosTokens.item e.currency) .tokenNotRegistered
  failIf (token.state ≠ .enabled) .tokenNotEnabled
  let (amountToSend, remainder) ← convertAndTruncateAmount token.sendingPrecision xrplTokensDecimals
    token.decimals e.amount token.bridgingFee
  if thresholdReached then sendCosmosOriginated s token e memo amountToSend remainder response
  else pure (s, response)

/-- `save_evidence`, a transfer from XRPL. -/
def saveTransferEvidence (s : Storage) (q : Querier) (e : TransferEvidence) (thresholdReached : Bool)
    (response : Response) : ContractResult (Storage × Response) := do
  failIf (s.config.bridgeState = .halted) .bridgeHalted
  addrValidate H e.recipient
  let memo := e.memo.getD ""
  failIf (e.recipient = H.contract) .prohibitedAddress
  let (s, response) ←
    (if e.issuer ≠ s.config.bridgeXRPLAddress then
      receiveXRPLOriginated H s q e memo thresholdReached response
    else receiveCosmosOriginated s e memo thresholdReached response)
  pure (s, response.addAttributes
    [("hash", e.txHash), ("issuer", e.issuer), ("currency", e.currency), ("amount", toString e.amount),
      ("recipient", e.recipient), ("threshold_reached", toString thresholdReached)])

/-! ### The result of a transaction on XRPL -/

/-- The number an evidence of a transaction result names. -/
def ResultEvidence.operationId (e : ResultEvidence) : Option ℕ := e.accountSequence.or e.ticketSequence

/-- A TrustSet or a transfer is only executed with a ticket. -/
def checkSequenceKind (operationType : OperationType) (e : ResultEvidence) : ContractResult Unit :=
  match operationType with
  | .trustSet _ _ _ | .cosmosToXRPLTransfer _ _ _ _ _ _ =>
    failIf (e.accountSequence.isSome = true) .invalidTransactionResultEvidence
  | _ => .ok ()

/-- A transaction that was executed has used up its ticket. -/
def registerTicketOf (s : Storage) (e : ResultEvidence) (timestamp : ℕ) : ContractResult (Bool × Storage) :=
  if e.transactionResult ≠ .invalid ∧ e.ticketSequence.isSome = true then registerUsedTicket s timestamp
  else .ok (true, s)

/-- The vote that reaches the threshold ends the operation. -/
def completeOperation (s : Storage) (env : BlockInfo) (e : ResultEvidence) (operationId : ℕ)
    (operation : Operation) (response : Response) : ContractResult (Storage × Response × List CosmosMsg) := do
  let (s, response, messages) ← handleOperation s operation e.operationResult e.transactionResult e.txHash
    operationId e.ticketSequence s.config.tokenFactoryAddr H.contract response
  let (success, s) ← registerTicketOf s e env.seconds
  pure (s, if success then response
    else response.addAttribute "adding_ticket_allocation_operation_success" "false", messages)

/-- `save_evidence`, a transaction result. -/
def saveResultEvidence (s : Storage) (env : BlockInfo) (e : ResultEvidence) (thresholdReached : Bool)
    (response : Response) : ContractResult (Storage × Response) := do
  let operationId ← unwrap e.operationId
  let operation ← checkOperationExists s operationId
  checkSequenceKind operation.operationType e
  let (s, response, messages) ←
    (if thresholdReached then completeOperation H s env e operationId operation response
    else .ok (s, response, []))
  let response := (response.addAttributes
    [("operation_type", operation.operationType.asStr), ("operation_id", toString operationId),
      ("transaction_result", e.transactionResult.asStr),
      ("threshold_reached", toString thresholdReached)]).addMessages messages
  pure (s, match e.txHash with
    | some txHash => response.addAttribute "tx_hash" txHash
    | none => response)

/-- `save_evidence`. -/
def saveEvidence (s : Storage) (q : Querier) (env : BlockInfo) (sender : Addr) (evidence : Evidence) :
    ContractResult (Storage × Response) := do
  checkAuthorization s sender .saveEvidence
  evidence.validateBasic
  let (s, thresholdReached) ← handleEvidence H s sender evidence
  let response := Response.new.addAttributes
    [("action", ContractActions.saveEvidence.asStr), ("sender", sender)]
  match evidence with
  | .xrplToCosmosTransfer e => saveTransferEvidence H s q e thresholdReached response
  | .xrplTransactionResult e => saveResultEvidence H s env e thresholdReached response

/-! ### From Cosmos to XRPL -/

/-- The amounts `send_to_xrpl` computes for a token: the token on XRPL, what is sent, the
most that may be sent, and what the rate limiter is told. -/
structure Outgoing where
  issuer : String
  currency : String
  amountToSend : ℕ
  maxAmount : Option ℕ
  increaseLimitAmount : ℕ
  deriving DecidableEq, Repr

/-- The amount to deliver and the maximum amount, with and without `deliver_amount`. -/
def deliverAmounts (token : XRPLToken) (decimals afterFees amountToSend : ℕ) (deliverAmount : Option ℕ) :
    ContractResult (ℕ × Option ℕ) :=
  match deliverAmount with
  | some deliverAmount => do
    failIf (deliverAmount > afterFees) .invalidDeliverAmount
    let (truncatedAmount, _) ← truncateAmount token.sendingPrecision decimals deliverAmount
    pure (truncatedAmount, some amountToSend)
  | none =>
    -- XRP has no maximum amount
    .ok (amountToSend, if isTokenXRP token.issuer token.currency then none else some amountToSend)

/-- `send_to_xrpl`, an XRPL originated token. -/
def sendXRPLOriginated (s : Storage) (token : XRPLToken) (funds : Coin) (deliverAmount : Option ℕ) :
    ContractResult (Storage × Outgoing) := do
  failIf (token.state ≠ .enabled) .tokenNotEnabled
  failIf (isTokenXRP token.issuer token.currency = true ∧ deliverAmount.isSome = true) .deliverAmountIsProhibited
  let decimals := xrplDecimals token.issuer token.currency
  let (increaseLimitAmount, _) ← truncateAmount token.sendingPrecision decimals funds.amount
  let afterFees ← amountAfterBridgeFees funds.amount token.bridgingFee
  let (amountToSend, remainder) ← truncateAmount token.sendingPrecision decimals afterFees
  let (amountToSend, maxAmount) ← deliverAmounts token decimals afterFees amountToSend deliverAmount
  let (s, _) ← handleFeeCollection s token.bridgingFee token.cosmosDenom remainder
  pure (s, ⟨token.issuer, token.currency, amountToSend, maxAmount, increaseLimitAmount⟩)

/-- `send_to_xrpl`, a Cosmos originated token. -/
def sendCosmosToXRPL (s : Storage) (q : Querier) (funds : Coin) (deliverAmount : Option ℕ) :
    ContractResult (Storage × Outgoing) := do
  let token ← orFail s.cosmosTokens.primary[funds.denom]? .tokenNotRegistered
  failIf (token.state ≠ .enabled) .tokenNotEnabled
  failIf (deliverAmount.isSome = true) .deliverAmountIsProhibited
  let (increaseLimitAmount, _) ← truncateAmount token.sendingPrecision token.decimals funds.amount
  let (amountToSend, remainder) ← truncateAndConvertAmount token.sendingPrecision token.decimals
    xrplTokensDecimals funds.amount token.bridgingFee
  let issuer := s.config.bridgeXRPLAddress
  let (s, _) ← handleFeeCollection s token.bridgingFee token.denom remainder
  failIf (q.balance token.denom > token.maxHoldingAmount) .maximumBridgedAmountReached
  pure (s, ⟨issuer, token.xrplCurrency, amountToSend, some amountToSend, increaseLimitAmount⟩)

/-- `validate_xrpl_amount`, of the maximum amount. -/
def validateMaxAmount : Option ℕ → ContractResult Unit
  | some maxAmount => validateXRPLAmount maxAmount
  | none => .ok ()

/-- `send_to_xrpl`. -/
def sendToXRPL (s : Storage) (q : Querier) (env : BlockInfo) (sender : Addr) (funds : List Coin)
    (recipient : String) (deliverAmount : Option ℕ) : ContractResult (Storage × Response) := do
  assertBridgeActive s
  let funds ← oneCoin funds
  validateXRPLAddress H s.prohibitedXRPLAddresses recipient
  failIf (deliverAmount.any fun d => funds.amount < d) .invalidDeliverAmount
  let (s, out) ←
    (match s.xrplTokens.item funds.denom with
    | some (_, token) => sendXRPLOriginated s token funds deliverAmount
    | none => sendCosmosToXRPL s q funds deliverAmount)
  validateXRPLAmount out.amountToSend
  validateMaxAmount out.maxAmount
  let (ticket, s) ← allocateTicket s
  let s ← createPendingOperation s env.seconds (some ticket) none
    (.cosmosToXRPLTransfer out.issuer out.currency out.amountToSend out.maxAmount sender recipient)
  let msgs := rateLimitMsgs s.config
    (.sendPacket (packet (buildXRPLTokenKey out.issuer out.currency) out.increaseLimitAmount))
  pure (s, (Response.new.addAttributes
    [("action", ContractActions.sendToXRPL.asStr), ("sender", sender), ("recipient", recipient),
      ("coin", toString funds.amount ++ funds.denom)]).addMessages msgs)

end XrplBridge.Contract
