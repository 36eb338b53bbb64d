import XrplBridge.Contract.Transfer

/-!
# The entry points

`instantiate`, `execute`, `reply` and `migrate`, with the handlers of the messages that are not
transfers or evidences: the registration of tokens and their updates, the recovery of
tickets and of registrations, claims, halting and resuming, the rotation of keys, and
the cancellation of an operation. The messages that exist in tests only are left out.
-/

namespace XrplBridge.Contract

open Library Std

variable (H : Host)

/-! ### Messages -/

/-- `cw20::Cw20Coin`. -/
structure Cw20Coin where
  address : String
  amount : ℕ
  deriving DecidableEq, Repr

/-- `InstantiateMsg`. -/
structure InstantiateMsg where
  owner : Addr
  relayers : List Relayer
  evidenceThreshold : ℕ
  usedTicketSequenceThreshold : ℕ
  trustSetLimitAmount : ℕ
  bridgeXRPLAddress : String
  xrplBaseFee : ℕ
  tokenFactoryAddr : Addr
  issueToken : Bool
  rateLimitAddr : Option Addr
  osorEntryPoint : Option Addr
  deriving DecidableEq, Repr

/-- `MigrateMsg`. -/
structure MigrateMsg where
  relayers : List Relayer
  evidenceThreshold : ℕ
  usedTicketSequenceThreshold : ℕ
  trustSetLimitAmount : ℕ
  bridgeXRPLAddress : String
  bridgeState : BridgeState
  xrplBaseFee : ℕ
  tokenFactoryAddr : Addr
  rateLimitAddr : Option Addr
  osorEntryPoint : Option Addr
  deriving DecidableEq, Repr

/-- What `UpdateXRPLToken` and `UpdateCosmosToken` may change of a token. -/
structure TokenUpdate where
  state : Option TokenState
  sendingPrecision : Option ℤ
  bridgingFee : Option ℕ
  maxHoldingAmount : Option ℕ
  deriving DecidableEq, Repr

/-- `ExecuteMsg`. -/
inductive ExecuteMsg where
  | createCosmosToken (subdenom : String) (initialBalances : List Cw20Coin)
  | mintCosmosToken (denom : String) (initialBalances : List Cw20Coin)
  | updateOwnership (action : Action)
  | registerCosmosToken (denom : String) (decimals : ℕ) (sendingPrecision : ℤ)
      (maxHoldingAmount bridgingFee : ℕ)
  | registerXRPLToken (issuer currency : String) (sendingPrecision : ℤ) (maxHoldingAmount bridgingFee : ℕ)
  | recoverTickets (accountSequence : ℕ) (numberOfTickets : Option ℕ)
  | recoverXRPLTokenRegistration (issuer currency : String)
  | saveSignature (operationId operationVersion : ℕ) (signature : String)
  | saveEvidence (evidence : Evidence)
  | sendToXRPL (recipient : String) (deliverAmount : Option ℕ)
  | updateXRPLToken (issuer currency : String) (update : TokenUpdate)
  | updateCosmosToken (denom : String) (update : TokenUpdate)
  | updateXRPLBaseFee (xrplBaseFee : ℕ)
  | claimRefund (pendingRefundId : String)
  | claimRelayerFees (amounts : List Coin)
  | haltBridge
  | resumeBridge
  | rotateKeys (newRelayers : List Relayer) (newEvidenceThreshold : ℕ)
  | updateProhibitedXRPLAddresses (prohibitedXRPLAddresses : List String)
  | cancelPendingOperation (operationId : ℕ)
  | updateUsedTicketSequenceThreshold (usedTicketSequenceThreshold : ℕ)
  | addRateLimit (xrplDenom : String) (quotas : List QuotaMsg)
  | removeRateLimit (xrplDenom : String)
  | resetRateLimitQuota (xrplDenom quotaId : String)
  deriving DecidableEq, Repr

/-- The attribute of the action, and the sender's. -/
def actionResponse (action : ContractActions) (sender : Addr) : Response :=
  Response.new.addAttributes [("action", action.asStr), ("sender", sender)]

/-! ### Tokens -/

/-- The mints of the initial balances. -/
def mintMsgs (config : Config) (denom : String) (initialBalances : List Cw20Coin) : List CosmosMsg :=
  initialBalances.map fun b => tokenFactoryMsg config.tokenFactoryAddr (.mintTokens denom b.amount b.address)

/-- The creation of a denom, with the funds attached to the call. -/
def createDenomMsg (config : Config) (subdenom : String) (funds : List Coin) : CosmosMsg :=
  .wasmExecute config.tokenFactoryAddr (.tokenFactory (.createDenom subdenom)) funds

/-- `create_cosmos_token`. -/
def createCosmosToken (s : Storage) (sender : Addr) (funds : List Coin) (subdenom : String)
    (initialBalances : List Cw20Coin) : ContractResult (Storage × Response) := do
  checkAuthorization s sender .createCosmosToken
  let denom := fullDenom s.config.tokenFactoryAddr (toUppercase H subdenom)
  let msgs := createDenomMsg s.config (toUppercase H subdenom) funds :: mintMsgs s.config denom initialBalances
  pure (s, ((actionResponse .createCosmosToken sender).addMessages msgs).addAttribute "denom" denom)

/-- `mint_cosmos_token`. -/
def mintCosmosToken (s : Storage) (sender : Addr) (denom : String) (initialBalances : List Cw20Coin) :
    ContractResult (Storage × Response) := do
  checkAuthorization s sender .mintCosmosToken
  pure (s, ((actionResponse .mintCosmosToken sender).addMessages
    (mintMsgs s.config denom initialBalances)).addAttribute "denom" denom)

/-- `register_cosmos_token`. -/
def registerCosmosToken (s : Storage) (env : BlockInfo) (sender : Addr) (denom : String) (decimals : ℕ)
    (sendingPrecision : ℤ) (maxHoldingAmount bridgingFee : ℕ) : ContractResult (Storage × Response) := do
  checkAuthorization s sender .registerCosmosToken
  assertBridgeActive s
  validateCosmosTokenDecimals decimals
  validateSendingPrecision sendingPrecision decimals
  failIf (s.cosmosTokens.primary.contains denom = true) (.cosmosTokenAlreadyRegistered denom)
  validateCosmosDenom denom
  let toHash := denom ++ toString decimals ++ toString env.seconds
  let hexString ← firstTen (hashBytes H (intoBytes toHash))
  let xrplCurrency := convertCurrencyToXRPLHexadecimal H (cosmosCurrencyPrefix ++ hexString)
  validateXRPLCurrency xrplCurrency
  failIf ((s.cosmosTokens.item xrplCurrency).isSome = true) .registrationFailure
  let token : CosmosToken :=
    { denom, decimals, xrplCurrency, sendingPrecision, maxHoldingAmount, state := .enabled, bridgingFee }
  let cosmosTokens ← orUniqueConstraint (s.cosmosTokens.save denom token)
  pure ({ s with cosmosTokens }, (actionResponse .registerCosmosToken sender).addAttributes
    [("denom", denom), ("decimals", toString decimals), ("xrpl_currency_for_denom", xrplCurrency)])

/-- `register_xrpl_token`. -/
def registerXRPLToken (s : Storage) (env : BlockInfo) (sender : Addr) (funds : List Coin)
    (issuer currency : String) (sendingPrecision : ℤ) (maxHoldingAmount bridgingFee : ℕ) :
    ContractResult (Storage × Response) := do
  checkAuthorization s sender .registerXRPLToken
  validateXRPLAddress H s.prohibitedXRPLAddresses issuer
  validateXRPLCurrency currency
  validateSendingPrecision sendingPrecision xrplTokensDecimals
  let key := buildXRPLTokenKey issuer currency
  failIf (s.xrplTokens.primary.contains key = true) (.xrplTokenAlreadyRegistered issuer currency)
  let toHash := issuer ++ currency ++ toString env.seconds
  let hexString ← firstTen (hashBytes H (intoBytes toHash))
  let subdenom := toUppercase H (xrplDenomPrefix ++ hexString)
  let issueMsg := createDenomMsg s.config subdenom funds
  let denom := fullDenom s.config.tokenFactoryAddr subdenom
  failIf (s.cosmosTokens.primary.contains denom = true) .registrationFailure
  let token : XRPLToken :=
    { issuer, currency, cosmosDenom := denom, sendingPrecision, maxHoldingAmount, state := .processing,
      bridgingFee }
  let xrplTokens ← orUniqueConstraint (s.xrplTokens.save key token)
  let (ticket, s) ← allocateTicket { s with xrplTokens }
  let s ← createPendingOperation s env.seconds (some ticket) none
    (.trustSet issuer currency s.config.trustSetLimitAmount)
  pure (s, ((actionResponse .registerXRPLToken sender).addMessage issueMsg).addAttributes
    [("issuer", issuer), ("currency", currency), ("denom", denom)])

/-- `recover_xrpl_token_registration`. -/
def recoverXRPLTokenRegistration (s : Storage) (timestamp : ℕ) (sender : Addr) (issuer currency : String) :
    ContractResult (Storage × Response) := do
  checkAuthorization s sender .recoverXRPLTokenRegistration
  let key := buildXRPLTokenKey issuer currency
  let token ← orFail s.xrplTokens.primary[key]? .tokenNotRegistered
  failIf (token.state ≠ .inactive) .xrplTokenNotInactive
  let xrplTokens ← orUniqueConstraint (s.xrplTokens.save key { token with state := .processing })
  let (ticket, s) ← allocateTicket { s with xrplTokens }
  let s ← createPendingOperation s timestamp (some ticket) none
    (.trustSet issuer currency s.config.trustSetLimitAmount)
  pure (s, (actionResponse .recoverXRPLTokenRegistration sender).addAttributes
    [("issuer", issuer), ("currency", currency)])

/-- `update_xrpl_token`. -/
def updateXRPLToken (s : Storage) (q : Querier) (sender : Addr) (issuer currency : String) (u : TokenUpdate) :
    ContractResult (Storage × Response) := do
  checkAuthorization s sender .updateXRPLToken
  assertBridgeActive s
  let key := buildXRPLTokenKey issuer currency
  let token ← orFail s.xrplTokens.primary[key]? .tokenNotRegistered
  let state ← setTokenState token.state u.state
  let sendingPrecision ← setTokenSendingPrecision token.sendingPrecision u.sendingPrecision
    (xrplDecimals issuer currency)
  let bridgingFee := setTokenBridgingFee token.bridgingFee u.bridgingFee
  let maxHoldingAmount ← setTokenMaxHoldingAmount (q.supply token.cosmosDenom) token.maxHoldingAmount
    u.maxHoldingAmount
  let xrplTokens ← orUniqueConstraint (s.xrplTokens.save key
    { token with state, sendingPrecision, bridgingFee, maxHoldingAmount })
  pure ({ s with xrplTokens }, (actionResponse .updateXRPLToken sender).addAttributes
    [("issuer", issuer), ("currency", currency)])

/-- `update_cosmos_token`. -/
def updateCosmosToken (s : Storage) (q : Querier) (sender : Addr) (denom : String) (u : TokenUpdate) :
    ContractResult (Storage × Response) := do
  checkAuthorization s sender .updateCosmosToken
  assertBridgeActive s
  let token ← orFail s.cosmosTokens.primary[denom]? .tokenNotRegistered
  let state ← setTokenState token.state u.state
  let sendingPrecision ← setTokenSendingPrecision token.sendingPrecision u.sendingPrecision token.decimals
  let bridgingFee := setTokenBridgingFee token.bridgingFee u.bridgingFee
  let maxHoldingAmount ← setTokenMaxHoldingAmount (q.balance token.denom) token.maxHoldingAmount
    u.maxHoldingAmount
  let cosmosTokens ← orUniqueConstraint (s.cosmosTokens.save denom
    { token with state, sendingPrecision, bridgingFee, maxHoldingAmount })
  pure ({ s with cosmosTokens }, (actionResponse .updateCosmosToken sender).addAttribute "denom" denom)

/-! ### Tickets, operations and signatures -/

/-- `recover_tickets`. -/
def recoverTickets (s : Storage) (timestamp : ℕ) (sender : Addr) (accountSequence : ℕ)
    (numberOfTickets : Option ℕ) : ContractResult (Storage × Response) := do
  checkAuthorization s sender .recoverTickets
  failIf (s.availableTickets.isEmpty = false) .stillHaveAvailableTickets
  failIf (s.pendingTicketUpdate = true) .pendingTicketUpdate
  let s := { s with pendingTicketUpdate := true }
  let numberToAllocate := numberOfTickets.getD s.usedTicketsCounter
  failIf (numberToAllocate ≤ s.config.usedTicketSequenceThreshold ∨ numberToAllocate > maxTickets)
    .invalidTicketSequenceToAllocate
  let s ← createPendingOperation s timestamp none (some accountSequence) (.allocateTickets numberToAllocate)
  pure (s, (actionResponse .recoverTickets sender).addAttribute "account_sequence" (toString accountSequence))

/-- `save_signature`. -/
def saveSignature (s : Storage) (sender : Addr) (operationId operationVersion : ℕ) (signature : String) :
    ContractResult (Storage × Response) := do
  checkAuthorization s sender .saveSignature
  let s ← addSignature s operationId operationVersion sender signature
  pure (s, (actionResponse .saveSignature sender).addAttributes
    [("operation_id", toString operationId), ("signature", signature)])

/-- An operation under a new base fee: one version further, and without signatures. -/
def Operation.withBaseFee (xrplBaseFee : ℕ) (o : Operation) : Operation :=
  { o with version := o.version + 1, signatures := [], xrplBaseFee := xrplBaseFee }

/-- `update_xrpl_base_fee`; the version is a `u64`, and raising it panics when it overflows. -/
def updateXRPLBaseFee (s : Storage) (sender : Addr) (xrplBaseFee : ℕ) : ContractResult (Storage × Response) := do
  checkAuthorization s sender .updateXRPLBaseFee
  unwrap (if s.pendingOperations.toList.all fun o => o.2.version + 1 < u64Bound then some () else none)
  pure ({ s with
      config := { s.config with xrplBaseFee := xrplBaseFee }
      pendingOperations := s.pendingOperations.map fun _ o => o.withBaseFee xrplBaseFee },
    (actionResponse .updateXRPLBaseFee sender).addAttribute "new_xrpl_base_fee" (toString xrplBaseFee))

/-- `update_used_ticket_sequence_threshold`. -/
def updateUsedTicketSequenceThreshold (s : Storage) (sender : Addr) (usedTicketSequenceThreshold : ℕ) :
    ContractResult (Storage × Response) := do
  checkAuthorization s sender .updateUsedTicketSequenceThreshold
  pure ({ s with config := { s.config with usedTicketSequenceThreshold := usedTicketSequenceThreshold } },
    (actionResponse .updateUsedTicketSequenceThreshold sender).addAttribute
      "new_used_ticket_sequence_threshold" (toString usedTicketSequenceThreshold))

/-- `cancel_pending_operation`: the operation ends as an invalid one. -/
def cancelPendingOperation (s : Storage) (sender : Addr) (operationId : ℕ) :
    ContractResult (Storage × Response) := do
  checkAuthorization s sender .cancelPendingOperation
  let operation ← checkOperationExists s operationId
  let operationResult := match operation.operationType with
    | .allocateTickets _ => some (.ticketsAllocation none)
    | _ => none
  let (s, response, msgs) ← handleOperation s operation operationResult .invalid none operationId
    operation.ticketSequence s.config.tokenFactoryAddr H.contract Response.new
  pure (s, (response.addAttributes
    [("action", ContractActions.cancelPendingOperation.asStr), ("sender", sender)]).addMessages msgs)

/-! ### Claims -/

/-- `claim_relayer_fees`. -/
def claimRelayerFees (s : Storage) (sender : Addr) (amounts : List Coin) :
    ContractResult (Storage × Response) := do
  assertBridgeActive s
  failIf (s.feesCollected[sender]? = none) .unauthorizedSender
  let s ← substractRelayerFees s sender amounts
  pure (s, (actionResponse .claimFees sender).addMessage (.bankSend sender amounts))

/-- `claim_pending_refund`. -/
def claimPendingRefund (s : Storage) (sender : Addr) (pendingRefundId : String) :
    ContractResult (Storage × Response) := do
  assertBridgeActive s
  let (coin, s) ← removePendingRefund s sender pendingRefundId
  pure (s, (actionResponse .claimRefunds sender).addMessage (.bankSend sender [coin]))

/-! ### The bridge -/

/-- `halt_bridge`. -/
def haltBridge (s : Storage) (sender : Addr) : ContractResult (Storage × Response) := do
  checkAuthorization s sender .haltBridge
  assertBridgeActive s
  pure (updateBridgeState s .halted, actionResponse .haltBridge sender)

/-- `resume_bridge`. -/
def resumeBridge (s : Storage) (sender : Addr) : ContractResult (Storage × Response) := do
  checkAuthorization s sender .resumeBridge
  failIf (s.pendingRotateKeys = true) .rotateKeysOngoing
  pure (updateBridgeState s .active, actionResponse .resumeBridge sender)

/-- `rotate_keys`. -/
def rotateKeys (s : Storage) (env : BlockInfo) (sender : Addr) (newRelayers : List Relayer)
    (newEvidenceThreshold : ℕ) : ContractResult (Storage × Response) := do
  checkAuthorization s sender .rotateKeys
  failIf (s.pendingRotateKeys = true) .rotateKeysOngoing
  let s := updateBridgeState { s with pendingRotateKeys := true } .halted
  validateRelayers H s.prohibitedXRPLAddresses newRelayers newEvidenceThreshold
  let (ticket, s) ← allocateTicket s
  let s ← createPendingOperation s env.seconds (some ticket) none (.rotateKeys newRelayers newEvidenceThreshold)
  pure (s, actionResponse .rotateKeys sender)

/-- Save one more prohibited address, if its format is valid. -/
def addProhibitedAddress (prohibited : ExtTreeMap String Unit) (address : String) :
    ContractResult (ExtTreeMap String Unit) := do
  validateXRPLAddressFormat H address
  pure (prohibited.insert address ())

/-- `update_prohibited_xrpl_addresses`: the bridge's own address is always prohibited. -/
def updateProhibitedXRPLAddresses (s : Storage) (sender : Addr) (prohibitedXRPLAddresses : List String) :
    ContractResult (Storage × Response) := do
  checkAuthorization s sender .updateProhibitedXRPLAddresses
  let prohibitedXRPLAddresses ← prohibitedXRPLAddresses.foldlM (addProhibitedAddress H)
    ((∅ : ExtTreeMap String Unit).insert s.config.bridgeXRPLAddress ())
  pure ({ s with prohibitedXRPLAddresses }, actionResponse .updateProhibitedXRPLAddresses sender)

/-- `update_ownership`. -/
def updateOwnership (s : Storage) (env : BlockInfo) (sender : Addr) (action : Action) :
    ContractResult (Storage × Response) :=
  match H.updateOwnership s.ownership env sender action with
  | .ok ownership =>
    .ok ({ s with ownership },
      (Response.new.addAttribute "sender" sender).addAttributes (H.ownershipAttributes ownership))
  | .error e => fail (.ownership e)

/-- `execute_add_rate_limit`, `execute_remove_rate_limit` and `execute_reset_rate_limit_quota`:
a message to the rate limiter, which has to be there. -/
def executeRateLimit (s : Storage) (sender : Addr) (action : ContractActions) (m : RateLimitMsg) :
    ContractResult (Storage × Response) := do
  checkAuthorization s sender action
  let rateLimitAddr ← unwrap s.config.rateLimitAddr
  pure (s, (Response.new.addAttribute "action" action.asStr).addMessage
    (.wasmExecute rateLimitAddr (.rateLimit m) []))

/-- `execute_add_rate_limit`. -/
def executeAddRateLimit (s : Storage) (sender : Addr) (xrplDenom : String) (quotas : List QuotaMsg) :
    ContractResult (Storage × Response) :=
  executeRateLimit s sender .addRateLimit (.addPath channel xrplDenom quotas)

/-- `execute_remove_rate_limit`. -/
def executeRemoveRateLimit (s : Storage) (sender : Addr) (xrplDenom : String) :
    ContractResult (Storage × Response) :=
  executeRateLimit s sender .removeRateLimit (.removePath channel xrplDenom)

/-- `execute_reset_rate_limit_quota`. -/
def executeResetRateLimitQuota (s : Storage) (sender : Addr) (xrplDenom quotaId : String) :
    ContractResult (Storage × Response) :=
  executeRateLimit s sender .resetRateLimitQuota (.resetPathQuota channel xrplDenom quotaId)

/-! ### Entry points -/

/-- `execute`. -/
def execute (s : Storage) (q : Querier) (env : BlockInfo) (sender : Addr) (funds : List Coin) :
    ExecuteMsg → ContractResult (Storage × Response)
  | .createCosmosToken subdenom initialBalances => createCosmosToken H s sender funds subdenom initialBalances
  | .mintCosmosToken denom initialBalances => mintCosmosToken s sender denom initialBalances
  | .updateOwnership action => updateOwnership H s env sender action
  | .registerCosmosToken denom decimals sendingPrecision maxHoldingAmount bridgingFee =>
    registerCosmosToken H s env sender denom decimals sendingPrecision maxHoldingAmount bridgingFee
  | .registerXRPLToken issuer currency sendingPrecision maxHoldingAmount bridgingFee =>
    registerXRPLToken H s env sender funds issuer currency sendingPrecision maxHoldingAmount bridgingFee
  | .saveEvidence evidence => saveEvidence H s q env sender evidence
  | .recoverTickets accountSequence numberOfTickets =>
    recoverTickets s env.seconds sender accountSequence numberOfTickets
  | .recoverXRPLTokenRegistration issuer currency =>
    recoverXRPLTokenRegistration s env.seconds sender issuer currency
  | .saveSignature operationId operationVersion signature =>
    saveSignature s sender operationId operationVersion signature
  | .sendToXRPL recipient deliverAmount => sendToXRPL H s q env sender funds recipient deliverAmount
  | .updateXRPLToken issuer currency update => updateXRPLToken s q sender issuer currency update
  | .updateCosmosToken denom update => updateCosmosToken s q sender denom update
  | .updateXRPLBaseFee xrplBaseFee => updateXRPLBaseFee s sender xrplBaseFee
  | .claimRefund pendingRefundId => claimPendingRefund s sender pendingRefundId
  | .claimRelayerFees amounts => claimRelayerFees s sender amounts
  | .haltBridge => haltBridge s sender
  | .resumeBridge => resumeBridge s sender
  | .rotateKeys newRelayers newEvidenceThreshold => rotateKeys H s env sender newRelayers newEvidenceThreshold
  | .updateProhibitedXRPLAddresses prohibitedXRPLAddresses =>
    updateProhibitedXRPLAddresses H s sender prohibitedXRPLAddresses
  | .cancelPendingOperation operationId => cancelPendingOperation H s sender operationId
  | .updateUsedTicketSequenceThreshold usedTicketSequenceThreshold =>
    updateUsedTicketSequenceThreshold s sender usedTicketSequenceThreshold
  | .addRateLimit xrplDenom quotas => executeAddRateLimit s sender xrplDenom quotas
  | .removeRateLimit xrplDenom => executeRemoveRateLimit s sender xrplDenom
  | .resetRateLimitQuota xrplDenom quotaId => executeResetRateLimitQuota s sender xrplDenom quotaId

/-- The XRP token, registered by `instantiate`. -/
def xrpToken (tokenFactoryAddr : Addr) : XRPLToken where
  issuer := xrpIssuer
  currency := xrpCurrency
  cosmosDenom := fullDenom tokenFactoryAddr xrpSymbol
  sendingPrecision := xrpDefaultSendingPrecision
  maxHoldingAmount := xrpDefaultMaxHoldingAmount
  state := .enabled
  bridgingFee := xrpDefaultFee

/-- The addresses that are prohibited from the start. -/
def initialProhibited (bridgeXRPLAddress : String) : ExtTreeMap String Unit :=
  (initialProhibitedXRPLAddresses.foldl (fun m a => m.insert a ()) (∅ : ExtTreeMap String Unit)).insert
    bridgeXRPLAddress ()

/-- The config `instantiate` saves. -/
def initialConfig (msg : InstantiateMsg) : Config where
  relayers := msg.relayers
  evidenceThreshold := msg.evidenceThreshold
  usedTicketSequenceThreshold := msg.usedTicketSequenceThreshold
  trustSetLimitAmount := msg.trustSetLimitAmount
  bridgeXRPLAddress := msg.bridgeXRPLAddress
  bridgeState := .active
  xrplBaseFee := msg.xrplBaseFee
  tokenFactoryAddr := msg.tokenFactoryAddr
  rateLimitAddr := msg.rateLimitAddr
  osorEntryPoint := msg.osorEntryPoint

/-- The storage after `instantiate`; the stores it does not write are empty. -/
def initialStorage (msg : InstantiateMsg) (xrplTokens : XRPLTokens) : Storage where
  contractVersion := ⟨"cw-xrpl", "0.1.0"⟩
  ownership := ⟨some msg.owner, none, none⟩
  config := initialConfig msg
  txEvidences := ∅
  processedTxs := ∅
  cosmosTokens := .empty
  xrplTokens := xrplTokens
  availableTickets := []
  usedTicketsCounter := 0
  pendingOperations := ∅
  pendingTicketUpdate := false
  pendingRotateKeys := false
  pendingRefunds := ∅
  feesCollected := ∅
  feeRemainders := ∅
  prohibitedXRPLAddresses := initialProhibited msg.bridgeXRPLAddress
  tempUniversalSwap := none

/-- `instantiate`. -/
def instantiate (sender : Addr) (funds : List Coin) (msg : InstantiateMsg) :
    ContractResult (Storage × Response) := do
  addrValidate H msg.owner
  validateRelayers H (initialProhibited msg.bridgeXRPLAddress) msg.relayers msg.evidenceThreshold
  validateXRPLAddressFormat H msg.bridgeXRPLAddress
  failIf (msg.usedTicketSequenceThreshold ≤ 1 ∨ msg.usedTicketSequenceThreshold > maxTickets)
    .invalidUsedTicketSequenceThreshold
  validateXRPLAmount msg.trustSetLimitAmount
  let issueMsgs := if msg.issueToken then [createDenomMsg (initialConfig msg) xrpSymbol funds] else []
  let xrplTokens ← orUniqueConstraint
    (IndexedMap.empty.save (buildXRPLTokenKey xrpIssuer xrpCurrency) (xrpToken msg.tokenFactoryAddr))
  pure (initialStorage msg xrplTokens,
    ((Response.new.addAttribute "action" ContractActions.instantiation.asStr).addMessages issueMsgs).addAttributes
      [("contract_name", "cw-xrpl"), ("contract_version", "0.1.0"), ("owner", msg.owner), ("sender", sender)])

/-- What a `load` of `TEMP_UNIVERSAL_SWAP` says if nothing is there. -/
def noTempUniversalSwap : ContractError :=
  .std (.notFound (notFoundObjectInfo "cw_xrpl::state::TempUniversalSwap" (intoBytes "temp_universal_swap")))

/-- `reply`, to a message that has failed. Nothing in the contract writes
`TEMP_UNIVERSAL_SWAP`. -/
def reply (s : Storage) (id : ℕ) (err : String) : ContractResult (Storage × Response) :=
  if id = universalSwapErrorId then do
    let universalSwapData ← orFail s.tempUniversalSwap noTempUniversalSwap
    pure ({ s with tempUniversalSwap := none },
      (Response.new.addAttributes [("action", "refund_universal_swap"),
        ("error_trying_to_call_entrypoint_for_universal_swap", err)]).addMessage
          (.bankSend universalSwapData.recoveryAddress [universalSwapData.returnAmount]))
  else fail (.unknownReplyId id)

/-- The config `migrate` saves: the bridge state of the message is not used. -/
def migratedConfig (msg : MigrateMsg) : Config where
  relayers := msg.relayers
  evidenceThreshold := msg.evidenceThreshold
  usedTicketSequenceThreshold := msg.usedTicketSequenceThreshold
  trustSetLimitAmount := msg.trustSetLimitAmount
  bridgeXRPLAddress := msg.bridgeXRPLAddress
  bridgeState := .active
  xrplBaseFee := msg.xrplBaseFee
  tokenFactoryAddr := msg.tokenFactoryAddr
  rateLimitAddr := msg.rateLimitAddr
  osorEntryPoint := msg.osorEntryPoint

/-- `migrate`. -/
def migrate (s : Storage) (msg : MigrateMsg) : ContractResult (Storage × Response) := do
  let s := { s with config := migratedConfig msg }
  failIf (s.contractVersion.contract ≠ "cw-xrpl") (.std (.genericErr "Can only upgrade from same contract type"))
  pure ({ s with contractVersion := ⟨"cw-xrpl", "0.1.0"⟩ }, Response.new)

theorem migrate_eq_ok {s s' : Storage} {msg : MigrateMsg} {r : Response} (h : migrate s msg = .ok (s', r)) :
    s' = { s with config := migratedConfig msg, contractVersion := ⟨"cw-xrpl", "0.1.0"⟩ } := by
  simp only [migrate, bind_eq_ok, pure_eq_ok, Prod.mk.injEq] at h
  obtain ⟨_, -, rfl, -⟩ := h
  rfl

end XrplBridge.Contract
