import XrplBridge.Contract.Execute

/-!
# What a call can do

Every successful call of `execute` is one of the cases of `Effect`: for each message, what
held before, the new store and the messages sent. The invariants of the contract are
proved from these cases, and never unfold a handler.

`effect_of_execute` is the one place where the handlers are opened.
-/

namespace XrplBridge.Contract

open Library Std

variable (H : Host)

/-- Messages without a reply. -/
def plain (msgs : List CosmosMsg) : List SubMsg := msgs.map fun m => ⟨m, none⟩

/-- Messages to the rate limiter, which carry no funds. -/
def RateLimitOnly (msgs : List CosmosMsg) : Prop :=
  ∀ m ∈ msgs, ∃ addr rm, m = .wasmExecute addr (.rateLimit rm) []

theorem rateLimitOnly_rateLimitMsgs (config : Config) (m : RateLimitMsg) :
    RateLimitOnly (rateLimitMsgs config m) := by
  unfold rateLimitMsgs RateLimitOnly
  cases config.rateLimitAddr <;> simp

/-- An ended operation is removed, and the ticket of one that was executed registered. -/
inductive Settles (s : Storage) (env : BlockInfo) (e : ResultEvidence) (operationId : ℕ) : Storage → Prop
  | registered {s' : Storage} (valid : e.transactionResult ≠ .invalid) (ticketed : e.ticketSequence.isSome = true)
      (registers : Registers (endOperation s e.transactionResult operationId e.ticketSequence) env.seconds s') :
      Settles s env e operationId s'
  | unregistered (invalid : e.transactionResult = .invalid ∨ e.ticketSequence = none) :
      Settles s env e operationId (endOperation s e.transactionResult operationId e.ticketSequence)

/-- A vote is admitted: for a transfer while the bridge is active, for a result while its
operation is pending. -/
inductive Admits (s : Storage) : Evidence → Prop
  | transfer {e : TransferEvidence} (active : s.config.bridgeState = .active) :
      Admits s (.xrplToCosmosTransfer e)
  | result {e : ResultEvidence} {operationId : ℕ} {o : Operation} (named : e.operationId = some operationId)
      (pending : s.pendingOperations[operationId]? = some o)
      (kind : checkSequenceKind o.operationType e = .ok ()) : Admits s (.xrplTransactionResult e)

/-- The result a cancelled operation is given. -/
def cancelResult (operationType : OperationType) : Option OperationResult :=
  match operationType with
  | .allocateTickets _ => some (.ticketsAllocation none)
  | _ => none

/-- What a call does: the message, the new store and the messages sent. -/
inductive Effect (s : Storage) (q : Querier) (env : BlockInfo) (sender : Addr) (funds : List Coin) :
    ExecuteMsg → Storage → List SubMsg → Prop
  -- evidences
  | voted {evidence : Evidence} {s' : Storage} (relayer : isRelayer s sender = true)
      (votes : Votes H s sender evidence s' false) (admitted : Admits s evidence) :
      Effect s q env sender funds (.saveEvidence evidence) s' []
  | receivedXRPL {e : TransferEvidence} {s₁ s' : Storage} {token : XRPLToken}
      {afterFees amountToSend remainder fee : ℕ}
      {rateLimit : List CosmosMsg} (relayer : isRelayer s sender = true)
      (votes : Votes H s sender (.xrplToCosmosTransfer e) s₁ true)
      (foreign : e.issuer ≠ s.config.bridgeXRPLAddress)
      (registered : s.xrplTokens.primary[buildXRPLTokenKey e.issuer e.currency]? = some token)
      (amounts : token.bridgingFee + (amountToSend + remainder) = e.amount)
      (collected : handleFeeCollection s₁ token.bridgingFee token.cosmosDenom remainder = .ok (s', fee))
      (recipient : e.recipient ≠ H.contract) (limited : RateLimitOnly rateLimit)
      (active : s.config.bridgeState = .active) (enabled : token.state = .enabled)
      (covered : amountAfterBridgeFees e.amount token.bridgingFee = .ok afterFees)
      (truncated : truncateAmount token.sendingPrecision (xrplDecimals token.issuer token.currency) afterFees =
        .ok (amountToSend, remainder))
      (capped : e.amount + q.supply token.cosmosDenom ≤ token.maxHoldingAmount) :
      Effect s q env sender funds (.saveEvidence (.xrplToCosmosTransfer e)) s'
        (plain (mintFeeMsgs H s.config token.cosmosDenom fee ++
            [tokenFactoryMsg s.config.tokenFactoryAddr (.mintTokens token.cosmosDenom amountToSend
              (if isUniversalSwap s.config (e.memo.getD "") then H.contract else e.recipient))] ++ rateLimit) ++
          universalSwapMsgs s.config (e.memo.getD "") ⟨token.cosmosDenom, amountToSend⟩)
  | receivedCosmos {e : TransferEvidence} {s₁ s' : Storage} {denom : String} {token : CosmosToken}
      {amountToSend remainder fee : ℕ} {rateLimit : List CosmosMsg} (relayer : isRelayer s sender = true)
      (votes : Votes H s sender (.xrplToCosmosTransfer e) s₁ true)
      (own : e.issuer = s.config.bridgeXRPLAddress)
      (registered : s.cosmosTokens.item e.currency = some (denom, token))
      (amounts : token.bridgingFee + (amountToSend + remainder) = fromXRPLDecimals token.decimals e.amount)
      (collected : handleFeeCollection s₁ token.bridgingFee token.denom remainder = .ok (s', fee))
      (recipient : e.recipient ≠ H.contract) (limited : RateLimitOnly rateLimit)
      (active : s.config.bridgeState = .active)
      (truncated : convertAndTruncateAmount token.sendingPrecision xrplTokensDecimals token.decimals e.amount
        token.bridgingFee = .ok (amountToSend, remainder)) :
      Effect s q env sender funds (.saveEvidence (.xrplToCosmosTransfer e)) s'
        (plain ((if isUniversalSwap s.config (e.memo.getD "") then []
            else [.bankSend e.recipient [⟨token.denom, amountToSend⟩]]) ++ rateLimit) ++
          universalSwapMsgs s.config (e.memo.getD "") ⟨token.denom, amountToSend⟩)
  | completed {e : ResultEvidence} {s₁ s₂ s' : Storage} {operationId : ℕ} {o : Operation}
      {msgs : List CosmosMsg} (relayer : isRelayer s sender = true)
      (valid : (Evidence.xrplTransactionResult e).validateBasic = .ok ())
      (votes : Votes H s sender (.xrplTransactionResult e) s₁ true)
      (named : e.operationId = some operationId) (pending : s.pendingOperations[operationId]? = some o)
      (kind : checkSequenceKind o.operationType e = .ok ())
      (handled : Handled s₁ o e.operationResult e.transactionResult e.txHash s.config.tokenFactoryAddr
        H.contract s₂ msgs)
      (settles : Settles s₂ env e operationId s') :
      Effect s q env sender funds (.saveEvidence (.xrplTransactionResult e)) s' (plain msgs)
  | cancelled {operationId : ℕ} {o : Operation} {s₁ : Storage} {msgs : List CosmosMsg}
      (pending : s.pendingOperations[operationId]? = some o)
      (handled : Handled s o (cancelResult o.operationType) .invalid none s.config.tokenFactoryAddr H.contract
        s₁ msgs) :
      Effect s q env sender funds (.cancelPendingOperation operationId)
        (endOperation s₁ .invalid operationId o.ticketSequence) (plain msgs)
  -- operations
  | sentXRPL {recipient key : String} {deliver maxAmount : Option ℕ} {coin : Coin} {token : XRPLToken}
      {afterFees truncatedAmount amount remainder fee : ℕ} {s₁ s' : Storage} {rateLimit : List CosmosMsg}
      (paid : funds = [coin]) (registered : s.xrplTokens.item coin.denom = some (key, token))
      (amounts : token.bridgingFee + remainder + maxAmount.getD amount = coin.amount)
      (collected : handleFeeCollection s token.bridgingFee token.cosmosDenom remainder = .ok (s₁, fee))
      (opens : Opens s₁ env.seconds
        (.cosmosToXRPLTransfer token.issuer token.currency amount maxAmount sender recipient) s')
      (limited : RateLimitOnly rateLimit)
      (covered : amountAfterBridgeFees coin.amount token.bridgingFee = .ok afterFees)
      (truncated : truncateAmount token.sendingPrecision (xrplDecimals token.issuer token.currency) afterFees =
        .ok (truncatedAmount, remainder)) {increaseLimitAmount rest : ℕ}
      (increased : truncateAmount token.sendingPrecision (xrplDecimals token.issuer token.currency) coin.amount =
        .ok (increaseLimitAmount, rest))
      (told : rateLimit = rateLimitMsgs s.config
        (.sendPacket (packet (buildXRPLTokenKey token.issuer token.currency) increaseLimitAmount))) :
      Effect s q env sender funds (.sendToXRPL recipient deliver) s' (plain rateLimit)
  | sentCosmos {recipient : String} {coin : Coin} {token : CosmosToken} {amount remainder fee : ℕ}
      {s₁ s' : Storage} {rateLimit : List CosmosMsg} (paid : funds = [coin])
      (notXRPL : s.xrplTokens.item coin.denom = none)
      (registered : s.cosmosTokens.primary[coin.denom]? = some token)
      (amounts : token.bridgingFee + remainder + fromXRPLDecimals token.decimals amount ≤ coin.amount)
      (returnable : convertAmountDecimals xrplTokensDecimals token.decimals amount =
        .ok (fromXRPLDecimals token.decimals amount))
      (whole : WholeInCosmos token.decimals amount)
      (collected : handleFeeCollection s token.bridgingFee token.denom remainder = .ok (s₁, fee))
      (opens : Opens s₁ env.seconds (.cosmosToXRPLTransfer s.config.bridgeXRPLAddress token.xrplCurrency amount
        (some amount) sender recipient) s')
      (limited : RateLimitOnly rateLimit)
      (truncated : truncateAndConvertAmount token.sendingPrecision token.decimals xrplTokensDecimals coin.amount
        token.bridgingFee = .ok (amount, remainder)) {increaseLimitAmount rest : ℕ}
      (increased : truncateAmount token.sendingPrecision token.decimals coin.amount =
        .ok (increaseLimitAmount, rest))
      (told : rateLimit = rateLimitMsgs s.config (.sendPacket
        (packet (buildXRPLTokenKey s.config.bridgeXRPLAddress token.xrplCurrency) increaseLimitAmount))) :
      Effect s q env sender funds (.sendToXRPL recipient none) s' (plain rateLimit)
  | registeredXRPL {issuer currency denom subdenom : String} {precision : ℤ} {maxHolding bridgingFee : ℕ}
      {xrplTokens : XRPLTokens} {s' : Storage}
      (issuerValid : validateXRPLAddress H s.prohibitedXRPLAddresses issuer = .ok ())
      (currencyValid : validateXRPLCurrency currency = .ok ())
      (new : s.xrplTokens.primary[buildXRPLTokenKey issuer currency]? = none)
      (denomNew : s.cosmosTokens.primary[denom]? = none)
      (saved : s.xrplTokens.save (buildXRPLTokenKey issuer currency)
        ⟨issuer, currency, denom, precision, maxHolding, .processing, bridgingFee⟩ = some xrplTokens)
      (opens : Opens { s with xrplTokens := xrplTokens } env.seconds
        (.trustSet issuer currency s.config.trustSetLimitAmount) s')
      (precise : validateSendingPrecision precision xrplTokensDecimals = .ok ())
      (created : denom = fullDenom s.config.tokenFactoryAddr subdenom) :
      Effect s q env sender funds (.registerXRPLToken issuer currency precision maxHolding bridgingFee) s'
        (plain [createDenomMsg s.config subdenom funds])
  | recoveredXRPL {issuer currency : String} {token : XRPLToken} {xrplTokens : XRPLTokens} {s' : Storage}
      (registered : s.xrplTokens.primary[buildXRPLTokenKey issuer currency]? = some token)
      (saved : s.xrplTokens.save (buildXRPLTokenKey issuer currency) { token with state := .processing } =
        some xrplTokens)
      (opens : Opens { s with xrplTokens := xrplTokens } env.seconds
        (.trustSet issuer currency s.config.trustSetLimitAmount) s') (inactive : token.state = .inactive) :
      Effect s q env sender funds (.recoverXRPLTokenRegistration issuer currency) s' []
  | rotating {newRelayers : List Relayer} {newEvidenceThreshold : ℕ} {s' : Storage}
      (idle : s.pendingRotateKeys = false) (valid : ValidRelayers newRelayers newEvidenceThreshold)
      (opens : Opens (updateBridgeState { s with pendingRotateKeys := true } .halted) env.seconds
        (.rotateKeys newRelayers newEvidenceThreshold) s') :
      Effect s q env sender funds (.rotateKeys newRelayers newEvidenceThreshold) s' []
  | recovering {accountSequence number : ℕ} {numberOfTickets : Option ℕ} (empty : s.availableTickets = [])
      (noUpdate : s.pendingTicketUpdate = false)
      (above : s.config.usedTicketSequenceThreshold < number) (below : number ≤ maxTickets)
      (unused : s.pendingOperations[accountSequence]? = none)
      (asked : number = numberOfTickets.getD s.usedTicketsCounter) :
      Effect s q env sender funds (.recoverTickets accountSequence numberOfTickets)
        { s with
          pendingTicketUpdate := true
          pendingOperations := s.pendingOperations.insert accountSequence (newOperation s env.seconds
            accountSequence none (some accountSequence) (.allocateTickets number)) } []
  | signed {operationId operationVersion : ℕ} {signature : String} {o : Operation} {signatures : List Signature}
      (pending : s.pendingOperations[operationId]? = some o)
      (valid : checkValidOperationIfHalt s o.operationType = .ok ()) (relayer : isRelayer s sender = true)
      (version : operationVersion = o.version) (fresh : ∀ g ∈ o.signatures, g.relayerCosmosAddress ≠ sender)
      (appended : signatures = o.signatures ++ [⟨sender, signature⟩]) :
      Effect s q env sender funds (.saveSignature operationId operationVersion signature)
        { s with pendingOperations := s.pendingOperations.insert operationId { o with signatures } } []
  | repriced {xrplBaseFee : ℕ} :
      Effect s q env sender funds (.updateXRPLBaseFee xrplBaseFee)
        { s with
          config := { s.config with xrplBaseFee := xrplBaseFee }
          pendingOperations := s.pendingOperations.map fun _ o => o.withBaseFee xrplBaseFee } []
  | retuned {threshold : ℕ} :
      Effect s q env sender funds (.updateUsedTicketSequenceThreshold threshold)
        { s with config := { s.config with usedTicketSequenceThreshold := threshold } } []
  -- tokens
  | registeredCosmos {denom xrplCurrency : String} {decimals : ℕ} {precision : ℤ} {maxHolding bridgingFee : ℕ}
      {cosmosTokens : CosmosTokens} (new : s.cosmosTokens.primary[denom]? = none)
      (currencyValid : validateXRPLCurrency xrplCurrency = .ok ())
      (saved : s.cosmosTokens.save denom
        ⟨denom, decimals, xrplCurrency, precision, maxHolding, .enabled, bridgingFee⟩ = some cosmosTokens)
      (active : s.config.bridgeState = .active) (fits : decimals ≤ maxCosmosTokenDecimals)
      (precise : validateSendingPrecision precision decimals = .ok ()) :
      Effect s q env sender funds (.registerCosmosToken denom decimals precision maxHolding bridgingFee)
        { s with cosmosTokens := cosmosTokens } []
  | updatedXRPL {issuer currency : String} {update : TokenUpdate} {token token' : XRPLToken}
      {xrplTokens : XRPLTokens}
      (registered : s.xrplTokens.primary[buildXRPLTokenKey issuer currency]? = some token)
      (same : token'.issuer = token.issuer ∧ token'.currency = token.currency ∧
        token'.cosmosDenom = token.cosmosDenom)
      (saved : s.xrplTokens.save (buildXRPLTokenKey issuer currency) token' = some xrplTokens)
      (active : s.config.bridgeState = .active)
      (state : setTokenState token.state update.state = .ok token'.state)
      (precise : setTokenSendingPrecision token.sendingPrecision update.sendingPrecision
        (xrplDecimals issuer currency) = .ok token'.sendingPrecision)
      (capped : setTokenMaxHoldingAmount (q.supply token.cosmosDenom) token.maxHoldingAmount
        update.maxHoldingAmount = .ok token'.maxHoldingAmount) :
      Effect s q env sender funds (.updateXRPLToken issuer currency update)
        { s with xrplTokens := xrplTokens } []
  | updatedCosmos {denom : String} {update : TokenUpdate} {token token' : CosmosToken}
      {cosmosTokens : CosmosTokens} (registered : s.cosmosTokens.primary[denom]? = some token)
      (same : token'.denom = token.denom ∧ token'.decimals = token.decimals ∧
        token'.xrplCurrency = token.xrplCurrency)
      (saved : s.cosmosTokens.save denom token' = some cosmosTokens)
      (active : s.config.bridgeState = .active)
      (precise : setTokenSendingPrecision token.sendingPrecision update.sendingPrecision token.decimals =
        .ok token'.sendingPrecision) :
      Effect s q env sender funds (.updateCosmosToken denom update) { s with cosmosTokens := cosmosTokens } []
  | createdToken {subdenom subdenom' denom : String} {balances : List Cw20Coin}
      (upper : subdenom' = toUppercase H subdenom)
      (created : denom = fullDenom s.config.tokenFactoryAddr subdenom') :
      Effect s q env sender funds (.createCosmosToken subdenom balances) s
        (plain (createDenomMsg s.config subdenom' funds :: mintMsgs s.config denom balances))
  | mintedToken {denom : String} {balances : List Cw20Coin} :
      Effect s q env sender funds (.mintCosmosToken denom balances) s (plain (mintMsgs s.config denom balances))
  -- claims
  | claimedFees {amounts : List Coin} {s' : Storage} (active : s.config.bridgeState = .active)
      (taken : substractRelayerFees s sender amounts = .ok s') :
      Effect s q env sender funds (.claimRelayerFees amounts) s' (plain [.bankSend sender amounts])
  | claimedRefund {pendingRefundId : String} {refund : PendingRefund} (active : s.config.bridgeState = .active)
      (pending : s.pendingRefunds[RefundKey.mk sender pendingRefundId]? = some refund) :
      Effect s q env sender funds (.claimRefund pendingRefundId)
        { s with pendingRefunds := s.pendingRefunds.erase ⟨sender, pendingRefundId⟩ }
        (plain [.bankSend sender [refund.coin]])
  -- the bridge
  | halted : Effect s q env sender funds .haltBridge (updateBridgeState s .halted) []
  | resumed (owner : isOwner s sender = true) (noRotation : s.pendingRotateKeys = false) :
      Effect s q env sender funds .resumeBridge (updateBridgeState s .active) []
  | owned {action : Action} {ownership : Ownership} :
      Effect s q env sender funds (.updateOwnership action) { s with ownership := ownership } []
  | prohibited {addresses : List String} {prohibitedXRPLAddresses : ExtTreeMap String Unit}
      (own : prohibitedXRPLAddresses.contains s.config.bridgeXRPLAddress = true) :
      Effect s q env sender funds (.updateProhibitedXRPLAddresses addresses)
        { s with prohibitedXRPLAddresses } []
  | rateLimitAdded {xrplDenom : String} {quotas : List QuotaMsg} {msgs : List CosmosMsg}
      (limited : RateLimitOnly msgs) : Effect s q env sender funds (.addRateLimit xrplDenom quotas) s (plain msgs)
  | rateLimitRemoved {xrplDenom : String} {msgs : List CosmosMsg} (limited : RateLimitOnly msgs) :
      Effect s q env sender funds (.removeRateLimit xrplDenom) s (plain msgs)
  | rateLimitReset {xrplDenom quotaId : String} {msgs : List CosmosMsg} (limited : RateLimitOnly msgs) :
      Effect s q env sender funds (.resetRateLimitQuota xrplDenom quotaId) s (plain msgs)

/-! ### Evidences -/

section Handlers

variable {H} {s s' : Storage} {q : Querier} {env : BlockInfo} {sender : Addr} {funds : List Coin}
  {r response : Response} {reached : Bool}

theorem active_of_assertBridgeActive {u : Unit} (h : assertBridgeActive s = .ok u) :
    s.config.bridgeState = .active := by
  simpa [assertBridgeActive] using h

theorem active_of_not_halted (h : s.config.bridgeState ≠ .halted) : s.config.bridgeState = .active := by
  cases hb : s.config.bridgeState with
  | active => rfl
  | halted => exact absurd hb h

theorem mintXRPLOriginated_eq_ok {token : XRPLToken} {decimals amountToSend remainder : ℕ} {key memo : String}
    {e : TransferEvidence} (hpos : 0 < amountToSend)
    (h : mintXRPLOriginated H s token decimals key e memo amountToSend remainder response = .ok (s', r)) :
    ∃ fee rateLimit, handleFeeCollection s token.bridgingFee token.cosmosDenom remainder = .ok (s', fee) ∧
      RateLimitOnly rateLimit ∧ r.messages = response.messages ++
        (plain (mintFeeMsgs H s.config token.cosmosDenom fee ++
            [tokenFactoryMsg s.config.tokenFactoryAddr (.mintTokens token.cosmosDenom amountToSend
              (if isUniversalSwap s.config memo then H.contract else e.recipient))] ++ rateLimit) ++
          universalSwapMsgs s.config memo ⟨token.cosmosDenom, amountToSend⟩) := by
  simp only [mintXRPLOriginated, bind_eq_ok] at h
  obtain ⟨⟨s₁, fee⟩, hfee, h⟩ := h
  rw [if_pos hpos.ne'] at h
  simp only [bind_eq_ok, pure_eq_ok, Prod.mk.injEq] at h
  obtain ⟨rl, hrl, rfl, rfl⟩ := h
  refine ⟨fee, rl, hfee, ?_, by simp [plain]⟩
  unfold recvPacketXRPL at hrl
  split at hrl
  · simp only [bind_eq_ok, pure_eq_ok] at hrl
    obtain ⟨⟨t, _⟩, -, rfl⟩ := hrl
    exact rateLimitOnly_rateLimitMsgs _ _
  · cases hrl
    nofun

theorem sendCosmosOriginated_eq_ok {token : CosmosToken} {amountToSend remainder : ℕ} {memo : String}
    {e : TransferEvidence}
    (h : sendCosmosOriginated s token e memo amountToSend remainder response = .ok (s', r)) :
    ∃ fee rateLimit, handleFeeCollection s token.bridgingFee token.denom remainder = .ok (s', fee) ∧
      RateLimitOnly rateLimit ∧ r.messages = response.messages ++
        (plain ((if isUniversalSwap s.config memo then []
            else [.bankSend e.recipient [⟨token.denom, amountToSend⟩]]) ++ rateLimit) ++
          universalSwapMsgs s.config memo ⟨token.denom, amountToSend⟩) := by
  simp only [sendCosmosOriginated, bind_eq_ok, pure_eq_ok, Prod.mk.injEq] at h
  obtain ⟨⟨s₁, fee⟩, hfee, rl, hrl, rfl, rfl⟩ := h
  refine ⟨fee, rl, hfee, ?_, by simp [plain]⟩
  unfold recvPacketCosmos at hrl
  split at hrl
  · simp only [bind_eq_ok, pure_eq_ok] at hrl
    obtain ⟨t, -, rfl⟩ := hrl
    exact rateLimitOnly_rateLimitMsgs _ _
  · cases hrl
    nofun

theorem saveTransferEvidence_effect {e : TransferEvidence} {s₁ : Storage} (hr : isRelayer s sender = true)
    (hv : Votes H s sender (.xrplToCosmosTransfer e) s₁ reached) (hm : response.messages = [])
    (h : saveTransferEvidence H s₁ q e reached response = .ok (s', r)) :
    Effect H s q env sender funds (.saveEvidence (.xrplToCosmosTransfer e)) s' r.messages := by
  obtain ⟨tx, ps, hs₁⟩ := hv.frame
  simp only [saveTransferEvidence, bind_eq_ok, failIf_eq_ok, pure_eq_ok, Prod.mk.injEq] at h
  obtain ⟨_, hhalt, _, -, _, hrec, ⟨s₂, r₁⟩, h, rfl, rfl⟩ := h
  have hactive : s.config.bridgeState = .active := by
    subst hs₁
    exact active_of_not_halted hhalt
  rw [Response.messages_addAttributes]
  split_ifs at h with hissuer
  · simp only [receiveXRPLOriginated, bind_eq_ok, orFail_eq_ok, failIf_eq_ok] at h
    obtain ⟨token, htoken, _, henabled, f, hf, ⟨a, rem⟩, ht, bridged, hbridged, _, hcap, h⟩ := h
    cases reached with
    | false =>
      cases h
      rw [hm]
      exact .voted hr hv (.transfer hactive)
    | true =>
      obtain ⟨hsum, hpos, -⟩ := truncateAmount_eq_ok ht
      obtain ⟨fee, rl, hfee, hrl, hmsgs⟩ := mintXRPLOriginated_eq_ok hpos (by simpa using h)
      rw [hmsgs, hm, List.nil_append]
      have hamount := amountAfterBridgeFees_eq_ok hf
      have hsupply := (checkedAdd_eq_ok.mp hbridged).2
      subst hs₁
      exact .receivedXRPL hr hv hissuer htoken (by omega) hfee hrec hrl hactive (not_not.mp henabled) hf ht (by omega)
  · simp only [receiveCosmosOriginated, bind_eq_ok, orFail_eq_ok, failIf_eq_ok] at h
    obtain ⟨⟨denom, token⟩, htoken, _, -, ⟨a, rem⟩, ht, h⟩ := h
    cases reached with
    | false =>
      cases h
      rw [hm]
      exact .voted hr hv (.transfer hactive)
    | true =>
      obtain ⟨fee, rl, hfee, hrl, hmsgs⟩ := sendCosmosOriginated_eq_ok (by simpa using h)
      rw [hmsgs, hm, List.nil_append]
      subst hs₁
      exact .receivedCosmos hr hv (not_not.mp hissuer) htoken (convertAndTruncateAmount_eq_ok ht).1 hfee hrec hrl
        hactive ht

theorem saveResultEvidence_effect {e : ResultEvidence} {s₁ : Storage} (hr : isRelayer s sender = true)
    (hval : (Evidence.xrplTransactionResult e).validateBasic = .ok ())
    (hv : Votes H s sender (.xrplTransactionResult e) s₁ reached) (hm : response.messages = [])
    (h : saveResultEvidence H s₁ env e reached response = .ok (s', r)) :
    Effect H s q env sender funds (.saveEvidence (.xrplTransactionResult e)) s' r.messages := by
  obtain ⟨tx, ps, hs₁⟩ := hv.frame
  simp only [saveResultEvidence, bind_eq_ok, unwrap_eq_ok, checkOperationExists, orFail_eq_ok, pure_eq_ok,
    Prod.mk.injEq] at h
  obtain ⟨id, hid, o, ho, _, hk, ⟨s₂, r₁, msgs⟩, h, rfl, hr₁⟩ := h
  have hmsgs : r.messages = r₁.messages ++ plain msgs := by
    rw [← hr₁]
    split <;> rfl
  rw [hmsgs]
  cases reached with
  | false =>
    cases h
    rw [hm]
    subst hs₁
    exact .voted hr hv (.result hid ho hk)
  | true =>
    simp only [if_true, completeOperation, handleOperation, bind_eq_ok, pure_eq_ok, Prod.mk.injEq] at h
    obtain ⟨⟨s₃, r₂, ms⟩, ⟨⟨s₄, r₃, ms'⟩, hrun, rfl, rfl, rfl⟩, ⟨b, s₅⟩, hreg, rfl, rfl, rfl⟩ := h
    obtain ⟨burns, hburns, hh⟩ := handled_of_ok ho hrun
    have hr₂ : (if b = true then r₃
        else r₃.addAttribute "adding_ticket_allocation_operation_success" "false").messages =
          plain burns := by
      split <;> simp [hburns, hm, plain]
    rw [hr₂, show plain burns ++ plain ms' = plain (burns ++ ms') by simp [plain]]
    subst hs₁
    refine .completed hr hval hv hid ho hk hh ?_
    unfold registerTicketOf at hreg
    split_ifs at hreg with hc
    · exact .registered hc.1 hc.2 (registers_of_ok hreg)
    · cases hreg
      refine .unregistered ?_
      rw [not_and_or, not_not, Bool.not_eq_true, Option.isSome_eq_false_iff, Option.isNone_iff_eq_none] at hc
      exact hc

theorem saveEvidence_effect {evidence : Evidence} (h : saveEvidence H s q env sender evidence = .ok (s', r)) :
    Effect H s q env sender funds (.saveEvidence evidence) s' r.messages := by
  simp only [saveEvidence, bind_eq_ok] at h
  obtain ⟨_, hauth, _, hval, ⟨s₁, reached⟩, hv, h⟩ := h
  have hr := isRelayer_of_checkAuthorization rfl hauth
  have hv := votes_of_ok hv
  cases evidence with
  | xrplToCosmosTransfer e => exact saveTransferEvidence_effect hr hv (by simp) h
  | xrplTransactionResult e => exact saveResultEvidence_effect hr hval hv (by simp) h

/-! ### Operations -/

theorem cancelPendingOperation_effect {operationId : ℕ}
    (h : cancelPendingOperation H s sender operationId = .ok (s', r)) :
    Effect H s q env sender funds (.cancelPendingOperation operationId) s' r.messages := by
  simp only [cancelPendingOperation, checkOperationExists, handleOperation, bind_eq_ok, orFail_eq_ok,
    pure_eq_ok, Prod.mk.injEq] at h
  obtain ⟨_, -, o, ho, ⟨s₁, r₁, msgs⟩, ⟨⟨s₂, r₂, ms⟩, hrun, rfl, rfl, rfl⟩, rfl, rfl⟩ := h
  obtain ⟨burns, hburns, hh⟩ := handled_of_ok ho hrun
  have hmsgs : ((r₂.addAttributes [("action", ContractActions.cancelPendingOperation.asStr),
      ("sender", sender)]).addMessages ms).messages = plain (burns ++ ms) := by
    simp [hburns, plain]
  rw [hmsgs]
  exact .cancelled ho hh

theorem deliverAmounts_eq_ok {token : XRPLToken} {decimals afterFees amountToSend amount : ℕ}
    {deliver maxAmount : Option ℕ}
    (h : deliverAmounts token decimals afterFees amountToSend deliver = .ok (amount, maxAmount)) :
    maxAmount.getD amount = amountToSend := by
  unfold deliverAmounts at h
  split at h
  · simp only [bind_eq_ok, pure_eq_ok, Prod.mk.injEq] at h
    obtain ⟨_, -, ⟨t, _⟩, -, rfl, rfl⟩ := h
    rfl
  · cases h
    split <;> rfl

theorem handleFeeCollection_config {bridgingFee remainder fee : ℕ} {denom : String}
    (h : handleFeeCollection s bridgingFee denom remainder = .ok (s', fee)) : s'.config = s.config := by
  obtain ⟨⟨_, _, rfl⟩, -⟩ := handleFeeCollection_eq_ok h
  rfl

theorem sendToXRPL_effect {recipient : String} {deliver : Option ℕ}
    (h : sendToXRPL H s q env sender funds recipient deliver = .ok (s', r)) :
    Effect H s q env sender funds (.sendToXRPL recipient deliver) s' r.messages := by
  simp only [sendToXRPL, bind_eq_ok, pure_eq_ok, Prod.mk.injEq] at h
  obtain ⟨_, -, coin, hcoin, _, -, _, -, ⟨s₁, out⟩, hout, _, -, _, -, ⟨t, s₂⟩, halloc, s₃, hcreate, rfl,
    rfl⟩ := h
  have hopens := opens_of_ok halloc hcreate
  have hconfig : s₃.config = s₁.config := by cases hopens; rfl
  obtain ⟨rfl, -⟩ := oneCoin_eq_ok hcoin
  simp only [Response.messages_addMessages, Response.messages_addAttributes, Response.messages_new,
    List.nil_append]
  split at hout
  · rename_i key token htoken
    simp only [sendXRPLOriginated, bind_eq_ok, pure_eq_ok, Prod.mk.injEq] at hout
    obtain ⟨_, -, _, -, ⟨inc, _⟩, hinc, f, hf, ⟨a, rem⟩, ht, ⟨a', max⟩, hd, ⟨s₄, fee⟩, hfee, rfl, rfl⟩ := hout
    obtain ⟨hsum, -, -⟩ := truncateAmount_eq_ok ht
    have hamount := amountAfterBridgeFees_eq_ok hf
    have hmax : max.getD a' = a := deliverAmounts_eq_ok hd
    rw [hconfig.trans (handleFeeCollection_config hfee)]
    exact .sentXRPL rfl htoken (by simp only [hmax]; omega) hfee hopens (rateLimitOnly_rateLimitMsgs _ _) hf ht
      hinc rfl
  · rename_i hnone
    simp only [sendCosmosToXRPL, bind_eq_ok, orFail_eq_ok, failIf_eq_ok, pure_eq_ok, Prod.mk.injEq] at hout
    obtain ⟨token, htoken, _, -, _, hdeliver, ⟨inc, _⟩, hinc, ⟨a, rem⟩, ht, ⟨s₄, fee⟩, hfee, _, -, rfl, rfl⟩ :=
      hout
    obtain ⟨hle, hback, hwhole⟩ := truncateAndConvertAmount_eq_ok ht
    rw [hconfig.trans (handleFeeCollection_config hfee)]
    cases deliver with
    | none =>
      exact .sentCosmos rfl hnone htoken hle hback hwhole hfee hopens (rateLimitOnly_rateLimitMsgs _ _) ht hinc rfl
    | some d => simp at hdeliver

theorem getElem?_eq_none_of_contains {K V : Type*} [Ord K] [TransOrd K] {m : ExtTreeMap K V} {k : K}
    (h : ¬ m.contains k = true) : m[k]? = none := by
  rwa [ExtTreeMap.contains_eq_isSome_getElem?, Bool.not_eq_true, Option.isSome_eq_false_iff,
    Option.isNone_iff_eq_none] at h

theorem registerXRPLToken_effect {issuer currency : String} {precision : ℤ} {maxHolding bridgingFee : ℕ}
    (h : registerXRPLToken H s env sender funds issuer currency precision maxHolding bridgingFee = .ok (s', r)) :
    Effect H s q env sender funds (.registerXRPLToken issuer currency precision maxHolding bridgingFee) s'
      r.messages := by
  simp only [registerXRPLToken, bind_eq_ok, failIf_eq_ok, orUniqueConstraint, orFail_eq_ok, pure_eq_ok,
    Prod.mk.injEq] at h
  obtain ⟨_, -, _, hissuer, _, hcur, _, hprec, _, hnew, hash, -, _, hdenom, m, hm, ⟨t, s₁⟩, halloc, s₂,
    hcreate, rfl, rfl⟩ := h
  simp only [config_of_allocateTicket halloc] at hcreate
  exact .registeredXRPL hissuer hcur (getElem?_eq_none_of_contains hnew)
    (getElem?_eq_none_of_contains hdenom) hm (opens_of_ok halloc hcreate) hprec rfl

theorem recoverXRPLTokenRegistration_effect {issuer currency : String}
    (h : recoverXRPLTokenRegistration s env.seconds sender issuer currency = .ok (s', r)) :
    Effect H s q env sender funds (.recoverXRPLTokenRegistration issuer currency) s' r.messages := by
  simp only [recoverXRPLTokenRegistration, bind_eq_ok, failIf_eq_ok, orUniqueConstraint, orFail_eq_ok,
    pure_eq_ok, Prod.mk.injEq] at h
  obtain ⟨_, -, token, htoken, _, hinactive, m, hm, ⟨t, s₁⟩, halloc, s₂, hcreate, rfl, rfl⟩ := h
  simp only [config_of_allocateTicket halloc] at hcreate
  exact .recoveredXRPL htoken hm (opens_of_ok halloc hcreate) (not_not.mp hinactive)

theorem rotateKeys_effect {newRelayers : List Relayer} {newEvidenceThreshold : ℕ}
    (h : rotateKeys H s env sender newRelayers newEvidenceThreshold = .ok (s', r)) :
    Effect H s q env sender funds (.rotateKeys newRelayers newEvidenceThreshold) s' r.messages := by
  simp only [rotateKeys, bind_eq_ok, failIf_eq_ok, Bool.not_eq_true, pure_eq_ok, Prod.mk.injEq] at h
  obtain ⟨_, -, _, hidle, _, hval, ⟨t, s₁⟩, halloc, s₂, hcreate, rfl, rfl⟩ := h
  exact .rotating hidle (validRelayers_of_ok H hval) (opens_of_ok halloc hcreate)

theorem recoverTickets_effect {accountSequence : ℕ} {numberOfTickets : Option ℕ}
    (h : recoverTickets s env.seconds sender accountSequence numberOfTickets = .ok (s', r)) :
    Effect H s q env sender funds (.recoverTickets accountSequence numberOfTickets) s' r.messages := by
  simp only [recoverTickets, bind_eq_ok, failIf_eq_ok, Bool.not_eq_true, not_or, pure_eq_ok,
    Prod.mk.injEq] at h
  obtain ⟨_, -, _, hempty, _, hflag, _, ⟨hlo, hhi⟩, s₁, hcreate, rfl, rfl⟩ := h
  obtain ⟨id, hid, -, hfree, rfl⟩ := createPendingOperation_eq_ok hcreate
  cases hid
  exact .recovering (by simpa using hempty) hflag (by omega) (by omega) hfree rfl

theorem saveSignature_effect {operationId operationVersion : ℕ} {signature : String}
    (h : saveSignature s sender operationId operationVersion signature = .ok (s', r)) :
    Effect H s q env sender funds (.saveSignature operationId operationVersion signature) s' r.messages := by
  simp only [saveSignature, addSignature, bind_eq_ok, failIf_eq_ok, orFail_eq_ok, pure_eq_ok, not_not,
    Prod.mk.injEq] at h
  obtain ⟨_, hauth, s₁, ⟨_, -, o, ho, _, hversion, _, hvalid, _, hfresh, rfl⟩, rfl, rfl⟩ := h
  exact .signed ho hvalid (isRelayer_of_checkAuthorization rfl hauth) hversion (by simpa using hfresh) rfl

/-! ### Tokens -/

theorem registerCosmosToken_effect {denom : String} {decimals : ℕ} {precision : ℤ}
    {maxHolding bridgingFee : ℕ}
    (h : registerCosmosToken H s env sender denom decimals precision maxHolding bridgingFee = .ok (s', r)) :
    Effect H s q env sender funds (.registerCosmosToken denom decimals precision maxHolding bridgingFee) s'
      r.messages := by
  simp only [registerCosmosToken, validateCosmosTokenDecimals, bind_eq_ok, failIf_eq_ok, orUniqueConstraint,
    orFail_eq_ok, pure_eq_ok, gt_iff_lt, Nat.not_lt, Prod.mk.injEq] at h
  obtain ⟨_, -, _, hact, _, hfits, _, hprec, _, hnew, _, -, hash, -, _, hcur, _, -, m, hm, rfl, rfl⟩ := h
  exact .registeredCosmos (getElem?_eq_none_of_contains hnew) hcur hm (active_of_assertBridgeActive hact) hfits hprec

theorem updateXRPLToken_effect {issuer currency : String} {update : TokenUpdate}
    (h : updateXRPLToken s q sender issuer currency update = .ok (s', r)) :
    Effect H s q env sender funds (.updateXRPLToken issuer currency update) s' r.messages := by
  simp only [updateXRPLToken, bind_eq_ok, orUniqueConstraint, orFail_eq_ok, pure_eq_ok, Prod.mk.injEq] at h
  obtain ⟨_, -, _, hact, token, htoken, state, hstate, precision, hprec, cap, hcap, m, hm, rfl, rfl⟩ := h
  exact .updatedXRPL htoken (by exact ⟨rfl, rfl, rfl⟩) hm (active_of_assertBridgeActive hact) hstate hprec hcap

theorem updateCosmosToken_effect {denom : String} {update : TokenUpdate}
    (h : updateCosmosToken s q sender denom update = .ok (s', r)) :
    Effect H s q env sender funds (.updateCosmosToken denom update) s' r.messages := by
  simp only [updateCosmosToken, bind_eq_ok, orUniqueConstraint, orFail_eq_ok, pure_eq_ok, Prod.mk.injEq] at h
  obtain ⟨_, -, _, hact, token, htoken, state, -, precision, hprec, _, -, m, hm, rfl, rfl⟩ := h
  exact .updatedCosmos htoken (by exact ⟨rfl, rfl, rfl⟩) hm (active_of_assertBridgeActive hact) hprec

/-! ### Claims and the bridge -/

theorem claimRelayerFees_effect {amounts : List Coin} (h : claimRelayerFees s sender amounts = .ok (s', r)) :
    Effect H s q env sender funds (.claimRelayerFees amounts) s' r.messages := by
  simp only [claimRelayerFees, bind_eq_ok, pure_eq_ok, Prod.mk.injEq] at h
  obtain ⟨_, hact, _, -, s₁, hs, rfl, rfl⟩ := h
  exact .claimedFees (active_of_assertBridgeActive hact) hs

theorem claimPendingRefund_effect {pendingRefundId : String}
    (h : claimPendingRefund s sender pendingRefundId = .ok (s', r)) :
    Effect H s q env sender funds (.claimRefund pendingRefundId) s' r.messages := by
  simp only [claimPendingRefund, removePendingRefund, bind_eq_ok, orFail_eq_ok, pure_eq_ok,
    Prod.mk.injEq] at h
  obtain ⟨_, hact, ⟨coin, s₁⟩, ⟨refund, hrefund, rfl, rfl⟩, rfl, rfl⟩ := h
  exact .claimedRefund (active_of_assertBridgeActive hact) hrefund

theorem foldlM_addProhibitedAddress_contains {addresses : List String} {m m' : ExtTreeMap String Unit}
    {a : String} (ha : m.contains a = true) (h : addresses.foldlM (addProhibitedAddress H) m = .ok m') :
    m'.contains a = true := by
  induction addresses generalizing m with
  | nil => cases h; exact ha
  | cons b bs ih =>
    simp only [List.foldlM_cons, addProhibitedAddress, bind_eq_ok, pure_eq_ok] at h
    obtain ⟨_, ⟨_, -, rfl⟩, h⟩ := h
    exact ih (by simp [ha]) h

theorem updateProhibitedXRPLAddresses_effect {addresses : List String}
    (h : updateProhibitedXRPLAddresses H s sender addresses = .ok (s', r)) :
    Effect H s q env sender funds (.updateProhibitedXRPLAddresses addresses) s' r.messages := by
  simp only [updateProhibitedXRPLAddresses, bind_eq_ok, pure_eq_ok, Prod.mk.injEq] at h
  obtain ⟨_, -, m, hm, rfl, rfl⟩ := h
  exact .prohibited (foldlM_addProhibitedAddress_contains (by simp) hm)

theorem executeRateLimit_eq_ok {action : ContractActions} {m : RateLimitMsg}
    (h : executeRateLimit s sender action m = .ok (s', r)) :
    s' = s ∧ ∃ msgs, RateLimitOnly msgs ∧ r.messages = plain msgs := by
  simp only [executeRateLimit, bind_eq_ok, unwrap_eq_ok, pure_eq_ok, Prod.mk.injEq] at h
  obtain ⟨_, -, addr, -, rfl, rfl⟩ := h
  exact ⟨rfl, [.wasmExecute addr (.rateLimit m) []], by simp [RateLimitOnly], rfl⟩

/-- **Every successful call is one of the cases of `Effect`.** -/
theorem effect_of_execute {msg : ExecuteMsg} (h : execute H s q env sender funds msg = .ok (s', r)) :
    Effect H s q env sender funds msg s' r.messages := by
  cases msg with
  | createCosmosToken =>
    simp only [execute, createCosmosToken, bind_eq_ok, pure_eq_ok, Prod.mk.injEq] at h
    obtain ⟨_, -, rfl, rfl⟩ := h
    exact .createdToken rfl rfl
  | mintCosmosToken =>
    simp only [execute, mintCosmosToken, bind_eq_ok, pure_eq_ok, Prod.mk.injEq] at h
    obtain ⟨_, -, rfl, rfl⟩ := h
    exact .mintedToken
  | updateOwnership action =>
    simp only [execute, updateOwnership] at h
    split at h
    · cases h; exact .owned
    · simp at h
  | registerCosmosToken => exact registerCosmosToken_effect h
  | registerXRPLToken => exact registerXRPLToken_effect h
  | recoverTickets => exact recoverTickets_effect h
  | recoverXRPLTokenRegistration => exact recoverXRPLTokenRegistration_effect h
  | saveSignature => exact saveSignature_effect h
  | saveEvidence => exact saveEvidence_effect h
  | sendToXRPL => exact sendToXRPL_effect h
  | updateXRPLToken => exact updateXRPLToken_effect h
  | updateCosmosToken => exact updateCosmosToken_effect h
  | updateXRPLBaseFee =>
    simp only [execute, updateXRPLBaseFee, bind_eq_ok, pure_eq_ok, Prod.mk.injEq] at h
    obtain ⟨_, -, _, -, rfl, rfl⟩ := h
    exact .repriced
  | claimRefund => exact claimPendingRefund_effect h
  | claimRelayerFees => exact claimRelayerFees_effect h
  | haltBridge =>
    simp only [execute, haltBridge, bind_eq_ok, pure_eq_ok, Prod.mk.injEq] at h
    obtain ⟨_, -, _, -, rfl, rfl⟩ := h
    exact .halted
  | resumeBridge =>
    simp only [execute, resumeBridge, bind_eq_ok, failIf_eq_ok, Bool.not_eq_true, pure_eq_ok,
      Prod.mk.injEq] at h
    obtain ⟨_, hauth, _, hrot, rfl, rfl⟩ := h
    exact .resumed (isOwner_of_checkAuthorization rfl hauth) hrot
  | rotateKeys => exact rotateKeys_effect h
  | updateProhibitedXRPLAddresses => exact updateProhibitedXRPLAddresses_effect h
  | cancelPendingOperation => exact cancelPendingOperation_effect h
  | updateUsedTicketSequenceThreshold =>
    simp only [execute, updateUsedTicketSequenceThreshold, bind_eq_ok, pure_eq_ok, Prod.mk.injEq] at h
    obtain ⟨_, -, rfl, rfl⟩ := h
    exact .retuned
  | addRateLimit =>
    obtain ⟨rfl, msgs, hl, hmsgs⟩ := executeRateLimit_eq_ok h
    exact hmsgs ▸ .rateLimitAdded hl
  | removeRateLimit =>
    obtain ⟨rfl, msgs, hl, hmsgs⟩ := executeRateLimit_eq_ok h
    exact hmsgs ▸ .rateLimitRemoved hl
  | resetRateLimitQuota =>
    obtain ⟨rfl, msgs, hl, hmsgs⟩ := executeRateLimit_eq_ok h
    exact hmsgs ▸ .rateLimitReset hl

end Handlers

/-! ### What no call changes -/

/-- The data that stays as `instantiate` has set it. -/
def Storage.fixed (s : Storage) : Option TempUniversalSwap × String × Addr × Option Addr :=
  (s.tempUniversalSwap, s.config.bridgeXRPLAddress, s.config.tokenFactoryAddr, s.config.rateLimitAddr)

section Fixed

variable {H} {s s' : Storage}

theorem Opens.fixed {timestamp : ℕ} {operationType : OperationType}
    (h : Opens s timestamp operationType s') : s'.fixed = s.fixed := by
  cases h; rfl

theorem Registers.fixed {timestamp : ℕ} (h : Registers s timestamp s') : s'.fixed = s.fixed := by
  cases h <;> rfl

theorem Votes.fixed {sender : Addr} {evidence : Evidence} {reached : Bool}
    (h : Votes H s sender evidence s' reached) : s'.fixed = s.fixed := by
  cases h <;> rfl

theorem Handled.fixed {o : Operation} {operationResult : Option OperationResult}
    {transactionResult : TransactionResult} {txHash : Option String} {tokenFactoryAddr burnAddr : Addr}
    {msgs : List CosmosMsg}
    (h : Handled s o operationResult transactionResult txHash tokenFactoryAddr burnAddr s' msgs) :
    s'.fixed = s.fixed := by
  cases h <;> rfl

theorem endOperation_fixed (s : Storage) (transactionResult : TransactionResult) (operationId : ℕ)
    (ticketSequence : Option ℕ) :
    (endOperation s transactionResult operationId ticketSequence).fixed = s.fixed := by
  obtain ⟨_, hend⟩ := endOperation_frame s transactionResult operationId ticketSequence
  rw [hend]
  rfl

theorem Settles.fixed {env : BlockInfo} {e : ResultEvidence} {operationId : ℕ}
    (h : Settles s env e operationId s') : s'.fixed = s.fixed := by
  cases h with
  | registered _ _ hr => rw [hr.fixed, endOperation_fixed]
  | unregistered => exact endOperation_fixed ..

theorem handleFeeCollection_fixed {bridgingFee remainder fee : ℕ} {denom : String}
    (h : handleFeeCollection s bridgingFee denom remainder = .ok (s', fee)) : s'.fixed = s.fixed := by
  obtain ⟨⟨_, _, rfl⟩, -⟩ := handleFeeCollection_eq_ok h
  rfl

theorem Effect.fixed {q : Querier} {env : BlockInfo} {sender : Addr} {funds : List Coin} {msg : ExecuteMsg}
    {ms : List SubMsg} (h : Effect H s q env sender funds msg s' ms) : s'.fixed = s.fixed := by
  cases h with
  | voted _ hv => exact hv.fixed
  | receivedXRPL _ hv _ _ _ hc => rw [handleFeeCollection_fixed hc, hv.fixed]
  | receivedCosmos _ hv _ _ _ hc => rw [handleFeeCollection_fixed hc, hv.fixed]
  | completed _ _ hv _ _ _ hh hs => rw [hs.fixed, hh.fixed, hv.fixed]
  | cancelled _ hh => rw [endOperation_fixed, hh.fixed]
  | sentXRPL _ _ _ hc ho => rw [ho.fixed, handleFeeCollection_fixed hc]
  | sentCosmos _ _ _ _ _ _ hc ho => rw [ho.fixed, handleFeeCollection_fixed hc]
  | registeredXRPL _ _ _ _ _ ho => exact ho.fixed
  | recoveredXRPL _ _ ho => exact ho.fixed
  | rotating _ _ ho => exact ho.fixed
  | claimedFees _ ht =>
    obtain ⟨⟨_, rfl⟩, -⟩ := substractRelayerFees_eq_ok ht
    rfl
  | _ => rfl

end Fixed

end XrplBridge.Contract
