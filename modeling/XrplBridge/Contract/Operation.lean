import XrplBridge.Contract.Validation
import XrplBridge.Contract.Amount

/-!
# Tickets and operations

A transaction on XRPL is prepared as a pending operation, keyed by the number of the
ticket it uses up (or of the account sequence, for the recovery of tickets), and ends
with a transaction result: `handleOperation` runs what its type asks for, removes it,
and gives back the ticket of one that was never executed.

The functions are those of `tickets.rs`, `operation.rs`, `signatures.rs` and the
confirmation of `relayer.rs`; a function that writes to the store returns the new one.

What they do is said once, as relations between the store before and after: `Opens` for
an operation on the ticket at the front, `Handled` for the end of an operation and
`Registers` for a used ticket.
-/

namespace XrplBridge.Contract

open Library Std

/-! ### Tickets -/

/-- `reserve_ticket`: the ticket at the front. -/
def reserveTicket (s : Storage) : ContractResult (ℕ × Storage) :=
  match s.availableTickets with
  | [] => fail .noAvailableTickets
  | ticket :: tickets => .ok (ticket, { s with availableTickets := tickets })

/-- `allocate_ticket`: the last ticket is kept for the update of the tickets. -/
def allocateTicket (s : Storage) : ContractResult (ℕ × Storage) := do
  failIf (s.availableTickets.isEmpty = true) .noAvailableTickets
  failIf (s.availableTickets.length ≤ 1) .lastTicketReserved
  reserveTicket s

/-- `return_ticket`: to the front. -/
def returnTicket (s : Storage) (ticket : ℕ) : Storage :=
  { s with availableTickets := ticket :: s.availableTickets }

/-- `handle_ticket_allocation_confirmation`. The counter cannot go below zero; the number
of tickets is a `u32`, as `usize` is on a 32-bit target. -/
def handleTicketAllocationConfirmation (s : Storage) (tickets : Option (List ℕ))
    (transactionResult : TransactionResult) : ContractResult Storage :=
  let s := { s with pendingTicketUpdate := false }
  if transactionResult = .accepted then do
    let tickets ← orFail tickets .invalidTicketSequenceToAllocate
    pure { s with
      availableTickets := s.availableTickets ++ tickets
      usedTicketsCounter := s.usedTicketsCounter - tickets.length }
  else .ok s

/-! ### Pending operations -/

/-- `check_operation_exists`. -/
def checkOperationExists (s : Storage) (operationId : ℕ) : ContractResult Operation :=
  orFail s.pendingOperations[operationId]? .pendingOperationNotFound

/-- `check_valid_operation_if_halt`. -/
def checkValidOperationIfHalt (s : Storage) (operationType : OperationType) : ContractResult Unit :=
  if s.config.bridgeState = .halted then
    match operationType with
    | .rotateKeys _ _ => failIf (s.pendingRotateKeys = false) .bridgeHalted
    | .allocateTickets _ => .ok ()
    | _ => fail .bridgeHalted
  else .ok ()

/-- A new operation: `id` is unique as long as no number is used twice within a second. -/
def newOperation (s : Storage) (timestamp operationId : ℕ) (ticketSequence accountSequence : Option ℕ)
    (operationType : OperationType) : Operation where
  id := toString timestamp ++ "-" ++ toString operationId
  version := 1
  ticketSequence := ticketSequence
  accountSequence := accountSequence
  signatures := []
  operationType := operationType
  xrplBaseFee := s.config.xrplBaseFee

/-- `create_pending_operation`. -/
def createPendingOperation (s : Storage) (timestamp : ℕ) (ticketSequence accountSequence : Option ℕ)
    (operationType : OperationType) : ContractResult Storage := do
  checkValidOperationIfHalt s operationType
  let operationId ← unwrap (ticketSequence.or accountSequence)
  let operation := newOperation s timestamp operationId ticketSequence accountSequence operationType
  failIf (s.pendingOperations.contains operationId = true) .pendingOperationAlreadyExists
  pure { s with pendingOperations := s.pendingOperations.insert operationId operation }

/-- `register_used_ticket`: whether the new allocation, if one was due, found a ticket. -/
def registerUsedTicket (s : Storage) (timestamp : ℕ) : ContractResult (Bool × Storage) := do
  let usedTickets := s.usedTicketsCounter + 1
  -- a `u32` sum, which panics when it overflows
  unwrap (if usedTickets < u32Bound then some () else none)
  let s := { s with usedTicketsCounter := usedTickets }
  if usedTickets ≥ s.config.usedTicketSequenceThreshold ∧ s.pendingTicketUpdate = false then
    match reserveTicket s with
    | .ok (ticketToUpdate, s) => do
      let s ← createPendingOperation s timestamp (some ticketToUpdate) none
        (.allocateTickets s.config.usedTicketSequenceThreshold)
      pure (true, { s with pendingTicketUpdate := true })
    | .error (.err .noAvailableTickets) => .ok (false, s)
    | .error e => .error e
  else pure (true, s)

/-! ### Refunds -/

/-- `store_pending_refund`. -/
def storePendingRefund (s : Storage) (pendingOperationId : String) (xrplTxHash : Option String)
    (receiver : Addr) (coin : Coin) : Storage :=
  { s with
    pendingRefunds := s.pendingRefunds.insert ⟨receiver, pendingOperationId⟩
      { address := receiver, xrplTxHash := xrplTxHash, id := pendingOperationId, coin := coin } }

/-- `remove_pending_refund`. -/
def removePendingRefund (s : Storage) (sender : Addr) (pendingRefundId : String) :
    ContractResult (Coin × Storage) := do
  let pendingRefund ← orFail s.pendingRefunds[RefundKey.mk sender pendingRefundId]? .pendingRefundNotFound
  pure (pendingRefund.coin,
    { s with pendingRefunds := s.pendingRefunds.erase ⟨sender, pendingRefundId⟩ })

/-! ### Messages to other contracts -/

/-- A message to the token factory, without funds. -/
def tokenFactoryMsg (tokenFactoryAddr : Addr) (m : TokenFactoryMsg) : CosmosMsg :=
  .wasmExecute tokenFactoryAddr (.tokenFactory m) []

/-- A packet of the default channel. -/
def packet (denom : String) (amount : ℕ) : Packet := ⟨channel, denom, amount⟩

/-- A message to the rate limiter, if there is one. -/
def rateLimitMsgs (config : Config) (m : RateLimitMsg) : List CosmosMsg :=
  match config.rateLimitAddr with
  | some rateLimitAddr => [.wasmExecute rateLimitAddr (.rateLimit m) []]
  | none => []

/-! ### What an operation's end does -/

/-- `handle_rotate_keys_confirmation`. -/
def handleRotateKeysConfirmation (s : Storage) (relayers : List Relayer) (newEvidenceThreshold : ℕ)
    (transactionResult : TransactionResult) : Storage :=
  let s := if transactionResult = .accepted then
      { s with
        config := { s.config with relayers := relayers, evidenceThreshold := newEvidenceThreshold }
        txEvidences := ∅ }
    else s
  { s with pendingRotateKeys := false }

/-- `handle_trust_set_confirmation`. -/
def handleTrustSetConfirmation (s : Storage) (issuer currency : String)
    (transactionResult : TransactionResult) : ContractResult Storage := do
  let key := buildXRPLTokenKey issuer currency
  let token ← orFail s.xrplTokens.primary[key]? .tokenNotRegistered
  let xrplTokens ← orUniqueConstraint (s.xrplTokens.save key
    { token with state := if transactionResult = .accepted then .enabled else .inactive })
  pure { s with xrplTokens := xrplTokens }

/-- The rate limiter is told that an amount was not sent after all. -/
def undoSendMsgs (s : Storage) (key : String) (amount : ℕ) : List CosmosMsg :=
  rateLimitMsgs s.config (.undoSend (packet key amount))

/-- `handle_cosmos_to_xrpl_transfer_confirmation`: the amount is burnt or refunded, and
of a Cosmos originated token kept in escrow or refunded. -/
def handleCosmosToXRPLTransferConfirmation (s : Storage) (transactionResult : TransactionResult)
    (txHash : Option String) (operationId : ℕ) (tokenFactoryAddr burnAddr : Addr) (response : Response) :
    ContractResult (Storage × Response × List CosmosMsg) := do
  let pendingOperation ← orFail s.pendingOperations[operationId]? .pendingOperationNotFound
  match pendingOperation.operationType with
  | .cosmosToXRPLTransfer issuer currency amount maxAmount sender _ =>
    let key := buildXRPLTokenKey issuer currency
    match s.xrplTokens.primary[key]? with
    | some xrplToken =>
      -- for XRP there is no maximum amount
      let amountSent := maxAmount.getD amount
      if transactionResult = .accepted then
        .ok (s, response.addMessage (tokenFactoryMsg tokenFactoryAddr
          (.burnTokens xrplToken.cosmosDenom amountSent burnAddr)), [])
      else
        .ok (storePendingRefund s pendingOperation.id txHash sender ⟨xrplToken.cosmosDenom, amountSent⟩,
          response, undoSendMsgs s key amountSent)
    | none =>
      if transactionResult = .accepted then .ok (s, response, [])
      else
        match s.cosmosTokens.item currency with
        | some (_, token) => do
          let maxAmount ← unwrap maxAmount
          let amountToSendBack ← convertAmountDecimals xrplTokensDecimals token.decimals maxAmount
          pure (storePendingRefund s pendingOperation.id txHash sender ⟨token.denom, amountToSendBack⟩,
            response, undoSendMsgs s key amountToSendBack)
        | none => fail .tokenNotRegistered
  | _ => fail .invalidOperationResult

/-- The handler for each type of operation. -/
def runHandler (s : Storage) (operation : Operation) (operationResult : Option OperationResult)
    (transactionResult : TransactionResult) (txHash : Option String) (operationId : ℕ)
    (tokenFactoryAddr burnAddr : Addr) (response : Response) :
    ContractResult (Storage × Response × List CosmosMsg) :=
  match operation.operationType with
  | .allocateTickets _ =>
    match operationResult with
    | some (.ticketsAllocation tickets) => do
      let s ← handleTicketAllocationConfirmation s tickets transactionResult
      pure (s, response, [])
    | none => fail .invalidOperationResult
  | .trustSet issuer currency _ => do
    let s ← handleTrustSetConfirmation s issuer currency transactionResult
    pure (s, response, [])
  | .rotateKeys newRelayers newEvidenceThreshold =>
    .ok (handleRotateKeysConfirmation s newRelayers newEvidenceThreshold transactionResult, response, [])
  | .cosmosToXRPLTransfer _ _ _ _ _ _ =>
    handleCosmosToXRPLTransferConfirmation s transactionResult txHash operationId tokenFactoryAddr burnAddr
      response

/-- An ended operation is removed; one that was never executed gives back its ticket. -/
def endOperation (s : Storage) (transactionResult : TransactionResult) (operationId : ℕ)
    (ticketSequence : Option ℕ) : Storage :=
  let s := { s with pendingOperations := s.pendingOperations.erase operationId }
  match ticketSequence with
  | some ticket => if transactionResult = .invalid then returnTicket s ticket else s
  | none => s

/-- The end of an operation removes it, and changes nothing else but the queue of tickets. -/
theorem endOperation_frame (s : Storage) (transactionResult : TransactionResult) (operationId : ℕ)
    (ticketSequence : Option ℕ) :
    ∃ availableTickets, endOperation s transactionResult operationId ticketSequence =
      { s with pendingOperations := s.pendingOperations.erase operationId, availableTickets } := by
  unfold endOperation
  cases ticketSequence with
  | none => exact ⟨_, rfl⟩
  | some ticket =>
    dsimp only
    split_ifs <;> exact ⟨_, rfl⟩

/-- `handle_operation`. -/
def handleOperation (s : Storage) (operation : Operation) (operationResult : Option OperationResult)
    (transactionResult : TransactionResult) (txHash : Option String) (operationId : ℕ)
    (ticketSequence : Option ℕ) (tokenFactoryAddr burnAddr : Addr) (response : Response) :
    ContractResult (Storage × Response × List CosmosMsg) := do
  let (s, response, msgs) ← runHandler s operation operationResult transactionResult txHash operationId
    tokenFactoryAddr burnAddr response
  pure (endOperation s transactionResult operationId ticketSequence, response, msgs)

/-! ### Signatures -/

/-- `validate_signature`. -/
def validateSignature (signature : String) : ContractResult Unit :=
  failIf (signature.utf8ByteSize > maxSignatureLength) .invalidSignatureLength

/-- `add_signature`. -/
def addSignature (s : Storage) (operationId operationVersion : ℕ) (sender : Addr) (signature : String) :
    ContractResult Storage := do
  validateSignature signature
  let pendingOperation ← orFail s.pendingOperations[operationId]? .pendingOperationNotFound
  failIf (operationVersion ≠ pendingOperation.version) .operationVersionMismatch
  checkValidOperationIfHalt s pendingOperation.operationType
  failIf (pendingOperation.signatures.any fun g => g.relayerCosmosAddress = sender) .signatureAlreadyProvided
  pure { s with
    pendingOperations := s.pendingOperations.insert operationId
      { pendingOperation with signatures := pendingOperation.signatures ++ [⟨sender, signature⟩] } }

/-! ### What they do -/

variable {s s₁ s' : Storage} {timestamp ticket operationId : ℕ} {operationType : OperationType}

/-- A transfer or a TrustSet is not created while the bridge is halted. -/
theorem active_of_checkValidOperationIfHalt {u : Unit}
    (h : checkValidOperationIfHalt s operationType = .ok u)
    (ha : ∀ n, operationType ≠ .allocateTickets n) (hr : ∀ rs t, operationType ≠ .rotateKeys rs t) :
    s.config.bridgeState = .active := by
  unfold checkValidOperationIfHalt at h
  split_ifs at h with hs
  · split at h
    · exact absurd rfl (hr _ _)
    · exact absurd rfl (ha _)
    · simp at h
  · cases hc : s.config.bridgeState with
    | active => rfl
    | halted => exact absurd hc hs

@[simp] theorem checkValidOperationIfHalt_allocateTickets (s : Storage) (n : ℕ) :
    checkValidOperationIfHalt s (.allocateTickets n) = .ok () := by
  unfold checkValidOperationIfHalt
  split_ifs <;> rfl

/-- A new operation under a number that no operation has. -/
theorem createPendingOperation_eq_ok {ticketSequence accountSequence : Option ℕ}
    (h : createPendingOperation s timestamp ticketSequence accountSequence operationType = .ok s') :
    ∃ operationId, ticketSequence.or accountSequence = some operationId ∧
      checkValidOperationIfHalt s operationType = .ok () ∧ s.pendingOperations[operationId]? = none ∧
        s' = { s with
          pendingOperations := s.pendingOperations.insert operationId
            (newOperation s timestamp operationId ticketSequence accountSequence operationType) } := by
  simp only [createPendingOperation, bind_eq_ok, unwrap_eq_ok, failIf_eq_ok, pure_eq_ok] at h
  obtain ⟨_, hv, id, hid, _, hc, rfl⟩ := h
  refine ⟨id, hid, hv, ?_, rfl⟩
  rwa [ExtTreeMap.contains_eq_isSome_getElem?, Bool.not_eq_true, Option.isSome_eq_false_iff,
    Option.isNone_iff_eq_none] at hc

theorem createPendingOperation_ok {ticketSequence accountSequence : Option ℕ}
    (hid : ticketSequence.or accountSequence = some operationId)
    (hvalid : checkValidOperationIfHalt s operationType = .ok ())
    (hfree : s.pendingOperations[operationId]? = none) :
    ∃ s', createPendingOperation s timestamp ticketSequence accountSequence operationType = .ok s' := by
  have hc : ¬ s.pendingOperations.contains operationId = true := by
    rw [ExtTreeMap.contains_eq_isSome_getElem?, hfree, Option.isSome_none]
    exact Bool.false_ne_true
  exact ⟨_, bind_eq_ok.mpr ⟨(), hvalid, bind_eq_ok.mpr ⟨operationId, unwrap_eq_ok.mpr hid,
    bind_eq_ok.mpr ⟨(), failIf_eq_ok.mpr hc, rfl⟩⟩⟩⟩

/-- An operation is created on the ticket at the front of the queue, which is not the last. -/
inductive Opens (s : Storage) (timestamp : ℕ) (operationType : OperationType) : Storage → Prop
  | intro {ticket : ℕ} {tickets : List ℕ} (available : s.availableTickets = ticket :: tickets)
      (notLast : tickets ≠ []) (unused : s.pendingOperations[ticket]? = none)
      (valid : checkValidOperationIfHalt s operationType = .ok ()) :
      Opens s timestamp operationType
        { s with
          availableTickets := tickets
          pendingOperations := s.pendingOperations.insert ticket
            (newOperation s timestamp ticket (some ticket) none operationType) }

theorem config_of_allocateTicket (h : allocateTicket s = .ok (ticket, s₁)) : s₁.config = s.config := by
  simp only [allocateTicket, bind_eq_ok] at h
  obtain ⟨_, -, _, -, h⟩ := h
  unfold reserveTicket at h
  split at h
  · simp at h
  · cases h; rfl

theorem opens_of_ok (ha : allocateTicket s = .ok (ticket, s₁))
    (hc : createPendingOperation s₁ timestamp (some ticket) none operationType = .ok s') :
    Opens s timestamp operationType s' := by
  simp only [allocateTicket, bind_eq_ok, failIf_eq_ok] at ha
  obtain ⟨_, -, _, hlen, ha⟩ := ha
  unfold reserveTicket at ha
  split at ha
  · simp at ha
  · rename_i t ts hav
    cases ha
    obtain ⟨id, hid, hv, hfree, rfl⟩ := createPendingOperation_eq_ok hc
    cases hid
    refine .intro hav ?_ hfree hv
    rintro rfl
    simp [hav] at hlen

/-- A ticket is registered as used; when enough are, and no allocation is pending, the
next ticket, if there is one, is taken for an allocation. -/
inductive Registers (s : Storage) (timestamp : ℕ) : Storage → Prop
  | counted (fits : s.usedTicketsCounter + 1 < u32Bound)
      (notDue : ¬ (s.config.usedTicketSequenceThreshold ≤ s.usedTicketsCounter + 1 ∧
        s.pendingTicketUpdate = false)) :
      Registers s timestamp { s with usedTicketsCounter := s.usedTicketsCounter + 1 }
  | exhausted (fits : s.usedTicketsCounter + 1 < u32Bound)
      (due : s.config.usedTicketSequenceThreshold ≤ s.usedTicketsCounter + 1)
      (noUpdate : s.pendingTicketUpdate = false) (available : s.availableTickets = []) :
      Registers s timestamp { s with usedTicketsCounter := s.usedTicketsCounter + 1 }
  | allocating {ticket : ℕ} {tickets : List ℕ} (fits : s.usedTicketsCounter + 1 < u32Bound)
      (due : s.config.usedTicketSequenceThreshold ≤ s.usedTicketsCounter + 1)
      (noUpdate : s.pendingTicketUpdate = false) (available : s.availableTickets = ticket :: tickets)
      (unused : s.pendingOperations[ticket]? = none) :
      Registers s timestamp
        { s with
          usedTicketsCounter := s.usedTicketsCounter + 1
          availableTickets := tickets
          pendingOperations := s.pendingOperations.insert ticket (newOperation s timestamp ticket (some ticket)
            none (.allocateTickets s.config.usedTicketSequenceThreshold))
          pendingTicketUpdate := true }

theorem registers_of_ok {b : Bool} (h : registerUsedTicket s timestamp = .ok (b, s')) :
    Registers s timestamp s' := by
  simp only [registerUsedTicket, bind_eq_ok, unwrap_eq_ok, Option.ite_none_right_eq_some] at h
  obtain ⟨_, ⟨hfit, -⟩, h⟩ := h
  split_ifs at h with hdue
  · rw [reserveTicket] at h
    split at h
    · rename_i t s₁ hr
      split at hr
      · simp at hr
      · rename_i t ts hav
        cases hr
        simp only [bind_eq_ok, pure_eq_ok, Prod.mk.injEq] at h
        obtain ⟨s₂, hc, -, rfl⟩ := h
        obtain ⟨id, hid, -, hfree, rfl⟩ := createPendingOperation_eq_ok hc
        cases hid
        exact .allocating hfit hdue.1 hdue.2 hav hfree
    · rename_i hr
      split at hr
      · rename_i hav
        cases h
        exact .exhausted hfit hdue.1 hdue.2 hav
      · cases hr
    · cases h
  · rw [pure_eq_ok, Prod.mk.injEq] at h
    obtain ⟨-, rfl⟩ := h
    exact .counted hfit hdue

/-- Registering a ticket goes through, as long as the counter fits and the next ticket
is not the number of a pending operation. -/
theorem registerUsedTicket_ok (hfit : s.usedTicketsCounter + 1 < u32Bound)
    (hfree : s.pendingTicketUpdate = false →
      ∀ t ∈ s.availableTickets.head?, s.pendingOperations[t]? = none) :
    ∃ b s', registerUsedTicket s timestamp = .ok (b, s') := by
  simp only [registerUsedTicket, if_pos hfit, unwrap]
  split_ifs with hdue
  · unfold reserveTicket
    cases hav : s.availableTickets with
    | nil => exact ⟨false, _, bind_eq_ok.mpr ⟨(), rfl, rfl⟩⟩
    | cons t ts =>
      have hf := hfree hdue.2 t (by simp [hav])
      obtain ⟨s₁, hs₁⟩ : ∃ s₁, createPendingOperation
          { s with usedTicketsCounter := s.usedTicketsCounter + 1, availableTickets := ts } timestamp (some t)
          none (.allocateTickets s.config.usedTicketSequenceThreshold) = .ok s₁ :=
        createPendingOperation_ok rfl (checkValidOperationIfHalt_allocateTickets _ _) hf
      exact ⟨true, _, bind_eq_ok.mpr ⟨(), rfl, bind_eq_ok.mpr ⟨s₁, hs₁, rfl⟩⟩⟩
  · exact ⟨true, _, rfl⟩

/-- What the end of an operation does to the store, before the operation is removed, and
the messages it sends. -/
inductive Handled (s : Storage) (o : Operation) (operationResult : Option OperationResult)
    (transactionResult : TransactionResult) (txHash : Option String) (tokenFactoryAddr burnAddr : Addr) :
    Storage → List CosmosMsg → Prop
  | allocated {number : ℕ} {tickets : List ℕ} (type : o.operationType = .allocateTickets number)
      (result : operationResult = some (.ticketsAllocation (some tickets)))
      (accepted : transactionResult = .accepted) :
      Handled s o operationResult transactionResult txHash tokenFactoryAddr burnAddr
        { s with
          pendingTicketUpdate := false
          availableTickets := s.availableTickets ++ tickets
          usedTicketsCounter := s.usedTicketsCounter - tickets.length } []
  | notAllocated {number : ℕ} {tickets : Option (List ℕ)} (type : o.operationType = .allocateTickets number)
      (result : operationResult = some (.ticketsAllocation tickets)) (failed : transactionResult ≠ .accepted) :
      Handled s o operationResult transactionResult txHash tokenFactoryAddr burnAddr
        { s with pendingTicketUpdate := false } []
  | trustSet {issuer currency : String} {limit : ℕ} {token : XRPLToken} {xrplTokens : XRPLTokens}
      (type : o.operationType = .trustSet issuer currency limit)
      (registered : s.xrplTokens.primary[buildXRPLTokenKey issuer currency]? = some token)
      (saved : s.xrplTokens.save (buildXRPLTokenKey issuer currency)
        { token with state := if transactionResult = .accepted then .enabled else .inactive } =
          some xrplTokens) :
      Handled s o operationResult transactionResult txHash tokenFactoryAddr burnAddr
        { s with xrplTokens := xrplTokens } []
  | rotated {relayers : List Relayer} {threshold : ℕ} (type : o.operationType = .rotateKeys relayers threshold)
      (accepted : transactionResult = .accepted) :
      Handled s o operationResult transactionResult txHash tokenFactoryAddr burnAddr
        { s with
          config := { s.config with relayers := relayers, evidenceThreshold := threshold }
          txEvidences := ∅
          pendingRotateKeys := false } []
  | notRotated {relayers : List Relayer} {threshold : ℕ}
      (type : o.operationType = .rotateKeys relayers threshold) (failed : transactionResult ≠ .accepted) :
      Handled s o operationResult transactionResult txHash tokenFactoryAddr burnAddr
        { s with pendingRotateKeys := false } []
  | burnt {issuer currency : String} {amount : ℕ} {maxAmount : Option ℕ} {sender : Addr} {recipient : String}
      {token : XRPLToken}
      (type : o.operationType = .cosmosToXRPLTransfer issuer currency amount maxAmount sender recipient)
      (registered : s.xrplTokens.primary[buildXRPLTokenKey issuer currency]? = some token)
      (accepted : transactionResult = .accepted) :
      Handled s o operationResult transactionResult txHash tokenFactoryAddr burnAddr s
        [tokenFactoryMsg tokenFactoryAddr (.burnTokens token.cosmosDenom (maxAmount.getD amount) burnAddr)]
  | refunded {issuer currency : String} {amount : ℕ} {maxAmount : Option ℕ} {sender : Addr}
      {recipient : String} {token : XRPLToken}
      (type : o.operationType = .cosmosToXRPLTransfer issuer currency amount maxAmount sender recipient)
      (registered : s.xrplTokens.primary[buildXRPLTokenKey issuer currency]? = some token)
      (failed : transactionResult ≠ .accepted) :
      Handled s o operationResult transactionResult txHash tokenFactoryAddr burnAddr
        (storePendingRefund s o.id txHash sender ⟨token.cosmosDenom, maxAmount.getD amount⟩)
        (undoSendMsgs s (buildXRPLTokenKey issuer currency) (maxAmount.getD amount))
  | escrowed {issuer currency : String} {amount : ℕ} {maxAmount : Option ℕ} {sender : Addr}
      {recipient : String}
      (type : o.operationType = .cosmosToXRPLTransfer issuer currency amount maxAmount sender recipient)
      (notXRPL : s.xrplTokens.primary[buildXRPLTokenKey issuer currency]? = none)
      (accepted : transactionResult = .accepted) :
      Handled s o operationResult transactionResult txHash tokenFactoryAddr burnAddr s []
  | released {issuer currency : String} {amount maxAmount : ℕ} {sender : Addr}
      {recipient denom : String} {token : CosmosToken} {amountToSendBack : ℕ}
      (type : o.operationType = .cosmosToXRPLTransfer issuer currency amount (some maxAmount) sender recipient)
      (notXRPL : s.xrplTokens.primary[buildXRPLTokenKey issuer currency]? = none)
      (registered : s.cosmosTokens.item currency = some (denom, token))
      (failed : transactionResult ≠ .accepted)
      (converted : convertAmountDecimals xrplTokensDecimals token.decimals maxAmount = .ok amountToSendBack) :
      Handled s o operationResult transactionResult txHash tokenFactoryAddr burnAddr
        (storePendingRefund s o.id txHash sender ⟨token.denom, amountToSendBack⟩)
        (undoSendMsgs s (buildXRPLTokenKey issuer currency) amountToSendBack)

variable {o : Operation} {operationResult : Option OperationResult} {transactionResult : TransactionResult}
  {txHash : Option String} {tokenFactoryAddr burnAddr : Addr} {response response' : Response}
  {msgs : List CosmosMsg}

theorem handled_of_ok (ho : s.pendingOperations[operationId]? = some o)
    (h : runHandler s o operationResult transactionResult txHash operationId tokenFactoryAddr burnAddr
      response = .ok (s', response', msgs)) :
    ∃ burns, (response'.messages = response.messages ++ burns.map fun m => ⟨m, none⟩) ∧
      Handled s o operationResult transactionResult txHash tokenFactoryAddr burnAddr s' (burns ++ msgs) := by
  unfold runHandler at h
  split at h
  · rename_i n htype
    split at h
    · rename_i tickets
      simp only [handleTicketAllocationConfirmation, bind_eq_ok, pure_eq_ok, Prod.mk.injEq] at h
      obtain ⟨s₁, hs, rfl, rfl, rfl⟩ := h
      refine ⟨[], by simp, ?_⟩
      split_ifs at hs with hacc
      · simp only [bind_eq_ok, orFail_eq_ok, pure_eq_ok] at hs
        obtain ⟨ts, rfl, rfl⟩ := hs
        exact .allocated htype rfl hacc
      · cases hs
        exact .notAllocated htype rfl hacc
    · simp at h
  · rename_i issuer currency limit htype
    simp only [handleTrustSetConfirmation, bind_eq_ok, orFail_eq_ok, orUniqueConstraint, pure_eq_ok,
      Prod.mk.injEq] at h
    obtain ⟨s₁, ⟨token, htoken, m, hm, rfl⟩, rfl, rfl, rfl⟩ := h
    exact ⟨[], by simp, .trustSet htype htoken hm⟩
  · rename_i rs t htype
    simp only [Except.ok.injEq, Prod.mk.injEq] at h
    obtain ⟨rfl, rfl, rfl⟩ := h
    refine ⟨[], by simp, ?_⟩
    unfold handleRotateKeysConfirmation
    split_ifs with hacc
    · exact .rotated htype hacc
    · exact .notRotated htype hacc
  · rename_i issuer currency amount maxAmount sender recipient htype
    simp only [handleCosmosToXRPLTransferConfirmation, bind_eq_ok, orFail_eq_ok, ho, Option.some.injEq,
      exists_eq_left', htype] at h
    split at h
    · rename_i token htoken
      split_ifs at h with hacc
      · cases h
        exact ⟨[_], by simp, .burnt htype htoken hacc⟩
      · cases h
        exact ⟨[], by simp, .refunded htype htoken hacc⟩
    · rename_i hnone
      split_ifs at h with hacc
      · cases h
        exact ⟨[], by simp, .escrowed htype hnone hacc⟩
      · split at h
        · rename_i denom token htoken
          simp only [bind_eq_ok, unwrap_eq_ok, pure_eq_ok, Prod.mk.injEq] at h
          obtain ⟨max, rfl, back, hback, rfl, rfl, rfl⟩ := h
          exact ⟨[], by simp, .released htype hnone htoken hacc hback⟩
        · simp at h

end XrplBridge.Contract
