import XrplBridge.Library.Interleaving
import XrplBridge.Library.Related
import XrplBridge.Chain

/-!
# What the calls do not read

The votes are read by evidences only, and of the signatures of an operation it is only read who has signed.
So two storages that differ in the votes, or in the order of signatures, cannot be told apart by any other
call: it fails with the same error in both, or answers the same and leaves storages that again differ in
that only (`SameBut.execute_alike`). The same holds of an evidence, once its votes have been counted.

How the votes may differ, and whether the signatures may, is a parameter (`Frame`). There is one lemma for
each function that writes to one of the two stores; a function that neither reads nor writes them does the
same by definition.
-/

namespace XrplBridge

open Library Contract Std

/-- The same operation, with the same signatures in some order. -/
inductive SameOperation (o : Operation) : Operation → Prop
  | mk {signatures : List Signature} (perm : o.signatures.Perm signatures) : SameOperation o { o with signatures }

namespace SameOperation

variable {o o' o'' : Operation}

theorem refl (o : Operation) : SameOperation o o := ⟨.refl _⟩

theorem symm (h : SameOperation o o') : SameOperation o' o := by
  cases h with
  | @mk signatures hp => exact .mk (o := { o with signatures }) hp.symm

theorem trans (h : SameOperation o o') (h' : SameOperation o' o'') : SameOperation o o'' := by
  cases h with
  | mk hp =>
    cases h' with
    | mk hp' => exact .mk (hp.trans hp')

end SameOperation

/-- How two storages may differ in their votes and in their operations. -/
structure Frame where
  /-- How the votes may differ. -/
  votes : ExtTreeMap String Evidences → ExtTreeMap String Evidences → Prop
  /-- How an operation may differ. -/
  operation : Operation → Operation → Prop
  /-- Votes that are dropped differ no more. -/
  empty : votes ∅ ∅
  refl : ∀ o, operation o o
  /-- An operation differs at most in the order of its signatures. -/
  same : ∀ {o o'}, operation o o' → SameOperation o o'
  /-- One more signature is one more for both. -/
  sign : ∀ {o o'}, operation o o' → ∀ g, operation { o with signatures := o.signatures ++ [g] }
    { o' with signatures := o'.signatures ++ [g] }

/-- The same storage, but for the votes and the operations, which differ as the frame allows. -/
inductive SameBut (F : Frame) (s : Storage) : Storage → Prop
  | mk {txEvidences : ExtTreeMap String Evidences} {pendingOperations : ExtTreeMap ℕ Operation}
      (votes : F.votes s.txEvidences txEvidences)
      (operations : Related F.operation s.pendingOperations pendingOperations) :
      SameBut F s { s with txEvidences, pendingOperations }

/-- The same world, but for the votes and the operations. -/
def SameWorldBut (F : Frame) (w w' : World) : Prop := SameBut F w.store w'.store ∧ w.bank = w'.bank

namespace SameBut

variable {F : Frame} {H : Host} {s s' : Storage} {q : Querier} {env : BlockInfo} {sender : Addr} {funds : List Coin}
  {response : Response}

/-! ### Tickets, operations and fees -/

theorem handleFeeCollection_alike (h : SameBut F s s') (bridgingFee : ℕ) (denom : String) (remainder : ℕ) :
    Alike (SameAnswer (SameBut F)) (handleFeeCollection s bridgingFee denom remainder)
      (handleFeeCollection s' bridgingFee denom remainder) := by
  cases h with
  | mk hv ho =>
    unfold handleFeeCollection
    refine Alike.bind_same fun feeCollected => Alike.bind (R := SameBut F) ?_ fun hs => .ok ⟨hs, rfl⟩
    unfold collectFees
    by_cases hz : (⟨denom, feeCollected⟩ : Coin).amount = 0
    · rw [if_pos hz, if_pos hz]
      exact .ok (.mk hv ho)
    · rw [if_neg hz, if_neg hz]
      exact Alike.bind_same fun _ => Alike.bind_same fun _ => Alike.bind_same fun _ => Alike.bind_same fun _ =>
        Alike.bind_same fun _ => .ok (.mk hv ho)

/-- The same ticket, from storages that differ as the frame allows. -/
def SameTicket (F : Frame) (x x' : ℕ × Storage) : Prop := x.1 = x'.1 ∧ SameBut F x.2 x'.2

theorem reserveTicket_alike (h : SameBut F s s') : Alike (SameTicket F) (reserveTicket s) (reserveTicket s') := by
  cases h with
  | mk hv ho =>
    unfold reserveTicket
    dsimp only
    cases s.availableTickets with
    | nil => exact .error _
    | cons ticket tickets => exact .ok ⟨rfl, .mk hv ho⟩

theorem allocateTicket_alike (h : SameBut F s s') : Alike (SameTicket F) (allocateTicket s) (allocateTicket s') := by
  have hreserve := h.reserveTicket_alike
  cases h with
  | mk hv ho => exact Alike.bind_same fun _ => Alike.bind_same fun _ => hreserve

theorem createPendingOperation_alike (h : SameBut F s s') {timestamp : ℕ} {ticketSequence accountSequence : Option ℕ}
    {operationType : OperationType} :
    Alike (SameBut F) (createPendingOperation s timestamp ticketSequence accountSequence operationType)
      (createPendingOperation s' timestamp ticketSequence accountSequence operationType) := by
  cases h with
  | mk hv ho =>
    unfold createPendingOperation
    refine Alike.bind_same fun _ => Alike.bind_same fun operationId => ?_
    dsimp only
    rw [ho.contains_eq operationId]
    exact Alike.bind_same fun _ => .ok (.mk hv (ho.insert operationId (F.refl _)))

/-- A used ticket, and the new allocation that may be due. -/
theorem registerUsedTicket_alike (h : SameBut F s s') {timestamp : ℕ} :
    Alike (fun x x' => x.1 = x'.1 ∧ SameBut F x.2 x'.2) (registerUsedTicket s timestamp)
      (registerUsedTicket s' timestamp) := by
  cases h with
  | mk hv ho =>
    unfold registerUsedTicket
    refine Alike.bind_same fun _ => ?_
    dsimp only
    split_ifs
    · unfold reserveTicket
      dsimp only
      cases s.availableTickets with
      | nil => exact .ok ⟨rfl, .mk hv ho⟩
      | cons ticket tickets =>
        dsimp only
        have hs : SameBut F { s with availableTickets := tickets, usedTicketsCounter := s.usedTicketsCounter + 1 } _ :=
          .mk hv ho
        refine hs.createPendingOperation_alike.bind fun hs => ?_
        cases hs with
        | mk hv ho => exact .ok ⟨rfl, .mk hv ho⟩
    · exact .ok ⟨rfl, .mk hv ho⟩

/-- A ticket for a new operation, and the operation. -/
theorem opens_alike {β : Type} {x x' : Storage → ContractResult (Storage × β)} (h : SameBut F s s') {timestamp : ℕ}
    (operationType : Storage → OperationType)
    (ht : ∀ {s₁ s₁'}, SameBut F s₁ s₁' → operationType s₁ = operationType s₁')
    (hx : ∀ {s₁ s₁'}, SameBut F s₁ s₁' → Alike (SameAnswer (SameBut F)) (x s₁) (x' s₁')) :
    Alike (SameAnswer (SameBut F))
      (do
        let (ticket, s) ← allocateTicket s
        let s ← createPendingOperation s timestamp (some ticket) none (operationType s)
        x s)
      (do
        let (ticket, s) ← allocateTicket s'
        let s ← createPendingOperation s timestamp (some ticket) none (operationType s)
        x' s) := by
  refine h.allocateTicket_alike.bind fun {a a'} ha => ?_
  obtain ⟨ticket, s₁⟩ := a
  obtain ⟨ticket', s₁'⟩ := a'
  obtain ⟨rfl, hs⟩ := ha
  dsimp only
  rw [ht hs]
  exact hs.createPendingOperation_alike.bind hx

/-! ### The end of an operation -/

/-- What a handler leaves, up to what it does not read. -/
def SameHandled (F : Frame) (x x' : Storage × Response × List CosmosMsg) : Prop := SameBut F x.1 x'.1 ∧ x.2 = x'.2

variable {operationResult : Option OperationResult} {result : TransactionResult} {txHash : Option String} {k : ℕ}
  {tokenFactoryAddr burnAddr : Addr} {o : Operation}

theorem trustSetConfirmation_alike (h : SameBut F s s') {issuer currency : String} :
    Alike (SameBut F) (handleTrustSetConfirmation s issuer currency result)
      (handleTrustSetConfirmation s' issuer currency result) := by
  cases h with
  | mk hv ho =>
    unfold handleTrustSetConfirmation
    exact Alike.bind_same fun _ => Alike.bind_same fun _ => .ok (.mk hv ho)

theorem ticketAllocationConfirmation_alike (h : SameBut F s s') {tickets : Option (List ℕ)} :
    Alike (SameBut F) (handleTicketAllocationConfirmation s tickets result)
      (handleTicketAllocationConfirmation s' tickets result) := by
  cases h with
  | mk hv ho =>
    unfold handleTicketAllocationConfirmation
    dsimp only
    split_ifs
    · exact Alike.bind_same fun _ => .ok (.mk hv ho)
    · exact .ok (.mk hv ho)

theorem rotateKeysConfirmation_same (h : SameBut F s s') {rs : List Relayer} {n : ℕ} :
    SameBut F (handleRotateKeysConfirmation s rs n result) (handleRotateKeysConfirmation s' rs n result) := by
  cases h with
  | mk hv ho =>
    unfold handleRotateKeysConfirmation
    dsimp only
    split_ifs
    · exact .mk F.empty ho
    · exact .mk hv ho

theorem storePendingRefund_same (h : SameBut F s s') (id : String) (txHash : Option String) (receiver : Addr)
    (coin : Coin) :
    SameBut F (storePendingRefund s id txHash receiver coin) (storePendingRefund s' id txHash receiver coin) := by
  cases h with
  | mk hv ho => exact .mk hv ho

/-- The operation that a transfer's confirmation reads differs as the frame allows. -/
theorem checkOperationExists_alike (h : SameBut F s s') :
    Alike F.operation (checkOperationExists s k) (checkOperationExists s' k) := by
  cases h with
  | @mk m p hv ho =>
    have hk := ho k
    unfold checkOperationExists
    dsimp only
    generalize s.pendingOperations[k]? = x at hk ⊢
    generalize p[k]? = y at hk ⊢
    cases hk with
    | none => exact .error _
    | some hrel => exact .ok hrel

theorem transferConfirmation_alike (h : SameBut F s s') :
    Alike (SameHandled F)
      (handleCosmosToXRPLTransferConfirmation s result txHash k tokenFactoryAddr burnAddr response)
      (handleCosmosToXRPLTransferConfirmation s' result txHash k tokenFactoryAddr burnAddr response) := by
  refine h.checkOperationExists_alike.bind fun {o o'} hoo => ?_
  cases F.same hoo with
  | mk hp =>
    dsimp only
    cases o.operationType with
    | cosmosToXRPLTransfer issuer currency amount maxAmount sender recipient =>
      have hrefund := h.storePendingRefund_same o.id txHash sender
      cases h with
      | mk hv ho =>
        dsimp only
        cases s.xrplTokens.primary[buildXRPLTokenKey issuer currency]? with
        | some token =>
          dsimp only
          split_ifs
          · exact .ok ⟨.mk hv ho, rfl⟩
          · exact .ok ⟨hrefund _, rfl⟩
        | none =>
          dsimp only
          split_ifs
          · exact .ok ⟨.mk hv ho, rfl⟩
          · cases s.cosmosTokens.item currency with
            | none => exact .error _
            | some entry => exact Alike.bind_same fun _ => Alike.bind_same fun _ => .ok ⟨hrefund _, rfl⟩
    | _ => exact .error _

theorem runHandler_alike (h : SameBut F s s') :
    Alike (SameHandled F) (runHandler s o operationResult result txHash k tokenFactoryAddr burnAddr response)
      (runHandler s' o operationResult result txHash k tokenFactoryAddr burnAddr response) := by
  unfold runHandler
  cases o.operationType with
  | allocateTickets n =>
    cases operationResult with
    | none => exact .error _
    | some r =>
      cases r with
      | ticketsAllocation tickets => exact h.ticketAllocationConfirmation_alike.bind fun hs => .ok ⟨hs, rfl⟩
  | trustSet issuer currency limit => exact h.trustSetConfirmation_alike.bind fun hs => .ok ⟨hs, rfl⟩
  | rotateKeys rs n => exact .ok ⟨h.rotateKeysConfirmation_same, rfl⟩
  | cosmosToXRPLTransfer issuer currency amount maxAmount sender recipient => exact h.transferConfirmation_alike

theorem endOperation_same (h : SameBut F s s') {ticket : Option ℕ} :
    SameBut F (endOperation s result k ticket) (endOperation s' result k ticket) := by
  cases h with
  | mk hv ho =>
    unfold endOperation
    cases ticket with
    | none => exact .mk hv (ho.erase k)
    | some t =>
      dsimp only
      split_ifs
      · exact .mk hv (ho.erase k)
      · exact .mk hv (ho.erase k)

theorem handleOperation_alike (h : SameBut F s s') {o' : Operation} (hoo : SameOperation o o') {ticket : Option ℕ} :
    Alike (SameHandled F)
      (handleOperation s o operationResult result txHash k ticket tokenFactoryAddr burnAddr response)
      (handleOperation s' o' operationResult result txHash k ticket tokenFactoryAddr burnAddr response) := by
  cases hoo with
  | mk hp => exact h.runHandler_alike.bind fun hs => .ok ⟨hs.1.endOperation_same, hs.2⟩

/-! ### Evidences, once they are counted -/

theorem failIf_alike {c c' : Prop} [Decidable c] [Decidable c'] {e : ContractError} (h : c ↔ c') :
    Alike Eq (failIf c e) (failIf c' e) := by
  unfold failIf
  by_cases hc : c
  · rw [if_pos hc, if_pos (h.mp hc)]
    exact .error _
  · rw [if_neg hc, if_neg fun hc' => hc (h.mpr hc')]
    exact .ok rfl

theorem mintXRPLOriginated_alike (h : SameBut F s s') {token : XRPLToken} {decimals amountToSend remainder : ℕ}
    {key memo : String} {e : TransferEvidence} :
    Alike (SameAnswer (SameBut F)) (mintXRPLOriginated H s token decimals key e memo amountToSend remainder response)
      (mintXRPLOriginated H s' token decimals key e memo amountToSend remainder response) := by
  have hfees := h.handleFeeCollection_alike token.bridgingFee token.cosmosDenom remainder
  cases h with
  | mk hv ho =>
    refine hfees.bind fun {x x'} hx => ?_
    obtain ⟨s₁, fee⟩ := x
    obtain ⟨s₁', fee'⟩ := x'
    obtain ⟨hs, rfl⟩ := hx
    dsimp only
    by_cases hz : amountToSend ≠ 0
    · rw [if_pos hz, if_pos hz]
      exact Alike.bind_same fun _ => .ok ⟨hs, rfl⟩
    · rw [if_neg hz, if_neg hz]
      exact .ok ⟨hs, rfl⟩

theorem receiveXRPLOriginated_alike (h : SameBut F s s') {e : TransferEvidence} {memo : String} {reached : Bool} :
    Alike (SameAnswer (SameBut F)) (receiveXRPLOriginated H s q e memo reached response)
      (receiveXRPLOriginated H s' q e memo reached response) := by
  have hmint := @h.mintXRPLOriginated_alike F H _ _ response
  cases h with
  | mk hv ho =>
    refine Alike.bind_same fun token => Alike.bind_same fun _ => Alike.bind_same fun _ => Alike.bind_same fun t =>
      Alike.bind_same fun _ => Alike.bind_same fun _ => ?_
    cases reached with
    | false => exact .ok ⟨.mk hv ho, rfl⟩
    | true => exact hmint

theorem sendCosmosOriginated_alike (h : SameBut F s s') {token : CosmosToken} {e : TransferEvidence} {memo : String}
    {amountToSend remainder : ℕ} :
    Alike (SameAnswer (SameBut F)) (sendCosmosOriginated s token e memo amountToSend remainder response)
      (sendCosmosOriginated s' token e memo amountToSend remainder response) := by
  have hfees := h.handleFeeCollection_alike token.bridgingFee token.denom remainder
  cases h with
  | mk hv ho => exact hfees.bind fun hs => Alike.bind_same fun _ => .ok ⟨hs.1, rfl⟩

theorem receiveCosmosOriginated_alike (h : SameBut F s s') {e : TransferEvidence} {memo : String} {reached : Bool} :
    Alike (SameAnswer (SameBut F)) (receiveCosmosOriginated s e memo reached response)
      (receiveCosmosOriginated s' e memo reached response) := by
  have hsend := @h.sendCosmosOriginated_alike F _ _ response
  cases h with
  | mk hv ho =>
    refine Alike.bind_same fun token => Alike.bind_same fun _ => Alike.bind_same fun t => ?_
    cases reached with
    | false => exact .ok ⟨.mk hv ho, rfl⟩
    | true => exact hsend

theorem saveTransferEvidence_alike (h : SameBut F s s') {e : TransferEvidence} {reached : Bool} :
    Alike (SameAnswer (SameBut F)) (saveTransferEvidence H s q e reached response)
      (saveTransferEvidence H s' q e reached response) := by
  have hxrpl := @h.receiveXRPLOriginated_alike F H _ _ q response e (e.memo.getD "") reached
  have hcosmos := @h.receiveCosmosOriginated_alike F _ _ response e (e.memo.getD "") reached
  cases h with
  | mk hv ho =>
    refine Alike.bind_same fun _ => Alike.bind_same fun _ => Alike.bind_same fun _ =>
      Alike.bind (R := SameAnswer (SameBut F)) ?_ fun hs => .ok ⟨hs.1, ?_⟩
    · by_cases hissuer : e.issuer ≠ s.config.bridgeXRPLAddress
      · rw [if_pos hissuer, if_pos hissuer]
        exact hxrpl
      · rw [if_neg hissuer, if_neg hissuer]
        exact hcosmos
    · rw [hs.2]

theorem registerTicketOf_alike (h : SameBut F s s') {e : ResultEvidence} {timestamp : ℕ} :
    Alike (fun x x' => x.1 = x'.1 ∧ SameBut F x.2 x'.2) (registerTicketOf s e timestamp)
      (registerTicketOf s' e timestamp) := by
  unfold registerTicketOf
  split_ifs
  · exact h.registerUsedTicket_alike
  · exact .ok ⟨rfl, h⟩

theorem completeOperation_alike (h : SameBut F s s') {o' : Operation} (hoo : SameOperation o o')
    {e : ResultEvidence} :
    Alike (SameHandled F) (completeOperation H s env e k o response) (completeOperation H s' env e k o' response) := by
  have hhandle := @h.handleOperation_alike F _ _ response e.operationResult e.transactionResult e.txHash k
    s.config.tokenFactoryAddr H.contract _ _ hoo e.ticketSequence
  cases h with
  | mk hv ho =>
    refine hhandle.bind fun {x x'} hx => ?_
    obtain ⟨s₁, r, msgs⟩ := x
    obtain ⟨s₁', r', msgs'⟩ := x'
    obtain ⟨hs, hr⟩ := hx
    cases hr
    refine hs.registerTicketOf_alike.bind fun {y y'} hy => ?_
    obtain ⟨success, s₂⟩ := y
    obtain ⟨success', s₂'⟩ := y'
    obtain ⟨rfl, hs⟩ := hy
    exact .ok ⟨hs, rfl⟩

theorem saveResultEvidence_alike (h : SameBut F s s') {e : ResultEvidence} {reached : Bool} :
    Alike (SameAnswer (SameBut F)) (saveResultEvidence H s env e reached response)
      (saveResultEvidence H s' env e reached response) := by
  refine Alike.bind_same fun k => h.checkOperationExists_alike.bind fun {o o'} hoo => ?_
  have htype : o'.operationType = o.operationType := by cases F.same hoo; rfl
  dsimp only
  rw [htype]
  refine Alike.bind_same fun _ => Alike.bind (R := SameHandled F) ?_ fun {x x'} hx => ?_
  · cases reached with
    | false => exact .ok ⟨h, rfl⟩
    | true => exact h.completeOperation_alike (F.same hoo)
  · obtain ⟨s₁, r, msgs⟩ := x
    obtain ⟨s₁', r', msgs'⟩ := x'
    obtain ⟨hs, hr⟩ := hx
    cases hr
    exact .ok ⟨hs, rfl⟩

/-! ### The other messages -/

theorem addSignature_alike (h : SameBut F s s') {version : ℕ} {signature : String} :
    Alike (SameBut F) (addSignature s k version sender signature) (addSignature s' k version sender signature) := by
  refine Alike.bind_same fun _ => h.checkOperationExists_alike.bind fun {o o'} hoo => ?_
  have hsign := F.sign hoo ⟨sender, signature⟩
  cases F.same hoo with
  | mk hp =>
    cases h with
    | mk hv ho =>
      refine Alike.bind_same fun _ => Alike.bind_same fun _ => (failIf_alike ?_).bind fun _ =>
        .ok (.mk hv (ho.insert k hsign))
      simp only [List.any_eq_true, hp.mem_iff]

theorem sendXRPLOriginated_alike (h : SameBut F s s') {token : XRPLToken} {coin : Coin} {deliver : Option ℕ} :
    Alike (SameAnswer (SameBut F)) (sendXRPLOriginated s token coin deliver)
      (sendXRPLOriginated s' token coin deliver) := by
  refine Alike.bind_same fun _ => Alike.bind_same fun _ => Alike.bind_same fun _ => Alike.bind_same fun _ =>
    Alike.bind_same fun t => Alike.bind_same fun d =>
      (h.handleFeeCollection_alike token.bridgingFee token.cosmosDenom t.2).bind fun hs => .ok ⟨hs.1, rfl⟩

theorem sendCosmosToXRPL_alike (h : SameBut F s s') {coin : Coin} {deliver : Option ℕ} :
    Alike (SameAnswer (SameBut F)) (sendCosmosToXRPL s q coin deliver) (sendCosmosToXRPL s' q coin deliver) := by
  have hfees := h.handleFeeCollection_alike
  cases h with
  | mk hv ho =>
    exact Alike.bind_same fun token => Alike.bind_same fun _ => Alike.bind_same fun _ => Alike.bind_same fun _ =>
      Alike.bind_same fun t => (hfees token.bridgingFee token.denom t.2).bind fun hs => Alike.bind_same fun _ =>
        .ok ⟨hs.1, rfl⟩

theorem sendToXRPL_alike (h : SameBut F s s') {recipient : String} {deliver : Option ℕ} :
    Alike (SameAnswer (SameBut F)) (sendToXRPL H s q env sender funds recipient deliver)
      (sendToXRPL H s' q env sender funds recipient deliver) := by
  have hxrpl := fun token coin => @h.sendXRPLOriginated_alike F _ _ token coin deliver
  have hcosmos := fun coin => @h.sendCosmosToXRPL_alike F _ _ q coin deliver
  cases h with
  | mk hv ho =>
    refine Alike.bind_same fun _ => Alike.bind_same fun coin => Alike.bind_same fun _ => Alike.bind_same fun _ =>
      Alike.bind (R := SameAnswer (SameBut F)) ?_ fun {x x'} hx => ?_
    · dsimp only
      cases s.xrplTokens.item coin.denom with
      | some entry => exact hxrpl _ _
      | none => exact hcosmos _
    · obtain ⟨s₁, out⟩ := x
      obtain ⟨s₁', out'⟩ := x'
      obtain ⟨hs, rfl⟩ := hx
      refine Alike.bind_same fun _ => Alike.bind_same fun _ => hs.opens_alike
        (fun _ => .cosmosToXRPLTransfer out.issuer out.currency out.amountToSend out.maxAmount sender recipient)
        (fun _ => rfl) fun hs => ?_
      cases hs with
      | mk hv ho => exact .ok ⟨.mk hv ho, rfl⟩

theorem registerXRPLToken_alike (h : SameBut F s s') {issuer currency : String} {precision : ℤ}
    {maxHolding bridgingFee : ℕ} :
    Alike (SameAnswer (SameBut F))
      (registerXRPLToken H s env sender funds issuer currency precision maxHolding bridgingFee)
      (registerXRPLToken H s' env sender funds issuer currency precision maxHolding bridgingFee) := by
  cases h with
  | mk hv ho =>
    refine Alike.bind_same fun _ => Alike.bind_same fun _ => Alike.bind_same fun _ => Alike.bind_same fun _ =>
      Alike.bind_same fun _ => Alike.bind_same fun _ => Alike.bind_same fun _ => Alike.bind_same fun xrplTokens => ?_
    have hs : SameBut F { s with xrplTokens } _ := .mk hv ho
    exact hs.opens_alike (fun s => .trustSet issuer currency s.config.trustSetLimitAmount)
      (fun hs => by cases hs; rfl) fun hs => .ok ⟨hs, rfl⟩

theorem recoverXRPLTokenRegistration_alike (h : SameBut F s s') {timestamp : ℕ} {issuer currency : String} :
    Alike (SameAnswer (SameBut F)) (recoverXRPLTokenRegistration s timestamp sender issuer currency)
      (recoverXRPLTokenRegistration s' timestamp sender issuer currency) := by
  cases h with
  | mk hv ho =>
    refine Alike.bind_same fun _ => Alike.bind_same fun _ => Alike.bind_same fun _ =>
      Alike.bind_same fun xrplTokens => ?_
    have hs : SameBut F { s with xrplTokens } _ := .mk hv ho
    exact hs.opens_alike (fun s => .trustSet issuer currency s.config.trustSetLimitAmount)
      (fun hs => by cases hs; rfl) fun hs => .ok ⟨hs, rfl⟩

theorem recoverTickets_alike (h : SameBut F s s') {timestamp account : ℕ} {number : Option ℕ} :
    Alike (SameAnswer (SameBut F)) (recoverTickets s timestamp sender account number)
      (recoverTickets s' timestamp sender account number) := by
  cases h with
  | mk hv ho =>
    refine Alike.bind_same fun _ => Alike.bind_same fun _ => Alike.bind_same fun _ => Alike.bind_same fun _ => ?_
    have hs : SameBut F { s with pendingTicketUpdate := true } _ := .mk hv ho
    exact hs.createPendingOperation_alike.bind fun hs => .ok ⟨hs, rfl⟩

theorem updateXRPLBaseFee_alike (h : SameBut F s s') {fee : ℕ} :
    Alike (SameAnswer (SameBut F)) (updateXRPLBaseFee s sender fee) (updateXRPLBaseFee s' sender fee) := by
  cases h with
  | @mk m p hv ho =>
    have hall : (s.pendingOperations.toList.all fun o => decide (o.2.version + 1 < u64Bound)) =
        p.toList.all fun o => decide (o.2.version + 1 < u64Bound) :=
      ho.all_eq (p := fun o => decide (o.version + 1 < u64Bound)) fun hoo => by cases F.same hoo; rfl
    unfold updateXRPLBaseFee
    dsimp only
    rw [hall]
    refine Alike.bind_same fun _ => Alike.bind_same fun _ => .ok ⟨.mk hv (ho.map fun hoo => ?_), rfl⟩
    cases F.same hoo with
    | mk _ => exact F.refl _

theorem rotateKeys_alike (h : SameBut F s s') {rs : List Relayer} {n : ℕ} :
    Alike (SameAnswer (SameBut F)) (rotateKeys H s env sender rs n) (rotateKeys H s' env sender rs n) := by
  cases h with
  | mk hv ho =>
    refine Alike.bind_same fun _ => Alike.bind_same fun _ => Alike.bind_same fun _ => ?_
    have hs : SameBut F (updateBridgeState { s with pendingRotateKeys := true } .halted) _ := .mk hv ho
    exact hs.opens_alike (fun _ => .rotateKeys rs n) (fun _ => rfl) fun hs => .ok ⟨hs, rfl⟩

theorem cancelPendingOperation_alike (h : SameBut F s s') :
    Alike (SameAnswer (SameBut F)) (cancelPendingOperation H s sender k) (cancelPendingOperation H s' sender k) := by
  have hexists := @h.checkOperationExists_alike F _ _ k
  have hhandle := fun o o' (hoo : SameOperation o o') operationResult =>
    @h.handleOperation_alike F _ _ Response.new operationResult .invalid none k s.config.tokenFactoryAddr H.contract
      o o' hoo o.ticketSequence
  cases h with
  | mk hv ho =>
    refine Alike.bind_same fun _ => hexists.bind fun {o o'} hoo => ?_
    have hop := hhandle o o' (F.same hoo)
    cases F.same hoo with
    | mk _ =>
      refine (hop _).bind fun {x x'} hx => ?_
      obtain ⟨s₁, r, msgs⟩ := x
      obtain ⟨s₁', r', msgs'⟩ := x'
      obtain ⟨hs, hr⟩ := hx
      cases hr
      exact .ok ⟨hs, rfl⟩

/-- **No call but an evidence reads the votes, or tells the order of the signatures.** -/
theorem execute_alike (h : SameBut F s s') {msg : ExecuteMsg} (hmsg : ∀ e, msg ≠ .saveEvidence e) :
    Alike (SameAnswer (SameBut F)) (execute H s q env sender funds msg) (execute H s' q env sender funds msg) := by
  cases msg with
  | saveEvidence evidence => exact absurd rfl (hmsg evidence)
  | sendToXRPL recipient deliver => exact h.sendToXRPL_alike
  | registerXRPLToken issuer currency precision maxHolding bridgingFee => exact h.registerXRPLToken_alike
  | recoverXRPLTokenRegistration issuer currency => exact h.recoverXRPLTokenRegistration_alike
  | recoverTickets account number => exact h.recoverTickets_alike
  | updateXRPLBaseFee fee => exact h.updateXRPLBaseFee_alike
  | rotateKeys rs n => exact h.rotateKeys_alike
  | cancelPendingOperation k => exact h.cancelPendingOperation_alike
  | saveSignature k version signature =>
    have hadd := @h.addSignature_alike F _ _ sender k version signature
    cases h with
    | mk hv ho => exact Alike.bind_same fun _ => hadd.bind fun hs => .ok ⟨hs, rfl⟩
  -- the other handlers neither read nor write the two stores
  | updateOwnership action =>
    cases h with
    | mk hv ho =>
      dsimp only [execute, Contract.updateOwnership]
      cases H.updateOwnership s.ownership env sender action with
      | ok ownership => exact .ok ⟨.mk hv ho, rfl⟩
      | error e => exact .error _
  | createCosmosToken subdenom balances =>
    cases h with
    | mk hv ho => exact Alike.bind_same fun _ => .ok ⟨.mk hv ho, rfl⟩
  | mintCosmosToken denom balances =>
    cases h with
    | mk hv ho => exact Alike.bind_same fun _ => .ok ⟨.mk hv ho, rfl⟩
  | registerCosmosToken denom decimals precision maxHolding bridgingFee =>
    cases h with
    | mk hv ho =>
      exact Alike.bind_same fun _ => Alike.bind_same fun _ => Alike.bind_same fun _ => Alike.bind_same fun _ =>
        Alike.bind_same fun _ => Alike.bind_same fun _ => Alike.bind_same fun _ => Alike.bind_same fun _ =>
          Alike.bind_same fun _ => Alike.bind_same fun _ => .ok ⟨.mk hv ho, rfl⟩
  | updateXRPLToken issuer currency update =>
    cases h with
    | mk hv ho =>
      exact Alike.bind_same fun _ => Alike.bind_same fun _ => Alike.bind_same fun _ => Alike.bind_same fun _ =>
        Alike.bind_same fun _ => Alike.bind_same fun _ => Alike.bind_same fun _ => .ok ⟨.mk hv ho, rfl⟩
  | updateCosmosToken denom update =>
    cases h with
    | mk hv ho =>
      exact Alike.bind_same fun _ => Alike.bind_same fun _ => Alike.bind_same fun _ => Alike.bind_same fun _ =>
        Alike.bind_same fun _ => Alike.bind_same fun _ => Alike.bind_same fun _ => .ok ⟨.mk hv ho, rfl⟩
  | claimRefund id =>
    cases h with
    | mk hv ho =>
      refine Alike.bind_same fun _ => Alike.bind (R := fun x x' => x.1 = x'.1 ∧ SameBut F x.2 x'.2) ?_ fun {x x'} hx => ?_
      · exact Alike.bind_same fun _ => .ok ⟨rfl, .mk hv ho⟩
      · obtain ⟨coin, s₁⟩ := x
        obtain ⟨coin', s₁'⟩ := x'
        obtain ⟨rfl, hs⟩ := hx
        exact .ok ⟨hs, rfl⟩
  | claimRelayerFees amounts =>
    cases h with
    | mk hv ho =>
      refine Alike.bind_same fun _ => Alike.bind_same fun _ => Alike.bind (R := SameBut F) ?_ fun hs => .ok ⟨hs, rfl⟩
      exact Alike.bind_same fun _ => Alike.bind_same fun _ => .ok (.mk hv ho)
  | haltBridge =>
    cases h with
    | mk hv ho => exact Alike.bind_same fun _ => Alike.bind_same fun _ => .ok ⟨.mk hv ho, rfl⟩
  | resumeBridge =>
    cases h with
    | mk hv ho => exact Alike.bind_same fun _ => Alike.bind_same fun _ => .ok ⟨.mk hv ho, rfl⟩
  | updateProhibitedXRPLAddresses addresses =>
    cases h with
    | mk hv ho => exact Alike.bind_same fun _ => Alike.bind_same fun _ => .ok ⟨.mk hv ho, rfl⟩
  | updateUsedTicketSequenceThreshold threshold =>
    cases h with
    | mk hv ho => exact Alike.bind_same fun _ => .ok ⟨.mk hv ho, rfl⟩
  | addRateLimit denom quotas =>
    cases h with
    | mk hv ho => exact Alike.bind_same fun _ => Alike.bind_same fun _ => .ok ⟨.mk hv ho, rfl⟩
  | removeRateLimit denom =>
    cases h with
    | mk hv ho => exact Alike.bind_same fun _ => Alike.bind_same fun _ => .ok ⟨.mk hv ho, rfl⟩
  | resetRateLimitQuota denom quota =>
    cases h with
    | mk hv ho => exact Alike.bind_same fun _ => Alike.bind_same fun _ => .ok ⟨.mk hv ho, rfl⟩

theorem reply_alike (h : SameBut F s s') {id : ℕ} {err : String} :
    Alike (SameAnswer (SameBut F)) (reply s id err) (reply s' id err) := by
  cases h with
  | mk hv ho =>
    unfold reply
    split_ifs
    · exact Alike.bind_same fun _ => .ok ⟨.mk hv ho, rfl⟩
    · exact .error _

end SameBut

theorem SameWorldBut.dispatch_alike {F : Frame} {H : Host} {w w' : World} {accepts : CosmosMsg → Bool}
    {ms : List SubMsg} (h : SameWorldBut F w w') :
    Alike (SameWorldBut F) (dispatch H accepts w ms) (dispatch H accepts w' ms) := by
  induction ms generalizing w w' with
  | nil => exact .ok h
  | cons m ms ih =>
    obtain ⟨hs, hb⟩ := h
    simp only [dispatch, ← hb]
    cases deliver H accepts w.bank m.msg with
    | some bank => exact ih ⟨hs, rfl⟩
    | none =>
      cases m.replyOnError with
      | none => exact .error _
      | some id =>
        refine hs.reply_alike.bind fun {x x'} hx => ?_
        obtain ⟨s₁, r⟩ := x
        obtain ⟨s₁', r'⟩ := x'
        obtain ⟨hs₁, rfl⟩ := hx
        dsimp only
        cases deliverAll H accepts w.bank r.messages with
        | some bank => exact ih ⟨hs₁, rfl⟩
        | none => exact .error _

end XrplBridge
