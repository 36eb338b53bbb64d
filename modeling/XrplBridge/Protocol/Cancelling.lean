import XrplBridge.Protocol.Closing
import XrplBridge.Reference

/-!
# Cancelling

The owner may end a pending operation in place of the relayers. `CancelPendingOperation` gives it the
result of a transaction that was never executed, and takes the ticket from the operation itself; the vote
for such a result has it from the evidence. In every state that a run reaches the two agree
(`cancel_alike`): an operation is kept under the sequence it names, so both end the same one, both return
its ticket, and neither registers a ticket as used or a transaction as processed. Only the votes can be
told apart, as the evidence's are dropped.
-/

namespace XrplBridge

open Library Contract Std

/-- The evidence that the transaction of an operation was never executed. -/
def Contract.Operation.invalidEvidence (o : Operation) : ResultEvidence where
  txHash := none
  accountSequence := o.accountSequence
  ticketSequence := o.ticketSequence
  transactionResult := .invalid
  operationResult := cancelResult o.operationType

/-- Two storages that differ in the votes only. -/
def SameButVotes (s s' : Storage) : Prop := s' = { s with txEvidences := s'.txEvidences }

/-- Two ends of a call: storages that differ in the votes only, and the same messages. -/
def SameEnd (x x' : Storage × Response) : Prop := SameButVotes x.1 x'.1 ∧ x.2.messages = x'.2.messages

variable {H : Host} {s s' : Storage} {k : ℕ} {o : Operation} {sender : Addr}

theorem SameButVotes.exists (h : SameButVotes s s') : ∃ votes, s' = { s with txEvidences := votes } := ⟨_, h⟩

/-! ### The handlers -/

/-- What a handler leaves, up to the votes and the attributes. -/
def SameHandling (x x' : Storage × Response × List CosmosMsg) : Prop :=
  SameButVotes x.1 x'.1 ∧ x.2.1.messages = x'.2.1.messages ∧ x.2.2 = x'.2.2

variable {votes : ExtTreeMap String Evidences} {operationResult : Option OperationResult} {txHash : Option String}
  {tokenFactoryAddr burnAddr : Addr} {response response' : Response}

theorem trustSetConfirmation_alike {issuer currency : String} :
    Alike SameButVotes (handleTrustSetConfirmation s issuer currency .invalid)
      (handleTrustSetConfirmation { s with txEvidences := votes } issuer currency .invalid) := by
  unfold handleTrustSetConfirmation
  exact Alike.bind_same fun _ => Alike.bind_same fun _ => .ok rfl

/-- A transfer that was not executed is refunded whatever the votes are. -/
theorem transferConfirmation_alike (hr : response.messages = response'.messages) :
    Alike SameHandling
      (handleCosmosToXRPLTransferConfirmation s .invalid txHash k tokenFactoryAddr burnAddr response)
      (handleCosmosToXRPLTransferConfirmation { s with txEvidences := votes } .invalid txHash k tokenFactoryAddr
        burnAddr response') := by
  unfold handleCosmosToXRPLTransferConfirmation
  refine Alike.bind_same fun o => ?_
  cases o.operationType with
  | cosmosToXRPLTransfer issuer currency amount maxAmount sender recipient =>
    dsimp only
    cases s.xrplTokens.primary[buildXRPLTokenKey issuer currency]? with
    | some token => exact .ok ⟨rfl, hr, rfl⟩
    | none =>
      simp only [reduceCtorEq, if_false]
      cases s.cosmosTokens.item currency with
      | none => exact .error _
      | some entry => exact Alike.bind_same fun _ => Alike.bind_same fun _ => .ok ⟨rfl, hr, rfl⟩
  | _ => exact .error _

/-- No handler reads the votes of an operation that was not executed, nor changes them. -/
theorem runHandler_alike (hr : response.messages = response'.messages) :
    Alike SameHandling
      (runHandler s o operationResult .invalid txHash k tokenFactoryAddr burnAddr response)
      (runHandler { s with txEvidences := votes } o operationResult .invalid txHash k tokenFactoryAddr burnAddr
        response') := by
  unfold runHandler
  cases o.operationType with
  | allocateTickets n =>
    cases operationResult with
    | none => exact .error _
    | some result => exact .ok ⟨rfl, hr, rfl⟩
  | trustSet issuer currency limit =>
    exact trustSetConfirmation_alike.bind fun hs => .ok ⟨hs, hr, rfl⟩
  | rotateKeys relayers threshold => exact .ok ⟨rfl, hr, rfl⟩
  | cosmosToXRPLTransfer issuer currency amount maxAmount sender recipient => exact transferConfirmation_alike hr

theorem SameButVotes.endOperation (h : SameButVotes s s') (result : TransactionResult) (ticket : Option ℕ) :
    SameButVotes (endOperation s result k ticket) (endOperation s' result k ticket) := by
  rw [h]
  cases ticket with
  | none => rfl
  | some t => cases result <;> rfl

/-- The end of an operation that was not executed. -/
theorem handleOperation_alike {ticket : Option ℕ} (hr : response.messages = response'.messages) :
    Alike SameHandling
      (handleOperation s o operationResult .invalid txHash k ticket tokenFactoryAddr burnAddr response)
      (handleOperation { s with txEvidences := votes } o operationResult .invalid txHash k ticket tokenFactoryAddr
        burnAddr response') :=
  (runHandler_alike hr).bind fun h => .ok ⟨h.1.endOperation .invalid ticket, h.2⟩

/-! ### The vote -/

/-- The vote for a transaction that was never executed marks none as processed. -/
theorem Contract.Votes.sameButVotes {e : Evidence} {reached : Bool} (h : Votes H s sender e s' reached)
    (hinvalid : e.isOperationValid = false) : SameButVotes s s' := by
  cases h with
  | collected => rfl
  | reached _ _ hm =>
    rw [markProcessed, hinvalid] at hm
    cases hm
    rfl

/-- An operation is kept under the one sequence it names. -/
theorem Entry.Created.sequence {e : Entry} (h : e.Created k) :
    (e.accountSequence.isSome = !e.ticketSequence.isSome) ∧ e.accountSequence.or e.ticketSequence = some k := by
  cases h with
  | onTicket => exact ⟨rfl, rfl⟩
  | onAccount => exact ⟨rfl, rfl⟩

/-- The evidence names the operation and its kind of sequence, and passes all checks. -/
theorem votable_invalid (hc : o.entry.Created k) (ho : s.pendingOperations[k]? = some o)
    (hrelayer : isRelayer s sender = true)
    (hnew : sender ∉ s.voters ((Evidence.xrplTransactionResult o.invalidEvidence).getHash H)) :
    Votable H s sender o.invalidEvidence k o := by
  have hkind : (Completion.mk k o o.invalidEvidence).SameKind := ⟨rfl, rfl⟩
  obtain ⟨hone, hnamed⟩ : (o.accountSequence.isSome = !o.ticketSequence.isSome) ∧
      o.accountSequence.or o.ticketSequence = some k := hc.sequence
  have hsequence : ¬ ((o.accountSequence.isNone ∧ o.ticketSequence.isNone) ∨
      (o.accountSequence.isSome ∧ o.ticketSequence.isSome)) := by
    cases ha : o.accountSequence <;> cases ht : o.ticketSequence <;> simp [ha, ht] at hone ⊢
  refine ⟨hrelayer, ?_, rfl, hnew, hnamed, ho, checkSequenceKind_ok hc hkind⟩
  refine bind_eq_ok.mpr ⟨(), failIf_eq_ok.mpr hsequence, ?_⟩
  refine bind_eq_ok.mpr ⟨(), failIf_eq_ok.mpr fun h => h.1 rfl, ?_⟩
  refine bind_eq_ok.mpr ⟨(), failIf_eq_ok.mpr fun h => Bool.false_ne_true h.2, ?_⟩
  simp only [Operation.invalidEvidence]
  cases o.operationType <;> rfl

theorem registerTicketOf_invalid {e : ResultEvidence} {timestamp : ℕ} (h : e.transactionResult = .invalid) :
    registerTicketOf s e timestamp = .ok (true, s) :=
  if_neg fun hcond => hcond.1 h

/-- The vote that reaches the threshold ends the operation, and no ticket is used up. -/
theorem completeOperation_alike {env : BlockInfo} (hr : response.messages = response'.messages) :
    Alike SameHandling
      (handleOperation s o (cancelResult o.operationType) .invalid none k o.ticketSequence s.config.tokenFactoryAddr
        H.contract response)
      (completeOperation H { s with txEvidences := votes } env o.invalidEvidence k o response') := by
  rw [← bind_pure (handleOperation s o _ _ _ _ _ _ _ response)]
  exact (handleOperation_alike hr).bind fun h => .of_ok_right (registerTicketOf_invalid rfl) (.ok h)

/-- What the owner does, and what the last vote does after it is counted. -/
theorem saveResultEvidence_alike {env : BlockInfo} (hv : Votable H s sender o.invalidEvidence k o) {owner : Addr}
    (howner : isOwner s owner = true) (hr : response.messages = []) :
    Alike SameEnd (cancelPendingOperation H s owner k)
      (saveResultEvidence H { s with txEvidences := votes } env o.invalidEvidence true response) := by
  refine .of_ok_left (checkAuthorization_owner rfl howner) ?_
  refine .of_ok_left (orFail_eq_ok.mpr hv.pending) ?_
  refine .of_ok_right (unwrap_eq_ok.mpr hv.named) ?_
  refine .of_ok_right (orFail_eq_ok.mpr hv.pending) ?_
  refine .of_ok_right hv.kind ?_
  refine (completeOperation_alike hr.symm).bind fun {x x'} h => .ok ⟨h.1, ?_⟩
  obtain ⟨-, hmessages, hmsgs⟩ := h
  simp only [Response.messages_addMessages, Response.messages_addAttributes, hmessages, hmsgs]
  rfl

/-- **Cancelling is the vote for an invalid result.** In every state that a run reaches, for every pending
operation: the owner's cancellation, and the vote of a relayer that reaches the threshold for the result
that the operation's transaction was never executed, fail with the same error, or send the same messages
and leave the same storage but for the votes. -/
theorem cancel_alike {w : World} (h : Started H w) (calls : List Call) (hs : (run (step H) w calls).store = s)
    (ho : s.pendingOperations[k]? = some o) {owner relayer : Addr} (howner : isOwner s owner = true)
    (hrelayer : isRelayer s relayer = true)
    (hnew : relayer ∉ s.voters ((Evidence.xrplTransactionResult o.invalidEvidence).getHash H))
    (hreach : s.reaches H (.xrplTransactionResult o.invalidEvidence) = true) (q q' : Querier) (env env' : BlockInfo)
    (funds funds' : List Coin) :
    Alike SameEnd (execute H s q env owner funds (.cancelPendingOperation k))
      (execute H s q' env' relayer funds' (.saveEvidence (.xrplTransactionResult o.invalidEvidence))) := by
  have hcreated : o.entry.Created k := run_created h calls k o.entry (by simp [hs, ho])
  have hv : Votable H s relayer o.invalidEvidence k o := votable_invalid hcreated ho hrelayer hnew
  obtain ⟨s₁, hs₁⟩ := handleEvidence_ok hv.fresh hv.new
  obtain ⟨votes, rfl⟩ := ((votes_of_ok hs₁).sameButVotes rfl).exists
  rw [hreach] at hs₁
  refine .of_ok_right (checkAuthorization_relayer rfl hv.relayer) ?_
  refine .of_ok_right hv.valid ?_
  refine .of_ok_right hs₁ ?_
  exact saveResultEvidence_alike hv howner rfl

open Reference in
/-- A transfer is cancelled, or its transaction is not executed. -/
theorem cancel_alike_transfer :
    let s := (run (step host) world₁ [recover, vote 2 relayer₁ allocation, send 3 5000000]).store
    let evidence := Evidence.xrplTransactionResult ⟨none, none, some 1, .invalid, none⟩
    Alike SameEnd (execute host s world₁.bank.querier ⟨4, 4⟩ owner [] (.cancelPendingOperation 1))
        (execute host s world₁.bank.querier ⟨5, 5⟩ relayer₁.cosmosAddress [] (.saveEvidence evidence)) ∧
      (execute host s world₁.bank.querier ⟨4, 4⟩ owner [] (.cancelPendingOperation 1)).isOk = true := by
  intro s evidence
  have hreached : s.pendingOperations[1]? = some ⟨"3-1", 1, some 1, none, [],
        .cosmosToXRPLTransfer xrpIssuer xrpCurrency 5000000 none user relayer₃.xrplAddress, 10⟩ ∧
      isOwner s owner = true ∧ isRelayer s relayer₁.cosmosAddress = true ∧
      relayer₁.cosmosAddress ∉ s.voters (evidence.getHash host) ∧ s.reaches host evidence = true ∧
      (execute host s world₁.bank.querier ⟨4, 4⟩ owner [] (.cancelPendingOperation 1)).isOk = true := by
    decide +kernel
  obtain ⟨ho, howner, hrelayer, hnew, hreach, hok⟩ := hreached
  exact ⟨cancel_alike started_world₁ _ rfl ho howner hrelayer hnew hreach _ _ _ _ _ _, hok⟩

end XrplBridge
