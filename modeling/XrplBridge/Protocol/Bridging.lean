import XrplBridge.Protocol.Closing
import XrplBridge.Protocol.Overflows

/-!
# Calls that return

The calls that move a token across the bridge (`Bridging`): a transfer to XRPL, a vote for a transfer
from there, and the end of a transfer, by a vote or by the owner. In every state that a run reaches,
such a call returns a result or an error unless it overflows (`bridging_returns_iff`), in the cases of
`Overflows` and with the counter of used tickets, a `u32`, as one more.

A token of Cosmos whose decimals exceed its sending precision by more than 38 can be registered, and
cannot be bridged (`token_not_bridged`); a bridge without such tokens, and with room for its fees and
its tickets, never overflows (`not_overflows`).
-/

namespace XrplBridge

open Library Contract Std

/-! ### Votes -/

section Counting

variable {H : Host} {s : Storage} {sender : Addr} {evidence : Evidence}

/-- The vote is cast by a relayer who has not cast it yet, for a valid evidence that is not settled. -/
structure Counts (H : Host) (s : Storage) (sender : Addr) (evidence : Evidence) : Prop where
  relayer : isRelayer s sender = true
  valid : evidence.validateBasic = .ok ()
  fresh : checkNotProcessed H s evidence = .ok ()
  new : sender ∉ s.voters (evidence.getHash H)

/-- A valid evidence of a transaction that was executed names it. -/
theorem txHash_of_validateBasic (hv : evidence.validateBasic = .ok ()) (hop : evidence.isOperationValid = true) :
    ∃ txHash, evidence.txHash = some txHash := by
  cases evidence with
  | xrplToCosmosTransfer e => exact ⟨_, rfl⟩
  | xrplTransactionResult e =>
    simp only [Evidence.validateBasic, bind_eq_ok, failIf_eq_ok, not_and] at hv
    obtain ⟨_, -, _, hhash, -⟩ := hv
    have hsome := hhash (by simpa [Evidence.isOperationValid] using hop)
    obtain ⟨txHash, heq⟩ := Option.ne_none_iff_exists'.mp (show e.txHash ≠ none by simpa using hsome)
    exact ⟨txHash, heq⟩

theorem not_panics_handleEvidence (hv : evidence.validateBasic = .ok ()) :
    ¬ Panics (handleEvidence H s sender evidence) := by
  have hhash : evidence.isOperationValid = true → ¬ Panics (evidence.getTxHash H) := by
    intro hop
    obtain ⟨txHash, heq⟩ := txHash_of_validateBasic hv hop
    simp [Evidence.getTxHash, heq]
  have hfresh : ¬ Panics (checkNotProcessed H s evidence) := by
    unfold checkNotProcessed
    split_ifs with hop
    · simp [hhash hop]
    · exact not_panics_ok
  have hmark : ¬ Panics (markProcessed H s evidence) := by
    unfold markProcessed
    split_ifs with hop
    · simp [hhash hop]
    · exact not_panics_ok
  simp only [handleEvidence, panics_bind, hfresh, not_panics_failIf, false_or, not_exists, not_and]
  intro _ _ _ _
  split_ifs <;> simp [hmark]

/-- What follows a vote panics only if the vote is counted. -/
theorem panics_counted {β : Type} {f : Storage × Bool → ContractResult β} :
    Panics (checkAuthorization s sender .saveEvidence >>= fun _ => evidence.validateBasic >>= fun _ =>
        handleEvidence H s sender evidence >>= f) ↔
      Counts H s sender evidence ∧ ∃ s₁, handleEvidence H s sender evidence = .ok (s₁, s.reaches H evidence) ∧
        Panics (f (s₁, s.reaches H evidence)) := by
  simp only [panics_bind, not_panics_checkAuthorization, not_panics_validateBasic, false_or]
  constructor
  · rintro ⟨_, hauth, _, hvalid, hpanics | ⟨⟨s₁, counted⟩, hs₁, hpanics⟩⟩
    · exact absurd hpanics (not_panics_handleEvidence hvalid)
    · have hreaches := (votes_of_ok hs₁).reaches
      subst hreaches
      refine ⟨?_, s₁, hs₁, hpanics⟩
      simp only [handleEvidence, bind_eq_ok, failIf_eq_ok] at hs₁
      obtain ⟨_, hfresh, _, hnew, -⟩ := hs₁
      exact ⟨isRelayer_of_checkAuthorization rfl hauth, hvalid, hfresh, hnew⟩
  · rintro ⟨hcounts, s₁, hs₁, hpanics⟩
    exact ⟨(), checkAuthorization_relayer rfl hcounts.relayer, (), hcounts.valid, .inr ⟨_, hs₁, hpanics⟩⟩

end Counting

/-! ### The end of a transfer -/

section Completes

variable {H : Host} {s s₁ : Storage} {env : BlockInfo} {e : ResultEvidence} {k : ℕ} {o : Operation} {bridge : String}
  {reached : Bool} {response : Response}

/-- The operation is a transfer to XRPL. -/
def isTransfer : OperationType → Bool
  | .cosmosToXRPLTransfer _ _ _ _ _ _ => true
  | _ => false

/-- The end of a transfer leaves the counter of used tickets. -/
theorem Contract.Handled.used_of_transfer {operationResult : Option OperationResult} {result : TransactionResult}
    {txHash : Option String} {tokenFactoryAddr burnAddr : Addr} {msgs : List CosmosMsg}
    (h : Handled s o operationResult result txHash tokenFactoryAddr burnAddr s₁ msgs)
    (ht : isTransfer o.operationType = true) : s₁.usedTicketsCounter = s.usedTicketsCounter := by
  cases h with
  | allocated htype =>
    rw [htype] at ht
    cases ht
  | _ => rfl

theorem runHandler_transfer {result : TransactionResult} {txHash : Option String} {operationResult : Option OperationResult}
    {tokenFactoryAddr burnAddr : Addr} (ho : s.pendingOperations[k]? = some o)
    (ht : isTransfer o.operationType = true) (hc : s.registry.Covers bridge o.operationType) :
    ∃ x, runHandler s o operationResult result txHash k tokenFactoryAddr burnAddr response = .ok x := by
  apply runHandler_ok ho hc
  intro hall
  cases htype : o.operationType <;> simp [htype, isTransfer, OperationType.isAllocation] at ht hall

/-- A transfer ends without a panic, unless the counter of used tickets is exhausted. -/
theorem panics_completeOperation (ho : s.pendingOperations[k]? = some o) (ht : isTransfer o.operationType = true)
    (hc : s.registry.Covers bridge o.operationType) :
    Panics (completeOperation H s env e k o response) ↔
      e.transactionResult ≠ .invalid ∧ e.ticketSequence.isSome = true ∧ u32Bound ≤ s.usedTicketsCounter + 1 := by
  obtain ⟨⟨s₁, r₁, msgs⟩, hrun⟩ : ∃ x, runHandler s o e.operationResult e.transactionResult e.txHash k
      s.config.tokenFactoryAddr H.contract response = .ok x := runHandler_transfer ho ht hc
  obtain ⟨_, -, hhandled⟩ := handled_of_ok ho hrun
  have hused : (endOperation s₁ e.transactionResult k e.ticketSequence).usedTicketsCounter = s.usedTicketsCounter := by
    obtain ⟨_, hend⟩ := endOperation_frame s₁ e.transactionResult k e.ticketSequence
    rw [hend]
    exact hhandled.used_of_transfer ht
  have hhandle : handleOperation s o e.operationResult e.transactionResult e.txHash k e.ticketSequence
      s.config.tokenFactoryAddr H.contract response =
        .ok (endOperation s₁ e.transactionResult k e.ticketSequence, r₁, msgs) := bind_eq_ok.mpr ⟨_, hrun, rfl⟩
  simp only [completeOperation, hhandle, panics_bind, not_panics_ok, not_panics_pure, and_false, exists_false, or_false,
    false_or, Except.ok.injEq, exists_eq_left']
  unfold registerTicketOf
  split_ifs with hcond
  · rw [panics_registerUsedTicket, hused]
    exact ⟨fun h => ⟨hcond.1, hcond.2, h⟩, fun h => h.2.2⟩
  · exact iff_of_false not_panics_ok fun h => hcond ⟨h.1, h.2.1⟩

theorem panics_saveResultEvidence (hk : e.operationId = some k) (ho : s.pendingOperations[k]? = some o)
    (ht : isTransfer o.operationType = true) (hc : s.registry.Covers bridge o.operationType) :
    Panics (saveResultEvidence H s env e reached response) ↔
      checkSequenceKind o.operationType e = .ok () ∧ reached = true ∧ e.transactionResult ≠ .invalid ∧
        e.ticketSequence.isSome = true ∧ u32Bound ≤ s.usedTicketsCounter + 1 := by
  simp only [saveResultEvidence, panics_bind, panics_unwrap, hk, unwrap_eq_ok, not_panics_orFail,
    checkOperationExists, orFail_eq_ok, ho, not_panics_checkSequenceKind, not_panics_pure, and_false, exists_false,
    or_false, false_or, Option.some.injEq, exists_eq_left', reduceCtorEq]
  cases reached with
  | false => simp
  | true =>
    simp only [if_true, panics_completeOperation ho ht hc, true_and]
    constructor
    · rintro ⟨_, hkind, h⟩
      exact ⟨hkind, h⟩
    · rintro ⟨hkind, h⟩
      exact ⟨(), hkind, h⟩

/-- A transfer that is cancelled is refunded, whatever happens. -/
theorem not_panics_cancelPendingOperation {sender : Addr} (ho : s.pendingOperations[k]? = some o)
    (ht : isTransfer o.operationType = true) (hc : s.registry.Covers bridge o.operationType) :
    ¬ Panics (cancelPendingOperation H s sender k) := by
  have hhandle : ∀ operationResult, ∃ x, handleOperation s o operationResult .invalid none k o.ticketSequence
      s.config.tokenFactoryAddr H.contract Response.new = .ok x := by
    intro operationResult
    obtain ⟨x, hx⟩ : ∃ x, runHandler s o operationResult .invalid none k s.config.tokenFactoryAddr H.contract
        Response.new = .ok x := runHandler_transfer ho ht hc
    exact ⟨_, bind_eq_ok.mpr ⟨x, hx, rfl⟩⟩
  simp only [cancelPendingOperation, panics_bind, not_panics_checkAuthorization, checkOperationExists, orFail_eq_ok, ho,
    not_panics_orFail, not_panics_pure, and_false, exists_false, or_false, false_or, Option.some.injEq,
    exists_eq_left', not_exists, not_and]
  intro _ _
  obtain ⟨x, hx⟩ := hhandle _
  rw [hx]
  exact not_panics_ok

end Completes

/-! ### Calls -/

section Calls

variable {H : Host} {s s' : Storage} {q : Querier} {env : BlockInfo} {sender : Addr} {funds : List Coin}
  {msg : ExecuteMsg} {bridge : String} {w : World}

/-- A call that moves a token across the bridge, in either direction, or ends its transfer. -/
inductive Bridging (s : Storage) (funds : List Coin) : ExecuteMsg → Prop
  | send {recipient : String} {deliver : Option ℕ} (uint128 : ∀ c ∈ funds, c.amount < u128Bound) :
      Bridging s funds (.sendToXRPL recipient deliver)
  | receive {e : TransferEvidence} (uint128 : e.amount < u128Bound) :
      Bridging s funds (.saveEvidence (.xrplToCosmosTransfer e))
  | complete {e : ResultEvidence} {k : ℕ} {o : Operation} (named : e.operationId = some k)
      (pending : s.pendingOperations[k]? = some o) (transfer : isTransfer o.operationType = true) :
      Bridging s funds (.saveEvidence (.xrplTransactionResult e))
  | cancel {k : ℕ} {o : Operation} (pending : s.pendingOperations[k]? = some o)
      (transfer : isTransfer o.operationType = true) : Bridging s funds (.cancelPendingOperation k)

/-- A call that moves a token across the bridge overflows. -/
inductive Overflows (H : Host) (s : Storage) (q : Querier) (sender : Addr) (funds : List Coin) : ExecuteMsg → Prop
  /-- A transfer to XRPL that nothing refuses before. -/
  | send {recipient : String} {deliver : Option ℕ} {coin : Coin} (active : s.config.bridgeState = .active)
      (valid : validateXRPLAddress H s.prohibitedXRPLAddresses recipient = .ok ()) (paid : oneCoin funds = .ok coin)
      (overflows : SendOverflows s coin deliver) : Overflows H s q sender funds (.sendToXRPL recipient deliver)
  /-- A counted vote for a transfer from XRPL. -/
  | receive {e : TransferEvidence} (counts : Counts H s sender (.xrplToCosmosTransfer e))
      (active : s.config.bridgeState ≠ .halted) (valid : H.addrValidate e.recipient = true)
      (other : e.recipient ≠ H.contract)
      (overflows : ReceiveOverflows s q e (s.reaches H (.xrplToCosmosTransfer e))) :
      Overflows H s q sender funds (.saveEvidence (.xrplToCosmosTransfer e))
  /-- The last vote for the result of a transfer, with the last ticket that can be counted. -/
  | complete {e : ResultEvidence} {k : ℕ} {o : Operation} (counts : Counts H s sender (.xrplTransactionResult e))
      (named : e.operationId = some k) (pending : s.pendingOperations[k]? = some o)
      (transfer : isTransfer o.operationType = true) (kind : checkSequenceKind o.operationType e = .ok ())
      (reached : s.reaches H (.xrplTransactionResult e) = true) (executed : e.transactionResult ≠ .invalid)
      (ticketed : e.ticketSequence.isSome = true) (exhausted : u32Bound ≤ s.usedTicketsCounter + 1) :
      Overflows H s q sender funds (.saveEvidence (.xrplTransactionResult e))

theorem panics_vote_transfer {e : TransferEvidence} (h : InRange s) (ha : e.amount < u128Bound) :
    Panics (execute H s q env sender funds (.saveEvidence (.xrplToCosmosTransfer e))) ↔
      Overflows H s q sender funds (.saveEvidence (.xrplToCosmosTransfer e)) := by
  apply panics_counted.trans
  constructor
  · rintro ⟨hcounts, s₁, hs₁, hpanics⟩
    have hv := votes_of_ok hs₁
    obtain ⟨hactive, hvalid, hother, hover⟩ := (panics_saveTransferEvidence (h.of_votes hv) ha).mp hpanics
    obtain ⟨_, _, hframe⟩ := hv.frame
    rw [hframe] at hactive
    exact .receive hcounts hactive hvalid hother ((ReceiveOverflows.of_votes hv).mp hover)
  · intro hover
    cases hover with
    | receive hcounts hactive hvalid hother hover =>
      obtain ⟨s₁, hs₁⟩ := handleEvidence_ok hcounts.fresh hcounts.new
      have hv := votes_of_ok hs₁
      refine ⟨hcounts, s₁, hs₁, (panics_saveTransferEvidence (h.of_votes hv) ha).mpr ?_⟩
      obtain ⟨_, _, hframe⟩ := hv.frame
      rw [hframe]
      exact ⟨hactive, hvalid, hother, hframe ▸ (ReceiveOverflows.of_votes hv).mpr hover⟩

theorem panics_vote_result {e : ResultEvidence} {k : ℕ} {o : Operation} (hc : s.Covered bridge)
    (hk : e.operationId = some k) (ho : s.pendingOperations[k]? = some o) (ht : isTransfer o.operationType = true) :
    Panics (execute H s q env sender funds (.saveEvidence (.xrplTransactionResult e))) ↔
      Overflows H s q sender funds (.saveEvidence (.xrplTransactionResult e)) := by
  have hcovers : s.registry.Covers bridge o.operationType := hc k o.entry (by simp [ho])
  have hresult : ∀ s₁ reached, Votes H s sender (.xrplTransactionResult e) s₁ reached → ∀ r,
      (Panics (saveResultEvidence H s₁ env e reached r) ↔
        checkSequenceKind o.operationType e = .ok () ∧ reached = true ∧ e.transactionResult ≠ .invalid ∧
          e.ticketSequence.isSome = true ∧ u32Bound ≤ s.usedTicketsCounter + 1) := by
    intro s₁ reached hv r
    obtain ⟨_, _, rfl⟩ := hv.frame
    exact panics_saveResultEvidence hk ho ht hcovers
  apply panics_counted.trans
  constructor
  · rintro ⟨hcounts, s₁, hs₁, hpanics⟩
    obtain ⟨hkind, hreached, hexecuted, hticketed, hfull⟩ := (hresult _ _ (votes_of_ok hs₁) _).mp hpanics
    exact .complete hcounts hk ho ht hkind hreached hexecuted hticketed hfull
  · intro hover
    cases hover with
    | complete hcounts hk' ho' _ hkind hreached hexecuted hticketed hfull =>
      rw [hk] at hk'
      cases hk'
      rw [ho] at ho'
      cases ho'
      obtain ⟨s₁, hs₁⟩ := handleEvidence_ok hcounts.fresh hcounts.new
      exact ⟨hcounts, s₁, hs₁, (hresult _ _ (votes_of_ok hs₁) _).mpr ⟨hkind, hreached, hexecuted, hticketed, hfull⟩⟩

/-- **When a call panics** that moves a token across the bridge. -/
theorem panics_execute (h : InRange s) (hc : s.Covered bridge) (hb : Bridging s funds msg) :
    Panics (execute H s q env sender funds msg) ↔ Overflows H s q sender funds msg := by
  cases hb with
  | send ha =>
    rw [execute, panics_sendToXRPL h ha]
    constructor
    · rintro ⟨hactive, hvalid, coin, hpaid, hover⟩
      exact .send hactive hvalid hpaid hover
    · intro hover
      cases hover with
      | send hactive hvalid hpaid hover => exact ⟨hactive, hvalid, _, hpaid, hover⟩
  | receive ha => exact panics_vote_transfer h ha
  | complete hk ho ht => exact panics_vote_result hc hk ho ht
  | @cancel k o ho ht =>
    have hcovers : s.registry.Covers bridge o.operationType := hc k o.entry (by simp [ho])
    apply iff_of_false (not_panics_cancelPendingOperation ho ht hcovers)
    intro hover
    cases hover

/-- **A bridge with room**: it overflows at no call, as long as a `u128` holds the unit of every token of
Cosmos and the relayers' fees, and a `u32` one more used ticket. -/
theorem not_overflows (h : InRange s)
    (hunits : ∀ (key : String) (token : CosmosToken), s.cosmosTokens.primary[key]? = some token →
      (token.decimals : ℤ) ≤ token.sendingPrecision + 38)
    (hfees : ∀ fee, ¬ s.feeBooks.Overflows fee) (htickets : s.usedTicketsCounter + 1 < u32Bound) :
    ¬ Overflows H s q sender funds msg := by
  intro hover
  cases hover with
  | send _ _ _ hover =>
    cases hover with
    | unit _ hr _ _ hlarge => exact Int.not_le.mpr hlarge (hunits _ _ hr)
    | xrpl _ _ _ _ _ hcredit => exact hfees _ hcredit
    | cosmos _ _ _ _ _ _ _ hcredit => exact hfees _ hcredit
  | receive _ _ _ _ hover =>
    cases hover with
    | factor _ hr _ hfar =>
      have hr := (IndexedMap.item_eq_some.mp hr).1
      exact Nat.not_le.mpr hfar (near_of_small (h.cosmos _ _ hr) (hunits _ _ hr))
    | unit _ hr _ _ _ _ hlarge => exact Int.not_le.mpr hlarge (hunits _ _ (IndexedMap.item_eq_some.mp hr).1)
    | xrpl _ _ _ _ _ _ _ hcredit => exact hfees _ hcredit
    | cosmos _ _ _ _ _ _ _ hcredit => exact hfees _ hcredit
  | complete _ _ _ _ _ _ _ _ hfull => exact Nat.not_le.mpr htickets hfull

/-! ### In every run -/

/-- The sending precision of a token of XRPL stays in range, whatever strings an update names it by. -/
theorem TokenChange.rangeXRPL {ms : List SubMsg} (hc : TokenChange H s q funds msg s' ms)
    (h : ∀ (key : String) (token : XRPLToken), s.xrplTokens.primary[key]? = some token →
      minSendingPrecision ≤ token.sendingPrecision ∧ token.sendingPrecision ≤ maxSendingPrecision)
    (key : String) (token : XRPLToken) (hk : s'.xrplTokens.primary[key]? = some token) :
    minSendingPrecision ≤ token.sendingPrecision ∧ token.sendingPrecision ≤ maxSendingPrecision := by
  cases hc.xrplEntry hk with
  | kept hr => exact h key token hr
  | registered _ hprecise =>
    have hp := validateSendingPrecision_eq_ok (by decide) hprecise
    exact ⟨hp.lower, hp.upper⟩
  | restated hr => exact (h _ _ hr :)
  | updated _ hr _ hprecise =>
    rcases setTokenSendingPrecision_eq_ok (xrplDecimals_le _ _) hprecise with ⟨-, heq⟩ | ⟨-, hp⟩
    · rw [heq]
      exact h _ _ hr
    · exact ⟨hp.lower, hp.upper⟩

theorem run_inRange (h : Started H w) (calls : List Call) : InRange (run (step H) w calls).store := by
  refine ⟨?_, run_preciseCosmos h calls, (run_quorum h calls).relayers.cosmos, (run_feeBooks h calls).distinct⟩
  refine run_storage (P := fun s => ∀ (key : String) (token : XRPLToken), s.xrplTokens.primary[key]? = some token →
    minSendingPrecision ≤ token.sendingPrecision ∧ token.sendingPrecision ≤ maxSendingPrecision) h ?_
    (fun hold he => he.tokenChange.rangeXRPL hold) calls
  intro key token hk
  have hp := (started_precise h).xrpl key token hk
  exact ⟨hp.lower, hp.upper⟩

/-- **Bridging.** In every state that a run reaches, a call that moves a token across the bridge returns
a result or an error, unless it overflows. -/
theorem bridging_returns_iff (h : Started H w) (calls : List Call)
    (hb : Bridging (run (step H) w calls).store funds msg) :
    execute H (run (step H) w calls).store q env sender funds msg ≠ .error .panic ↔
      ¬ Overflows H (run (step H) w calls).store q sender funds msg :=
  not_congr (panics_execute (run_inRange h calls) (run_registered h calls).covered hb)

open Reference in
/-- The user sends XRP to an account on XRPL. -/
theorem bridging_returns_iff_sent :
    let s := (run (step host) world₁ [recover, vote 2 relayer₁ allocation]).store
    let q := world₁.bank.querier
    execute host s q ⟨1, 3⟩ user [⟨xrpDenom, 1000000⟩] (.sendToXRPL relayer₃.xrplAddress none) ≠ .error .panic ∧
      ¬ Overflows host s q user [⟨xrpDenom, 1000000⟩] (.sendToXRPL relayer₃.xrplAddress none) := by
  have hreturns : ¬ Panics (execute host (run (step host) world₁ [recover, vote 2 relayer₁ allocation]).store
      world₁.bank.querier ⟨1, 3⟩ user [⟨xrpDenom, 1000000⟩] (.sendToXRPL relayer₃.xrplAddress none)) := by
    decide +kernel
  exact ⟨hreturns, (bridging_returns_iff started_world₁ _ (.send (by decide))).mp hreturns⟩

open Reference in
/-- A token with 60 decimals is registered, with the largest sending precision: it can neither be sent
to XRPL nor received from there. -/
theorem token_not_bridged :
    let s := (run (step host) world₁ [call 1 owner (.registerCosmosToken "aunit" 60 15 (10 ^ 38) 0)]).store
    let q := world₁.bank.querier
    let paid : List Coin := [⟨"aunit", 10 ^ 38⟩]
    let e : TransferEvidence :=
      ⟨"cd34", bridgeAddress, (s.cosmosTokens.primary["aunit"]?.map CosmosToken.xrplCurrency).getD "", 1, user, none⟩
    s.cosmosTokens.primary["aunit"]?.map (fun t => (t.decimals, t.sendingPrecision, t.state)) =
        some (60, 15, .enabled) ∧
      Bridging s paid (.sendToXRPL relayer₃.xrplAddress none) ∧
      execute host s q ⟨1, 3⟩ user paid (.sendToXRPL relayer₃.xrplAddress none) = .error .panic ∧
      Bridging s [] (.saveEvidence (.xrplToCosmosTransfer e)) ∧
      execute host s q ⟨1, 3⟩ relayer₁.cosmosAddress [] (.saveEvidence (.xrplToCosmosTransfer e)) = .error .panic := by
  intro s q paid e
  have hsend : Panics (execute host s q ⟨1, 3⟩ user paid (.sendToXRPL relayer₃.xrplAddress none)) := by
    decide +kernel
  have hreceive : Panics (execute host s q ⟨1, 3⟩ relayer₁.cosmosAddress [] (.saveEvidence (.xrplToCosmosTransfer e))) := by
    decide +kernel
  exact ⟨by decide +kernel, .send (by decide), hsend, .receive (by decide), hreceive⟩

end Calls

end XrplBridge
