import XrplBridge.Protocol.Bridging
import XrplBridge.Protocol.Keys

/-!
# When the contract panics

A panic aborts a call without an error that says why. Which calls can abort? Besides the calls that move
a token across the bridge (`panics_execute`) there are three places where the contract does not check: the
counter of used tickets, when the result of a transaction is settled; the versions of the pending
operations, when they are given a new fee; and the rate limiter, which is used without asking whether there
is one (`Aborts`).

`aborts_iff` says that these are all, for every call in every state that a run reaches: nothing else that
the contract computes, looks up or takes apart can fail other than with an error.
-/

namespace XrplBridge

open Library Contract Std

/-! ### Digests -/

/-- A digest of SHA-256 has 32 bytes. -/
def Contract.Host.Digests (H : Host) : Prop := ∀ bytes, (H.sha256 bytes).length = 32

section Reference

open Reference

theorem length_round (v : List ℕ) (kw : ℕ × ℕ) : (Reference.round v kw).length = v.length := by
  unfold Reference.round
  split <;> rfl

theorem length_compress {hash : List ℕ} (h : hash.length = 8) (block : List ℕ) : (compress hash block).length = 8 := by
  have hrounds : ∀ (kws : List (ℕ × ℕ)) (v : List ℕ), (kws.foldl Reference.round v).length = v.length := by
    intro kws
    induction kws with
    | nil => exact fun _ => rfl
    | cons kw kws ih => exact fun v => (ih _).trans (length_round v kw)
  rw [compress, List.length_zipWith, hrounds, h, Nat.min_self]

theorem length_compressAll (n : ℕ) {hash : List ℕ} (h : hash.length = 8) (bytes : List ℕ) :
    (compressAll n hash bytes).length = 8 := by
  induction n generalizing hash bytes with
  | zero => exact h
  | succ n ih => exact ih (length_compress h _) _

theorem digests_host : host.Digests := by
  intro bytes
  change (sha256 bytes).length = 32
  simp [sha256, List.length_flatMap, length_compressAll _ (show initialHash.length = 8 from rfl)]

end Reference

variable {H : Host} {s s₁ : Storage} {q : Querier} {env : BlockInfo} {sender : Addr} {funds : List Coin}
  {msg : ExecuteMsg} {bridge : String} {k timestamp : ℕ} {o : Operation} {w : World}

/-! ### Checks -/

section Checks

variable {α β : Type}

theorem not_panics_foldlM {f : β → α → ContractResult β} (h : ∀ b a, ¬ Panics (f b a)) (as : List α) (b : β) :
    ¬ Panics (as.foldlM f b) := by
  induction as generalizing b with
  | nil => exact not_panics_ok
  | cons a as ih =>
    rw [List.foldlM_cons, panics_bind, not_or, not_exists]
    exact ⟨h b a, fun b' hb => ih b' hb.2⟩

@[simp] theorem not_panics_orUniqueConstraint {x : Option α} : ¬ Panics (orUniqueConstraint x) := not_panics_orFail

theorem not_panics_firstTen (hd : H.Digests) (bytes : List UInt8) : ¬ Panics (firstTen (hashBytes H bytes)) := by
  have hlength : 10 ≤ (hashBytes H bytes).toList.length := by
    rw [hashBytes, length_toHex, hd]
    decide
  rw [firstTen, if_pos hlength]
  exact not_panics_ok

@[simp] theorem not_panics_validateSendingPrecision {precision : ℤ} {decimals : ℕ} :
    ¬ Panics (validateSendingPrecision precision decimals) := by
  simp [validateSendingPrecision]

@[simp] theorem not_panics_validateXRPLCurrency {currency : String} : ¬ Panics (validateXRPLCurrency currency) := by
  unfold validateXRPLCurrency
  split <;> simp

@[simp] theorem not_panics_validateCosmosDenom {denom : String} : ¬ Panics (validateCosmosDenom denom) := by
  simp [validateCosmosDenom]

@[simp] theorem not_panics_validateCosmosTokenDecimals {decimals : ℕ} :
    ¬ Panics (validateCosmosTokenDecimals decimals) := not_panics_failIf

@[simp] theorem not_panics_setTokenState {state : TokenState} {target : Option TokenState} :
    ¬ Panics (setTokenState state target) := by
  cases target <;> simp [setTokenState]

@[simp] theorem not_panics_setTokenSendingPrecision {precision : ℤ} {target : Option ℤ} {decimals : ℕ} :
    ¬ Panics (setTokenSendingPrecision precision target decimals) := by
  cases target <;> simp [setTokenSendingPrecision]

@[simp] theorem not_panics_setTokenMaxHoldingAmount {bridged maxHolding : ℕ} {target : Option ℕ} :
    ¬ Panics (setTokenMaxHoldingAmount bridged maxHolding target) := by
  cases target <;> simp [setTokenMaxHoldingAmount]

@[simp] theorem not_panics_addrValidate {a : Addr} : ¬ Panics (addrValidate H a) := not_panics_failIf

@[simp] theorem not_panics_validateRelayersLoop {prohibited : ExtTreeMap String Unit} {rs : List Relayer}
    {xs ks : List String} {cs : List Addr} : ¬ Panics (validateRelayersLoop H prohibited rs xs ks cs) := by
  induction rs generalizing xs ks cs with
  | nil => exact not_panics_ok
  | cons r rs ih => simp [validateRelayersLoop, ih]

@[simp] theorem not_panics_validateRelayers {prohibited : ExtTreeMap String Unit} {rs : List Relayer} {n : ℕ} :
    ¬ Panics (validateRelayers H prohibited rs n) := by
  simp [validateRelayers]

@[simp] theorem not_panics_checkValidOperationIfHalt {operationType : OperationType} :
    ¬ Panics (checkValidOperationIfHalt s operationType) := by
  unfold checkValidOperationIfHalt
  split_ifs
  · split <;> simp
  · simp

@[simp] theorem not_panics_createPendingOperation_account {account : ℕ} {operationType : OperationType} :
    ¬ Panics (createPendingOperation s timestamp none (some account) operationType) := by
  simp [createPendingOperation]

@[simp] theorem not_panics_addSignature {operationId operationVersion : ℕ} {signature : String} :
    ¬ Panics (addSignature s operationId operationVersion sender signature) := by
  simp [addSignature, validateSignature]

@[simp] theorem not_panics_removePendingRefund {id : String} : ¬ Panics (removePendingRefund s sender id) := by
  simp [removePendingRefund]

@[simp] theorem not_panics_substractRelayerFees {amounts : List Coin} :
    ¬ Panics (substractRelayerFees s sender amounts) := by
  have hfold := fun cs => not_panics_foldlM (f := fun feesCollected coin =>
    orFail (takeFromCoins coin feesCollected) (.notEnoughFeesToClaim coin.denom coin.amount))
    (fun _ _ => not_panics_orFail) amounts cs
  simp [substractRelayerFees, hfold]

end Checks

/-! ### Calls of the owner and of the users -/

section Calls

/-- The messages whose handlers compute nothing that could overflow, and look up nothing that is not checked. -/
def Contract.ExecuteMsg.isChecked : ExecuteMsg → Bool
  | .saveEvidence _ | .sendToXRPL _ _ | .updateXRPLBaseFee _ | .cancelPendingOperation _ | .addRateLimit _ _
  | .removeRateLimit _ | .resetRateLimitQuota _ _ => false
  | _ => true

theorem not_panics_checked (hd : H.Digests) (h : msg.isChecked = true) :
    ¬ Panics (execute H s q env sender funds msg) := by
  cases msg with
  | createCosmosToken => simp [execute, createCosmosToken]
  | mintCosmosToken => simp [execute, mintCosmosToken]
  | updateOwnership action =>
    rw [execute, updateOwnership]
    split
    · exact not_panics_ok
    · exact not_panics_fail
  | registerCosmosToken => simp [execute, registerCosmosToken, not_panics_firstTen hd]
  | registerXRPLToken => simp [execute, registerXRPLToken, not_panics_firstTen hd]
  | recoverTickets => simp [execute, recoverTickets]
  | recoverXRPLTokenRegistration => simp [execute, recoverXRPLTokenRegistration]
  | saveSignature => simp [execute, saveSignature]
  | updateXRPLToken => simp [execute, updateXRPLToken]
  | updateCosmosToken => simp [execute, updateCosmosToken]
  | claimRefund => simp [execute, claimPendingRefund]
  | claimRelayerFees => simp [execute, claimRelayerFees]
  | haltBridge => simp [execute, haltBridge]
  | resumeBridge => simp [execute, resumeBridge]
  | rotateKeys => simp [execute, rotateKeys]
  | updateProhibitedXRPLAddresses addresses =>
    have hfold := not_panics_foldlM (f := addProhibitedAddress H)
      (fun _ _ => by simp [addProhibitedAddress, validateXRPLAddressFormat]) addresses
    simp [execute, updateProhibitedXRPLAddresses, hfold]
  | updateUsedTicketSequenceThreshold => simp [execute, updateUsedTicketSequenceThreshold]
  | saveEvidence | sendToXRPL | updateXRPLBaseFee | cancelPendingOperation | addRateLimit | removeRateLimit
  | resetRateLimitQuota => cases h

/-- An operation is cancelled, or it is refused that it be. -/
theorem not_panics_cancel (hc : s.Covered bridge) : ¬ Panics (cancelPendingOperation H s sender k) := by
  simp only [cancelPendingOperation, panics_bind, not_panics_checkAuthorization, checkOperationExists,
    not_panics_orFail, orFail_eq_ok, not_panics_pure, and_false, exists_false, or_false, false_or, not_exists, not_and]
  intro _ _ o ho
  have hcovers : s.registry.Covers bridge o.operationType := hc k o.entry (by simp [ho])
  obtain ⟨x, hx⟩ : ∃ x, runHandler s o (cancelResult o.operationType) .invalid none k s.config.tokenFactoryAddr
      H.contract Response.new = .ok x := by
    refine runHandler_ok ho hcovers fun hall => ?_
    obtain ⟨n, hn⟩ := OperationType.isAllocation_iff.mp hall
    rw [hn]
    exact ⟨none, rfl, fun hacc => by cases hacc⟩
  exact not_panics_of_ok (bind_eq_ok.mpr ⟨x, hx, rfl⟩)

theorem checkAuthorization_owner_iff {action : ContractActions} {u : Unit}
    (howner : UserType.owner.isAuthorized action = true) (hrelayer : UserType.relayer.isAuthorized action = false) :
    checkAuthorization s sender action = .ok u ↔ isOwner s sender = true :=
  ⟨isOwner_of_checkAuthorization hrelayer, checkAuthorization_owner howner⟩

/-- A new fee is one version more for each pending operation; a version is a `u64`. -/
theorem panics_updateXRPLBaseFee {fee : ℕ} :
    Panics (updateXRPLBaseFee s sender fee) ↔
      isOwner s sender = true ∧
        ∃ (k : ℕ) (o : Operation), s.pendingOperations[k]? = some o ∧ u64Bound ≤ o.version + 1 := by
  have hall : (s.pendingOperations.toList.all fun o => o.2.version + 1 < u64Bound) = false ↔
      ∃ (k : ℕ) (o : Operation), s.pendingOperations[k]? = some o ∧ u64Bound ≤ o.version + 1 := by
    simp only [List.all_eq_false, Prod.exists, ExtTreeMap.mem_toList_iff_getElem?_eq_some, decide_eq_true_eq, Nat.not_lt]
  have hauth : ∀ u, checkAuthorization s sender .updateXRPLBaseFee = .ok u ↔ isOwner s sender = true :=
    fun _ => checkAuthorization_owner_iff rfl rfl
  simp only [updateXRPLBaseFee, panics_bind, not_panics_checkAuthorization, hauth, panics_unwrap, not_panics_pure,
    and_false, exists_false, or_false, false_or, exists_const, ite_eq_right_iff, reduceCtorEq, imp_false, Bool.not_eq_true, hall]

/-- The rate limiter is used without asking whether there is one. -/
theorem panics_executeRateLimit {action : ContractActions} {m : RateLimitMsg}
    (howner : UserType.owner.isAuthorized action = true) (hrelayer : UserType.relayer.isAuthorized action = false) :
    Panics (executeRateLimit s sender action m) ↔ isOwner s sender = true ∧ s.config.rateLimitAddr = none := by
  simp only [executeRateLimit, panics_bind, not_panics_checkAuthorization, checkAuthorization_owner_iff howner hrelayer,
    panics_unwrap, not_panics_pure, and_false, exists_false, or_false, false_or, exists_const]

end Calls

/-! ### Results -/

section Results

variable {e : ResultEvidence} {reached : Bool} {response : Response}

/-- The tickets that have been used, once the result has ended the operation. -/
def Contract.Storage.usedAfter (s : Storage) (k : ℕ) (o : Operation) (e : ResultEvidence) : ℕ :=
  (s.books.finish k o.operationType e.transactionResult e.tickets e.ticketSequence).used

/-- An operation ends without a panic, unless the counter of used tickets is exhausted. -/
theorem panics_completion (ho : s.pendingOperations[k]? = some o) (hc : s.registry.Covers bridge o.operationType)
    (hvalid : (Evidence.xrplTransactionResult e).validateBasic = .ok ()) :
    Panics (completeOperation H s env e k o response) ↔
      (o.operationType.isAllocation = true → e.operationResult.isSome = true) ∧ e.transactionResult ≠ .invalid ∧
        e.ticketSequence.isSome = true ∧ u32Bound ≤ s.usedAfter k o e + 1 := by
  by_cases hall : o.operationType.isAllocation = true → e.operationResult.isSome = true
  · have hresult : o.operationType.isAllocation = true → ∃ tickets,
        e.operationResult = some (.ticketsAllocation tickets) ∧
          (e.transactionResult = .accepted → tickets.isSome = true) := by
      intro hallocation
      obtain ⟨⟨tickets⟩, hres⟩ := Option.isSome_iff_exists.mp (hall hallocation)
      have hlisted := (validateBasic_result hvalid).2.2.2 tickets hres
      refine ⟨tickets, hres, fun hacc => ?_⟩
      rw [if_pos hacc] at hlisted
      obtain ⟨ts, rfl, -⟩ := hlisted
      rfl
    obtain ⟨⟨s₁, r₁, msgs⟩, hrun⟩ : ∃ x, runHandler s o e.operationResult e.transactionResult e.txHash k
        s.config.tokenFactoryAddr H.contract response = .ok x := runHandler_ok ho hc hresult
    obtain ⟨_, -, hhandled⟩ := handled_of_ok ho hrun
    have hused : (endOperation s₁ e.transactionResult k e.ticketSequence).usedTicketsCounter = s.usedAfter k o e :=
      congrArg Books.used (hhandled.finish k e.ticketSequence)
    have hhandle : handleOperation s o e.operationResult e.transactionResult e.txHash k e.ticketSequence
        s.config.tokenFactoryAddr H.contract response =
          .ok (endOperation s₁ e.transactionResult k e.ticketSequence, r₁, msgs) := bind_eq_ok.mpr ⟨_, hrun, rfl⟩
    simp only [completeOperation, hhandle, panics_bind, not_panics_ok, not_panics_pure, and_false, exists_false,
      or_false, false_or, Except.ok.injEq, exists_eq_left']
    unfold registerTicketOf
    split_ifs with hcond
    · rw [panics_registerUsedTicket, hused]
      exact ⟨fun hfull => ⟨hall, hcond.1, hcond.2, hfull⟩, fun h => h.2.2.2⟩
    · exact iff_of_false not_panics_ok fun h => hcond ⟨h.2.1, h.2.2.1⟩
  · refine iff_of_false ?_ fun h => hall h.1
    -- an allocation without its result is refused
    obtain ⟨hallocation, hnone⟩ := Classical.not_imp.mp hall
    obtain ⟨n, hn⟩ := OperationType.isAllocation_iff.mp hallocation
    rw [Option.not_isSome_iff_eq_none] at hnone
    simp [completeOperation, handleOperation, runHandler, hn, hnone]

theorem panics_saveResult (hc : s.Covered bridge)
    (hvalid : (Evidence.xrplTransactionResult e).validateBasic = .ok ()) :
    Panics (saveResultEvidence H s env e reached response) ↔
      ∃ (k : ℕ) (o : Operation), e.operationId = some k ∧ s.pendingOperations[k]? = some o ∧
        checkSequenceKind o.operationType e = .ok () ∧ reached = true ∧
        (o.operationType.isAllocation = true → e.operationResult.isSome = true) ∧ e.transactionResult ≠ .invalid ∧
        e.ticketSequence.isSome = true ∧ u32Bound ≤ s.usedAfter k o e + 1 := by
  obtain ⟨k, hk⟩ : ∃ k, e.operationId = some k := by
    have hkind := (validateBasic_result hvalid).1
    unfold ResultEvidence.operationId
    cases ha : e.accountSequence <;> cases ht : e.ticketSequence <;> simp [ha, ht] at hkind ⊢
  cases ho : s.pendingOperations[k]? with
  | none => simp [saveResultEvidence, hk, ho, checkOperationExists, orFail]
  | some o =>
    have hcovers : s.registry.Covers bridge o.operationType := hc k o.entry (by simp [ho])
    have hresult : Panics (saveResultEvidence H s env e reached response) ↔
        checkSequenceKind o.operationType e = .ok () ∧ reached = true ∧
          (o.operationType.isAllocation = true → e.operationResult.isSome = true) ∧ e.transactionResult ≠ .invalid ∧
          e.ticketSequence.isSome = true ∧ u32Bound ≤ s.usedAfter k o e + 1 := by
      simp only [saveResultEvidence, panics_bind, panics_unwrap, hk, unwrap_eq_ok, not_panics_orFail,
        checkOperationExists, orFail_eq_ok, ho, not_panics_checkSequenceKind, not_panics_pure, and_false, exists_false,
        or_false, false_or, Option.some.injEq, exists_eq_left', reduceCtorEq]
      cases reached with
      | false => simp
      | true =>
        simp only [if_true, panics_completion ho hcovers hvalid, true_and]
        constructor
        · rintro ⟨_, hkind, h⟩
          exact ⟨hkind, h⟩
        · rintro ⟨hkind, h⟩
          exact ⟨(), hkind, h⟩
    constructor
    · intro hpanics
      exact ⟨k, o, hk, ho, hresult.mp hpanics⟩
    · rintro ⟨k', o', hk', ho', h⟩
      cases hk.symm.trans hk'
      cases ho.symm.trans ho'
      exact hresult.mpr h

theorem panics_settled (hc : s.Covered bridge) :
    Panics (execute H s q env sender funds (.saveEvidence (.xrplTransactionResult e))) ↔
      ∃ (k : ℕ) (o : Operation), Counts H s sender (.xrplTransactionResult e) ∧ e.operationId = some k ∧
        s.pendingOperations[k]? = some o ∧ checkSequenceKind o.operationType e = .ok () ∧
        s.reaches H (.xrplTransactionResult e) = true ∧
        (o.operationType.isAllocation = true → e.operationResult.isSome = true) ∧ e.transactionResult ≠ .invalid ∧
        e.ticketSequence.isSome = true ∧ u32Bound ≤ s.usedAfter k o e + 1 := by
  apply panics_counted.trans
  have hresult : ∀ s₁ reached, (Evidence.xrplTransactionResult e).validateBasic = .ok () →
      Votes H s sender (.xrplTransactionResult e) s₁ reached → ∀ r,
      (Panics (saveResultEvidence H s₁ env e reached r) ↔
        ∃ (k : ℕ) (o : Operation), e.operationId = some k ∧ s.pendingOperations[k]? = some o ∧
          checkSequenceKind o.operationType e = .ok () ∧ reached = true ∧
          (o.operationType.isAllocation = true → e.operationResult.isSome = true) ∧ e.transactionResult ≠ .invalid ∧
          e.ticketSequence.isSome = true ∧ u32Bound ≤ s.usedAfter k o e + 1) := by
    intro s₁ reached hvalid hv r
    obtain ⟨_, _, rfl⟩ := hv.frame
    exact panics_saveResult hc hvalid
  constructor
  · rintro ⟨hcounts, s₁, hs₁, hpanics⟩
    obtain ⟨k, o, h⟩ := (hresult _ _ hcounts.valid (votes_of_ok hs₁) _).mp hpanics
    exact ⟨k, o, hcounts, h⟩
  · rintro ⟨k, o, hcounts, h⟩
    obtain ⟨s₁, hs₁⟩ := handleEvidence_ok hcounts.fresh hcounts.new
    exact ⟨hcounts, s₁, hs₁, (hresult _ _ hcounts.valid (votes_of_ok hs₁) _).mpr ⟨k, o, h⟩⟩

end Results

/-! ### Every call -/

/-- A message about the limits of the rate limiter. -/
def Contract.ExecuteMsg.isRateLimit : ExecuteMsg → Bool
  | .addRateLimit _ _ | .removeRateLimit _ | .resetRateLimitQuota _ _ => true
  | _ => false

/-- The calls that abort. -/
inductive Aborts (H : Host) (s : Storage) (q : Querier) (sender : Addr) (funds : List Coin) : ExecuteMsg → Prop
  /-- A transfer to XRPL overflows. -/
  | send {recipient : String} {deliver : Option ℕ}
      (overflows : Overflows H s q sender funds (.sendToXRPL recipient deliver)) :
      Aborts H s q sender funds (.sendToXRPL recipient deliver)
  /-- A transfer from XRPL overflows. -/
  | receive {e : TransferEvidence} (overflows : Overflows H s q sender funds (.saveEvidence (.xrplToCosmosTransfer e))) :
      Aborts H s q sender funds (.saveEvidence (.xrplToCosmosTransfer e))
  /-- The vote that settles a transaction uses up one ticket more than can be counted. -/
  | settle {e : ResultEvidence} {k : ℕ} {o : Operation} (counts : Counts H s sender (.xrplTransactionResult e))
      (named : e.operationId = some k) (pending : s.pendingOperations[k]? = some o)
      (kind : checkSequenceKind o.operationType e = .ok ())
      (reached : s.reaches H (.xrplTransactionResult e) = true)
      (result : o.operationType.isAllocation = true → e.operationResult.isSome = true)
      (executed : e.transactionResult ≠ .invalid) (ticketed : e.ticketSequence.isSome = true)
      (exhausted : u32Bound ≤ s.usedAfter k o e + 1) :
      Aborts H s q sender funds (.saveEvidence (.xrplTransactionResult e))
  /-- The owner sets a new fee, and a pending operation has the last version. -/
  | reprice {fee k : ℕ} {o : Operation} (owner : isOwner s sender = true)
      (pending : s.pendingOperations[k]? = some o) (last : u64Bound ≤ o.version + 1) :
      Aborts H s q sender funds (.updateXRPLBaseFee fee)
  /-- The owner sets a limit on a bridge without a rate limiter. -/
  | limit {msg : ExecuteMsg} (owner : isOwner s sender = true) (limits : msg.isRateLimit = true)
      (unlimited : s.config.rateLimitAddr = none) : Aborts H s q sender funds msg

theorem aborts_of_checked (h : msg.isChecked = true) : ¬ Aborts H s q sender funds msg := by
  intro haborts
  cases haborts with
  | limit _ hlimits => cases msg <;> simp [ExecuteMsg.isChecked, ExecuteMsg.isRateLimit] at h hlimits
  | _ => cases h

/-- A message to the rate limiter aborts if there is none. -/
theorem aborts_rateLimit (h : msg.isRateLimit = true) :
    Aborts H s q sender funds msg ↔ isOwner s sender = true ∧ s.config.rateLimitAddr = none := by
  constructor
  · intro haborts
    cases haborts with
    | limit howner _ hnone => exact ⟨howner, hnone⟩
    | _ => cases h
  · rintro ⟨howner, hnone⟩
    exact .limit howner h hnone

/-- The amounts of a call are `u128`s. -/
structure Uint128 (funds : List Coin) (msg : ExecuteMsg) : Prop where
  funds : ∀ c ∈ funds, c.amount < u128Bound
  received : ∀ e, msg = .saveEvidence (.xrplToCosmosTransfer e) → e.amount < u128Bound

theorem panics_iff (hd : H.Digests) (hr : InRange s) (hc : s.Covered bridge) (hu : Uint128 funds msg) :
    Panics (execute H s q env sender funds msg) ↔ Aborts H s q sender funds msg := by
  by_cases hchecked : msg.isChecked = true
  · exact iff_of_false (not_panics_checked hd hchecked) (aborts_of_checked hchecked)
  cases msg with
  | sendToXRPL recipient deliver =>
    refine (panics_execute hr hc (.send hu.funds)).trans ⟨.send, fun h => ?_⟩
    cases h with
    | send hover => exact hover
    | limit _ hlimits => cases hlimits
  | saveEvidence evidence =>
    cases evidence with
    | xrplToCosmosTransfer e =>
      refine (panics_execute hr hc (.receive (hu.received e rfl))).trans ⟨.receive, fun h => ?_⟩
      cases h with
      | receive hover => exact hover
      | limit _ hlimits => cases hlimits
    | xrplTransactionResult e =>
      refine (panics_settled hc).trans ⟨?_, fun h => ?_⟩
      · rintro ⟨k, o, hcounts, hk, ho, hkind, hreached, hresult, hexecuted, hticketed, hfull⟩
        exact .settle hcounts hk ho hkind hreached hresult hexecuted hticketed hfull
      · cases h with
        | settle hcounts hk ho hkind hreached hresult hexecuted hticketed hfull =>
          exact ⟨_, _, hcounts, hk, ho, hkind, hreached, hresult, hexecuted, hticketed, hfull⟩
        | limit _ hlimits => cases hlimits
  | updateXRPLBaseFee fee =>
    refine panics_updateXRPLBaseFee.trans ⟨?_, fun h => ?_⟩
    · rintro ⟨howner, k, o, ho, hlast⟩
      exact .reprice howner ho hlast
    · cases h with
      | reprice howner ho hlast => exact ⟨howner, _, _, ho, hlast⟩
      | limit _ hlimits => cases hlimits
  | cancelPendingOperation k =>
    refine iff_of_false (not_panics_cancel hc) fun h => ?_
    cases h with
    | limit _ hlimits => cases hlimits
  | addRateLimit => exact (panics_executeRateLimit rfl rfl).trans (aborts_rateLimit rfl).symm
  | removeRateLimit => exact (panics_executeRateLimit rfl rfl).trans (aborts_rateLimit rfl).symm
  | resetRateLimitQuota => exact (panics_executeRateLimit rfl rfl).trans (aborts_rateLimit rfl).symm
  | _ => exact absurd rfl hchecked

/-- **What aborts.** In every state that a run reaches a call panics in the cases of `Aborts`, and in no others. -/
theorem aborts_iff (hd : H.Digests) (h : Started H w) (calls : List Call) (hu : Uint128 funds msg) :
    execute H (run (step H) w calls).store q env sender funds msg = .error .panic ↔
      Aborts H (run (step H) w calls).store q sender funds msg :=
  panics_iff hd (run_inRange h calls) (run_registered h calls).covered hu

open Reference in
/-- The owner removes a limit, on a bridge that was set up without a rate limiter. -/
theorem aborts_iff_limit :
    let s := (run (step host) world₁ [recover]).store
    execute host s world₁.bank.querier ⟨2, 0⟩ owner [] (.removeRateLimit xrpDenom) = .error .panic ∧
      Aborts host s world₁.bank.querier owner [] (.removeRateLimit xrpDenom) := by
  have hlimit : isOwner (run (step host) world₁ [recover]).store owner = true ∧
      (run (step host) world₁ [recover]).store.config.rateLimitAddr = none := by
    decide +kernel
  have haborts : Aborts host (run (step host) world₁ [recover]).store world₁.bank.querier owner []
      (.removeRateLimit xrpDenom) := .limit hlimit.1 rfl hlimit.2
  exact ⟨(aborts_iff digests_host started_world₁ [recover] ⟨by decide, fun _ h => by cases h⟩).mpr haborts, haborts⟩

end XrplBridge
