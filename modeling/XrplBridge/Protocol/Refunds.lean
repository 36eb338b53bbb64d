import Mathlib.Data.Multiset.Filter
import XrplBridge.Protocol.Operations
import XrplBridge.Reference

/-!
# Refunds

A refund is kept under its owner and the identity of the operation that failed, which is made
of the second the operation was created in and its number. An operation that is invalid or
cancelled gives its ticket back, so a number can be used again within the same second, and the
refund of the second operation overwrites that of the first (`refund_overwritten`).

As long as no operation is created under an identity that its sender has a refund for, no
refund is ever lost (`refunds_kept`): identities of pending operations are apart from each
other, as their numbers are, and apart from those of their senders' refunds (`Unrefunded`).
-/

namespace XrplBridge

open Library Contract Std

/-- The key of the refund of an operation, should it fail. -/
def Contract.Operation.refundKey (o : Operation) : Option RefundKey :=
  o.operationType.sender.map fun a => RefundKey.mk a o.id

/-- The key of the refund of the operation that a call creates. -/
def newRefundKey (s : Storage) (c : Call) : Option RefundKey :=
  match c.msg with
  | .sendToXRPL _ _ =>
    s.availableTickets.head?.map fun t => RefundKey.mk c.sender (toString c.env.seconds ++ "-" ++ toString t)
  | _ => none

/-- A call creates an operation under an identity that its sender already has a refund for. -/
def collides (s : Storage) (c : Call) : Bool := (newRefundKey s c).any fun key => s.pendingRefunds.contains key

/-- The coins that are kept for a user. -/
def Contract.Storage.refundsOf (s : Storage) (user : Addr) : Multiset Coin :=
  (s.pendingRefunds.toList.filter fun e => e.1.address = user).map fun e => e.2.coin

/-- The coin that a transfer carries: of a token of XRPL what the sender has been charged, of a token of Cosmos
the same in the decimals it has there. -/
def Contract.Storage.carriedCoin (s : Storage) : OperationType → Option Coin
  | .cosmosToXRPLTransfer issuer currency amount maxAmount _ _ =>
    match s.xrplTokens.primary[buildXRPLTokenKey issuer currency]? with
    | some token => some ⟨token.cosmosDenom, maxAmount.getD amount⟩
    | none => (s.cosmosTokens.item currency).map fun item =>
        ⟨item.2.denom, fromXRPLDecimals item.2.decimals (maxAmount.getD amount)⟩
  | _ => none

/-! ### What a call does to the refunds -/

/-- A call stores the refund of an operation that it ends, or pays one out, or leaves them all. -/
inductive Refunding (H : Host) (s s' : Storage) (sender : Addr) : ExecuteMsg → List SubMsg → Prop
  | kept {msg : ExecuteMsg} {ms : List SubMsg} (same : s'.pendingRefunds = s.pendingRefunds)
      (notFailed : ∀ k o result a, ended H s msg = some (k, o, result) → o.operationType.sender = some a →
        result = .accepted) : Refunding H s s' sender msg ms
  | stored {msg : ExecuteMsg} {ms : List SubMsg} {k : ℕ} {o : Operation} {result : TransactionResult} {a : Addr}
      {txHash : Option String} {coin : Coin} (ends : ended H s msg = some (k, o, result))
      (failed : result ≠ .accepted) (owner : o.operationType.sender = some a)
      (refunded : s'.pendingRefunds = s.pendingRefunds.insert ⟨a, o.id⟩ ⟨a, o.id, txHash, coin⟩)
      (carried : s.carriedCoin o.operationType = some coin) :
      Refunding H s s' sender msg ms
  | claimed {id : String} {refund : PendingRefund} (active : s.config.bridgeState = .active)
      (pending : s.pendingRefunds[RefundKey.mk sender id]? = some refund)
      (paid : s'.pendingRefunds = s.pendingRefunds.erase ⟨sender, id⟩) :
      Refunding H s s' sender (.claimRefund id) (plain [.bankSend sender [refund.coin]])

variable {H : Host} {s s' s₁ : Storage} {k : ℕ} {o : Operation} {w : World}

theorem Contract.Votes.pendingRefunds {sender : Addr} {e : Evidence} {reached : Bool}
    (h : Votes H s sender e s' reached) : s'.pendingRefunds = s.pendingRefunds := by
  cases h <;> rfl

theorem Contract.Votes.carriedCoin {sender : Addr} {e : Evidence} {reached : Bool}
    (h : Votes H s sender e s' reached) : s'.carriedCoin = s.carriedCoin := by
  obtain ⟨_, _, rfl⟩ := h.frame
  rfl

theorem endOperation_pendingRefunds (s : Storage) (result : TransactionResult) (k : ℕ) (ticket : Option ℕ) :
    (endOperation s result k ticket).pendingRefunds = s.pendingRefunds := by
  obtain ⟨_, hend⟩ := endOperation_frame s result k ticket
  rw [hend]

theorem Contract.Settles.pendingRefunds {env : BlockInfo} {e : ResultEvidence} (h : Settles s env e k s') :
    s'.pendingRefunds = s.pendingRefunds := by
  cases h with
  | registered _ _ hr =>
    rw [← endOperation_pendingRefunds s e.transactionResult k e.ticketSequence]
    cases hr <;> rfl
  | unregistered => exact endOperation_pendingRefunds ..

theorem Contract.Opens.pendingRefunds {timestamp : ℕ} {operationType : OperationType}
    (h : Opens s timestamp operationType s') : s'.pendingRefunds = s.pendingRefunds := by
  cases h; rfl

theorem handleFeeCollection_pendingRefunds {bridgingFee remainder fee : ℕ} {denom : String}
    (h : handleFeeCollection s bridgingFee denom remainder = .ok (s', fee)) :
    s'.pendingRefunds = s.pendingRefunds := by
  obtain ⟨⟨_, _, rfl⟩, -⟩ := handleFeeCollection_eq_ok h
  rfl

/-- The end of a transfer that failed stores its refund; no other end does. -/
theorem Contract.Handled.refunding {operationResult : Option OperationResult} {result : TransactionResult}
    {txHash : Option String} {tokenFactoryAddr burnAddr sender : Addr} {msg : ExecuteMsg} {msgs : List CosmosMsg}
    {ms : List SubMsg} (h : Handled s o operationResult result txHash tokenFactoryAddr burnAddr s₁ msgs)
    (hold : s.pendingRefunds = s'.pendingRefunds) (hcarried : s.carriedCoin = s'.carriedCoin)
    (hends : ended H s' msg = some (k, o, result)) {s₂ : Storage} (hnew : s₂.pendingRefunds = s₁.pendingRefunds) : Refunding H s' s₂ sender msg ms := by
  have hkept : s₂.pendingRefunds = s'.pendingRefunds → (o.operationType.sender = none ∨ result = .accepted) →
      Refunding H s' s₂ sender msg ms := fun hsame hor => by
    refine .kept hsame fun k' o' result' a he ha => ?_
    rw [hends, Option.some.injEq, Prod.mk.injEq, Prod.mk.injEq] at he
    obtain ⟨-, rfl, rfl⟩ := he
    exact hor.resolve_left fun hn => by rw [hn] at ha; cases ha
  have hstored : ∀ {a txHash coin}, o.operationType.sender = some a → result ≠ .accepted →
      s₁.pendingRefunds = s.pendingRefunds.insert ⟨a, o.id⟩ ⟨a, o.id, txHash, coin⟩ →
        s.carriedCoin o.operationType = some coin → Refunding H s' s₂ sender msg ms := fun ha hf hs hc =>
    .stored hends hf ha (hnew.trans (hold ▸ hs)) (hcarried ▸ hc)
  cases h with
  | allocated ht => exact hkept (hnew.trans hold) (.inl (by rw [ht]; rfl))
  | notAllocated ht => exact hkept (hnew.trans hold) (.inl (by rw [ht]; rfl))
  | trustSet ht => exact hkept (hnew.trans hold) (.inl (by rw [ht]; rfl))
  | rotated ht => exact hkept (hnew.trans hold) (.inl (by rw [ht]; rfl))
  | notRotated ht => exact hkept (hnew.trans hold) (.inl (by rw [ht]; rfl))
  | burnt _ _ ha => exact hkept (hnew.trans hold) (.inr ha)
  | escrowed _ _ ha => exact hkept (hnew.trans hold) (.inr ha)
  | refunded ht hr hf => exact hstored (by rw [ht]; rfl) hf rfl (by rw [ht, Storage.carriedCoin, hr])
  | released ht hno hr hf hconverted =>
    refine hstored (by rw [ht]; rfl) hf rfl ?_
    rw [ht, Storage.carriedCoin, hno, convertAmountDecimals_fromXRPL hconverted]
    simp [hr]

theorem Contract.Effect.refunding {q : Querier} {env : BlockInfo} {sender : Addr} {funds : List Coin}
    {msg : ExecuteMsg} {ms : List SubMsg} (h : Effect H s q env sender funds msg s' ms) :
    Refunding H s s' sender msg ms := by
  have hkept : ∀ {msg ms}, s'.pendingRefunds = s.pendingRefunds → ended H s msg = none →
      Refunding H s s' sender msg ms := fun hsame hno => .kept hsame (by simp [hno])
  cases h with
  | voted _ hv => exact hkept hv.pendingRefunds (ended_of_not_reaches hv.reaches)
  | receivedXRPL _ hv _ _ _ hc => exact hkept ((handleFeeCollection_pendingRefunds hc).trans hv.pendingRefunds) rfl
  | receivedCosmos _ hv _ _ _ hc => exact hkept ((handleFeeCollection_pendingRefunds hc).trans hv.pendingRefunds) rfl
  | completed _ _ hv hid ho _ hh hset =>
    exact hh.refunding hv.pendingRefunds hv.carriedCoin (ended_of_reaches hv.reaches hid ho) hset.pendingRefunds
  | cancelled ho hh => exact hh.refunding rfl rfl (ended_cancelled ho) (endOperation_pendingRefunds ..)
  | sentXRPL _ _ _ hc ho => exact hkept (ho.pendingRefunds.trans (handleFeeCollection_pendingRefunds hc)) rfl
  | sentCosmos _ _ _ _ _ _ hc ho => exact hkept (ho.pendingRefunds.trans (handleFeeCollection_pendingRefunds hc)) rfl
  | registeredXRPL _ _ _ _ _ ho => exact hkept ho.pendingRefunds rfl
  | recoveredXRPL _ _ ho => exact hkept ho.pendingRefunds rfl
  | rotating _ _ ho => exact hkept ho.pendingRefunds rfl
  | claimedFees _ ht =>
    obtain ⟨⟨_, rfl⟩, -⟩ := substractRelayerFees_eq_ok ht
    exact hkept rfl rfl
  | claimedRefund ha hp => exact .claimed ha hp rfl
  | _ => exact hkept rfl rfl

/-- Refunds are stored under their owner and identity. -/
theorem Refunding.owned {sender : Addr} {msg : ExecuteMsg} {ms : List SubMsg} (h : Refunding H s s' sender msg ms)
    (howned : ∀ (key : RefundKey) (refund : PendingRefund), s.pendingRefunds[key]? = some refund →
      key = ⟨refund.address, refund.id⟩) (key : RefundKey) (refund : PendingRefund)
    (hrefund : s'.pendingRefunds[key]? = some refund) : key = ⟨refund.address, refund.id⟩ := by
  cases h with
  | kept hsame => exact howned _ _ (hsame ▸ hrefund)
  | stored _ _ _ hs =>
    rw [hs] at hrefund
    rcases getElem?_of_insert hrefund with ⟨rfl, rfl⟩ | ⟨-, hold⟩
    · rfl
    · exact howned _ _ hold
  | claimed _ _ hs => exact howned _ _ (getElem?_of_erase (hs ▸ hrefund)).2

/-! ### Identities -/

/-- The identity of an operation says its number. -/
theorem number_of_identity {t₁ t₂ k₁ k₂ : ℕ}
    (h : toString t₁ ++ "-" ++ toString k₁ = toString t₂ ++ "-" ++ toString k₂) : k₁ = k₂ := by
  have hno : ∀ n : ℕ, '-' ∉ (toString n).toList := fun n hn => by
    rw [Nat.toString_eq_repr, Nat.toList_repr] at hn
    have := Nat.isDigit_of_mem_toDigits (by decide) (by decide) hn
    cases this
  have hlist := congrArg String.toList h
  simp only [String.toList_append, List.append_assoc] at hlist
  have hdigits := congrArg (fun cs => Nat.ofDigitChars 10 cs 0)
    ((List.append_cons_inj_of_notMem (hno t₁) (hno k₁)).mp hlist).2.2
  simpa using hdigits

/-- The pending operations have identities of their own, under which their senders have no
refund; a refund is kept under its owner and identity. -/
structure Unrefunded (s : Storage) : Prop where
  identity : ∀ (k : ℕ) (o : Operation), s.pendingOperations[k]? = some o →
    ∃ t : ℕ, o.id = toString t ++ "-" ++ toString k
  free : ∀ (k : ℕ) (o : Operation) (key : RefundKey), s.pendingOperations[k]? = some o → o.refundKey = some key →
    s.pendingRefunds[key]? = none
  owned : ∀ (key : RefundKey) (refund : PendingRefund), s.pendingRefunds[key]? = some refund →
    key = ⟨refund.address, refund.id⟩

theorem refundKey_eq_some {key : RefundKey} :
    o.refundKey = some key ↔ ∃ a, o.operationType.sender = some a ∧ key = ⟨a, o.id⟩ := by
  simp [Operation.refundKey, eq_comm]

/-- What a call stores, pays out or leaves is apart from what it leaves pending. -/
theorem Unrefunded.free_step {c : Call} {ms : List SubMsg} {o₀ : Operation} {key : RefundKey} (h : Unrefunded s)
    (hr : Refunding H s s' c.sender c.msg ms) (hold : s.pendingOperations[k]? = some o₀)
    (hkey : o₀.refundKey = some key) (hstays : ∀ o' result, ended H s c.msg ≠ some (k, o', result)) :
    s'.pendingRefunds[key]? = none := by
  have hfree := h.free k o₀ key hold hkey
  generalize c.msg = msg at hr hstays
  cases hr with
  | kept hsame => rw [hsame, hfree]
  | @stored _ _ k' o' result a _ _ hends _ _ hs =>
    rw [hs, getElem?_insert_ne, hfree]
    rintro rfl
    obtain ⟨a', -, heq⟩ := refundKey_eq_some.mp hkey
    rw [RefundKey.mk.injEq] at heq
    obtain ⟨t, ht⟩ := h.identity k o₀ hold
    obtain ⟨t', ht'⟩ := h.identity k' o' (pending_of_ended hends)
    rw [ht, ht'] at heq
    have hkk := number_of_identity heq.2
    rw [hkk] at hends
    exact hstays _ _ hends
  | claimed _ _ hs =>
    rw [hs, ExtTreeMap.getElem?_erase]
    split_ifs
    · rfl
    · exact hfree

theorem Unrefunded.step {q : Querier} {c : Call} {ms : List SubMsg} (h : Unrefunded s)
    (he : Effect H s q c.env c.sender c.funds c.msg s' ms) (hc : collides s c = false) : Unrefunded s' := by
  have hr := he.refunding
  refine ⟨fun k o ho => ?_, fun k o key ho hkey => ?_, fun key refund hrefund => ?_⟩
  · cases he.origin ho with
    | kept hold hid =>
      obtain ⟨t, ht⟩ := h.identity k _ hold
      exact ⟨t, hid.trans ht⟩
    | created hid => exact ⟨_, hid⟩
  · cases he.origin ho with
    | kept hold hid htype _ hstays =>
      refine h.free_step hr hold ?_ hstays
      rwa [Operation.refundKey, ← hid, ← htype]
    | created hid _ htransfer =>
      -- the operation that is created: its identity is new
      obtain ⟨a, ha, rfl⟩ := refundKey_eq_some.mp hkey
      obtain ⟨rfl, hhead, recipient, deliver, hmsg⟩ := htransfer a ha
      have hnew : newRefundKey s c = some ⟨c.sender, o.id⟩ := by
        rw [newRefundKey, hmsg, hid]
        simp [hhead]
      simp only [collides, hnew, Option.any_some, ExtTreeMap.contains_eq_isSome_getElem?,
        Option.isSome_eq_false_iff, Option.isNone_iff_eq_none] at hc
      rw [hmsg] at hr
      cases hr with
      | kept hsame => rw [hsame, hc]
      | stored hends => cases hends
  · exact hr.owned h.owned key refund hrefund

/-! ### Refunds are kept -/

/-- A refund that is new adds its coin to its owner's. -/
theorem refundsOf_insert {a : Addr} {id : String} {refund : PendingRefund}
    (hnew : s.pendingRefunds[RefundKey.mk a id]? = none)
    (hs : s'.pendingRefunds = s.pendingRefunds.insert ⟨a, id⟩ refund) (user : Addr) :
    s'.refundsOf user = (if user = a then {refund.coin} else 0) + s.refundsOf user := by
  have hperm := toList_insert_perm s.pendingRefunds ⟨a, id⟩ refund
  rw [erase_of_getElem?_none hnew, ← hs] at hperm
  have hmap := (hperm.filter fun e => decide (e.1.address = user)).map fun e => e.2.coin
  apply (Multiset.coe_eq_coe.mpr hmap).trans
  by_cases hu : user = a
  · subst hu
    simp [Storage.refundsOf]
  · simp [Storage.refundsOf, hu, Ne.symm hu]

/-- What a call does to the refunds when none is overwritten. -/
structure RefundsKept (H : Host) (s : Storage) (c : Call) (s' : Storage) (r : Response) : Prop where
  /-- A transfer that fails finds its key free, and adds the coin that it carries to its sender's. -/
  stored : ∀ k o result a, ended H s c.msg = some (k, o, result) → result ≠ .accepted →
    o.operationType.sender = some a → s.pendingRefunds[RefundKey.mk a o.id]? = none ∧
      ∃ refund, s'.pendingRefunds[RefundKey.mk a o.id]? = some refund ∧
        s.carriedCoin o.operationType = some refund.coin ∧
        ∀ user, s'.refundsOf user = (if user = a then {refund.coin} else 0) + s.refundsOf user
  /-- A refund stays as it is until its owner claims it, who is paid then. -/
  kept : ∀ (key : RefundKey) (refund : PendingRefund), s.pendingRefunds[key]? = some refund →
    s'.pendingRefunds[key]? = some refund ∨
      c.sender = refund.address ∧ c.msg = .claimRefund refund.id ∧
        r.messages = plain [.bankSend refund.address [refund.coin]] ∧ s'.pendingRefunds[key]? = none

theorem Unrefunded.refundsKept {q : Querier} {c : Call} {r : Response} (h : Unrefunded s)
    (he : Effect H s q c.env c.sender c.funds c.msg s' r.messages) : RefundsKept H s c s' r := by
  have hr := he.refunding
  refine ⟨fun k o result a hends hf ha => ?_, fun key refund hrefund => ?_⟩
  · have hfree := h.free k o _ (pending_of_ended hends) (refundKey_eq_some.mpr ⟨a, ha, rfl⟩)
    refine ⟨hfree, ?_⟩
    generalize c.msg = msg at hr hends
    generalize r.messages = ms at hr
    cases hr with
    | kept _ hno => exact absurd (hno k o result a hends ha) hf
    | stored hends' _ ha' hs hcarried =>
      rw [hends] at hends'
      cases hends'
      rw [ha] at ha'
      cases ha'
      exact ⟨_, by rw [hs]; exact getElem?_insert_self' _ _ _, hcarried, refundsOf_insert hfree hs⟩
    | claimed => cases hends
  · generalize hmsg : c.msg = msg at hr
    generalize hms : r.messages = ms at hr
    cases hr with
    | kept hsame => exact .inl (hsame ▸ hrefund)
    | stored hends _ ha hs =>
      have hfree := h.free _ _ _ (pending_of_ended hends) (refundKey_eq_some.mpr ⟨_, ha, rfl⟩)
      refine .inl ?_
      rw [hs, getElem?_insert_ne, hrefund]
      rintro rfl
      rw [hfree] at hrefund
      cases hrefund
    | @claimed id refund' _ hp hs =>
      by_cases hkey : RefundKey.mk c.sender id = key
      · subst hkey
        rw [hp] at hrefund
        cases hrefund
        have howned := h.owned _ _ hp
        rw [RefundKey.mk.injEq] at howned
        refine .inr ⟨howned.1, by rw [howned.2], by rw [howned.1], ?_⟩
        rw [hs]
        exact getElem?_erase_self' _ _
      · exact .inl (by rw [hs, getElem?_erase_ne hkey, hrefund])

/-- The owner of a refund can claim it while the bridge is active. -/
theorem claimRefund_ok {q : Querier} {env : BlockInfo} {funds : List Coin} {a : Addr} {id : String}
    {refund : PendingRefund} (hs : s.config.bridgeState = .active)
    (hp : s.pendingRefunds[RefundKey.mk a id]? = some refund) :
    ∃ s' r, execute H s q env a funds (.claimRefund id) = .ok (s', r) ∧
      r.messages = plain [.bankSend a [refund.coin]] :=
  ⟨_, _, bind_eq_ok.mpr ⟨(), failIf_eq_ok.mpr (by simp [hs]), bind_eq_ok.mpr ⟨_, bind_eq_ok.mpr
    ⟨refund, orFail_eq_ok.mpr hp, rfl⟩, rfl⟩⟩, rfl⟩

theorem run_unrefunded (h : Started H w) (calls : List Call)
    (hfresh : ∀ x ∈ history (step H) w calls, collides x.1.store x.2 = false) :
    Unrefunded (run (step H) w calls).store := by
  refine run_invariant_of (I := fun w : World => Unrefunded w.store)
    (p := fun w c => collides w.store c = false) ?_ ?_ calls hfresh
  · obtain ⟨msg, m, -, -, -, -, hs⟩ := started_eq h
    rw [hs]
    exact ⟨by simp [initialStorage], by simp [initialStorage], by simp [initialStorage]⟩
  · intro calls c w' r hold hc hstep
    exact hold.step (run_effect h hstep) hc

/-- **Refunds are kept**, in every run that creates no operation under an identity that its
sender has a refund for: a failed transfer gives back the coin that it carries and overwrites none, each
refund stays until its owner claims it, and the owner can claim it whenever the bridge is active. -/
theorem refunds_kept (h : Started H w) (calls : List Call)
    (hfresh : ∀ x ∈ history (step H) w calls, collides x.1.store x.2 = false) :
    (∀ pre c post w' r, calls = pre ++ c :: post → step H (run (step H) w pre) c = .ok (w', r) →
        RefundsKept H (run (step H) w pre).store c w'.store r) ∧
      ∀ pre post, calls = pre ++ post → (run (step H) w pre).store.config.bridgeState = .active →
        ∀ (key : RefundKey) (refund : PendingRefund), (run (step H) w pre).store.pendingRefunds[key]? = some refund →
          ∀ q env funds, ∃ s' r, execute H (run (step H) w pre).store q env refund.address funds
            (.claimRefund refund.id) = .ok (s', r) ∧ r.messages = plain [.bankSend refund.address [refund.coin]] := by
  have hpre : ∀ pre post, calls = pre ++ post → Unrefunded (run (step H) w pre).store := by
    rintro pre post rfl
    exact run_unrefunded h pre fun x hx => hfresh x (mem_history_append hx post)
  refine ⟨fun pre c post w' r hcalls hstep => (hpre pre _ hcalls).refundsKept (run_effect h hstep), ?_⟩
  intro pre post hcalls hactive key refund hrefund q env funds
  exact claimRefund_ok hactive ((hpre pre _ hcalls).owned key refund hrefund ▸ hrefund)

open Reference in
/-- The refund of a cancelled transfer overwrites none. -/
theorem refunds_kept_cancelled :
    let w := run (step host) world₁ [recover, vote 2 relayer₁ allocation, send 3 5000000]
    ∃ w' r, step host w (cancel 4 1) = .ok (w', r) ∧ RefundsKept host w.store (cancel 4 1) w'.store r := by
  intro w
  obtain ⟨⟨w', r⟩, hstep⟩ := exists_of_isOk (x := step host w (cancel 4 1)) (by decide +kernel)
  exact ⟨w', r, hstep, (refunds_kept started_world₁ [recover, vote 2 relayer₁ allocation, send 3 5000000,
    cancel 4 1] (by decide +kernel)).1 _ _ [] w' r rfl hstep⟩

open Reference in
/-- Two transfers of one second use the ticket 1, as the first is cancelled; cancelling the second
overwrites the refund of the first, whose five XRP are lost. -/
theorem refund_overwritten :
    let w := run (step host) world₁ [recover, vote 2 relayer₁ allocation, send 3 5000000, cancel 3 1, send 3 2000000]
    (ended host w.store (cancel 3 1).msg).any (fun x => x.2.1.refundKey = some ⟨user, "3-1"⟩) = true ∧
      w.store.pendingRefunds[RefundKey.mk user "3-1"]?.isSome = true ∧
      w.store.pendingRefunds.toList.map (fun e => e.2.coin.amount) = [5000000] ∧
      (step host w (cancel 3 1)).isOk = true ∧
      (commit (step host) w (cancel 3 1)).store.pendingRefunds.toList.map (fun e => e.2.coin.amount) = [2000000] := by
  decide +kernel

end XrplBridge
