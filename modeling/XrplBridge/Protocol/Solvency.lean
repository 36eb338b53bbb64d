import XrplBridge.Protocol.Escrow

/-!
# Solvency

What a call pays out and what it comes to owe is covered by what it is paid, mints and owes no
longer (`Effect.backed`). Tokens of Cosmos that are accepted on XRPL stay with the contract, and
are paid out when they come back: as long as no more has come back than was accepted, the
contract holds what it owes, in every run (`solvent`).
-/

namespace XrplBridge

open Library Contract Std

/-- What an evidence brings back of a token of Cosmos, in the decimals of XRPL. -/
def returned (H : Host) (s : Storage) (D : String) : ExecuteMsg → ℕ
  | .saveEvidence (.xrplToCosmosTransfer e) =>
    if s.reaches H (.xrplToCosmosTransfer e) = true ∧ e.issuer = s.config.bridgeXRPLAddress ∧
      (s.cosmosTokens.item e.currency).map Prod.fst = some D then e.amount else 0
  | _ => 0

/-- What an accepted transfer has taken to XRPL of a token of Cosmos, in the decimals of XRPL. -/
def delivered (H : Host) (s : Storage) (D : String) (msg : ExecuteMsg) : ℕ :=
  match ended H s msg with
  | some (_, o, .accepted) => s.carriedCosmos D o.operationType
  | _ => 0

/-- The sum of a measure over the calls of a run. -/
def sumOver (H : Host) (w : World) (calls : List Call) (f : Storage → ExecuteMsg → ℕ) : ℕ :=
  ((history (step H) w calls).map fun x => f x.1.store x.2.msg).sum

variable {H : Host} {s s' s₁ : Storage} {D bridge : String} {k : ℕ} {o : Operation}

theorem delivered_of_ended {msg : ExecuteMsg} {result : TransactionResult} (h : ended H s msg = some (k, o, result)) :
    delivered H s D msg = if result = .accepted then s.carriedCosmos D o.operationType else 0 := by
  unfold delivered
  rw [h]
  cases result <;> rfl

theorem delivered_of_none {msg : ExecuteMsg} (h : ended H s msg = none) : delivered H s D msg = 0 := by
  unfold delivered
  rw [h]

/-! ### One call -/

/-- The end of an operation pays out or comes to owe what it had in escrow; what is accepted of
a token of Cosmos stays. -/
theorem Contract.Handled.backed {operationResult : Option OperationResult} {result : TransactionResult}
    {txHash : Option String} {tokenFactoryAddr burnAddr : Addr} {msgs : List CosmosMsg}
    (h : Handled s o operationResult result txHash tokenFactoryAddr burnAddr s' msgs)
    (hreg : s.registry.Sound H bridge) :
    s'.refundsIn D + flow (CosmosMsg.spends H D) (plain msgs) +
        s.inCosmos D (if result = .accepted then s.carriedCosmos D o.operationType else 0) ≤
      s.refundsIn D + s.escrow D o.operationType := by
  have hstored : ∀ (a : Addr) (coin : Coin),
      (storePendingRefund s o.id txHash a coin).refundsIn D ≤ s.refundsIn D + coinsOf D [coin] := by
    intro a coin
    apply (total_insert_le _ _ _ _).trans
    rw [Nat.add_comm]
    exact Nat.le_refl _
  have hundo : ∀ key amount, flow (CosmosMsg.spends H D) (plain (undoSendMsgs s key amount)) = 0 := fun key amount =>
    (rateLimitOnly_rateLimitMsgs s.config (.undoSend (packet key amount))).flow_eq_zero fun _ _ => rfl
  cases h with
  | allocated htype => simp [htype, Storage.carriedCosmos, Storage.refundsIn]
  | notAllocated _ _ hfailed => simp [hfailed, Storage.refundsIn]
  | trustSet htype => simp [htype, Storage.carriedCosmos, Storage.refundsIn]
  | rotated htype => simp [htype, Storage.carriedCosmos, Storage.refundsIn]
  | notRotated _ hfailed => simp [hfailed, Storage.refundsIn]
  | burnt htype hr hacc =>
    rw [if_pos hacc, htype, (carried_xrpl hr).2, escrow_xrpl hr, inCosmos_zero]
    simp only [flow_plain_cons, flow_plain_nil, tokenFactoryMsg, CosmosMsg.spends, coinsOf_nil, Nat.zero_add,
      Nat.add_zero]
    refine Nat.add_le_add_left ?_ _
    split_ifs with hburn hdenom hdenom
    · exact Nat.le_refl _
    · exact absurd hburn.1 hdenom
    · exact Nat.zero_le _
    · exact Nat.le_refl _
  | refunded htype hr hfailed =>
    rw [if_neg hfailed, htype, escrow_xrpl hr, inCosmos_zero, hundo]
    apply (hstored _ _).trans
    simp
  | escrowed htype hnone hacc =>
    rw [if_pos hacc, htype]
    exact Nat.add_le_add_left (Nat.le_add_left _ _) _
  | @released issuer currency _ maxAmount _ _ denom token back htype hnone hr hfailed hconverted =>
    have hdenom : token.denom = denom :=
      (hreg.cosmosKey _ _ (registry_cosmos (IndexedMap.item_eq_some.mp hr).1)).symm
    rw [if_neg hfailed, htype, escrow_cosmos hnone hr, inCosmos_zero, hundo, hdenom,
      convertAmountDecimals_fromXRPL hconverted]
    apply (hstored _ _).trans
    simp

/-- What the contract owes, with the escrow as it was before a call. -/
def owedAfter (s s' : Storage) (D : String) : ℕ := s'.feesOf D + s'.refundsIn D + s'.pendingTotal (s.escrow D)

theorem feesOf_of_fees (h : s'.fees = s.fees) : s'.feesOf D = s.feesOf D := by
  unfold Storage.feesOf
  rw [show s'.feesCollected = s.feesCollected from congrArg Prod.fst h,
    show s'.feeRemainders = s.feeRemainders from congrArg Prod.snd h]

theorem owedAfter_of_pending (hfees : s'.fees = s.fees) (hrefunds : s'.pendingRefunds = s.pendingRefunds)
    (hpending : s'.pendingTotal (s.escrow D) = s.pendingTotal (s.escrow D)) : owedAfter s s' D = s.owed D := by
  rw [owedAfter, feesOf_of_fees hfees, hpending, Storage.refundsIn, hrefunds]
  rfl

theorem Contract.Votes.owedAfter {sender : Addr} {e : Evidence} {reached : Bool} (h : Votes H s sender e s' reached) :
    XrplBridge.owedAfter s s' D = s.owed D := by
  cases h <;> rfl

theorem handleFeeCollection_owedAfter {bridgingFee remainder fee : ℕ} {denom : String}
    (h : handleFeeCollection s₁ bridgingFee denom remainder = .ok (s', fee)) :
    owedAfter s s' D = owedAfter s s₁ D + if denom = D then bridgingFee + remainder else 0 := by
  obtain ⟨⟨fc, fr, hs⟩, -, hfees⟩ := handleFeeCollection_eq_ok h
  have hadded := hfees D
  have hrefunds : s'.refundsIn D = s₁.refundsIn D := by rw [hs]; rfl
  have hpending : s'.pendingTotal (s.escrow D) = s₁.pendingTotal (s.escrow D) := by rw [hs]; rfl
  unfold owedAfter
  omega

theorem Contract.Opens.owedAfter {timestamp : ℕ} {operationType : OperationType}
    (h : Opens s₁ timestamp operationType s') :
    XrplBridge.owedAfter s s' D = XrplBridge.owedAfter s s₁ D + s.escrow D operationType := by
  have hpending := h.pendingTotal (f := s.escrow D)
  have hfees : s'.feesOf D = s₁.feesOf D := by cases h; rfl
  have hrefunds : s'.refundsIn D = s₁.refundsIn D := by cases h; rfl
  unfold XrplBridge.owedAfter
  omega

/-- The end of an operation, as the contract sees it. -/
theorem Contract.Handled.owedAfter {operationResult : Option OperationResult} {result : TransactionResult}
    {txHash : Option String} {tokenFactoryAddr burnAddr : Addr} {msgs : List CosmosMsg} {s₂ : Storage}
    (h : Handled s₁ o operationResult result txHash tokenFactoryAddr burnAddr s₂ msgs)
    (hreg : s₁.registry.Sound H bridge) (htokens : s₁.tokens = s.tokens) (hsame : XrplBridge.owedAfter s s₁ D = s.owed D)
    (hfees : s'.fees = s₂.fees) (hrefunds : s'.pendingRefunds = s₂.pendingRefunds)
    (hpending : s₂.pendingTotal (s.escrow D) = s.escrow D o.operationType + s'.pendingTotal (s.escrow D)) :
    XrplBridge.owedAfter s s' D + flow (CosmosMsg.spends H D) (plain msgs) +
        s.inCosmos D (if result = .accepted then s.carriedCosmos D o.operationType else 0) ≤ s.owed D := by
  have hbacked := h.backed (D := D) hreg
  have hxrpl : s₁.xrplTokens = s.xrplTokens := congrArg Prod.fst htokens
  have hcosmos : s₁.cosmosTokens = s.cosmosTokens := congrArg Prod.snd htokens
  have hin : ∀ x, s₁.inCosmos D x = s.inCosmos D x := fun x => by unfold Storage.inCosmos; rw [hcosmos]
  have hcarried : ∀ t, s₁.carriedCosmos D t = s.carriedCosmos D t := fun t => by
    unfold Storage.carriedCosmos
    rw [hxrpl, hcosmos]
  rw [hin, hcarried, escrow_of_tokens htokens] at hbacked
  have hfees' : s'.feesOf D = s₁.feesOf D := feesOf_of_fees (hfees.trans h.fees)
  have hrefunds' : s'.refundsIn D = s₂.refundsIn D := by unfold Storage.refundsIn; rw [hrefunds]
  have hpending' : s₂.pendingTotal (s.escrow D) = s₁.pendingTotal (s.escrow D) := by
    unfold Storage.pendingTotal
    rw [h.pendingOperations]
  unfold XrplBridge.owedAfter at hsame ⊢
  omega

/-- **One call is backed**: what it comes to owe and pays out is what it owed, what it is paid and
what it mints; with what stays of an accepted transfer, and what is there for one that comes back. -/
theorem Contract.Effect.backed {q : Querier} {env : BlockInfo} {sender : Addr} {funds : List Coin}
    {msg : ExecuteMsg} {ms : List SubMsg} (h : Effect H s q env sender funds msg s' ms)
    (hb : H.Base58Sized) (hbridge : validateXRPLAddressFormat H bridge = .ok ()) (hreg : Registered H bridge s) :
    owedAfter s s' D + flow (CosmosMsg.spends H D) ms + s.inCosmos D (delivered H s D msg) ≤
      s.owed D + coinsOf D funds + flow (CosmosMsg.brings H D) ms + s.inCosmos D (returned H s D msg) := by
  have hlimited : ∀ {msgs : List CosmosMsg}, RateLimitOnly msgs → flow (CosmosMsg.spends H D) (plain msgs) = 0 :=
    fun h => h.flow_eq_zero fun _ _ => rfl
  have hallocate : ∀ n, s.escrow D (.allocateTickets n) = 0 := fun _ => escrow_of_sender_none rfl
  -- a call that ends nothing, pays out nothing, and leaves what is owed
  have hquiet : owedAfter s s' D = s.owed D → flow (CosmosMsg.spends H D) ms = 0 → ended H s msg = none →
      owedAfter s s' D + flow (CosmosMsg.spends H D) ms + s.inCosmos D (delivered H s D msg) ≤
        s.owed D + coinsOf D funds + flow (CosmosMsg.brings H D) ms + s.inCosmos D (returned H s D msg) := by
    intro hsame hnone hno
    rw [hsame, hnone, delivered_of_none hno, inCosmos_zero]
    omega
  cases h with
  | voted _ hv => exact hquiet hv.owedAfter rfl (ended_of_not_reaches hv.reaches)
  | @receivedXRPL e _ _ token _ amountToSend remainder _ _ _ hv _ _ _ hc hrecipient hl =>
    have howed := handleFeeCollection_owedAfter (s := s) (D := D) hc
    rw [hv.owedAfter] at howed
    obtain ⟨-, rfl, -⟩ := handleFeeCollection_eq_ok hc
    have hkept := flow_receivedXRPLMsgs (D := D) s.config token.cosmosDenom (e.memo.getD "")
      (token.bridgingFee + remainder) amountToSend hrecipient hl
    rw [hkept, howed, delivered_of_none rfl, inCosmos_zero]
    omega
  | @receivedCosmos e _ _ denom token amountToSend _ _ _ _ hv hown hr hamounts hc _ hl =>
    have howed := handleFeeCollection_owedAfter (s := s) (D := D) hc
    rw [hv.owedAfter] at howed
    obtain ⟨hk, -⟩ := IndexedMap.item_eq_some.mp hr
    have hdenom : token.denom = denom := (hreg.sound.cosmosKey _ _ (registry_cosmos hk)).symm
    rw [flow_receivedCosmosMsgs s.config e.recipient (e.memo.getD "") ⟨token.denom, amountToSend⟩ hl, howed,
      delivered_of_none rfl, inCosmos_zero, hdenom, coinsOf_cons, coinsOf_nil]
    by_cases hD : denom = D
    · subst hD
      have hreturned : returned H s denom (.saveEvidence (.xrplToCosmosTransfer e)) = e.amount := by
        rw [returned, if_pos ⟨hv.reaches, hown, by rw [hr]; rfl⟩]
      have hworth : s.inCosmos denom e.amount = fromXRPLDecimals token.decimals e.amount :=
        inCosmos_of_registered (registry_cosmos hk) _
      rw [hreturned, hworth]
      simp only [if_true]
      omega
    · simp only [hD, if_false]
      omega
  | completed _ _ hv hid ho _ hh hset =>
    rw [delivered_of_ended (ended_of_reaches hv.reaches hid ho)]
    have hpending := hset.pendingTotal (f := s.escrow D) (by rw [hh.pendingOperations, hv.pendingOperations, ho]) hallocate
    have hends := hh.owedAfter (D := D) (hv.registry ▸ hreg.sound) hv.tokens hv.owedAfter hset.fees
      hset.pendingRefunds hpending
    omega
  | @cancelled k o s₁ _ ho hh =>
    rw [delivered_of_ended (ended_cancelled ho)]
    have hpending := endOperation_pendingTotal (f := s.escrow D) .invalid o.ticketSequence
      (show s₁.pendingOperations[k]? = some o by rw [hh.pendingOperations, ho])
    have hends := hh.owedAfter (D := D) hreg.sound rfl rfl (endOperation_fees ..) (endOperation_pendingRefunds ..) hpending
    omega
  | @sentXRPL _ key _ _ coin token _ _ _ _ _ s₁ _ _ hpaid htoken hamounts hc ho hl =>
    obtain ⟨hk, hdenom⟩ := IndexedMap.item_eq_some.mp htoken
    have hkey : key = buildXRPLTokenKey token.issuer token.currency := hreg.sound.xrplKey _ _ (registry_xrpl hk)
    have hopened := ho.owedAfter (s := s) (D := D)
    rw [escrow_xrpl (hkey ▸ hk), handleFeeCollection_owedAfter hc] at hopened
    replace hopened : owedAfter s s' D = s.owed D + _ + _ := hopened
    rw [hopened, hlimited hl, hpaid, delivered_of_none rfl, inCosmos_zero, coinsOf_cons, coinsOf_nil, ← hdenom]
    split_ifs <;> omega
  | @sentCosmos _ coin token _ _ _ s₁ _ _ hpaid hno htoken hamounts _ _ hc ho hl =>
    have hdenom : coin.denom = token.denom := hreg.sound.cosmosKey _ _ (registry_cosmos htoken)
    have hnone : s.xrplTokens.primary[buildXRPLTokenKey bridge token.xrplCurrency]? = none :=
      hreg.xrpl_none hb hbridge (hreg.sound.currency _ _ (registry_cosmos htoken))
    have hitem : s.cosmosTokens.item token.xrplCurrency = some (coin.denom, token) :=
      IndexedMap.item_eq_some.mpr ⟨htoken, rfl⟩
    have hopened := ho.owedAfter (s := s) (D := D)
    rw [hreg.address, escrow_cosmos hnone hitem, handleFeeCollection_owedAfter hc] at hopened
    replace hopened : owedAfter s s' D = s.owed D + _ + _ := hopened
    rw [hopened, hlimited hl, hpaid, delivered_of_none rfl, inCosmos_zero, coinsOf_cons, coinsOf_nil, ← hdenom,
      Option.getD_some]
    split_ifs <;> omega
  | registeredXRPL _ _ _ _ _ ho =>
    have hopened := ho.owedAfter (s := s) (D := D)
    rw [escrow_of_sender_none rfl] at hopened
    replace hopened : owedAfter s s' D = s.owed D := hopened
    rw [hopened, delivered_of_none rfl, inCosmos_zero, flow_plain_cons, flow_plain_nil]
    simp only [createDenomMsg, CosmosMsg.spends]
    omega
  | recoveredXRPL _ _ ho =>
    refine hquiet (ho.owedAfter.trans ?_) rfl rfl
    rw [escrow_of_sender_none rfl]
    rfl
  | rotating _ _ ho =>
    refine hquiet (ho.owedAfter.trans ?_) rfl rfl
    rw [escrow_of_sender_none rfl]
    rfl
  | recovering _ _ _ _ hunused =>
    refine hquiet (owedAfter_of_pending rfl rfl ?_) rfl rfl
    apply (total_insert_new hunused _ _).trans
    exact (congrArg (· + s.pendingTotal (s.escrow D)) (hallocate _)).trans (Nat.zero_add _)
  | signed ho =>
    refine hquiet (owedAfter_of_pending rfl rfl ?_) rfl rfl
    exact Nat.add_right_cancel ((total_insert_old ho _ _).trans (Nat.add_comm _ _))
  | repriced =>
    exact hquiet (owedAfter_of_pending rfl rfl (total_map _ _ _)) rfl rfl
  | @createdToken subdenom subdenom' denom balances =>
    rw [flow_plain_cons, flow_spends_mintMsgs, delivered_of_none rfl, inCosmos_zero]
    simp only [createDenomMsg, CosmosMsg.spends]
    exact (Nat.le_add_right _ _).trans (Nat.le_add_right _ _)
  | @mintedToken denom balances =>
    exact hquiet rfl (flow_spends_mintMsgs s.config denom balances) rfl
  | claimedFees _ ht =>
    obtain ⟨⟨fc, rfl⟩, hfees⟩ := substractRelayerFees_eq_ok ht
    have htaken := hfees D
    have hafter : owedAfter s { s with feesCollected := fc } D = ({ s with feesCollected := fc } : Storage).feesOf D +
        s.refundsIn D + s.pendingTotal (s.escrow D) := rfl
    have howed : s.owed D = s.feesOf D + s.refundsIn D + s.pendingTotal (s.escrow D) := rfl
    rw [flow_plain_cons, flow_plain_nil, hafter, delivered_of_none rfl, inCosmos_zero]
    simp only [CosmosMsg.spends]
    omega
  | @claimedRefund id refund _ hp =>
    have hrefund : s.refundsIn D = coinsOf D [refund.coin] + ({ s with
      pendingRefunds := s.pendingRefunds.erase ⟨sender, id⟩ } : Storage).refundsIn D := total_erase hp _
    have hafter : owedAfter s { s with pendingRefunds := s.pendingRefunds.erase ⟨sender, id⟩ } D = s.feesOf D +
        ({ s with pendingRefunds := s.pendingRefunds.erase ⟨sender, id⟩ } : Storage).refundsIn D +
          s.pendingTotal (s.escrow D) := rfl
    have howed : s.owed D = s.feesOf D + s.refundsIn D + s.pendingTotal (s.escrow D) := rfl
    rw [flow_plain_cons, flow_plain_nil, hafter, delivered_of_none rfl, inCosmos_zero]
    simp only [CosmosMsg.spends]
    omega
  | rateLimitAdded hl => exact hquiet rfl (hlimited hl) rfl
  | rateLimitRemoved hl => exact hquiet rfl (hlimited hl) rfl
  | rateLimitReset hl => exact hquiet rfl (hlimited hl) rfl
  | _ => exact hquiet rfl rfl rfl

/-- What comes back is of a registered token. -/
theorem returned_registered (msg : ExecuteMsg) :
    returned H s D msg = 0 ∨ ∃ n, s.registry.cosmos[D]? = some n := by
  unfold returned
  split
  · split_ifs with h
    · right
      obtain ⟨⟨denom, token⟩, hitem, hD⟩ := Option.map_eq_some_iff.mp h.2.2
      cases hD
      exact ⟨_, registry_cosmos (IndexedMap.item_eq_some.mp hitem).1⟩
    · exact .inl rfl
  · exact .inl rfl

/-- What is delivered is of a registered token, and divides evenly in its decimals. -/
theorem delivered_registered (hb : H.Base58Sized) (hbridge : validateXRPLAddressFormat H bridge = .ok ())
    (hreg : Registered H bridge s) (msg : ExecuteMsg) :
    delivered H s D msg = 0 ∨ ∃ n, s.registry.cosmos[D]? = some n ∧ WholeInCosmos n.decimals (delivered H s D msg) := by
  cases hended : ended H s msg with
  | none => exact .inl (delivered_of_none hended)
  | some x =>
    obtain ⟨k, o, result⟩ := x
    have hcovers : s.registry.Covers bridge o.operationType :=
      hreg.covered k o.entry (by simp [pending_of_ended hended])
    rw [delivered_of_ended hended]
    generalize o.operationType = t at hcovers
    cases hcovers with
    | xrplTransfer hr =>
      obtain ⟨token, htoken, -⟩ := exists_xrplToken hr
      rw [(carried_xrpl htoken).2, ite_self]
      exact .inl rfl
    | @cosmosTransfer n amount _ _ hr _ hwhole =>
      obtain ⟨token, htoken, hname⟩ := exists_cosmosToken hr
      have hitem : s.cosmosTokens.item n.xrplCurrency = some (n.denom, token) :=
        IndexedMap.item_eq_some.mpr ⟨htoken, congrArg CosmosName.xrplCurrency hname⟩
      rw [(carried_cosmos (hreg.xrpl_none hb hbridge (hreg.sound.currency _ _ hr)) hitem).2]
      split_ifs with hacc hD
      · subst hD
        exact .inr ⟨n, hr, hwhole⟩
      · exact .inl rfl
      · exact .inl rfl
    | _ => exact .inl (ite_self _)

/-! ### In every run -/

/-- The contract holds what it owes and what stays of the accepted transfers, but for what has
come back; nothing has gone or come back of a token that is not registered. -/
structure Backed (D : String) (back out : ℕ) (w : World) : Prop where
  holds : w.store.owed D + w.store.inCosmos D out ≤ w.bank.held D + w.store.inCosmos D back
  unknown : w.store.registry.cosmos[D]? = none → back = 0 ∧ out = 0

variable {w w' : World} {c : Call} {r : Response}

theorem Backed.step {back out : ℕ} (h : Backed D back out w) (hb : H.Base58Sized)
    (hbridge : validateXRPLAddressFormat H bridge = .ok ()) (hreg : Registered H bridge w.store)
    (hs : w.store.tempUniversalSwap = none) (hstep : XrplBridge.step H w c = .ok (w', r)) :
    Backed D (back + returned H w.store D c.msg) (out + delivered H w.store D c.msg) w' := by
  obtain ⟨he, hall⟩ := step_eq_ok hs hstep
  have hflow := (deliverAll_eq_some (D := D) hall).2
  have hbacked := he.backed (D := D) hb hbridge hreg
  have howed : w'.store.owed D = owedAfter w.store w'.store D :=
    congrArg (_ + ·) (total_congr fun k o hk => he.escrow_eq hb hbridge hreg hk)
  have hcredit : (w.bank.credit c.funds).held D = w.bank.held D + coinsOf D c.funds := rfl
  rw [hcredit] at hflow
  cases hn : w.store.registry.cosmos[D]? with
  | some n =>
    have hn' : w'.store.registry.cosmos[D]? = some n := he.registry.cosmos_mono hn
    refine ⟨?_, fun hno => by rw [hn'] at hno; cases hno⟩
    have hholds := h.holds
    have hback := fromXRPLDecimals_add_le n.decimals back (returned H w.store D c.msg)
    have hout : fromXRPLDecimals n.decimals (out + delivered H w.store D c.msg) =
        fromXRPLDecimals n.decimals out + fromXRPLDecimals n.decimals (delivered H w.store D c.msg) := by
      rcases delivered_registered (D := D) hb hbridge hreg c.msg with hzero | ⟨n', hr, hwhole⟩
      · rw [hzero, fromXRPLDecimals_zero]
        rfl
      · rw [hn] at hr
        cases hr
        exact fromXRPLDecimals_add hwhole
    rw [inCosmos_of_registered hn, inCosmos_of_registered hn] at hholds hbacked
    rw [inCosmos_of_registered hn', inCosmos_of_registered hn', howed, hout]
    omega
  | none =>
    obtain ⟨rfl, rfl⟩ := h.unknown hn
    have hreturned : returned H w.store D c.msg = 0 := (returned_registered c.msg).resolve_right fun ⟨n, hr⟩ => by
      rw [hn] at hr
      cases hr
    have hdelivered : delivered H w.store D c.msg = 0 :=
      (delivered_registered hb hbridge hreg c.msg).resolve_right fun ⟨n, hr, _⟩ => by
        rw [hn] at hr
        cases hr
    have hholds := h.holds
    rw [hreturned, hdelivered]
    refine ⟨?_, fun _ => ⟨rfl, rfl⟩⟩
    rw [hreturned, hdelivered] at hbacked
    simp only [inCosmos_zero, Nat.add_zero] at hholds hbacked ⊢
    rw [howed]
    omega

theorem sumOver_snoc {calls : List Call} {f : Storage → ExecuteMsg → ℕ}
    (hstep : step H (run (step H) w calls) c = .ok (w', r)) :
    sumOver H w (calls ++ [c]) f = sumOver H w calls f + f (run (step H) w calls).store c.msg := by
  simp [sumOver, history_snoc_ok hstep]

theorem run_backed (hb : H.Base58Sized) (h : Started H w) (calls : List Call) :
    Backed D (sumOver H w calls fun s => returned H s D) (sumOver H w calls fun s => delivered H s D)
      (run (step H) w calls) := by
  refine run_induction (P := fun calls w' => Backed D (sumOver H w calls fun s => returned H s D)
    (sumOver H w calls fun s => delivered H s D) w') ?_ ?_ ?_ calls
  · obtain ⟨msg, m, -, -, -, -, hstore⟩ := started_eq h
    refine ⟨?_, fun _ => ⟨rfl, rfl⟩⟩
    rw [hstore]
    simp [Storage.owed, Storage.feesOf, Storage.refundsIn, Storage.pendingTotal, initialStorage, collectedOf, sumOver,
      history]
  · intro calls c w' r hp hstep
    rw [sumOver_snoc hstep, sumOver_snoc hstep]
    exact hp.step hb (started_validBridge h) (run_registered h calls) (run_tempUniversalSwap h calls) hstep
  · intro calls c e hp hstep
    rw [sumOver, sumOver, history_snoc_error hstep]
    exact hp

/-- A payment that is covered goes through. -/
theorem step_pays {s₁ : Storage} {r₁ : Response} {a : Addr} {coins : List Coin}
    (hx : execute H w.store (w.bank.credit c.funds).querier c.env c.sender c.funds c.msg = .ok (s₁, r₁))
    (hr : r₁.messages = plain [.bankSend a coins]) (haccepts : c.accepts (.bankSend a coins) = true)
    (hheld : ∀ D, coinsOf D coins ≤ w.bank.held D) : ∃ w' r, step H w c = .ok (w', r) := by
  have hdebit : ∀ coin ∈ coins, coinsOf coin.denom coins ≤ (w.bank.credit c.funds).held coin.denom :=
    fun coin _ => (hheld coin.denom).trans (Nat.le_add_right _ _)
  obtain ⟨bank, hbank⟩ : ∃ bank, deliver H c.accepts (w.bank.credit c.funds) (.bankSend a coins) = some bank := by
    unfold deliver
    rw [if_pos haccepts]
    exact ⟨_, Option.bind_eq_some_iff.mpr ⟨_, if_pos hdebit, rfl⟩⟩
  have hdispatch : dispatch H c.accepts ⟨s₁, w.bank.credit c.funds⟩ r₁.messages = .ok ⟨s₁, bank⟩ := by
    rw [hr]
    simp only [plain, List.map_cons, List.map_nil, dispatch, hbank]
  exact ⟨⟨s₁, bank⟩, r₁, bind_eq_ok.mpr ⟨(s₁, r₁), hx, bind_eq_ok.mpr ⟨_, hdispatch, rfl⟩⟩⟩

/-- A relayer can claim the fees that it has while the bridge is active. -/
theorem claimRelayerFees_ok {q : Querier} {env : BlockInfo} {sender : Addr} {funds amounts : List Coin}
    (hactive : s.config.bridgeState = .active) (htaken : substractRelayerFees s sender amounts = .ok s') :
    ∃ r, execute H s q env sender funds (.claimRelayerFees amounts) = .ok (s', r) ∧
      r.messages = plain [.bankSend sender amounts] := by
  have hfees : s.feesCollected[sender]? ≠ none := by
    intro hnone
    simp only [substractRelayerFees, bind_eq_ok, orFail_eq_ok] at htaken
    obtain ⟨fees, hsome, -⟩ := htaken
    rw [hnone] at hsome
    cases hsome
  exact ⟨_, bind_eq_ok.mpr ⟨(), failIf_eq_ok.mpr (not_not.mpr hactive), bind_eq_ok.mpr ⟨(), failIf_eq_ok.mpr hfees,
    bind_eq_ok.mpr ⟨s', htaken, rfl⟩⟩⟩, rfl⟩

/-- **Solvency**: as long as no more of a token of Cosmos has come back from XRPL than was accepted
there, the contract holds the fees, the refunds and what the pending transfers have in escrow, of
every denom and in every run. So what a transfer burns or refunds in the end is there, and every
refund and every claim of fees is paid while the bridge is active. -/
theorem solvent (hb : H.Base58Sized) (h : Started H w) (calls : List Call)
    (hreturn : ∀ D, (sumOver H w calls fun s => returned H s D) ≤ sumOver H w calls fun s => delivered H s D) :
    (∀ D, (run (step H) w calls).store.owed D ≤ (run (step H) w calls).bank.held D) ∧
      (∀ (k : ℕ) (o : Operation) D, (run (step H) w calls).store.pendingOperations[k]? = some o →
        (run (step H) w calls).store.escrow D o.operationType ≤ (run (step H) w calls).bank.held D) ∧
      (∀ (c : Call) id, c.msg = .claimRefund id → (∀ m, c.accepts m = true) →
        (run (step H) w calls).store.config.bridgeState = .active →
          (run (step H) w calls).store.pendingRefunds.contains ⟨c.sender, id⟩ = true →
            ∃ w' r, step H (run (step H) w calls) c = .ok (w', r)) ∧
      ∀ (c : Call) amounts, c.msg = .claimRelayerFees amounts → (∀ m, c.accepts m = true) →
        (run (step H) w calls).store.config.bridgeState = .active →
          (substractRelayerFees (run (step H) w calls).store c.sender amounts).isOk = true →
            ∃ w' r, step H (run (step H) w calls) c = .ok (w', r) := by
  have hsolvent : ∀ D, (run (step H) w calls).store.owed D ≤ (run (step H) w calls).bank.held D := by
    intro D
    have hbacked := run_backed (D := D) hb h calls
    have hle := hreturn D
    have hholds := hbacked.holds
    cases hn : (run (step H) w calls).store.registry.cosmos[D]? with
    | none =>
      obtain ⟨hback, hout⟩ := hbacked.unknown hn
      rw [hback, hout] at hholds
      simpa using hholds
    | some n =>
      rw [inCosmos_of_registered hn, inCosmos_of_registered hn] at hholds
      have hmono : fromXRPLDecimals n.decimals _ ≤ fromXRPLDecimals n.decimals _ := fromXRPLDecimals_mono hle
      omega
  refine ⟨hsolvent, fun k o D hk => ?_, fun c id hmsg haccepts hactive hpending => ?_,
    fun c amounts hmsg haccepts hactive htaken => ?_⟩
  · have hle : (run (step H) w calls).store.escrow D o.operationType ≤ (run (step H) w calls).store.owed D :=
      (le_total hk fun _ o => (run (step H) w calls).store.escrow D o.operationType).trans (Nat.le_add_left _ _)
    exact hle.trans (hsolvent D)
  · rw [ExtTreeMap.contains_eq_isSome_getElem?, Option.isSome_iff_exists] at hpending
    obtain ⟨refund, hrefund⟩ := hpending
    obtain ⟨s', r, hx, hr⟩ := claimRefund_ok (H := H) (q := ((run (step H) w calls).bank.credit c.funds).querier)
      hactive hrefund
    rw [← hmsg] at hx
    refine step_pays hx hr (haccepts _) fun D => Nat.le_trans ?_ (hsolvent D)
    have hle : coinsOf D [refund.coin] ≤ (run (step H) w calls).store.refundsIn D :=
      le_total hrefund fun _ r => coinsOf D [r.coin]
    unfold Storage.owed
    omega
  · obtain ⟨s', hs'⟩ := exists_of_isOk htaken
    obtain ⟨r, hx, hr⟩ := claimRelayerFees_ok (H := H) (q := ((run (step H) w calls).bank.credit c.funds).querier)
      hactive hs'
    rw [← hmsg] at hx
    refine step_pays hx hr (haccepts _) fun D => Nat.le_trans ?_ (hsolvent D)
    have htotal := (substractRelayerFees_eq_ok hs').2 D
    unfold Storage.owed
    omega

open Reference in
/-- The refund of a cancelled transfer is paid. -/
theorem solvent_refunded :
    ∃ w' r, step host (run (step host) world₁ [recover, vote 2 relayer₁ allocation, send 3 5000000, cancel 4 1])
      (call 5 user (.claimRefund "3-1")) = .ok (w', r) := by
  have hnone : ∀ D, (sumOver host world₁ [recover, vote 2 relayer₁ allocation, send 3 5000000, cancel 4 1] fun s =>
      returned host s D) = 0 := by
    intro D
    apply List.sum_eq_zero
    intro n hn
    obtain ⟨x, hx, rfl⟩ := List.mem_map.mp hn
    have hmem := mem_of_mem_history hx
    simp only [List.mem_cons, List.not_mem_nil, or_false] at hmem
    rcases hmem with hx | hx | hx | hx <;> rw [hx] <;> rfl
  exact (solvent base58Sized_host started_world₁ _ fun D => (hnone D).trans_le (Nat.zero_le _)).2.2.1 _ _ rfl
    (fun _ => rfl) (by decide +kernel) (by decide +kernel)

end XrplBridge
