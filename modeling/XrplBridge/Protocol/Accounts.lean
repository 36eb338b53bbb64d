import XrplBridge.Protocol.Escrow
import XrplBridge.Protocol.Precision

/-!
# The account of a user

Somebody has sent coins to XRPL, many times and of many denoms. Where are they? Some were accepted there,
some are still on their way, some have failed and wait to be claimed, some have been claimed, and fees were
collected. Is that all? It is, to the last coin (`accounts_balanced`), for every user and every denom, as
long as no refund is overwritten.

So nobody else can take anything out of an account: what goes out of it is claimed by its owner, or goes with
a transfer that a quorum has found to be accepted.
-/

namespace XrplBridge

open Library Contract Std

/-- What an operation has in escrow of a user's coins. -/
def Contract.Storage.escrowOf (s : Storage) (u : Addr) (D : String) (t : OperationType) : ℕ :=
  if t.sender = some u then s.escrow D t else 0

namespace Account

/-- What a user can claim. -/
def claimable (s : Storage) (u : Addr) (D : String) : ℕ :=
  total s.pendingRefunds fun key refund => if key.address = u then coinsOf D [refund.coin] else 0

/-- What is on its way to XRPL. -/
def onItsWay (s : Storage) (u : Addr) (D : String) : ℕ := s.pendingTotal (s.escrowOf u D)

/-- What a user pays with a call. -/
def paid (u : Addr) (D : String) (sender : Addr) (funds : List Coin) : ExecuteMsg → ℕ
  | .sendToXRPL _ _ => if sender = u then coinsOf D funds else 0
  | _ => 0

/-- What is collected of it as fees. -/
def charged (s s' : Storage) (u : Addr) (D : String) (sender : Addr) : ExecuteMsg → ℕ
  | .sendToXRPL _ _ => if sender = u then s'.feesOf D - s.feesOf D else 0
  | _ => 0

/-- What a user claims with a call. -/
def claimed (s : Storage) (u : Addr) (D : String) (sender : Addr) : ExecuteMsg → ℕ
  | .claimRefund id =>
    if sender = u then (s.pendingRefunds[RefundKey.mk u id]?).elim 0 fun refund => coinsOf D [refund.coin] else 0
  | _ => 0

/-- What a transfer takes that a call ends as accepted. -/
def spent (H : Host) (s : Storage) (u : Addr) (D : String) (msg : ExecuteMsg) : ℕ :=
  match ended H s msg with
  | some (_, o, .accepted) => s.escrowOf u D o.operationType
  | _ => 0

end Account

variable {H : Host} {s s' s₁ : Storage} {D bridge : String} {u : Addr} {k : ℕ} {o : Operation} {t : OperationType}
  {c : Call} {w : World}

/-! ### One call -/

theorem escrowOf_of_sender_none (h : t.sender = none) : s.escrowOf u D t = 0 := by
  rw [Storage.escrowOf, h, if_neg (by simp)]

theorem spent_of_ended {msg : ExecuteMsg} {result : TransactionResult} (h : ended H s msg = some (k, o, result)) :
    Account.spent H s u D msg = if result = .accepted then s.escrowOf u D o.operationType else 0 := by
  unfold Account.spent
  rw [h]
  cases result <;> rfl

theorem spent_of_none {msg : ExecuteMsg} (h : ended H s msg = none) : Account.spent H s u D msg = 0 := by
  unfold Account.spent
  rw [h]

theorem claimable_of_same (h : s'.pendingRefunds = s.pendingRefunds) :
    Account.claimable s' u D = Account.claimable s u D := by
  rw [Account.claimable, Account.claimable, h]

/-- What an operation had in escrow is spent, or can be claimed. -/
theorem Contract.Handled.claimable {operationResult : Option OperationResult} {result : TransactionResult}
    {txHash : Option String} {tokenFactoryAddr burnAddr : Addr} {msgs : List CosmosMsg}
    (h : Handled s o operationResult result txHash tokenFactoryAddr burnAddr s' msgs)
    (hreg : s.registry.Sound H bridge)
    (hfree : ∀ key, o.refundKey = some key → s.pendingRefunds[key]? = none) :
    Account.claimable s' u D + (if result = .accepted then s.escrowOf u D o.operationType else 0) =
      Account.claimable s u D + s.escrowOf u D o.operationType := by
  cases hsender : o.operationType.sender with
  | none =>
    rw [claimable_of_same (h.refunds_none hsender), escrowOf_of_sender_none hsender, ite_self]
  | some a =>
    by_cases hacc : result = .accepted
    · subst hacc
      rw [claimable_of_same h.refunds_accepted, if_pos rfl]
    · obtain ⟨refund, hins, hcoins⟩ := h.refunds hreg hacc hsender
      have hnew := hfree _ (refundKey_eq_some.mpr ⟨a, hsender, rfl⟩)
      rw [if_neg hacc, Account.claimable, hins, total_insert_new hnew, Nat.add_zero, Nat.add_comm]
      simp only [Storage.escrowOf, hsender, Option.some.injEq, hcoins]
      rfl

/-- What is in an account after a call, with the escrow as it was before. -/
def heldAfter (s s' : Storage) (u : Addr) (D : String) : ℕ :=
  s'.pendingTotal (s.escrowOf u D) + Account.claimable s' u D

theorem heldAfter_of_pending (hpending : s'.pendingTotal (s.escrowOf u D) = s.pendingTotal (s.escrowOf u D))
    (hrefunds : s'.pendingRefunds = s.pendingRefunds) :
    heldAfter s s' u D = Account.onItsWay s u D + Account.claimable s u D := by
  rw [heldAfter, hpending, claimable_of_same hrefunds]
  rfl

theorem heldAfter_of_same (hpending : s'.pendingOperations = s.pendingOperations)
    (hrefunds : s'.pendingRefunds = s.pendingRefunds) :
    heldAfter s s' u D = Account.onItsWay s u D + Account.claimable s u D :=
  heldAfter_of_pending (by rw [Storage.pendingTotal, hpending]; rfl) hrefunds

/-- An operation has ended: what it had in escrow is spent, or can be claimed. -/
theorem Contract.Handled.heldAfter {operationResult : Option OperationResult} {result : TransactionResult}
    {txHash : Option String} {tokenFactoryAddr burnAddr : Addr} {msgs : List CosmosMsg} {s₂ : Storage}
    (h : Handled s₁ o operationResult result txHash tokenFactoryAddr burnAddr s₂ msgs)
    (hreg : s₁.registry.Sound H bridge) (htokens : s₁.tokens = s.tokens)
    (hpending₁ : s₁.pendingOperations = s.pendingOperations) (hrefunds₁ : s₁.pendingRefunds = s.pendingRefunds)
    (hpending : s₂.pendingTotal (s.escrowOf u D) = s.escrowOf u D o.operationType + s'.pendingTotal (s.escrowOf u D))
    (hrefunds : s'.pendingRefunds = s₂.pendingRefunds)
    (hfree : ∀ key, o.refundKey = some key → s.pendingRefunds[key]? = none) :
    XrplBridge.heldAfter s s' u D + (if result = .accepted then s.escrowOf u D o.operationType else 0) =
      Account.onItsWay s u D + Account.claimable s u D := by
  have hclaimable := h.claimable (u := u) (D := D) hreg fun key hkey => by rw [hrefunds₁, hfree key hkey]
  have hescrow : s₁.escrowOf u D o.operationType = s.escrowOf u D o.operationType := by
    rw [Storage.escrowOf, Storage.escrowOf, escrow_of_tokens htokens]
  rw [hescrow, claimable_of_same hrefunds₁] at hclaimable
  have honway : Account.onItsWay s u D = s₂.pendingTotal (s.escrowOf u D) := by
    rw [Storage.pendingTotal, h.pendingOperations, hpending₁]
    rfl
  rw [XrplBridge.heldAfter, claimable_of_same hrefunds]
  omega

/-- An operation is opened on what has been prepared: what it has in escrow is on its way. -/
theorem Contract.Opens.heldAfter {timestamp : ℕ} (h : Opens s₁ timestamp t s')
    (hpending : s₁.pendingOperations = s.pendingOperations) (hrefunds : s₁.pendingRefunds = s.pendingRefunds) :
    XrplBridge.heldAfter s s' u D = Account.onItsWay s u D + Account.claimable s u D + s.escrowOf u D t := by
  rw [XrplBridge.heldAfter, h.pendingTotal, claimable_of_same (h.pendingRefunds.trans hrefunds)]
  have hsame : s₁.pendingTotal (s.escrowOf u D) = Account.onItsWay s u D := by
    rw [Storage.pendingTotal, hpending]
    rfl
  omega

theorem Contract.Opens.heldAfter_quiet {timestamp : ℕ} (h : Opens s₁ timestamp t s')
    (hpending : s₁.pendingOperations = s.pendingOperations) (hrefunds : s₁.pendingRefunds = s.pendingRefunds)
    (hnone : t.sender = none) :
    XrplBridge.heldAfter s s' u D = Account.onItsWay s u D + Account.claimable s u D := by
  rw [h.heldAfter hpending hrefunds, escrowOf_of_sender_none hnone, Nat.add_zero]

/-- What a call leaves in an account, with what goes out of it, is what was there and what is paid. -/
def Balanced (H : Host) (u : Addr) (D : String) (s s' : Storage) (sender : Addr) (funds : List Coin)
    (msg : ExecuteMsg) : Prop :=
  heldAfter s s' u D + Account.spent H s u D msg + Account.claimed s u D sender msg +
    Account.charged s s' u D sender msg =
      Account.onItsWay s u D + Account.claimable s u D + Account.paid u D sender funds msg

/-- Coins are sent: what is not collected as a fee is in escrow. -/
theorem balanced_of_sent {sender : Addr} {coin : Coin} {amount fee : ℕ} {recipient : String} {deliver : Option ℕ}
    (hafter : heldAfter s s' u D = Account.onItsWay s u D + Account.claimable s u D + s.escrowOf u D t)
    (hsender : t.sender = some sender) (hescrow : s.escrow D t = if coin.denom = D then amount else 0)
    (hfees : s'.feesOf D = s.feesOf D + if coin.denom = D then fee else 0) (hamount : fee + amount = coin.amount) :
    Balanced H u D s s' sender [coin] (.sendToXRPL recipient deliver) := by
  have hof : s.escrowOf u D t = if sender = u then if coin.denom = D then amount else 0 else 0 := by
    simp only [Storage.escrowOf, hsender, Option.some.injEq, hescrow]
  rw [Balanced, hafter, hof, spent_of_none rfl]
  simp only [Account.claimed, Account.charged, Account.paid, hfees, coinsOf_cons, coinsOf_nil]
  split_ifs <;> omega

/-- **One call is balanced.** -/
theorem Contract.Effect.balanced {q : Querier} {env : BlockInfo} {sender : Addr} {funds : List Coin}
    {msg : ExecuteMsg} {ms : List SubMsg} (h : Effect H s q env sender funds msg s' ms) (hb : H.Base58Sized)
    (hbridge : validateXRPLAddressFormat H bridge = .ok ()) (hreg : Registered H bridge s) (hs : Unrefunded s)
    (hprecise : ∀ (key : String) (token : CosmosToken), s.cosmosTokens.primary[key]? = some token →
      PreciseFor token.sendingPrecision token.decimals) :
    Balanced H u D s s' sender funds msg := by
  have hallocate : ∀ n, s.escrowOf u D (.allocateTickets n) = 0 := fun _ => escrowOf_of_sender_none rfl
  -- a call that neither sends coins nor ends anything, and leaves the refunds
  have hquiet : heldAfter s s' u D = Account.onItsWay s u D + Account.claimable s u D → ended H s msg = none →
      Account.paid u D sender funds msg = 0 → Account.charged s s' u D sender msg = 0 →
        Account.claimed s u D sender msg = 0 → Balanced H u D s s' sender funds msg := by
    intro hsame hno hpaid hcharged hclaimed
    rw [Balanced, hsame, spent_of_none hno, hpaid, hcharged, hclaimed]
  cases h with
  | voted _ hv =>
    exact hquiet (heldAfter_of_same hv.pendingOperations hv.pendingRefunds) (ended_of_not_reaches hv.reaches) rfl rfl rfl
  | receivedXRPL _ hv _ _ _ hc =>
    have hissued := (handleFeeCollection_issued hc).trans hv.issued
    exact hquiet (heldAfter_of_same (congrArg Prod.fst hissued)
      ((handleFeeCollection_pendingRefunds hc).trans hv.pendingRefunds)) rfl rfl rfl rfl
  | receivedCosmos _ hv _ _ _ hc =>
    have hissued := (handleFeeCollection_issued hc).trans hv.issued
    exact hquiet (heldAfter_of_same (congrArg Prod.fst hissued)
      ((handleFeeCollection_pendingRefunds hc).trans hv.pendingRefunds)) rfl rfl rfl rfl
  | completed _ _ hv hid ho _ hh hset =>
    have hpending := hset.pendingTotal (f := s.escrowOf u D) (by rw [hh.pendingOperations, hv.pendingOperations, ho])
      hallocate
    have hends := hh.heldAfter (hv.registry ▸ hreg.sound) hv.tokens hv.pendingOperations hv.pendingRefunds hpending
      hset.pendingRefunds (hs.free _ _ · ho)
    rw [Balanced, spent_of_ended (ended_of_reaches hv.reaches hid ho), hends]
    rfl
  | @cancelled k o s₁ _ ho hh =>
    have hpending := endOperation_pendingTotal (f := s.escrowOf u D) .invalid o.ticketSequence
      (show s₁.pendingOperations[k]? = some o by rw [hh.pendingOperations, ho])
    have hends := hh.heldAfter hreg.sound rfl rfl rfl hpending (endOperation_pendingRefunds ..) (hs.free _ _ · ho)
    rw [Balanced, spent_of_ended (ended_cancelled ho), hends]
    rfl
  | @sentXRPL _ key _ _ coin token _ _ _ _ _ s₁ _ _ hpaid htoken hamounts hc ho hl =>
    obtain ⟨hk, hdenom⟩ := IndexedMap.item_eq_some.mp htoken
    have hkey : key = buildXRPLTokenKey token.issuer token.currency := hreg.sound.xrplKey _ _ (registry_xrpl hk)
    have hfees : s'.feesOf D = s₁.feesOf D := by cases ho; rfl
    subst hpaid
    refine balanced_of_sent (ho.heldAfter (congrArg Prod.fst (handleFeeCollection_issued hc))
      (handleFeeCollection_pendingRefunds hc)) rfl ?_ (hfees.trans ?_) hamounts
    · rw [escrow_xrpl (hkey ▸ hk), hdenom]
    · rw [(handleFeeCollection_eq_ok hc).2.2 D, hdenom]
  | @sentCosmos _ coin token _ _ _ s₁ _ _ hpaid hno htoken _ _ _ hc ho hl ht =>
    have hdenom : coin.denom = token.denom := hreg.sound.cosmosKey _ _ (registry_cosmos htoken)
    have hnone : s.xrplTokens.primary[buildXRPLTokenKey bridge token.xrplCurrency]? = none :=
      hreg.xrpl_none hb hbridge (hreg.sound.currency _ _ (registry_cosmos htoken))
    have hitem : s.cosmosTokens.item token.xrplCurrency = some (coin.denom, token) :=
      IndexedMap.item_eq_some.mpr ⟨htoken, rfl⟩
    have hfees : s'.feesOf D = s₁.feesOf D := by cases ho; rfl
    subst hpaid
    refine balanced_of_sent (ho.heldAfter (congrArg Prod.fst (handleFeeCollection_issued hc))
      (handleFeeCollection_pendingRefunds hc)) rfl ?_ (hfees.trans ?_)
      (truncateAndConvertAmount_exact (hprecise _ _ htoken) ht)
    · rw [hreg.address, escrow_cosmos hnone hitem, Option.getD_some]
    · rw [(handleFeeCollection_eq_ok hc).2.2 D, hdenom]
  | registeredXRPL _ _ _ _ _ ho => exact hquiet (ho.heldAfter_quiet rfl rfl rfl) rfl rfl rfl rfl
  | recoveredXRPL _ _ ho => exact hquiet (ho.heldAfter_quiet rfl rfl rfl) rfl rfl rfl rfl
  | rotating _ _ ho => exact hquiet (ho.heldAfter_quiet rfl rfl rfl) rfl rfl rfl rfl
  | recovering _ _ _ _ hunused =>
    refine hquiet (heldAfter_of_pending ?_ rfl) rfl rfl rfl rfl
    apply (total_insert_new hunused _ _).trans
    exact (congrArg (· + s.pendingTotal (s.escrowOf u D)) (hallocate _)).trans (Nat.zero_add _)
  | signed ho =>
    refine hquiet (heldAfter_of_pending ?_ rfl) rfl rfl rfl rfl
    exact Nat.add_right_cancel ((total_insert_old ho _ _).trans (Nat.add_comm _ _))
  | repriced => exact hquiet (heldAfter_of_pending (total_map _ _ _) rfl) rfl rfl rfl rfl
  | claimedFees _ ht =>
    obtain ⟨⟨fc, rfl⟩, -⟩ := substractRelayerFees_eq_ok ht
    exact hquiet (heldAfter_of_same rfl rfl) rfl rfl rfl rfl
  | @claimedRefund id refund _ hp =>
    have hrefunds : Account.claimable s u D = (if sender = u then coinsOf D [refund.coin] else 0) +
        Account.claimable { s with pendingRefunds := s.pendingRefunds.erase ⟨sender, id⟩ } u D := total_erase hp _
    have hafter : heldAfter s { s with pendingRefunds := s.pendingRefunds.erase ⟨sender, id⟩ } u D =
        Account.onItsWay s u D +
          Account.claimable { s with pendingRefunds := s.pendingRefunds.erase ⟨sender, id⟩ } u D := rfl
    rw [Balanced, hafter, hrefunds, spent_of_none rfl]
    by_cases hu : sender = u
    · subst hu
      simp only [Account.claimed, Account.charged, Account.paid, hp, Option.elim_some, if_true]
      omega
    · simp only [Account.claimed, Account.charged, Account.paid, hu, if_false]
      omega
  | _ => exact hquiet (heldAfter_of_same rfl rfl) rfl rfl rfl rfl

/-! ### In every run -/

namespace Account

/-- The sum of a measure over the calls of a run. -/
def sumCalls (H : Host) (w : World) (calls : List Call) (f : World → Call → ℕ) : ℕ :=
  ((history (step H) w calls).map fun x => f x.1 x.2).sum

variable (H : Host) (w : World) (calls : List Call) (u : Addr) (D : String)

/-- What a user has paid in a run. -/
def paidIn : ℕ := sumCalls H w calls fun _ c => paid u D c.sender c.funds c.msg

/-- What has been collected of it as fees. -/
def chargedIn : ℕ := sumCalls H w calls fun w c => charged w.store (commit (step H) w c).store u D c.sender c.msg

/-- What a user has claimed. -/
def claimedIn : ℕ := sumCalls H w calls fun w c => claimed w.store u D c.sender c.msg

/-- What accepted transfers have taken. -/
def spentIn : ℕ := sumCalls H w calls fun w c => spent H w.store u D c.msg

theorem sumCalls_snoc_ok {f : World → Call → ℕ} {w' : World} {r : Response}
    (h : step H (run (step H) w calls) c = .ok (w', r)) :
    sumCalls H w (calls ++ [c]) f = sumCalls H w calls f + f (run (step H) w calls) c := by
  simp [sumCalls, history_snoc_ok h]

end Account

/-- **Every coin of a user is accounted for.** In every run that creates no operation under an identity that
its sender has a refund for, and for every user and denom: what the user has paid is what was collected of
it as fees, what is on its way to XRPL, what was accepted there, what has failed and can be claimed, and what
has been claimed. -/
theorem accounts_balanced (hb : H.Base58Sized) (h : Started H w) (calls : List Call)
    (hfresh : ∀ x ∈ history (step H) w calls, collides x.1.store x.2 = false) (u : Addr) (D : String) :
    let s := (run (step H) w calls).store
    Account.paidIn H w calls u D = Account.chargedIn H w calls u D + Account.onItsWay s u D +
      Account.spentIn H w calls u D + Account.claimable s u D + Account.claimedIn H w calls u D := by
  refine run_induction (P := fun calls (w' : World) => (∀ x ∈ history (step H) w calls, collides x.1.store x.2 = false) →
    Account.paidIn H w calls u D = Account.chargedIn H w calls u D + Account.onItsWay w'.store u D +
      Account.spentIn H w calls u D + Account.claimable w'.store u D + Account.claimedIn H w calls u D)
    ?_ ?_ ?_ calls hfresh
  · intro _
    obtain ⟨_, _, -, -, -, -, hs⟩ := started_eq h
    simp [hs, initialStorage, Account.onItsWay, Account.claimable, Storage.pendingTotal, Account.paidIn,
      Account.chargedIn, Account.spentIn, Account.claimedIn, Account.sumCalls, history]
  · intro calls c w' r ih hstep hfresh
    rw [history_snoc_ok hstep] at hfresh
    have hbefore : ∀ x ∈ history (step H) w calls, collides x.1.store x.2 = false := fun x hx =>
      hfresh x (List.mem_append_left _ hx)
    have heff := run_effect h hstep
    have hreg := run_registered h calls
    have hbal : Balanced H u D (run (step H) w calls).store w'.store c.sender c.funds c.msg :=
      heff.balanced hb (started_validBridge h) hreg (run_unrefunded h calls hbefore) (run_preciseCosmos h calls)
    have honway : w'.store.pendingTotal ((run (step H) w calls).store.escrowOf u D) = Account.onItsWay w'.store u D := by
      unfold Account.onItsWay Storage.pendingTotal
      refine total_congr fun k o ho => ?_
      rw [Storage.escrowOf, Storage.escrowOf, heff.escrow_eq hb (started_validBridge h) hreg ho]
    have hold := ih hbefore
    simp only [Account.paidIn, Account.chargedIn, Account.spentIn, Account.claimedIn,
      Account.sumCalls_snoc_ok H w _ hstep, commit_ok hstep] at hold ⊢
    unfold Balanced heldAfter at hbal
    omega
  · intro calls c f ih hstep hfresh
    rw [history_snoc_error hstep] at hfresh
    simpa [Account.paidIn, Account.chargedIn, Account.spentIn, Account.claimedIn, Account.sumCalls,
      history_snoc_error hstep] using ih hfresh

open Reference in
/-- The user has sent five XRP, with a fee of a thousandth, and the transfer was cancelled. -/
theorem accounts_balanced_cancelled :
    let calls := [recover, vote 2 relayer₁ allocation,
      call 3 owner (.updateXRPLToken xrpIssuer xrpCurrency ⟨none, none, some 1000, none⟩), send 3 5000000, cancel 4 1]
    Account.chargedIn host world₁ calls user xrpDenom +
      Account.claimable (run (step host) world₁ calls).store user xrpDenom = 5000000 := by
  intro calls
  have hfacts : (∀ x ∈ history (step host) world₁ calls, collides x.1.store x.2 = false) ∧
      Account.paidIn host world₁ calls user xrpDenom = 5000000 ∧
      Account.onItsWay (run (step host) world₁ calls).store user xrpDenom = 0 ∧
      Account.spentIn host world₁ calls user xrpDenom = 0 ∧
      Account.claimedIn host world₁ calls user xrpDenom = 0 := by decide +kernel
  obtain ⟨hfresh, hpaid, honway, hspent, hclaimed⟩ := hfacts
  have hbal := accounts_balanced base58Sized_host started_world₁ calls hfresh user xrpDenom
  dsimp only at hbal
  omega

end XrplBridge
