import XrplBridge.Contract.Panics
import XrplBridge.Protocol.FeeClaims
import XrplBridge.Protocol.Solvency

/-!
# A run on the bridge

What if everyone asks for their money at once? What is due is a refund, or the fees that someone
has collected (`Debt`). A contract that holds what it owes pays one of them (`Solvent.settles`):
the debt is gone, all others stay as they are, and what is owed and what is held decrease alike.
So it is still solvent, and pays the next one.

`debts_settled` is the result, for any debts in any order.
-/

namespace XrplBridge

open Library Contract Std

/-- What the contract owes to someone. -/
inductive Debt where
  /-- A refund. -/
  | refund (key : RefundKey)
  /-- All fees that an address has collected. -/
  | fees (relayer : Addr)
  deriving DecidableEq

/-- Who it is owed to. -/
def Debt.creditor : Debt → Addr
  | refund key => key.address
  | fees relayer => relayer

/-- The coins that are due, if any. -/
def Contract.Storage.due (s : Storage) : Debt → Option (List Coin)
  | .refund key => s.pendingRefunds[key]?.map fun refund => [refund.coin]
  | .fees relayer => s.feesCollected[relayer]?.filter fun coins => coins ≠ []

/-- The storage once a debt is paid. -/
def Contract.Storage.settle (s : Storage) : Debt → Storage
  | .refund key => { s with pendingRefunds := s.pendingRefunds.erase key }
  | .fees relayer => { s with feesCollected := s.feesCollected.insert relayer [] }

/-- The call that asks for a debt. -/
def asks (time : Debt → BlockInfo) (coins : Debt → List Coin) (d : Debt) : Call where
  env := time d
  sender := d.creditor
  funds := []
  msg := match d with
    | .refund key => .claimRefund key.id
    | .fees _ => .claimRelayerFees (coins d)
  accepts _ := true

/-- The bridge is active, holds what it owes, and keeps no denom twice for anyone. -/
structure Solvent (w : World) : Prop where
  active : w.store.config.bridgeState = .active
  covered : ∀ D, w.store.owed D ≤ w.bank.held D
  distinct : w.store.feeBooks.Distinct

variable {H : Host} {s : Storage} {w : World} {d : Debt} {coins : List Coin} {D : String}

/-! ### One debt -/

theorem coinsOf_of_mem {c : Coin} (h : (coins.map Coin.denom).Nodup) (hc : c ∈ coins) :
    coinsOf c.denom coins = c.amount := by
  induction coins with
  | nil => cases hc
  | cons c' cs ih =>
    rw [List.map_cons, List.nodup_cons] at h
    rw [coinsOf_cons]
    rcases List.mem_cons.mp hc with rfl | hmem
    · rw [if_pos rfl, coinsOf_eq_zero h.1, Nat.add_zero]
    · have hne : c'.denom ≠ c.denom := fun hd => h.1 (hd ▸ List.mem_map_of_mem hmem)
      rw [if_neg hne, Nat.zero_add, ih h.2 hmem]

/-- Whoever claims all coins has none left. -/
theorem remaining_self (h : (coins.map Coin.denom).Nodup) : remaining coins coins = [] := by
  refine List.filter_eq_nil_iff.mpr fun c hc => ?_
  obtain ⟨c', hc', rfl⟩ := List.mem_map.mp hc
  have hall : (c'.less coins).amount = 0 := by rw [Coin.less, coinsOf_of_mem h hc', Nat.sub_self]
  simpa using hall

theorem due_settle (d d' : Debt) : (s.settle d).due d' = if d' = d then none else s.due d' := by
  cases d with
  | refund key =>
    cases d' with
    | refund key' =>
      by_cases hk : key' = key
      · subst hk
        simp [Storage.due, Storage.settle]
      · rw [if_neg fun h => hk (Debt.refund.inj h), Storage.due, Storage.settle, getElem?_erase_ne (Ne.symm hk)]
        rfl
    | fees a => rfl
  | fees a =>
    cases d' with
    | refund key => rfl
    | fees a' =>
      by_cases ha : a' = a
      · subst ha
        simp [Storage.due, Storage.settle, Option.filter]
      · rw [if_neg fun h => ha (Debt.fees.inj h), Storage.due, Storage.settle, getElem?_insert_ne (Ne.symm ha)]
        rfl

/-- What is owed decreases by what is paid. -/
theorem owed_settle (h : s.due d = some coins) : (s.settle d).owed D + coinsOf D coins = s.owed D := by
  cases d with
  | refund key =>
    obtain ⟨refund, hrefund, rfl⟩ := Option.map_eq_some_iff.mp h
    have hless : s.refundsIn D = coinsOf D [refund.coin] + (s.settle (.refund key)).refundsIn D := total_erase hrefund _
    have howed : s.owed D = s.feesOf D + s.refundsIn D + s.pendingTotal (s.escrow D) := rfl
    have hafter : (s.settle (.refund key)).owed D =
        s.feesOf D + (s.settle (.refund key)).refundsIn D + s.pendingTotal (s.escrow D) := rfl
    omega
  | fees a =>
    obtain ⟨hfees, -⟩ := Option.filter_eq_some_iff.mp h
    have hless := total_insert_old hfees [] fun _ cs => coinsOf D cs
    have howed : s.owed D = collectedOf s.feesCollected D + s.feeRemainders[D]?.getD 0 + s.refundsIn D +
        s.pendingTotal (s.escrow D) := rfl
    have hafter : (s.settle (.fees a)).owed D = collectedOf (s.feesCollected.insert a []) D +
        s.feeRemainders[D]?.getD 0 + s.refundsIn D + s.pendingTotal (s.escrow D) := rfl
    rw [coinsOf_nil, Nat.zero_add] at hless
    unfold collectedOf at howed hafter
    omega

theorem distinct_settle (h : s.feeBooks.Distinct) : (s.settle d).feeBooks.Distinct := by
  cases d with
  | refund key => exact h
  | fees a =>
    intro b cs hcs
    rcases getElem?_of_insert hcs with ⟨-, rfl⟩ | ⟨-, hold⟩
    · exact List.nodup_nil
    · exact h b cs hold

/-- The contract agrees to pay what is due. -/
theorem execute_asks (H : Host) (time : Debt → BlockInfo) {amounts : Debt → List Coin} {q : Querier}
    (hactive : s.config.bridgeState = .active) (hdistinct : s.feeBooks.Distinct) (hdue : s.due d = some (amounts d)) :
    ∃ r, execute H s q (time d) d.creditor [] (asks time amounts d).msg = .ok (s.settle d, r) ∧
      r.messages = plain [.bankSend d.creditor (amounts d)] := by
  cases d with
  | refund key =>
    obtain ⟨refund, hrefund, hcoins⟩ := Option.map_eq_some_iff.mp hdue
    rw [← hcoins]
    exact ⟨_, bind_eq_ok.mpr ⟨(), failIf_eq_ok.mpr (by simp [hactive]), bind_eq_ok.mpr ⟨_, bind_eq_ok.mpr
      ⟨refund, orFail_eq_ok.mpr hrefund, rfl⟩, rfl⟩⟩, rfl⟩
  | fees a =>
    obtain ⟨hfees, -⟩ := Option.filter_eq_some_iff.mp hdue
    have hnodup := hdistinct a _ hfees
    have hclaim : Claimable (amounts (.fees a)) (amounts (.fees a)) :=
      ⟨fun c hc => List.mem_map_of_mem hc, fun c hc => (coinsOf_of_mem hnodup hc).le⟩
    have htaken := (substractRelayerFees_iff (s := s) hfees hnodup).mpr ⟨hclaim, rfl⟩
    rw [remaining_self hnodup] at htaken
    exact claimRelayerFees_ok hactive htaken

/-- **A debt is paid**: it is gone, and the contract still holds what it owes. -/
theorem Solvent.settles (h : Solvent w) (H : Host) (time : Debt → BlockInfo) {amounts : Debt → List Coin}
    (hdue : w.store.due d = some (amounts d)) :
    ∃ w' r, step H w (asks time amounts d) = .ok (w', r) ∧ w'.store = w.store.settle d ∧ Solvent w' ∧
      r.messages = plain [.bankSend d.creditor (amounts d)] := by
  obtain ⟨r, hx, hr⟩ := @execute_asks w.store d H time amounts (w.bank.credit []).querier h.active h.distinct hdue
  have howed : ∀ D, (w.store.settle d).owed D + coinsOf D (amounts d) = w.store.owed D := fun D => owed_settle hdue
  have hheld : ∀ D, coinsOf D (amounts d) ≤ w.bank.held D := fun D =>
    (Nat.le_add_left _ _).trans ((howed D).le.trans (h.covered D))
  obtain ⟨w', r', hstep⟩ := step_pays (c := asks time amounts d) hx hr rfl hheld
  have hparts := hstep
  simp only [step, bind_eq_ok, pure_eq_ok, Prod.mk.injEq] at hparts
  obtain ⟨⟨s₁, r₁⟩, hx', w₁, hdispatch, rfl, rfl⟩ := hparts
  cases hx.symm.trans hx'
  rw [hr] at hdispatch
  simp only [plain, List.map_cons, List.map_nil, dispatch] at hdispatch
  split at hdispatch
  · rename_i bank hbank
    cases hdispatch
    refine ⟨_, _, hstep, rfl, ⟨?_, fun D => ?_, distinct_settle h.distinct⟩, hr⟩
    · cases d <;> exact h.active
    · have hcovered := h.covered D
      have hless := howed D
      have hflow := (deliver_eq_some (D := D) hbank).2
      have hcredit : (w.bank.credit []).held D = w.bank.held D := rfl
      simp only [CosmosMsg.spends] at hflow
      rw [show (asks time amounts d).funds = [] from rfl, hcredit] at hflow
      dsimp only
      omega
  · cases hdispatch
  · rename_i hreply
    cases hreply

/-! ### All of them -/

variable {amounts : Debt → List Coin} {debts : List Debt}

/-- What is left when debts have been paid: they are gone, the others are as they were, and so much
less is owed; the contract still holds what it owes. -/
structure Settled (amounts : Debt → List Coin) (debts : List Debt) (w w' : World) : Prop where
  gone : ∀ d, w'.store.due d = if d ∈ debts then none else w.store.due d
  owed : ∀ D, w'.store.owed D + (debts.map fun d => coinsOf D (amounts d)).sum = w.store.owed D
  solvent : Solvent w'

theorem run_settled (h : Solvent w) (H : Host) (time : Debt → BlockInfo) (hnodup : debts.Nodup)
    (hdue : ∀ d ∈ debts, w.store.due d = some (amounts d)) :
    Settled amounts debts w (run (step H) w (debts.map (asks time amounts))) := by
  induction debts generalizing w with
  | nil => exact ⟨fun d => by simp, fun D => by simp, h⟩
  | cons d ds ih =>
    rw [List.nodup_cons] at hnodup
    have hfirst := hdue d List.mem_cons_self
    obtain ⟨w₁, r, hstep, hstore, hsolvent, -⟩ := h.settles H time hfirst
    have hrest : ∀ d' ∈ ds, w₁.store.due d' = some (amounts d') := by
      intro d' hd'
      have hne : d' ≠ d := fun heq => hnodup.1 (heq ▸ hd')
      rw [hstore, due_settle, if_neg hne, hdue d' (List.mem_cons_of_mem _ hd')]
    obtain ⟨hgone, howed, hafter⟩ := ih hsolvent hnodup.2 hrest
    rw [List.map_cons, run_cons, commit_ok hstep]
    refine ⟨fun d' => ?_, fun D => ?_, hafter⟩
    · rw [hgone d', hstore, due_settle]
      by_cases hd : d' = d
      · simp [hd]
      · simp [hd]
    · have hless : (w.store.settle d).owed D + coinsOf D (amounts d) = w.store.owed D := owed_settle hfirst
      have hothers := howed D
      rw [hstore] at hothers
      rw [List.map_cons, List.sum_cons]
      omega

/-- When nothing is due any more, remainders and escrows are all that is owed. -/
theorem owed_of_due_none (h : ∀ d, s.due d = none) :
    s.owed D = s.feeRemainders[D]?.getD 0 + s.pendingTotal (s.escrow D) := by
  have hzero : ∀ {K V : Type} [Ord K] [TransOrd K] (m : ExtTreeMap K V), total m (fun _ _ => 0) = 0 := by
    intro K V _ _ m
    simp [total]
  have hrefunds : s.refundsIn D = 0 := by
    apply (total_congr (g := fun _ _ => 0) fun key refund hrefund => ?_).trans (hzero _)
    have hnone := h (.refund key)
    rw [Storage.due, hrefund] at hnone
    cases hnone
  have hfees : collectedOf s.feesCollected D = 0 := by
    apply (total_congr (g := fun _ _ => 0) fun a coins hcoins => ?_).trans (hzero _)
    have hnone := h (.fees a)
    rw [Storage.due, hcoins] at hnone
    by_cases hempty : coins = []
    · rw [hempty, coinsOf_nil]
    · simp [Option.filter, hempty] at hnone
  unfold Storage.owed Storage.feesOf
  omega

/-- The contract holds what it owes, as long as no more has come back than was accepted. -/
theorem run_covered (hb : H.Base58Sized) (h : Started H w) (calls : List Call)
    (hreturn : (sumOver H w calls fun s => returned H s D) ≤ sumOver H w calls fun s => delivered H s D) :
    (run (step H) w calls).store.owed D ≤ (run (step H) w calls).bank.held D := by
  obtain ⟨hholds, hunknown⟩ := run_backed (D := D) hb h calls
  cases hn : (run (step H) w calls).store.registry.cosmos[D]? with
  | none =>
    obtain ⟨hback, hout⟩ := hunknown hn
    simpa [hback, hout] using hholds
  | some n =>
    rw [inCosmos_of_registered hn, inCosmos_of_registered hn] at hholds
    exact Nat.le_of_add_le_add_right (hholds.trans (Nat.add_le_add_left (fromXRPLDecimals_mono hreturn) _))

/-- **Everyone is paid, in any order.** Take a run in which no more of a token of Cosmos has come
back from XRPL than was accepted there, and let any of those to whom refunds or fees are due ask for
them, in any order and at any times, while the bridge is active: each is paid in full when it asks,
nobody is paid at the cost of another, and the contract still holds what it owes. When nobody is left,
that is what did not divide among the relayers, and what pending transfers have in escrow. -/
theorem debts_settled (hb : H.Base58Sized) (h : Started H w) (calls : List Call)
    (hreturn : ∀ D, (sumOver H w calls fun s => returned H s D) ≤ sumOver H w calls fun s => delivered H s D)
    (hactive : (run (step H) w calls).store.config.bridgeState = .active) (time : Debt → BlockInfo)
    (hnodup : debts.Nodup) (hdue : ∀ d ∈ debts, ((run (step H) w calls).store.due d).isSome = true) :
    let w₁ := run (step H) w calls
    let amounts := fun d => (w₁.store.due d).getD []
    let after := run (step H) w₁ (debts.map (asks time amounts))
    (∀ pre d post, debts = pre ++ d :: post →
        ∃ w' r, step H (run (step H) w₁ (pre.map (asks time amounts))) (asks time amounts d) = .ok (w', r) ∧
          r.messages = plain [.bankSend d.creditor (amounts d)]) ∧
      Settled amounts debts w₁ after ∧
        ((∀ d, (w₁.store.due d).isSome = true → d ∈ debts) → ∀ D,
          after.store.owed D = after.store.feeRemainders[D]?.getD 0 + after.store.pendingTotal (after.store.escrow D)) := by
  intro w₁ amounts after
  have hsome : ∀ d ∈ debts, w₁.store.due d = some (amounts d) := by
    intro d hd
    obtain ⟨coins, hcoins⟩ := Option.isSome_iff_exists.mp (hdue d hd)
    simp only [amounts, w₁, hcoins, Option.getD_some]
  have hsolvent : Solvent w₁ := ⟨hactive, fun D => run_covered hb h calls (hreturn D), (run_feeBooks h calls).distinct⟩
  refine ⟨fun pre d post hsplit => ?_, run_settled hsolvent H time hnodup hsome, fun hall D => owed_of_due_none fun d => ?_⟩
  · subst hsplit
    have hpre := run_settled hsolvent H time (List.nodup_append.mp hnodup).1
      fun d' hd' => hsome d' (List.mem_append_left _ hd')
    have hd := hsome d (List.mem_append_right _ List.mem_cons_self)
    have hlater : d ∉ pre := fun hmem => (List.nodup_append.mp hnodup).2.2 d hmem d List.mem_cons_self rfl
    obtain ⟨w', r, hstep, -, -, hr⟩ := hpre.solvent.settles H time
      (by rw [hpre.gone d, if_neg hlater, hd])
    exact ⟨w', r, hstep, hr⟩
  · rw [(run_settled hsolvent H time hnodup hsome).gone d]
    by_cases hd : d ∈ debts
    · rw [if_pos hd]
    · rw [if_neg hd]
      exact Option.not_isSome_iff_eq_none.mp fun hs => hd (hall d hs)

open Reference in
/-- A relayer asks for its fees, and then the user for the refund of a cancelled transfer. -/
theorem debts_settled_two :
    let calls := [recover, vote 2 relayer₁ allocation,
      call 3 owner (.updateXRPLToken xrpIssuer xrpCurrency ⟨none, none, some 1000, none⟩), send 3 5000000, cancel 4 1]
    let w₁ := run (step host) world₁ calls
    let ask := asks (fun _ => ⟨5, 5⟩) fun d => (w₁.store.due d).getD []
    ∃ w' r, step host (run (step host) w₁ [ask (.fees relayer₁.cosmosAddress)]) (ask (.refund ⟨user, "3-1"⟩)) =
      .ok (w', r) ∧ r.messages = plain [.bankSend user [⟨xrpDenom, 4999000⟩]] := by
  intro calls w₁ ask
  have hfacts : (run (step host) world₁ calls).store.config.bridgeState = .active ∧
      ((run (step host) world₁ calls).store.due (.fees relayer₁.cosmosAddress)).isSome = true ∧
      (run (step host) world₁ calls).store.due (.refund ⟨user, "3-1"⟩) = some [⟨xrpDenom, 4999000⟩] := by
    decide +kernel
  have hnone : ∀ D, (sumOver host world₁ calls fun s => returned host s D) = 0 := by
    intro D
    apply List.sum_eq_zero
    intro n hn
    obtain ⟨x, hx, rfl⟩ := List.mem_map.mp hn
    have hmem := mem_of_mem_history hx
    simp only [calls, List.mem_cons, List.not_mem_nil, or_false] at hmem
    rcases hmem with hx | hx | hx | hx | hx <;> rw [hx] <;> rfl
  obtain ⟨hactive, hfees, hrefund⟩ := hfacts
  have hnodup : [Debt.fees relayer₁.cosmosAddress, .refund ⟨user, "3-1"⟩].Nodup := by simp
  have hdue : ∀ d ∈ [Debt.fees relayer₁.cosmosAddress, .refund ⟨user, "3-1"⟩],
      ((run (step host) world₁ calls).store.due d).isSome = true := by
    simp [hfees, hrefund]
  have hsettled := debts_settled base58Sized_host started_world₁ calls (fun D => (hnone D).trans_le (Nat.zero_le _))
    hactive (fun _ => ⟨5, 5⟩) hnodup hdue
  obtain ⟨w', r, hstep, hr⟩ := hsettled.1 [.fees relayer₁.cosmosAddress] (.refund ⟨user, "3-1"⟩) [] rfl
  dsimp only at hr
  rw [hrefund] at hr
  exact ⟨w', r, hstep, hr⟩

end XrplBridge
