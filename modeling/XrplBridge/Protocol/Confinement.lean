import XrplBridge.Protocol.FeeLedger
import XrplBridge.Protocol.Tokens

/-!
# What anyone can do

Every message but four is checked for an action of the owner or of a relayer (`Contract.ExecuteMsg.action`);
who may update the ownership is left to `cw_ownable`, which lets only the owner and the proposed owner do
so (`GuardsOwnership`). The other three are for everyone: a user sends coins, claims a refund, or claims
fees, which the former relayers may still do.

`Confined` says all that such a call can change, store by store, and `unprivileged_confined` that anyone
who is neither the owner, nor the proposed owner, nor a relayer is confined to it.
-/

namespace XrplBridge

open Library Contract Std

/-- The action that a message is checked for. -/
def Contract.ExecuteMsg.action : ExecuteMsg → Option ContractActions
  | .createCosmosToken _ _ => some .createCosmosToken
  | .mintCosmosToken _ _ => some .mintCosmosToken
  | .registerCosmosToken _ _ _ _ _ => some .registerCosmosToken
  | .registerXRPLToken _ _ _ _ _ => some .registerXRPLToken
  | .recoverTickets _ _ => some .recoverTickets
  | .recoverXRPLTokenRegistration _ _ => some .recoverXRPLTokenRegistration
  | .saveSignature _ _ _ => some .saveSignature
  | .saveEvidence _ => some .saveEvidence
  | .updateXRPLToken _ _ _ => some .updateXRPLToken
  | .updateCosmosToken _ _ => some .updateCosmosToken
  | .updateXRPLBaseFee _ => some .updateXRPLBaseFee
  | .haltBridge => some .haltBridge
  | .resumeBridge => some .resumeBridge
  | .rotateKeys _ _ => some .rotateKeys
  | .updateProhibitedXRPLAddresses _ => some .updateProhibitedXRPLAddresses
  | .cancelPendingOperation _ => some .cancelPendingOperation
  | .updateUsedTicketSequenceThreshold _ => some .updateUsedTicketSequenceThreshold
  | .addRateLimit _ _ => some .addRateLimit
  | .removeRateLimit _ => some .removeRateLimit
  | .resetRateLimitQuota _ _ => some .resetRateLimitQuota
  | .updateOwnership _ | .sendToXRPL _ _ | .claimRefund _ | .claimRelayerFees _ => none

/-- `cw_ownable` lets only the owner and the proposed owner update the ownership. -/
def Contract.Host.GuardsOwnership (H : Host) : Prop :=
  ∀ ownership env sender action ownership', H.updateOwnership ownership env sender action = .ok ownership' →
    ownership.owner = some sender ∨ ownership.pendingOwner = some sender

/-- Neither the owner, nor the proposed owner, nor a relayer. -/
structure Unprivileged (s : Storage) (sender : Addr) : Prop where
  owner : s.ownership.owner ≠ some sender
  pendingOwner : s.ownership.pendingOwner ≠ some sender
  relayer : isRelayer s sender = false

/-- A fee is credited: all of it is held afterwards, by relayers or in the remainder, in its own denom. -/
structure Credited (g : FeeBooks) (fee : Coin) (g' : FeeBooks) : Prop where
  total : ∀ D, g'.total D = g.total D + if fee.denom = D then fee.amount else 0
  grows : ∀ a D, g.of a D ≤ g'.of a D
  others : ∀ a, a ∉ g.relayers → g'.collected[a]? = g.collected[a]?
  denoms : ∀ a D, D ≠ fee.denom → g'.of a D = g.of a D
  remainders : ∀ D, D ≠ fee.denom → g'.remainders[D]? = g.remainders[D]?

/-- All that a call of anyone can do: the stores that are not named stay as they are. -/
inductive Confined (s : Storage) (env : BlockInfo) (sender : Addr) (funds : List Coin) :
    ExecuteMsg → Storage → List SubMsg → Prop
  /-- The ticket at the front becomes a transfer of the sender, and the fee is credited. -/
  | sent {recipient issuer currency : String} {deliver maxAmount : Option ℕ} {coin : Coin} {ticket amount fee : ℕ}
      {tickets : List ℕ} {feesCollected : ExtTreeMap Addr (List Coin)} {feeRemainders : ExtTreeMap String ℕ}
      {ms : List SubMsg} (paid : funds = [coin]) (front : s.availableTickets = ticket :: tickets)
      (unused : s.pendingOperations[ticket]? = none) (taken : sentFee s coin = some ⟨coin.denom, fee⟩)
      (credited : Credited s.feeBooks ⟨coin.denom, fee⟩ ⟨s.feeBooks.relayers, feesCollected, feeRemainders⟩) :
      Confined s env sender funds (.sendToXRPL recipient deliver)
        { s with
          availableTickets := tickets
          pendingOperations := s.pendingOperations.insert ticket (newOperation s env.seconds ticket (some ticket) none
            (.cosmosToXRPLTransfer issuer currency amount maxAmount sender recipient))
          feesCollected := feesCollected
          feeRemainders := feeRemainders } ms
  /-- A refund of the sender is removed, and paid to it. -/
  | refunded {id : String} {refund : PendingRefund} (own : s.pendingRefunds[RefundKey.mk sender id]? = some refund) :
      Confined s env sender funds (.claimRefund id)
        { s with pendingRefunds := s.pendingRefunds.erase ⟨sender, id⟩ }
        (plain [.bankSend sender [refund.coin]])
  /-- What the sender has collected decreases by what is paid to it. -/
  | claimed {amounts coins rest : List Coin} (own : s.feesCollected[sender]? = some coins)
      (exact : ∀ D, coinsOf D coins = coinsOf D rest + coinsOf D amounts) :
      Confined s env sender funds (.claimRelayerFees amounts)
        { s with feesCollected := s.feesCollected.insert sender rest } (plain [.bankSend sender amounts])

variable {H : Host} {s s' : Storage} {q : Querier} {env : BlockInfo} {sender : Addr} {funds : List Coin}
  {msg : ExecuteMsg} {r : Response} {w : World} {bridge : String}

/-! ### Who may do what -/

/-- **A message is checked for its action.** -/
theorem checkAuthorization_of_execute {action : ContractActions}
    (h : execute H s q env sender funds msg = .ok (s', r)) (ha : msg.action = some action) :
    checkAuthorization s sender action = .ok () := by
  cases msg <;> cases ha
  all_goals
    simp only [execute, createCosmosToken, mintCosmosToken, registerCosmosToken, registerXRPLToken, recoverTickets,
      recoverXRPLTokenRegistration, saveSignature, saveEvidence, updateXRPLToken, updateCosmosToken, updateXRPLBaseFee,
      haltBridge, resumeBridge, rotateKeys, updateProhibitedXRPLAddresses, cancelPendingOperation,
      updateUsedTicketSequenceThreshold, executeAddRateLimit, executeRemoveRateLimit, executeResetRateLimitQuota,
      executeRateLimit, bind_eq_ok] at h
    obtain ⟨_, hauth, -⟩ := h
    exact hauth

/-- Whoever is neither the owner nor a relayer is refused every action. -/
theorem Unprivileged.refused (h : Unprivileged s sender) (action : ContractActions) :
    checkAuthorization s sender action ≠ .ok () := by
  have howner : isOwner s sender = false := by simpa [isOwner] using h.owner
  simp [checkAuthorization, howner, h.relayer, failIf_eq_ok]

theorem Unprivileged.action (h : Unprivileged s sender) (hx : execute H s q env sender funds msg = .ok (s', r)) :
    msg.action = none := by
  cases ha : msg.action with
  | none => rfl
  | some action => exact absurd (checkAuthorization_of_execute hx ha) (h.refused action)

/-! ### What is changed -/

theorem FeeBooks.Step.credited {g g' : FeeBooks} {fee : Coin} (h : g.Step (some (.collected fee)) g') :
    Credited g fee g' := by
  generalize hl : some (FeeEvent.collected fee) = l at h
  cases h with
  | kept => cases hl
  | claimed => cases hl
  | nothing =>
    cases hl
    exact ⟨fun D => by simp, fun _ _ => le_rfl, fun _ _ => rfl, fun _ _ _ => rfl, fun _ _ => rfl⟩
  | collected hsplit _ htotal =>
    cases hl
    refine ⟨htotal, fun a D => ?_, hsplit.others, hsplit.denoms, fun D hD => ?_⟩
    · by_cases ha : a ∈ g.relayers
      · by_cases hD : D = fee.denom
        · rw [hD, hsplit.credited a ha]
          exact Nat.le_add_right _ _
        · exact (hsplit.denoms a D hD).ge
      · unfold FeeBooks.of
        rw [hsplit.others a ha]
    · rw [hsplit.remainder, getElem?_insert_ne (Ne.symm hD)]

/-- A claim takes from the sender's coins what it pays. -/
theorem substractRelayerFees_own {amounts : List Coin} (h : substractRelayerFees s sender amounts = .ok s') :
    ∃ coins rest, s.feesCollected[sender]? = some coins ∧
      s' = { s with feesCollected := s.feesCollected.insert sender rest } ∧
        ∀ D, coinsOf D coins = coinsOf D rest + coinsOf D amounts := by
  simp only [substractRelayerFees, bind_eq_ok, orFail_eq_ok, pure_eq_ok] at h
  obtain ⟨coins, hcoins, rest, hrest, rfl⟩ := h
  refine ⟨coins, _, hcoins, rfl, fun D => ?_⟩
  rw [coinsOf_filter_ne_zero]
  exact foldlM_takeFromCoins_eq_ok hrest D

/-- A transfer is opened on the store that the fee has been collected in. -/
theorem confined_sent {s₁ : Storage} {recipient issuer currency denom : String} {deliver maxAmount : Option ℕ}
    {coin : Coin} {amount bridgingFee remainder fee : ℕ} {ms : List SubMsg} (hpaid : funds = [coin])
    (hfee : sentFee s coin = some ⟨denom, bridgingFee + remainder⟩) (hdenom : denom = coin.denom)
    (hrs : s.feeBooks.relayers.Nodup) (hc : handleFeeCollection s bridgingFee denom remainder = .ok (s₁, fee))
    (ho : Opens s₁ env.seconds (.cosmosToXRPLTransfer issuer currency amount maxAmount sender recipient) s') :
    Confined s env sender funds (.sendToXRPL recipient deliver) s' ms := by
  have hcredited := (handleFeeCollection_feeBooks hrs hc).credited
  obtain ⟨⟨fc, fr, rfl⟩, -⟩ := handleFeeCollection_eq_ok hc
  subst hdenom
  cases ho with
  | intro hfront _ hunused => exact .sent hpaid hfront hunused hfee hcredited

/-- **What anyone can do**, from a state with distinct relayers and sound registries. -/
theorem Contract.Effect.confined {ms : List SubMsg} (h : Effect H s q env sender funds msg s' ms)
    (hreg : s.registry.Sound H bridge) (hrs : s.feeBooks.relayers.Nodup) (ha : msg.action = none)
    (hown : ∀ action, msg ≠ .updateOwnership action) : Confined s env sender funds msg s' ms := by
  cases h with
  | sentXRPL hpaid htoken _ hc ho _ hf ht =>
    exact confined_sent hpaid (sentFee_xrpl htoken hf ht) (IndexedMap.item_eq_some.mp htoken).2 hrs hc ho
  | sentCosmos hpaid hno htoken _ _ _ hc ho _ ht =>
    exact confined_sent hpaid (sentFee_cosmos hno htoken ht)
      (hreg.cosmosKey _ _ (registry_cosmos htoken)).symm hrs hc ho
  | claimedRefund _ hrefund => exact .refunded hrefund
  | claimedFees _ htaken =>
    obtain ⟨coins, rest, hcoins, rfl, hexact⟩ := substractRelayerFees_own htaken
    exact .claimed hcoins hexact
  | owned => exact absurd rfl (hown _)
  | _ => cases ha

/-! ### In every run -/

/-- **Unprivileged senders are confined**: in every state of a run, a call that succeeds although its
sender is neither the owner, nor the proposed owner, nor a relayer sends coins, claims a refund of the
sender, or claims fees of the sender, and changes nothing else. -/
theorem unprivileged_confined (hguard : H.GuardsOwnership) (h : Started H w) (calls : List Call)
    (hun : Unprivileged (run (step H) w calls).store sender)
    (hx : execute H (run (step H) w calls).store q env sender funds msg = .ok (s', r)) :
    Confined (run (step H) w calls).store env sender funds msg s' r.messages := by
  refine (effect_of_execute hx).confined (run_registered h calls).sound (run_quorum h calls).relayers.cosmos
    (hun.action hx) ?_
  rintro action rfl
  simp only [execute, updateOwnership] at hx
  split at hx
  · rename_i ownership hok
    rcases hguard _ _ _ _ _ hok with howner | hpending
    · exact hun.owner howner
    · exact hun.pendingOwner hpending
  · simp at hx

open Reference in
/-- A user sends XRP, and is confined to that. -/
theorem unprivileged_confined_sent :
    let s := (run (step host) world₁ [recover, vote 2 relayer₁ allocation]).store
    ∃ s' r, execute host s ⟨fun _ => 0, fun _ => 0⟩ ⟨1, 3 * 10 ^ 9⟩ user [⟨xrpDenom, 1000000⟩]
        (.sendToXRPL relayer₃.xrplAddress none) = .ok (s', r) ∧
      Confined s ⟨1, 3 * 10 ^ 9⟩ user [⟨xrpDenom, 1000000⟩] (.sendToXRPL relayer₃.xrplAddress none) s' r.messages := by
  intro s
  obtain ⟨⟨s', r⟩, hx⟩ := exists_of_isOk (x := execute host s ⟨fun _ => 0, fun _ => 0⟩ ⟨1, 3 * 10 ^ 9⟩ user
    [⟨xrpDenom, 1000000⟩] (.sendToXRPL relayer₃.xrplAddress none)) (by decide +kernel)
  refine ⟨s', r, hx, unprivileged_confined ?_ started_world₁ [recover, vote 2 relayer₁ allocation] ?_ hx⟩
  · exact fun _ _ _ _ _ hok => owner_of_updateOwnership hok
  · exact ⟨by decide +kernel, by decide +kernel, by decide +kernel⟩

end XrplBridge
