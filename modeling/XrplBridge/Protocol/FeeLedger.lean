import XrplBridge.Protocol.Quorum
import XrplBridge.Reference

/-!
# The fee ledger

What the relayers earn: the coins collected for each of them, and the remainder of each denom
that did not divide. `FeeBooks.Step` says what may happen to them, labelled with what is
collected or claimed; a collection is split evenly among the relayers of that moment.

`fees_conserved` is the result for every run: what has been collected is held for someone, kept
in a remainder, or has been paid out.
-/

namespace XrplBridge

open Library Contract Std

/-- What is collected for the relayers, or claimed by one of them. -/
inductive FeeEvent where
  | collected (fee : Coin)
  | claimed (amounts : List Coin)
  deriving DecidableEq, Repr

/-- What an event adds to the fees. -/
def FeeEvent.adds (D : String) : FeeEvent → ℕ
  | collected fee => if fee.denom = D then fee.amount else 0
  | claimed _ => 0

/-- What an event takes from the fees. -/
def FeeEvent.takes (D : String) : FeeEvent → ℕ
  | collected _ => 0
  | claimed amounts => coinsOf D amounts

/-- The fees: the relayers of the moment, what is collected for whom, and what did not divide. -/
structure FeeBooks where
  relayers : List Addr
  collected : ExtTreeMap Addr (List Coin)
  remainders : ExtTreeMap String ℕ

/-- The fees of the contract. -/
def Contract.Storage.feeBooks (s : Storage) : FeeBooks where
  relayers := s.config.relayers.map Relayer.cosmosAddress
  collected := s.feesCollected
  remainders := s.feeRemainders

namespace FeeBooks

/-- What someone has collected of a denom. -/
def of (g : FeeBooks) (a : Addr) (D : String) : ℕ := coinsOf D (g.collected[a]?.getD [])

/-- What is kept of a denom, over all addresses and with the remainder. -/
def total (g : FeeBooks) (D : String) : ℕ := collectedOf g.collected D + g.remainders[D]?.getD 0

/-- What there is to split with a new fee. -/
def pot (g : FeeBooks) (fee : Coin) : ℕ := fee.amount + g.remainders[fee.denom]?.getD 0

/-- A list holds each denom at most once. -/
def Distinct (g : FeeBooks) : Prop :=
  ∀ (a : Addr) (cs : List Coin), g.collected[a]? = some cs → (cs.map Coin.denom).Nodup

/-- A new fee is split: every relayer is credited the same share of what there is, no other
address changes, and less than one for each relayer remains. -/
structure Split (g : FeeBooks) (fee : Coin) (g' : FeeBooks) : Prop where
  relayers : g'.relayers = g.relayers
  credited : ∀ a ∈ g.relayers, g'.of a fee.denom = g.of a fee.denom + g.pot fee / g.relayers.length
  denoms : ∀ a D, D ≠ fee.denom → g'.of a D = g.of a D
  others : ∀ a, a ∉ g.relayers → g'.collected[a]? = g.collected[a]?
  remainder : g'.remainders = g.remainders.insert fee.denom (g.pot fee % g.relayers.length)
  below : g.pot fee % g.relayers.length < g.relayers.length

/-- One step, labelled with what is collected or claimed in it. -/
inductive Step (g : FeeBooks) : Option FeeEvent → FeeBooks → Prop
  | kept {relayers : List Addr} : Step g none { g with relayers }
  | nothing {denom : String} : Step g (some (.collected ⟨denom, 0⟩)) g
  | collected {fee : Coin} {g' : FeeBooks} (split : g.Split fee g') (distinct : g.Distinct → g'.Distinct)
      (total : ∀ D, g'.total D = g.total D + if fee.denom = D then fee.amount else 0) :
      Step g (some (.collected fee)) g'
  | claimed {amounts : List Coin} {g' : FeeBooks} (distinct : g.Distinct → g'.Distinct)
      (total : ∀ D, g.total D = g'.total D + coinsOf D amounts) : Step g (some (.claimed amounts)) g'

theorem Step.split {g g' : FeeBooks} {fee : Coin} (h : g.Step (some (.collected fee)) g') (hpos : fee.amount ≠ 0) :
    g.Split fee g' := by
  generalize hl : some (FeeEvent.collected fee) = l at h
  cases h with
  | kept => cases hl
  | nothing =>
    cases hl
    exact absurd rfl hpos
  | collected hsplit =>
    cases hl
    exact hsplit
  | claimed => cases hl

/-- The events so far account for the fees, and no list holds a denom twice. -/
structure Balanced (events : List FeeEvent) (g : FeeBooks) : Prop where
  balance : ∀ D, (events.map (FeeEvent.adds D)).sum = g.total D + (events.map (FeeEvent.takes D)).sum
  distinct : g.Distinct

theorem Balanced.step {events : List FeeEvent} {g g' : FeeBooks} {l : Option FeeEvent} (h : Balanced events g)
    (hs : g.Step l g') : Balanced (events ++ l.toList) g' := by
  cases hs with
  | kept =>
    rw [Option.toList_none, List.append_nil]
    exact ⟨h.balance, h.distinct⟩
  | nothing => exact ⟨fun D => by simpa [FeeEvent.adds, FeeEvent.takes] using h.balance D, h.distinct⟩
  | collected _ hdistinct htotal =>
    refine ⟨fun D => ?_, hdistinct h.distinct⟩
    have hb := h.balance D
    have ht := htotal D
    simp only [Option.toList_some, List.map_append, List.sum_append, List.map_singleton, List.sum_singleton,
      FeeEvent.adds, FeeEvent.takes]
    omega
  | claimed hdistinct htotal =>
    refine ⟨fun D => ?_, hdistinct h.distinct⟩
    have hb := h.balance D
    have ht := htotal D
    simp only [Option.toList_some, List.map_append, List.sum_append, List.map_singleton, List.sum_singleton,
      FeeEvent.adds, FeeEvent.takes]
    omega

end FeeBooks

/-! ### The contract's functions -/

section Functions

variable {s s' : Storage}

/-- The shares of a fee, whether there is one or nothing to share. -/
theorem shareFees_shares {denom : String} {amount : ℕ} {fc : ExtTreeMap Addr (List Coin)}
    (hrs : s.feeBooks.relayers.Nodup) (h : shareFees s denom amount = .ok fc) (a : Addr) :
    (∀ D, coinsOf D (fc[a]?.getD []) =
        s.feeBooks.of a D + if a ∈ s.feeBooks.relayers ∧ denom = D then amount else 0) ∧
      (a ∉ s.feeBooks.relayers → fc[a]? = s.feesCollected[a]?) ∧
      (s.feeBooks.Distinct → ∀ cs : List Coin, fc[a]? = some cs → (cs.map Coin.denom).Nodup) := by
  unfold shareFees at h
  split_ifs at h with hz
  · cases h
    exact ⟨fun D => by simp [hz, FeeBooks.of, Storage.feeBooks], fun _ => rfl, fun hd => hd a⟩
  · obtain ⟨hin, hout⟩ := foldlM_addRelayerFees_shares hrs h a
    by_cases ha : a ∈ s.feeBooks.relayers
    · obtain ⟨cs, hcs, hadd⟩ := hin ha
      refine ⟨fun D => ?_, fun hno => absurd ha hno, fun hd cs' hcs' => ?_⟩
      · rw [hcs, Option.getD_some, addToCoins_eq_ok hadd D]
        simp only [ha, true_and]
        rfl
      · rw [hcs] at hcs'
        cases hcs'
        apply addToCoins_nodup hadd
        cases hold : s.feesCollected[a]? with
        | none => exact List.nodup_nil
        | some old => exact hd a old hold
    · have hsame := hout ha
      refine ⟨fun D => ?_, fun _ => hsame, fun hd cs hcs => hd a cs (hsame ▸ hcs)⟩
      rw [hsame, if_neg fun hc => ha hc.1]
      rfl

theorem collectFees_feeBooks {fee : Coin} (hrs : s.feeBooks.relayers.Nodup) (h : collectFees s fee = .ok s') :
    s.feeBooks.Step (some (.collected fee)) s'.feeBooks := by
  by_cases hpos : fee.amount = 0
  · rw [collectFees, if_pos hpos] at h
    cases h
    obtain ⟨denom, amount⟩ := fee
    cases hpos
    exact .nothing
  obtain ⟨-, htotal⟩ := collectFees_eq_ok h
  simp only [collectFees, if_neg hpos, bind_eq_ok, checkedDiv_eq_ok, checkedMul_eq_ok, checkedSub_eq_ok,
    pure_eq_ok] at h
  obtain ⟨n, hn, each, ⟨hlen, rfl⟩, fc, hfc, shared, ⟨-, rfl⟩, rem, ⟨-, rfl⟩, rfl⟩ := h
  obtain rfl := totalFee_eq_ok hn
  have hlength : s.feeBooks.relayers.length = s.config.relayers.length := List.length_map _
  have hshares := shareFees_shares hrs hfc
  refine .collected ⟨rfl, fun a ha => ?_, fun a D hD => ?_, fun a ha => (hshares a).2.1 ha, ?_, ?_⟩
    (fun hd a cs hcs => (hshares a).2.2 hd cs hcs) htotal
  · rw [hlength]
    apply ((hshares a).1 fee.denom).trans
    rw [if_pos ⟨ha, rfl⟩]
    rfl
  · apply ((hshares a).1 D).trans
    rw [if_neg fun hc => hD hc.2.symm, Nat.add_zero]
  · rw [hlength, Nat.mod_eq_sub_div_mul]
    rfl
  · rw [hlength]
    exact Nat.mod_lt _ (Nat.pos_of_ne_zero hlen)

theorem handleFeeCollection_feeBooks {bridgingFee remainder fee : ℕ} {denom : String}
    (hrs : s.feeBooks.relayers.Nodup) (h : handleFeeCollection s bridgingFee denom remainder = .ok (s', fee)) :
    s.feeBooks.Step (some (.collected ⟨denom, bridgingFee + remainder⟩)) s'.feeBooks := by
  simp only [handleFeeCollection, bind_eq_ok, checkedAdd_eq_ok, pure_eq_ok, Prod.mk.injEq] at h
  obtain ⟨f, ⟨-, rfl⟩, s₁, hs, rfl, rfl⟩ := h
  exact collectFees_feeBooks hrs hs

theorem substractRelayerFees_feeBooks {sender : Addr} {amounts : List Coin}
    (h : substractRelayerFees s sender amounts = .ok s') :
    s.feeBooks.Step (some (.claimed amounts)) s'.feeBooks := by
  obtain ⟨-, htotal⟩ := substractRelayerFees_eq_ok h
  simp only [substractRelayerFees, bind_eq_ok, orFail_eq_ok, pure_eq_ok] at h
  obtain ⟨coins, hc, rest, hr, rfl⟩ := h
  refine .claimed (fun hd a cs hcs => ?_) htotal
  rcases getElem?_of_insert hcs with ⟨rfl, rfl⟩ | ⟨-, hold⟩
  · apply List.Nodup.sublist (List.filter_sublist.map _)
    rw [foldlM_takeFromCoins_denoms hr]
    exact hd _ _ hc
  · exact hd a cs hold

end Functions

/-! ### Calls -/

/-- The fee of a transfer from XRPL, with what its truncation cuts off. -/
def receivedFee (s : Storage) (e : TransferEvidence) : Option Coin :=
  if e.issuer ≠ s.config.bridgeXRPLAddress then do
    let token ← s.xrplTokens.primary[buildXRPLTokenKey e.issuer e.currency]?
    let afterFees ← (amountAfterBridgeFees e.amount token.bridgingFee).toOption
    let (_, remainder) ← (truncateAmount token.sendingPrecision (xrplDecimals token.issuer token.currency)
      afterFees).toOption
    some ⟨token.cosmosDenom, token.bridgingFee + remainder⟩
  else do
    let (_, token) ← s.cosmosTokens.item e.currency
    let (_, remainder) ← (convertAndTruncateAmount token.sendingPrecision xrplTokensDecimals token.decimals e.amount
      token.bridgingFee).toOption
    some ⟨token.denom, token.bridgingFee + remainder⟩

/-- The fee of a transfer to XRPL, with what its truncation cuts off. -/
def sentFee (s : Storage) (coin : Coin) : Option Coin :=
  match s.xrplTokens.item coin.denom with
  | some (_, token) => do
    let afterFees ← (amountAfterBridgeFees coin.amount token.bridgingFee).toOption
    let (_, remainder) ← (truncateAmount token.sendingPrecision (xrplDecimals token.issuer token.currency)
      afterFees).toOption
    some ⟨token.cosmosDenom, token.bridgingFee + remainder⟩
  | none => do
    let token ← s.cosmosTokens.primary[coin.denom]?
    let (_, remainder) ← (truncateAndConvertAmount token.sendingPrecision token.decimals xrplTokensDecimals
      coin.amount token.bridgingFee).toOption
    some ⟨token.denom, token.bridgingFee + remainder⟩

section Fees

variable {s : Storage} {amountToSend remainder afterFees : ℕ}

theorem receivedFee_xrpl {e : TransferEvidence} {token : XRPLToken} (hforeign : e.issuer ≠ s.config.bridgeXRPLAddress)
    (hr : s.xrplTokens.primary[buildXRPLTokenKey e.issuer e.currency]? = some token)
    (hcovered : amountAfterBridgeFees e.amount token.bridgingFee = .ok afterFees)
    (ht : truncateAmount token.sendingPrecision (xrplDecimals token.issuer token.currency) afterFees =
      .ok (amountToSend, remainder)) :
    receivedFee s e = some ⟨token.cosmosDenom, token.bridgingFee + remainder⟩ := by
  rw [receivedFee, if_pos hforeign]
  refine Option.bind_eq_some_iff.mpr ⟨token, hr, ?_⟩
  refine Option.bind_eq_some_iff.mpr ⟨afterFees, toOption_of_ok hcovered, ?_⟩
  exact Option.bind_eq_some_iff.mpr ⟨_, toOption_of_ok ht, rfl⟩

theorem receivedFee_cosmos {e : TransferEvidence} {denom : String} {token : CosmosToken}
    (hown : e.issuer = s.config.bridgeXRPLAddress) (hr : s.cosmosTokens.item e.currency = some (denom, token))
    (ht : convertAndTruncateAmount token.sendingPrecision xrplTokensDecimals token.decimals e.amount
      token.bridgingFee = .ok (amountToSend, remainder)) :
    receivedFee s e = some ⟨token.denom, token.bridgingFee + remainder⟩ := by
  rw [receivedFee, if_neg (not_not.mpr hown)]
  refine Option.bind_eq_some_iff.mpr ⟨(denom, token), hr, ?_⟩
  exact Option.bind_eq_some_iff.mpr ⟨_, toOption_of_ok ht, rfl⟩

theorem sentFee_xrpl {coin : Coin} {key : String} {token : XRPLToken}
    (hr : s.xrplTokens.item coin.denom = some (key, token))
    (hcovered : amountAfterBridgeFees coin.amount token.bridgingFee = .ok afterFees)
    (ht : truncateAmount token.sendingPrecision (xrplDecimals token.issuer token.currency) afterFees =
      .ok (amountToSend, remainder)) :
    sentFee s coin = some ⟨token.cosmosDenom, token.bridgingFee + remainder⟩ := by
  rw [sentFee, hr]
  refine Option.bind_eq_some_iff.mpr ⟨afterFees, toOption_of_ok hcovered, ?_⟩
  exact Option.bind_eq_some_iff.mpr ⟨_, toOption_of_ok ht, rfl⟩

theorem sentFee_cosmos {coin : Coin} {token : CosmosToken} (hno : s.xrplTokens.item coin.denom = none)
    (hr : s.cosmosTokens.primary[coin.denom]? = some token)
    (ht : truncateAndConvertAmount token.sendingPrecision token.decimals xrplTokensDecimals coin.amount
      token.bridgingFee = .ok (amountToSend, remainder)) :
    sentFee s coin = some ⟨token.denom, token.bridgingFee + remainder⟩ := by
  rw [sentFee, hno]
  refine Option.bind_eq_some_iff.mpr ⟨token, hr, ?_⟩
  exact Option.bind_eq_some_iff.mpr ⟨_, toOption_of_ok ht, rfl⟩

end Fees

/-- What a call collects or claims, if it succeeds. -/
def feeEvent (H : Host) (s : Storage) (funds : List Coin) : ExecuteMsg → Option FeeEvent
  | .saveEvidence (.xrplToCosmosTransfer e) =>
    if s.reaches H (.xrplToCosmosTransfer e) then (receivedFee s e).map .collected else none
  | .sendToXRPL _ _ => (funds.head?.bind (sentFee s)).map .collected
  | .claimRelayerFees amounts => some (.claimed amounts)
  | _ => none

/-- What the calls of a run collect and claim, in order. -/
def feeEvents (H : Host) (w : World) (calls : List Call) : List FeeEvent :=
  labels (step H) (fun w c => feeEvent H w.store c.funds c.msg) w calls

section Frames

variable {H : Host} {s s' s₁ : Storage}

/-- Both stores of the fees. -/
def Contract.Storage.fees (s : Storage) : ExtTreeMap Addr (List Coin) × ExtTreeMap String ℕ :=
  (s.feesCollected, s.feeRemainders)

/-- The relayers may change while the fees are left alone. -/
theorem step_of_fees (h : s'.fees = s.fees) : s.feeBooks.Step none s'.feeBooks := by
  have : s'.feeBooks = { s.feeBooks with relayers := s'.config.relayers.map Relayer.cosmosAddress } := by
    simp only [Storage.feeBooks, show s'.feesCollected = s.feesCollected from congrArg Prod.fst h,
      show s'.feeRemainders = s.feeRemainders from congrArg Prod.snd h]
  rw [this]
  exact .kept

theorem Contract.Votes.feeBooks {sender : Addr} {e : Evidence} {reached : Bool} (h : Votes H s sender e s' reached) :
    s'.feeBooks = s.feeBooks := by
  cases h <;> rfl

theorem Contract.Opens.feeBooks {timestamp : ℕ} {operationType : OperationType}
    (h : Opens s timestamp operationType s') : s'.feeBooks = s.feeBooks := by
  cases h
  rfl

theorem endOperation_fees (s : Storage) (result : TransactionResult) (k : ℕ) (ticket : Option ℕ) :
    (endOperation s result k ticket).fees = s.fees := by
  obtain ⟨_, hend⟩ := endOperation_frame s result k ticket
  rw [hend]
  rfl

theorem Contract.Registers.fees {timestamp : ℕ} (h : Registers s timestamp s') : s'.fees = s.fees := by
  cases h <;> rfl

theorem Contract.Settles.fees {env : BlockInfo} {e : ResultEvidence} {k : ℕ} (h : Settles s env e k s') :
    s'.fees = s.fees := by
  cases h with
  | registered _ _ hr => rw [hr.fees, endOperation_fees]
  | unregistered => exact endOperation_fees ..

theorem Contract.Handled.fees {o : Operation} {operationResult : Option OperationResult} {result : TransactionResult}
    {txHash : Option String} {tokenFactoryAddr burnAddr : Addr} {msgs : List CosmosMsg}
    (h : Handled s o operationResult result txHash tokenFactoryAddr burnAddr s' msgs) : s'.fees = s.fees := by
  cases h <;> rfl

theorem Contract.Votes.fees {sender : Addr} {e : Evidence} {reached : Bool} (h : Votes H s sender e s' reached) :
    s'.fees = s.fees := by
  cases h <;> rfl

/-- **The calls of the contract are steps of the fee ledger.** -/
theorem Contract.Effect.feeBooks {q : Querier} {env : BlockInfo} {sender : Addr} {funds : List Coin}
    {msg : ExecuteMsg} {ms : List SubMsg} (h : Effect H s q env sender funds msg s' ms)
    (hrs : s.feeBooks.relayers.Nodup) : s.feeBooks.Step (feeEvent H s funds msg) s'.feeBooks := by
  have hkept : ∀ {msg}, s'.fees = s.fees → feeEvent H s funds msg = none →
      s.feeBooks.Step (feeEvent H s funds msg) s'.feeBooks :=
    fun h₁ h₂ => by rw [h₂]; exact step_of_fees h₁
  cases h with
  | @voted e _ _ hv =>
    apply hkept hv.fees
    cases e with
    | xrplToCosmosTransfer => simp [feeEvent, hv.reaches]
    | xrplTransactionResult => rfl
  | receivedXRPL _ hv hforeign hr _ hc _ _ _ _ hcovered ht =>
    have hstep := handleFeeCollection_feeBooks (hv.feeBooks ▸ hrs) hc
    rw [hv.feeBooks] at hstep
    rw [feeEvent, if_pos hv.reaches, receivedFee_xrpl hforeign hr hcovered ht]
    exact hstep
  | receivedCosmos _ hv hown hr _ hc _ _ _ ht =>
    have hstep := handleFeeCollection_feeBooks (hv.feeBooks ▸ hrs) hc
    rw [hv.feeBooks] at hstep
    rw [feeEvent, if_pos hv.reaches, receivedFee_cosmos hown hr ht]
    exact hstep
  | completed _ _ hv _ _ _ hh hset => exact hkept (hset.fees.trans (hh.fees.trans hv.fees)) rfl
  | cancelled _ hh => exact hkept ((endOperation_fees ..).trans hh.fees) rfl
  | sentXRPL hpaid hr _ hc ho _ hcovered ht =>
    have hstep := handleFeeCollection_feeBooks hrs hc
    rw [ho.feeBooks, feeEvent, hpaid, List.head?_cons, Option.bind_some, sentFee_xrpl hr hcovered ht]
    exact hstep
  | sentCosmos hpaid hno hr _ _ _ hc ho _ ht =>
    have hstep := handleFeeCollection_feeBooks hrs hc
    rw [ho.feeBooks, feeEvent, hpaid, List.head?_cons, Option.bind_some, sentFee_cosmos hno hr ht]
    exact hstep
  | registeredXRPL _ _ _ _ _ ho => exact hkept (by cases ho; rfl) rfl
  | recoveredXRPL _ _ ho => exact hkept (by cases ho; rfl) rfl
  | rotating _ _ ho => exact hkept (by cases ho; rfl) rfl
  | claimedFees _ ht => exact substractRelayerFees_feeBooks ht
  | _ => exact hkept rfl rfl

/-- A claim is paid out to the relayer. -/
theorem Contract.Effect.paid {q : Querier} {env : BlockInfo} {sender : Addr} {funds amounts : List Coin}
    {ms : List SubMsg} (h : Effect H s q env sender funds (.claimRelayerFees amounts) s' ms) :
    ms = plain [.bankSend sender amounts] := by
  cases h
  rfl

theorem feeEvent_eq_claimed {funds amounts : List Coin} {msg : ExecuteMsg}
    (h : feeEvent H s funds msg = some (.claimed amounts)) : msg = .claimRelayerFees amounts := by
  unfold feeEvent at h
  split at h
  · split_ifs at h
    obtain ⟨_, -, heq⟩ := Option.map_eq_some_iff.mp h
    cases heq
  · obtain ⟨_, -, heq⟩ := Option.map_eq_some_iff.mp h
    cases heq
  · cases h
    rfl
  · cases h

end Frames

/-! ### In every run -/

variable {H : Host} {w w' : World}

theorem run_feeBooks (h : Started H w) (calls : List Call) :
    FeeBooks.Balanced (feeEvents H w calls) (run (step H) w calls).store.feeBooks := by
  refine run_simulation (f := fun w : World => w.store.feeBooks) (R := FeeBooks.Step)
    (I := fun w : World => w.store.tempUniversalSwap = none ∧ w.store.books.Created ∧ Quorum w.store) ?_
    (fun hb hs => hb.step hs) ⟨started_tempUniversalSwap h, run_created h [], run_quorum h []⟩ ?_ calls
  · rintro w c w' r ⟨hs, hc, hq⟩ hstep
    have he := (step_eq_ok hs hstep).1
    exact ⟨⟨(congrArg Prod.fst he.fixed).trans hs, hc.step he.books, hq.step hc he.polled⟩, he.feeBooks hq.relayers.cosmos⟩
  · obtain ⟨msg, m, -, -, -, -, hs⟩ := started_eq h
    rw [hs]
    exact ⟨by simp [FeeBooks.total, Storage.feeBooks, initialStorage, collectedOf],
      by simp [FeeBooks.Distinct, Storage.feeBooks, initialStorage]⟩

/-- **The fee ledger is conserved**, in every run: what has been collected of a denom is held for
some address, kept in the remainder, or has been paid out by claims; no list holds a denom twice;
and each collection of something is split evenly among the relayers of that moment. -/
theorem fees_conserved (h : Started H w) (calls : List Call) :
    (∀ D, ((feeEvents H w calls).map (FeeEvent.adds D)).sum =
        collectedOf (run (step H) w calls).store.feesCollected D +
            (run (step H) w calls).store.feeRemainders[D]?.getD 0 +
          ((feeEvents H w calls).map (FeeEvent.takes D)).sum) ∧
      (∀ (a : Addr) (cs : List Coin), (run (step H) w calls).store.feesCollected[a]? = some cs →
        (cs.map Coin.denom).Nodup) ∧
      ∀ c w' r, step H (run (step H) w calls) c = .ok (w', r) →
        (∀ fee, feeEvent H (run (step H) w calls).store c.funds c.msg = some (.collected fee) → fee.amount ≠ 0 →
          (run (step H) w calls).store.feeBooks.Split fee w'.store.feeBooks) ∧
        ∀ amounts, feeEvent H (run (step H) w calls).store c.funds c.msg = some (.claimed amounts) →
          r.messages = plain [.bankSend c.sender amounts] := by
  have hbalanced := run_feeBooks h calls
  refine ⟨hbalanced.balance, hbalanced.distinct, fun c w' r hstep => ⟨fun fee hfee hpos => ?_, fun amounts hclaim => ?_⟩⟩
  · have hs := (run_effect h hstep).feeBooks (run_quorum h calls).relayers.cosmos
    rw [hfee] at hs
    exact hs.split hpos
  · exact ((feeEvent_eq_claimed hclaim) ▸ run_effect h hstep).paid

open Reference in
/-- Of a fee of 1000, three relayers get 333 each; one of them is paid 300, and 700 are left. -/
theorem fees_conserved_claimed :
    let calls := [recover, vote 2 relayer₁ allocation, vote 2 relayer₂ allocation,
      call 3 owner (.updateXRPLToken xrpIssuer xrpCurrency ⟨none, none, some 1000, none⟩), send 4 5000000,
      call 5 relayer₁.cosmosAddress (.claimRelayerFees [⟨xrpDenom, 300⟩])]
    1000 = collectedOf (run (step host) world₂ calls).store.feesCollected xrpDenom +
      (run (step host) world₂ calls).store.feeRemainders[xrpDenom]?.getD 0 + 300 := by
  intro calls
  have hevents : feeEvents host world₂ calls = [.collected ⟨xrpDenom, 1000⟩, .claimed [⟨xrpDenom, 300⟩]] := by
    decide +kernel
  have hbalance := (fees_conserved started_world₂ calls).1 xrpDenom
  rw [hevents] at hbalance
  simpa [FeeEvent.adds, FeeEvent.takes] using hbalance

end XrplBridge
