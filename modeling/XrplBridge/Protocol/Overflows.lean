import XrplBridge.Contract.Panics
import XrplBridge.Protocol.FeeLedger
import XrplBridge.Protocol.Precision

/-!
# Overflows

The functions that compute amounts and fees return an error where they can, but three sums and powers
are not checked: the power of ten that an amount is cut to, the one that it is converted by, and what a
relayer has collected with one more share (`FeeBooks.Overflows`).

The decimals of a token are at most 100, and a `u128` holds no power of ten beyond the 38th.
`SendOverflows` and `ReceiveOverflows` have one case for each way to an overflow, with the checks that
come before it, and the two directions of the bridge panic in these cases and in no others
(`panics_sendToXRPL`, `panics_saveTransferEvidence`).
-/

namespace XrplBridge

open Library Contract Std

/-! ### The credit of a fee -/

/-- The share of a fee takes what a relayer has collected over a `u128`. -/
structure FeeBooks.Overflows (g : FeeBooks) (fee : Coin) : Prop where
  due : fee.amount ≠ 0
  pot : g.pot fee < u128Bound
  share : g.pot fee / g.relayers.length ≠ 0
  exceeds : ∃ a ∈ g.relayers, u128Bound ≤ g.of a fee.denom + g.pot fee / g.relayers.length

section Credit

variable {s : Storage} {fee : Coin}

theorem totalFee_eq_ok_iff {n : ℕ} (ha : fee.amount < u128Bound) :
    totalFee s fee = .ok n ↔ s.feeBooks.pot fee < u128Bound ∧ n = s.feeBooks.pot fee := by
  have hpot : s.feeBooks.pot fee = fee.amount + s.feeRemainders[fee.denom]?.getD 0 := rfl
  unfold totalFee
  cases hr : s.feeRemainders[fee.denom]? with
  | none =>
    rw [hr, Option.getD_none, Nat.add_zero] at hpot
    rw [hpot, Except.ok.injEq, eq_comm]
    exact (and_iff_right ha).symm
  | some r =>
    rw [hr, Option.getD_some] at hpot
    rw [hpot, checkedAdd_eq_ok, eq_comm]

theorem not_panics_totalFee : ¬ Panics (totalFee s fee) := by
  unfold totalFee
  split <;> simp

/-- The shares overflow at a relayer who has collected too much. -/
theorem panics_shareFees {denom : String} {amount : ℕ} (hrs : s.feeBooks.relayers.Nodup)
    (hd : s.feeBooks.Distinct) (ha : amount < u128Bound) :
    Panics (shareFees s denom amount) ↔
      amount ≠ 0 ∧ ∃ a ∈ s.feeBooks.relayers, u128Bound ≤ s.feeBooks.of a denom + amount := by
  unfold shareFees
  split_ifs with hz
  · simp [hz]
  · have hfold : Panics (s.config.relayers.foldlM (addRelayerFees denom amount) s.feesCollected) ↔
        ∃ a ∈ s.feeBooks.relayers, u128Bound ≤ s.feeBooks.of a denom + amount :=
      panics_foldlM_addRelayerFees hrs hd ha
    rw [hfold]
    exact (and_iff_right hz).symm

theorem panics_collectFees (hrs : s.feeBooks.relayers.Nodup) (hd : s.feeBooks.Distinct)
    (ha : fee.amount < u128Bound) : Panics (collectFees s fee) ↔ s.feeBooks.Overflows fee := by
  unfold collectFees
  split_ifs with hz
  · exact iff_of_false not_panics_ok fun h => h.due hz
  have hlength : s.feeBooks.relayers.length = s.config.relayers.length := List.length_map _
  simp only [panics_bind, not_panics_totalFee, not_panics_checkedDiv, not_panics_checkedMul, not_panics_checkedSub,
    not_panics_pure, and_false, exists_false, or_false, false_or, totalFee_eq_ok_iff ha, checkedDiv_eq_ok]
  constructor
  · rintro ⟨_, ⟨hpot, rfl⟩, _, ⟨-, rfl⟩, hpanics⟩
    obtain ⟨hshare, hover⟩ := (panics_shareFees hrs hd ((Nat.div_le_self _ _).trans_lt hpot)).mp hpanics
    rw [← hlength] at hshare hover
    exact ⟨hz, hpot, hshare, hover⟩
  · rintro ⟨-, hpot, hshare, hover⟩
    refine ⟨_, ⟨hpot, rfl⟩, _, ⟨?_, rfl⟩, ?_⟩
    · intro hnone
      rw [hlength, hnone, Nat.div_zero] at hshare
      exact hshare rfl
    · rw [← hlength]
      exact (panics_shareFees hrs hd ((Nat.div_le_self _ _).trans_lt hpot)).mpr ⟨hshare, hover⟩

theorem panics_handleFeeCollection {bridgingFee remainder : ℕ} {denom : String} (hrs : s.feeBooks.relayers.Nodup)
    (hd : s.feeBooks.Distinct) :
    Panics (handleFeeCollection s bridgingFee denom remainder) ↔
      s.feeBooks.Overflows ⟨denom, bridgingFee + remainder⟩ := by
  simp only [handleFeeCollection, panics_bind, not_panics_checkedAdd, not_panics_pure, and_false, exists_false,
    or_false, false_or, checkedAdd_eq_ok]
  constructor
  · rintro ⟨_, ⟨ha, rfl⟩, hpanics⟩
    exact (panics_collectFees hrs hd ha).mp hpanics
  · intro h
    have ha : bridgingFee + remainder < u128Bound := (Nat.le_add_right _ _).trans_lt h.pot
    exact ⟨_, ⟨ha, rfl⟩, (panics_collectFees hrs hd ha).mpr h⟩

end Credit

/-! ### The unit of a token -/

/-- The unit that amounts of the token are cut to. -/
def Contract.XRPLToken.unit (t : XRPLToken) : ℕ := unitOf t.sendingPrecision (xrplDecimals t.issuer t.currency)

/-- The unit that amounts of the token are cut to. -/
def Contract.CosmosToken.unit (t : CosmosToken) : ℕ := unitOf t.sendingPrecision t.decimals

/-- What is collected on an amount: the bridging fee, and what is cut off after it. -/
def feeOn (bridgingFee unit amount : ℕ) : ℕ := bridgingFee + (amount - bridgingFee) % unit

section Units

variable {precision : ℤ} {decimals amount bridgingFee : ℕ}

theorem exponent_xrpl (issuer currency : String) (hlo : minSendingPrecision ≤ precision)
    (hhi : precision ≤ maxSendingPrecision) :
    ExponentFits precision (xrplDecimals issuer currency) ∧
      (asI32 (xrplDecimals issuer currency) - precision).natAbs ≤ 38 := by
  have hlo' : -15 ≤ precision := hlo
  have hhi' : precision ≤ 15 := hhi
  have hd : xrplDecimals issuer currency ≤ 15 := by
    unfold xrplDecimals
    split_ifs <;> decide
  rw [ExponentFits, asI32_eq (xrplDecimals_le _ _)]
  omega

theorem exponent_cosmos (h : PreciseFor precision decimals) :
    ExponentFits precision decimals ∧
      ((asI32 decimals - precision).natAbs ≤ 38 ↔ (decimals : ℤ) ≤ precision + 38) := by
  have hlo : -15 ≤ precision := h.lower
  have hd : decimals ≤ 100 := h.fits
  have hwithin := h.within
  rw [ExponentFits, asI32_eq h.fits]
  omega

theorem not_panics_truncateAmount (h : ExponentFits precision decimals)
    (hsmall : (asI32 decimals - precision).natAbs ≤ 38) : ¬ Panics (truncateAmount precision decimals amount) :=
  fun hpanics => Nat.not_lt.mpr hsmall ((panics_truncateAmount h).mp hpanics)

/-- An amount covers the fee and a unit. -/
theorem truncated_after_fees_iff {x : ℕ × ℕ} (h : ExponentFits precision decimals)
    (hsmall : (asI32 decimals - precision).natAbs ≤ 38) (ha : amount < u128Bound) :
    (∃ afterFees, amountAfterBridgeFees amount bridgingFee = .ok afterFees ∧
      truncateAmount precision decimals afterFees = .ok x) ↔
        bridgingFee + unitOf precision decimals ≤ amount ∧
          x = ((amount - bridgingFee) / unitOf precision decimals * unitOf precision decimals,
            (amount - bridgingFee) % unitOf precision decimals) := by
  have hpos : 0 < unitOf precision decimals := unitOf_pos
  have hb := (Nat.sub_le amount bridgingFee).trans_lt ha
  constructor
  · rintro ⟨_, hf, ht⟩
    obtain ⟨hle, rfl⟩ := amountAfterBridgeFees_eq_ok_iff.mp hf
    obtain ⟨hcovers, hx⟩ := (truncateAmount_eq_ok_iff h hsmall hb).mp ht
    exact ⟨by omega, hx⟩
  · rintro ⟨hcovers, hx⟩
    exact ⟨_, amountAfterBridgeFees_eq_ok_iff.mpr ⟨by omega, rfl⟩,
      (truncateAmount_eq_ok_iff h hsmall hb).mpr ⟨by omega, hx⟩⟩

end Units

/-- What every reachable state has for its amounts: sending precisions in range, and fees that are
kept for each relayer and each denom once. -/
structure InRange (s : Storage) : Prop where
  xrpl : ∀ (key : String) (token : XRPLToken), s.xrplTokens.primary[key]? = some token →
    minSendingPrecision ≤ token.sendingPrecision ∧ token.sendingPrecision ≤ maxSendingPrecision
  cosmos : ∀ (key : String) (token : CosmosToken), s.cosmosTokens.primary[key]? = some token →
    PreciseFor token.sendingPrecision token.decimals
  relayers : s.feeBooks.relayers.Nodup
  distinct : s.feeBooks.Distinct

theorem InRange.panics_handleFeeCollection {s : Storage} {bridgingFee unit amount : ℕ} {denom : String} (h : InRange s) :
    Panics (handleFeeCollection s bridgingFee denom ((amount - bridgingFee) % unit)) ↔
      s.feeBooks.Overflows ⟨denom, feeOn bridgingFee unit amount⟩ :=
  XrplBridge.panics_handleFeeCollection h.relayers h.distinct

/-! ### Transfers to XRPL -/

section Sends

variable {s : Storage} {q : Querier} {coin : Coin} {deliver : Option ℕ}

/-- What is delivered is cut as well. -/
theorem deliverAmounts_ok_iff {token : XRPLToken} {afterFees amountToSend : ℕ}
    (h : ExponentFits token.sendingPrecision (xrplDecimals token.issuer token.currency))
    (hsmall : (asI32 (xrplDecimals token.issuer token.currency) - token.sendingPrecision).natAbs ≤ 38)
    (ha : afterFees < u128Bound) :
    (∃ x, deliverAmounts token (xrplDecimals token.issuer token.currency) afterFees amountToSend deliver = .ok x) ↔
      ∀ d ∈ deliver, token.unit ≤ d ∧ d ≤ afterFees := by
  cases deliver with
  | none => simp [deliverAmounts]
  | some d =>
    simp only [deliverAmounts, bind_eq_ok, failIf_eq_ok, pure_eq_ok, Option.mem_some_iff, forall_eq']
    constructor
    · rintro ⟨_, _, hle, y, ht, -⟩
      have hle := Nat.not_lt.mp hle
      exact ⟨((truncateAmount_eq_ok_iff h hsmall (hle.trans_lt ha)).mp ht).1, hle⟩
    · rintro ⟨hunit, hle⟩
      exact ⟨_, (), Nat.not_lt.mpr hle, _, (truncateAmount_eq_ok_iff h hsmall (hle.trans_lt ha)).mpr ⟨hunit, rfl⟩, rfl⟩

theorem not_panics_deliverAmounts {token : XRPLToken} {decimals afterFees amountToSend : ℕ}
    (h : ∀ amount, ¬ Panics (truncateAmount token.sendingPrecision decimals amount)) :
    ¬ Panics (deliverAmounts token decimals afterFees amountToSend deliver) := by
  cases deliver <;> simp [deliverAmounts, h]

/-- A transfer of `coin` to XRPL overflows. -/
inductive SendOverflows (s : Storage) (coin : Coin) (deliver : Option ℕ) : Prop
  /-- A `u128` does not hold the unit of a token of Cosmos. -/
  | unit {token : CosmosToken} (notXRPL : s.xrplTokens.item coin.denom = none)
      (registered : s.cosmosTokens.primary[coin.denom]? = some token) (enabled : token.state = .enabled)
      (whole : deliver = none) (large : token.sendingPrecision + 38 < token.decimals)
  /-- The amount of a token of XRPL is sent, and the fee is not credited. -/
  | xrpl {key : String} {token : XRPLToken} (registered : s.xrplTokens.item coin.denom = some (key, token))
      (enabled : token.state = .enabled)
      (allowed : ¬ (isTokenXRP token.issuer token.currency = true ∧ deliver.isSome = true))
      (covered : token.bridgingFee + token.unit ≤ coin.amount)
      (delivered : ∀ d ∈ deliver, token.unit ≤ d ∧ d ≤ coin.amount - token.bridgingFee)
      (credit : s.feeBooks.Overflows ⟨token.cosmosDenom, feeOn token.bridgingFee token.unit coin.amount⟩)
  /-- The amount of a token of Cosmos is sent, and the fee is not credited. -/
  | cosmos {token : CosmosToken} (notXRPL : s.xrplTokens.item coin.denom = none)
      (registered : s.cosmosTokens.primary[coin.denom]? = some token) (enabled : token.state = .enabled)
      (whole : deliver = none) (small : token.decimals ≤ token.sendingPrecision + 38)
      (covered : token.bridgingFee + token.unit ≤ coin.amount)
      (converts : (coin.amount - token.bridgingFee) / token.unit * token.unit *
        10 ^ (xrplTokensDecimals - token.decimals) < u128Bound)
      (credit : s.feeBooks.Overflows ⟨token.denom, feeOn token.bridgingFee token.unit coin.amount⟩)

theorem panics_sendXRPLOriginated {key : String} {token : XRPLToken} (h : InRange s)
    (hr : s.xrplTokens.item coin.denom = some (key, token)) (ha : coin.amount < u128Bound) :
    Panics (sendXRPLOriginated s token coin deliver) ↔ SendOverflows s coin deliver := by
  have hp := h.xrpl key token (IndexedMap.item_eq_some.mp hr).1
  obtain ⟨hfits, hsmall⟩ := exponent_xrpl token.issuer token.currency hp.1 hp.2
  have hno : ∀ amount, ¬ Panics (truncateAmount token.sendingPrecision (xrplDecimals token.issuer token.currency) amount) :=
    fun _ => not_panics_truncateAmount hfits hsmall
  simp only [sendXRPLOriginated, panics_bind, not_panics_failIf, failIf_eq_ok, hno, not_panics_amountAfterBridgeFees,
    not_panics_deliverAmounts hno, not_panics_pure, false_or, or_false, and_false, exists_false, not_not]
  constructor
  · rintro ⟨_, henabled, _, hallowed, _, -, af, hf, ⟨a, r⟩, ht, x, hdeliver, hpanics⟩
    obtain ⟨hcovered, hx⟩ := (truncated_after_fees_iff hfits hsmall ha).mp ⟨af, hf, ht⟩
    obtain rfl := (amountAfterBridgeFees_eq_ok_iff.mp hf).2
    rw [(Prod.mk.inj hx).2] at hpanics
    refine .xrpl hr henabled hallowed hcovered ?_ (h.panics_handleFeeCollection.mp hpanics)
    exact (deliverAmounts_ok_iff hfits hsmall ((Nat.sub_le _ _).trans_lt ha)).mp ⟨_, hdeliver⟩
  · intro hover
    cases hover with
    | unit hnone =>
      rw [hr] at hnone
      cases hnone
    | xrpl hr' henabled hallowed hcovered hdelivered hcredit =>
      rw [hr] at hr'
      cases hr'
      obtain ⟨af, hf, ht⟩ := (truncated_after_fees_iff hfits hsmall ha).mpr ⟨hcovered, rfl⟩
      obtain rfl := (amountAfterBridgeFees_eq_ok_iff.mp hf).2
      obtain ⟨x, hx⟩ := (deliverAmounts_ok_iff hfits hsmall ((Nat.sub_le _ _).trans_lt ha)).mpr hdelivered
      have hincrease := (truncateAmount_eq_ok_iff hfits hsmall ha).mpr ⟨(Nat.le_add_left _ _).trans hcovered, rfl⟩
      exact ⟨(), henabled, (), hallowed, _, hincrease, _, hf, _, ht, x, hx, h.panics_handleFeeCollection.mpr hcredit⟩
    | cosmos hnone =>
      rw [hr] at hnone
      cases hnone

/-- The decimals of a token whose unit a `u128` holds are within reach of those of XRPL. -/
theorem decimals_reach {precision : ℤ} {decimals : ℕ} (h : PreciseFor precision decimals)
    (hsmall : (decimals : ℤ) ≤ precision + 38) :
    (xrplTokensDecimals - decimals) + (decimals - xrplTokensDecimals) ≤ 38 := by
  have hupper : precision ≤ 15 := h.upper
  change (15 - decimals) + (decimals - 15) ≤ 38
  omega

theorem truncateAndConvertAmount_ok_iff {precision : ℤ} {decimals amount bridgingFee r : ℕ}
    (h : PreciseFor precision decimals) (hsmall : (decimals : ℤ) ≤ precision + 38) (ha : amount < u128Bound) :
    (∃ a, truncateAndConvertAmount precision decimals xrplTokensDecimals amount bridgingFee = .ok (a, r)) ↔
      bridgingFee + unitOf precision decimals ≤ amount ∧ r = (amount - bridgingFee) % unitOf precision decimals ∧
        (amount - bridgingFee) / unitOf precision decimals * unitOf precision decimals *
          10 ^ (xrplTokensDecimals - decimals) < u128Bound := by
  obtain ⟨hfits, hexp⟩ := exponent_cosmos h
  have hexp := hexp.mpr hsmall
  have hsent : (amount - bridgingFee) / unitOf precision decimals * unitOf precision decimals < u128Bound :=
    ((Nat.div_mul_le_self _ _).trans (Nat.sub_le _ _)).trans_lt ha
  simp only [truncateAndConvertAmount, bind_eq_ok, pure_eq_ok, Prod.mk.injEq]
  constructor
  · rintro ⟨a, af, hf, ⟨t, r'⟩, ht, c, hc, rfl, rfl⟩
    obtain ⟨hcovered, hx⟩ := (truncated_after_fees_iff hfits hexp ha).mp ⟨af, hf, ht⟩
    obtain ⟨ht, hr⟩ := Prod.mk.inj hx
    rw [ht] at hc
    exact ⟨hcovered, hr, ((convertAmountDecimals_eq_ok_iff (decimals_reach h hsmall) hsent).mp hc).1⟩
  · rintro ⟨hcovered, hr, hconverts⟩
    obtain ⟨af, hf, ht⟩ := (truncated_after_fees_iff hfits hexp ha).mpr ⟨hcovered, rfl⟩
    have hc := (convertAmountDecimals_eq_ok_iff (decimals_reach h hsmall) hsent).mpr ⟨hconverts, rfl⟩
    exact ⟨_, af, hf, _, ht, _, hc, rfl, hr.symm⟩

theorem not_panics_truncateAndConvertAmount {precision : ℤ} {decimals amount bridgingFee : ℕ}
    (h : PreciseFor precision decimals) (hsmall : (decimals : ℤ) ≤ precision + 38) :
    ¬ Panics (truncateAndConvertAmount precision decimals xrplTokensDecimals amount bridgingFee) := by
  obtain ⟨hfits, hexp⟩ := exponent_cosmos h
  have hreach := decimals_reach h hsmall
  simp [truncateAndConvertAmount, panics_truncateAmount hfits, hexp.mpr hsmall, panics_convertAmountDecimals, hreach]

theorem panics_sendCosmosToXRPL (h : InRange s) (hnone : s.xrplTokens.item coin.denom = none)
    (ha : coin.amount < u128Bound) : Panics (sendCosmosToXRPL s q coin deliver) ↔ SendOverflows s coin deliver := by
  simp only [sendCosmosToXRPL, panics_bind, not_panics_orFail, not_panics_failIf, orFail_eq_ok, failIf_eq_ok,
    not_panics_pure, false_or, or_false, and_false, exists_false, not_not]
  constructor
  · rintro ⟨token, hr, _, henabled, _, hwhole, hrest⟩
    have hprecise := h.cosmos _ token hr
    obtain ⟨hfits, hexp⟩ := exponent_cosmos hprecise
    have hwhole : deliver = none := by simpa using hwhole
    by_cases hsmall : (token.decimals : ℤ) ≤ token.sendingPrecision + 38
    · rcases hrest with hpanics | ⟨_, -, hpanics | ⟨⟨a, r⟩, hc, hpanics⟩⟩
      · exact absurd (hexp.mpr hsmall) (Nat.not_le.mpr ((panics_truncateAmount hfits).mp hpanics))
      · exact absurd hpanics (not_panics_truncateAndConvertAmount hprecise hsmall)
      · obtain ⟨hcovered, hr', hconverts⟩ := (truncateAndConvertAmount_ok_iff hprecise hsmall ha).mp ⟨a, hc⟩
        rw [hr'] at hpanics
        exact .cosmos hnone hr henabled hwhole hsmall hcovered hconverts (h.panics_handleFeeCollection.mp hpanics)
    · exact .unit hnone hr henabled hwhole (Int.not_le.mp hsmall)
  · intro hover
    cases hover with
    | unit _ hr henabled hwhole hlarge =>
      obtain ⟨hfits, hexp⟩ := exponent_cosmos (h.cosmos _ _ hr)
      have hpow := Nat.not_le.mp fun hle => Int.not_le.mpr hlarge (hexp.mp hle)
      exact ⟨_, hr, (), henabled, (), by simp [hwhole], .inl ((panics_truncateAmount hfits).mpr hpow)⟩
    | xrpl hr =>
      rw [hnone] at hr
      cases hr
    | cosmos _ hr henabled hwhole hsmall hcovered hconverts hcredit =>
      have hprecise := h.cosmos _ _ hr
      obtain ⟨hfits, hexp⟩ := exponent_cosmos hprecise
      have hincrease := (truncateAmount_eq_ok_iff hfits (hexp.mpr hsmall) ha).mpr
        ⟨(Nat.le_add_left _ _).trans hcovered, rfl⟩
      obtain ⟨a, hc⟩ := (truncateAndConvertAmount_ok_iff hprecise hsmall ha).mpr ⟨hcovered, rfl, hconverts⟩
      exact ⟨_, hr, (), henabled, (), by simp [hwhole],
        .inr ⟨_, hincrease, .inr ⟨_, hc, h.panics_handleFeeCollection.mpr hcredit⟩⟩⟩

/-- What is to be delivered is at most what is paid. -/
theorem SendOverflows.deliver_le (h : SendOverflows s coin deliver) : ¬ (deliver.any fun d => coin.amount < d) = true := by
  cases h with
  | unit _ _ _ hwhole => simp [hwhole]
  | xrpl _ _ _ _ hdelivered =>
    simp only [Option.any_eq_true, decide_eq_true_eq, not_exists, not_and, Nat.not_lt]
    intro d hd
    exact (hdelivered d hd).2.trans (Nat.sub_le _ _)
  | cosmos _ _ _ hwhole => simp [hwhole]

/-- **When a transfer to XRPL panics**: when its amount does, and nothing before refuses it. -/
theorem panics_sendToXRPL {H : Host} {env : BlockInfo} {sender : Addr} {funds : List Coin} {recipient : String}
    (h : InRange s) (ha : ∀ c ∈ funds, c.amount < u128Bound) :
    Panics (sendToXRPL H s q env sender funds recipient deliver) ↔
      s.config.bridgeState = .active ∧ validateXRPLAddress H s.prohibitedXRPLAddresses recipient = .ok () ∧
        ∃ coin, oneCoin funds = .ok coin ∧ SendOverflows s coin deliver := by
  simp only [sendToXRPL, panics_bind, not_panics_assertBridgeActive, not_panics_oneCoin,
    not_panics_validateXRPLAddress, not_panics_failIf, not_panics_validateXRPLAmount, not_panics_validateMaxAmount,
    not_panics_allocateTicket, not_panics_createPendingOperation, not_panics_pure, and_false, exists_false, false_or,
    or_false, failIf_eq_ok]
  constructor
  · rintro ⟨_, hactive, coin, hpaid, _, hvalid, _, -, hpanics⟩
    have hcoin : coin.amount < u128Bound := ha coin (by simp [(oneCoin_eq_ok hpaid).1])
    refine ⟨active_of_assertBridgeActive hactive, hvalid, coin, hpaid, ?_⟩
    cases hr : s.xrplTokens.item coin.denom with
    | some x =>
      rw [hr] at hpanics
      exact (panics_sendXRPLOriginated h hr hcoin).mp hpanics
    | none =>
      rw [hr] at hpanics
      exact (panics_sendCosmosToXRPL h hr hcoin).mp hpanics
  · rintro ⟨hactive, hvalid, coin, hpaid, hover⟩
    have hcoin : coin.amount < u128Bound := ha coin (by simp [(oneCoin_eq_ok hpaid).1])
    refine ⟨(), failIf_eq_ok.mpr (not_not.mpr hactive), coin, hpaid, (), hvalid, (), hover.deliver_le, ?_⟩
    cases hr : s.xrplTokens.item coin.denom with
    | some x => exact (panics_sendXRPLOriginated h hr hcoin).mpr hover
    | none => exact (panics_sendCosmosToXRPL h hr hcoin).mpr hover

end Sends

/-! ### Transfers from XRPL -/

section Receives

variable {H : Host} {s : Storage} {q : Querier} {e : TransferEvidence} {memo : String} {reached : Bool}
  {response : Response}

/-- The vote for a transfer from XRPL overflows. -/
inductive ReceiveOverflows (s : Storage) (q : Querier) (e : TransferEvidence) (reached : Bool) : Prop
  /-- A `u128` does not hold the factor of the conversion. -/
  | factor {denom : String} {token : CosmosToken} (own : e.issuer = s.config.bridgeXRPLAddress)
      (registered : s.cosmosTokens.item e.currency = some (denom, token)) (enabled : token.state = .enabled)
      (far : xrplTokensDecimals + 38 < token.decimals)
  /-- The amount covers the fee, and a `u128` does not hold the unit of the token. -/
  | unit {denom : String} {token : CosmosToken} (own : e.issuer = s.config.bridgeXRPLAddress)
      (registered : s.cosmosTokens.item e.currency = some (denom, token)) (enabled : token.state = .enabled)
      (near : token.decimals ≤ xrplTokensDecimals + 38)
      (converts : e.amount * 10 ^ (token.decimals - xrplTokensDecimals) < u128Bound)
      (covered : token.bridgingFee ≤ fromXRPLDecimals token.decimals e.amount)
      (large : token.sendingPrecision + 38 < token.decimals)
  /-- The amount of a token of XRPL is received, and the fee is not credited. -/
  | xrpl {token : XRPLToken} (foreign : e.issuer ≠ s.config.bridgeXRPLAddress)
      (registered : s.xrplTokens.primary[buildXRPLTokenKey e.issuer e.currency]? = some token)
      (enabled : token.state = .enabled) (covered : token.bridgingFee + token.unit ≤ e.amount)
      (counted : e.amount + q.supply token.cosmosDenom < u128Bound)
      (capped : e.amount + q.supply token.cosmosDenom ≤ token.maxHoldingAmount) (executed : reached = true)
      (credit : s.feeBooks.Overflows ⟨token.cosmosDenom, feeOn token.bridgingFee token.unit e.amount⟩)
  /-- The amount of a token of Cosmos is received, and the fee is not credited. -/
  | cosmos {denom : String} {token : CosmosToken} (own : e.issuer = s.config.bridgeXRPLAddress)
      (registered : s.cosmosTokens.item e.currency = some (denom, token)) (enabled : token.state = .enabled)
      (small : token.decimals ≤ token.sendingPrecision + 38)
      (converts : e.amount * 10 ^ (token.decimals - xrplTokensDecimals) < u128Bound)
      (covered : token.bridgingFee + token.unit ≤ fromXRPLDecimals token.decimals e.amount) (executed : reached = true)
      (credit : s.feeBooks.Overflows
        ⟨token.denom, feeOn token.bridgingFee token.unit (fromXRPLDecimals token.decimals e.amount)⟩)

/-- A payout panics if its fee does. -/
theorem panics_mintXRPLOriginated {token : XRPLToken} {decimals amountToSend remainder : ℕ} {key : String}
    (h : ∀ amount, ¬ Panics (truncateAmount token.sendingPrecision decimals amount)) :
    Panics (mintXRPLOriginated H s token decimals key e memo amountToSend remainder response) ↔
      Panics (handleFeeCollection s token.bridgingFee token.cosmosDenom remainder) := by
  have hpacket : ¬ Panics (recvPacketXRPL s.config token decimals key e.amount) := by
    unfold recvPacketXRPL
    split <;> simp [h]
  rw [mintXRPLOriginated, panics_bind, or_iff_left_iff_imp]
  rintro ⟨⟨s₁, fee⟩, -, hpanics⟩
  dsimp only at hpanics
  split_ifs at hpanics <;> simp [hpacket] at hpanics

theorem panics_sendCosmosOriginated {token : CosmosToken} {amountToSend remainder : ℕ}
    (h : ∀ amount, ¬ Panics (convertAmountDecimals xrplTokensDecimals token.decimals amount)) :
    Panics (sendCosmosOriginated s token e memo amountToSend remainder response) ↔
      Panics (handleFeeCollection s token.bridgingFee token.denom remainder) := by
  have hpacket : ¬ Panics (recvPacketCosmos s.config token (buildXRPLTokenKey e.issuer e.currency) e.amount) := by
    unfold recvPacketCosmos
    split <;> simp [h]
  rw [sendCosmosOriginated, panics_bind, or_iff_left_iff_imp]
  rintro ⟨⟨s₁, fee⟩, -, hpanics⟩
  simp [hpacket] at hpanics

theorem panics_receiveXRPLOriginated (h : InRange s) (hforeign : e.issuer ≠ s.config.bridgeXRPLAddress)
    (ha : e.amount < u128Bound) :
    Panics (receiveXRPLOriginated H s q e memo reached response) ↔ ReceiveOverflows s q e reached := by
  simp only [receiveXRPLOriginated, panics_bind, not_panics_orFail, not_panics_failIf, orFail_eq_ok, failIf_eq_ok,
    not_panics_amountAfterBridgeFees, not_panics_checkedAdd, false_or, not_not]
  constructor
  · rintro ⟨token, hr, _, henabled, af, hf, hrest⟩
    have hp := h.xrpl _ token hr
    obtain ⟨hfits, hsmall⟩ := exponent_xrpl token.issuer token.currency hp.1 hp.2
    rcases hrest with hpanics | ⟨⟨a, r⟩, ht, b, hb, _, hcapped, hpanics⟩
    · exact absurd hpanics (not_panics_truncateAmount hfits hsmall)
    obtain ⟨hcounted, rfl⟩ := checkedAdd_eq_ok.mp hb
    obtain ⟨hcovered, hx⟩ := (truncated_after_fees_iff hfits hsmall ha).mp ⟨af, hf, ht⟩
    split_ifs at hpanics with hreached
    · rw [panics_mintXRPLOriginated fun _ => not_panics_truncateAmount hfits hsmall, (Prod.mk.inj hx).2] at hpanics
      exact .xrpl hforeign hr henabled hcovered hcounted (Nat.not_lt.mp hcapped) hreached
        (h.panics_handleFeeCollection.mp hpanics)
    · exact absurd hpanics not_panics_pure
  · intro hover
    cases hover with
    | factor hown => exact absurd hown hforeign
    | unit hown => exact absurd hown hforeign
    | cosmos hown => exact absurd hown hforeign
    | xrpl _ hr henabled hcovered hcounted hcapped hreached hcredit =>
      have hp := h.xrpl _ _ hr
      obtain ⟨hfits, hsmall⟩ := exponent_xrpl _ _ hp.1 hp.2
      obtain ⟨af, hf, ht⟩ := (truncated_after_fees_iff hfits hsmall ha).mpr ⟨hcovered, rfl⟩
      refine ⟨_, hr, (), henabled, af, hf, .inr ⟨_, ht, _, checkedAdd_eq_ok.mpr ⟨hcounted, rfl⟩, (),
        Nat.not_lt.mpr hcapped, ?_⟩⟩
      rw [if_pos hreached, panics_mintXRPLOriginated fun _ => not_panics_truncateAmount hfits hsmall]
      exact h.panics_handleFeeCollection.mpr hcredit

theorem fromXRPLDecimals_eq (decimals amount : ℕ) :
    fromXRPLDecimals decimals amount =
      amount * 10 ^ (decimals - xrplTokensDecimals) / 10 ^ (xrplTokensDecimals - decimals) := by
  unfold fromXRPLDecimals
  split_ifs with hlt
  · rw [Nat.sub_eq_zero_of_le hlt.le, Nat.pow_zero, Nat.mul_one]
  · rw [Nat.sub_eq_zero_of_le (Nat.not_lt.mp hlt), Nat.pow_zero, Nat.div_one]

/-- An amount of XRPL is converted, unless the factor or the product is too large. -/
theorem convertAmountDecimals_fromXRPL_iff {decimals amount a : ℕ} (hnear : decimals ≤ xrplTokensDecimals + 38)
    (ha : amount < u128Bound) :
    convertAmountDecimals xrplTokensDecimals decimals amount = .ok a ↔
      amount * 10 ^ (decimals - xrplTokensDecimals) < u128Bound ∧ a = fromXRPLDecimals decimals amount := by
  rw [fromXRPLDecimals_eq]
  refine convertAmountDecimals_eq_ok_iff ?_ ha
  simp only [xrplTokensDecimals] at hnear ⊢
  omega

theorem panics_convertAmountDecimals_fromXRPL {decimals amount : ℕ} :
    Panics (convertAmountDecimals xrplTokensDecimals decimals amount) ↔ xrplTokensDecimals + 38 < decimals := by
  rw [panics_convertAmountDecimals]
  simp only [xrplTokensDecimals]
  omega

section Converts

variable {precision : ℤ} {decimals amount bridgingFee : ℕ}

theorem near_of_small (h : PreciseFor precision decimals) (hsmall : (decimals : ℤ) ≤ precision + 38) :
    decimals ≤ xrplTokensDecimals + 38 := by
  have := decimals_reach h hsmall
  omega

/-- An amount of such a token can always be converted from the decimals of XRPL. -/
theorem not_panics_back (h : PreciseFor precision decimals) (hsmall : (decimals : ℤ) ≤ precision + 38) (amount : ℕ) :
    ¬ Panics (convertAmountDecimals xrplTokensDecimals decimals amount) :=
  mt panics_convertAmountDecimals_fromXRPL.mp (Nat.not_lt.mpr (near_of_small h hsmall))

theorem panics_convertAndTruncateAmount (h : PreciseFor precision decimals) (ha : amount < u128Bound) :
    Panics (convertAndTruncateAmount precision xrplTokensDecimals decimals amount bridgingFee) ↔
      xrplTokensDecimals + 38 < decimals ∨
        decimals ≤ xrplTokensDecimals + 38 ∧ amount * 10 ^ (decimals - xrplTokensDecimals) < u128Bound ∧
          bridgingFee ≤ fromXRPLDecimals decimals amount ∧ precision + 38 < decimals := by
  obtain ⟨hfits, hexp⟩ := exponent_cosmos h
  rw [convertAndTruncateAmount, panics_bind, panics_convertAmountDecimals_fromXRPL]
  apply or_congr_right'
  intro hnear
  have hnear := Nat.not_lt.mp hnear
  simp only [convertAmountDecimals_fromXRPL_iff hnear ha, panics_bind, not_panics_amountAfterBridgeFees, false_or,
    panics_truncateAmount hfits, amountAfterBridgeFees_eq_ok_iff]
  constructor
  · rintro ⟨_, ⟨hconverts, rfl⟩, _, ⟨hcovered, -⟩, hlarge⟩
    exact ⟨hnear, hconverts, hcovered, Int.not_le.mp fun hle => Nat.not_le.mpr hlarge (hexp.mpr hle)⟩
  · rintro ⟨-, hconverts, hcovered, hlarge⟩
    exact ⟨_, ⟨hconverts, rfl⟩, _, ⟨hcovered, rfl⟩, Nat.not_le.mp fun hle => Int.not_le.mpr hlarge (hexp.mp hle)⟩

theorem convertAndTruncateAmount_ok_iff (h : PreciseFor precision decimals) (ha : amount < u128Bound) {r : ℕ} :
    (∃ a, convertAndTruncateAmount precision xrplTokensDecimals decimals amount bridgingFee = .ok (a, r)) ↔
      (decimals : ℤ) ≤ precision + 38 ∧ amount * 10 ^ (decimals - xrplTokensDecimals) < u128Bound ∧
        bridgingFee + unitOf precision decimals ≤ fromXRPLDecimals decimals amount ∧
          r = (fromXRPLDecimals decimals amount - bridgingFee) % unitOf precision decimals := by
  obtain ⟨hfits, hexp⟩ := exponent_cosmos h
  have hconverted : amount * 10 ^ (decimals - xrplTokensDecimals) < u128Bound →
      fromXRPLDecimals decimals amount < u128Bound :=
    fun hconverts => (fromXRPLDecimals_eq decimals amount).trans_lt ((Nat.div_le_self _ _).trans_lt hconverts)
  simp only [convertAndTruncateAmount, bind_eq_ok]
  constructor
  · rintro ⟨a, c, hc, af, hf, ht⟩
    have hsmall : (asI32 decimals - precision).natAbs ≤ 38 := by
      by_contra hlarge
      exact not_panics_of_ok ht ((panics_truncateAmount hfits).mpr (Nat.not_le.mp hlarge))
    have hnear := near_of_small h (hexp.mp hsmall)
    obtain ⟨hconverts, rfl⟩ := (convertAmountDecimals_fromXRPL_iff hnear ha).mp hc
    obtain ⟨hcovered, hx⟩ := (truncated_after_fees_iff hfits hsmall (hconverted hconverts)).mp ⟨af, hf, ht⟩
    exact ⟨hexp.mp hsmall, hconverts, hcovered, (Prod.mk.inj hx).2⟩
  · rintro ⟨hsmall, hconverts, hcovered, rfl⟩
    have hnear := near_of_small h hsmall
    obtain ⟨af, hf, ht⟩ := (truncated_after_fees_iff hfits (hexp.mpr hsmall) (hconverted hconverts)).mpr ⟨hcovered, rfl⟩
    exact ⟨_, _, (convertAmountDecimals_fromXRPL_iff hnear ha).mpr ⟨hconverts, rfl⟩, af, hf, ht⟩

end Converts

theorem panics_receiveCosmosOriginated (h : InRange s) (hown : e.issuer = s.config.bridgeXRPLAddress)
    (ha : e.amount < u128Bound) :
    Panics (receiveCosmosOriginated s e memo reached response) ↔ ReceiveOverflows s q e reached := by
  simp only [receiveCosmosOriginated, panics_bind, not_panics_orFail, not_panics_failIf, orFail_eq_ok, failIf_eq_ok,
    false_or, not_not]
  constructor
  · rintro ⟨⟨denom, token⟩, hr, _, henabled, hrest⟩
    have hprecise := h.cosmos _ token (IndexedMap.item_eq_some.mp hr).1
    rcases hrest with hpanics | ⟨⟨a, r⟩, hc, hpanics⟩
    · rcases (panics_convertAndTruncateAmount hprecise ha).mp hpanics with hfar | ⟨hnear, hconverts, hcovered, hlarge⟩
      · exact .factor hown hr henabled hfar
      · exact .unit hown hr henabled hnear hconverts hcovered hlarge
    obtain ⟨hsmall, hconverts, hcovered, hr'⟩ := (convertAndTruncateAmount_ok_iff hprecise ha).mp ⟨a, hc⟩
    split_ifs at hpanics with hreached
    · rw [panics_sendCosmosOriginated (not_panics_back hprecise hsmall), hr'] at hpanics
      exact .cosmos hown hr henabled hsmall hconverts hcovered hreached (h.panics_handleFeeCollection.mp hpanics)
    · exact absurd hpanics not_panics_pure
  · intro hover
    cases hover with
    | factor _ hr henabled hfar =>
      have hprecise := h.cosmos _ _ (IndexedMap.item_eq_some.mp hr).1
      exact ⟨_, hr, (), henabled, .inl ((panics_convertAndTruncateAmount hprecise ha).mpr (.inl hfar))⟩
    | unit _ hr henabled hnear hconverts hcovered hlarge =>
      have hprecise := h.cosmos _ _ (IndexedMap.item_eq_some.mp hr).1
      exact ⟨_, hr, (), henabled, .inl ((panics_convertAndTruncateAmount hprecise ha).mpr
        (.inr ⟨hnear, hconverts, hcovered, hlarge⟩))⟩
    | xrpl hforeign => exact absurd hown hforeign
    | cosmos _ hr henabled hsmall hconverts hcovered hreached hcredit =>
      have hprecise := h.cosmos _ _ (IndexedMap.item_eq_some.mp hr).1
      obtain ⟨a, hc⟩ := (convertAndTruncateAmount_ok_iff hprecise ha).mpr ⟨hsmall, hconverts, hcovered, rfl⟩
      refine ⟨_, hr, (), henabled, .inr ⟨_, hc, ?_⟩⟩
      rw [if_pos hreached, panics_sendCosmosOriginated (not_panics_back hprecise hsmall)]
      exact h.panics_handleFeeCollection.mpr hcredit

/-- The votes play no part. -/
theorem ReceiveOverflows.set_votes (h : ReceiveOverflows s q e reached) (txEvidences : ExtTreeMap String Evidences)
    (processedTxs : ExtTreeMap String Unit) :
    ReceiveOverflows { s with txEvidences := txEvidences, processedTxs := processedTxs } q e reached := by
  cases h with
  | factor h₁ h₂ h₃ h₄ => exact .factor h₁ h₂ h₃ h₄
  | unit h₁ h₂ h₃ h₄ h₅ h₆ h₇ => exact .unit h₁ h₂ h₃ h₄ h₅ h₆ h₇
  | xrpl h₁ h₂ h₃ h₄ h₅ h₆ h₇ h₈ => exact .xrpl h₁ h₂ h₃ h₄ h₅ h₆ h₇ h₈
  | cosmos h₁ h₂ h₃ h₄ h₅ h₆ h₇ h₈ => exact .cosmos h₁ h₂ h₃ h₄ h₅ h₆ h₇ h₈

theorem ReceiveOverflows.of_votes {s₁ : Storage} {sender : Addr} {evidence : Evidence} {counted : Bool}
    (hv : Votes H s sender evidence s₁ counted) :
    ReceiveOverflows s₁ q e reached ↔ ReceiveOverflows s q e reached := by
  obtain ⟨_, _, rfl⟩ := hv.frame
  constructor
  · intro h
    exact h.set_votes s.txEvidences s.processedTxs
  · intro h
    exact h.set_votes _ _

theorem InRange.of_votes {s₁ : Storage} {sender : Addr} {evidence : Evidence} {counted : Bool} (h : InRange s)
    (hv : Votes H s sender evidence s₁ counted) : InRange s₁ := by
  obtain ⟨_, _, rfl⟩ := hv.frame
  exact ⟨h.xrpl, h.cosmos, h.relayers, h.distinct⟩

theorem panics_saveTransferEvidence (h : InRange s) (ha : e.amount < u128Bound) :
    Panics (saveTransferEvidence H s q e reached response) ↔
      s.config.bridgeState ≠ .halted ∧ H.addrValidate e.recipient = true ∧ e.recipient ≠ H.contract ∧
        ReceiveOverflows s q e reached := by
  have hreceive : Panics (if e.issuer ≠ s.config.bridgeXRPLAddress then
        receiveXRPLOriginated H s q e (e.memo.getD "") reached response
      else receiveCosmosOriginated s e (e.memo.getD "") reached response) ↔ ReceiveOverflows s q e reached := by
    split_ifs with hforeign
    · exact panics_receiveXRPLOriginated h hforeign ha
    · exact panics_receiveCosmosOriginated h (not_not.mp hforeign) ha
  simp only [saveTransferEvidence, panics_bind, not_panics_failIf, not_panics_pure, and_false, exists_false,
    or_false, false_or, failIf_eq_ok, hreceive, addrValidate, Bool.not_eq_false]
  constructor
  · rintro ⟨_, hactive, _, hvalid, _, hself, hover⟩
    exact ⟨hactive, hvalid, hself, hover⟩
  · rintro ⟨hactive, hvalid, hself, hover⟩
    exact ⟨(), hactive, (), hvalid, (), hself, hover⟩

end Receives

end XrplBridge
