import Mathlib.Data.List.DropRight
import Mathlib.Data.Nat.ModEq
import XrplBridge.Contract.Validation

/-!
# Amounts

Truncation to the sending precision, conversion between the decimals of XRPL and of
Cosmos, and the two ways they are combined with the bridging fee. Nothing is lost in
any of them: what is sent, the fee and the remainder of the truncation make up the
amount (`truncateAndConvertAmount_eq_ok`, `convertAndTruncateAmount_eq_ok`). A
conversion to XRPL decimals and back never gains, and never overflows
(`convertAmountDecimals_back`).
-/

namespace XrplBridge.Contract

open Library

/-- `i32` arithmetic: a panic outside the range. -/
def checkI32 (z : ℤ) : ContractResult ℤ := if -2 ^ 31 ≤ z ∧ z < 2 ^ 31 then .ok z else panicked

/-- `truncate_amount`: the amount over the sending precision, and what is cut off. -/
def truncateAmount (sendingPrecision : ℤ) (decimals amount : ℕ) : ContractResult (ℕ × ℕ) := do
  let exponent ← checkI32 (asI32 decimals - sendingPrecision)
  let divisor ← pow10 exponent.natAbs
  let amountToSend ← checkedDiv amount divisor
  failIf (amountToSend = 0) .amountSentIsZeroAfterTruncation
  let truncatedAmount ← checkedMul amountToSend divisor
  let remainder ← checkedSub amount truncatedAmount
  pure (truncatedAmount, remainder)

/-- `convert_amount_decimals`. -/
def convertAmountDecimals (fromDecimals toDecimals amount : ℕ) : ContractResult ℕ :=
  match compare fromDecimals toDecimals with
  | .lt => do
    let factor ← pow10 (toDecimals - fromDecimals)
    checkedMul amount factor
  | .gt => do
    let divisor ← pow10 (fromDecimals - toDecimals)
    checkedDiv amount divisor
  | .eq => .ok amount

/-- `amount_after_bridge_fees`. -/
def amountAfterBridgeFees (amount bridgingFee : ℕ) : ContractResult ℕ :=
  if bridgingFee ≤ amount then .ok (amount - bridgingFee) else fail .cannotCoverBridgingFees

/-- `convert_and_truncate_amount`, for a transfer to Cosmos. -/
def convertAndTruncateAmount (sendingPrecision : ℤ) (fromDecimals toDecimals amount bridgingFee : ℕ) :
    ContractResult (ℕ × ℕ) := do
  let convertedAmount ← convertAmountDecimals fromDecimals toDecimals amount
  let amountAfterFees ← amountAfterBridgeFees convertedAmount bridgingFee
  truncateAmount sendingPrecision toDecimals amountAfterFees

/-- `truncate_and_convert_amount`, for a transfer to XRPL. -/
def truncateAndConvertAmount (sendingPrecision : ℤ) (fromDecimals toDecimals amount bridgingFee : ℕ) :
    ContractResult (ℕ × ℕ) := do
  let amountAfterFees ← amountAfterBridgeFees amount bridgingFee
  let (truncatedAmount, remainder) ← truncateAmount sendingPrecision fromDecimals amountAfterFees
  let convertedAmount ← convertAmountDecimals fromDecimals toDecimals truncatedAmount
  pure (convertedAmount, remainder)

/-- `validate_xrpl_amount`: at most 16 digits once the zeros at the end are trimmed. -/
def validateXRPLAmount (amount : ℕ) : ContractResult Unit :=
  failIf (((toString amount).toList.rdropWhile (· = '0')).length > xrplMaxTruncatedAmountLength)
    .invalidXRPLAmount

/-! ### What they return -/

variable {sendingPrecision : ℤ} {decimals fromDecimals toDecimals amount bridgingFee a r : ℕ}

theorem checkI32_eq_ok {z w : ℤ} (h : checkI32 z = .ok w) : z = w := by
  unfold checkI32 at h
  split_ifs at h
  · exact Except.ok.inj h
  · simp at h

/-- What is sent and what is cut off make up the amount. -/
theorem truncateAmount_eq_ok (h : truncateAmount sendingPrecision decimals amount = .ok (a, r)) :
    a + r = amount ∧ 0 < a ∧ a < u128Bound := by
  simp only [truncateAmount, bind_eq_ok, pow10_eq_ok, checkedDiv_eq_ok, failIf_eq_ok, checkedMul_eq_ok,
    checkedSub_eq_ok, pure_eq_ok, Prod.mk.injEq] at h
  obtain ⟨e, -, p, ⟨-, hp⟩, q, ⟨hp0, rfl⟩, _, hq, t, ⟨hb, rfl⟩, _, ⟨hle, rfl⟩, rfl, rfl⟩ := h
  exact ⟨Nat.add_sub_cancel' hle, Nat.mul_pos (Nat.pos_of_ne_zero hq) (Nat.pos_of_ne_zero hp0), hb⟩

/-- What is sent is the amount, cut to the unit that the sending precision leaves. -/
theorem truncateAmount_value (h : truncateAmount sendingPrecision decimals amount = .ok (a, r)) :
    a = amount / 10 ^ (asI32 decimals - sendingPrecision).natAbs * 10 ^ (asI32 decimals - sendingPrecision).natAbs := by
  simp only [truncateAmount, bind_eq_ok, pow10_eq_ok, checkedDiv_eq_ok, checkedMul_eq_ok, pure_eq_ok,
    Prod.mk.injEq] at h
  obtain ⟨e, he, p, ⟨-, rfl⟩, q, ⟨-, rfl⟩, _, -, t, ⟨-, rfl⟩, _, -, rfl, -⟩ := h
  rw [← checkI32_eq_ok he]

theorem amountAfterBridgeFees_eq_ok (h : amountAfterBridgeFees amount bridgingFee = .ok a) :
    bridgingFee + a = amount := by
  unfold amountAfterBridgeFees at h
  split_ifs at h with hle
  · cases h; omega
  · simp at h

/-- The factor of a conversion is a power of ten that a `u128` holds, and the conversion
up checks the product. -/
theorem convertAmountDecimals_eq_ok (h : convertAmountDecimals fromDecimals toDecimals amount = .ok a) :
    (fromDecimals < toDecimals ∧ 10 ^ (toDecimals - fromDecimals) < u128Bound ∧
        amount * 10 ^ (toDecimals - fromDecimals) < u128Bound ∧
          a = amount * 10 ^ (toDecimals - fromDecimals)) ∨
      (toDecimals < fromDecimals ∧ 10 ^ (fromDecimals - toDecimals) < u128Bound ∧
        a = amount / 10 ^ (fromDecimals - toDecimals)) ∨
      (fromDecimals = toDecimals ∧ a = amount) := by
  unfold convertAmountDecimals at h
  split at h
  · rename_i hc
    simp only [bind_eq_ok, pow10_eq_ok, checkedMul_eq_ok] at h
    obtain ⟨_, ⟨hp, rfl⟩, hm, rfl⟩ := h
    exact .inl ⟨Nat.compare_eq_lt.mp hc, hp, hm, rfl⟩
  · rename_i hc
    simp only [bind_eq_ok, pow10_eq_ok, checkedDiv_eq_ok] at h
    obtain ⟨_, ⟨hp, rfl⟩, -, rfl⟩ := h
    exact .inr (.inl ⟨Nat.compare_eq_gt.mp hc, hp, rfl⟩)
  · rename_i hc
    exact .inr (.inr ⟨Nat.compare_eq_eq.mp hc, (Except.ok.inj h).symm⟩)

theorem convertAmountDecimals_lt (h : fromDecimals < toDecimals) (hp : 10 ^ (toDecimals - fromDecimals) < u128Bound)
    (hm : amount * 10 ^ (toDecimals - fromDecimals) < u128Bound) :
    convertAmountDecimals fromDecimals toDecimals amount =
      .ok (amount * 10 ^ (toDecimals - fromDecimals)) := by
  simp [convertAmountDecimals, Nat.compare_eq_lt.mpr h, bind_eq_ok, pow10_eq_ok, checkedMul_eq_ok, hp, hm]

theorem convertAmountDecimals_gt (h : toDecimals < fromDecimals)
    (hp : 10 ^ (fromDecimals - toDecimals) < u128Bound) :
    convertAmountDecimals fromDecimals toDecimals amount =
      .ok (amount / 10 ^ (fromDecimals - toDecimals)) := by
  simp [convertAmountDecimals, Nat.compare_eq_gt.mpr h, bind_eq_ok, pow10_eq_ok, checkedDiv_eq_ok, hp]

/-- An amount in Cosmos decimals that an amount in XRPL decimals is worth. -/
def fromXRPLDecimals (decimals amount : ℕ) : ℕ :=
  if decimals < xrplTokensDecimals then amount / 10 ^ (xrplTokensDecimals - decimals)
  else amount * 10 ^ (decimals - xrplTokensDecimals)

theorem convertAmountDecimals_fromXRPL (h : convertAmountDecimals xrplTokensDecimals decimals amount = .ok a) :
    a = fromXRPLDecimals decimals amount := by
  unfold fromXRPLDecimals
  rcases convertAmountDecimals_eq_ok h with ⟨hlt, -, -, rfl⟩ | ⟨hlt, -, rfl⟩ | ⟨rfl, rfl⟩
  · rw [if_neg (by omega)]
  · rw [if_pos hlt]
  · simp

/-- An amount a conversion to XRPL decimals may have produced: one that divides evenly
on the way back. -/
def WholeInCosmos (decimals amount : ℕ) : Prop := 10 ^ (xrplTokensDecimals - decimals) ∣ amount

/-- **A conversion to XRPL decimals and back**: it succeeds, and does not gain. -/
theorem convertAmountDecimals_back (hb : amount < u128Bound)
    (h : convertAmountDecimals decimals xrplTokensDecimals amount = .ok a) :
    convertAmountDecimals xrplTokensDecimals decimals a = .ok (fromXRPLDecimals decimals a) ∧
      fromXRPLDecimals decimals a ≤ amount ∧ WholeInCosmos decimals a := by
  unfold fromXRPLDecimals WholeInCosmos
  rcases convertAmountDecimals_eq_ok h with ⟨hlt, hp, hm, rfl⟩ | ⟨hlt, hp, rfl⟩ | ⟨rfl, rfl⟩
  · rw [if_pos hlt, convertAmountDecimals_gt hlt hp, Nat.mul_div_cancel _ (Nat.pow_pos (by decide))]
    exact ⟨rfl, le_rfl, Dvd.intro_left _ rfl⟩
  · have hle := Nat.div_mul_le_self amount (10 ^ (decimals - xrplTokensDecimals))
    rw [if_neg (by omega), convertAmountDecimals_lt hlt hp (lt_of_le_of_lt hle hb)]
    exact ⟨rfl, hle, by simp [Nat.sub_eq_zero_of_le hlt.le]⟩
  · simp [convertAmountDecimals]

/-- The conversion of a sum is at least the sum of the conversions. -/
theorem fromXRPLDecimals_add_le (decimals a b : ℕ) :
    fromXRPLDecimals decimals a + fromXRPLDecimals decimals b ≤ fromXRPLDecimals decimals (a + b) := by
  unfold fromXRPLDecimals
  split_ifs
  · exact Nat.div_add_div_le_add_div
  · exact (Nat.add_mul a b _).ge

/-- An amount that divides evenly converts by itself. -/
theorem fromXRPLDecimals_add {decimals a b : ℕ} (hb : WholeInCosmos decimals b) :
    fromXRPLDecimals decimals (a + b) = fromXRPLDecimals decimals a + fromXRPLDecimals decimals b := by
  unfold fromXRPLDecimals
  split_ifs
  · exact Nat.add_div_of_dvd_left hb
  · exact Nat.add_mul a b _

theorem fromXRPLDecimals_mono {decimals a b : ℕ} (h : a ≤ b) :
    fromXRPLDecimals decimals a ≤ fromXRPLDecimals decimals b := by
  unfold fromXRPLDecimals
  split_ifs
  · exact Nat.div_le_div_right h
  · exact Nat.mul_le_mul_right _ h

@[simp] theorem fromXRPLDecimals_zero (decimals : ℕ) : fromXRPLDecimals decimals 0 = 0 := by
  simp [fromXRPLDecimals]

/-- A transfer to Cosmos: the converted amount is the fee, what is sent and what is cut off. -/
theorem convertAndTruncateAmount_eq_ok
    (h : convertAndTruncateAmount sendingPrecision xrplTokensDecimals decimals amount bridgingFee =
      .ok (a, r)) : bridgingFee + (a + r) = fromXRPLDecimals decimals amount ∧ 0 < a := by
  simp only [convertAndTruncateAmount, bind_eq_ok] at h
  obtain ⟨c, hc, f, hf, ht⟩ := h
  obtain ⟨hs, hpos, -⟩ := truncateAmount_eq_ok ht
  exact ⟨by rw [hs, amountAfterBridgeFees_eq_ok hf, convertAmountDecimals_fromXRPL hc], hpos⟩

/-- A transfer to XRPL: the fee, what is cut off and what the amount sent is worth on
Cosmos are at most the amount; and the amount sent can be converted back. -/
theorem truncateAndConvertAmount_eq_ok
    (h : truncateAndConvertAmount sendingPrecision decimals xrplTokensDecimals amount bridgingFee = .ok (a, r)) :
    bridgingFee + r + fromXRPLDecimals decimals a ≤ amount ∧
      convertAmountDecimals xrplTokensDecimals decimals a = .ok (fromXRPLDecimals decimals a) ∧
        WholeInCosmos decimals a := by
  simp only [truncateAndConvertAmount, bind_eq_ok, pure_eq_ok, Prod.mk.injEq] at h
  obtain ⟨f, hf, ⟨t, r'⟩, ht, c, hc, rfl, rfl⟩ := h
  obtain ⟨hs, -, hb⟩ := truncateAmount_eq_ok ht
  have hf := amountAfterBridgeFees_eq_ok hf
  obtain ⟨hback, hle, hw⟩ := convertAmountDecimals_back hb hc
  exact ⟨by omega, hback, hw⟩

example : truncateAmount (-1) 15 (123456 * 10 ^ 14) = .ok (1234 * 10 ^ 16, 56 * 10 ^ 14) := by decide

end XrplBridge.Contract
