import XrplBridge.Contract.Execute

/-!
# Panics

Where the arithmetic of amounts and fees panics instead of returning an error: a power of ten
that a `u128` does not hold (`panics_truncateAmount`, `panics_convertAmountDecimals`), and a share
that takes what a relayer has collected over the bound (`panics_foldlM_addRelayerFees`). For amounts
that are `u128`s, `truncateAmount_eq_ok_iff` and its companions say when the same functions succeed.
-/

namespace XrplBridge.Contract

open Library Std

variable {α β : Type}

/-- The computation panics. -/
def Panics (x : ContractResult α) : Prop := x = .error .panic

@[simp] theorem panics_bind {x : ContractResult α} {f : α → ContractResult β} :
    Panics (x >>= f) ↔ Panics x ∨ ∃ a, x = .ok a ∧ Panics (f a) := by
  cases x <;> simp [Panics, bind, Except.bind]

@[simp] theorem panics_map {x : ContractResult α} {f : α → β} : Panics (f <$> x) ↔ Panics x := by
  cases x <;> simp [Panics, Functor.map, Except.map]

@[simp] theorem not_panics_ok {a : α} : ¬ Panics (.ok a : ContractResult α) := by simp [Panics]

theorem not_panics_of_ok {x : ContractResult α} {a : α} (h : x = .ok a) : ¬ Panics x := by
  rw [h]
  exact not_panics_ok

@[simp] theorem not_panics_pure {a : α} : ¬ Panics (pure a : ContractResult α) := not_panics_ok

@[simp] theorem not_panics_fail {e : ContractError} : ¬ Panics (fail e : ContractResult α) := by
  simp [Panics, fail]

instance instDecidablePanics (x : ContractResult α) : Decidable (Panics x) :=
  match x with
  | .ok _ => isFalse not_panics_ok
  | .error e => decidable_of_iff (e = .panic) (by simp [Panics])

@[simp] theorem panics_panicked : Panics (panicked : ContractResult α) := rfl

@[simp] theorem not_panics_failIf {c : Prop} [Decidable c] {e : ContractError} : ¬ Panics (failIf c e) := by
  unfold failIf
  split_ifs <;> simp

@[simp] theorem not_panics_orFail {x : Option α} {e : ContractError} : ¬ Panics (orFail x e) := by
  cases x <;> simp [orFail]

@[simp] theorem panics_unwrap {x : Option α} : Panics (unwrap x) ↔ x = none := by
  cases x <;> simp [unwrap]

/-! ### Powers of ten -/

theorem pow_lt_u128Bound_iff {e : ℕ} : 10 ^ e < u128Bound ↔ e ≤ 38 := by
  constructor
  · intro h
    by_contra hlarge
    have hpow : 10 ^ 39 ≤ 10 ^ e := Nat.pow_le_pow_right (by decide) (by omega)
    exact absurd (hpow.trans_lt h) (by decide)
  · intro h
    exact (Nat.pow_le_pow_right (by decide) h).trans_lt (by decide)

@[simp] theorem panics_pow10 {e : ℕ} : Panics (pow10 e) ↔ 38 < e := by
  unfold pow10
  split_ifs with h
  · simpa using pow_lt_u128Bound_iff.mp h
  · simpa using fun he => h (pow_lt_u128Bound_iff.mpr he)

section Checked

variable {a b : ℕ}

@[simp] theorem not_panics_checkedAdd : ¬ Panics (checkedAdd a b) := by
  unfold checkedAdd
  split_ifs <;> simp

@[simp] theorem not_panics_checkedSub : ¬ Panics (checkedSub a b) := by
  unfold checkedSub
  split_ifs <;> simp

@[simp] theorem not_panics_checkedMul : ¬ Panics (checkedMul a b) := by
  unfold checkedMul
  split_ifs <;> simp

@[simp] theorem not_panics_checkedDiv : ¬ Panics (checkedDiv a b) := by
  unfold checkedDiv
  split_ifs <;> simp

end Checked

/-! ### Amounts -/

section Amounts

variable {precision : ℤ} {decimals fromDecimals toDecimals amount bridgingFee a r : ℕ}

/-- The exponent is computed in `i32`. -/
def ExponentFits (precision : ℤ) (decimals : ℕ) : Prop :=
  -2 ^ 31 ≤ asI32 decimals - precision ∧ asI32 decimals - precision < 2 ^ 31

theorem checkI32_of_fits (h : ExponentFits precision decimals) :
    checkI32 (asI32 decimals - precision) = .ok (asI32 decimals - precision) := if_pos h

/-- The unit that amounts are cut to. -/
def unitOf (precision : ℤ) (decimals : ℕ) : ℕ := 10 ^ (asI32 decimals - precision).natAbs

theorem unitOf_pos : 0 < unitOf precision decimals := Nat.pow_pos (by decide)

theorem panics_truncateAmount (h : ExponentFits precision decimals) :
    Panics (truncateAmount precision decimals amount) ↔ 38 < (asI32 decimals - precision).natAbs := by
  simp [truncateAmount, checkI32_of_fits h]

/-- A `u128` is cut to a unit that a `u128` holds, if it covers one. -/
theorem truncateAmount_eq_ok_iff {x : ℕ × ℕ} (h : ExponentFits precision decimals)
    (hsmall : (asI32 decimals - precision).natAbs ≤ 38) (ha : amount < u128Bound) :
    truncateAmount precision decimals amount = .ok x ↔
      unitOf precision decimals ≤ amount ∧
        x = (amount / unitOf precision decimals * unitOf precision decimals, amount % unitOf precision decimals) := by
  have hbound := pow_lt_u128Bound_iff.mpr hsmall
  have hpos : 0 < 10 ^ (asI32 decimals - precision).natAbs := unitOf_pos
  simp only [truncateAmount, checkI32_of_fits h, bind_eq_ok, pow10_eq_ok, checkedDiv_eq_ok, failIf_eq_ok,
    checkedMul_eq_ok, checkedSub_eq_ok, pure_eq_ok, Except.ok.injEq, exists_eq_left', unitOf]
  generalize 10 ^ (asI32 decimals - precision).natAbs = unit at hbound hpos
  have hle := Nat.div_mul_le_self amount unit
  constructor
  · rintro ⟨_, ⟨-, rfl⟩, _, ⟨-, rfl⟩, _, hcovers, _, ⟨-, rfl⟩, _, ⟨-, rfl⟩, rfl⟩
    refine ⟨?_, by rw [Nat.mod_eq_sub_div_mul]⟩
    by_contra hlt
    exact hcovers (Nat.div_eq_of_lt (Nat.not_le.mp hlt))
  · rintro ⟨hcovers, rfl⟩
    exact ⟨_, ⟨hbound, rfl⟩, _, ⟨hpos.ne', rfl⟩, (), (Nat.div_pos hcovers hpos).ne', _, ⟨hle.trans_lt ha, rfl⟩,
      _, ⟨hle, rfl⟩, by rw [Nat.mod_eq_sub_div_mul]⟩

theorem panics_convertAmountDecimals :
    Panics (convertAmountDecimals fromDecimals toDecimals amount) ↔
      38 < (toDecimals - fromDecimals) + (fromDecimals - toDecimals) := by
  unfold convertAmountDecimals
  split
  · rename_i hc
    have := Nat.compare_eq_lt.mp hc
    simp
    omega
  · rename_i hc
    have := Nat.compare_eq_gt.mp hc
    simp
    omega
  · rename_i hc
    have := Nat.compare_eq_eq.mp hc
    simp
    omega

/-- A conversion by a power of ten that a `u128` holds multiplies or divides, and checks the product. -/
theorem convertAmountDecimals_eq_ok_iff
    (hsmall : (toDecimals - fromDecimals) + (fromDecimals - toDecimals) ≤ 38) (ha : amount < u128Bound) :
    convertAmountDecimals fromDecimals toDecimals amount = .ok a ↔
      amount * 10 ^ (toDecimals - fromDecimals) < u128Bound ∧
        a = amount * 10 ^ (toDecimals - fromDecimals) / 10 ^ (fromDecimals - toDecimals) := by
  rcases Nat.lt_trichotomy fromDecimals toDecimals with hlt | rfl | hgt
  · have hpow : 10 ^ (toDecimals - fromDecimals) < u128Bound := pow_lt_u128Bound_iff.mpr (by omega)
    rw [Nat.sub_eq_zero_of_le hlt.le, Nat.pow_zero, Nat.div_one]
    constructor
    · intro h
      rcases convertAmountDecimals_eq_ok h with ⟨-, -, hm, rfl⟩ | ⟨hgt, -⟩ | ⟨rfl, -⟩
      · exact ⟨hm, rfl⟩
      · exact absurd hgt hlt.not_gt
      · exact absurd hlt (Nat.lt_irrefl _)
    · rintro ⟨hm, rfl⟩
      exact convertAmountDecimals_lt hlt hpow hm
  · simp [convertAmountDecimals, ha, eq_comm]
  · have hpow : 10 ^ (fromDecimals - toDecimals) < u128Bound := pow_lt_u128Bound_iff.mpr (by omega)
    rw [Nat.sub_eq_zero_of_le hgt.le, Nat.pow_zero, Nat.mul_one, convertAmountDecimals_gt hgt hpow,
      Except.ok.injEq, eq_comm]
    exact (and_iff_right ha).symm

@[simp] theorem not_panics_amountAfterBridgeFees : ¬ Panics (amountAfterBridgeFees amount bridgingFee) := by
  unfold amountAfterBridgeFees
  split_ifs <;> simp

theorem amountAfterBridgeFees_eq_ok_iff :
    amountAfterBridgeFees amount bridgingFee = .ok a ↔ bridgingFee ≤ amount ∧ a = amount - bridgingFee := by
  unfold amountAfterBridgeFees
  split_ifs with h
  · simp [h, eq_comm]
  · simp [h, fail]

@[simp] theorem not_panics_validateXRPLAmount : ¬ Panics (validateXRPLAmount amount) := not_panics_failIf

end Amounts

/-! ### Checks -/

section Checks

variable {H : Host} {s : Storage} {timestamp ticket : ℕ} {operationType : OperationType}

@[simp] theorem not_panics_checkAuthorization {sender : Addr} {action : ContractActions} :
    ¬ Panics (checkAuthorization s sender action) := not_panics_failIf

@[simp] theorem not_panics_assertBridgeActive : ¬ Panics (assertBridgeActive s) := not_panics_failIf

@[simp] theorem not_panics_oneCoin {funds : List Coin} : ¬ Panics (oneCoin funds) := by
  unfold oneCoin
  split
  · exact not_panics_fail
  · split_ifs <;> simp
  · exact not_panics_fail

@[simp] theorem not_panics_validateXRPLAddress {prohibited : ExtTreeMap String Unit} {address : String} :
    ¬ Panics (validateXRPLAddress H prohibited address) := by
  simp [validateXRPLAddress, validateXRPLAddressFormat, validateXRPLAddressIsNotProhibited]

@[simp] theorem not_panics_validateMaxAmount {maxAmount : Option ℕ} : ¬ Panics (validateMaxAmount maxAmount) := by
  cases maxAmount <;> simp [validateMaxAmount]

@[simp] theorem not_panics_validateBasic {e : Evidence} : ¬ Panics e.validateBasic := by
  cases e with
  | xrplToCosmosTransfer => exact not_panics_failIf
  | xrplTransactionResult e =>
    rw [Evidence.validateBasic]
    cases e.operationResult with
    | none => simp
    | some result =>
      cases result
      simp

@[simp] theorem not_panics_checkSequenceKind {e : ResultEvidence} : ¬ Panics (checkSequenceKind operationType e) := by
  unfold checkSequenceKind
  split <;> simp

@[simp] theorem not_panics_allocateTicket : ¬ Panics (allocateTicket s) := by
  unfold allocateTicket reserveTicket
  split <;> simp

@[simp] theorem not_panics_createPendingOperation :
    ¬ Panics (createPendingOperation s timestamp (some ticket) none operationType) := by
  unfold createPendingOperation checkValidOperationIfHalt
  split_ifs
  · split <;> simp
  · simp

/-- The counter of used tickets is a `u32`. -/
theorem panics_registerUsedTicket :
    Panics (registerUsedTicket s timestamp) ↔ u32Bound ≤ s.usedTicketsCounter + 1 := by
  by_cases hfits : s.usedTicketsCounter + 1 < u32Bound
  · refine iff_of_false ?_ (Nat.not_le.mpr hfits)
    simp only [registerUsedTicket, if_pos hfits, panics_bind, panics_unwrap, reduceCtorEq, false_or, not_exists,
      not_and]
    intro _ _
    split_ifs
    · unfold reserveTicket
      cases s.availableTickets <;> simp [fail]
    · exact not_panics_pure
  · refine iff_of_true (panics_bind.mpr (.inl ?_)) (Nat.not_lt.mp hfits)
    rw [if_neg hfits]
    rfl

end Checks

/-! ### Fees -/

section Fees

variable {denom : String} {amount : ℕ} {cs : List Coin} {s : Storage}

theorem coinsOf_eq_zero (h : denom ∉ cs.map Coin.denom) : coinsOf denom cs = 0 := by
  induction cs with
  | nil => rfl
  | cons c cs ih =>
    rw [List.map_cons, List.mem_cons, not_or] at h
    rw [coinsOf_cons, if_neg (Ne.symm h.1), ih h.2]

/-- A relayer's coins are credited, or the sum overflows. -/
theorem addToCoins_ok_or_panics (denom : String) (amount : ℕ) (cs : List Coin) :
    (∃ cs', addToCoins denom amount cs = .ok cs') ∨ Panics (addToCoins denom amount cs) := by
  induction cs with
  | nil => exact .inl ⟨_, rfl⟩
  | cons c cs ih =>
    rw [addToCoins]
    split_ifs
    · exact .inl ⟨_, rfl⟩
    · exact .inr rfl
    · rcases ih with ⟨cs', hok⟩ | hpanics
      · exact .inl ⟨c :: cs', bind_eq_ok.mpr ⟨cs', hok, rfl⟩⟩
      · exact .inr (panics_bind.mpr (.inl hpanics))

theorem panics_addToCoins (hcs : (cs.map Coin.denom).Nodup) (ha : amount < u128Bound) :
    Panics (addToCoins denom amount cs) ↔ u128Bound ≤ coinsOf denom cs + amount := by
  induction cs with
  | nil => simpa [addToCoins] using ha
  | cons c cs ih =>
    rw [List.map_cons, List.nodup_cons] at hcs
    rw [addToCoins, coinsOf_cons]
    split_ifs with hd hfits
    · rw [coinsOf_eq_zero (hd ▸ hcs.1)]
      simpa using hfits
    · rw [coinsOf_eq_zero (hd ▸ hcs.1)]
      simpa using hfits
    · simpa using ih hcs.2

theorem panics_addRelayerFees {fc : ExtTreeMap Addr (List Coin)} {r : Relayer} :
    Panics (addRelayerFees denom amount fc r) ↔ Panics (addToCoins denom amount (fc[r.cosmosAddress]?.getD [])) := by
  simp [addRelayerFees]

/-- The shares of a fee overflow at the first relayer who has collected too much. -/
theorem panics_foldlM_addRelayerFees {rs : List Relayer} {fc : ExtTreeMap Addr (List Coin)}
    (hrs : (rs.map Relayer.cosmosAddress).Nodup)
    (hd : ∀ (a : Addr) (cs : List Coin), fc[a]? = some cs → (cs.map Coin.denom).Nodup) (ha : amount < u128Bound) :
    Panics (rs.foldlM (addRelayerFees denom amount) fc) ↔
      ∃ a ∈ rs.map Relayer.cosmosAddress, u128Bound ≤ coinsOf denom (fc[a]?.getD []) + amount := by
  induction rs generalizing fc with
  | nil => simp
  | cons r rs ih =>
    rw [List.map_cons, List.nodup_cons] at hrs
    have hcs : ((fc[r.cosmosAddress]?.getD []).map Coin.denom).Nodup := by
      cases hr : fc[r.cosmosAddress]? with
      | none => exact List.nodup_nil
      | some cs => exact hd _ _ hr
    rw [List.foldlM_cons, panics_bind, panics_addRelayerFees, panics_addToCoins hcs ha, List.map_cons,
      List.exists_mem_cons_iff]
    apply or_congr_right'
    intro hfits
    obtain ⟨coins, hcoins⟩ : ∃ coins, addToCoins denom amount (fc[r.cosmosAddress]?.getD []) = .ok coins :=
      (addToCoins_ok_or_panics _ _ _).resolve_right fun hp => hfits ((panics_addToCoins hcs ha).mp hp)
    have hadded : addRelayerFees denom amount fc r = .ok (fc.insert r.cosmosAddress coins) :=
      bind_eq_ok.mpr ⟨coins, hcoins, rfl⟩
    have hdistinct : ∀ (a : Addr) (cs : List Coin), (fc.insert r.cosmosAddress coins)[a]? = some cs →
        (cs.map Coin.denom).Nodup := by
      intro a cs hget
      rcases getElem?_of_insert hget with ⟨-, rfl⟩ | ⟨-, hold⟩
      · exact addToCoins_nodup hcoins hcs
      · exact hd a cs hold
    have hothers : ∀ a ∈ rs.map Relayer.cosmosAddress, (fc.insert r.cosmosAddress coins)[a]? = fc[a]? := by
      intro a hin
      exact getElem?_insert_ne fun heq => hrs.1 (heq ▸ hin)
    rw [hadded]
    simp only [Except.ok.injEq, exists_eq_left', ih hrs.2 hdistinct]
    constructor
    · rintro ⟨a, hin, hover⟩
      exact ⟨a, hin, hothers a hin ▸ hover⟩
    · rintro ⟨a, hin, hover⟩
      exact ⟨a, hin, (hothers a hin).symm ▸ hover⟩

end Fees

end XrplBridge.Contract
