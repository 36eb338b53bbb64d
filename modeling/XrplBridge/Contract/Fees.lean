import XrplBridge.Contract.Amount

/-!
# Fees

The fees collected for the relayers (`fees.rs`). Every collection is split evenly; what
does not divide is kept in a remainder for the next one. Over both stores nothing is
lost or made: a collection adds exactly what it collects (`handleFeeCollection_eq_ok`),
a claim takes exactly what it pays out (`substractRelayerFees_eq_ok`). Relayers with
addresses of their own get equal shares (`foldlM_addRelayerFees_shares`).
-/

namespace XrplBridge.Contract

open Library Std

/-- One relayer's coins with `amount` more of the denom: the first coin of the denom
grows (`+=`, which panics when it overflows), or a new coin is pushed. -/
def addToCoins (denom : String) (amount : ℕ) : List Coin → ContractResult (List Coin)
  | [] => .ok [⟨denom, amount⟩]
  | c :: cs =>
    if c.denom = denom then
      if c.amount + amount < u128Bound then .ok ({ c with amount := c.amount + amount } :: cs) else panicked
    else do
      let cs ← addToCoins denom amount cs
      pure (c :: cs)

/-- The share of one relayer, saved. -/
def addRelayerFees (denom : String) (amount : ℕ) (feesCollected : ExtTreeMap Addr (List Coin)) (r : Relayer) :
    ContractResult (ExtTreeMap Addr (List Coin)) := do
  let coins ← addToCoins denom amount (feesCollected[r.cosmosAddress]?.getD [])
  pure (feesCollected.insert r.cosmosAddress coins)

/-- What there is to share of a denom: the new fee and the remainder of the last collection. -/
def totalFee (s : Storage) (fee : Coin) : ContractResult ℕ :=
  match s.feeRemainders[fee.denom]? with
  | some feesRemainder => checkedAdd fee.amount feesRemainder
  | none => .ok fee.amount

/-- Every relayer's share, unless it is zero. -/
def shareFees (s : Storage) (denom : String) (amountForEachRelayer : ℕ) :
    ContractResult (ExtTreeMap Addr (List Coin)) :=
  if amountForEachRelayer = 0 then .ok s.feesCollected
  else s.config.relayers.foldlM (addRelayerFees denom amountForEachRelayer) s.feesCollected

/-- `collect_fees`. -/
def collectFees (s : Storage) (fee : Coin) : ContractResult Storage :=
  if fee.amount = 0 then .ok s
  else do
    let totalFee ← totalFee s fee
    let amountForEachRelayer ← checkedDiv totalFee s.config.relayers.length
    let feesCollected ← shareFees s fee.denom amountForEachRelayer
    let shared ← checkedMul amountForEachRelayer s.config.relayers.length
    let remainder ← checkedSub totalFee shared
    pure { s with feesCollected, feeRemainders := s.feeRemainders.insert fee.denom remainder }

/-- `handle_fee_collection`. -/
def handleFeeCollection (s : Storage) (bridgingFee : ℕ) (tokenDenom : String) (remainder : ℕ) :
    ContractResult (Storage × ℕ) := do
  let feeCollected ← checkedAdd bridgingFee remainder
  let s ← collectFees s ⟨tokenDenom, feeCollected⟩
  pure (s, feeCollected)

/-- Take `coin` from the first coin of its denom that covers it. -/
def takeFromCoins (coin : Coin) : List Coin → Option (List Coin)
  | [] => none
  | c :: cs =>
    if c.denom = coin.denom ∧ coin.amount ≤ c.amount then some ({ c with amount := c.amount - coin.amount } :: cs)
    else (takeFromCoins coin cs).map (c :: ·)

/-- `substract_relayer_fees`. -/
def substractRelayerFees (s : Storage) (sender : Addr) (amounts : List Coin) : ContractResult Storage := do
  let feesCollected ← orFail s.feesCollected[sender]?
    (.std (.notFound (notFoundObjectInfo "alloc::vec::Vec<cosmwasm_std::coin::Coin>" (mapKey "c" sender))))
  let feesCollected ← amounts.foldlM (fun feesCollected coin =>
    orFail (takeFromCoins coin feesCollected) (.notEnoughFeesToClaim coin.denom coin.amount)) feesCollected
  pure { s with feesCollected := s.feesCollected.insert sender (feesCollected.filter fun c => c.amount ≠ 0) }

/-! ### Nothing is lost or made -/

variable {denom D : String} {amount : ℕ} {cs cs' : List Coin} {s s' : Storage}

/-- What the relayers have collected of a denom, over all addresses. -/
def collectedOf (feesCollected : ExtTreeMap Addr (List Coin)) (D : String) : ℕ :=
  total feesCollected fun _ cs => coinsOf D cs

/-- What is collected and not claimed of a denom, with the remainder kept for the next
collection. -/
def Storage.feesOf (s : Storage) (D : String) : ℕ :=
  collectedOf s.feesCollected D + s.feeRemainders[D]?.getD 0

theorem addToCoins_eq_ok (h : addToCoins denom amount cs = .ok cs') (D : String) :
    coinsOf D cs' = coinsOf D cs + if denom = D then amount else 0 := by
  induction cs generalizing cs' with
  | nil => cases h; simp
  | cons c cs ih =>
    rw [addToCoins] at h
    split_ifs at h with hd hb
    · cases h
      subst hd
      by_cases hD : c.denom = D
      · simp [hD]; omega
      · simp [hD]
    · simp at h
    · simp only [bind_eq_ok, pure_eq_ok] at h
      obtain ⟨cs₁, h₁, rfl⟩ := h
      rw [coinsOf_cons, coinsOf_cons, ih h₁]; omega

theorem addRelayerFees_eq_ok {fc fc' : ExtTreeMap Addr (List Coin)} {r : Relayer}
    (h : addRelayerFees denom amount fc r = .ok fc') (D : String) :
    collectedOf fc' D = collectedOf fc D + if denom = D then amount else 0 := by
  simp only [addRelayerFees, bind_eq_ok, pure_eq_ok] at h
  obtain ⟨coins, hc, rfl⟩ := h
  have hadd := addToCoins_eq_ok hc D
  unfold collectedOf
  cases hg : fc[r.cosmosAddress]? with
  | none =>
    rw [hg] at hadd
    rw [total_insert_new hg, hadd]
    simp; omega
  | some old =>
    rw [hg] at hadd
    have := total_insert_old hg coins fun _ cs => coinsOf D cs
    rw [Option.getD_some] at hadd
    omega

theorem foldlM_addRelayerFees_eq_ok {rs : List Relayer} {fc fc' : ExtTreeMap Addr (List Coin)}
    (h : rs.foldlM (addRelayerFees denom amount) fc = .ok fc') (D : String) :
    collectedOf fc' D = collectedOf fc D + rs.length * if denom = D then amount else 0 := by
  induction rs generalizing fc with
  | nil => cases h; simp
  | cons r rs ih =>
    simp only [List.foldlM_cons, bind_eq_ok] at h
    obtain ⟨fc₁, h₁, h⟩ := h
    rw [ih h, addRelayerFees_eq_ok h₁, List.length_cons, Nat.add_mul]
    omega

theorem totalFee_eq_ok {fee : Coin} {n : ℕ} (h : totalFee s fee = .ok n) :
    n = fee.amount + s.feeRemainders[fee.denom]?.getD 0 := by
  unfold totalFee at h
  split at h
  · rename_i r hr
    rw [hr, Option.getD_some, (checkedAdd_eq_ok.mp h).2]
  · rename_i hr
    rw [hr, Option.getD_none, Except.ok.inj h, Nat.add_zero]

theorem shareFees_eq_ok {fc : ExtTreeMap Addr (List Coin)} (h : shareFees s denom amount = .ok fc) (D : String) :
    collectedOf fc D =
      collectedOf s.feesCollected D + if denom = D then amount * s.config.relayers.length else 0 := by
  unfold shareFees at h
  split_ifs at h with hz
  · cases h; simp [hz]
  · rw [foldlM_addRelayerFees_eq_ok h]
    split_ifs <;> simp [Nat.mul_comm]

theorem collectFees_eq_ok {fee : Coin} (h : collectFees s fee = .ok s') :
    (∃ fc fr, s' = { s with feesCollected := fc, feeRemainders := fr }) ∧
      ∀ D, s'.feesOf D = s.feesOf D + if fee.denom = D then fee.amount else 0 := by
  unfold collectFees at h
  split_ifs at h with hz
  · cases h
    exact ⟨⟨_, _, rfl⟩, by simp [hz]⟩
  simp only [bind_eq_ok, checkedDiv_eq_ok, checkedMul_eq_ok, checkedSub_eq_ok, pure_eq_ok] at h
  obtain ⟨n, hn, each, ⟨-, rfl⟩, fc, hfc, shared, ⟨-, rfl⟩, rem, ⟨hle, rfl⟩, rfl⟩ := h
  have hn := totalFee_eq_ok hn
  refine ⟨⟨_, _, rfl⟩, fun D => ?_⟩
  simp only [Storage.feesOf, shareFees_eq_ok hfc]
  by_cases hD : fee.denom = D
  · subst hD
    simp only [if_true, getElem?_insert_self', Option.getD_some]
    omega
  · simp [getElem?_insert_ne hD, hD]

/-- **A collection adds exactly what it collects**: the fee and the remainder. -/
theorem handleFeeCollection_eq_ok {bridgingFee remainder fee : ℕ}
    (h : handleFeeCollection s bridgingFee denom remainder = .ok (s', fee)) :
    (∃ fc fr, s' = { s with feesCollected := fc, feeRemainders := fr }) ∧ fee = bridgingFee + remainder ∧
      ∀ D, s'.feesOf D = s.feesOf D + if denom = D then bridgingFee + remainder else 0 := by
  simp only [handleFeeCollection, bind_eq_ok, checkedAdd_eq_ok, pure_eq_ok, Prod.mk.injEq] at h
  obtain ⟨f, ⟨-, rfl⟩, s₁, hs, rfl, rfl⟩ := h
  obtain ⟨hframe, hfees⟩ := collectFees_eq_ok hs
  exact ⟨hframe, rfl, hfees⟩

theorem takeFromCoins_eq_some {coin : Coin} (h : takeFromCoins coin cs = some cs') (D : String) :
    coinsOf D cs = coinsOf D cs' + if coin.denom = D then coin.amount else 0 := by
  induction cs generalizing cs' with
  | nil => cases h
  | cons c cs ih =>
    rw [takeFromCoins] at h
    split_ifs at h with hc
    · cases h
      obtain ⟨hd, hle⟩ := hc
      simp only [coinsOf_cons, ← hd]
      split_ifs <;> omega
    · rw [Option.map_eq_some_iff] at h
      obtain ⟨cs₁, h₁, rfl⟩ := h
      rw [coinsOf_cons, coinsOf_cons, ih h₁]; omega

theorem foldlM_takeFromCoins_eq_ok {amounts : List Coin}
    (h : amounts.foldlM (fun feesCollected coin =>
      orFail (takeFromCoins coin feesCollected) (.notEnoughFeesToClaim coin.denom coin.amount)) cs = .ok cs')
    (D : String) : coinsOf D cs = coinsOf D cs' + coinsOf D amounts := by
  induction amounts generalizing cs with
  | nil => cases h; simp
  | cons coin amounts ih =>
    simp only [List.foldlM_cons, bind_eq_ok, orFail_eq_ok] at h
    obtain ⟨cs₁, h₁, h⟩ := h
    rw [takeFromCoins_eq_some h₁, ih h, coinsOf_cons]; omega

theorem coinsOf_filter_ne_zero (D : String) (cs : List Coin) :
    coinsOf D (cs.filter fun c => c.amount ≠ 0) = coinsOf D cs := by
  induction cs with
  | nil => rfl
  | cons c cs ih =>
    by_cases hz : c.amount = 0
    · simp only [hz, ne_eq, decide_not, Bool.not_eq_true', decide_eq_false_iff_not, not_true_eq_false,
        not_false_eq_true, List.filter_cons_of_neg, coinsOf_cons, ite_self, Nat.zero_add] at ih ⊢
      exact ih
    · rw [List.filter_cons_of_pos (by simpa using hz), coinsOf_cons, coinsOf_cons, ih]

/-- **A claim takes exactly what it pays out**: the amounts claimed. -/
theorem substractRelayerFees_eq_ok {sender : Addr} {amounts : List Coin}
    (h : substractRelayerFees s sender amounts = .ok s') :
    (∃ fc, s' = { s with feesCollected := fc }) ∧ ∀ D, s.feesOf D = s'.feesOf D + coinsOf D amounts := by
  simp only [substractRelayerFees, bind_eq_ok, orFail_eq_ok, pure_eq_ok] at h
  obtain ⟨coins, hc, rest, hr, rfl⟩ := h
  refine ⟨⟨_, rfl⟩, fun D => ?_⟩
  have htake := foldlM_takeFromCoins_eq_ok hr D
  have hold := total_insert_old hc (rest.filter fun c => c.amount ≠ 0) fun _ cs => coinsOf D cs
  rw [coinsOf_filter_ne_zero] at hold
  simp only [Storage.feesOf, collectedOf]
  omega

/-! ### Equal shares -/

/-- The list gets a coin of the denom if it has none. -/
theorem addToCoins_denoms (h : addToCoins denom amount cs = .ok cs') :
    cs'.map Coin.denom =
      if denom ∈ cs.map Coin.denom then cs.map Coin.denom else cs.map Coin.denom ++ [denom] := by
  induction cs generalizing cs' with
  | nil =>
    cases h
    rfl
  | cons c cs ih =>
    rw [addToCoins] at h
    split_ifs at h with hd hb
    · cases h
      simp [hd]
    · simp at h
    · simp only [bind_eq_ok, pure_eq_ok] at h
      obtain ⟨cs₁, h₁, rfl⟩ := h
      simp only [List.map_cons, ih h₁, List.mem_cons, Ne.symm hd, false_or]
      split_ifs <;> rfl

theorem addToCoins_nodup (h : addToCoins denom amount cs = .ok cs') (hcs : (cs.map Coin.denom).Nodup) :
    (cs'.map Coin.denom).Nodup := by
  rw [addToCoins_denoms h]
  split_ifs with hd
  · exact hcs
  · exact hcs.append (List.nodup_singleton _) (by simpa using hd)

/-- **Relayers with addresses of their own get equal shares**, and nobody else gets anything. -/
theorem foldlM_addRelayerFees_shares {rs : List Relayer} {fc fc' : ExtTreeMap Addr (List Coin)}
    (hrs : (rs.map Relayer.cosmosAddress).Nodup) (h : rs.foldlM (addRelayerFees denom amount) fc = .ok fc')
    (a : Addr) :
    (a ∈ rs.map Relayer.cosmosAddress →
        ∃ cs, fc'[a]? = some cs ∧ addToCoins denom amount (fc[a]?.getD []) = .ok cs) ∧
      (a ∉ rs.map Relayer.cosmosAddress → fc'[a]? = fc[a]?) := by
  induction rs generalizing fc with
  | nil =>
    cases h
    simp
  | cons r rs ih =>
    simp only [List.foldlM_cons, bind_eq_ok, addRelayerFees, pure_eq_ok] at h
    obtain ⟨fc₁, ⟨coins, hcoins, rfl⟩, h⟩ := h
    rw [List.map_cons, List.nodup_cons] at hrs
    obtain ⟨hin, hout⟩ := ih hrs.2 h
    rw [List.map_cons, List.mem_cons]
    by_cases ha : a = r.cosmosAddress
    · subst ha
      refine ⟨fun _ => ⟨coins, ?_, hcoins⟩, fun hno => absurd (.inl rfl) hno⟩
      rw [hout hrs.1, getElem?_insert_self']
    · rw [getElem?_insert_ne (Ne.symm ha)] at hin hout
      exact ⟨fun h => hin (h.resolve_left ha), fun h => hout fun hin => h (.inr hin)⟩

theorem takeFromCoins_denoms {coin : Coin} (h : takeFromCoins coin cs = some cs') :
    cs'.map Coin.denom = cs.map Coin.denom := by
  induction cs generalizing cs' with
  | nil => cases h
  | cons c cs ih =>
    rw [takeFromCoins] at h
    split_ifs at h with hc
    · cases h
      rfl
    · rw [Option.map_eq_some_iff] at h
      obtain ⟨cs₁, h₁, rfl⟩ := h
      rw [List.map_cons, List.map_cons, ih h₁]

theorem foldlM_takeFromCoins_denoms {amounts : List Coin}
    (h : amounts.foldlM (fun feesCollected coin =>
      orFail (takeFromCoins coin feesCollected) (.notEnoughFeesToClaim coin.denom coin.amount)) cs = .ok cs') :
    cs'.map Coin.denom = cs.map Coin.denom := by
  induction amounts generalizing cs with
  | nil =>
    cases h
    rfl
  | cons coin amounts ih =>
    simp only [List.foldlM_cons, bind_eq_ok, orFail_eq_ok] at h
    obtain ⟨cs₁, h₁, h⟩ := h
    rw [ih h, takeFromCoins_denoms h₁]

end XrplBridge.Contract
