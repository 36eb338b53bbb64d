import XrplBridge.Chain

/-!
# What messages move

What the messages of a call mint, burn, pay out and bring in of a denom. The bank after they have
been delivered is the bank before with exactly these (`deliverAll_eq_some`).
-/

namespace XrplBridge

open Library Contract

variable (H : Host) (D : String)

namespace Contract.CosmosMsg

/-- What a message mints. -/
def mints : CosmosMsg → ℕ
  | .wasmExecute _ (.tokenFactory (.mintTokens denom amount _)) _ => if denom = D then amount else 0
  | _ => 0

/-- What a message burns. -/
def burns : CosmosMsg → ℕ
  | .wasmExecute _ (.tokenFactory (.burnTokens denom amount _)) _ => if denom = D then amount else 0
  | _ => 0

/-- What a message takes out of the contract's balance. -/
def spends : CosmosMsg → ℕ
  | .wasmExecute _ (.tokenFactory (.burnTokens denom amount burnFrom)) funds =>
    coinsOf D funds + if denom = D ∧ burnFrom = H.contract then amount else 0
  | .wasmExecute _ _ funds => coinsOf D funds
  | .bankSend _ coins => coinsOf D coins

/-- What a message brings into the contract's balance. -/
def brings : CosmosMsg → ℕ
  | .wasmExecute _ (.tokenFactory (.mintTokens denom amount mintTo)) _ =>
    if denom = D ∧ mintTo = H.contract then amount else 0
  | .wasmExecute _ _ _ => 0
  | .bankSend toAddress coins => if toAddress = H.contract then coinsOf D coins else 0

/-- The denom that a message has the token factory create. -/
def createdDenom : CosmosMsg → Option String
  | .wasmExecute tokenFactoryAddr (.tokenFactory (.createDenom subdenom)) _ => some (fullDenom tokenFactoryAddr subdenom)
  | _ => none

end Contract.CosmosMsg

/-- The sum of a flow over the messages of a call. -/
def flow (f : CosmosMsg → ℕ) (ms : List SubMsg) : ℕ := (ms.map fun m => f m.msg).sum

section Flow

variable (f : CosmosMsg → ℕ)

@[simp] theorem flow_nil : flow f [] = 0 := rfl

@[simp] theorem flow_cons (m : SubMsg) (ms : List SubMsg) : flow f (m :: ms) = f m.msg + flow f ms := rfl

@[simp] theorem flow_append (ms ms' : List SubMsg) : flow f (ms ++ ms') = flow f ms + flow f ms' := by
  simp [flow]

@[simp] theorem flow_plain_nil : flow f (plain []) = 0 := rfl

@[simp] theorem flow_plain_cons (m : CosmosMsg) (ms : List CosmosMsg) :
    flow f (plain (m :: ms)) = f m + flow f (plain ms) := rfl

@[simp] theorem flow_plain_append (ms ms' : List CosmosMsg) :
    flow f (plain (ms ++ ms')) = flow f (plain ms) + flow f (plain ms') := by
  simp [plain]

variable {f}

/-- Messages that move nothing. -/
theorem flow_eq_zero {ms : List CosmosMsg} (h : ∀ m ∈ ms, f m = 0) : flow f (plain ms) = 0 := by
  induction ms with
  | nil => rfl
  | cons m ms ih =>
    rw [flow_plain_cons, h m List.mem_cons_self, ih fun m hm => h m (List.mem_cons_of_mem _ hm)]

end Flow

/-! ### The contract's messages -/

section Messages

variable {H : Host} {D denom : String} {f : CosmosMsg → ℕ}

theorem Contract.RateLimitOnly.flow_eq_zero {msgs : List CosmosMsg} {f : CosmosMsg → ℕ} (h : RateLimitOnly msgs)
    (hf : ∀ addr rm, f (.wasmExecute addr (.rateLimit rm) []) = 0) : flow f (plain msgs) = 0 := by
  apply XrplBridge.flow_eq_zero
  intro m hm
  obtain ⟨addr, rm, rfl⟩ := h m hm
  exact hf addr rm

theorem flow_universalSwapMsgs {config : Config} {memo : String} {coin : Coin} {f : CosmosMsg → ℕ}
    (hf : ∀ addr memo funds, f (.wasmExecute addr (.universalSwap memo) funds) = 0) :
    flow f (universalSwapMsgs config memo coin) = 0 := by
  unfold universalSwapMsgs
  cases config.osorEntryPoint with
  | none => rfl
  | some entryPoint =>
    dsimp only
    split_ifs
    · simp [hf]
    · rfl

theorem flow_mintFeeMsgs (config : Config) (denom : String) (fee : ℕ) :
    flow (CosmosMsg.mints D) (plain (mintFeeMsgs H config denom fee)) = (if denom = D then fee else 0) ∧
      flow (CosmosMsg.burns D) (plain (mintFeeMsgs H config denom fee)) = 0 := by
  unfold mintFeeMsgs
  split_ifs with hfee hd hd
  · exact ⟨by simp [tokenFactoryMsg, CosmosMsg.mints, hd], rfl⟩
  · exact ⟨by simp [tokenFactoryMsg, CosmosMsg.mints, hd], rfl⟩
  · exact ⟨by simp [not_not.mp hfee], rfl⟩
  · exact ⟨rfl, rfl⟩

theorem flow_mintMsgs {config : Config} {denom : String} (balances : List Cw20Coin) (h : denom ≠ D) :
    flow (CosmosMsg.mints D) (plain (mintMsgs config denom balances)) = 0 := by
  apply flow_eq_zero
  intro m hm
  obtain ⟨b, -, rfl⟩ := List.mem_map.mp hm
  exact if_neg h

theorem flow_burns_mintMsgs (config : Config) (denom : String) (balances : List Cw20Coin) :
    flow (CosmosMsg.burns D) (plain (mintMsgs config denom balances)) = 0 := by
  apply flow_eq_zero
  intro m hm
  obtain ⟨b, -, rfl⟩ := List.mem_map.mp hm
  rfl

theorem flow_spends_mintMsgs (config : Config) (denom : String) (balances : List Cw20Coin) :
    flow (CosmosMsg.spends H D) (plain (mintMsgs config denom balances)) = 0 := by
  apply flow_eq_zero
  intro m hm
  obtain ⟨b, -, rfl⟩ := List.mem_map.mp hm
  rfl

/-- The fee is minted to the contract. -/
theorem flow_mintFeeMsgs_held (config : Config) (denom : String) (fee : ℕ) :
    flow (CosmosMsg.spends H D) (plain (mintFeeMsgs H config denom fee)) = 0 ∧
      flow (CosmosMsg.brings H D) (plain (mintFeeMsgs H config denom fee)) = if denom = D then fee else 0 := by
  unfold mintFeeMsgs
  split_ifs with hfee hd hd
  · exact ⟨rfl, by simp [tokenFactoryMsg, CosmosMsg.brings, hd]⟩
  · exact ⟨rfl, by simp [tokenFactoryMsg, CosmosMsg.brings, hd]⟩
  · exact ⟨rfl, by simp [not_not.mp hfee]⟩
  · exact ⟨rfl, rfl⟩

/-- A universal swap is paid with the coin. -/
theorem flow_spends_universalSwapMsgs (config : Config) (memo : String) (coin : Coin) :
    flow (CosmosMsg.spends H D) (universalSwapMsgs config memo coin) =
      if isUniversalSwap config memo = true then coinsOf D [coin] else 0 := by
  unfold universalSwapMsgs isUniversalSwap
  cases config.osorEntryPoint with
  | none => simp
  | some entryPoint =>
    by_cases hmemo : memo = ""
    · simp [hmemo]
    · simp [hmemo, CosmosMsg.spends]

/-- Of a token of XRPL that is received the contract keeps the fee; what it mints for a swap it
pays out again. -/
theorem flow_receivedXRPLMsgs {rateLimit : List CosmosMsg} {recipient : Addr} (config : Config) (denom memo : String)
    (fee amount : ℕ) (hrecipient : recipient ≠ H.contract) (hl : RateLimitOnly rateLimit) :
    let ms := plain (mintFeeMsgs H config denom fee ++
        [tokenFactoryMsg config.tokenFactoryAddr (.mintTokens denom amount
          (if isUniversalSwap config memo then H.contract else recipient))] ++ rateLimit) ++
      universalSwapMsgs config memo ⟨denom, amount⟩
    flow (CosmosMsg.brings H D) ms = flow (CosmosMsg.spends H D) ms + if denom = D then fee else 0 := by
  intro ms
  obtain ⟨hfeeSpends, hfeeBrings⟩ := flow_mintFeeMsgs_held (H := H) (D := D) config denom fee
  have hlimitSpends : flow (CosmosMsg.spends H D) (plain rateLimit) = 0 := hl.flow_eq_zero fun _ _ => rfl
  have hlimitBrings : flow (CosmosMsg.brings H D) (plain rateLimit) = 0 := hl.flow_eq_zero fun _ _ => rfl
  have hspends : flow (CosmosMsg.spends H D) ms = if isUniversalSwap config memo = true then coinsOf D [⟨denom, amount⟩]
      else 0 := by
    rw [flow_append, flow_spends_universalSwapMsgs]
    simp [hfeeSpends, hlimitSpends, tokenFactoryMsg, CosmosMsg.spends]
  have hbrings : flow (CosmosMsg.brings H D) ms =
      (if denom = D then fee else 0) + if isUniversalSwap config memo = true then coinsOf D [⟨denom, amount⟩] else 0 := by
    rw [flow_append, flow_universalSwapMsgs fun _ _ _ => rfl]
    by_cases hswap : isUniversalSwap config memo = true
    · simp [hswap, hfeeBrings, hlimitBrings, tokenFactoryMsg, CosmosMsg.brings]
    · simp [hswap, hfeeBrings, hlimitBrings, tokenFactoryMsg, CosmosMsg.brings, hrecipient]
  rw [hspends, hbrings, Nat.add_comm]

/-- Of a token of Cosmos that comes back the contract pays out what is sent on. -/
theorem flow_receivedCosmosMsgs {rateLimit : List CosmosMsg} (config : Config) (recipient : Addr) (memo : String)
    (coin : Coin) (hl : RateLimitOnly rateLimit) :
    flow (CosmosMsg.spends H D) (plain ((if isUniversalSwap config memo then [] else [.bankSend recipient [coin]]) ++
      rateLimit) ++ universalSwapMsgs config memo coin) = coinsOf D [coin] := by
  rw [flow_append, flow_plain_append, flow_spends_universalSwapMsgs, hl.flow_eq_zero fun _ _ => rfl]
  by_cases hswap : isUniversalSwap config memo = true
  · simp [hswap]
  · simp [hswap, CosmosMsg.spends]

end Messages

/-! ### The bank -/

variable {H} {D} {accepts : CosmosMsg → Bool} {b b' : Bank}

theorem Bank.debit_eq_some {coins : List Coin} (h : b.debit coins = some b') :
    b'.supply = b.supply ∧ ∀ D, b'.held D + coinsOf D coins = b.held D := by
  unfold Bank.debit at h
  split_ifs at h with hall
  cases h
  refine ⟨rfl, fun D => Nat.sub_add_cancel ?_⟩
  by_cases hD : ∃ c ∈ coins, c.denom = D
  · obtain ⟨c, hc, rfl⟩ := hD
    exact hall c hc
  · have hnone : coins.filter (fun c => decide (c.denom = D)) = [] := by
      rw [List.filter_eq_nil_iff]
      exact fun c hc => by simpa using fun heq => hD ⟨c, hc, heq⟩
    simp [coinsOf, hnone]

theorem Bank.burn_eq_some {denom : String} {amount : ℕ} {fromContract : Bool}
    (h : b.burn denom amount fromContract = some b') :
    ∀ D, (b'.supply D + if denom = D then amount else 0) = b.supply D ∧
      (b'.held D + if denom = D ∧ fromContract = true then amount else 0) = b.held D := by
  unfold Bank.burn at h
  split_ifs at h with hle
  cases h
  intro D
  by_cases hD : D = denom
  · subst hD
    refine ⟨by simpa using Nat.sub_add_cancel hle.1, ?_⟩
    by_cases hf : fromContract = true
    · simpa [hf] using Nat.sub_add_cancel (hle.2 hf)
    · simp [hf]
  · simp [hD, Ne.symm hD]

/-- A message that only carries funds. -/
theorem debit_flows {m : CosmosMsg} {funds : List Coin} (h : b.debit funds = some b')
    (hm : m.burns D = 0 ∧ m.mints D = 0 ∧ m.spends H D = coinsOf D funds ∧ m.brings H D = 0) :
    b'.supply D + m.burns D = b.supply D + m.mints D ∧ b'.held D + m.spends H D = b.held D + m.brings H D := by
  obtain ⟨hs, hh⟩ := Bank.debit_eq_some h
  have := hh D
  rw [hs]
  omega

/-- One message moves what it says. -/
theorem deliver_eq_some {m : CosmosMsg} (h : deliver H accepts b m = some b') :
    b'.supply D + m.burns D = b.supply D + m.mints D ∧ b'.held D + m.spends H D = b.held D + m.brings H D := by
  unfold deliver at h
  rw [Option.ite_none_right_eq_some] at h
  obtain ⟨-, h⟩ := h
  cases m with
  | bankSend toAddress coins =>
    obtain ⟨b₁, h₁, h₂⟩ := Option.bind_eq_some_iff.mp h
    cases h₂
    obtain ⟨hs, hh⟩ := Bank.debit_eq_some h₁
    have := hh D
    by_cases hto : toAddress = H.contract
    · simp only [CosmosMsg.burns, CosmosMsg.mints, CosmosMsg.spends, CosmosMsg.brings, Bank.credit, if_pos hto, hs,
        true_and]
      omega
    · simp only [CosmosMsg.burns, CosmosMsg.mints, CosmosMsg.spends, CosmosMsg.brings, if_neg hto, hs, true_and]
      omega
  | wasmExecute contractAddr msg funds =>
    cases msg with
    | rateLimit => exact debit_flows h ⟨rfl, rfl, rfl, rfl⟩
    | universalSwap => exact debit_flows h ⟨rfl, rfl, rfl, rfl⟩
    | tokenFactory msg =>
      cases msg with
      | createDenom => exact debit_flows h ⟨rfl, rfl, rfl, rfl⟩
      | mintTokens denom amount mintTo =>
        obtain ⟨b₁, h₁, h₂⟩ := Option.bind_eq_some_iff.mp h
        cases h₂
        obtain ⟨hs, hh⟩ := Bank.debit_eq_some h₁
        have := hh D
        simp only [CosmosMsg.burns, CosmosMsg.mints, CosmosMsg.spends, CosmosMsg.brings, Bank.mint, hs,
          decide_eq_true_eq, eq_comm (a := D)]
        omega
      | burnTokens denom amount burnFrom =>
        obtain ⟨b₁, h₁, h₂⟩ := Option.bind_eq_some_iff.mp h
        obtain ⟨hs, hh⟩ := Bank.debit_eq_some h₁
        have := hh D
        obtain ⟨hsupply, hheld⟩ := Bank.burn_eq_some h₂ D
        rw [hs] at hsupply
        simp only [decide_eq_true_eq] at hheld
        simp only [CosmosMsg.burns, CosmosMsg.mints, CosmosMsg.spends, CosmosMsg.brings]
        omega

theorem deliverAll_eq_some {ms : List SubMsg} (h : deliverAll H accepts b ms = some b') :
    b'.supply D + flow (CosmosMsg.burns D) ms = b.supply D + flow (CosmosMsg.mints D) ms ∧
      b'.held D + flow (CosmosMsg.spends H D) ms = b.held D + flow (CosmosMsg.brings H D) ms := by
  induction ms generalizing b with
  | nil =>
    cases h
    exact ⟨rfl, rfl⟩
  | cons m ms ih =>
    obtain ⟨b₁, h₁, h₂⟩ := Option.bind_eq_some_iff.mp h
    have hone := deliver_eq_some (D := D) h₁
    have hrest := ih h₂
    simp only [flow_cons]
    omega

end XrplBridge
