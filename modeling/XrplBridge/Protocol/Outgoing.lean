import XrplBridge.Library.Digits
import XrplBridge.Protocol.Precision

/-!
# The amounts of a transfer to XRPL

A transfer is of XRP, of another token of XRPL, or of a token of Cosmos, and the three are computed
differently: XRP has no maximum amount and cannot be delivered in part, a token of Cosmos is
converted to the decimals of XRPL. `SentToken` is the token as the transfer sees it, and
`SentToken.Amounts` says once what the amounts of a transfer are (`sendToXRPL_amounts`).

XRPL holds 16 significant digits of an amount, and `validateXRPLAmount` accepts exactly those
(`validateXRPLAmount_eq_ok_iff`). A token whose holdings stay under `holdingCap` never meets that
check (`sendToXRPL_representable`).
-/

namespace XrplBridge

open Library Contract Std

/-! ### The token that is sent -/

/-- The classes of tokens that a transfer distinguishes. -/
inductive TokenClass where
  /-- XRP itself. -/
  | xrp
  /-- Another token that is issued on XRPL. -/
  | xrpl
  /-- A token of Cosmos, which the bridge issues on XRPL. -/
  | cosmos
  deriving DecidableEq, Repr

/-- A token, as a transfer to XRPL sees it. -/
structure SentToken where
  /-- The class of the token. -/
  tokenClass : TokenClass
  /-- Its issuer on XRPL. -/
  issuer : String
  /-- Its currency on XRPL. -/
  currency : String
  /-- The denom that its fees are collected in. -/
  denom : String
  /-- Its decimals on Cosmos. -/
  decimals : ℕ
  /-- The sending precision. -/
  precision : ℤ
  /-- The bridging fee. -/
  bridgingFee : ℕ
  /-- The most that may be held of it. -/
  maxHoldingAmount : ℕ
  deriving DecidableEq, Repr

/-- A token of XRPL, as a transfer sees it. -/
def Contract.XRPLToken.sent (t : XRPLToken) : SentToken where
  tokenClass := if isTokenXRP t.issuer t.currency then .xrp else .xrpl
  issuer := t.issuer
  currency := t.currency
  denom := t.cosmosDenom
  decimals := xrplDecimals t.issuer t.currency
  precision := t.sendingPrecision
  bridgingFee := t.bridgingFee
  maxHoldingAmount := t.maxHoldingAmount

/-- A token of Cosmos, as a transfer sees it. -/
def Contract.CosmosToken.sent (bridgeXRPLAddress : String) (t : CosmosToken) : SentToken where
  tokenClass := .cosmos
  issuer := bridgeXRPLAddress
  currency := t.xrplCurrency
  denom := t.denom
  decimals := t.decimals
  precision := t.sendingPrecision
  bridgingFee := t.bridgingFee
  maxHoldingAmount := t.maxHoldingAmount

/-- The token that coins of a denom are. -/
def Contract.Storage.sentToken (s : Storage) (denom : String) : Option SentToken :=
  match s.xrplTokens.item denom with
  | some (_, token) => some token.sent
  | none => s.cosmosTokens.primary[denom]?.map (CosmosToken.sent s.config.bridgeXRPLAddress)

namespace SentToken

variable (t : SentToken)

/-- The decimals that its amounts have on XRPL. -/
def decimalsOnXRPL : ℕ := if t.tokenClass = .cosmos then xrplTokensDecimals else t.decimals

/-- One unit of the sending precision, on XRPL. -/
def unit : ℕ := 10 ^ (t.decimalsOnXRPL - t.precision).toNat

/-- One unit of the sending precision, on Cosmos. -/
def unitOnCosmos : ℕ := 10 ^ (t.decimals - t.precision).toNat

/-- An amount on XRPL, in the decimals of Cosmos. -/
def worth (amount : ℕ) : ℕ := if t.tokenClass = .cosmos then fromXRPLDecimals t.decimals amount else amount

/-- What is bridged of it: the supply on Cosmos, or what the contract holds in escrow. -/
def bridged (q : Querier) : ℕ := if t.tokenClass = .cosmos then q.balance t.denom else q.supply t.denom

/-- The recommended maximum to hold, on Cosmos: sixteen digits over the unit of the sending precision. -/
def holdingCap : ℕ := 10 ^ (xrplMaxTruncatedAmountLength - t.precision + t.decimals).toNat

/-- The sending precision is in range, and within the decimals. -/
def Precise : Prop := PreciseFor t.precision t.decimals

/-- The amounts of a transfer of `funds` coins, of which `fee` are collected. -/
structure Amounts (funds : ℕ) (deliverAmount : Option ℕ) (amount : ℕ) (maxAmount : Option ℕ) (fee : ℕ) :
    Prop where
  /-- Something is sent. -/
  pos : 0 < amount
  /-- At most the maximum amount is delivered. -/
  le_max : ∀ m ∈ maxAmount, amount ≤ m
  /-- What the sender is charged is what the sender paid. -/
  charged : t.worth (maxAmount.getD amount) + fee = funds
  /-- What is charged without the fee is what the bridging fee leaves, rounded down. -/
  rounded : RoundedDown t.unitOnCosmos (funds - t.bridgingFee) (t.worth (maxAmount.getD amount))
  /-- An amount to deliver is rounded down. -/
  delivered : ∀ d ∈ deliverAmount, RoundedDown t.unit d amount
  /-- Without an amount to deliver, everything is delivered. -/
  whole : deliverAmount = none → maxAmount.getD amount = amount
  /-- The amount is a multiple of the unit. -/
  unit_dvd : t.unit ∣ amount
  /-- The maximum amount is one too. -/
  unit_dvd_max : ∀ m ∈ maxAmount, t.unit ∣ m
  /-- XRP alone has no maximum amount. -/
  noMax : maxAmount = none ↔ t.tokenClass = .xrp
  /-- XRP and the tokens of Cosmos are delivered as a whole. -/
  noDeliver : deliverAmount.isSome = true → t.tokenClass = .xrpl

end SentToken

/-- What `sendToXRPL` does before it creates the operation. -/
structure Computes (s : Storage) (t : SentToken) (funds : ℕ) (deliverAmount : Option ℕ) (s' : Storage)
    (out : Outgoing) (fee : ℕ) : Prop where
  issuer : out.issuer = t.issuer
  currency : out.currency = t.currency
  amounts : t.Amounts funds deliverAmount out.amountToSend out.maxAmount fee
  /-- The fee is collected in the token's denom. -/
  collected : ∀ D, s'.feesOf D = s.feesOf D + if t.denom = D then fee else 0
  pending : s'.pendingOperations = s.pendingOperations

section Sent

variable {s : Storage} {denom key : String} {token : XRPLToken} {cosmosToken : CosmosToken} {bridgeXRPLAddress : String}
  (amount : ℕ)

theorem sentToken_xrpl (h : s.xrplTokens.item denom = some (key, token)) : s.sentToken denom = some token.sent := by
  rw [Storage.sentToken, h]

theorem sentToken_cosmos (hx : s.xrplTokens.item denom = none)
    (h : s.cosmosTokens.primary[denom]? = some cosmosToken) :
    s.sentToken denom = some (cosmosToken.sent s.config.bridgeXRPLAddress) := by
  rw [Storage.sentToken, hx, h]
  rfl

theorem sent_xrp_iff : token.sent.tokenClass = .xrp ↔ isTokenXRP token.issuer token.currency = true := by
  simp [XRPLToken.sent]

theorem sent_xrpl_iff : token.sent.tokenClass = .xrpl ↔ isTokenXRP token.issuer token.currency = false := by
  simp [XRPLToken.sent]

@[simp] theorem sent_ne_cosmos : token.sent.tokenClass ≠ .cosmos := by
  unfold XRPLToken.sent
  split_ifs <;> simp

@[simp] theorem worth_sentXRPL : token.sent.worth amount = amount := if_neg sent_ne_cosmos

@[simp] theorem unit_sentXRPL : token.sent.unit = token.sent.unitOnCosmos := by
  rw [SentToken.unit, SentToken.decimalsOnXRPL, if_neg sent_ne_cosmos, SentToken.unitOnCosmos]

@[simp] theorem worth_sentCosmos :
    (cosmosToken.sent bridgeXRPLAddress).worth amount = fromXRPLDecimals cosmosToken.decimals amount := rfl

/-- In a precise state, every token that is sent is precise. -/
theorem Precise.sentToken (hs : XrplBridge.Precise s) {t : SentToken} (h : s.sentToken denom = some t) :
    t.Precise := by
  cases hx : s.xrplTokens.item denom with
  | some e =>
    obtain ⟨key, token⟩ := e
    rw [sentToken_xrpl hx] at h
    cases h
    exact hs.xrpl key token (IndexedMap.item_eq_some.mp hx).1
  | none =>
    rw [Storage.sentToken, hx, Option.map_eq_some_iff] at h
    obtain ⟨token, hk, rfl⟩ := h
    exact hs.cosmos denom token hk

end Sent

/-! ### What a transfer computes -/

variable {H : Host} {s s' : Storage} {q : Querier} {env : BlockInfo} {sender : Addr}

section Functions

variable {precision : ℤ} {decimals amount bridgingFee a r fee m : ℕ} {deliverAmount maxAmount : Option ℕ}

/-- Rounding down is monotone. -/
theorem RoundedDown.mono {unit b c : ℕ} (ha : RoundedDown unit b a) (hr : RoundedDown unit c r) (h : b ≤ c) :
    a ≤ r := by
  obtain ⟨x, rfl⟩ := ha.whole
  obtain ⟨y, rfl⟩ := hr.whole
  have hlt : unit * x < unit * (y + 1) := by
    rw [Nat.mul_succ]
    exact (ha.le.trans h).trans_lt hr.lt
  exact Nat.mul_le_mul_left _ (Nat.lt_succ_iff.mp (Nat.lt_of_mul_lt_mul_left hlt))

/-- A multiple of the unit on Cosmos, converted, is a multiple of the unit on XRPL. -/
theorem convertAmountDecimals_truncated {k : ℕ} (h : PreciseFor precision decimals)
    (hc : convertAmountDecimals decimals xrplTokensDecimals (k * 10 ^ (decimals - precision).toNat) = .ok a) :
    a = k * 10 ^ (xrplTokensDecimals - precision).toNat := by
  have hlower : precision ≤ decimals := h.within
  have hupper : precision ≤ xrplTokensDecimals := h.upper
  rcases convertAmountDecimals_eq_ok hc with ⟨hlt, -, -, ha⟩ | ⟨hlt, -, ha⟩ | ⟨heq, ha⟩
  · rw [ha, Nat.mul_assoc, ← Nat.pow_add]
    congr 2
    omega
  · have hexp : (decimals - precision).toNat =
        (xrplTokensDecimals - precision).toNat + (decimals - xrplTokensDecimals) := by omega
    rw [ha, hexp, Nat.pow_add, ← Nat.mul_assoc, Nat.mul_div_cancel _ (Nat.pow_pos (by decide))]
  · rw [ha, heq]

/-- What the bridging fee leaves, rounded down, and its conversion. -/
theorem truncateAndConvertAmount_rounded (h : PreciseFor precision decimals)
    (hc : truncateAndConvertAmount precision decimals xrplTokensDecimals amount bridgingFee = .ok (a, r)) :
    RoundedDown (10 ^ (decimals - precision).toNat) (amount - bridgingFee) (fromXRPLDecimals decimals a) ∧
      10 ^ (xrplTokensDecimals - precision).toNat ∣ a ∧ 0 < a := by
  simp only [truncateAndConvertAmount, bind_eq_ok, pure_eq_ok, Prod.mk.injEq] at hc
  obtain ⟨f, hf, ⟨t, _⟩, ht, c, hc, rfl, -⟩ := hc
  have hfee := amountAfterBridgeFees_eq_ok hf
  obtain ⟨hround, -⟩ := truncateAmount_roundedDown h ht
  have hpos := (truncateAmount_eq_ok ht).2.1
  have hback := fromXRPLDecimals_of_truncated h ht hc
  obtain ⟨k, rfl⟩ := hround.whole
  rw [Nat.mul_comm] at hc hpos
  have hvalue := convertAmountDecimals_truncated h hc
  refine ⟨?_, Dvd.intro_left _ hvalue.symm, ?_⟩
  · rwa [hback, show amount - bridgingFee = f by omega]
  · rw [hvalue]
    exact Nat.mul_pos (Nat.pos_of_mul_pos_right hpos) (Nat.pow_pos (by decide))

/-- The amounts of a transfer of a token of XRPL. -/
theorem sendXRPLOriginated_computes {token : XRPLToken} {funds : Coin} {out : Outgoing} (hp : token.sent.Precise)
    (h : sendXRPLOriginated s token funds deliverAmount = .ok (s', out)) :
    ∃ fee, Computes s token.sent funds.amount deliverAmount s' out fee := by
  simp only [sendXRPLOriginated, bind_eq_ok, failIf_eq_ok, pure_eq_ok, Prod.mk.injEq] at h
  obtain ⟨_, -, _, hxrp, -, -, f, hf, ⟨most, rest⟩, ht, ⟨a, max⟩, hd, ⟨s₁, fee⟩, hfee, rfl, rfl⟩ := h
  have hf := amountAfterBridgeFees_eq_ok hf
  obtain ⟨hround, hcut⟩ : RoundedDown token.sent.unitOnCosmos f most ∧ most + rest = f :=
    truncateAmount_roundedDown hp ht
  have hpos := (truncateAmount_eq_ok ht).2.1
  obtain ⟨⟨_, _, rfl⟩, rfl, hfees⟩ := handleFeeCollection_eq_ok hfee
  refine ⟨_, rfl, rfl, ?_, hfees, rfl⟩
  have hleft : funds.amount - token.sent.bridgingFee = f := by
    change funds.amount - token.bridgingFee = f
    omega
  cases deliverAmount with
  | some d =>
    simp only [deliverAmounts, bind_eq_ok, failIf_eq_ok, pure_eq_ok, Prod.mk.injEq] at hd
    obtain ⟨_, hle, ⟨t, _⟩, htd, rfl, rfl⟩ := hd
    obtain ⟨hroundd, -⟩ : RoundedDown token.sent.unitOnCosmos d t ∧ _ := truncateAmount_roundedDown hp htd
    have hnot : isTokenXRP token.issuer token.currency = false := by simpa using hxrp
    exact {
      pos := (truncateAmount_eq_ok htd).2.1
      le_max := by simpa using hroundd.mono hround (Nat.not_lt.mp hle)
      charged := by simp; omega
      rounded := by rw [hleft]; simpa using hround
      delivered := by simpa using hroundd
      whole := by simp
      unit_dvd := by simpa using hroundd.whole
      unit_dvd_max := by simpa using hround.whole
      noMax := by simp [sent_xrp_iff, hnot]
      noDeliver := fun _ => sent_xrpl_iff.mpr hnot }
  | none =>
    simp only [deliverAmounts, Except.ok.injEq, Prod.mk.injEq] at hd
    obtain ⟨rfl, rfl⟩ := hd
    have hget : (if isTokenXRP token.issuer token.currency then none else some most).getD most = most := by
      split_ifs <;> rfl
    have hmem : ∀ m ∈ (if isTokenXRP token.issuer token.currency then none else some most), m = most := by
      split_ifs <;> simp
    exact {
      pos := hpos
      le_max := fun m hm => (hmem m hm).ge
      charged := by simp [hget]; omega
      rounded := by rw [hget, hleft]; simpa using hround
      delivered := by simp
      whole := fun _ => hget
      unit_dvd := by simpa using hround.whole
      unit_dvd_max := fun m hm => by simpa [hmem m hm] using hround.whole
      noMax := by simp [sent_xrp_iff]
      noDeliver := by simp }

/-- The amounts of a transfer of a token of Cosmos. -/
theorem sendCosmosToXRPL_computes {token : CosmosToken} {funds : Coin} {out : Outgoing}
    (htoken : s.cosmosTokens.primary[funds.denom]? = some token)
    (hprecise : PreciseFor token.sendingPrecision token.decimals)
    (h : sendCosmosToXRPL s q funds deliverAmount = .ok (s', out)) :
    ∃ fee, Computes s (token.sent s.config.bridgeXRPLAddress) funds.amount deliverAmount s' out fee := by
  simp only [sendCosmosToXRPL, bind_eq_ok, orFail_eq_ok, failIf_eq_ok, pure_eq_ok, Prod.mk.injEq] at h
  obtain ⟨token', htoken', _, -, _, hdeliver, -, -, ⟨a, rest⟩, ht, ⟨s₁, fee⟩, hfee, _, -, rfl, rfl⟩ := h
  rw [htoken] at htoken'
  cases htoken'
  obtain ⟨hround, hunit, hpos⟩ := truncateAndConvertAmount_rounded hprecise ht
  have hexact := truncateAndConvertAmount_exact hprecise ht
  obtain ⟨⟨_, _, rfl⟩, rfl, hfees⟩ := handleFeeCollection_eq_ok hfee
  refine ⟨_, rfl, rfl, ?_, hfees, rfl⟩
  cases deliverAmount with
  | some d => simp at hdeliver
  | none => exact {
      pos := hpos
      le_max := by simp
      charged := by simp; omega
      rounded := hround
      delivered := by simp
      whole := by simp
      unit_dvd := hunit
      unit_dvd_max := fun m hm => Option.mem_some_iff.mp hm ▸ hunit
      noMax := by simp [CosmosToken.sent]
      noDeliver := by simp }

end Functions

/-! ### The check on XRPL amounts -/

/-- **An amount is valid on XRPL exactly if it has at most 16 significant digits.** -/
theorem validateXRPLAmount_eq_ok_iff {n : ℕ} {u : Unit} :
    validateXRPLAmount n = .ok u ↔ Significant 10 xrplMaxTruncatedAmountLength n := by
  rw [validateXRPLAmount, failIf_eq_ok, Nat.not_lt, Nat.toString_eq_ofList_toDigits, String.toList_ofList,
    length_trimmed_le_iff (by decide) (by decide)]

theorem validateMaxAmount_eq_ok_iff {maxAmount : Option ℕ} {u : Unit} :
    validateMaxAmount maxAmount = .ok u ↔ ∀ m ∈ maxAmount, Significant 10 xrplMaxTruncatedAmountLength m := by
  cases maxAmount with
  | none => simp [validateMaxAmount]
  | some m => simpa [validateMaxAmount] using validateXRPLAmount_eq_ok_iff

/-- **The amounts of a transfer.** A successful `SendToXRPL` of a token with a precise sending
precision stores a transfer whose amounts are `Amounts`, and have at most 16 significant digits; the
fee is collected in the token's denom. -/
theorem sendToXRPL_amounts {funds : List Coin} {recipient : String} {deliverAmount : Option ℕ} {r : Response}
    (hp : ∀ coin t, funds = [coin] → s.sentToken coin.denom = some t → t.Precise)
    (h : sendToXRPL H s q env sender funds recipient deliverAmount = .ok (s', r)) :
    ∃ coin t ticket o amount maxAmount fee, funds = [coin] ∧ s.sentToken coin.denom = some t ∧
      s.pendingOperations[ticket]? = none ∧ s'.pendingOperations = s.pendingOperations.insert ticket o ∧
        o.operationType = .cosmosToXRPLTransfer t.issuer t.currency amount maxAmount sender recipient ∧
          t.Amounts coin.amount deliverAmount amount maxAmount fee ∧
            (∀ D, s'.feesOf D = s.feesOf D + if t.denom = D then fee else 0) ∧
              Significant 10 xrplMaxTruncatedAmountLength amount ∧
                ∀ m ∈ maxAmount, Significant 10 xrplMaxTruncatedAmountLength m := by
  simp only [sendToXRPL, bind_eq_ok, pure_eq_ok, Prod.mk.injEq] at h
  obtain ⟨_, -, coin, hcoin, _, -, _, -, ⟨s₁, out⟩, hout, _, hamount, _, hmax, ⟨t, s₂⟩, halloc, s₃, hcreate, rfl,
    -⟩ := h
  obtain ⟨rfl, -⟩ := oneCoin_eq_ok hcoin
  obtain ⟨t, fee, ht, hc⟩ : ∃ t fee, s.sentToken coin.denom = some t ∧
      Computes s t coin.amount deliverAmount s₁ out fee := by
    split at hout
    · rename_i key token htoken
      have ht := sentToken_xrpl htoken
      obtain ⟨fee, hc⟩ := sendXRPLOriginated_computes (hp coin _ rfl ht) hout
      exact ⟨_, fee, ht, hc⟩
    · rename_i hnone
      obtain ⟨token, htoken, -⟩ := bind_eq_ok.mp hout
      have ht := sentToken_cosmos hnone (orFail_eq_ok.mp htoken)
      obtain ⟨fee, hc⟩ := sendCosmosToXRPL_computes (orFail_eq_ok.mp htoken) (hp coin _ rfl ht) hout
      exact ⟨_, fee, ht, hc⟩
  have hpending := hc.pending
  have hcollected := hc.collected
  cases opens_of_ok halloc hcreate with
  | @intro ticket tickets _ _ hunused _ =>
    rw [hpending] at hunused
    refine ⟨coin, t, ticket, newOperation s₁ env.seconds ticket (some ticket) none (.cosmosToXRPLTransfer out.issuer
      out.currency out.amountToSend out.maxAmount sender recipient), _, _, fee, rfl, ht, hunused, ?_, ?_, hc.amounts,
      hcollected, validateXRPLAmount_eq_ok_iff.mp hamount, validateMaxAmount_eq_ok_iff.mp hmax⟩
    · rw [← hpending]
    · rw [← hc.issuer, ← hc.currency]
      rfl

open Reference in
/-- Five coins of a token of XRPL, with a fee and two digits after the point, are sent, and 1.234567890123456 of
them are to be delivered: 1.23 are, 4.99 are charged, and 0.01 stay as fees. -/
theorem sendToXRPL_amounts_delivered :
    let s := (run (step host) world₁ [recover, vote 2 relayer₁ allocation,
      call 3 owner (.registerXRPLToken relayer₁.xrplAddress "ABC" 2 (10 ^ 30) 1000),
      vote 4 relayer₁ (.xrplTransactionResult ⟨some "cd34", none, some 1, .accepted, none⟩)]).store
    let t : SentToken :=
      ⟨.xrpl, relayer₁.xrplAddress, "ABC", fullDenom tokenFactory "XRPL19E1F769C0", 15, 2, 1000, 10 ^ 30⟩
    s.sentToken t.denom = some t ∧
      t.Amounts (5 * 10 ^ 15) (some 1234567890123456) (123 * 10 ^ 13) (some (499 * 10 ^ 13)) (10 ^ 13) := by
  intro s t
  have ht : s.sentToken t.denom = some t := by decide +kernel
  have hempty : s.pendingOperations[2]? = none := by decide +kernel
  have hprecise : Precise s := run_precise started_world₁ _ (by decide +kernel)
  have hvalue : (sendToXRPL host s ⟨fun _ => 0, fun _ => 0⟩ ⟨1, 5 * 10 ^ 9⟩ user [⟨t.denom, 5 * 10 ^ 15⟩]
      relayer₃.xrplAddress (some 1234567890123456)).toOption.map
        (fun x => x.1.pendingOperations[2]?.map Operation.operationType) =
      some (some (.cosmosToXRPLTransfer relayer₁.xrplAddress "ABC" (123 * 10 ^ 13) (some (499 * 10 ^ 13)) user
        relayer₃.xrplAddress)) := by decide +kernel
  obtain ⟨⟨s', r⟩, hsent⟩ := exists_of_isOk (x := sendToXRPL host s ⟨fun _ => 0, fun _ => 0⟩ ⟨1, 5 * 10 ^ 9⟩ user
    [⟨t.denom, 5 * 10 ^ 15⟩] relayer₃.xrplAddress (some 1234567890123456)) (by decide +kernel)
  rw [hsent] at hvalue
  obtain ⟨coin, t', ticket, o, amount, maxAmount, fee, hcoin, ht', -, hs', ho, hamounts, -⟩ :=
    sendToXRPL_amounts (fun _ _ _ h => hprecise.sentToken h) hsent
  cases hcoin
  cases ht.symm.trans ht'
  obtain ⟨o', ho', htype⟩ := Option.map_eq_some_iff.mp (Option.some.inj hvalue)
  rw [hs'] at ho'
  rcases getElem?_of_insert ho' with ⟨-, rfl⟩ | ⟨-, hold⟩
  · cases ho.symm.trans htype
    have hworth : t.worth (499 * 10 ^ 13) = 499 * 10 ^ 13 := if_neg (by decide)
    have hcharged := hamounts.charged
    rw [Option.getD_some, hworth] at hcharged
    dsimp only at hcharged
    have hfee : fee = 10 ^ 13 := by omega
    exact ⟨ht, hfee ▸ hamounts⟩
  · rw [hempty] at hold
    cases hold

/-! ### Holdings that XRPL can represent -/

namespace SentToken

variable {t : SentToken} {funds amount fee : ℕ} {deliverAmount maxAmount : Option ℕ}

/-- Units on XRPL are worth as many units on Cosmos. -/
theorem worth_mul_unit (hp : t.Precise) (k : ℕ) : t.worth (k * t.unit) = k * t.unitOnCosmos := by
  unfold worth unit decimalsOnXRPL unitOnCosmos
  split_ifs with hclass
  · have hlower : t.precision ≤ t.decimals := hp.within
    have hupper : t.precision ≤ xrplTokensDecimals := hp.upper
    unfold fromXRPLDecimals
    split_ifs with hlt
    · have hexp : (xrplTokensDecimals - t.precision).toNat =
          (t.decimals - t.precision).toNat + (xrplTokensDecimals - t.decimals) := by omega
      rw [hexp, Nat.pow_add, ← Nat.mul_assoc, Nat.mul_div_cancel _ (Nat.pow_pos (by decide))]
    · rw [Nat.mul_assoc, ← Nat.pow_add]
      congr 2
      omega
  · rfl

theorem holdingCap_eq (hp : t.Precise) : t.holdingCap = 10 ^ xrplMaxTruncatedAmountLength * t.unitOnCosmos := by
  have hlower : t.precision ≤ t.decimals := hp.within
  rw [holdingCap, unitOnCosmos, ← Nat.pow_add]
  congr 1
  omega

/-- **The amounts of a transfer of at most the cap can be represented.** -/
theorem Amounts.significant (hp : t.Precise) (h : t.Amounts funds deliverAmount amount maxAmount fee)
    (hcap : funds ≤ t.holdingCap) :
    Significant 10 xrplMaxTruncatedAmountLength amount ∧
      ∀ m ∈ maxAmount, Significant 10 xrplMaxTruncatedAmountLength m := by
  obtain ⟨k, hk⟩ : t.unit ∣ maxAmount.getD amount := by
    cases hm : maxAmount with
    | none => exact h.unit_dvd
    | some m => exact h.unit_dvd_max m hm
  have hle : amount ≤ maxAmount.getD amount := by
    cases hm : maxAmount with
    | none => exact le_rfl
    | some m => exact h.le_max m hm
  have hpos : 0 < t.unitOnCosmos := Nat.pow_pos (by decide)
  -- what is charged is at most the cap, which is as many units as sixteen digits can count
  have hcount : k ≤ 10 ^ xrplMaxTruncatedAmountLength := by
    have hcharged := h.charged
    rw [hk, Nat.mul_comm, worth_mul_unit hp] at hcharged
    rw [holdingCap_eq hp] at hcap
    exact Nat.le_of_mul_le_mul_right (by omega) hpos
  have hsmall : ∀ n, t.unit ∣ n → n ≤ t.unit * k → Significant 10 xrplMaxTruncatedAmountLength n := by
    rintro n ⟨j, rfl⟩ hn
    have hj : j ≤ k := Nat.le_of_mul_le_mul_left hn (Nat.pow_pos (by decide))
    rw [Nat.mul_comm]
    exact (Significant.of_le (by decide) (by decide) (hj.trans hcount)).mul_pow _
  refine ⟨hsmall amount h.unit_dvd (hk ▸ hle), fun m hm => hsmall m (h.unit_dvd_max m hm) ?_⟩
  rw [← hk, Option.mem_def.mp hm, Option.getD_some]

/-- What is bridged covers the amount, and is below the maximum; of a token of Cosmos the contract checks
the latter. -/
def Held (t : SentToken) (q : Querier) (amount : ℕ) : Prop :=
  amount ≤ t.bridged q ∧ (t.tokenClass ≠ .cosmos → t.bridged q ≤ t.maxHoldingAmount)

/-- A token of which `amount` coins are sent: its sending precision is in range and within its decimals,
and the coins are under the recommended cap, or the maximum to hold is and they are held. -/
structure Recommended (t : SentToken) (q : Querier) (amount : ℕ) : Prop where
  within : t.precision ≤ t.decimals
  lower : -15 ≤ t.precision
  upper : t.precision ≤ 15
  spread : t.decimals - t.precision ≤ 38
  capped : amount ≤ t.holdingCap ∨ t.maxHoldingAmount ≤ t.holdingCap ∧ t.Held q amount

theorem Recommended.precise {q : Querier} (h : t.Recommended q amount) : t.Precise := by
  obtain ⟨hwithin, hlower, hupper, hspread, -⟩ := h
  exact ⟨hlower, hupper, hwithin, by simp only [maxCosmosTokenDecimals]; omega⟩

end SentToken

section Spares

variable {α β : Type} {e e' : ContractError}

/-- The computation does not fail with the error `e`. -/
def Spares (e : ContractError) (x : ContractResult α) : Prop := x ≠ fail e

@[simp] theorem spares_bind {x : ContractResult α} {f : α → ContractResult β} :
    Spares e (x >>= f) ↔ Spares e x ∧ ∀ a, x = .ok a → Spares e (f a) := by
  cases x <;> simp [Spares, fail, bind, Except.bind]

@[simp] theorem spares_map {x : ContractResult α} {f : α → β} : Spares e (f <$> x) ↔ Spares e x := by
  cases x <;> simp [Spares, fail, Functor.map, Except.map]

@[simp] theorem spares_ok {a : α} : Spares e (.ok a : ContractResult α) := by simp [Spares, fail]

@[simp] theorem spares_pure {a : α} : Spares e (pure a : ContractResult α) := spares_ok

@[simp] theorem spares_panicked : Spares e (panicked : ContractResult α) := by simp [Spares, fail, panicked]

@[simp] theorem spares_fail : Spares e (fail e' : ContractResult α) ↔ e' ≠ e := by simp [Spares, fail]

@[simp] theorem spares_failIf {c : Prop} [Decidable c] : Spares e (failIf c e') ↔ (c → e' ≠ e) := by
  unfold failIf
  split_ifs with h <;> simp [h]

@[simp] theorem spares_orFail {x : Option α} : Spares e (orFail x e') ↔ (x = none → e' ≠ e) := by
  cases x <;> simp [orFail]

@[simp] theorem spares_unwrap {x : Option α} : Spares e (unwrap x) := by
  cases x <;> simp [unwrap]

end Spares

/-! Nothing but the check on the amounts fails with its error. -/

section InvalidXRPLAmount

variable {precision : ℤ} {a b decimals fromDecimals toDecimals amount bridgingFee remainder timestamp : ℕ}
  {denom : String} {operationType : OperationType}

@[simp] theorem spares_checkedAdd : Spares .invalidXRPLAmount (checkedAdd a b) := by
  unfold checkedAdd
  split_ifs <;> simp

@[simp] theorem spares_checkedSub : Spares .invalidXRPLAmount (checkedSub a b) := by
  unfold checkedSub
  split_ifs <;> simp

@[simp] theorem spares_checkedMul : Spares .invalidXRPLAmount (checkedMul a b) := by
  unfold checkedMul
  split_ifs <;> simp

@[simp] theorem spares_checkedDiv : Spares .invalidXRPLAmount (checkedDiv a b) := by
  unfold checkedDiv
  split_ifs <;> simp

@[simp] theorem spares_pow10 : Spares .invalidXRPLAmount (pow10 a) := by
  unfold pow10
  split_ifs <;> simp

@[simp] theorem spares_checkI32 {z : ℤ} : Spares .invalidXRPLAmount (checkI32 z) := by
  unfold checkI32
  split_ifs <;> simp

@[simp] theorem spares_truncateAmount : Spares .invalidXRPLAmount (truncateAmount precision decimals amount) := by
  simp [truncateAmount]

@[simp] theorem spares_convertAmountDecimals :
    Spares .invalidXRPLAmount (convertAmountDecimals fromDecimals toDecimals amount) := by
  unfold convertAmountDecimals
  split <;> simp

@[simp] theorem spares_amountAfterBridgeFees : Spares .invalidXRPLAmount (amountAfterBridgeFees amount bridgingFee) := by
  unfold amountAfterBridgeFees
  split_ifs <;> simp

@[simp] theorem spares_truncateAndConvertAmount :
    Spares .invalidXRPLAmount (truncateAndConvertAmount precision fromDecimals toDecimals amount bridgingFee) := by
  simp [truncateAndConvertAmount]

theorem spares_addToCoins (cs : List Coin) : Spares .invalidXRPLAmount (addToCoins denom amount cs) := by
  induction cs with
  | nil => simp [addToCoins]
  | cons c cs ih =>
    rw [addToCoins]
    split_ifs <;> simp [ih]

theorem spares_foldlM_addRelayerFees (rs : List Relayer) (fc : ExtTreeMap Addr (List Coin)) :
    Spares .invalidXRPLAmount (rs.foldlM (addRelayerFees denom amount) fc) := by
  induction rs generalizing fc with
  | nil => simp
  | cons r rs ih => simp [addRelayerFees, spares_addToCoins, ih]

@[simp] theorem spares_handleFeeCollection :
    Spares .invalidXRPLAmount (handleFeeCollection s bridgingFee denom remainder) := by
  have htotal : ∀ fee, Spares .invalidXRPLAmount (totalFee s fee) := by
    intro fee
    unfold totalFee
    split <;> simp
  have hshare : ∀ each, Spares .invalidXRPLAmount (shareFees s denom each) := by
    intro each
    unfold shareFees
    split_ifs
    · simp
    · exact spares_foldlM_addRelayerFees _ _
  have hcollect : ∀ n, Spares .invalidXRPLAmount (collectFees s ⟨denom, n⟩) := by
    intro n
    unfold collectFees
    split_ifs <;> simp [htotal, hshare]
  simp [handleFeeCollection, hcollect]

@[simp] theorem spares_sendXRPLOriginated {token : XRPLToken} {funds : Coin} {deliverAmount : Option ℕ} :
    Spares .invalidXRPLAmount (sendXRPLOriginated s token funds deliverAmount) := by
  have hdeliver : ∀ n m, Spares .invalidXRPLAmount
      (deliverAmounts token (xrplDecimals token.issuer token.currency) n m deliverAmount) := by
    intro n m
    unfold deliverAmounts
    split <;> simp
  simp [sendXRPLOriginated, hdeliver]

@[simp] theorem spares_sendCosmosToXRPL {funds : Coin} {deliverAmount : Option ℕ} :
    Spares .invalidXRPLAmount (sendCosmosToXRPL s q funds deliverAmount) := by
  simp [sendCosmosToXRPL]

@[simp] theorem spares_oneCoin {funds : List Coin} : Spares .invalidXRPLAmount (oneCoin funds) := by
  unfold oneCoin
  split
  · simp
  · split_ifs <;> simp
  · simp

@[simp] theorem spares_allocateTicket : Spares .invalidXRPLAmount (allocateTicket s) := by
  have hreserve : Spares .invalidXRPLAmount (reserveTicket s) := by
    unfold reserveTicket
    split <;> simp
  simp [allocateTicket, hreserve]

@[simp] theorem spares_createPendingOperation {ticketSequence accountSequence : Option ℕ} :
    Spares .invalidXRPLAmount (createPendingOperation s timestamp ticketSequence accountSequence operationType) := by
  have hhalt : Spares .invalidXRPLAmount (checkValidOperationIfHalt s operationType) := by
    unfold checkValidOperationIfHalt
    split_ifs
    · split <;> simp
    · simp
  simp [createPendingOperation, hhalt]

/-- A transfer fails with this error only on amounts that it has computed. -/
theorem spares_sendToXRPL {funds : List Coin} {recipient : String} {deliverAmount : Option ℕ}
    (hx : ∀ coin key token s' out, funds = [coin] → s.xrplTokens.item coin.denom = some (key, token) →
      sendXRPLOriginated s token coin deliverAmount = .ok (s', out) →
        validateXRPLAmount out.amountToSend = .ok () ∧ validateMaxAmount out.maxAmount = .ok ())
    (hc : ∀ coin s' out, funds = [coin] → s.xrplTokens.item coin.denom = none →
      sendCosmosToXRPL s q coin deliverAmount = .ok (s', out) →
        validateXRPLAmount out.amountToSend = .ok () ∧ validateMaxAmount out.maxAmount = .ok ()) :
    Spares .invalidXRPLAmount (sendToXRPL H s q env sender funds recipient deliverAmount) := by
  rw [sendToXRPL, spares_bind]
  refine ⟨by simp [assertBridgeActive], fun _ _ => spares_bind.mpr ⟨spares_oneCoin, fun coin hcoin => ?_⟩⟩
  obtain ⟨rfl, -⟩ := oneCoin_eq_ok hcoin
  rw [spares_bind, spares_bind, spares_bind]
  refine ⟨?_, fun _ _ => ⟨by simp, fun _ _ => ⟨?_, ?_⟩⟩⟩
  · simp [validateXRPLAddress, validateXRPLAddressFormat, validateXRPLAddressIsNotProhibited]
  · split <;> simp
  · rintro ⟨s₁, out⟩ hout
    obtain ⟨hamount, hmax⟩ :
        validateXRPLAmount out.amountToSend = .ok () ∧ validateMaxAmount out.maxAmount = .ok () := by
      split at hout
      · rename_i key token htoken
        exact hx coin key token s₁ out rfl htoken hout
      · rename_i hnone
        exact hc coin s₁ out rfl hnone hout
    simp [hamount, hmax]

end InvalidXRPLAmount

/-- **Amounts on XRPL.** An amount is valid exactly if it is a number below `10 ^ 16`, shifted; and no
transfer of coins under the recommended cap fails because of an amount that XRPL cannot represent,
whatever the fee and the amount to deliver. -/
theorem sendToXRPL_representable :
    (∀ n, validateXRPLAmount n = .ok () ↔ ∃ m k, m < 10 ^ 16 ∧ n = m * 10 ^ k) ∧
      ∀ (s : Storage) (q : Querier) (env : BlockInfo) (sender : Addr) (funds : List Coin) (recipient : String)
        (deliverAmount : Option ℕ),
        (∀ coin t, funds = [coin] → s.sentToken coin.denom = some t → t.Recommended q coin.amount) →
          sendToXRPL H s q env sender funds recipient deliverAmount ≠ fail .invalidXRPLAmount := by
  refine ⟨fun n => validateXRPLAmount_eq_ok_iff, fun s q env sender funds recipient deliverAmount hr => ?_⟩
  have hvalid : ∀ t out fee funds s', t.Precise → Computes s t funds deliverAmount s' out fee →
      funds ≤ t.holdingCap → validateXRPLAmount out.amountToSend = .ok () ∧ validateMaxAmount out.maxAmount = .ok () := by
    intro t out fee funds s' hp hc hcap
    obtain ⟨hamount, hmax⟩ := hc.amounts.significant hp hcap
    exact ⟨validateXRPLAmount_eq_ok_iff.mpr hamount, validateMaxAmount_eq_ok_iff.mpr hmax⟩
  apply spares_sendToXRPL
  · intro coin key token s' out hcoin htoken hsent
    have hrec := hr coin _ hcoin (sentToken_xrpl htoken)
    obtain ⟨fee, hc⟩ := sendXRPLOriginated_computes hrec.precise hsent
    refine hvalid _ _ _ _ _ hrec.precise hc ?_
    rcases hrec.capped with hcap | ⟨hmax, hheld, hbridged⟩
    · exact hcap
    · exact hheld.trans ((hbridged sent_ne_cosmos).trans hmax)
  · intro coin s' out hcoin hnone hsent
    have hsent' := hsent
    simp only [sendCosmosToXRPL, bind_eq_ok, orFail_eq_ok, failIf_eq_ok, Nat.not_lt] at hsent'
    obtain ⟨token, htoken, _, -, _, -, -, -, -, -, -, -, _, hchecked, -⟩ := hsent'
    have hrec := hr coin _ hcoin (sentToken_cosmos hnone htoken)
    obtain ⟨fee, hc⟩ := sendCosmosToXRPL_computes htoken hrec.precise hsent
    refine hvalid _ _ _ _ _ hrec.precise hc ?_
    rcases hrec.capped with hcap | ⟨hmax, hheld, -⟩
    · exact hcap
    · exact hheld.trans (hchecked.trans hmax)

open Reference in
/-- Any amount of XRP up to the recommended cap. -/
theorem sendToXRPL_representable_xrp :
    (∃ m k, m < 10 ^ 16 ∧ 10 ^ 16 = m * 10 ^ k) ∧
      ∀ amount ≤ 10 ^ 16, sendToXRPL host (run (step host) world₁ [recover, vote 2 relayer₁ allocation]).store
        ⟨fun _ => 0, fun _ => 0⟩ ⟨1, 3⟩ user [⟨xrpDenom, amount⟩] relayer₃.xrplAddress none ≠ fail .invalidXRPLAmount := by
  refine ⟨(sendToXRPL_representable (H := host)).1 (10 ^ 16) |>.mp (by decide), fun amount hle => ?_⟩
  apply (sendToXRPL_representable (H := host)).2
  have hsent : (run (step host) world₁ [recover, vote 2 relayer₁ allocation]).store.sentToken xrpDenom =
      some ⟨.xrp, xrpIssuer, xrpCurrency, xrpDenom, 6, 6, 0, 10 ^ 16⟩ := by decide +kernel
  intro coin t hcoin ht
  cases hcoin
  rw [hsent] at ht
  cases ht
  exact ⟨by decide, by decide, by decide, by decide, .inl hle⟩

example : validateXRPLAmount (10 ^ 16 * 10 ^ 20) = .ok () := by decide
example : validateXRPLAmount (10 ^ 16 + 1) = fail .invalidXRPLAmount := by decide

end XrplBridge
