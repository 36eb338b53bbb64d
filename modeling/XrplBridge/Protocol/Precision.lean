import XrplBridge.Protocol.TokenStores
import XrplBridge.Reference

/-!
# Sending precisions

The amount of a transfer is rounded down to the sending precision of its token, which has to be
within the decimals of the token: otherwise the exponent of `truncateAmount` is negative, and its
absolute value is used. Every registered token is `Precise`, unless the owner updates XRP under
strings that only concatenate to its key (`precision_iff`).
-/

namespace XrplBridge

open Library Contract Std

/-- A sending precision is in range, and within the decimals. -/
structure PreciseFor (precision : ℤ) (decimals : ℕ) : Prop where
  lower : minSendingPrecision ≤ precision
  upper : precision ≤ maxSendingPrecision
  within : precision ≤ decimals
  fits : decimals ≤ maxCosmosTokenDecimals

/-- `a` is `amount`, rounded down to a multiple of `unit`. -/
structure RoundedDown (unit amount a : ℕ) : Prop where
  whole : unit ∣ a
  le : a ≤ amount
  lt : amount < a + unit

/-- Every registered token has a precise sending precision, by its own decimals. -/
structure Precise (s : Storage) : Prop where
  xrpl : ∀ (key : String) (token : XRPLToken), s.xrplTokens.primary[key]? = some token →
    PreciseFor token.sendingPrecision (xrplDecimals token.issuer token.currency)
  cosmos : ∀ (key : String) (token : CosmosToken), s.cosmosTokens.primary[key]? = some token →
    PreciseFor token.sendingPrecision token.decimals

/-- What is truncated to the sending precision of a registered token is rounded down to it. -/
structure Rounds (s : Storage) : Prop where
  xrpl : ∀ (key : String) (token : XRPLToken) (amount a remainder : ℕ), s.xrplTokens.primary[key]? = some token →
    truncateAmount token.sendingPrecision (xrplDecimals token.issuer token.currency) amount = .ok (a, remainder) →
      RoundedDown (10 ^ (xrplDecimals token.issuer token.currency - token.sendingPrecision).toNat) amount a ∧
        a + remainder = amount
  cosmos : ∀ (key : String) (token : CosmosToken) (amount a remainder : ℕ),
    s.cosmosTokens.primary[key]? = some token →
      truncateAmount token.sendingPrecision token.decimals amount = .ok (a, remainder) →
        RoundedDown (10 ^ (token.decimals - token.sendingPrecision).toNat) amount a ∧ a + remainder = amount

/-! ### The contract's functions -/

section Functions

variable {precision target : ℤ} {decimals amount a remainder : ℕ}

theorem asI32_eq (h : decimals ≤ maxCosmosTokenDecimals) : asI32 decimals = decimals := by
  have hd : decimals ≤ 100 := h
  refine Int.bmod_eq_of_le ?_ ?_ <;> omega

theorem validateSendingPrecision_eq_ok {u : Unit} (hd : decimals ≤ maxCosmosTokenDecimals)
    (h : validateSendingPrecision precision decimals = .ok u) : PreciseFor precision decimals := by
  simp only [validateSendingPrecision, bind_eq_ok, failIf_eq_ok, asI32_eq hd, not_not] at h
  obtain ⟨_, ⟨hlo, hhi⟩, hle⟩ := h
  exact ⟨hlo, hhi, Int.not_lt.mp hle, hd⟩

theorem truncateAmount_roundedDown (h : PreciseFor precision decimals)
    (ht : truncateAmount precision decimals amount = .ok (a, remainder)) :
    RoundedDown (10 ^ (decimals - precision).toNat) amount a ∧ a + remainder = amount := by
  refine ⟨?_, (truncateAmount_eq_ok ht).1⟩
  simp only [truncateAmount, bind_eq_ok, pow10_eq_ok, checkedDiv_eq_ok, failIf_eq_ok, checkedMul_eq_ok,
    checkedSub_eq_ok, pure_eq_ok, Prod.mk.injEq, asI32_eq h.fits] at ht
  obtain ⟨e, he, p, ⟨-, rfl⟩, q, ⟨hp, rfl⟩, _, -, t, ⟨-, rfl⟩, _, ⟨hle, rfl⟩, rfl, rfl⟩ := ht
  obtain rfl := checkI32_eq_ok he
  have hexp : (decimals - precision).natAbs = (decimals - precision).toNat := by
    have := h.within
    omega
  rw [hexp] at hle ⊢
  exact ⟨Dvd.intro_left _ rfl, hle, Nat.lt_div_mul_add (Nat.pow_pos (by decide))⟩

/-- Truncation makes an amount a multiple of what a conversion to the decimals of XRPL divides by, so
converting it back restores it. -/
theorem fromXRPLDecimals_of_truncated {t : ℕ} (h : PreciseFor precision decimals)
    (ht : truncateAmount precision decimals amount = .ok (t, remainder))
    (hc : convertAmountDecimals decimals xrplTokensDecimals t = .ok a) : fromXRPLDecimals decimals a = t := by
  unfold fromXRPLDecimals
  rcases convertAmountDecimals_eq_ok hc with ⟨hlt, -, -, rfl⟩ | ⟨hlt, -, rfl⟩ | ⟨rfl, rfl⟩
  · rw [if_pos hlt, Nat.mul_div_cancel _ (Nat.pow_pos (by decide))]
  · have hexp : decimals - xrplTokensDecimals ≤ (decimals - precision).toNat := by
      have hupper : precision ≤ xrplTokensDecimals := h.upper
      omega
    have hdvd := (Nat.pow_dvd_pow 10 hexp).trans (truncateAmount_roundedDown h ht).1.whole
    rw [if_neg hlt.not_gt, Nat.div_mul_cancel hdvd]
  · simp

/-- **A transfer to XRPL loses nothing**: the fee, what is cut off and what the amount that is sent is
worth on Cosmos are the amount. -/
theorem truncateAndConvertAmount_exact {bridgingFee : ℕ} (h : PreciseFor precision decimals)
    (hc : truncateAndConvertAmount precision decimals xrplTokensDecimals amount bridgingFee = .ok (a, remainder)) :
    bridgingFee + remainder + fromXRPLDecimals decimals a = amount := by
  simp only [truncateAndConvertAmount, bind_eq_ok, pure_eq_ok, Prod.mk.injEq] at hc
  obtain ⟨f, hf, ⟨t, r⟩, ht, c, hc, rfl, rfl⟩ := hc
  have hfee := amountAfterBridgeFees_eq_ok hf
  have hcut := (truncateAmount_eq_ok ht).1
  rw [fromXRPLDecimals_of_truncated h ht hc]
  omega

/-- A conversion that succeeds is from decimals that a power of ten reaches. -/
theorem decimals_le_of_convertAmountDecimals (hc : convertAmountDecimals decimals xrplTokensDecimals amount = .ok a) :
    decimals ≤ maxCosmosTokenDecimals := by
  change decimals ≤ 100
  rcases convertAmountDecimals_eq_ok hc with ⟨hlt, -⟩ | ⟨-, hp, -⟩ | ⟨rfl, -⟩
  · exact hlt.le.trans (by decide)
  · by_contra hlarge
    have hpow : 10 ^ 39 ≤ 10 ^ (decimals - xrplTokensDecimals) :=
      Nat.pow_le_pow_right (by decide) (by simp only [xrplTokensDecimals]; omega)
    exact absurd (hpow.trans_lt hp) (by decide)
  · decide

theorem Precise.rounds {s : Storage} (h : Precise s) : Rounds s :=
  ⟨fun key token _ _ _ hk ht => truncateAmount_roundedDown (h.xrpl key token hk) ht,
    fun key token _ _ _ hk ht => truncateAmount_roundedDown (h.cosmos key token hk) ht⟩

theorem xrplDecimals_le (issuer currency : String) : xrplDecimals issuer currency ≤ maxCosmosTokenDecimals := by
  unfold xrplDecimals
  split_ifs <;> decide

/-- A target that is set is precise for the decimals of the strings that are given. -/
theorem setTokenSendingPrecision_eq_ok {targetPrecision : Option ℤ} (hd : decimals ≤ maxCosmosTokenDecimals)
    (h : setTokenSendingPrecision precision targetPrecision decimals = .ok target) :
    targetPrecision = none ∧ target = precision ∨
      targetPrecision = some target ∧ PreciseFor target decimals := by
  cases targetPrecision with
  | none =>
    cases h
    exact .inl ⟨rfl, rfl⟩
  | some t =>
    simp only [setTokenSendingPrecision, bind_eq_ok, pure_eq_ok] at h
    obtain ⟨_, hv, rfl⟩ := h
    exact .inr ⟨rfl, validateSendingPrecision_eq_ok hd hv⟩

end Functions

/-! ### Calls -/

/-- An update of XRP under strings that only concatenate to its key, to a precision that XRP has no
decimals for. -/
def overshoots : ExecuteMsg → Bool
  | .updateXRPLToken issuer currency update =>
    buildXRPLTokenKey issuer currency = buildXRPLTokenKey xrpIssuer xrpCurrency ∧
      isTokenXRP issuer currency = false ∧ update.sendingPrecision.any fun p => (xrpDecimals : ℤ) < p
  | _ => false

variable {H : Host} {s s' : Storage} {q : Querier} {msg : ExecuteMsg} {w : World} {bridge : String}

theorem isTokenXRP_iff {issuer currency : String} :
    isTokenXRP issuer currency = true ↔ issuer = xrpIssuer ∧ currency = xrpCurrency := by
  simp [isTokenXRP]

/-- A sending precision within the decimals of some strings is within those of the token, unless
the token is XRP and the strings are not. -/
theorem PreciseFor.of_named {precision : ℤ} {issuer currency : String} {token : XRPLToken}
    (h : PreciseFor precision (xrplDecimals issuer currency))
    (hxrp : isTokenXRP token.issuer token.currency = true → isTokenXRP issuer currency = false →
      precision ≤ xrpDecimals) : PreciseFor precision (xrplDecimals token.issuer token.currency) := by
  refine ⟨h.lower, h.upper, ?_, xrplDecimals_le _ _⟩
  by_cases ht : isTokenXRP token.issuer token.currency = true
  · rw [xrplDecimals, if_pos ht]
    by_cases hn : isTokenXRP issuer currency = true
    · simpa [xrplDecimals, hn] using h.within
    · exact hxrp ht (by simpa using hn)
  · rw [xrplDecimals, if_neg ht]
    exact h.upper

/-- The tokens of Cosmos are always precise: an update is checked against the decimals of the token
itself. -/
theorem TokenChange.preciseCosmos {funds : List Coin} {ms : List SubMsg} (hc : TokenChange H s q funds msg s' ms)
    (h : ∀ (key : String) (token : CosmosToken), s.cosmosTokens.primary[key]? = some token →
      PreciseFor token.sendingPrecision token.decimals) (key : String) (token : CosmosToken)
    (hk : s'.cosmosTokens.primary[key]? = some token) : PreciseFor token.sendingPrecision token.decimals := by
  cases hc with
  | kept hsame =>
    rw [Storage.tokens, Storage.tokens, Prod.mk.injEq] at hsame
    exact h key token (hsame.2 ▸ hk)
  | registeredXRPL _ _ _ _ _ _ _ hcosmos => exact h key token (hcosmos ▸ hk)
  | restated _ _ hcosmos => exact h key token (hcosmos ▸ hk)
  | updatedXRPL _ _ _ _ _ _ hcosmos => exact h key token (hcosmos ▸ hk)
  | registeredCosmos _ _ hfits hprecise hsave =>
    rw [(IndexedMap.save_eq_some hsave).1] at hk
    rcases getElem?_of_insert hk with ⟨-, rfl⟩ | ⟨-, hold⟩
    · exact validateSendingPrecision_eq_ok hfits hprecise
    · exact h key token hold
  | updatedCosmos hr hname hprecise hsave =>
    rw [(IndexedMap.save_eq_some hsave).1] at hk
    rcases getElem?_of_insert hk with ⟨-, rfl⟩ | ⟨-, hold⟩
    · simp only [CosmosToken.name, CosmosName.mk.injEq] at hname
      rw [hname.2.1]
      rcases setTokenSendingPrecision_eq_ok (h _ _ hr).fits hprecise with ⟨-, heq⟩ | ⟨-, hp⟩
      · rw [heq]
        exact h _ _ hr
      · exact hp
    · exact h key token hold

/-- **A call keeps the tokens precise** unless it overshoots. -/
theorem Precise.step {funds : List Coin} {ms : List SubMsg} (h : Precise s) (hreg : s.registry.Sound H bridge)
    (hc : TokenChange H s q funds msg s' ms) (hno : overshoots msg = false) : Precise s' := by
  refine ⟨fun key token hk => ?_, hc.preciseCosmos h.cosmos⟩
  cases hc.xrplEntry hk with
  | kept hr => exact h.xrpl key token hr
  | @registered issuer currency _ _ _ _ _ hcur hprecise =>
    have hno : ¬ isTokenXRP issuer currency = true := fun hx =>
      (size_of_validCurrency hcur).2 (isTokenXRP_iff.mp hx).2
    rw [xrplDecimals, if_neg hno]
    exact validateSendingPrecision_eq_ok (by decide) hprecise
  | restated hr => exact (h.xrpl _ _ hr :)
  | @updated issuer currency update t _ hasked hr hname hprecise =>
    simp only [XRPLToken.name, XRPLName.mk.injEq] at hname
    rw [hname.1, hname.2.1]
    rcases setTokenSendingPrecision_eq_ok (xrplDecimals_le _ _) hprecise with ⟨-, heq⟩ | ⟨htarget, hp⟩
    · rw [heq]
      exact h.xrpl _ _ hr
    · apply hp.of_named
      intro hx hgiven
      have hkey : buildXRPLTokenKey issuer currency = buildXRPLTokenKey xrpIssuer xrpCurrency := by
        obtain ⟨hi, hcur⟩ := isTokenXRP_iff.mp hx
        rw [hreg.xrplKey _ _ (registry_xrpl hr)]
        exact congrArg₂ _ hi hcur
      rw [hasked] at hno
      simpa [overshoots, hkey, hgiven, htarget] using hno

theorem overshoots_eq_true (h : overshoots msg = true) : ∃ issuer currency update target,
    msg = .updateXRPLToken issuer currency update ∧
      buildXRPLTokenKey issuer currency = buildXRPLTokenKey xrpIssuer xrpCurrency ∧
        update.sendingPrecision = some target ∧ (xrpDecimals : ℤ) < target := by
  unfold overshoots at h
  split at h
  · rename_i issuer currency update
    obtain ⟨hkey, -, hover⟩ := of_decide_eq_true h
    obtain ⟨target, htarget, hlt⟩ := (Option.any_eq_true _ _).mp hover
    exact ⟨issuer, currency, update, target, rfl, hkey, htarget, of_decide_eq_true hlt⟩
  · cases h

/-- A call that overshoots leaves XRP with a precision that it has no decimals for. -/
theorem not_precise_of_overshoots {env : BlockInfo} {sender : Addr} {funds : List Coin} {ms : List SubMsg}
    (hxrp : ∃ token, s.xrplTokens.primary[buildXRPLTokenKey xrpIssuer xrpCurrency]? = some token ∧
      token.issuer = xrpIssuer ∧ token.currency = xrpCurrency)
    (he : Effect H s q env sender funds msg s' ms) (h : overshoots msg = true) : ¬ Precise s' := by
  obtain ⟨issuer, currency, update, target, rfl, hkey, htarget, hlt⟩ := overshoots_eq_true h
  obtain ⟨xrp, hx, hissuer, hcurrency⟩ := hxrp
  cases he with
  | @updatedXRPL _ _ _ token token' xrplTokens hr hsame hsave _ _ hprecise =>
    intro hall
    rw [hkey, hx] at hr
    cases hr
    have hk : xrplTokens.primary[buildXRPLTokenKey issuer currency]? = some token' := by
      rw [(IndexedMap.save_eq_some hsave).1, getElem?_insert_self']
    have hwithin := (hall.xrpl _ _ hk).within
    rw [hsame.1, hsame.2.1, xrplDecimals, if_pos (isTokenXRP_iff.mpr ⟨hissuer, hcurrency⟩)] at hwithin
    rcases setTokenSendingPrecision_eq_ok (xrplDecimals_le _ _) hprecise with ⟨hnone, -⟩ | ⟨hsome, -⟩
    · rw [htarget] at hnone
      cases hnone
    · rw [htarget] at hsome
      cases hsome
      omega

/-! ### In every run -/

theorem precise_xrp : PreciseFor xrpDefaultSendingPrecision (xrplDecimals xrpIssuer xrpCurrency) :=
  ⟨by decide, by decide, by decide, by decide⟩

theorem started_precise (h : Started H w) : Precise w.store := by
  obtain ⟨msg, m, -, -, -, hm, hs⟩ := started_eq h
  rw [hs]
  refine ⟨fun key token hk => ?_, fun key token hk => ?_⟩
  · simp only [initialStorage, (IndexedMap.save_eq_some hm).1] at hk
    rcases getElem?_of_insert hk with ⟨-, rfl⟩ | ⟨-, hnone⟩
    · exact precise_xrp
    · simp [IndexedMap.empty] at hnone
  · simp [initialStorage, IndexedMap.empty] at hk

theorem run_preciseCosmos (h : Started H w) (calls : List Call) :
    ∀ (key : String) (token : CosmosToken), (run (step H) w calls).store.cosmosTokens.primary[key]? = some token →
      PreciseFor token.sendingPrecision token.decimals :=
  run_storage (P := fun s => ∀ (key : String) (token : CosmosToken), s.cosmosTokens.primary[key]? = some token →
    PreciseFor token.sendingPrecision token.decimals) h (started_precise h).cosmos
    (fun hold he => he.tokenChange.preciseCosmos hold) calls

theorem run_precise (h : Started H w) (calls : List Call)
    (hno : ∀ x ∈ history (step H) w calls, overshoots x.2.msg = false) : Precise (run (step H) w calls).store := by
  refine run_invariant_of (I := fun w : World => Precise w.store)
    (p := fun _ c => overshoots c.msg = false) (started_precise h) ?_ calls hno
  intro calls c w' r hold hc hstep
  exact hold.step (run_registered h calls).sound (run_effect h hstep).tokenChange hc

/-- **Sending precisions.** Along a run every registered token has a sending precision within its
decimals, and what is truncated to it is rounded down to it, exactly if no call overshoots. -/
theorem precision_iff (h : Started H w) (calls : List Call) :
    (∀ pre post, calls = pre ++ post →
        Precise (run (step H) w pre).store ∧ Rounds (run (step H) w pre).store) ↔
      ∀ x ∈ history (step H) w calls, overshoots x.2.msg = false := by
  constructor
  · rintro hall ⟨t, c⟩ hx
    obtain ⟨pre, post, ⟨w', r⟩, hcalls, rfl, hstep⟩ := mem_history_iff.mp hx
    by_contra hover
    apply not_precise_of_overshoots (run_xrp h pre) (run_effect h hstep) (by simpa using hover)
    rw [← run_snoc_ok hstep]
    exact (hall (pre ++ [c]) post (by simpa using hcalls)).1
  · rintro hno pre post rfl
    have hprecise := run_precise h pre fun x hx => hno x (mem_history_append hx post)
    exact ⟨hprecise, hprecise.rounds⟩

open Reference in
/-- A token with a negative precision is registered, and everything is precise. -/
theorem precision_iff_registered :
    Precise (run (step host) world₁ [recover, vote 2 relayer₁ allocation, register 3 "USD" (-5)]).store :=
  ((precision_iff started_world₁ _).mpr (by decide +kernel) _ [] (List.append_nil _).symm).1

open Reference in
/-- The strings concatenate to the key of XRP, and are not XRP: its precision becomes 15, and an
amount is then rounded down to thousands of XRP, which has six decimals. -/
theorem precision_overshot :
    let c := call 3 owner (.updateXRPLToken "rrrrrrrrrrrrrrrrrrrrrhoLvT" "pXRP" ⟨none, some 15, none, none⟩)
    (step host world₁ c).isOk = true ∧
      (commit (step host) world₁ c).store.xrplTokens.primary[buildXRPLTokenKey xrpIssuer xrpCurrency]?.map
        (fun t => (t.issuer, t.currency, t.sendingPrecision)) = some (xrpIssuer, xrpCurrency, 15) ∧
      truncateAmount 15 xrpDecimals 1234567890 = .ok (1000000000, 234567890) ∧
      ¬ Precise (commit (step host) world₁ c).store := by
  intro c
  have hxrp : (commit (step host) world₁ c).store.xrplTokens.primary[buildXRPLTokenKey xrpIssuer xrpCurrency]?.map
      (fun t => (t.issuer, t.currency, t.sendingPrecision)) = some (xrpIssuer, xrpCurrency, 15) := by decide +kernel
  refine ⟨by decide +kernel, hxrp, by decide, fun hall => ?_⟩
  obtain ⟨token, hk, htoken⟩ := Option.map_eq_some_iff.mp hxrp
  rw [Prod.mk.injEq, Prod.mk.injEq] at htoken
  have hwithin := (hall.xrpl _ _ hk).within
  rw [htoken.1, htoken.2.1, htoken.2.2] at hwithin
  exact absurd hwithin (by decide)

end XrplBridge
