import XrplBridge.Protocol.Naming
import XrplBridge.Protocol.TokenStores

/-!
# Resolving a transfer

`SendToXRPL` finds the token of a transfer by the denom that is paid; the end of the transfer
finds it by its key on XRPL, or by its currency. Both find the same token whatever happens in
between (`transfers_resolve`): a registered token stays, under a key that leads to no other, and
no token of XRPL is issued by the bridge itself.
-/

namespace XrplBridge

open Library Contract Std

/-- The end of a transfer finds tokens of the denom `D` only, one of XRPL if it was `fromXRPL`;
it goes through with any result, and burns or refunds nothing but coins of that denom. -/
def Resolves (s : Storage) (D : String) (fromXRPL : Bool) (k : ℕ) (o : Operation) : Prop :=
  ∃ issuer currency amount maxAmount sender recipient,
    o.operationType = .cosmosToXRPLTransfer issuer currency amount maxAmount sender recipient ∧
      s.xrplTokens.primary[buildXRPLTokenKey issuer currency]?.isSome = fromXRPL ∧
      (∀ token, s.xrplTokens.primary[buildXRPLTokenKey issuer currency]? = some token → token.cosmosDenom = D) ∧
      (fromXRPL = false → ∃ token, s.cosmosTokens.item currency = some (D, token) ∧ token.denom = D) ∧
      ∀ result txHash tokenFactoryAddr burnAddr response, ∃ moved msgs, RateLimitOnly msgs ∧
        handleCosmosToXRPLTransferConfirmation s result txHash k tokenFactoryAddr burnAddr response =
          .ok (if result = .accepted then s else storePendingRefund s o.id txHash sender ⟨D, moved⟩,
            if result = .accepted ∧ fromXRPL = true then
              response.addMessage (tokenFactoryMsg tokenFactoryAddr (.burnTokens D moved burnAddr))
            else response, msgs)

variable {H : Host} {s s' : Storage} {w w' : World} {bridge D issuer currency recipient : String} {k amount : ℕ}
  {maxAmount : Option ℕ} {sender : Addr} {o : Operation}

/-- A transfer of a token of XRPL. -/
theorem resolves_xrpl {token : XRPLToken}
    (ht : o.operationType = .cosmosToXRPLTransfer issuer currency amount maxAmount sender recipient)
    (hk : s.xrplTokens.primary[buildXRPLTokenKey issuer currency]? = some token) (hD : token.cosmosDenom = D)
    (ho : s.pendingOperations[k]? = some o) : Resolves s D true k o := by
  refine ⟨issuer, currency, amount, maxAmount, sender, recipient, ht, by rw [hk]; rfl, ?_, nofun, ?_⟩
  · intro t h
    rw [hk] at h
    cases h
    exact hD
  · intro result txHash tokenFactoryAddr burnAddr response
    by_cases hacc : result = .accepted
    · refine ⟨maxAmount.getD amount, [], nofun, bind_eq_ok.mpr ⟨o, orFail_eq_ok.mpr ho, ?_⟩⟩
      rw [ht]
      dsimp only
      rw [hk]
      dsimp only
      rw [if_pos hacc, if_pos hacc, if_pos ⟨hacc, rfl⟩, hD]
    · refine ⟨maxAmount.getD amount, undoSendMsgs s (buildXRPLTokenKey issuer currency) (maxAmount.getD amount),
        rateLimitOnly_rateLimitMsgs _ _, bind_eq_ok.mpr ⟨o, orFail_eq_ok.mpr ho, ?_⟩⟩
      rw [ht]
      dsimp only
      rw [hk]
      dsimp only
      rw [if_neg hacc, if_neg hacc, if_neg fun hc => hacc hc.1, hD]

/-- A transfer of a token of Cosmos, whose amount can be converted back. -/
theorem resolves_cosmos {token : CosmosToken}
    (ht : o.operationType = .cosmosToXRPLTransfer issuer currency amount (some amount) sender recipient)
    (hk : s.xrplTokens.primary[buildXRPLTokenKey issuer currency]? = none)
    (hr : s.cosmosTokens.item currency = some (D, token)) (hD : token.denom = D)
    (hback : convertAmountDecimals xrplTokensDecimals token.decimals amount = .ok (fromXRPLDecimals token.decimals amount))
    (ho : s.pendingOperations[k]? = some o) : Resolves s D false k o := by
  refine ⟨issuer, currency, amount, some amount, sender, recipient, ht, by rw [hk]; rfl, ?_,
    fun _ => ⟨token, hr, hD⟩, ?_⟩
  · intro t h
    rw [hk] at h
    cases h
  · intro result txHash tokenFactoryAddr burnAddr response
    by_cases hacc : result = .accepted
    · refine ⟨0, [], nofun, bind_eq_ok.mpr ⟨o, orFail_eq_ok.mpr ho, ?_⟩⟩
      rw [ht]
      dsimp only
      rw [hk]
      dsimp only
      rw [if_pos hacc, if_pos hacc, if_neg nofun]
    · refine ⟨fromXRPLDecimals token.decimals amount, undoSendMsgs s (buildXRPLTokenKey issuer currency)
        (fromXRPLDecimals token.decimals amount), rateLimitOnly_rateLimitMsgs _ _,
        bind_eq_ok.mpr ⟨o, orFail_eq_ok.mpr ho, ?_⟩⟩
      rw [ht]
      dsimp only
      rw [hk]
      dsimp only
      rw [if_neg hacc, if_neg hacc, if_neg nofun, hr]
      refine bind_eq_ok.mpr ⟨amount, rfl, bind_eq_ok.mpr ⟨_, hback, ?_⟩⟩
      rw [hD]
      rfl

/-! ### No other token under the key -/

/-- The bridge's own tokens are under no key of a token of XRPL. -/
theorem Registered.xrpl_none (hb : H.Base58Sized) (h : Registered H bridge s)
    (hbridge : validateXRPLAddressFormat H bridge = .ok ()) (hc : validateXRPLCurrency currency = .ok ()) : s.xrplTokens.primary[buildXRPLTokenKey bridge currency]? = none := by
  cases hk : s.xrplTokens.primary[buildXRPLTokenKey bridge currency]? with
  | none => rfl
  | some token =>
    obtain ⟨hissuer, hcurrency⟩ := (h.named_iff hb hk).mpr (sized_of_valid hb hbridge hc)
    rcases h.sound.foreign _ _ (registry_xrpl hk) with ⟨-, hxrp⟩ | ⟨-, hne, -⟩
    · exact absurd (hcurrency.symm.trans hxrp) (size_of_validCurrency hc).2
    · exact absurd hissuer hne

/-- No token of XRPL is issued by the bridge. -/
theorem Registered.issuer_ne (h : Registered H bridge s) (hx : bridge ≠ xrpIssuer) {key : String} {token : XRPLToken}
    (hk : s.xrplTokens.primary[key]? = some token) : token.issuer ≠ bridge := by
  rcases h.sound.foreign key _ (registry_xrpl hk) with ⟨hi, -⟩ | ⟨-, hne, -⟩
  · exact fun heq => hx (heq.symm.trans hi)
  · exact hne

theorem started_validBridge (h : Started H w) :
    validateXRPLAddressFormat H w.store.config.bridgeXRPLAddress = .ok () := by
  obtain ⟨msg, m, -, hformat, -, -, hstore⟩ := started_eq h
  rw [hstore]
  exact hformat

/-! ### From the creation to the end -/

/-- A transfer names a registered token of the denom `D`. -/
inductive Names (g : Registry) (bridge D : String) : Bool → OperationType → Prop
  | xrpl {n : XRPLName} {amount : ℕ} {maxAmount : Option ℕ} {sender : Addr} {recipient : String}
      (registered : g.xrpl[buildXRPLTokenKey n.issuer n.currency]? = some n) (denom : n.cosmosDenom = D) :
      Names g bridge D true (.cosmosToXRPLTransfer n.issuer n.currency amount maxAmount sender recipient)
  | cosmos {n : CosmosName} {amount : ℕ} {sender : Addr} {recipient : String}
      (registered : g.cosmos[D]? = some n) (denom : n.denom = D)
      (returnable : convertAmountDecimals xrplTokensDecimals n.decimals amount =
        .ok (fromXRPLDecimals n.decimals amount)) :
      Names g bridge D false (.cosmosToXRPLTransfer bridge n.xrplCurrency amount (some amount) sender recipient)

theorem Names.step {g g' : Registry} {bridge' : String} {fromXRPL : Bool} {t : OperationType}
    (h : Names g bridge D fromXRPL t) (hs : g.Step H bridge' g') : Names g' bridge D fromXRPL t := by
  cases h with
  | xrpl hr hD => exact .xrpl (hs.xrpl_mono hr) hD
  | cosmos hr hD hback => exact .cosmos (hs.cosmos_mono hr) hD hback

/-- **The end of a transfer resolves the token it names.** -/
theorem Names.resolves {fromXRPL : Bool} (h : Names s.registry bridge D fromXRPL o.operationType)
    (hb : H.Base58Sized) (hreg : Registered H bridge s) (hbridge : validateXRPLAddressFormat H bridge = .ok ())
    {s₁ : Storage} (hs : s₁.tokens = s.tokens) (ho : s₁.pendingOperations[k]? = some o) :
    Resolves s₁ D fromXRPL k o := by
  generalize ht : o.operationType = t at h
  have hxrpl : s₁.xrplTokens = s.xrplTokens := congrArg Prod.fst hs
  cases h with
  | xrpl hr hD =>
    obtain ⟨token, htoken, rfl⟩ := exists_xrplToken hr
    exact resolves_xrpl ht (hxrpl ▸ htoken) hD ho
  | cosmos hr hD hback =>
    obtain ⟨token, htoken, rfl⟩ := exists_cosmosToken hr
    have hnone := hreg.xrpl_none hb hbridge (hreg.sound.currency _ _ hr)
    refine resolves_cosmos ht (hxrpl ▸ hnone) ?_ hD hback ho
    rw [show s₁.cosmosTokens = s.cosmosTokens from congrArg Prod.snd hs]
    exact IndexedMap.item_eq_some.mpr ⟨htoken, rfl⟩

/-- A transfer is created under a new number, and names the token that is paid. -/
theorem Contract.Effect.sends {q : Querier} {env : BlockInfo} {funds : List Coin} {deliver : Option ℕ}
    {ms : List SubMsg} (h : Effect H s q env sender funds (.sendToXRPL recipient deliver) s' ms)
    (hreg : Registered H bridge s) :
    ∃ (coin : Coin) (k : ℕ) (o : Operation), funds = [coin] ∧ s.pendingOperations[k]? = none ∧ s'.pendingOperations[k]? = some o ∧
      Names s.registry bridge coin.denom (s.xrplTokens.item coin.denom).isSome o.operationType := by
  cases h with
  | @sentXRPL _ key _ _ coin token _ _ _ _ _ s₁ _ _ hpaid htoken _ hc ho =>
    have hpending : s₁.pendingOperations = s.pendingOperations := congrArg Prod.fst (handleFeeCollection_issued hc)
    cases ho with
    | @intro k _ _ _ hun =>
      refine ⟨coin, k, _, hpaid, hpending ▸ hun, getElem?_insert_self' _ _ _, ?_⟩
      obtain ⟨hk, hD⟩ := IndexedMap.item_eq_some.mp htoken
      have hn := registry_xrpl hk
      rw [hreg.sound.xrplKey _ _ hn] at hn
      rw [htoken]
      exact .xrpl (n := token.name) hn hD
  | @sentCosmos _ coin token _ _ _ s₁ _ _ hpaid hno htoken _ hback _ hc ho =>
    have hpending : s₁.pendingOperations = s.pendingOperations := congrArg Prod.fst (handleFeeCollection_issued hc)
    cases ho with
    | @intro k _ _ _ hun =>
      refine ⟨coin, k, _, hpaid, hpending ▸ hun, getElem?_insert_self' _ _ _, ?_⟩
      have hn := registry_cosmos htoken
      rw [hno, hreg.address]
      exact .cosmos hn (hreg.sound.cosmosKey _ _ hn).symm hback

/-- **Transfers resolve**, in every run: the end of a transfer finds the token that was paid for it,
whatever happens in between and with any result; and no token of XRPL is issued by the bridge. -/
theorem transfers_resolve (hb : H.Base58Sized) (h : Started H w) (hx : w.store.config.bridgeXRPLAddress ≠ xrpIssuer)
    (calls : List Call) :
    (∀ (key : String) (token : XRPLToken), (run (step H) w calls).store.xrplTokens.primary[key]? = some token →
        token.issuer ≠ w.store.config.bridgeXRPLAddress) ∧
      ∀ pre c post w' r recipient deliver, calls = pre ++ c :: post → step H (run (step H) w pre) c = .ok (w', r) →
        c.msg = .sendToXRPL recipient deliver →
          ∃ (coin : Coin) (k : ℕ) (o : Operation), c.funds = [coin] ∧ (run (step H) w pre).store.pendingOperations[k]? = none ∧
            w'.store.pendingOperations[k]? = some o ∧
              ∀ (s₁ : Storage) (k' : ℕ) (o' : Operation), s₁.tokens = (run (step H) w calls).store.tokens →
                s₁.pendingOperations[k']? = some o' → o'.operationType = o.operationType →
                  Resolves s₁ coin.denom ((run (step H) w pre).store.xrplTokens.item coin.denom).isSome k' o' := by
  refine ⟨fun key token hk => (run_registered h calls).issuer_ne hx hk, ?_⟩
  rintro pre c post w' r recipient deliver rfl hstep hmsg
  have he := run_effect h hstep
  rw [hmsg] at he
  obtain ⟨coin, k, o, hpaid, hnone, hsome, hnames⟩ := he.sends (run_registered h pre)
  refine ⟨coin, k, o, hpaid, hnone, hsome, fun s₁ k' o' hs ho' ht => ?_⟩
  have hlater : Names (run (step H) w (pre ++ c :: post)).store.registry w.store.config.bridgeXRPLAddress coin.denom
      ((run (step H) w pre).store.xrplTokens.item coin.denom).isSome o'.operationType := by
    rw [ht]
    exact run_later h pre (P := fun s => Names s.registry _ _ _ o.operationType) hnames
      (fun hn he => hn.step he.registry) (c :: post)
  exact hlater.resolves hb (run_registered h _) (started_validBridge h) hs ho'

open Reference in
/-- The end of a transfer of XRP burns or refunds XRP. -/
theorem transfers_resolve_sent :
    let w := run (step host) world₁ [recover, vote 2 relayer₁ allocation, send 3 5000000]
    ∃ k o, w.store.pendingOperations[k]? = some o ∧ Resolves w.store xrpDenom true k o := by
  intro w
  obtain ⟨⟨w', r⟩, hstep⟩ := exists_of_isOk
    (x := step host (run (step host) world₁ [recover, vote 2 relayer₁ allocation]) (send 3 5000000)) (by decide +kernel)
  have hw : run (step host) world₁ ([recover, vote 2 relayer₁ allocation] ++ [send 3 5000000]) = w' :=
    run_snoc_ok hstep
  replace hw : w = w' := hw
  obtain ⟨coin, k, o, hpaid, -, hk, hresolves⟩ := (transfers_resolve base58Sized_host started_world₁ (by decide +kernel)
    [recover, vote 2 relayer₁ allocation, send 3 5000000]).2 [recover, vote 2 relayer₁ allocation] (send 3 5000000) []
      w' r _ none rfl hstep rfl
  have hxrp : ((run (step host) world₁ [recover, vote 2 relayer₁ allocation]).store.xrplTokens.item xrpDenom).isSome =
      true := by decide +kernel
  obtain rfl : (⟨xrpDenom, 5000000⟩ : Coin) = coin := List.singleton_inj.mp hpaid
  have hlast := hresolves w'.store k o (congrArg (fun w : World => w.store.tokens) hw.symm) hk rfl
  rw [hxrp, ← hw] at hlast
  exact ⟨k, o, hw ▸ hk, hlast⟩

end XrplBridge
