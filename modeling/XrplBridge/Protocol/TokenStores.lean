import XrplBridge.Protocol.Tokens

/-!
# What calls do to the tokens

The two registries of tokens are written by few calls: a token is registered, its state follows
its TrustSet, or the owner updates it. `TokenChange` has one case for each, with what the call
checked, and every other call leaves both as they are (`Effect.tokenChange`).
-/

namespace XrplBridge

open Library Contract Std

variable {H : Host} {s s' s₁ : Storage}

/-- Both registries. -/
def Contract.Storage.tokens (s : Storage) : XRPLTokens × CosmosTokens := (s.xrplTokens, s.cosmosTokens)

/-- What a call does to the tokens. -/
inductive TokenChange (H : Host) (s : Storage) (q : Querier) (funds : List Coin) (msg : ExecuteMsg)
    (s' : Storage) (ms : List SubMsg) : Prop
  | kept (same : s'.tokens = s.tokens)
  | registeredXRPL {issuer currency denom subdenom : String} {precision : ℤ} {maxHolding bridgingFee : ℕ}
      (asked : msg = .registerXRPLToken issuer currency precision maxHolding bridgingFee)
      (issuerValid : validateXRPLAddress H s.prohibitedXRPLAddresses issuer = .ok ())
      (currencyValid : validateXRPLCurrency currency = .ok ())
      (new : s.xrplTokens.primary[buildXRPLTokenKey issuer currency]? = none)
      (precise : validateSendingPrecision precision xrplTokensDecimals = .ok ())
      (created : denom = fullDenom s.config.tokenFactoryAddr subdenom)
      (saved : s.xrplTokens.save (buildXRPLTokenKey issuer currency)
        ⟨issuer, currency, denom, precision, maxHolding, .processing, bridgingFee⟩ = some s'.xrplTokens)
      (cosmos : s'.cosmosTokens = s.cosmosTokens) (sent : ms = plain [createDenomMsg s.config subdenom funds])
      (denomNew : s.cosmosTokens.primary[denom]? = none)
  | restated {key : String} {token : XRPLToken} {state : TokenState}
      (registered : s.xrplTokens.primary[key]? = some token)
      (saved : s.xrplTokens.save key { token with state } = some s'.xrplTokens)
      (cosmos : s'.cosmosTokens = s.cosmosTokens)
  | updatedXRPL {issuer currency : String} {update : TokenUpdate} {token token' : XRPLToken}
      (asked : msg = .updateXRPLToken issuer currency update)
      (registered : s.xrplTokens.primary[buildXRPLTokenKey issuer currency]? = some token)
      (name : token'.name = token.name)
      (precise : setTokenSendingPrecision token.sendingPrecision update.sendingPrecision
        (xrplDecimals issuer currency) = .ok token'.sendingPrecision)
      (capped : setTokenMaxHoldingAmount (q.supply token.cosmosDenom) token.maxHoldingAmount
        update.maxHoldingAmount = .ok token'.maxHoldingAmount)
      (saved : s.xrplTokens.save (buildXRPLTokenKey issuer currency) token' = some s'.xrplTokens)
      (cosmos : s'.cosmosTokens = s.cosmosTokens)
  | registeredCosmos {denom xrplCurrency : String} {decimals : ℕ} {precision : ℤ} {maxHolding bridgingFee : ℕ}
      (new : s.cosmosTokens.primary[denom]? = none) (currencyValid : validateXRPLCurrency xrplCurrency = .ok ())
      (fits : decimals ≤ maxCosmosTokenDecimals) (precise : validateSendingPrecision precision decimals = .ok ())
      (saved : s.cosmosTokens.save denom
        ⟨denom, decimals, xrplCurrency, precision, maxHolding, .enabled, bridgingFee⟩ = some s'.cosmosTokens)
      (xrpl : s'.xrplTokens = s.xrplTokens)
      (asked : msg = .registerCosmosToken denom decimals precision maxHolding bridgingFee)
  | updatedCosmos {denom : String} {update : TokenUpdate} {token token' : CosmosToken}
      (registered : s.cosmosTokens.primary[denom]? = some token) (name : token'.name = token.name)
      (precise : setTokenSendingPrecision token.sendingPrecision update.sendingPrecision token.decimals =
        .ok token'.sendingPrecision)
      (saved : s.cosmosTokens.save denom token' = some s'.cosmosTokens) (xrpl : s'.xrplTokens = s.xrplTokens)

theorem Contract.Votes.tokens {sender : Addr} {e : Evidence} {reached : Bool} (h : Votes H s sender e s' reached) :
    s'.tokens = s.tokens := by
  cases h <;> rfl

theorem handleFeeCollection_tokens {bridgingFee remainder fee : ℕ} {denom : String}
    (h : handleFeeCollection s bridgingFee denom remainder = .ok (s', fee)) : s'.tokens = s.tokens := by
  obtain ⟨⟨_, _, rfl⟩, -⟩ := handleFeeCollection_eq_ok h
  rfl

theorem Contract.Opens.tokens {timestamp : ℕ} {operationType : OperationType}
    (h : Opens s timestamp operationType s') : s'.tokens = s.tokens := by
  cases h
  rfl

theorem Contract.Registers.tokens {timestamp : ℕ} (h : Registers s timestamp s') : s'.tokens = s.tokens := by
  cases h <;> rfl

theorem endOperation_tokens (s : Storage) (result : TransactionResult) (k : ℕ) (ticket : Option ℕ) :
    (endOperation s result k ticket).tokens = s.tokens := by
  obtain ⟨_, hend⟩ := endOperation_frame s result k ticket
  rw [hend]
  rfl

theorem Contract.Settles.tokens {env : BlockInfo} {e : ResultEvidence} {k : ℕ} (h : Settles s env e k s') :
    s'.tokens = s.tokens := by
  cases h with
  | registered _ _ hr => rw [hr.tokens, endOperation_tokens]
  | unregistered => exact endOperation_tokens ..

/-- The end of a TrustSet sets the state of its token. -/
theorem Contract.Handled.tokenChange {o : Operation} {operationResult : Option OperationResult}
    {result : TransactionResult} {txHash : Option String} {tokenFactoryAddr burnAddr : Addr} {msgs : List CosmosMsg}
    {q : Querier} {funds : List Coin} {msg : ExecuteMsg} {ms : List SubMsg}
    (h : Handled s₁ o operationResult result txHash tokenFactoryAddr burnAddr s' msgs)
    (hsame : s₁.tokens = s.tokens) {s₂ : Storage} (hend : s₂.tokens = s'.tokens) :
    TokenChange H s q funds msg s₂ ms := by
  cases h with
  | trustSet _ hr hsave =>
    rw [show s₁.xrplTokens = s.xrplTokens from congrArg Prod.fst hsame] at hr hsave
    exact .restated hr (hsave.trans (congrArg (fun t => some t.1) hend.symm)) ((congrArg Prod.snd hend).trans (congrArg Prod.snd hsame))
  | _ => exact .kept (hend.trans hsame)

/-- **What every call does to the tokens.** -/
theorem Contract.Effect.tokenChange {q : Querier} {env : BlockInfo} {sender : Addr} {funds : List Coin}
    {msg : ExecuteMsg} {ms : List SubMsg} (h : Effect H s q env sender funds msg s' ms) :
    TokenChange H s q funds msg s' ms := by
  cases h with
  | voted _ hv => exact .kept hv.tokens
  | receivedXRPL _ hv _ _ _ hc => exact .kept ((handleFeeCollection_tokens hc).trans hv.tokens)
  | receivedCosmos _ hv _ _ _ hc => exact .kept ((handleFeeCollection_tokens hc).trans hv.tokens)
  | completed _ _ hv _ _ _ hh hset => exact hh.tokenChange hv.tokens hset.tokens
  | cancelled _ hh => exact hh.tokenChange rfl (endOperation_tokens ..)
  | sentXRPL _ _ _ hc ho => exact .kept (ho.tokens.trans (handleFeeCollection_tokens hc))
  | sentCosmos _ _ _ _ _ _ hc ho => exact .kept (ho.tokens.trans (handleFeeCollection_tokens hc))
  | registeredXRPL hi hcur hnew hdenom hsave ho hprecise hcreated =>
    exact .registeredXRPL rfl hi hcur hnew hprecise hcreated
      (hsave.trans (congrArg (fun t => some t.1) ho.tokens.symm)) (congrArg Prod.snd ho.tokens) rfl
      hdenom
  | recoveredXRPL hr hsave ho =>
    exact .restated hr (hsave.trans (congrArg (fun t => some t.1) ho.tokens.symm)) (congrArg Prod.snd ho.tokens)
  | rotating _ _ ho => exact .kept ho.tokens
  | registeredCosmos hnew hcur hsave _ hfits hprecise => exact .registeredCosmos hnew hcur hfits hprecise hsave rfl rfl
  | updatedXRPL hr hsame hsave _ _ hprecise hcapped =>
    exact .updatedXRPL rfl hr (by simp only [XRPLToken.name, hsame]) hprecise hcapped hsave rfl
  | updatedCosmos hr hsame hsave _ hprecise =>
    exact .updatedCosmos hr (by simp only [CosmosToken.name, hsame]) hprecise hsave rfl
  | claimedFees _ ht =>
    obtain ⟨⟨_, rfl⟩, -⟩ := substractRelayerFees_eq_ok ht
    exact .kept rfl
  | _ => exact .kept rfl

/-! ### Where an entry comes from -/

/-- The entry of a token of XRPL after a call: it is new, or made of the entry from before. -/
inductive XRPLEntry (s : Storage) (q : Querier) (funds : List Coin) (msg : ExecuteMsg) (ms : List SubMsg) :
    String → XRPLToken → Prop
  | kept {key : String} {token : XRPLToken} (registered : s.xrplTokens.primary[key]? = some token) :
      XRPLEntry s q funds msg ms key token
  | registered {issuer currency denom subdenom : String} {precision : ℤ} {maxHolding bridgingFee : ℕ}
      (currencyValid : validateXRPLCurrency currency = .ok ())
      (precise : validateSendingPrecision precision xrplTokensDecimals = .ok ())
      (created : denom = fullDenom s.config.tokenFactoryAddr subdenom)
      (sent : ms = plain [createDenomMsg s.config subdenom funds]) :
      XRPLEntry s q funds msg ms (buildXRPLTokenKey issuer currency)
        ⟨issuer, currency, denom, precision, maxHolding, .processing, bridgingFee⟩
  | restated {key : String} {token : XRPLToken} {state : TokenState}
      (registered : s.xrplTokens.primary[key]? = some token) : XRPLEntry s q funds msg ms key { token with state }
  | updated {issuer currency : String} {update : TokenUpdate} {token token' : XRPLToken}
      (asked : msg = .updateXRPLToken issuer currency update)
      (registered : s.xrplTokens.primary[buildXRPLTokenKey issuer currency]? = some token)
      (name : token'.name = token.name)
      (precise : setTokenSendingPrecision token.sendingPrecision update.sendingPrecision
        (xrplDecimals issuer currency) = .ok token'.sendingPrecision)
      (capped : setTokenMaxHoldingAmount (q.supply token.cosmosDenom) token.maxHoldingAmount
        update.maxHoldingAmount = .ok token'.maxHoldingAmount) :
      XRPLEntry s q funds msg ms (buildXRPLTokenKey issuer currency) token'

theorem TokenChange.xrplEntry {q : Querier} {funds : List Coin} {msg : ExecuteMsg} {ms : List SubMsg} {key : String}
    {token : XRPLToken} (h : TokenChange H s q funds msg s' ms) (hk : s'.xrplTokens.primary[key]? = some token) :
    XRPLEntry s q funds msg ms key token := by
  cases h with
  | kept hsame =>
    rw [show s'.xrplTokens = s.xrplTokens from congrArg Prod.fst hsame] at hk
    exact .kept hk
  | registeredXRPL _ _ hcurrency _ hprecise hcreated hsave _ hsent =>
    rw [(IndexedMap.save_eq_some hsave).1] at hk
    rcases getElem?_of_insert hk with ⟨rfl, rfl⟩ | ⟨-, hold⟩
    · exact .registered hcurrency hprecise hcreated hsent
    · exact .kept hold
  | restated hr hsave =>
    rw [(IndexedMap.save_eq_some hsave).1] at hk
    rcases getElem?_of_insert hk with ⟨rfl, rfl⟩ | ⟨-, hold⟩
    · exact .restated hr
    · exact .kept hold
  | updatedXRPL hasked hr hname hprecise hcapped hsave =>
    rw [(IndexedMap.save_eq_some hsave).1] at hk
    rcases getElem?_of_insert hk with ⟨rfl, rfl⟩ | ⟨-, hold⟩
    · exact .updated hasked hr hname hprecise hcapped
    · exact .kept hold
  | registeredCosmos _ _ _ _ _ hxrpl => exact .kept (hxrpl ▸ hk)
  | updatedCosmos _ _ _ _ hxrpl => exact .kept (hxrpl ▸ hk)

end XrplBridge
