import XrplBridge.Protocol.Keys
import XrplBridge.Protocol.Operations
import XrplBridge.Protocol.Outgoing

/-!
# Transfers are payments

A transfer that is pending is signed by the relayers and submitted to XRPL as a payment. If it could not be
one, the ticket and the fee of the transaction would be lost, and the sender would have to wait for the
refund. So is everything in order that XRPL looks at? A payment is to a valid address that is not the
sender's own, which is the bridge; it is of XRP, or of a currency of an issuer; XRP is sent without a
maximum, everything else with one that covers it; and the amounts have no more digits than XRPL holds
(`Payment`).

All of this is checked when coins are sent, but for what is known of the token: the names of registered
tokens are valid (`Registered`), and what is left of a token of Cosmos in the decimals of XRPL is not zero,
since its sending precision is within the decimals (`run_preciseCosmos`). `transfers_payable` is the result
for every transfer that is ever pending.
-/

namespace XrplBridge

open Library Contract Std

/-- A payment on XRPL from the bridge. -/
structure Payment (H : Host) (bridge issuer currency : String) (amount : ℕ) (maxAmount : Option ℕ)
    (recipient : String) : Prop where
  recipientValid : validateXRPLAddressFormat H recipient = .ok ()
  notSelf : recipient ≠ bridge
  /-- XRP, or a currency of an issuer. -/
  asset : issuer = xrpIssuer ∧ currency = xrpCurrency ∨
    validateXRPLAddressFormat H issuer = .ok () ∧ validateXRPLCurrency currency = .ok ()
  /-- XRP has no maximum, and everything else has one. -/
  noMax : maxAmount = none ↔ issuer = xrpIssuer ∧ currency = xrpCurrency
  pos : 0 < amount
  le_max : ∀ m ∈ maxAmount, amount ≤ m
  digits : Significant 10 xrplMaxTruncatedAmountLength amount
  digits_max : ∀ m ∈ maxAmount, Significant 10 xrplMaxTruncatedAmountLength m

/-- A transfer is a payment. -/
def Contract.OperationType.Payable (H : Host) (bridge : String) : OperationType → Prop
  | .cosmosToXRPLTransfer issuer currency amount maxAmount _ recipient =>
    Payment H bridge issuer currency amount maxAmount recipient
  | _ => True

variable {H : Host} {s s' : Storage} {q : Querier} {env : BlockInfo} {sender : Addr} {bridge : String} {w : World}

/-! ### Amounts -/

/-- What is cut to the same unit stays in order. -/
theorem truncateAmount_mono {precision : ℤ} {decimals amount amount' a a' r r' : ℕ} (hle : amount ≤ amount')
    (h : truncateAmount precision decimals amount = .ok (a, r))
    (h' : truncateAmount precision decimals amount' = .ok (a', r')) : a ≤ a' := by
  rw [truncateAmount_value h, truncateAmount_value h']
  exact Nat.mul_le_mul_right _ (Nat.div_le_div_right hle)

/-- What a transfer's amounts have to be, apart from their digits. -/
structure Amounts (out : Outgoing) : Prop where
  pos : 0 < out.amountToSend
  le_max : ∀ m ∈ out.maxAmount, out.amountToSend ≤ m

theorem sendXRPLOriginated_amounts {token : XRPLToken} {funds : Coin} {deliver : Option ℕ} {out : Outgoing}
    (h : sendXRPLOriginated s token funds deliver = .ok (s', out)) :
    out.issuer = token.issuer ∧ out.currency = token.currency ∧
      (out.maxAmount = none ↔ isTokenXRP token.issuer token.currency = true) ∧ Amounts out ∧
        s'.pendingOperations = s.pendingOperations := by
  simp only [sendXRPLOriginated, bind_eq_ok, failIf_eq_ok, pure_eq_ok, Prod.mk.injEq] at h
  obtain ⟨_, -, _, hxrp, -, -, afterFees, -, ⟨most, rest⟩, ht, ⟨a, max⟩, hd, ⟨s₁, fee⟩, hfee, rfl, rfl⟩ := h
  obtain ⟨⟨_, _, rfl⟩, -⟩ := handleFeeCollection_eq_ok hfee
  refine ⟨rfl, rfl, ?_⟩
  cases deliver with
  | some d =>
    simp only [deliverAmounts, bind_eq_ok, failIf_eq_ok, pure_eq_ok, Prod.mk.injEq] at hd
    obtain ⟨_, hle, ⟨t, _⟩, htd, rfl, rfl⟩ := hd
    have hnot : isTokenXRP token.issuer token.currency = false := by simpa using hxrp
    refine ⟨by simp [hnot], ⟨(truncateAmount_eq_ok htd).2.1, fun m hm => ?_⟩, rfl⟩
    cases hm
    exact truncateAmount_mono (Nat.not_lt.mp hle) htd ht
  | none =>
    simp only [deliverAmounts, Except.ok.injEq, Prod.mk.injEq] at hd
    obtain ⟨rfl, rfl⟩ := hd
    refine ⟨by simp, ⟨(truncateAmount_eq_ok ht).2.1, fun m hm => ?_⟩, rfl⟩
    dsimp only at hm ⊢
    split_ifs at hm
    · cases hm
    · cases hm
      exact le_rfl

theorem sendCosmosToXRPL_amounts {funds : Coin} {deliver : Option ℕ} {out : Outgoing}
    (hprecise : ∀ (key : String) (token : CosmosToken), s.cosmosTokens.primary[key]? = some token →
      PreciseFor token.sendingPrecision token.decimals)
    (h : sendCosmosToXRPL s q funds deliver = .ok (s', out)) :
    ∃ token, s.cosmosTokens.primary[funds.denom]? = some token ∧ out.issuer = s.config.bridgeXRPLAddress ∧
      out.currency = token.xrplCurrency ∧ out.maxAmount ≠ none ∧ Amounts out ∧
        s'.pendingOperations = s.pendingOperations := by
  simp only [sendCosmosToXRPL, bind_eq_ok, orFail_eq_ok, failIf_eq_ok, pure_eq_ok, Prod.mk.injEq] at h
  obtain ⟨token, htoken, _, -, _, -, -, -, ⟨a, rest⟩, ht, ⟨s₁, fee⟩, hfee, _, -, rfl, rfl⟩ := h
  obtain ⟨⟨_, _, rfl⟩, -⟩ := handleFeeCollection_eq_ok hfee
  have hpos := (truncateAndConvertAmount_rounded (hprecise _ _ htoken) ht).2.2
  refine ⟨token, htoken, rfl, rfl, by simp, ⟨hpos, fun m hm => ?_⟩, rfl⟩
  cases hm
  exact le_rfl

/-! ### The asset that is sent -/

/-- What is sent is XRP, or a currency of an issuer, and only XRP has no maximum. -/
structure Asset (H : Host) (out : Outgoing) : Prop where
  named : out.issuer = xrpIssuer ∧ out.currency = xrpCurrency ∨
    validateXRPLAddressFormat H out.issuer = .ok () ∧ validateXRPLCurrency out.currency = .ok ()
  noMax : out.maxAmount = none ↔ out.issuer = xrpIssuer ∧ out.currency = xrpCurrency

/-- The names of a registered token are checked when it is registered. -/
theorem Registered.asset_xrpl {denom key : String} {token : XRPLToken} {out : Outgoing} (hreg : Registered H bridge s)
    (htoken : s.xrplTokens.item denom = some (key, token)) (hissuer : out.issuer = token.issuer)
    (hcurrency : out.currency = token.currency)
    (hmax : out.maxAmount = none ↔ isTokenXRP token.issuer token.currency = true) : Asset H out := by
  have hname := registry_xrpl (IndexedMap.item_eq_some.mp htoken).1
  refine ⟨?_, ?_⟩
  · rw [hissuer, hcurrency]
    rcases hreg.sound.foreign key _ hname with hxrp | ⟨hvalid, -, hvalid'⟩
    · exact .inl hxrp
    · exact .inr ⟨hvalid, hvalid'⟩
  · rw [hmax, hissuer, hcurrency]
    simp [isTokenXRP]

/-- The issuer of a token of Cosmos is the bridge, and its currency is made up to be valid. -/
theorem Registered.asset_cosmos {denom : String} {token : CosmosToken} {out : Outgoing} (hreg : Registered H bridge s)
    (hformat : validateXRPLAddressFormat H bridge = .ok ()) (htoken : s.cosmosTokens.primary[denom]? = some token)
    (hissuer : out.issuer = s.config.bridgeXRPLAddress) (hcurrency : out.currency = token.xrplCurrency)
    (hmax : out.maxAmount ≠ none) : Asset H out := by
  have hvalid : validateXRPLCurrency out.currency = .ok () := by
    rw [hcurrency]
    exact hreg.sound.currency denom _ (registry_cosmos htoken)
  refine ⟨.inr ⟨?_, hvalid⟩, iff_of_false hmax fun hxrp => (size_of_validCurrency hvalid).2 hxrp.2⟩
  rwa [hissuer, hreg.address]

/-! ### A call -/

section Call

variable {funds : List Coin} {recipient : String} {deliver : Option ℕ} {r : Response} {k : ℕ} {o : Operation}
  {msg : ExecuteMsg}

/-- Coins are sent as a payment. -/
theorem sendToXRPL_payable (hreg : Registered H bridge s) (hformat : validateXRPLAddressFormat H bridge = .ok ())
    (hprecise : ∀ (key : String) (token : CosmosToken), s.cosmosTokens.primary[key]? = some token →
      PreciseFor token.sendingPrecision token.decimals)
    (h : sendToXRPL H s q env sender funds recipient deliver = .ok (s', r)) (hk : s'.pendingOperations[k]? = some o) :
    s.pendingOperations[k]? = some o ∨ o.operationType.Payable H bridge := by
  simp only [sendToXRPL, bind_eq_ok, pure_eq_ok, Prod.mk.injEq] at h
  obtain ⟨_, -, coin, -, _, hrecipient, _, -, ⟨s₁, out⟩, hout, _, hamount, _, hmax, ⟨t, s₂⟩, halloc, s₃, hcreate, rfl,
    -⟩ := h
  obtain ⟨hasset, hamounts, hpending⟩ : Asset H out ∧ Amounts out ∧ s₁.pendingOperations = s.pendingOperations := by
    split at hout
    · rename_i key token htoken
      obtain ⟨hissuer, hcurrency, hnone, hamounts, hpending⟩ := sendXRPLOriginated_amounts hout
      exact ⟨hreg.asset_xrpl htoken hissuer hcurrency hnone, hamounts, hpending⟩
    · obtain ⟨token, htoken, hissuer, hcurrency, hsome, hamounts, hpending⟩ := sendCosmosToXRPL_amounts hprecise hout
      exact ⟨hreg.asset_cosmos hformat htoken hissuer hcurrency hsome, hamounts, hpending⟩
  rcases (opens_of_ok halloc hcreate).operation hk with ⟨-, rfl⟩ | hold
  · obtain ⟨hvalid, hallowed⟩ := validateXRPLAddress_eq_ok H hrecipient
    exact .inr {
      recipientValid := hvalid
      -- the bridge's own address is prohibited
      notSelf := fun hself => by
        rw [hself, show s.prohibitedXRPLAddresses.contains bridge = true from hreg.sound.prohibited] at hallowed
        cases hallowed
      asset := hasset.named
      noMax := hasset.noMax
      pos := hamounts.pos
      le_max := hamounts.le_max
      digits := validateXRPLAmount_eq_ok_iff.mp hamount
      digits_max := validateMaxAmount_eq_ok_iff.mp hmax }
  · exact .inl (hpending ▸ hold)

/-- An operation without a sender is no transfer. -/
theorem Contract.OperationType.payable_of_sender_none {t : OperationType} (h : t.sender = none) :
    t.Payable H bridge := by
  cases t with
  | cosmosToXRPLTransfer => cases h
  | _ => trivial

/-- A call leaves the transfers payments. -/
theorem payable_step (hreg : Registered H bridge s) (hformat : validateXRPLAddressFormat H bridge = .ok ())
    (hprecise : ∀ (key : String) (token : CosmosToken), s.cosmosTokens.primary[key]? = some token →
      PreciseFor token.sendingPrecision token.decimals)
    (hall : ∀ (k : ℕ) (o : Operation), s.pendingOperations[k]? = some o → o.operationType.Payable H bridge)
    (h : execute H s q env sender funds msg = .ok (s', r)) (hk : s'.pendingOperations[k]? = some o) :
    o.operationType.Payable H bridge := by
  cases (effect_of_execute h).origin hk with
  | kept hold _ htype =>
    rw [htype]
    exact hall k _ hold
  | created _ _ htransfer =>
    cases hsender : o.operationType.sender with
    | none => exact OperationType.payable_of_sender_none hsender
    | some a =>
      obtain ⟨-, -, recipient, deliver, rfl⟩ := htransfer a hsender
      rcases sendToXRPL_payable hreg hformat hprecise h hk with hold | hnew
      · exact hall k o hold
      · exact hnew

end Call

/-! ### In every run -/

/-- **Every transfer is a payment.** Whatever calls are made, by whomever and in whatever order, a transfer
that is pending can be submitted to XRPL: it goes to a valid address other than the bridge's own, it is of
XRP or of a valid currency of a valid issuer, it has a maximum unless it is of XRP, its amount is positive
and at most the maximum, and both have at most 16 significant digits. -/
theorem transfers_payable (h : Started H w) (calls : List Call) :
    ∀ (k : ℕ) (o : Operation), (run (step H) w calls).store.pendingOperations[k]? = some o →
      o.operationType.Payable H w.store.config.bridgeXRPLAddress := by
  refine run_induction (P := fun _ (w' : World) => ∀ (k : ℕ) (o : Operation),
    w'.store.pendingOperations[k]? = some o → o.operationType.Payable H w.store.config.bridgeXRPLAddress) ?_ ?_ ?_ calls
  · intro k o hk
    obtain ⟨_, _, -, -, -, -, hs⟩ := started_eq h
    simp [hs, initialStorage] at hk
  · intro calls c w' r hall hstep k o hk
    have hx := execute_of_step (run_tempUniversalSwap h calls) hstep
    refine payable_step (run_registered h calls) ?_ (run_preciseCosmos h calls) hall hx hk
    rw [← (run_registered h calls).address]
    exact run_bridgeFormat h calls
  · intro _ _ _ hall _
    exact hall

open Reference in
/-- Five XRP, sent once there are tickets. -/
theorem transfers_payable_xrp :
    Payment host world₁.store.config.bridgeXRPLAddress xrpIssuer xrpCurrency 5000000 none relayer₃.xrplAddress := by
  have hsent : ((run (step host) world₁ [recover, vote 2 relayer₁ allocation,
      send 3 5000000]).store.pendingOperations[1]?).map Operation.operationType =
        some (.cosmosToXRPLTransfer xrpIssuer xrpCurrency 5000000 none user relayer₃.xrplAddress) := by
    decide +kernel
  obtain ⟨o, hk, ho⟩ := Option.map_eq_some_iff.mp hsent
  have hpay := transfers_payable started_world₁ _ 1 o hk
  rwa [ho] at hpay

end XrplBridge
