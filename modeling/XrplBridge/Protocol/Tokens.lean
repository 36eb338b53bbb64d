import XrplBridge.Protocol.Books

/-!
# The registered tokens

The registries keep every token that has been registered, under its key and with what
identifies it: on XRPL its issuer and currency, on Cosmos its denom and decimals. A token
of XRPL never has the bridge's own account as its issuer, which is the issuer of the tokens
of Cosmos on XRPL.

An operation is only created on registered tokens (`Effect.covers`), so a pending TrustSet
or transfer always finds the token it is about (`run_registered`).
-/

namespace XrplBridge

open Library Contract Std

/-- What identifies a token that originates on XRPL. -/
structure XRPLName where
  issuer : String
  currency : String
  cosmosDenom : String
  deriving DecidableEq, Repr

/-- What identifies a token that originates on Cosmos. -/
structure CosmosName where
  denom : String
  decimals : ℕ
  xrplCurrency : String
  deriving DecidableEq, Repr

/-- What identifies the token. -/
def Contract.XRPLToken.name (t : XRPLToken) : XRPLName := ⟨t.issuer, t.currency, t.cosmosDenom⟩

/-- What identifies the token. -/
def Contract.CosmosToken.name (t : CosmosToken) : CosmosName := ⟨t.denom, t.decimals, t.xrplCurrency⟩

/-- The registered tokens, by the keys of the contract's two registries, and the addresses
that cannot issue a token. -/
structure Registry where
  xrpl : ExtTreeMap String XRPLName
  cosmos : ExtTreeMap String CosmosName
  prohibited : ExtTreeMap String Unit

/-- The tokens the contract has registered. -/
def Contract.Storage.registry (s : Storage) : Registry where
  xrpl := s.xrplTokens.primary.map fun _ t => t.name
  cosmos := s.cosmosTokens.primary.map fun _ t => t.name
  prohibited := s.prohibitedXRPLAddresses

namespace Registry

/-- One step: at most one token is registered, and none is taken out; the bridge's own address
stays prohibited. -/
inductive Step (H : Host) (bridge : String) (g : Registry) : Registry → Prop
  | kept : Step H bridge g g
  | xrpl {n : XRPLName} (issuerValid : validateXRPLAddress H g.prohibited n.issuer = .ok ())
      (currencyValid : validateXRPLCurrency n.currency = .ok ())
      (new : g.xrpl[buildXRPLTokenKey n.issuer n.currency]? = none) :
      Step H bridge g { g with xrpl := g.xrpl.insert (buildXRPLTokenKey n.issuer n.currency) n }
  | cosmos {n : CosmosName} (currencyValid : validateXRPLCurrency n.xrplCurrency = .ok ())
      (new : g.cosmos[n.denom]? = none) :
      Step H bridge g { g with cosmos := g.cosmos.insert n.denom n }
  | prohibited {addresses : ExtTreeMap String Unit} (own : addresses.contains bridge = true) :
      Step H bridge g { g with prohibited := addresses }

/-- The tokens are kept under their own keys, and none of XRPL is the bridge's own. -/
structure Sound (H : Host) (bridge : String) (g : Registry) : Prop where
  prohibited : g.prohibited.contains bridge = true
  xrplKey : ∀ (key : String) (n : XRPLName), g.xrpl[key]? = some n → key = buildXRPLTokenKey n.issuer n.currency
  cosmosKey : ∀ (key : String) (n : CosmosName), g.cosmos[key]? = some n → key = n.denom
  /-- Apart from XRP itself, a token has a valid issuer that is not the bridge. -/
  foreign : ∀ (key : String) (n : XRPLName), g.xrpl[key]? = some n →
    n.issuer = xrpIssuer ∧ n.currency = xrpCurrency ∨
      validateXRPLAddressFormat H n.issuer = .ok () ∧ n.issuer ≠ bridge ∧ validateXRPLCurrency n.currency = .ok ()
  /-- The currency of a token of Cosmos on XRPL is valid. -/
  currency : ∀ (key : String) (n : CosmosName), g.cosmos[key]? = some n →
    validateXRPLCurrency n.xrplCurrency = .ok ()

/-- The tokens an operation is about are registered; what a transfer of a token of Cosmos
sends can be converted back. -/
inductive Covers (g : Registry) (bridge : String) : OperationType → Prop
  | allocateTickets {number : ℕ} : Covers g bridge (.allocateTickets number)
  | rotateKeys {newRelayers : List Relayer} {threshold : ℕ} : Covers g bridge (.rotateKeys newRelayers threshold)
  | trustSet {issuer currency : String} {limit : ℕ} {n : XRPLName}
      (registered : g.xrpl[buildXRPLTokenKey issuer currency]? = some n) :
      Covers g bridge (.trustSet issuer currency limit)
  | xrplTransfer {issuer currency recipient : String} {amount : ℕ} {maxAmount : Option ℕ} {sender : Addr}
      {n : XRPLName} (registered : g.xrpl[buildXRPLTokenKey issuer currency]? = some n) :
      Covers g bridge (.cosmosToXRPLTransfer issuer currency amount maxAmount sender recipient)
  | cosmosTransfer {n : CosmosName} {amount : ℕ} {sender : Addr} {recipient : String}
      (registered : g.cosmos[n.denom]? = some n)
      (returnable : convertAmountDecimals xrplTokensDecimals n.decimals amount =
        .ok (fromXRPLDecimals n.decimals amount))
      (whole : WholeInCosmos n.decimals amount) :
      Covers g bridge (.cosmosToXRPLTransfer bridge n.xrplCurrency amount (some amount) sender recipient)

variable {H : Host} {bridge : String} {g g' : Registry}

theorem Step.xrpl_mono (h : g.Step H bridge g') {key : String} {n : XRPLName} (hn : g.xrpl[key]? = some n) :
    g'.xrpl[key]? = some n := by
  cases h with
  | xrpl _ _ hnew =>
    rw [← hn]
    exact getElem?_insert_ne fun heq => by rw [heq, hn] at hnew; cases hnew
  | _ => exact hn

theorem Step.cosmos_mono (h : g.Step H bridge g') {key : String} {n : CosmosName}
    (hn : g.cosmos[key]? = some n) : g'.cosmos[key]? = some n := by
  cases h with
  | cosmos _ hnew =>
    rw [← hn]
    exact getElem?_insert_ne fun heq => by rw [heq, hn] at hnew; cases hnew
  | _ => exact hn

/-- A token that is registered in a step is not one of the bridge's own. -/
theorem Sound.step (h : g.Sound H bridge) (hs : g.Step H bridge g') : g'.Sound H bridge := by
  cases hs with
  | kept => exact h
  | prohibited hown => exact ⟨hown, h.xrplKey, h.cosmosKey, h.foreign, h.currency⟩
  | @xrpl n hissuer hcur =>
    refine ⟨h.prohibited, fun key m hm => ?_, h.cosmosKey, fun key m hm => ?_, h.currency⟩
    · rcases getElem?_of_insert hm with ⟨rfl, rfl⟩ | ⟨-, hold⟩
      · rfl
      · exact h.xrplKey key m hold
    · rcases getElem?_of_insert hm with ⟨rfl, rfl⟩ | ⟨-, hold⟩
      · obtain ⟨hformat, hallowed⟩ := validateXRPLAddress_eq_ok H hissuer
        refine .inr ⟨hformat, ?_, hcur⟩
        intro heq
        rw [heq, h.prohibited] at hallowed
        cases hallowed
      · exact h.foreign key m hold
  | @cosmos n hcur =>
    refine ⟨h.prohibited, h.xrplKey, fun key m hm => ?_, h.foreign, fun key m hm => ?_⟩
    · rcases getElem?_of_insert hm with ⟨rfl, rfl⟩ | ⟨-, hold⟩
      · rfl
      · exact h.cosmosKey key m hold
    · rcases getElem?_of_insert hm with ⟨rfl, rfl⟩ | ⟨-, hold⟩
      · exact hcur
      · exact h.currency key m hold

/-- What has been registered stays so. -/
theorem Covers.step {operationType : OperationType} (h : g.Covers bridge operationType)
    (hs : g.Step H bridge g') : g'.Covers bridge operationType := by
  cases h with
  | allocateTickets => exact .allocateTickets
  | rotateKeys => exact .rotateKeys
  | trustSet hr => exact .trustSet (hs.xrpl_mono hr)
  | xrplTransfer hr => exact .xrplTransfer (hs.xrpl_mono hr)
  | cosmosTransfer hr hb hw => exact .cosmosTransfer (hs.cosmos_mono hr) hb hw

end Registry

/-! ### The contract's registries -/

section Frames

variable {H : Host} {s s' s₁ : Storage}

theorem registry_xrpl {key : String} {token : XRPLToken} (h : s.xrplTokens.primary[key]? = some token) :
    s.registry.xrpl[key]? = some token.name := by
  rw [Storage.registry, getElem?_map_const, h]
  rfl

theorem registry_cosmos {key : String} {token : CosmosToken} (h : s.cosmosTokens.primary[key]? = some token) :
    s.registry.cosmos[key]? = some token.name := by
  rw [Storage.registry, getElem?_map_const, h]
  rfl

theorem exists_xrplToken {key : String} {n : XRPLName} (h : s.registry.xrpl[key]? = some n) :
    ∃ token, s.xrplTokens.primary[key]? = some token ∧ token.name = n := by
  rwa [Storage.registry, getElem?_map_const, Option.map_eq_some_iff] at h

theorem exists_cosmosToken {key : String} {n : CosmosName} (h : s.registry.cosmos[key]? = some n) :
    ∃ token, s.cosmosTokens.primary[key]? = some token ∧ token.name = n := by
  rwa [Storage.registry, getElem?_map_const, Option.map_eq_some_iff] at h

theorem registry_xrpl_none {key : String} (h : s.xrplTokens.primary[key]? = none) :
    s.registry.xrpl[key]? = none := by
  rw [Storage.registry, getElem?_map_const, h]
  rfl

/-- A token that is saved with its name unchanged leaves the registry as it was. -/
theorem registry_saveXRPL {key : String} {token token' : XRPLToken} {xrplTokens : XRPLTokens}
    (hold : s.xrplTokens.primary[key]? = some token)
    (hsave : s.xrplTokens.save key token' = some xrplTokens) (hname : token'.name = token.name) :
    ({ s with xrplTokens := xrplTokens } : Storage).registry = s.registry := by
  simp only [Storage.registry, (IndexedMap.save_eq_some hsave).1, map_insert_same hold hname]

theorem registry_saveCosmos {key : String} {token token' : CosmosToken} {cosmosTokens : CosmosTokens}
    (hold : s.cosmosTokens.primary[key]? = some token)
    (hsave : s.cosmosTokens.save key token' = some cosmosTokens) (hname : token'.name = token.name) :
    ({ s with cosmosTokens := cosmosTokens } : Storage).registry = s.registry := by
  simp only [Storage.registry, (IndexedMap.save_eq_some hsave).1, map_insert_same hold hname]

theorem Contract.Votes.registry {sender : Addr} {evidence : Evidence} {reached : Bool}
    (h : Votes H s sender evidence s' reached) : s'.registry = s.registry := by
  cases h <;> rfl

theorem handleFeeCollection_registry {bridgingFee remainder fee : ℕ} {denom : String}
    (h : handleFeeCollection s bridgingFee denom remainder = .ok (s', fee)) : s'.registry = s.registry := by
  obtain ⟨⟨_, _, rfl⟩, -⟩ := handleFeeCollection_eq_ok h
  rfl

theorem Contract.Opens.registry {timestamp : ℕ} {operationType : OperationType}
    (h : Opens s timestamp operationType s') : s'.registry = s.registry := by
  cases h; rfl

theorem Contract.Registers.registry {timestamp : ℕ} (h : Registers s timestamp s') : s'.registry = s.registry := by
  cases h <;> rfl

theorem endOperation_registry (s : Storage) (result : TransactionResult) (k : ℕ) (ticket : Option ℕ) :
    (endOperation s result k ticket).registry = s.registry := by
  obtain ⟨_, hend⟩ := endOperation_frame s result k ticket
  rw [hend]
  rfl

theorem Contract.Settles.registry {env : BlockInfo} {e : ResultEvidence} {k : ℕ} (h : Settles s env e k s') :
    s'.registry = s.registry := by
  cases h with
  | registered _ _ hr => rw [hr.registry, endOperation_registry]
  | unregistered => exact endOperation_registry ..

theorem Contract.Handled.registry {o : Operation} {operationResult : Option OperationResult}
    {result : TransactionResult} {txHash : Option String} {tokenFactoryAddr burnAddr : Addr}
    {msgs : List CosmosMsg} (h : Handled s o operationResult result txHash tokenFactoryAddr burnAddr s' msgs) :
    s'.registry = s.registry := by
  cases h with
  | trustSet _ hold hsave => exact registry_saveXRPL hold hsave rfl
  | _ => rfl

/-- **Tokens are only added to the registries.** -/
theorem Contract.Effect.registry {q : Querier} {env : BlockInfo} {sender : Addr} {funds : List Coin}
    {msg : ExecuteMsg} {ms : List SubMsg} (h : Effect H s q env sender funds msg s' ms) :
    s.registry.Step H s.config.bridgeXRPLAddress s'.registry := by
  cases h with
  | voted _ hv => rw [hv.registry]; exact .kept
  | receivedXRPL _ hv _ _ _ hc => rw [handleFeeCollection_registry hc, hv.registry]; exact .kept
  | receivedCosmos _ hv _ _ _ hc => rw [handleFeeCollection_registry hc, hv.registry]; exact .kept
  | completed _ _ hv _ _ _ hh hs => rw [hs.registry, hh.registry, hv.registry]; exact .kept
  | cancelled _ hh => rw [endOperation_registry, hh.registry]; exact .kept
  | sentXRPL _ _ _ hc ho => rw [ho.registry, handleFeeCollection_registry hc]; exact .kept
  | sentCosmos _ _ _ _ _ _ hc ho => rw [ho.registry, handleFeeCollection_registry hc]; exact .kept
  | @registeredXRPL issuer currency denom _ _ _ _ _ _ hissuer hcur hnew _ hsave ho =>
    rw [ho.registry]
    simp only [Storage.registry, (IndexedMap.save_eq_some hsave).1, map_insert]
    exact .xrpl (n := ⟨issuer, currency, denom⟩) hissuer hcur (registry_xrpl_none hnew)
  | recoveredXRPL hold hsave ho => rw [ho.registry, registry_saveXRPL hold hsave rfl]; exact .kept
  | rotating _ _ ho => rw [ho.registry]; exact .kept
  | @registeredCosmos denom xrplCurrency decimals _ _ _ _ hnew hcur hsave =>
    simp only [Storage.registry, (IndexedMap.save_eq_some hsave).1, map_insert]
    refine .cosmos (n := ⟨denom, decimals, xrplCurrency⟩) hcur ?_
    rw [getElem?_map_const]
    exact congrArg _ hnew
  | updatedXRPL hold hsame hsave =>
    rw [registry_saveXRPL hold hsave (by simp only [XRPLToken.name, hsame])]
    exact .kept
  | updatedCosmos hold hsame hsave =>
    rw [registry_saveCosmos hold hsave (by simp only [CosmosToken.name, hsame])]
    exact .kept
  | claimedFees _ ht =>
    obtain ⟨⟨_, rfl⟩, -⟩ := substractRelayerFees_eq_ok ht
    exact .kept
  | prohibited hown => exact .prohibited hown
  | _ => exact .kept

/-! ### What operations are created on -/

/-- Every pending operation is about registered tokens. -/
def Contract.Storage.Covered (s : Storage) (bridge : String) : Prop :=
  ∀ (k : ℕ) (e : Entry), s.books.pending[k]? = some e → s.registry.Covers bridge e.operationType

/-- The operation that is created on the ticket at the front is the only new one. -/
theorem Contract.Opens.covers {timestamp : ℕ} {operationType : OperationType} {bridge : String}
    (ho : Opens s₁ timestamp operationType s') (hold : s₁.Covered bridge)
    (hnew : s₁.registry.Covers bridge operationType) : s'.Covered bridge := by
  intro k e he
  rw [ho.registry]
  rcases ho.pending he with ⟨-, ht⟩ | ⟨-, he⟩
  · rw [ht]
    exact hnew
  · exact hold k e he

theorem Contract.Storage.Covered.of_books {bridge : String} (h : s.Covered bridge) (hb : s'.books.pending = s.books.pending)
    (hr : s'.registry = s.registry) : s'.Covered bridge := by
  intro k e he
  rw [hr]
  rw [hb] at he
  exact h k e he

/-- **An operation is created on registered tokens.** -/
theorem Contract.Effect.covers {q : Querier} {env : BlockInfo} {sender : Addr} {funds : List Coin}
    {msg : ExecuteMsg} {ms : List SubMsg} {bridge : String} (h : Effect H s q env sender funds msg s' ms)
    (hb : s.config.bridgeXRPLAddress = bridge) (hs : s.registry.Sound H bridge) (hc : s.Covered bridge) :
    s'.Covered bridge := by
  have hreg := h.registry
  rw [hb] at hreg
  have hbooks := h.books
  have hold : ∀ {k : ℕ} {e : Entry}, s.books.pending[k]? = some e → s'.registry.Covers bridge e.operationType :=
    fun he => (hc _ _ he).step hreg
  cases h with
  | voted _ hv => exact hc.of_books (congrArg Books.pending hv.books) hv.registry
  | receivedXRPL _ hv _ _ _ hf =>
    exact hc.of_books (by rw [handleFeeCollection_books hf, hv.books])
      (by rw [handleFeeCollection_registry hf, hv.registry])
  | receivedCosmos _ hv _ _ _ hf =>
    exact hc.of_books (by rw [handleFeeCollection_books hf, hv.books])
      (by rw [handleFeeCollection_registry hf, hv.registry])
  | completed _ _ hv hid ho =>
    intro a x hx
    rw [completion_of_reaches hv.reaches hid ho] at hbooks
    rcases hbooks.pending_completed hx with hall | hx
    · obtain ⟨n, hn⟩ := OperationType.isAllocation_iff.mp hall
      rw [hn]
      exact .allocateTickets
    · exact hold hx
  | @cancelled k o _ _ _ hh =>
    intro a x hx
    rw [hh.finish k o.ticketSequence, Books.pending_finish] at hx
    exact hold (getElem?_of_erase hx).2
  | @sentXRPL _ key _ _ _ token _ _ _ _ _ _ _ _ _ htoken _ hf ho =>
    apply ho.covers (hc.of_books (congrArg Books.pending (handleFeeCollection_books hf)) (handleFeeCollection_registry hf))
    have hname := registry_xrpl (IndexedMap.item_eq_some.mp htoken).1
    rw [handleFeeCollection_registry hf]
    exact .xrplTransfer (n := token.name) (hs.xrplKey _ _ hname ▸ hname)
  | @sentCosmos _ _ token _ _ _ _ _ _ _ _ htoken _ hback hwhole hf ho =>
    apply ho.covers (hc.of_books (congrArg Books.pending (handleFeeCollection_books hf)) (handleFeeCollection_registry hf))
    have hname := registry_cosmos htoken
    rw [handleFeeCollection_registry hf, hb]
    exact .cosmosTransfer (n := token.name) (hs.cosmosKey _ _ hname ▸ hname) hback hwhole
  | @registeredXRPL issuer currency denom _ _ _ _ _ _ _ _ _ _ hsave ho =>
    refine ho.covers (fun k e he => ?_) (.trustSet (n := ⟨issuer, currency, denom⟩) ?_)
    · rw [← ho.registry]
      exact hold he
    · simp only [Storage.registry, (IndexedMap.save_eq_some hsave).1, map_insert, getElem?_insert_self']
      rfl
  | recoveredXRPL htoken hsave ho =>
    apply ho.covers (hc.of_books rfl (registry_saveXRPL htoken hsave rfl))
    rw [registry_saveXRPL htoken hsave rfl]
    exact .trustSet (registry_xrpl htoken)
  | rotating _ _ ho => exact ho.covers (hc.of_books rfl rfl) .rotateKeys
  | recovering =>
    intro k e he
    simp only [Storage.books, map_insert] at he
    rcases getElem?_of_insert he with ⟨-, rfl⟩ | ⟨-, he⟩
    · exact .allocateTickets
    · exact hold he
  | signed ho => exact hc.of_books (congrArg Books.pending (books_signed ho _)) rfl
  | repriced => exact hc.of_books (congrArg Books.pending (books_repriced s _)) rfl
  | claimedFees _ ht =>
    obtain ⟨⟨_, rfl⟩, -⟩ := substractRelayerFees_eq_ok ht
    exact hc
  | _ => exact fun _ _ he => hold he

end Frames

/-! ### In every run -/

/-- The registries are sound, and every pending operation is about registered tokens. -/
structure Registered (H : Host) (bridge : String) (s : Storage) : Prop where
  address : s.config.bridgeXRPLAddress = bridge
  sound : s.registry.Sound H bridge
  covered : s.Covered bridge

variable {H : Host} {w : World} {bridge : String}

theorem Registered.step {s s' : Storage} {q : Querier} {env : BlockInfo} {sender : Addr} {funds : List Coin}
    {msg : ExecuteMsg} {ms : List SubMsg} (h : Registered H bridge s)
    (heff : Effect H s q env sender funds msg s' ms) : Registered H bridge s' := by
  have hfixed : s'.config.bridgeXRPLAddress = s.config.bridgeXRPLAddress :=
    congrArg (fun f => f.2.1) heff.fixed
  have hreg := heff.registry
  rw [h.address] at hreg
  exact ⟨hfixed.trans h.address, h.sound.step hreg, heff.covers h.address h.sound h.covered⟩

theorem started_registered (h : Started H w) : Registered H w.store.config.bridgeXRPLAddress w.store := by
  obtain ⟨msg, m, -, -, -, hm, hs⟩ := started_eq h
  have hxrpl : w.store.registry.xrpl =
      (∅ : ExtTreeMap String XRPLName).insert (buildXRPLTokenKey xrpIssuer xrpCurrency)
        ⟨xrpIssuer, xrpCurrency, fullDenom msg.tokenFactoryAddr xrpSymbol⟩ := by
    rw [hs]
    simp only [Storage.registry, initialStorage, (IndexedMap.save_eq_some hm).1, map_insert]
    rfl
  have honly : ∀ (key : String) (n : XRPLName), w.store.registry.xrpl[key]? = some n →
      key = buildXRPLTokenKey xrpIssuer xrpCurrency ∧ n.issuer = xrpIssuer ∧ n.currency = xrpCurrency := by
    intro key n hn
    rw [hxrpl] at hn
    rcases getElem?_of_insert hn with ⟨rfl, rfl⟩ | ⟨-, hn⟩
    · exact ⟨rfl, rfl, rfl⟩
    · simp at hn
  have hcosmos : ∀ (key : String) (n : CosmosName), w.store.registry.cosmos[key]? ≠ some n := by
    intro key n hn
    rw [hs] at hn
    simp [Storage.registry, initialStorage, IndexedMap.empty] at hn
  refine ⟨rfl, ⟨?_, fun key n hn => ?_, fun key n hn => absurd hn (hcosmos key n), fun key n hn => ?_,
    fun key n hn => absurd hn (hcosmos key n)⟩, fun k e he => ?_⟩
  · rw [hs]
    simp [Storage.registry, initialStorage, initialProhibited, initialConfig]
  · obtain ⟨hkey, hissuer, hcur⟩ := honly key n hn
    rw [hkey, hissuer, hcur]
  · exact .inl (honly key n hn).2
  · rw [hs] at he
    simp [Storage.books, initialStorage] at he

/-- **The tokens of every pending operation are registered**, in every run. -/
theorem run_registered (h : Started H w) (calls : List Call) :
    Registered H w.store.config.bridgeXRPLAddress (run (step H) w calls).store :=
  run_storage h (started_registered h) (fun hr he => hr.step he) calls

/-- XRP is always registered, under its key. -/
theorem run_xrp (h : Started H w) (calls : List Call) :
    ∃ token, (run (step H) w calls).store.xrplTokens.primary[buildXRPLTokenKey xrpIssuer xrpCurrency]? = some token ∧
      token.issuer = xrpIssuer ∧ token.currency = xrpCurrency := by
  obtain ⟨n, hn, hissuer, hcurrency⟩ : ∃ n,
      (run (step H) w calls).store.registry.xrpl[buildXRPLTokenKey xrpIssuer xrpCurrency]? = some n ∧
        n.issuer = xrpIssuer ∧ n.currency = xrpCurrency := by
    refine run_storage (P := fun s => ∃ n, s.registry.xrpl[buildXRPLTokenKey xrpIssuer xrpCurrency]? = some n ∧
      n.issuer = xrpIssuer ∧ n.currency = xrpCurrency) h ?_ ?_ calls
    · obtain ⟨msg, m, -, -, -, hm, hs⟩ := started_eq h
      refine ⟨(xrpToken msg.tokenFactoryAddr).name, registry_xrpl ?_, rfl, rfl⟩
      rw [hs]
      simp only [initialStorage, (IndexedMap.save_eq_some hm).1, getElem?_insert_self']
    · rintro s s' q env sender funds msg ms ⟨n, hn, hname⟩ he
      exact ⟨n, he.registry.xrpl_mono hn, hname⟩
  obtain ⟨token, htoken, rfl⟩ := exists_xrplToken hn
  exact ⟨token, htoken, hissuer, hcurrency⟩

end XrplBridge
