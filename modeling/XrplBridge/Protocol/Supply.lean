import XrplBridge.Protocol.Flows
import XrplBridge.Protocol.TokenStores
import XrplBridge.Reference

/-!
# The supply of a token of XRPL

The bridge mints what is received from XRPL and burns what is delivered there, and nothing else
(`Effect.mintsAndBurns`). What is received is checked against the most that the token may have,
so that its supply stays below that whatever the owner sets it to (`supply_exact`).

The owner can mint coins as well: of any denom of the token factory, and of a denom that is created, for
its first holders. The token factory creates a denom only once (`CreatesOnce`), so the owner cannot create
that of a registered token, as registering the token has created it. XRP is the exception: it is registered
from the start, and if `instantiate` is told not to issue its denom, the owner can create it later, with any
number of coins (`supply_created`).
-/

namespace XrplBridge

open Library Contract Std

/-- What an evidence brings to Cosmos of the token under a key. -/
def received (H : Host) (s : Storage) (key : String) : ExecuteMsg → ℕ
  | .saveEvidence (.xrplToCosmosTransfer e) =>
    if s.reaches H (.xrplToCosmosTransfer e) = true ∧ e.issuer ≠ s.config.bridgeXRPLAddress ∧
      buildXRPLTokenKey e.issuer e.currency = key then e.amount else 0
  | _ => 0

/-- What a transfer takes to XRPL of the token under a key, the maximum amount if it has one. -/
def Contract.OperationType.carries (key : String) : OperationType → ℕ
  | .cosmosToXRPLTransfer issuer currency amount maxAmount _ _ =>
    if buildXRPLTokenKey issuer currency = key then maxAmount.getD amount else 0
  | _ => 0

/-- What an accepted transfer has taken to XRPL of the token under a key. -/
def confirmed (H : Host) (s : Storage) (key : String) (msg : ExecuteMsg) : ℕ :=
  match ended H s msg with
  | some (_, o, .accepted) => o.operationType.carries key
  | _ => 0

/-- The supply of a denom is not above the most that its token of XRPL may have. -/
def Capped (D : String) (w : World) : Prop :=
  ∀ (key : String) (token : XRPLToken), w.store.xrplTokens.primary[key]? = some token → token.cosmosDenom = D →
    w.bank.supply D ≤ token.maxHoldingAmount

/-! ### The denoms of the token factory -/

/-- The denoms that messages create. -/
def created (ms : List SubMsg) : List String := ms.filterMap fun m => m.msg.createdDenom

/-- The denoms that the token factory has after a run. -/
def denomsAfter (H : Host) (denoms : List String) (w : World) (calls : List Call) : List String :=
  denoms ++ created (emitted H w calls)

/-- What the token factory does along a run, with the denoms that it has at its start: it creates a denom only
if it does not have it yet, and then there are no coins of it. -/
def CreatesOnce (H : Host) : List String → World → List Call → Prop
  | _, _, [] => True
  | denoms, w, c :: calls =>
    (∀ D ∈ created (messagesOf H w c), D ∉ denoms ∧ w.bank.supply D = 0) ∧
      CreatesOnce H (denoms ++ created (messagesOf H w c)) (commit (step H) w c) calls

instance instDecidableCreatesOnce (H : Host) : (denoms : List String) → (w : World) → (calls : List Call) →
    Decidable (CreatesOnce H denoms w calls)
  | _, _, [] => isTrue trivial
  | denoms, w, c :: calls =>
    have := instDecidableCreatesOnce H (denoms ++ created (messagesOf H w c)) (commit (step H) w c) calls
    inferInstanceAs (Decidable (_ ∧ _))

/-- If the owner creates the denom, then without coins. -/
def CreatesBare (H : Host) (D : String) (w : World) (c : Call) : Prop :=
  ∀ subdenom balances, c.msg = .createCosmosToken subdenom balances →
    fullDenom w.store.config.tokenFactoryAddr (toUppercase H subdenom) = D → balances = []

section Denoms

variable {H : Host} {D : String} {denoms : List String} {w w' : World} {c : Call} {r : Response}

@[simp] theorem created_append (ms ms' : List SubMsg) : created (ms ++ ms') = created ms ++ created ms' :=
  List.filterMap_append

theorem mem_created_createDenomMsg (config : Config) (subdenom : String) (funds : List Coin) (msgs : List CosmosMsg) :
    fullDenom config.tokenFactoryAddr subdenom ∈ created (plain (createDenomMsg config subdenom funds :: msgs)) :=
  List.mem_cons_self

@[simp] theorem denomsAfter_nil (H : Host) (denoms : List String) (w : World) : denomsAfter H denoms w [] = denoms :=
  List.append_nil denoms

theorem denomsAfter_cons (H : Host) (denoms : List String) (w : World) (c : Call) (calls : List Call) :
    denomsAfter H denoms w (c :: calls) =
      denomsAfter H (denoms ++ created (messagesOf H w c)) (commit (step H) w c) calls := by
  rw [denomsAfter, emitted_cons, created_append, denomsAfter, List.append_assoc]

/-- A denom stays. -/
theorem mem_denomsAfter_append {before : List Call} (h : D ∈ denomsAfter H denoms w before) (calls : List Call) :
    D ∈ denomsAfter H denoms w (before ++ calls) := by
  induction before generalizing denoms w with
  | nil =>
    rw [denomsAfter_nil] at h
    exact List.mem_append_left _ h
  | cons c before ih =>
    rw [denomsAfter_cons] at h
    rw [List.cons_append, denomsAfter_cons]
    exact ih h

/-- What a call of the run creates is new. -/
theorem CreatesOnce.new {before later : List Call} (h : CreatesOnce H denoms w (before ++ c :: later))
    (hD : D ∈ created (messagesOf H (run (step H) w before) c)) :
    D ∉ denomsAfter H denoms w before ∧ (run (step H) w before).bank.supply D = 0 := by
  induction before generalizing denoms w with
  | nil =>
    rw [denomsAfter_nil]
    exact h.1 D hD
  | cons c' before ih =>
    rw [denomsAfter_cons]
    exact ih h.2 hD

/-- The denom of XRP, if it is issued. -/
theorem issued_of_instantiate {sender : Addr} {funds : List Coin} {msg : InstantiateMsg} {s : Storage}
    (h : instantiate H sender funds msg = .ok (s, r)) (hissue : msg.issueToken = true) :
    fullDenom msg.tokenFactoryAddr xrpSymbol ∈ created r.messages := by
  simp only [instantiate, bind_eq_ok, pure_eq_ok, Prod.mk.injEq, hissue, if_true] at h
  obtain ⟨_, -, _, -, _, -, _, -, _, -, m, -, -, rfl⟩ := h
  exact mem_created_createDenomMsg (initialConfig msg) xrpSymbol funds []

/-- A call by which the owner creates a denom. -/
theorem created_of_createCosmosToken {subdenom : String} {balances : List Cw20Coin}
    (hs : w.store.tempUniversalSwap = none) (h : step H w c = .ok (w', r))
    (hmsg : c.msg = .createCosmosToken subdenom balances) :
    fullDenom w.store.config.tokenFactoryAddr (toUppercase H subdenom) ∈ created r.messages := by
  have he := (step_eq_ok hs h).1
  rw [hmsg] at he
  generalize w'.store = s' at he
  generalize r.messages = ms at he
  cases he with
  | createdToken hupper =>
    rw [← hupper]
    exact mem_created_createDenomMsg ..

/-- **The denom of a registered token has been created in the run**, XRP's apart. -/
theorem run_denom_created {sender : Addr} {funds : List Coin} {msg : InstantiateMsg} {r₀ : Response}
    (hi : instantiate H sender funds msg = .ok (w.store, r₀)) (denoms : List String) (calls : List Call) {key : String}
    {token : XRPLToken} (hk : (run (step H) w calls).store.xrplTokens.primary[key]? = some token) :
    token.cosmosDenom = fullDenom msg.tokenFactoryAddr xrpSymbol ∨
      token.cosmosDenom ∈ denomsAfter H denoms w calls := by
  refine run_induction (P := fun calls (w' : World) => ∀ (key : String) (token : XRPLToken),
    w'.store.xrplTokens.primary[key]? = some token → token.cosmosDenom = fullDenom msg.tokenFactoryAddr xrpSymbol ∨
      token.cosmosDenom ∈ denomsAfter H denoms w calls) ?_ ?_ ?_ calls key token hk
  · intro key token hk
    obtain ⟨m, -, -, -, hsave, hs⟩ := instantiate_eq_ok hi
    rw [hs, initialStorage, (IndexedMap.save_eq_some hsave).1] at hk
    rcases getElem?_of_insert hk with ⟨-, rfl⟩ | ⟨-, hold⟩
    · exact .inl rfl
    · simp [IndexedMap.empty] at hold
  · intro calls c w' r hold hstep key token hk
    have hstays : ∀ {D}, D ∈ denomsAfter H denoms w calls → D ∈ denomsAfter H denoms w (calls ++ [c]) :=
      fun h => mem_denomsAfter_append h [c]
    cases (run_effect ⟨sender, funds, msg, r₀, hi⟩ hstep).tokenChange.xrplEntry hk with
    | kept hr => exact (hold _ _ hr).imp_right hstays
    | registered _ _ hcreated hsent =>
      right
      rw [denomsAfter, emitted_snoc_ok hstep, created_append, hsent]
      refine List.mem_append_right _ (List.mem_append_right _ ?_)
      rw [show _ = _ from hcreated]
      exact mem_created_createDenomMsg ..
    | restated hr => exact (hold _ _ hr).imp_right hstays
    | @updated _ _ _ token₀ _ _ hr hname =>
      have hdenom : token.cosmosDenom = token₀.cosmosDenom := congrArg XRPLName.cosmosDenom hname
      rw [hdenom]
      exact (hold _ _ hr).imp_right hstays
  · intro calls c e hold hstep key token hk
    rw [denomsAfter, emitted_snoc_error hstep]
    exact hold key token hk

/-- In a call, the owner mints no coins of the denom and does not create that of a registered token with coins;
what is created has no coins yet. -/
structure Undisturbed (H : Host) (D : String) (w : World) (c : Call) : Prop where
  notMinted : ∀ balances, c.msg ≠ .mintCosmosToken D balances
  bare : ∀ (key : String) (token : XRPLToken), w.store.xrplTokens.primary[key]? = some token →
    token.cosmosDenom = D → CreatesBare H D w c
  new : D ∈ created (messagesOf H w c) → w.bank.supply D = 0

end Denoms

/-! ### What a call mints and burns -/

section Messages

variable {H : Host} {s s' : Storage} {D key : String} {token : XRPLToken}

theorem confirmed_of_ended {msg : ExecuteMsg} {k : ℕ} {o : Operation} {result : TransactionResult}
    (h : ended H s msg = some (k, o, result)) :
    confirmed H s key msg = if result = .accepted then o.operationType.carries key else 0 := by
  unfold confirmed
  rw [h]
  cases result <;> rfl

theorem confirmed_of_none {msg : ExecuteMsg} (h : ended H s msg = none) : confirmed H s key msg = 0 := by
  unfold confirmed
  rw [h]

/-- The end of an operation mints nothing, and burns what an accepted transfer has carried. -/
theorem Contract.Handled.mintsAndBurns {o : Operation} {operationResult : Option OperationResult}
    {result : TransactionResult} {txHash : Option String} {tokenFactoryAddr burnAddr : Addr} {msgs : List CosmosMsg}
    (h : Handled s o operationResult result txHash tokenFactoryAddr burnAddr s' msgs)
    (hk : s.xrplTokens.primary[key]? = some token) :
    flow (CosmosMsg.mints token.cosmosDenom) (plain msgs) = 0 ∧
      flow (CosmosMsg.burns token.cosmosDenom) (plain msgs) =
        if result = .accepted then o.operationType.carries key else 0 := by
  have hundo : ∀ key' amount, flow (CosmosMsg.mints token.cosmosDenom) (plain (undoSendMsgs s key' amount)) = 0 ∧
      flow (CosmosMsg.burns token.cosmosDenom) (plain (undoSendMsgs s key' amount)) = 0 := by
    intro key' amount
    have hlimited := rateLimitOnly_rateLimitMsgs s.config (.undoSend (packet key' amount))
    exact ⟨hlimited.flow_eq_zero fun _ _ => rfl, hlimited.flow_eq_zero fun _ _ => rfl⟩
  cases h with
  | allocated htype => simp [htype, OperationType.carries]
  | notAllocated _ _ hfailed => simp [hfailed]
  | trustSet htype => simp [htype, OperationType.carries]
  | rotated htype => simp [htype, OperationType.carries]
  | notRotated _ hfailed => simp [hfailed]
  | @burnt issuer currency amount maxAmount _ _ token' htype hr hacc =>
    refine ⟨rfl, ?_⟩
    rw [if_pos hacc, htype]
    simp only [flow_plain_cons, flow_plain_nil, tokenFactoryMsg, CosmosMsg.burns, OperationType.carries]
    by_cases hkey : buildXRPLTokenKey issuer currency = key
    · subst hkey
      rw [hk] at hr
      cases hr
      simp
    · have hdenom : token'.cosmosDenom ≠ token.cosmosDenom := fun heq => hkey (s.xrplTokens.unique hr hk heq)
      simp [hkey, hdenom]
  | refunded _ _ hfailed =>
    rw [if_neg hfailed]
    exact hundo _ _
  | @escrowed issuer currency _ _ _ _ htype hnone hacc =>
    have hkey : buildXRPLTokenKey issuer currency ≠ key := by
      rintro rfl
      rw [hk] at hnone
      cases hnone
    simp [htype, OperationType.carries, hkey]
  | released _ _ _ hfailed _ =>
    rw [if_neg hfailed]
    exact hundo _ _

/-- **What a call mints and burns of a token**: what is received from XRPL, and what has been
delivered there. -/
theorem Contract.Effect.mintsAndBurns {q : Querier} {env : BlockInfo} {sender : Addr} {funds : List Coin}
    {msg : ExecuteMsg} {ms : List SubMsg} (h : Effect H s q env sender funds msg s' ms)
    (hk : s.xrplTokens.primary[key]? = some token) (hmint : ∀ balances, msg ≠ .mintCosmosToken token.cosmosDenom balances)
    (hbare : ∀ subdenom balances, msg = .createCosmosToken subdenom balances →
      fullDenom s.config.tokenFactoryAddr (toUppercase H subdenom) = token.cosmosDenom → balances = []) :
    flow (CosmosMsg.mints token.cosmosDenom) ms = received H s key msg ∧
      flow (CosmosMsg.burns token.cosmosDenom) ms = confirmed H s key msg := by
  have hlimited : ∀ {msgs : List CosmosMsg}, RateLimitOnly msgs →
      flow (CosmosMsg.mints token.cosmosDenom) (plain msgs) = 0 ∧
        flow (CosmosMsg.burns token.cosmosDenom) (plain msgs) = 0 :=
    fun h => ⟨h.flow_eq_zero fun _ _ => rfl, h.flow_eq_zero fun _ _ => rfl⟩
  cases h with
  | @voted evidence _ _ hv =>
    have hnone := ended_of_not_reaches hv.reaches
    cases evidence with
    | xrplToCosmosTransfer e => exact ⟨(if_neg fun hc => by simp [hv.reaches] at hc).symm, rfl⟩
    | xrplTransactionResult e => exact ⟨rfl, (confirmed_of_none hnone).symm⟩
  | @receivedXRPL e _ _ token' _ _ remainder fee _ _ hv hforeign hr hamounts hc _ hl =>
    obtain ⟨-, rfl, -⟩ := handleFeeCollection_eq_ok hc
    obtain ⟨hfeeMints, hfeeBurns⟩ := flow_mintFeeMsgs (H := H) (D := token.cosmosDenom) s.config token'.cosmosDenom
      (token'.bridgingFee + remainder)
    rw [flow_append, flow_append, flow_universalSwapMsgs fun _ _ _ => rfl, flow_universalSwapMsgs fun _ _ _ => rfl]
    simp only [flow_plain_append, flow_plain_cons, flow_plain_nil, hlimited hl, hfeeMints, hfeeBurns, tokenFactoryMsg,
      CosmosMsg.mints, CosmosMsg.burns, received, hv.reaches, hforeign, ne_eq, not_false_eq_true, true_and,
      Nat.add_zero]
    refine ⟨?_, rfl⟩
    by_cases hkey : buildXRPLTokenKey e.issuer e.currency = key
    · subst hkey
      rw [hk] at hr
      cases hr
      simp only [if_true]
      omega
    · have hdenom : token'.cosmosDenom ≠ token.cosmosDenom := fun heq => hkey (s.xrplTokens.unique hr hk heq)
      simp [hkey, hdenom]
  | receivedCosmos _ hv hown _ _ _ _ hl =>
    rw [flow_append, flow_append, flow_universalSwapMsgs fun _ _ _ => rfl, flow_universalSwapMsgs fun _ _ _ => rfl,
      flow_plain_append, flow_plain_append, (hlimited hl).1, (hlimited hl).2]
    have hnone : received H s key (.saveEvidence (.xrplToCosmosTransfer _)) = 0 := if_neg fun hc => hc.2.1 hown
    rw [hnone]
    split_ifs <;> exact ⟨rfl, rfl⟩
  | completed _ _ hv hid ho _ hh =>
    rw [confirmed_of_ended (ended_of_reaches hv.reaches hid ho)]
    have hsame := congrArg Prod.fst hv.tokens
    exact hh.mintsAndBurns ((congrArg (fun m => m.primary[key]?) hsame).trans hk)
  | cancelled ho hh =>
    rw [confirmed_of_ended (ended_cancelled ho)]
    exact hh.mintsAndBurns hk
  | sentXRPL _ _ _ _ _ hl => exact hlimited hl
  | sentCosmos _ _ _ _ _ _ _ _ hl => exact hlimited hl
  | @createdToken subdenom _ denom balances hupper hcreated =>
    subst hupper
    rw [flow_plain_cons, flow_plain_cons, flow_burns_mintMsgs]
    by_cases hdenom : denom = token.cosmosDenom
    · rw [hbare subdenom balances rfl (hcreated.symm.trans hdenom)]
      exact ⟨rfl, rfl⟩
    · rw [flow_mintMsgs balances hdenom]
      exact ⟨rfl, rfl⟩
  | @mintedToken denom balances =>
    have hdenom : denom ≠ token.cosmosDenom := by
      rintro rfl
      exact hmint balances rfl
    exact ⟨flow_mintMsgs balances hdenom, flow_burns_mintMsgs s.config denom balances⟩
  | rateLimitAdded hl => exact hlimited hl
  | rateLimitRemoved hl => exact hlimited hl
  | rateLimitReset hl => exact hlimited hl
  | _ => exact ⟨rfl, rfl⟩

/-- What is received fits below the most that the token may have. -/
theorem Contract.Effect.received_le {q : Querier} {env : BlockInfo} {sender : Addr} {funds : List Coin}
    {msg : ExecuteMsg} {ms : List SubMsg} (h : Effect H s q env sender funds msg s' ms)
    (hk : s.xrplTokens.primary[key]? = some token) :
    received H s key msg = 0 ∨ received H s key msg + q.supply token.cosmosDenom ≤ token.maxHoldingAmount := by
  cases h with
  | @voted evidence _ _ hv =>
    cases evidence with
    | xrplToCosmosTransfer e => exact .inl (if_neg fun hc => by simp [hv.reaches] at hc)
    | xrplTransactionResult e => exact .inl rfl
  | @receivedXRPL e _ _ _ _ _ _ _ _ _ hv hforeign hr _ _ _ _ _ _ _ _ hcapped =>
    by_cases hkey : buildXRPLTokenKey e.issuer e.currency = key
    · subst hkey
      rw [hk] at hr
      cases hr
      right
      rw [received, if_pos ⟨hv.reaches, hforeign, rfl⟩]
      exact hcapped
    · exact .inl (if_neg fun hc => hkey hc.2.2)
  | receivedCosmos _ _ hown => exact .inl (if_neg fun hc => hc.2.1 hown)
  | _ => exact .inl rfl

end Messages

/-! ### The supply along a run -/

section Runs

variable {H : Host} {D key : String} {token : XRPLToken} {w w' : World} {c : Call} {r : Response}

/-- The supply after a call. -/
theorem supply_step (hs : w.store.tempUniversalSwap = none) (h : step H w c = .ok (w', r)) (hd : Undisturbed H D w c)
    (hk : w.store.xrplTokens.primary[key]? = some token) (hD : token.cosmosDenom = D) :
    flow (CosmosMsg.mints D) r.messages = received H w.store key c.msg ∧
      flow (CosmosMsg.burns D) r.messages = confirmed H w.store key c.msg ∧
        w'.bank.supply D + confirmed H w.store key c.msg = w.bank.supply D + received H w.store key c.msg := by
  subst hD
  obtain ⟨he, hall⟩ := step_eq_ok hs h
  obtain ⟨hmints, hburns⟩ := he.mintsAndBurns hk hd.notMinted (hd.bare key token hk rfl)
  have hsupply := (deliverAll_eq_some (D := token.cosmosDenom) hall).1
  rw [hmints, hburns] at hsupply
  exact ⟨hmints, hburns, hsupply⟩

theorem setTokenMaxHoldingAmount_eq_ok {bridged max max' : ℕ} {target : Option ℕ}
    (h : setTokenMaxHoldingAmount bridged max target = .ok max') : max' = max ∨ bridged ≤ max' := by
  unfold setTokenMaxHoldingAmount at h
  cases target with
  | none =>
    cases h
    exact .inl rfl
  | some target =>
    simp only [bind_eq_ok, failIf_eq_ok, pure_eq_ok] at h
    obtain ⟨_, hle, rfl⟩ := h
    exact .inr (Nat.not_lt.mp hle)

/-- **The supply stays below the maximum**, also when the maximum is lowered. -/
theorem Capped.step (hcap : Capped D w) (hs : w.store.tempUniversalSwap = none) (h : XrplBridge.step H w c = .ok (w', r))
    (hd : Undisturbed H D w c) : Capped D w' := by
  obtain ⟨he, hall⟩ := step_eq_ok hs h
  have hold : ∀ (key : String) (token : XRPLToken), w.store.xrplTokens.primary[key]? = some token →
      token.cosmosDenom = D → w'.bank.supply D ≤ token.maxHoldingAmount := by
    intro key token hk hD
    obtain ⟨-, -, hsupply⟩ := supply_step hs h hd hk hD
    have hle := hcap key token hk hD
    have hfits : received H w.store key c.msg = 0 ∨
        received H w.store key c.msg + w.bank.supply token.cosmosDenom ≤ token.maxHoldingAmount := he.received_le hk
    rw [hD] at hfits
    omega
  intro key token hk hD
  cases he.tokenChange.xrplEntry hk with
  | kept hr => exact hold key token hr hD
  | @registered _ _ _ subdenom _ _ _ _ _ hcreated hsent =>
    have hnew : w.bank.supply D = 0 := by
      refine hd.new ?_
      rw [messagesOf_ok h, hsent, ← hD, hcreated]
      exact mem_created_createDenomMsg ..
    have hsupply := (deliverAll_eq_some (D := D) hall).1
    have hmints : flow (CosmosMsg.mints D) r.messages = 0 := by
      rw [hsent]
      rfl
    have hzero : w'.bank.supply D + _ = w.bank.supply D + _ := hsupply
    rw [hmints, hnew] at hzero
    exact (Nat.eq_zero_of_add_eq_zero_right hzero).trans_le (Nat.zero_le _)
  | restated hr => exact (hold _ _ hr hD :)
  | @updated issuer currency update token₀ _ hmsg hr hname _ hcapped =>
    have hdenom : token₀.cosmosDenom = D := (congrArg XRPLName.cosmosDenom hname).symm.trans hD
    have hle := hold _ token₀ hr hdenom
    obtain ⟨-, -, hsupply⟩ := supply_step hs h hd hr hdenom
    have hnone : received H w.store (buildXRPLTokenKey issuer currency) c.msg = 0 := by
      rw [hmsg]
      rfl
    rcases setTokenMaxHoldingAmount_eq_ok hcapped with hmax | hmax
    · rw [hmax]
      exact hle
    · replace hmax : w.bank.supply token₀.cosmosDenom ≤ token.maxHoldingAmount := hmax
      rw [hdenom] at hmax
      omega

/-- No call disturbs the denom, if the owner mints no coins of it and does not create that of XRP with coins:
those of the other tokens have been created in the run, and cannot be created again. -/
theorem run_undisturbed {sender : Addr} {funds : List Coin} {msg : InstantiateMsg} {r₀ : Response} {denoms : List String}
    (hi : instantiate H sender funds msg = .ok (w.store, r₀)) (hissued : created r₀.messages ⊆ denoms)
    (before calls : List Call) (honce : CreatesOnce H denoms w (before ++ calls))
    (hmint : ∀ x ∈ history (step H) (run (step H) w before) calls, ∀ balances, x.2.msg ≠ .mintCosmosToken D balances)
    (hxrp : D = fullDenom msg.tokenFactoryAddr xrpSymbol → msg.issueToken = true ∨ D ∈ denomsAfter H denoms w before ∨
      ∀ x ∈ history (step H) (run (step H) w before) calls, CreatesBare H D x.1 x.2) :
    ∀ x ∈ history (step H) (run (step H) w before) calls, Undisturbed H D x.1 x.2 := by
  rintro ⟨t, c⟩ hx
  obtain ⟨pre, post, ⟨w', r⟩, rfl, rfl, hstep⟩ := mem_history_iff.mp hx
  rw [← run_append] at hstep hx ⊢
  rw [← List.append_assoc] at honce
  refine ⟨hmint _ hx, fun key token hk hD subdenom balances hmsg hdenom => ?_, fun hD => (honce.new hD).2⟩
  -- the denom is new to the token factory, so it is that of XRP
  have hcreated : D ∈ created (messagesOf H (run (step H) w (before ++ pre)) c) := by
    rw [messagesOf_ok hstep, ← hdenom]
    exact created_of_createCosmosToken (run_tempUniversalSwap ⟨sender, funds, msg, r₀, hi⟩ _) hstep hmsg
  have hnew := (honce.new hcreated).1
  have hfirst : D = fullDenom msg.tokenFactoryAddr xrpSymbol := by
    rcases run_denom_created hi denoms (before ++ pre) hk with hfirst | hold
    · exact hD.symm.trans hfirst
    · exact absurd (hD ▸ hold) hnew
  rcases hxrp hfirst with hissue | hold | hbare
  · refine absurd (List.mem_append_left _ (hissued ?_)) hnew
    rw [hfirst]
    exact issued_of_instantiate hi hissue
  · exact absurd (mem_denomsAfter_append hold pre) hnew
  · exact hbare _ hx subdenom balances hmsg hdenom

/-- **The supply is exact and capped**, over every part of a run that starts below the maximum: what
is received is minted in total, what is delivered on XRPL is burnt in total, no other call
changes the supply, and it never exceeds the maximum of the time. The owner is not to mint coins of
the denom, and not to create that of XRP with coins if it was not issued. -/
theorem supply_exact {sender : Addr} {funds : List Coin} {msg : InstantiateMsg} {r₀ : Response} {denoms : List String}
    (hi : instantiate H sender funds msg = .ok (w.store, r₀)) (hissued : created r₀.messages ⊆ denoms)
    (before calls : List Call) (honce : CreatesOnce H denoms w (before ++ calls))
    (hcap : Capped D (run (step H) w before))
    (hmint : ∀ x ∈ history (step H) (run (step H) w before) calls, ∀ balances, x.2.msg ≠ .mintCosmosToken D balances)
    (hxrp : D = fullDenom msg.tokenFactoryAddr xrpSymbol → msg.issueToken = true ∨ D ∈ denomsAfter H denoms w before ∨
      ∀ x ∈ history (step H) (run (step H) w before) calls, CreatesBare H D x.1 x.2) :
    Capped D (run (step H) w (before ++ calls)) ∧
      ∀ pre c post w' r, calls = pre ++ c :: post → step H (run (step H) w (before ++ pre)) c = .ok (w', r) →
        ∀ (key : String) (token : XRPLToken),
          (run (step H) w (before ++ pre)).store.xrplTokens.primary[key]? = some token → token.cosmosDenom = D →
            flow (CosmosMsg.mints D) r.messages = received H (run (step H) w (before ++ pre)).store key c.msg ∧
              flow (CosmosMsg.burns D) r.messages = confirmed H (run (step H) w (before ++ pre)).store key c.msg ∧
                w'.bank.supply D + confirmed H (run (step H) w (before ++ pre)).store key c.msg =
                  (run (step H) w (before ++ pre)).bank.supply D +
                    received H (run (step H) w (before ++ pre)).store key c.msg := by
  have h : Started H w := ⟨sender, funds, msg, r₀, hi⟩
  have hd := run_undisturbed hi hissued before calls honce hmint hxrp
  constructor
  · rw [run_append]
    refine run_invariant_of (I := Capped D) (p := Undisturbed H D) hcap ?_ calls hd
    intro as c w' r hcap hd hstep
    rw [← run_append] at hcap hd hstep
    exact hcap.step (run_tempUniversalSwap h _) hstep hd
  · rintro pre c post w' r rfl hstep key token hk hD
    rw [run_append] at hstep hk ⊢
    refine supply_step ?_ hstep (hd _ (mem_history hstep)) hk hD
    rw [← run_append]
    exact run_tempUniversalSwap h (before ++ pre)

end Runs

open Reference in
/-- After a token has been created with seven coins, XRP that is received is minted. -/
theorem supply_exact_received :
    let creation := call 2 owner (.createCosmosToken "abc" [⟨user, 7⟩])
    let payment := vote 3 relayer₁ (.xrplToCosmosTransfer ⟨"cd34", xrpIssuer, xrpCurrency, 5000000, user, none⟩)
    Capped xrpDenom (run (step host) world₁ [creation, payment]) ∧
      (run (step host) world₁ [creation, payment]).bank.supply xrpDenom =
        (run (step host) world₁ [creation]).bank.supply xrpDenom + 5000000 := by
  intro creation payment
  obtain ⟨r₀, hi⟩ := @instantiate_launch (setup [relayer₁] 1) (by decide +kernel)
  have hissued : created r₀.messages ⊆ [xrpDenom] := by
    have hall : ((instantiate host owner [] (setup [relayer₁] 1)).toOption.all fun x =>
        created x.2.messages ⊆ [xrpDenom]) = true := by decide +kernel
    rw [toOption_of_ok hi] at hall
    exact of_decide_eq_true hall
  obtain ⟨⟨w', r⟩, hstep⟩ := exists_of_isOk (x := step host (run (step host) world₁ [creation]) payment)
    (by decide +kernel)
  obtain ⟨token, htoken, hD⟩ : ∃ token, (run (step host) world₁ [creation]).store.xrplTokens.primary[
      buildXRPLTokenKey xrpIssuer xrpCurrency]? = some token ∧ token.cosmosDenom = xrpDenom := by
    rw [← Option.map_eq_some_iff]
    decide +kernel
  have hmint : ∀ x ∈ history (step host) world₁ [creation, payment], ∀ balances,
      x.2.msg ≠ .mintCosmosToken xrpDenom balances := by
    intro x hx balances hmsg
    rcases List.mem_pair.mp (mem_of_mem_history hx) with heq | heq <;> rw [heq] at hmsg <;> cases hmsg
  obtain ⟨hcapped, hexact⟩ := supply_exact hi hissued [] [creation, payment] (by decide +kernel)
    (fun _ _ _ _ => Nat.zero_le _) hmint fun _ => .inl rfl
  obtain ⟨-, -, hsupply⟩ := hexact [creation] payment [] w' r rfl hstep _ token htoken hD
  refine ⟨hcapped, ?_⟩
  have hw : run (step host) world₁ [creation, payment] = w' := @run_snoc_ok _ _ _ _ _ _ _ [creation] _ _ hstep
  have hreceived : received host (run (step host) world₁ [creation]).store (buildXRPLTokenKey xrpIssuer xrpCurrency)
      payment.msg = 5000000 := by decide +kernel
  rw [hw, ← hreceived]
  exact hsupply

open Reference in
/-- The denom of XRP is not issued, and the owner creates it with coins: more than XRP may have, and none of
them received from XRPL. -/
theorem supply_created :
    let w := launch { setup [relayer₁] 1 with issueToken := false }
    let creation := call 2 owner (.createCosmosToken "xrp" [⟨user, 10 ^ 17⟩])
    Started host w ∧ CreatesOnce host [] w [creation] ∧ Capped xrpDenom w ∧ (step host w creation).isOk = true ∧
      received host w.store (buildXRPLTokenKey xrpIssuer xrpCurrency) creation.msg = 0 ∧
      w.bank.supply xrpDenom = 0 ∧ (run (step host) w [creation]).bank.supply xrpDenom = 10 ^ 17 ∧
      ¬ Capped xrpDenom (run (step host) w [creation]) := by
  intro w creation
  have hsupply : (run (step host) w [creation]).bank.supply xrpDenom = 10 ^ 17 := by decide +kernel
  have hmax : (run (step host) w [creation]).store.xrplTokens.primary[buildXRPLTokenKey xrpIssuer xrpCurrency]?.map
      (fun token => (token.cosmosDenom, token.maxHoldingAmount)) = some (xrpDenom, 10 ^ 16) := by decide +kernel
  obtain ⟨token, htoken, heq⟩ := Option.map_eq_some_iff.mp hmax
  obtain ⟨hD, hle⟩ := Prod.mk.inj heq
  refine ⟨started_launch (by decide +kernel), by decide +kernel, fun _ _ _ _ => Nat.zero_le _, by decide +kernel,
    rfl, rfl, hsupply, fun hcap => ?_⟩
  have habove := hcap _ token htoken hD
  rw [hsupply, hle] at habove
  omega

end XrplBridge
