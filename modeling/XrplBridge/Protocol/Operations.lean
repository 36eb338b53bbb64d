import XrplBridge.Protocol.Tokens

/-!
# Where an operation comes from

An operation that is pending after a call was pending before, with the same identity and type,
or is one that the call creates, under its number and the second of its block (`Origin`). Its
fee is the bridge's fee, in every run (`run_baseFee`): a new fee is given to all of them.
-/

namespace XrplBridge

open Library Contract Std

variable {H : Host} {s s' s₁ : Storage} {k timestamp : ℕ} {o : Operation} {operationType : OperationType} {w : World}

/-- Who sent the tokens of a transfer. -/
def Contract.OperationType.sender : OperationType → Option Addr
  | .cosmosToXRPLTransfer _ _ _ _ sender _ => some sender
  | _ => none

/-- A TrustSet is asked for: to recover a registration, or to register a token, whose issuer and
currency are checked then. -/
inductive TrustAsked (H : Host) (s : Storage) (issuer currency : String) : ExecuteMsg → Prop
  | recovered : TrustAsked H s issuer currency (.recoverXRPLTokenRegistration issuer currency)
  | registered {precision : ℤ} {maxHolding bridgingFee : ℕ}
      (issuerValid : validateXRPLAddress H s.prohibitedXRPLAddresses issuer = .ok ())
      (currencyValid : validateXRPLCurrency currency = .ok ()) :
      TrustAsked H s issuer currency (.registerXRPLToken issuer currency precision maxHolding bridgingFee)

/-- An operation that is pending after a call: it was pending before and has not been ended, or
the call creates it; a transfer is created by `SendToXRPL` only, on the ticket at the front. -/
inductive Origin (H : Host) (s s' : Storage) (env : BlockInfo) (sender : Addr) (msg : ExecuteMsg) (k : ℕ)
    (o : Operation) : Prop
  | kept {old : Operation} (pending : s.pendingOperations[k]? = some old) (id : o.id = old.id)
      (type : o.operationType = old.operationType)
      (fee : old.xrplBaseFee = s.config.xrplBaseFee → o.xrplBaseFee = s'.config.xrplBaseFee)
      (stays : ∀ ended₀ result, ended H s msg ≠ some (k, ended₀, result))
  | created (id : o.id = toString env.seconds ++ "-" ++ toString k) (fee : o.xrplBaseFee = s'.config.xrplBaseFee)
      (transfer : ∀ a, o.operationType.sender = some a → a = sender ∧ s.availableTickets.head? = some k ∧
        ∃ recipient deliver, msg = .sendToXRPL recipient deliver)
      (trust : ∀ issuer currency limit, o.operationType = .trustSet issuer currency limit →
        TrustAsked H s issuer currency msg)

/-! ### What a step of the store does to the operations -/

theorem Contract.Opens.operation (h : Opens s timestamp operationType s')
    (hk : s'.pendingOperations[k]? = some o) :
    (s.availableTickets.head? = some k ∧ o = newOperation s timestamp k (some k) none operationType) ∨
      s.pendingOperations[k]? = some o := by
  cases h with
  | @intro t ts hav =>
    rcases getElem?_of_insert hk with ⟨rfl, rfl⟩ | ⟨-, hold⟩
    · exact .inl ⟨by rw [hav]; rfl, rfl⟩
    · exact .inr hold

theorem Contract.Registers.operation (h : Registers s timestamp s') (hk : s'.pendingOperations[k]? = some o) :
    o = newOperation s timestamp k (some k) none (.allocateTickets s.config.usedTicketSequenceThreshold) ∨
      s.pendingOperations[k]? = some o := by
  cases h with
  | counted => exact .inr hk
  | exhausted => exact .inr hk
  | allocating =>
    rcases getElem?_of_insert hk with ⟨rfl, rfl⟩ | ⟨-, hold⟩
    · exact .inl rfl
    · exact .inr hold

/-- The pending operations, and the fee that new ones are given. -/
def Contract.Storage.issued (s : Storage) : ExtTreeMap ℕ Operation × ℕ := (s.pendingOperations, s.config.xrplBaseFee)

theorem endOperation_issued (s : Storage) (result : TransactionResult) (k : ℕ) (ticket : Option ℕ) :
    (endOperation s result k ticket).issued = (s.pendingOperations.erase k, s.config.xrplBaseFee) := by
  obtain ⟨_, hend⟩ := endOperation_frame s result k ticket
  rw [hend]
  rfl

theorem Contract.Handled.issued {operationResult : Option OperationResult} {result : TransactionResult}
    {txHash : Option String} {tokenFactoryAddr burnAddr : Addr} {msgs : List CosmosMsg}
    (h : Handled s o operationResult result txHash tokenFactoryAddr burnAddr s' msgs) : s'.issued = s.issued := by
  cases h <;> rfl

theorem Contract.Votes.issued {sender : Addr} {e : Evidence} {reached : Bool}
    (h : Votes H s sender e s' reached) : s'.issued = s.issued := by
  cases h <;> rfl

theorem Contract.Handled.pendingOperations {operationResult : Option OperationResult} {result : TransactionResult}
    {txHash : Option String} {tokenFactoryAddr burnAddr : Addr} {msgs : List CosmosMsg}
    (h : Handled s o operationResult result txHash tokenFactoryAddr burnAddr s' msgs) :
    s'.pendingOperations = s.pendingOperations := congrArg Prod.fst h.issued

theorem Contract.Votes.pendingOperations {sender : Addr} {e : Evidence} {reached : Bool}
    (h : Votes H s sender e s' reached) : s'.pendingOperations = s.pendingOperations := congrArg Prod.fst h.issued

theorem handleFeeCollection_issued {bridgingFee remainder fee : ℕ} {denom : String}
    (h : handleFeeCollection s bridgingFee denom remainder = .ok (s', fee)) : s'.issued = s.issued := by
  obtain ⟨⟨_, _, rfl⟩, -⟩ := handleFeeCollection_eq_ok h
  rfl

/-- The end of an operation leaves the others. -/
theorem Contract.Handled.issued_endOperation {operationResult : Option OperationResult} {result : TransactionResult}
    {txHash : Option String} {tokenFactoryAddr burnAddr : Addr} {msgs : List CosmosMsg} {ticket : Option ℕ}
    (h : Handled s o operationResult result txHash tokenFactoryAddr burnAddr s₁ msgs) :
    (endOperation s₁ result k ticket).issued = (s.pendingOperations.erase k, s.config.xrplBaseFee) := by
  rw [endOperation_issued]
  exact congrArg (fun i => (i.1.erase k, i.2)) h.issued

/-! ### Calls -/

variable {q : Querier} {env : BlockInfo} {sender : Addr} {funds : List Coin} {msg : ExecuteMsg} {ms : List SubMsg}

/-- The operations and the fee stay as they are. -/
theorem Origin.of_same (hk : s'.pendingOperations[k]? = some o) (h : s'.issued = s.issued)
    (hno : ended H s msg = none) : Origin H s s' env sender msg k o := by
  rw [show s'.pendingOperations = _ from congrArg Prod.fst h] at hk
  exact .kept hk rfl rfl (fun hf => hf.trans (congrArg Prod.snd h).symm) (by simp [hno])

/-- An operation is ended, and removed. -/
theorem Origin.of_erase {x : ℕ × Operation × TransactionResult} (hk : s'.pendingOperations[k]? = some o)
    (h : s'.issued = (s.pendingOperations.erase x.1, s.config.xrplBaseFee)) (hx : ended H s msg = some x) :
    Origin H s s' env sender msg k o := by
  rw [show s'.pendingOperations = _ from congrArg Prod.fst h] at hk
  obtain ⟨hne, hk⟩ := getElem?_of_erase hk
  refine .kept hk rfl rfl (fun hf => hf.trans (congrArg Prod.snd h).symm) fun o' result he => hne ?_
  rw [hx, Option.some.injEq] at he
  rw [he]

/-- An operation is opened on what has been prepared without touching the operations. -/
theorem Contract.Opens.origin (h : Opens s₁ env.seconds operationType s') (hk : s'.pendingOperations[k]? = some o)
    (hi : s₁.issued = s.issued) (ha : s₁.availableTickets = s.availableTickets) (hno : ended H s msg = none)
    (ht : ∀ a, operationType.sender = some a → a = sender ∧ ∃ recipient deliver, msg = .sendToXRPL recipient deliver)
    (hl : ∀ issuer currency limit, operationType = .trustSet issuer currency limit →
      TrustAsked H s issuer currency msg) : Origin H s s' env sender msg k o := by
  have hfee : s'.config.xrplBaseFee = s₁.config.xrplBaseFee := by cases h; rfl
  rcases h.operation hk with ⟨hhead, rfl⟩ | hold
  · refine .created rfl hfee.symm (fun a hs => ?_) hl
    obtain ⟨hsender, hmsg⟩ := ht a hs
    exact ⟨hsender, ha ▸ hhead, hmsg⟩
  · rw [show s₁.pendingOperations = _ from congrArg Prod.fst hi] at hold
    exact .kept hold rfl rfl (fun hf => hf.trans ((congrArg Prod.snd hi).symm.trans hfee.symm)) (by simp [hno])

/-- **Every operation that is pending after a call has an origin.** -/
theorem Contract.Effect.origin (h : Effect H s q env sender funds msg s' ms)
    (hk : s'.pendingOperations[k]? = some o) : Origin H s s' env sender msg k o := by
  cases h with
  | voted _ hv => exact .of_same hk hv.issued (ended_of_not_reaches hv.reaches)
  | receivedXRPL _ hv _ _ _ hc => exact .of_same hk ((handleFeeCollection_issued hc).trans hv.issued) rfl
  | receivedCosmos _ hv _ _ _ hc => exact .of_same hk ((handleFeeCollection_issued hc).trans hv.issued) rfl
  | @completed e _ s₂ _ id _ _ _ _ hv hid ho _ hh hset =>
    have hended := ended_of_reaches hv.reaches hid ho
    have hend : (endOperation s₂ e.transactionResult id e.ticketSequence).issued =
        (s.pendingOperations.erase id, s.config.xrplBaseFee) :=
      hh.issued_endOperation.trans (congrArg (fun i => (i.1.erase id, i.2)) hv.issued)
    cases hset with
    | registered _ _ hr =>
      have hfee : s'.config.xrplBaseFee = s.config.xrplBaseFee := by
        have := congrArg Prod.snd hend
        cases hr <;> exact this
      rcases hr.operation hk with rfl | hold
      · exact .created rfl ((congrArg Prod.snd hend).trans hfee.symm) nofun nofun
      · rw [show (endOperation ..).pendingOperations = _ from congrArg Prod.fst hend] at hold
        obtain ⟨hne, hold⟩ := getElem?_of_erase hold
        refine .kept hold rfl rfl (fun hf => hf.trans hfee.symm) fun _ _ he => hne ?_
        rw [hended] at he
        cases he
        rfl
    | unregistered => exact .of_erase hk hend hended
  | cancelled ho hh => exact .of_erase hk hh.issued_endOperation (ended_cancelled ho)
  | sentXRPL _ _ _ hc ho =>
    refine ho.origin hk (handleFeeCollection_issued hc) (handleFeeCollection_available hc) rfl (fun a ha => ?_) nofun
    exact ⟨(Option.some.inj ha).symm, _, _, rfl⟩
  | sentCosmos _ _ _ _ _ _ hc ho =>
    refine ho.origin hk (handleFeeCollection_issued hc) (handleFeeCollection_available hc) rfl (fun a ha => ?_) nofun
    exact ⟨(Option.some.inj ha).symm, _, _, rfl⟩
  | registeredXRPL hi hc _ _ _ ho =>
    refine ho.origin hk rfl rfl rfl nofun fun issuer currency limit heq => ?_
    cases heq
    exact .registered hi hc
  | recoveredXRPL _ _ ho =>
    refine ho.origin hk rfl rfl rfl nofun fun issuer currency limit heq => ?_
    cases heq
    exact .recovered
  | rotating _ _ ho => exact ho.origin hk rfl rfl rfl nofun nofun
  | recovering =>
    rcases getElem?_of_insert hk with ⟨rfl, rfl⟩ | ⟨-, hold⟩
    · exact .created rfl rfl nofun nofun
    · exact .kept hold rfl rfl id nofun
  | signed ho =>
    rcases getElem?_of_insert hk with ⟨rfl, rfl⟩ | ⟨-, hold⟩
    · exact .kept ho rfl rfl id nofun
    · exact .kept hold rfl rfl id nofun
  | repriced =>
    rw [getElem?_map_const, Option.map_eq_some_iff] at hk
    obtain ⟨old, hold, rfl⟩ := hk
    exact .kept hold rfl rfl (fun _ => rfl) nofun
  | claimedFees _ ht =>
    obtain ⟨⟨_, rfl⟩, -⟩ := substractRelayerFees_eq_ok ht
    exact .of_same hk rfl rfl
  | _ => exact .of_same hk rfl rfl

/-- **Every pending operation has the bridge's fee**, in every run. -/
theorem run_baseFee (h : Started H w) (calls : List Call) :
    ∀ (k : ℕ) (o : Operation), (run (step H) w calls).store.pendingOperations[k]? = some o →
      o.xrplBaseFee = (run (step H) w calls).store.config.xrplBaseFee := by
  refine run_storage (P := fun s => ∀ (k : ℕ) (o : Operation), s.pendingOperations[k]? = some o →
    o.xrplBaseFee = s.config.xrplBaseFee) h ?_ ?_ calls
  · obtain ⟨msg, m, -, -, -, -, hs⟩ := started_eq h
    rw [hs]
    simp [initialStorage]
  · intro s s' q env sender funds msg ms hp he k o hk
    cases he.origin hk with
    | kept hold _ _ hfee => exact hfee (hp k _ hold)
    | created _ hfee => exact hfee

end XrplBridge
