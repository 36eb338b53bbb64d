import XrplBridge.Protocol.Rotation

/-!
# The halted bridge

Halting is a kill switch: while the bridge is halted no coin moves, no token is registered or
changed, and the pending TrustSets and transfers stay as they are, apart from the fee they are
signed for (`Still`). The evidences of transaction results are the exception that the switch
misses: those of a TrustSet or of a transfer are still accepted, and end the operation
(`halted_iff`). The owner's cancellations, and the coins the owner mints, are exempt.
-/

namespace XrplBridge

open Library Contract Std

/-- The operation moves tokens, or makes a token available. -/
def Contract.OperationType.bridges : OperationType → Bool
  | .trustSet _ _ _ | .cosmosToXRPLTransfer _ _ _ _ _ _ => true
  | _ => false

/-- The message mints, burns or sends coins. -/
def Contract.CosmosMsg.movesCoins : CosmosMsg → Bool
  | .bankSend _ _ | .wasmExecute _ (.tokenFactory (.mintTokens _ _ _)) _
  | .wasmExecute _ (.tokenFactory (.burnTokens _ _ _)) _ => true
  | _ => false

/-- The TrustSet or transfer that is pending under a number. -/
def Contract.Storage.bridging (s : Storage) (k : ℕ) : Option Operation :=
  s.pendingOperations[k]?.filter fun o => o.operationType.bridges

/-- The messages that the kill switch does not stop. -/
def Contract.ExecuteMsg.exempt : ExecuteMsg → Bool
  | .cancelPendingOperation _ | .createCosmosToken _ _ | .mintCosmosToken _ _ => true
  | _ => false

/-- The call is an evidence of the result of a TrustSet or a transfer. -/
def endsBridging (s : Storage) : ExecuteMsg → Prop
  | .saveEvidence (.xrplTransactionResult e) => ∃ k o, e.operationId = some k ∧ s.bridging k = some o
  | _ => False

/-- What a call leaves as it is while the bridge is halted. -/
structure Still (s : Storage) (msg : ExecuteMsg) (s' : Storage) (ms : List SubMsg) : Prop where
  /-- A TrustSet or transfer that is pending after the call was pending before, and has no new signature. -/
  noneCreated : ∀ k o', s'.bridging k = some o' → ∃ o, s.bridging k = some o ∧ o'.id = o.id ∧
    o'.operationType = o.operationType ∧ o'.signatures ⊆ o.signatures
  /-- None is completed. -/
  noneCompleted : ∀ k o, s.bridging k = some o → ∃ o', s'.bridging k = some o' ∧ o'.id = o.id ∧
    o'.operationType = o.operationType
  /-- Only evidences of allocations and of rotations are accepted. -/
  evidences : ∀ e, msg = .saveEvidence e → ∃ r k o, e = .xrplTransactionResult r ∧ r.operationId = some k ∧
    s.pendingOperations[k]? = some o ∧ (o.operationType.isAllocation = true ∨ o.operationType.isRotation = true)
  /-- No coins are minted, burnt or sent. -/
  messages : ∀ m ∈ ms, m.msg.movesCoins = false
  refunds : s'.pendingRefunds = s.pendingRefunds
  fees : s'.feesCollected = s.feesCollected
  remainders : s'.feeRemainders = s.feeRemainders
  xrplTokens : s'.xrplTokens = s.xrplTokens
  cosmosTokens : s'.cosmosTokens = s.cosmosTokens

variable {H : Host} {s s' s₁ : Storage} {w w' : World} {k : ℕ} {o : Operation}

/-! ### The pending TrustSets and transfers -/

theorem bridging_eq_some : s.bridging k = some o ↔
    s.pendingOperations[k]? = some o ∧ o.operationType.bridges = true := by
  simp [Storage.bridging, Option.filter_eq_some_iff]

theorem bridges_eq_false {t : OperationType} :
    t.bridges = false ↔ t.isAllocation = true ∨ t.isRotation = true := by
  cases t <;> simp [OperationType.bridges]

/-- A TrustSet or a transfer is valid while the bridge is active only. -/
theorem active_of_bridges {t : OperationType} {u : Unit} (h : checkValidOperationIfHalt s t = .ok u)
    (ht : t.bridges = true) : s.config.bridgeState = .active :=
  active_of_checkValidOperationIfHalt h (fun n hn => by rw [hn] at ht; cases ht)
    fun rs n hn => by rw [hn] at ht; cases ht

theorem Contract.Opens.active {timestamp : ℕ} {t : OperationType} (h : Opens s timestamp t s')
    (ht : t.bridges = true) : s.config.bridgeState = .active := by
  cases h with
  | intro _ _ _ hv => exact active_of_bridges hv ht

theorem bridging_insert (hk : s.bridging k = none) (ho : o.operationType.bridges = false) (a : ℕ) :
    ({ s with pendingOperations := s.pendingOperations.insert k o } : Storage).bridging a = s.bridging a := by
  unfold Storage.bridging
  by_cases ha : k = a
  · subst ha
    rw [show s.pendingOperations[k]?.filter _ = none from hk]
    simp [ho]
  · simp only [getElem?_insert_ne ha]

theorem bridging_erase (hk : s.bridging k = none) (a : ℕ) :
    ({ s with pendingOperations := s.pendingOperations.erase k } : Storage).bridging a = s.bridging a := by
  unfold Storage.bridging
  by_cases ha : k = a
  · subst ha
    rw [show s.pendingOperations[k]?.filter _ = none from hk]
    simp
  · simp only [getElem?_erase_ne ha]

theorem bridging_eq_none (hk : s.pendingOperations[k]? = some o) (ho : o.operationType.bridges = false) :
    s.bridging k = none := by
  simp [Storage.bridging, hk, ho]

theorem bridging_of_unused (hk : s.pendingOperations[k]? = none) : s.bridging k = none := by
  simp [Storage.bridging, hk]

/-- The storage apart from what a halted bridge may change. -/
def Contract.Storage.ledgers (s : Storage) :
    ExtTreeMap RefundKey PendingRefund × ExtTreeMap Addr (List Coin) × ExtTreeMap String ℕ × XRPLTokens ×
      CosmosTokens :=
  (s.pendingRefunds, s.feesCollected, s.feeRemainders, s.xrplTokens, s.cosmosTokens)

/-- No ledger changes, and no pending TrustSet or transfer. -/
def Frozen (s s' : Storage) : Prop := s'.ledgers = s.ledgers ∧ ∀ a, s'.bridging a = s.bridging a

theorem Frozen.refl (s : Storage) : Frozen s s := ⟨rfl, fun _ => rfl⟩

theorem Frozen.trans {s₂ : Storage} (h : Frozen s s₁) (h' : Frozen s₁ s₂) : Frozen s s₂ :=
  ⟨h'.1.trans h.1, fun a => (h'.2 a).trans (h.2 a)⟩

theorem Contract.Votes.frozen {sender : Addr} {e : Evidence} {reached : Bool}
    (h : Votes H s sender e s' reached) : Frozen s s' := by
  cases h <;> exact .refl s

theorem Contract.Opens.frozen {timestamp : ℕ} {operationType : OperationType}
    (h : Opens s timestamp operationType s') (ho : operationType.bridges = false) : Frozen s s' := by
  cases h with
  | intro _ _ hun => exact ⟨rfl, bridging_insert (bridging_of_unused hun) ho⟩

theorem Contract.Registers.frozen {timestamp : ℕ} (h : Registers s timestamp s') : Frozen s s' := by
  cases h with
  | counted => exact .refl s
  | exhausted => exact .refl s
  | allocating _ _ _ _ hun => exact ⟨rfl, bridging_insert (bridging_of_unused hun) rfl⟩

theorem endOperation_frozen {result : TransactionResult} {ticket : Option ℕ} (hk : s.bridging k = none) :
    Frozen s (endOperation s result k ticket) := by
  obtain ⟨_, hend⟩ := endOperation_frame s result k ticket
  rw [hend]
  exact ⟨rfl, bridging_erase hk⟩

theorem Contract.Settles.frozen {env : BlockInfo} {e : ResultEvidence} (h : Settles s env e k s')
    (hk : s.bridging k = none) : Frozen s s' := by
  cases h with
  | registered _ _ hr => exact (endOperation_frozen hk).trans hr.frozen
  | unregistered => exact endOperation_frozen hk

/-- The end of an allocation or of a rotation moves nothing. -/
theorem Contract.Handled.frozen {operationResult : Option OperationResult} {result : TransactionResult}
    {txHash : Option String} {tokenFactoryAddr burnAddr : Addr} {msgs : List CosmosMsg}
    (h : Handled s o operationResult result txHash tokenFactoryAddr burnAddr s' msgs)
    (ho : o.operationType.bridges = false) : Frozen s s' ∧ msgs = [] := by
  cases h with
  | allocated => exact ⟨.refl s, rfl⟩
  | notAllocated => exact ⟨.refl s, rfl⟩
  | rotated => exact ⟨.refl s, rfl⟩
  | notRotated => exact ⟨.refl s, rfl⟩
  | trustSet ht => rw [ht] at ho; cases ho
  | burnt ht => rw [ht] at ho; cases ho
  | refunded ht => rw [ht] at ho; cases ho
  | escrowed ht => rw [ht] at ho; cases ho
  | released ht => rw [ht] at ho; cases ho

theorem Contract.RateLimitOnly.movesCoins {msgs : List CosmosMsg} (h : RateLimitOnly msgs) :
    ∀ m ∈ plain msgs, m.msg.movesCoins = false := by
  intro m hm
  obtain ⟨c, hc, rfl⟩ := List.mem_map.mp hm
  obtain ⟨addr, rm, rfl⟩ := h c hc
  rfl

/-- What is frozen is still, as long as only allocations and rotations are reported. -/
theorem Still.of_frozen {msg : ExecuteMsg} {ms : List SubMsg} (h : Frozen s s')
    (hms : ∀ m ∈ ms, m.msg.movesCoins = false)
    (he : ∀ e, msg = .saveEvidence e → ∃ r k o, e = .xrplTransactionResult r ∧ r.operationId = some k ∧
      s.pendingOperations[k]? = some o ∧
        (o.operationType.isAllocation = true ∨ o.operationType.isRotation = true)) : Still s msg s' ms := by
  obtain ⟨hl, hb⟩ := h
  refine ⟨fun k o' ho => ⟨o', hb k ▸ ho, rfl, rfl, fun _ => id⟩, fun k o ho => ⟨o, (hb k).trans ho, rfl, rfl⟩, he,
    hms, ?_, ?_, ?_, ?_, ?_⟩
  · exact congrArg (fun l => l.1) hl
  · exact congrArg (fun l => l.2.1) hl
  · exact congrArg (fun l => l.2.2.1) hl
  · exact congrArg (fun l => l.2.2.2.1) hl
  · exact congrArg (fun l => l.2.2.2.2) hl

/-! ### A call while the bridge is halted -/

/-- What a vote that is admitted is about, unless it is about a TrustSet or a transfer. -/
theorem Contract.Admits.result_of_halted {e : Evidence} (h : Admits s e) (hs : s.config.bridgeState = .halted)
    (hno : ¬ endsBridging s (.saveEvidence e)) :
    ∃ r k o, e = .xrplTransactionResult r ∧ r.operationId = some k ∧ s.pendingOperations[k]? = some o ∧
      (o.operationType.isAllocation = true ∨ o.operationType.isRotation = true) := by
  cases h with
  | transfer hactive => rw [hs] at hactive; cases hactive
  | @result e k o hid ho =>
    refine ⟨e, k, o, rfl, hid, ho, bridges_eq_false.mp ?_⟩
    by_contra hb
    exact hno ⟨k, o, hid, bridging_eq_some.mpr ⟨ho, by simpa using hb⟩⟩

theorem Contract.Effect.still {q : Querier} {env : BlockInfo} {sender : Addr} {funds : List Coin}
    {msg : ExecuteMsg} {ms : List SubMsg} (h : Effect H s q env sender funds msg s' ms)
    (hs : s.config.bridgeState = .halted) (hx : msg.exempt = false) (hno : ¬ endsBridging s msg) :
    Still s msg s' ms := by
  have hactive : s.config.bridgeState ≠ .active := by rw [hs]; exact BridgeState.noConfusion
  cases h with
  | voted _ hv hadm =>
    refine .of_frozen hv.frozen (by simp) fun e he => ?_
    cases he
    exact hadm.result_of_halted hs hno
  | receivedXRPL _ _ _ _ _ _ _ _ ha => exact absurd ha hactive
  | receivedCosmos _ _ _ _ _ _ _ _ ha => exact absurd ha hactive
  | @completed e _ _ _ k o _ _ _ hv hid ho hk hh hset =>
    have hb : o.operationType.bridges = false := by
      by_contra hb
      exact hno ⟨k, o, hid, bridging_eq_some.mpr ⟨ho, by simpa using hb⟩⟩
    obtain ⟨hfrozen, rfl⟩ := hh.frozen hb
    have hbefore : Frozen s _ := hv.frozen.trans hfrozen
    refine .of_frozen (hbefore.trans (hset.frozen ?_)) (by simp [plain]) fun e' he => ?_
    · rw [hbefore.2, bridging_eq_none ho hb]
    · cases he
      exact ⟨e, k, o, rfl, hid, ho, bridges_eq_false.mp hb⟩
  | cancelled => cases hx
  | sentXRPL _ _ _ hc ho =>
    have ha := ho.active rfl
    rw [handleFeeCollection_bridgeState hc] at ha
    exact absurd ha hactive
  | sentCosmos _ _ _ _ _ _ hc ho =>
    have ha := ho.active rfl
    rw [handleFeeCollection_bridgeState hc] at ha
    exact absurd ha hactive
  | registeredXRPL _ _ _ _ _ ho => exact absurd (ho.active rfl) hactive
  | recoveredXRPL _ _ ho => exact absurd (ho.active rfl) hactive
  | rotating _ _ ho => exact .of_frozen (ho.frozen rfl |>.trans (.refl _)) (by simp) (fun _ he => by cases he)
  | recovering _ _ _ _ hun =>
    exact .of_frozen ⟨rfl, bridging_insert (s := { s with pendingTicketUpdate := true }) (bridging_of_unused hun) rfl⟩
      (by simp) (fun _ he => by cases he)
  | @signed _ _ _ o _ ho hv =>
    have hb : o.operationType.bridges = false := by
      by_contra hb
      exact hactive (active_of_bridges hv (by simpa using hb))
    exact .of_frozen ⟨rfl, bridging_insert (bridging_eq_none ho hb) hb⟩ (by simp) (fun _ he => by cases he)
  | @repriced fee =>
    have hbridging : ∀ a, ({ s with
        config := { s.config with xrplBaseFee := fee }
        pendingOperations := s.pendingOperations.map fun _ o => o.withBaseFee fee } : Storage).bridging a =
          (s.bridging a).map (Operation.withBaseFee fee) := by
      intro a
      simp only [Storage.bridging, getElem?_map_const]
      cases s.pendingOperations[a]? with
      | none => rfl
      | some o => cases hb : o.operationType.bridges <;> simp [Option.filter, Operation.withBaseFee, hb]
    refine ⟨fun k o' ho => ?_, fun k o ho => ?_, (fun _ he => by cases he), by simp, rfl, rfl, rfl, rfl, rfl⟩
    · rw [hbridging, Option.map_eq_some_iff] at ho
      obtain ⟨o, ho, rfl⟩ := ho
      exact ⟨o, ho, rfl, rfl, by simp [Operation.withBaseFee]⟩
    · exact ⟨o.withBaseFee fee, by rw [hbridging, ho]; rfl, rfl, rfl⟩
  | registeredCosmos _ _ _ ha => exact absurd ha hactive
  | updatedXRPL _ _ _ ha => exact absurd ha hactive
  | updatedCosmos _ _ _ ha => exact absurd ha hactive
  | createdToken => cases hx
  | mintedToken => cases hx
  | claimedFees ha => exact absurd ha hactive
  | claimedRefund ha => exact absurd ha hactive
  | rateLimitAdded hl => exact .of_frozen (.refl s) hl.movesCoins (fun _ he => by cases he)
  | rateLimitRemoved hl => exact .of_frozen (.refl s) hl.movesCoins (fun _ he => by cases he)
  | rateLimitReset hl => exact .of_frozen (.refl s) hl.movesCoins (fun _ he => by cases he)
  | _ => exact .of_frozen ⟨rfl, fun _ => rfl⟩ (by simp) (fun _ he => by cases he)

/-- An evidence of the result of a TrustSet or a transfer is not one that should be accepted. -/
theorem Still.not_endsBridging {msg : ExecuteMsg} {ms : List SubMsg} (h : Still s msg s' ms) :
    ¬ endsBridging s msg := by
  intro hends
  unfold endsBridging at hends
  split at hends
  · obtain ⟨k, o, hid, ho⟩ := hends
    obtain ⟨r, a, o', he, hid', ho', hty⟩ := h.evidences _ rfl
    cases he
    rw [hid] at hid'
    cases hid'
    obtain ⟨ho, hb⟩ := bridging_eq_some.mp ho
    rw [ho] at ho'
    cases ho'
    rw [bridges_eq_false.mpr hty] at hb
    cases hb
  · exact hends

/-- **The kill switch.** A call that is not exempt leaves everything still while the bridge is
halted, exactly if it is not an evidence of the result of a TrustSet or a transfer. -/
theorem halted_iff (h : Started H w) (calls : List Call)
    (hs : (run (step H) w calls).store.config.bridgeState = .halted) {c : Call} {r : Response}
    (hstep : step H (run (step H) w calls) c = .ok (w', r)) (hx : c.msg.exempt = false) :
    Still (run (step H) w calls).store c.msg w'.store r.messages ↔
      ¬ endsBridging (run (step H) w calls).store c.msg :=
  ⟨Still.not_endsBridging, fun hno => (run_effect h hstep).still hs hx hno⟩

open Reference in
/-- While the bridge is halted, a rotation is still ended by the relayers, and nothing moves. -/
theorem halted_iff_rotation :
    let w := run (step host) world₁ [recover, vote 2 relayer₁ allocation, rotate]
    let c := vote 4 relayer₁ (.xrplTransactionResult ⟨some "cd34", none, some 1, .accepted, none⟩)
    ∃ w' r, step host w c = .ok (w', r) ∧ Still w.store c.msg w'.store r.messages := by
  intro w c
  obtain ⟨⟨w', r⟩, hstep⟩ := exists_of_isOk (x := step host w c) (by decide +kernel)
  refine ⟨w', r, hstep, (halted_iff started_world₁ _ (by decide +kernel) hstep rfl).mpr ?_⟩
  rintro ⟨k, o, hid, ho⟩
  cases hid
  have : w.store.bridging 1 = none := by decide +kernel
  rw [this] at ho
  cases ho

open Reference in
/-- A transfer was pending when the bridge was halted: its rejection is accepted, and its
sender gets a refund. -/
theorem halted_rejected :
    let w := run (step host) world₁ [recover, vote 2 relayer₁ allocation, send 3 5000000, call 4 owner .haltBridge]
    let c := vote 5 relayer₁ (.xrplTransactionResult ⟨some "cd34", none, some 1, .rejected, none⟩)
    w.store.config.bridgeState = .halted ∧
      ∃ w' r, step host w c = .ok (w', r) ∧ ¬ Still w.store c.msg w'.store r.messages := by
  intro w c
  obtain ⟨hok, hhalted, hbefore, hafter⟩ : (step host w c).isOk = true ∧ w.store.config.bridgeState = .halted ∧
      w.store.pendingRefunds.size = 0 ∧ (commit (step host) w c).store.pendingRefunds.size = 1 := by decide +kernel
  obtain ⟨⟨w', r⟩, hstep⟩ := exists_of_isOk hok
  refine ⟨hhalted, w', r, hstep, fun hstill => ?_⟩
  rw [commit_ok hstep, hstill.refunds, hbefore] at hafter
  cases hafter

end XrplBridge
