import XrplBridge.Protocol.Flags
import XrplBridge.Protocol.Polls

/-!
# The rotation of keys

A rotation is requested by the owner, which halts the bridge, and comes into force when
the relayers report that it was accepted. In between nothing resumes the bridge, and
nothing but an accepted rotation ever replaces the relayers or their threshold.
-/

namespace XrplBridge

open Library Contract Std

variable {H : Host} {s s' : Storage} {w : World} {sender : Addr} {msg : ExecuteMsg}

/-- Only a rotation that comes into force replaces the relayers. -/
theorem Polled.relayers (h : Polled H s sender s' msg) (hr : rotation H s msg = none) :
    s'.config.relayers = s.config.relayers ∧ s'.config.evidenceThreshold = s.config.evidenceThreshold := by
  cases h with
  | kept _ hs => exact ⟨congrArg Polls.relayers hs, congrArg Polls.evidenceThreshold hs⟩
  | counted _ hv _ hs =>
    obtain ⟨_, _, rfl⟩ := hv.frame
    exact ⟨congrArg Polls.relayers hs, congrArg Polls.evidenceThreshold hs⟩
  | rotated _ _ hrot => rw [hr] at hrot; cases hrot

/-- A rotation that comes into force sets the new relayers and drops every vote. -/
theorem Polled.rotation {rs : List Relayer} {n : ℕ} (h : Polled H s sender s' msg)
    (hr : rotation H s msg = some (rs, n)) :
    s'.config.relayers = rs ∧ s'.config.evidenceThreshold = n ∧ s'.txEvidences = ∅ := by
  cases h with
  | kept hother => rw [rotation_eq_none hother] at hr; cases hr
  | counted _ _ hno => rw [hr] at hno; cases hno
  | rotated _ _ hrot hs =>
    rw [hr] at hrot
    cases hrot
    exact ⟨congrArg Polls.relayers hs, congrArg Polls.evidenceThreshold hs, congrArg Polls.txEvidences hs⟩

/-! ### The bridge stays halted -/

/-- The end of an operation neither halts nor resumes the bridge. -/
theorem Books.Step.bridgeState {b b' : Books} {c : Completion} (h : b.Step (some c) b') :
    b'.bridgeState = b.bridgeState := by
  cases h with
  | completed _ _ _ _ _ hset =>
    have hfin : (b.finish c.operationId c.operation.operationType c.evidence.transactionResult
        c.evidence.tickets c.evidence.ticketSequence).bridgeState = b.bridgeState := by rw [finish_eq]
    split_ifs at hset
    · cases hset <;> exact hfin
    · rw [hset, hfin]

/-- The request of a rotation halts the bridge. -/
theorem Contract.Effect.halts {q : Querier} {env : BlockInfo} {funds : List Coin} {ms : List SubMsg}
    {rs : List Relayer} {n : ℕ} (h : Effect H s q env sender funds (.rotateKeys rs n) s' ms) :
    s'.config.bridgeState = .halted := by
  cases h with
  | rotating _ _ ho => cases ho; rfl

/-- A halted bridge stays halted, unless its owner resumes it while no rotation is pending. -/
theorem Contract.Effect.staysHalted {q : Querier} {env : BlockInfo} {funds : List Coin} {ms : List SubMsg}
    (h : Effect H s q env sender funds msg s' ms) (hs : s.config.bridgeState = .halted) :
    s'.config.bridgeState = .halted ∨
      msg = .resumeBridge ∧ isOwner s sender = true ∧ s.pendingRotateKeys = false := by
  have hbooks := h.books
  cases h with
  | voted _ hv => exact .inl ((congrArg Books.bridgeState hv.books).trans hs)
  | receivedXRPL _ hv _ _ _ hc =>
    exact .inl ((congrArg Books.bridgeState ((handleFeeCollection_books hc).trans hv.books)).trans hs)
  | receivedCosmos _ hv _ _ _ hc =>
    exact .inl ((congrArg Books.bridgeState ((handleFeeCollection_books hc).trans hv.books)).trans hs)
  | completed _ _ hv hid ho =>
    rw [completion_of_reaches hv.reaches hid ho] at hbooks
    exact .inl (hbooks.bridgeState.trans hs)
  | @cancelled k o _ _ ho hh =>
    have hfin := hh.finish k o.ticketSequence
    rw [Books.finish_eq] at hfin
    exact .inl ((congrArg Books.bridgeState hfin).trans hs)
  | sentXRPL _ _ _ hc ho =>
    cases ho
    exact .inl ((congrArg Books.bridgeState (handleFeeCollection_books hc)).trans hs)
  | sentCosmos _ _ _ _ _ _ hc ho =>
    cases ho
    exact .inl ((congrArg Books.bridgeState (handleFeeCollection_books hc)).trans hs)
  | registeredXRPL _ _ _ _ _ ho => cases ho; exact .inl hs
  | recoveredXRPL _ _ ho => cases ho; exact .inl hs
  | rotating _ _ ho => cases ho; exact .inl rfl
  | claimedFees _ ht =>
    obtain ⟨⟨_, rfl⟩, -⟩ := substractRelayerFees_eq_ok ht
    exact .inl hs
  | resumed howner hno => exact .inr ⟨rfl, howner, hno⟩
  | halted => exact .inl rfl
  | _ => exact .inl hs

/-- A successful `ResumeBridge` of the owner, with no rotation pending, among the calls of a run. -/
def Resumed (H : Host) (w : World) (calls : List Call) : Prop :=
  ∃ pre c post r, calls = pre ++ c :: post ∧ c.msg = .resumeBridge ∧
    isOwner (run (step H) w pre).store c.sender = true ∧
    (run (step H) w pre).store.pendingRotateKeys = false ∧ step H (run (step H) w pre) c = .ok r

/-- From a halted bridge on, it stays halted until it is resumed. -/
theorem run_halted (h : Started H w) (calls : List Call)
    (hs : (run (step H) w calls).store.config.bridgeState = .halted) (later : List Call) :
    (run (step H) (run (step H) w calls) later).store.config.bridgeState = .halted ∨
      Resumed H (run (step H) w calls) later := by
  refine run_induction (P := fun later (w' : World) =>
    w'.store.config.bridgeState = .halted ∨ Resumed H (run (step H) w calls) later) (.inl hs) ?_ ?_ later
  · rintro later c w' r (hhalt | ⟨pre, d, post, x, rfl, hd⟩) hstep
    · have heff := hstep
      rw [← run_append] at heff
      have hhalt' := hhalt
      rw [← run_append] at hhalt'
      rcases (run_effect h heff).staysHalted hhalt' with hh | ⟨hmsg, howner, hno⟩
      · exact .inl hh
      · rw [run_append] at howner hno
        exact .inr ⟨later, c, [], _, rfl, hmsg, howner, hno, hstep⟩
    · exact .inr ⟨pre, d, post ++ [c], x, by simp, hd⟩
  · rintro later c f (hhalt | ⟨pre, d, post, x, rfl, hd⟩) -
    · exact .inl hhalt
    · exact .inr ⟨pre, d, post ++ [c], x, by simp, hd⟩

/-- **The rotation of keys.** The flag says whether the one rotation is pending, and the
bridge is halted while it is; the relayers and their threshold are replaced by the accepted
rotation only, exactly as requested and with all votes dropped; and from a request on the
bridge stays halted until the owner resumes it with no rotation pending. -/
theorem rotation_protocol (h : Started H w) (calls : List Call) :
    let s := (run (step H) w calls).store
    (s.pendingRotateKeys = true ↔
      ∃! k : ℕ, ∃ o : Operation, s.pendingOperations[k]? = some o ∧ ∃ rs n, o.operationType = .rotateKeys rs n) ∧
    (s.pendingRotateKeys = false ↔
      ∀ (k : ℕ) (o : Operation), s.pendingOperations[k]? = some o → ¬ ∃ rs n, o.operationType = .rotateKeys rs n) ∧
    (s.pendingRotateKeys = true → s.config.bridgeState = .halted) ∧
    ∀ c w' r, step H (run (step H) w calls) c = .ok (w', r) →
      (∀ rs n, rotation H s c.msg = some (rs, n) →
        w'.store.config.relayers = rs ∧ w'.store.config.evidenceThreshold = n ∧ w'.store.txEvidences = ∅) ∧
      (rotation H s c.msg = none → w'.store.config.relayers = s.config.relayers ∧
        w'.store.config.evidenceThreshold = s.config.evidenceThreshold) ∧
      (∀ rs n, c.msg = .rotateKeys rs n → ∀ later,
        (run (step H) w' later).store.config.bridgeState = .halted ∨ Resumed H w' later) := by
  have hflags := run_flags h calls
  have hflag := flag_iff hflags.rotating
  simp only [← OperationType.isRotation_iff, Bool.not_eq_true]
  refine ⟨hflag.1, hflag.2, hflags.halted, fun c w' r hstep => ?_⟩
  have heff := run_effect h hstep
  refine ⟨fun rs n hr => heff.polled.rotation hr, fun hr => heff.polled.relayers hr, fun rs n hmsg later => ?_⟩
  rw [hmsg] at heff
  have hhalted := heff.halts
  rw [← run_snoc_ok hstep] at hhalted ⊢
  exact run_halted h _ hhalted later

open Reference in
/-- While a rotation is pending, with the tickets 1 to 3 allocated, the bridge is halted. -/
theorem rotation_protocol_pending :
    (run (step host) world₁ [recover, vote 2 relayer₁ allocation, rotate]).store.config.bridgeState = .halted :=
  (rotation_protocol started_world₁ _).2.2.1 (by decide +kernel)

end XrplBridge
