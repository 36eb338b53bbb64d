import XrplBridge.Protocol.Quorum

/-!
# Votes and the operations they are about

The votes for the result of a transaction are kept under the hash of the evidence, which
names the operation by its number only. A number is used again once its operation was invalid
or was cancelled, and the votes left over then count for the next operation of that number.

The ledger of a run dates what the contract does not: when the operation pending under a
number was created, and when each stored vote was cast. As long as no number is taken for a
new operation while votes about it are stored (`Clean`), every vote that is counted at the
end of an operation was cast after its creation.
-/

namespace XrplBridge

open Library Contract Std

variable (H : Host)

/-! ### The ledger of a run -/

/-- The number a call takes for a new operation, if the call succeeds: the ticket at the
front of the queue, an account sequence, or the ticket for an allocation that becomes due. -/
def opened (s : Storage) : ExecuteMsg → Option ℕ
  | .sendToXRPL _ _ | .registerXRPLToken _ _ _ _ _ | .recoverXRPLTokenRegistration _ _ | .rotateKeys _ _ =>
    s.availableTickets.head?
  | .recoverTickets accountSequence _ => some accountSequence
  | .saveEvidence (.xrplTransactionResult e) =>
    (completion H s (.saveEvidence (.xrplTransactionResult e))).bind fun c =>
      let b := s.books.finish c.operationId c.operation.operationType e.transactionResult e.tickets
        e.ticketSequence
      if (e.transactionResult ≠ .invalid ∧ e.ticketSequence.isSome = true) ∧ b.threshold ≤ b.used + 1 ∧
          b.updating = false then b.available.head?
      else none
  | _ => none

/-- When things happened in a run, counted in the calls that went through. -/
structure Ledger where
  /-- How many calls have gone through. -/
  now : ℕ
  /-- When the operation pending under a number was created. -/
  born : ℕ → ℕ
  /-- The votes stored under a hash, each with when it was cast. -/
  votes : String → List (Addr × ℕ)

/-- The ledger after one more call. -/
def Ledger.next (l : Ledger) (x : World × Call) : Ledger where
  now := l.now + 1
  born k := if opened H x.1.store x.2.msg = some k then l.now else l.born k
  votes hash :=
    if (rotation H x.1.store x.2.msg).isSome then []
    else
      match x.2.msg with
      | .saveEvidence e =>
        if e.getHash H = hash then
          if x.1.store.reaches H e then [] else l.votes hash ++ [(x.2.sender, l.now)]
        else l.votes hash
      | _ => l.votes hash

/-- The ledger of a run. -/
def ledger (w : World) (calls : List Call) : Ledger :=
  (history (step H) w calls).foldl (Ledger.next H) ⟨0, fun _ => 0, fun _ => []⟩

/-- An evidence can end an operation of a type. -/
def CanEnd (operationType : OperationType) (e : ResultEvidence) : Prop :=
  checkSequenceKind operationType e = .ok () ∧
    (operationType.isAllocation = true → e.operationResult.isSome = true)

/-- An evidence can end the operation that a call creates. -/
def canEndNew (msg : ExecuteMsg) (e : ResultEvidence) : Bool :=
  match msg with
  | .rotateKeys _ _ => true
  | .recoverTickets _ _ | .saveEvidence _ => e.operationResult.isSome
  | _ => e.accountSequence.isNone

/-- A call takes no number for a new operation while votes are stored, and stay so, for an
evidence that names this number and can end the new operation. -/
def Clean (s : Storage) (msg : ExecuteMsg) : Prop :=
  ∀ k, opened H s msg = some k → rotation H s msg = none →
    ∀ e : ResultEvidence, e.operationId = some k → canEndNew msg e = true →
      checkNotProcessed H s (.xrplTransactionResult e) = .ok () →
        msg ≠ .saveEvidence (.xrplTransactionResult e) →
          s.voters ((Evidence.xrplTransactionResult e).getHash H) = []

variable {H} {s s' : Storage} {w : World}

theorem ledger_snoc {calls : List Call} {c : Call} {w' : World} {r : Response}
    (hstep : step H (run (step H) w calls) c = .ok (w', r)) :
    ledger H w (calls ++ [c]) = (ledger H w calls).next H (run (step H) w calls, c) := by
  rw [ledger, history_snoc_ok hstep, List.foldl_append]
  rfl

/-! ### Where an operation comes from -/

/-- A trust line or a transfer is ended by an evidence that names no account sequence. -/
theorem CanEnd.accountSequence_isNone {operationType : OperationType} {e : ResultEvidence} (h : CanEnd operationType e)
    (ha : operationType.isAllocation = false) (hr : operationType.isRotation = false) :
    e.accountSequence.isNone = true := by
  have hkind := h.1
  cases operationType with
  | allocateTickets => cases ha
  | rotateKeys => cases hr
  | trustSet => simpa [checkSequenceKind] using hkind
  | cosmosToXRPLTransfer => simpa [checkSequenceKind] using hkind

/-- An operation that is pending after a call was pending before, or is the one it creates. -/
theorem Contract.Effect.pending {q : Querier} {env : BlockInfo} {sender : Addr} {funds : List Coin}
    {msg : ExecuteMsg} {ms : List SubMsg} (h : Effect H s q env sender funds msg s' ms) {k : ℕ} {en : Entry}
    (hp : s'.books.pending[k]? = some en) :
    opened H s msg = some k ∧ (∀ e, CanEnd en.operationType e → canEndNew msg e = true) ∨
      opened H s msg ≠ some k ∧ s.books.pending[k]? = some en := by
  have hbooks := h.books
  have hno : opened H s msg = none → opened H s msg ≠ some k := by
    intro hnone hopen
    rw [hnone] at hopen
    cases hopen
  cases h with
  | @voted e _ _ hv =>
    refine .inr ⟨?_, by rwa [hv.books] at hp⟩
    cases e with
    | xrplToCosmosTransfer => exact hno rfl
    | xrplTransactionResult => simp [XrplBridge.opened, completion_of_not_reaches hv.reaches]
  | receivedXRPL _ hv _ _ _ hc =>
    rw [handleFeeCollection_books hc, hv.books] at hp
    exact .inr ⟨hno rfl, hp⟩
  | receivedCosmos _ hv _ _ _ hc =>
    rw [handleFeeCollection_books hc, hv.books] at hp
    exact .inr ⟨hno rfl, hp⟩
  | completed _ _ hv hid ho =>
    have hcomp := completion_of_reaches hv.reaches hid ho
    rw [hcomp] at hbooks
    simp only [XrplBridge.opened, hcomp, Option.bind_some]
    cases hbooks with
    | completed _ _ _ _ _ hset =>
      split_ifs at hset with hcond
      · rcases hset.pending hp with ⟨⟨hdue, hhead⟩, hall⟩ | ⟨hnot, hold⟩
        · rw [if_pos ⟨hcond, hdue⟩]
          exact .inl ⟨hhead, fun e he => he.2 hall⟩
        · rw [Books.pending_finish] at hold
          refine .inr ⟨fun hopen => ?_, (getElem?_of_erase hold).2⟩
          split_ifs at hopen with hdue
          exact hnot ⟨hdue.2, hopen⟩
      · rw [hset, Books.pending_finish] at hp
        refine .inr ⟨fun hopen => ?_, (getElem?_of_erase hp).2⟩
        rw [if_neg fun h => hcond h.1] at hopen
        cases hopen
  | @cancelled _ o _ _ _ hh =>
    rw [hh.finish _ o.ticketSequence, Books.pending_finish] at hp
    exact .inr ⟨hno rfl, (getElem?_of_erase hp).2⟩
  | sentXRPL _ _ _ hc ho =>
    have hcases := ho.pending hp
    rw [handleFeeCollection_available hc, handleFeeCollection_books hc] at hcases
    exact hcases.imp_left fun hnew => ⟨hnew.1, fun e he =>
      (hnew.2 ▸ he).accountSequence_isNone rfl rfl⟩
  | sentCosmos _ _ _ _ _ _ hc ho =>
    have hcases := ho.pending hp
    rw [handleFeeCollection_available hc, handleFeeCollection_books hc] at hcases
    exact hcases.imp_left fun hnew => ⟨hnew.1, fun e he =>
      (hnew.2 ▸ he).accountSequence_isNone rfl rfl⟩
  | registeredXRPL _ _ _ _ _ ho =>
    exact (ho.pending hp).imp_left fun hnew => ⟨hnew.1, fun e he =>
      (hnew.2 ▸ he).accountSequence_isNone rfl rfl⟩
  | recoveredXRPL _ _ ho =>
    exact (ho.pending hp).imp_left fun hnew => ⟨hnew.1, fun e he =>
      (hnew.2 ▸ he).accountSequence_isNone rfl rfl⟩
  | rotating _ _ ho => exact (ho.pending hp).imp_left fun hnew => ⟨hnew.1, fun _ _ => rfl⟩
  | recovering =>
    simp only [Storage.books, map_insert] at hp ⊢
    rcases getElem?_of_insert hp with ⟨rfl, rfl⟩ | ⟨hne, hold⟩
    · exact .inl ⟨rfl, fun e he => he.2 rfl⟩
    · exact .inr ⟨fun h => hne (Option.some.inj h), hold⟩
  | signed ho =>
    rw [books_signed ho] at hp
    exact .inr ⟨hno rfl, hp⟩
  | repriced =>
    rw [books_repriced] at hp
    exact .inr ⟨hno rfl, hp⟩
  | claimedFees _ ht =>
    obtain ⟨⟨_, rfl⟩, -⟩ := substractRelayerFees_eq_ok ht
    exact .inr ⟨hno rfl, hp⟩
  | _ => exact .inr ⟨hno rfl, hp⟩

/-- What ends an operation could end it. -/
theorem Contract.Effect.canEnd {q : Querier} {env : BlockInfo} {sender : Addr} {funds : List Coin}
    {e : ResultEvidence} {ms : List SubMsg} {k : ℕ} {o : Operation}
    (h : Effect H s q env sender funds (.saveEvidence (.xrplTransactionResult e)) s' ms)
    (hid : e.operationId = some k) (ho : s.pendingOperations[k]? = some o)
    (hr : s.reaches H (.xrplTransactionResult e) = true) : CanEnd o.operationType e := by
  cases h with
  | voted _ hv => rw [hv.reaches] at hr; cases hr
  | completed _ _ _ hid' ho' hk hh =>
    rw [hid] at hid'
    cases hid'
    rw [ho] at ho'
    cases ho'
    refine ⟨hk, fun hall => ?_⟩
    obtain ⟨_, hres⟩ := hh.allocationResult hall
    rw [hres]
    rfl

/-! ### The dates -/

/-- The ledger is the contract's, and no vote is older than the operation it can end. -/
structure Dated (H : Host) (s : Storage) (l : Ledger) : Prop where
  /-- The votes of the ledger are the stored ones. -/
  votes : ∀ hash, (l.votes hash).map Prod.fst = s.voters hash
  /-- A pending operation has been created. -/
  born : ∀ k en, s.books.pending[k]? = some en → l.born k < l.now
  /-- A vote for an evidence that can end it was cast later. -/
  after : ∀ k en, s.books.pending[k]? = some en → ∀ e : ResultEvidence, e.operationId = some k →
    CanEnd en.operationType e → checkNotProcessed H s (.xrplTransactionResult e) = .ok () →
      ∀ v ∈ l.votes ((Evidence.xrplTransactionResult e).getHash H), l.born k < v.2

/-- A vote after one more call is an old one, or this call's. -/
theorem Ledger.mem_next {l : Ledger} {x : World × Call} {hash : String} {v : Addr × ℕ}
    (hv : v ∈ (l.next H x).votes hash) : v ∈ l.votes hash ∨ v.2 = l.now := by
  simp only [Ledger.next] at hv
  split at hv
  · cases hv
  · split at hv
    · split_ifs at hv
      · cases hv
      · rcases List.mem_append.mp hv with hv | hv
        · exact .inl hv
        · exact .inr (by rw [List.mem_singleton.mp hv])
      · exact .inl hv
    · exact .inl hv

/-- A number is taken when no vote about it is left. -/
theorem Clean.next {l : Ledger} {c : Call} {k : ℕ} {e : ResultEvidence} (hc : Clean H w.store c.msg)
    (hvotes : ∀ hash, (l.votes hash).map Prod.fst = w.store.voters hash)
    (hk : opened H w.store c.msg = some k) (he : e.operationId = some k) (hend : canEndNew c.msg e = true)
    (hf : checkNotProcessed H w.store (.xrplTransactionResult e) = .ok ()) :
    (l.next H (w, c)).votes ((Evidence.xrplTransactionResult e).getHash H) = [] := by
  simp only [Ledger.next]
  split
  · rfl
  · rename_i hrot
    have hnone : rotation H w.store c.msg = none := by simpa using hrot
    have hold : c.msg ≠ .saveEvidence (.xrplTransactionResult e) →
        l.votes ((Evidence.xrplTransactionResult e).getHash H) = [] := fun hne => by
      have := hvotes ((Evidence.xrplTransactionResult e).getHash H)
      rwa [hc k hk hnone e he hend hf hne, List.map_eq_nil_iff] at this
    split
    · rename_i e' hmsg
      split_ifs with hh hr
      · rfl
      · -- only the vote that reaches the threshold takes a number
        rw [hmsg] at hk
        cases e' with
        | xrplToCosmosTransfer => cases hk
        | xrplTransactionResult e' =>
          rw [opened, completion_of_not_reaches (by simpa using hr)] at hk
          cases hk
      · exact hold fun heq => hh (by rw [hmsg] at heq; rw [ExecuteMsg.saveEvidence.inj heq])
    · rename_i hother
      exact hold fun heq => hother _ heq

theorem Dated.step {l : Ledger} {c : Call} {w' : World} {r : Response}
    (h : Dated H w.store l)
    (heff : Effect H w.store (w.bank.credit c.funds).querier c.env c.sender c.funds c.msg w'.store r.messages)
    (hc : Clean H w.store c.msg) : Dated H w'.store (l.next H (w, c)) := by
  refine ⟨fun hash => ?_, fun k en hk => ?_, fun k en hk e he hend hf v hv => ?_⟩
  · rw [heff.polled.votersAfter]
    unfold Storage.votersAfter
    simp only [Ledger.next]
    generalize c.msg = msg
    split
    · rfl
    · cases msg with
      | saveEvidence e =>
        dsimp only
        split_ifs
        · rfl
        · rw [List.map_append, h.votes]
          rfl
        · exact h.votes hash
      | _ => exact h.votes hash
  · rcases heff.pending hk with ⟨hopen, -⟩ | ⟨hopen, hold⟩
    · simp [Ledger.next, hopen]
    · have := h.born k en hold
      simp only [Ledger.next, if_neg hopen]
      omega
  · have hf' := heff.polled.checkNotProcessed hf
    rcases heff.pending hk with ⟨hopen, hnew⟩ | ⟨hopen, hold⟩
    · rw [hc.next h.votes hopen he (hnew e hend) hf'] at hv
      cases hv
    · simp only [Ledger.next, if_neg hopen]
      rcases Ledger.mem_next hv with hmem | hnow
      · exact h.after k en hold e he hend hf' v hmem
      · rw [hnow]
        exact h.born k en hold

theorem run_dated (h : Started H w) (calls : List Call)
    (hclean : ∀ x ∈ history (step H) w calls, Clean H x.1.store x.2.msg) :
    Dated H (run (step H) w calls).store (ledger H w calls) := by
  refine run_induction (P := fun calls (w' : World) =>
    (∀ x ∈ history (step H) w calls, Clean H x.1.store x.2.msg) → Dated H w'.store (ledger H w calls))
    ?_ ?_ ?_ calls hclean
  · intro _
    obtain ⟨_, _, -, -, -, -, hs⟩ := started_eq h
    rw [hs]
    refine ⟨fun _ => ?_, fun k en hk => ?_, fun k en hk => ?_⟩
    · simp [ledger, history, Storage.voters, initialStorage]
    · simp [Storage.books, initialStorage] at hk
    · simp [Storage.books, initialStorage] at hk
  · intro calls c w' r ih hstep hclean
    rw [history_snoc_ok hstep] at hclean
    rw [ledger_snoc hstep]
    exact (ih fun x hx => hclean x (List.mem_append_left _ hx)).step (run_effect h hstep)
      (hclean _ (List.mem_append_right _ (List.mem_singleton.mpr rfl)))
  · intro calls c f ih hstep hclean
    rw [history_snoc_error hstep] at hclean
    rw [ledger, history_snoc_error hstep]
    exact ih hclean

/-- **Votes are about the operation they end**, in a run that takes no number for a new
operation while votes about it are stored: the votes that are counted at the end of an
operation are as many as the threshold, and each was cast after the operation was created. -/
theorem votes_afterCreation (h : Started H w) (calls : List Call)
    (hclean : ∀ x ∈ history (step H) w calls, Clean H x.1.store x.2.msg) {c : Call} {w' : World} {r : Response}
    {x : Completion} (hstep : step H (run (step H) w calls) c = .ok (w', r))
    (hcomp : completion H (run (step H) w calls).store c.msg = some x) :
    let l := ledger H w calls
    let hash := (Evidence.xrplTransactionResult x.evidence).getHash H
    (l.votes hash).map Prod.fst = (run (step H) w calls).store.voters hash ∧
      (l.votes hash ++ [(c.sender, l.now)]).length =
        (run (step H) w calls).store.config.evidenceThreshold ∧
      ∀ v ∈ l.votes hash ++ [(c.sender, l.now)], l.born x.operationId < v.2 := by
  have hd := run_dated h calls hclean
  obtain ⟨hmsg, hreach, hid, ho⟩ := completion_eq_some hcomp
  have hpend : (run (step H) w calls).store.books.pending[x.operationId]? = some x.operation.entry := by
    simp [ho]
  have heff := run_effect h hstep
  rw [hmsg] at heff
  have hend : CanEnd x.operation.operationType x.evidence := heff.canEnd hid ho hreach
  obtain ⟨s₁, hrel, hv, -⟩ := heff.polled.vote
  rw [hreach] at hv
  have hf : checkNotProcessed H (run (step H) w calls).store (.xrplTransactionResult x.evidence) = .ok () := by
    cases hv
    assumption
  refine ⟨hd.votes _, ?_, fun v hv => ?_⟩
  · cases hv with
    | reached _ hcast =>
      have hlen := (((run_quorum h calls).voters _).reached hrel hcast).2.2
      rw [← hd.votes] at hlen
      simpa using hlen
  · rcases List.mem_append.mp hv with hv | hv
    · exact hd.after _ _ hpend _ hid hend hf v hv
    · rw [List.mem_singleton.mp hv]
      exact hd.born _ _ hpend

open Reference in
/-- The first of the two votes that end the first allocation, the call number 1, was cast after
the owner had asked for it. -/
theorem votes_afterCreation_allocation :
    (ledger host world₂ [recover, vote 2 relayer₁ allocation]).born 1 < 1 := by
  have hv : (relayer₁.cosmosAddress, 1) ∈
      (ledger host world₂ [recover, vote 2 relayer₁ allocation]).votes (allocation.getHash host) := by decide +kernel
  obtain ⟨⟨w', r⟩, hstep⟩ := exists_of_isOk (x := step host
    (run (step host) world₂ [recover, vote 2 relayer₁ allocation]) (vote 3 relayer₂ allocation)) (by decide +kernel)
  have hcomp : completion host (run (step host) world₂ [recover, vote 2 relayer₁ allocation]).store
      (vote 3 relayer₂ allocation).msg = some ⟨1, ⟨"1-1", 1, none, some 1, [], .allocateTickets 3, 10⟩,
        ⟨some "ab12", some 1, none, .accepted, some (.ticketsAllocation (some [1, 2, 3]))⟩⟩ := by decide +kernel
  refine (votes_afterCreation started_world₂ _ ?_ hstep hcomp).2.2 _ (List.mem_append_left _ hv)
  intro x hx
  obtain ⟨pre, post, _, hcalls, hx₁, -⟩ := mem_history_iff.mp hx
  rcases pre with _ | ⟨c, _ | ⟨d, pre⟩⟩
  · -- nothing has been voted on yet
    simp only [List.nil_append, List.cons.injEq] at hcalls
    intro k _ _ e _ _ _ _
    rw [hx₁]
    rfl
  · -- the first vote takes no number
    simp only [List.cons_append, List.nil_append, List.cons.injEq] at hcalls
    obtain ⟨rfl, hc, -⟩ := hcalls
    intro k hk
    rw [hx₁, ← hc] at hk
    exact absurd hk (by rw [show opened host _ _ = none by decide +kernel]; nofun)
  · simp at hcalls

open Reference in
/-- A vote for the first of two operations ends the second: the owner cancels the operation on
the account sequence 1 and asks again, and the vote of before is counted. -/
theorem votes_ofCancelled :
    let e : ResultEvidence := ⟨none, some 1, none, .invalid, some (.ticketsAllocation none)⟩
    let calls := [recover, vote 2 relayer₁ (.xrplTransactionResult e), call 3 owner (.cancelPendingOperation 1),
      call 4 owner (.recoverTickets 1 (some 3))]
    let c := vote 5 relayer₂ (.xrplTransactionResult e)
    completion host (run (step host) world₂ calls).store c.msg =
        some ⟨1, ⟨"4-1", 1, none, some 1, [], .allocateTickets 3, 10⟩, e⟩ ∧
      (step host (run (step host) world₂ calls) c).isOk = true ∧
      (ledger host world₂ calls).votes ((Evidence.xrplTransactionResult e).getHash host) =
        [(relayer₁.cosmosAddress, 1)] ∧
      (ledger host world₂ calls).born 1 = 3 := by
  decide +kernel

end XrplBridge
