import XrplBridge.Protocol.Progress
import XrplBridge.Protocol.Lifetimes
import XrplBridge.Protocol.Voting

/-!
# The threshold of used tickets

`instantiate` bounds the threshold by what XRPL allocates at once, and asks for at least two
tickets. The owner may replace it by any number, and an allocation that becomes due then asks
for this number (`withinLimits_iff`).

When tickets have run out, the owner asks for more than the threshold and for at most the limit
of XRPL. There is no such number for a threshold that is the limit, which `instantiate` lets
pass: `recovery_iff` says that the bridge can always recover exactly if the threshold is below it.
-/

namespace XrplBridge

open Library Contract Std

variable {H : Host} {s s' : Storage} {w : World}

/-! ### Within the limits of XRPL -/

/-- What is asked of XRPL is within its limits. -/
structure WithinLimits (s : Storage) : Prop where
  threshold : 2 ≤ s.config.usedTicketSequenceThreshold ∧ s.config.usedTicketSequenceThreshold ≤ maxTickets
  requested : ∀ (k : ℕ) (o : Operation) (n : ℕ), s.pendingOperations[k]? = some o →
    o.operationType = .allocateTickets n → 2 ≤ n ∧ n ≤ maxTickets

/-- The call sets the threshold to a number that `instantiate` refuses. -/
def SetsOutOfRange (msg : ExecuteMsg) : Prop :=
  ∃ n, msg = .updateUsedTicketSequenceThreshold n ∧ ¬ (2 ≤ n ∧ n ≤ maxTickets)

/-- Only `UpdateUsedTicketSequenceThreshold` can leave the limits. -/
theorem WithinLimits.step {q : Querier} {env : BlockInfo} {sender : Addr} {funds : List Coin} {msg : ExecuteMsg}
    {ms : List SubMsg} (h : WithinLimits s) (he : Effect H s q env sender funds msg s' ms)
    (hno : ¬ SetsOutOfRange msg) : WithinLimits s' := by
  constructor
  · by_cases hmsg : ∃ n, msg = .updateUsedTicketSequenceThreshold n
    · obtain ⟨n, rfl⟩ := hmsg
      cases he with
      | retuned => exact not_not.mp fun hout => hno ⟨n, rfl, hout⟩
    · have hsame := he.threshold fun n hn => hmsg ⟨n, hn⟩
      change s'.config.usedTicketSequenceThreshold = s.config.usedTicketSequenceThreshold at hsame
      rw [hsame]
      exact h.threshold
  · intro k o n ho hn
    have hpending : s'.books.pending[k]? = some o.entry := by simp [ho]
    rcases he.books.added hpending with hold | hadded
    · rw [pending_books, Option.map_eq_some_iff] at hold
      obtain ⟨o₀, ho₀, hentry⟩ := hold
      exact h.requested k o₀ n ho₀ ((congrArg Entry.operationType hentry).trans hn)
    · obtain ⟨hlo, hhi⟩ := h.threshold
      have htype : o.entry.operationType = .allocateTickets n := hn
      generalize o.entry = e at hadded htype
      cases hadded with
      | opened hna => exact absurd htype (hna n)
      | rotating => cases htype
      | recovering habove hbelow =>
        cases htype
        change s.config.usedTicketSequenceThreshold < n at habove
        omega
      | due =>
        cases htype
        exact h.threshold

theorem started_withinLimits (h : Started H w) : WithinLimits w.store := by
  obtain ⟨msg, m, -, -, hrange, -, hs⟩ := started_eq h
  rw [hs]
  exact ⟨hrange, fun k o n ho => by simp [initialStorage] at ho⟩

/-- **Within the limits of XRPL**: in every state of a run the threshold is one that `instantiate`
accepts and every pending allocation asks for two to 250 tickets, exactly if every update of
the threshold in the run sets it to one that `instantiate` accepts. -/
theorem withinLimits_iff (h : Started H w) (calls : List Call) :
    (∀ pre, pre <+: calls → WithinLimits (run (step H) w pre).store) ↔
      ∀ x ∈ history (step H) w calls, ¬ SetsOutOfRange x.2.msg := by
  constructor
  · rintro hall x hx ⟨n, hmsg, hout⟩
    obtain ⟨pre, post, ⟨w', r⟩, rfl, hx₁, hstep⟩ := mem_history_iff.mp hx
    rw [hx₁] at hstep
    have hafter := (hall (pre ++ [x.2]) ⟨post, by simp⟩).threshold
    have heff := run_effect h hstep
    rw [run_snoc_ok hstep] at hafter
    rw [hmsg] at heff
    generalize r.messages = ms at heff
    generalize w'.store = s' at heff hafter
    cases heff with
    | retuned => exact hout hafter
  · rintro hno pre ⟨post, rfl⟩
    refine run_invariant_of (I := fun w' : World => WithinLimits w'.store) (p := fun _ c => ¬ SetsOutOfRange c.msg)
      (started_withinLimits h) ?_ pre fun x hx => hno x (mem_history_append hx post)
    intro calls c w' r hwithin hno hstep
    exact hwithin.step (run_effect h hstep) hno

open Reference in
/-- The threshold is set to ten. -/
theorem withinLimits_iff_ten :
    WithinLimits (run (step host) world₁ [call 1 owner (.updateUsedTicketSequenceThreshold 10)]).store := by
  refine (withinLimits_iff started_world₁ [_]).mpr (fun x hx => ?_) _ List.prefix_rfl
  have hmem := mem_of_mem_history hx
  rw [List.mem_singleton] at hmem
  rw [hmem]
  rintro ⟨n, hmsg, hout⟩
  cases hmsg
  exact hout (by decide)

open Reference in
/-- The owner sets the threshold to 300: the allocation that becomes due at the 300th used ticket
asks for more tickets than XRPL allocates. With a threshold of one, the next used ticket asks for
a single one. -/
theorem threshold_unchecked :
    ¬ WithinLimits (run (step host) world₁ [call 1 owner (.updateUsedTicketSequenceThreshold 300)]).store ∧
    (run (step host) world₁ [recover, vote 2 relayer₁ allocation, send 3 1000000,
      call 4 owner (.updateUsedTicketSequenceThreshold 1),
      vote 5 relayer₁ (.xrplTransactionResult ⟨some "cd34", none, some 1, .rejected, none⟩)]).store.pendingOperations[2]? =
        some ⟨"5-2", 1, some 2, none, [], .allocateTickets 1, 10⟩ := by
  refine ⟨fun hwithin => ?_, by decide +kernel⟩
  exact absurd hwithin.threshold.2 (by decide +kernel)

/-! ### Recovery -/

/-- No call of the run updates the threshold. -/
def KeepsThreshold (H : Host) (w : World) (calls : List Call) : Prop :=
  ∀ x ∈ history (step H) w calls, ∀ n, x.2.msg ≠ .updateUsedTicketSequenceThreshold n

/-- The owner can ask for tickets, with any account sequence that is free; and once as many have
been allocated, the next operation of a user gets one. -/
def CanRecover (H : Host) (w : World) (calls : List Call) : Prop :=
  ∃ numberOfTickets : Option ℕ, ∀ (c : Call) (accountSequence : ℕ),
    isOwner (run (step H) w calls).store c.sender = true → c.msg = .recoverTickets accountSequence numberOfTickets →
      (run (step H) w calls).store.pendingOperations[accountSequence]? = none →
        (step H (run (step H) w calls) c).isOk = true ∧
          ∀ (later : List Call) (d : Call) (w' : World) (r : Response) (x : Completion),
            Unended H (run (step H) w (calls ++ [c])) later accountSequence →
              step H (run (step H) w (calls ++ [c] ++ later)) d = .ok (w', r) →
                completion H (run (step H) w (calls ++ [c] ++ later)).store d.msg = some x →
                  x.operationId = accountSequence → x.evidence.transactionResult = .accepted →
                    x.evidence.tickets.length = x.operation.operationType.requested →
                      ∃ t s', allocateTicket w'.store = .ok (t, s')

/-- Whenever tickets have run out and no allocation is pending, the owner can recover. -/
def RecoveryPossible (H : Host) (w : World) : Prop :=
  ∀ calls, KeepsThreshold H w calls → (run (step H) w calls).store.availableTickets = [] →
    (∀ (k : ℕ) (o : Operation), (run (step H) w calls).store.pendingOperations[k]? = some o →
      o.operationType.isAllocation = false) → CanRecover H w calls

theorem run_threshold (h : Started H w) (calls : List Call) (hkeep : KeepsThreshold H w calls) :
    (run (step H) w calls).store.config.usedTicketSequenceThreshold = w.store.config.usedTicketSequenceThreshold := by
  refine run_invariant_of (I := fun w' : World => w'.store.config.usedTicketSequenceThreshold =
    w.store.config.usedTicketSequenceThreshold)
    (p := fun (_ : World) (c : Call) => ∀ n : ℕ, c.msg ≠ .updateUsedTicketSequenceThreshold n) rfl ?_ calls hkeep
  intro calls c w' r hsame hne hstep
  exact ((run_effect h hstep).threshold hne).trans hsame

/-- Two tickets are enough for one more operation. -/
theorem allocateTicket_ok (h : 2 ≤ s.availableTickets.length) : ∃ t s', allocateTicket s = .ok (t, s') := by
  unfold allocateTicket reserveTicket
  cases hav : s.availableTickets with
  | nil => simp [hav] at h
  | cons t ts =>
    rw [hav, List.length_cons] at h
    refine ⟨t, _, bind_eq_ok.mpr ⟨(), failIf_eq_ok.mpr (by simp), bind_eq_ok.mpr ⟨(), failIf_eq_ok.mpr ?_, rfl⟩⟩⟩
    rw [List.length_cons]
    omega

/-- An accepted allocation of three tickets leaves two, even if one is taken at once. -/
theorem Books.Step.refills {b b' : Books} {c : Completion} (hs : b.Step (some c) b') (hc : c.isAllocation = true)
    (hlen : 3 ≤ c.evidence.tickets.length) : 2 ≤ b'.available.length := by
  have hall : c.operation.operationType.isAllocation = true ∧ c.evidence.transactionResult = .accepted := by
    simpa [Completion.isAllocation] using hc
  cases hs with
  | completed _ _ _ _ _ hset =>
    have hfin : 3 ≤ (b.finish c.operationId c.operation.operationType c.evidence.transactionResult
        c.evidence.tickets c.evidence.ticketSequence).available.length := by
      rw [finish_eq, if_pos hall, List.length_append]
      omega
    split_ifs at hset
    · cases hset with
      | counted => exact (by omega : 2 ≤ 3).trans hfin
      | exhausted => exact (by omega : 2 ≤ 3).trans hfin
      | allocating _ _ hav =>
        rw [hav, List.length_cons] at hfin
        exact Nat.le_of_succ_le_succ hfin
    · rw [hset]
      omega

theorem canRecover_of_lt (h : Started H w) {calls : List Call} (hkeep : KeepsThreshold H w calls)
    (hlo : 2 ≤ w.store.config.usedTicketSequenceThreshold)
    (hhi : w.store.config.usedTicketSequenceThreshold < maxTickets)
    (hempty : (run (step H) w calls).store.availableTickets = [])
    (hnone : ∀ (k : ℕ) (o : Operation), (run (step H) w calls).store.pendingOperations[k]? = some o →
      o.operationType.isAllocation = false) : CanRecover H w calls := by
  have hthreshold := run_threshold h calls hkeep
  have hflag := ((flag_iff (run_flags h calls).updating).2).mpr hnone
  refine ⟨some (w.store.config.usedTicketSequenceThreshold + 1), fun c k howner hmsg hfree => ?_⟩
  obtain ⟨s', r, hexec, hmsgs⟩ : ∃ s' r, execute H (run (step H) w calls).store
      ((run (step H) w calls).bank.credit c.funds).querier c.env c.sender c.funds
        (.recoverTickets k (some (w.store.config.usedTicketSequenceThreshold + 1))) = .ok (s', r) ∧ r.messages = [] :=
    recoverTickets_ok hempty hfree hflag (by omega) (by omega) howner
  rw [← hmsg] at hexec
  have hstep := step_ok hexec hmsgs
  refine ⟨by rw [hstep]; rfl, fun later d w' r' x hunended hd hx hk hacc hlen => ?_⟩
  -- the operation that is asked for, up to its end
  have heff := run_effect h hstep
  rw [hmsg] at heff
  obtain ⟨o, ho, htype⟩ : ∃ o, s'.pendingOperations[k]? = some o ∧
      o.operationType = .allocateTickets (w.store.config.usedTicketSequenceThreshold + 1) := by
    generalize r.messages = ms at heff
    cases heff with
    | recovering _ _ _ _ _ hasked =>
      refine ⟨_, getElem?_insert_self' .., ?_⟩
      rw [hasked]
      rfl
  have hafter : (run (step H) w (calls ++ [c])).store.pendingOperations[k]? = some o := by
    rw [run_snoc_ok hstep]
    exact ho
  obtain ⟨o', ho', hc⟩ := run_continues h (calls ++ [c]) later hunended hafter
  obtain ⟨-, -, -, hpending⟩ := completion_eq_some hx
  rw [hk, ho'] at hpending
  cases hpending
  rw [hc.type, htype] at hlen
  have hbooks := (run_effect h hd).books
  rw [hx] at hbooks
  refine allocateTicket_ok (hbooks.refills ?_ ?_)
  · simp [Completion.isAllocation, hc.type, htype, hacc]
  · rw [hlen]
    exact Nat.succ_le_succ hlo

/-- **The bridge can always recover its tickets** when they have run out, in every run that does
not update the threshold, exactly if it was set up with a threshold below the limit of XRPL. -/
theorem recovery_iff {sender : Addr} {funds : List Coin} {msg : InstantiateMsg} {r : Response}
    (h : instantiate H sender funds msg = .ok (w.store, r)) :
    RecoveryPossible H w ↔ msg.usedTicketSequenceThreshold < maxTickets := by
  have hstarted : Started H w := ⟨sender, funds, msg, r, h⟩
  obtain ⟨m, -, -, ⟨hlo, hhi⟩, -, hs⟩ := instantiate_eq_ok h
  have hthreshold : w.store.config.usedTicketSequenceThreshold = msg.usedTicketSequenceThreshold := by
    rw [hs]
    rfl
  constructor
  · intro hpossible
    have hkeep : KeepsThreshold H w [] := fun x hx => by cases hx
    obtain ⟨number, hnumber⟩ := hpossible [] hkeep (by rw [run_nil, hs]; rfl) (by rw [run_nil, hs]; simp [initialStorage])
    have howner : isOwner (run (step H) w []).store msg.owner = true := by
      rw [run_nil, hs]
      simp [isOwner, initialStorage]
    obtain ⟨hok, -⟩ := hnumber ⟨⟨0, 0⟩, msg.owner, [], .recoverTickets 1 number, fun _ => true⟩ 1 howner rfl
      (by rw [run_nil, hs]; simp [initialStorage])
    obtain ⟨⟨w', r'⟩, hstep⟩ := exists_of_isOk hok
    have heff := run_effect hstarted hstep
    generalize r'.messages = ms at heff
    generalize w'.store = s' at heff
    cases heff with
    | recovering _ _ habove hbelow =>
      rw [run_nil, hthreshold] at habove
      omega
  · intro hlt calls hkeep hempty hnone
    exact canRecover_of_lt hstarted hkeep (by omega) (by omega) hempty hnone

open Reference in
/-- The bridge of one relayer, with a threshold of two, can recover. -/
theorem recovery_iff_two : RecoveryPossible host world₁ := by
  obtain ⟨⟨s, r⟩, hi⟩ := exists_of_isOk (x := instantiate host owner [] (setup [relayer₁] 1)) (by decide +kernel)
  obtain ⟨m, -, -, -, hm, hs⟩ := instantiate_eq_ok hi
  have hstore : s = world₁.store := by
    rw [hs, world₁, launch, hm]
    rfl
  rw [hstore] at hi
  exact (recovery_iff hi).mpr (by decide)

open Reference in
/-- With the threshold that is the limit of XRPL, which `instantiate` accepts, no number of tickets
can be asked for. -/
theorem recovery_impossible :
    let msg : InstantiateMsg := { setup [relayer₁] 1 with usedTicketSequenceThreshold := 250 }
    (instantiate host owner [] msg).isOk = true ∧ ¬ RecoveryPossible host (launch msg) := by
  intro msg
  have hok : (instantiate host owner [] msg).isOk = true := by decide +kernel
  refine ⟨hok, fun hpossible => ?_⟩
  have hkeep : KeepsThreshold host (launch msg) [] := fun x hx => by cases hx
  have hnone : (launch msg).store.pendingOperations = ∅ := rfl
  obtain ⟨number, hnumber⟩ := hpossible [] hkeep rfl (by rw [run_nil, hnone]; simp)
  obtain ⟨hrecover, -⟩ := hnumber (call 1 owner (.recoverTickets 1 number)) 1 (decide_eq_true rfl) rfl
    (by rw [run_nil, hnone]; simp)
  obtain ⟨⟨w', r⟩, hstep⟩ := exists_of_isOk hrecover
  have heff := run_effect (started_launch hok) hstep
  generalize r.messages = ms at heff
  generalize w'.store = s' at heff
  cases heff with
  | recovering _ _ habove hbelow =>
    change 250 < _ at habove
    change _ ≤ 250 at hbelow
    omega

end XrplBridge
