import XrplBridge.Protocol.Books
import XrplBridge.Reference

/-!
# The two flags

`PENDING_TICKET_UPDATE` and `PENDING_ROTATE_KEYS` say whether an allocation of tickets
and a rotation of keys are pending. `Books.Flags` states that they say so truly, that
neither kind is ever pending twice, and that the bridge is halted during a rotation; every
step of the protocol keeps it.

The last available ticket is kept for an allocation: a step that takes it has created
one on it (`Books.Step.lastTicket`).
-/

namespace XrplBridge

open Library Contract Std

namespace Books

variable {b b' : Books} {l : Option Completion}

/-- The flags count what is pending. -/
structure Flags (b : Books) : Prop where
  /-- An allocation is pending as the flag says. -/
  updating : count b.pending (fun e => e.operationType.isAllocation) = b.updating.toNat
  /-- A rotation is pending as the flag says. -/
  rotating : count b.pending (fun e => e.operationType.isRotation) = b.rotating.toNat
  /-- During a rotation the bridge is halted. -/
  halted : b.rotating = true → b.bridgeState = .halted

theorem Flags.finish (h : b.Flags) {k : ℕ} {e : Entry} (hk : b.pending[k]? = some e)
    (result : TransactionResult) (tickets : List ℕ) (ticket : Option ℕ) :
    (b.finish k e.operationType result tickets ticket).Flags := by
  have hu := h.updating
  have hr := h.rotating
  rw [count_erase hk] at hu hr
  rw [finish_eq]
  refine ⟨?_, ?_, ?_⟩
  · show count (b.pending.erase k) _ = (!e.operationType.isAllocation && b.updating).toNat
    cases ht : e.operationType.isAllocation <;> cases hb : b.updating <;> simp [ht, hb] at hu ⊢ <;> omega
  · show count (b.pending.erase k) _ = (!e.operationType.isRotation && b.rotating).toNat
    cases ht : e.operationType.isRotation <;> cases hb : b.rotating <;> simp [ht, hb] at hr ⊢ <;> omega
  · intro hrot
    exact h.halted ((Bool.and_eq_true _ _).mp hrot).2

theorem Flags.registers (h : b.Flags) (hr : b.Registers b') : b'.Flags := by
  cases hr with
  | counted => exact ⟨h.updating, h.rotating, h.halted⟩
  | exhausted => exact ⟨h.updating, h.rotating, h.halted⟩
  | allocating _ hno _ hun =>
    refine ⟨?_, ?_, h.halted⟩
    · have := h.updating
      rw [hno, Bool.toNat_false] at this
      simp [count_insert_new hun, this]
    · have := h.rotating
      simp [count_insert_new hun, this]

/-- Every step keeps the flags true. -/
theorem Flags.step (h : b.Flags) (hs : b.Step l b') : b'.Flags := by
  cases hs with
  | kept => exact h
  | retuned => exact ⟨h.updating, h.rotating, h.halted⟩
  | halted => exact ⟨h.updating, h.rotating, fun _ => rfl⟩
  | resumed hno => exact ⟨h.updating, h.rotating, fun hr => absurd hr (by simp [hno])⟩
  | @opened _ _ ty _ _ hun ha hr =>
    have hna : ty.isAllocation = false := by cases ty <;> simp_all
    have hnr : ty.isRotation = false := by cases ty <;> simp_all
    refine ⟨?_, ?_, h.halted⟩
    · simp [count_insert_new hun, hna, h.updating]
    · simp [count_insert_new hun, hnr, h.rotating]
  | rotating _ _ hun hidle =>
    have hrot := h.rotating
    rw [hidle, Bool.toNat_false] at hrot
    refine ⟨?_, ?_, fun _ => rfl⟩
    · simp [count_insert_new hun, h.updating]
    · simp [count_insert_new hun, hrot]
  | recovering _ hno _ _ hun =>
    have hup := h.updating
    rw [hno, Bool.toNat_false] at hup
    refine ⟨?_, ?_, h.halted⟩
    · simp [count_insert_new hun, hup]
    · simp [count_insert_new hun, h.rotating]
  | cancelled hk => exact h.finish hk _ _ _
  | completed hk _ _ _ _ hset =>
    have hfin := h.finish hk
    split_ifs at hset
    · exact (hfin _ _ _).registers hset
    · subst hset
      exact hfin _ _ _

theorem Flags.initial (threshold : ℕ) : (initial threshold).Flags :=
  ⟨count_empty _, count_empty _, nofun⟩

/-! ### The last ticket -/

/-- The end of an operation empties no queue. -/
theorem available_finish (b : Books) (k : ℕ) (operationType : OperationType) (result : TransactionResult)
    (tickets : List ℕ) (ticket : Option ℕ)
    (h : (b.finish k operationType result tickets ticket).available = []) : b.available = [] := by
  rw [finish_eq] at h
  exact (List.append_eq_nil_iff.mp (List.append_eq_nil_iff.mp h).1).2

/-- **The last ticket is kept for an allocation.** -/
theorem Step.lastTicket (hs : b.Step l b') (hne : b.available ≠ []) (hempty : b'.available = []) :
    ∃ t n, b.available = [t] ∧ b'.pending[t]? = some ⟨some t, none, .allocateTickets n⟩ ∧
      (b.pending[t]? = none ∨ ∃ c, l = some c ∧ c.operationId = t) := by
  cases hs with
  | kept | retuned | halted | resumed => exact absurd hempty hne
  | opened _ hts => exact absurd hempty hts
  | rotating _ hts => exact absurd hempty hts
  | recovering hemp => exact absurd hemp hne
  | cancelled => exact absurd (available_finish _ _ _ _ _ _ hempty) hne
  | @completed c _ _ _ _ _ _ hset =>
    split_ifs at hset
    · have hleft := available_finish b c.operationId c.operation.operationType c.evidence.transactionResult
        c.evidence.tickets c.evidence.ticketSequence
      cases hset with
      | counted => exact absurd (hleft hempty) hne
      | exhausted => exact absurd (hleft hempty) hne
      | @allocating t ts _ _ hav hun =>
        change ts = [] at hempty
        subst hempty
        refine ⟨t, _, ?_, getElem?_insert_self' _ _ _, ?_⟩
        · -- the queue only grew before its front was taken
          rw [finish_eq] at hav
          have hlen := congrArg List.length hav
          simp only [List.length_append, List.length_singleton] at hlen
          obtain ⟨a, ha⟩ := List.length_eq_one_iff.mp
            (show b.available.length = 1 by have := List.length_pos_iff.mpr hne; omega)
          have hat : a ∈ [t] := by rw [← hav, ha]; simp
          rw [ha, List.mem_singleton.mp hat]
        · rw [pending_finish, ExtTreeMap.getElem?_erase] at hun
          split_ifs at hun with hk
          · exact .inr ⟨c, rfl, Std.compare_eq_iff_eq.mp hk⟩
          · exact .inl hun
    · subst hset
      exact absurd (available_finish _ _ _ _ _ _ hempty) hne

end Books

/-! ### In every run -/

variable {H : Host} {w : World}

theorem run_flags (h : Started H w) (calls : List Call) : (run (step H) w calls).store.books.Flags :=
  run_books (P := fun _ b => b.Flags) h (fun t _ _ => .initial t) (fun hb hs => hb.step hs) calls

/-- The pending operations of a kind that a flag counts. -/
theorem flag_iff {s : Storage} {kind : OperationType → Bool} {flag : Bool}
    (h : count s.books.pending (fun e => kind e.operationType) = flag.toNat) :
    (flag = true ↔
        ∃! k : ℕ, ∃ o : Operation, s.pendingOperations[k]? = some o ∧ kind o.operationType = true) ∧
      (flag = false ↔
        ∀ (k : ℕ) (o : Operation), s.pendingOperations[k]? = some o → kind o.operationType = false) :=
  count_eq_toNat (p := fun o : Operation => kind o.operationType)
    ((count_map s.pendingOperations Operation.entry fun e => kind e.operationType).symm.trans h)

/-- **A single update of the tickets is in flight, and the last ticket is its own.** -/
theorem ticketUpdate_inFlight (h : Started H w) (calls : List Call) :
    let s := (run (step H) w calls).store
    (s.pendingTicketUpdate = true ↔
      ∃! k : ℕ, ∃ o : Operation, s.pendingOperations[k]? = some o ∧ ∃ n, o.operationType = .allocateTickets n) ∧
    (s.pendingTicketUpdate = false ↔
      ∀ (k : ℕ) (o : Operation), s.pendingOperations[k]? = some o → ¬ ∃ n, o.operationType = .allocateTickets n) ∧
    ∀ c w' r, step H (run (step H) w calls) c = .ok (w', r) →
      s.availableTickets ≠ [] → w'.store.availableTickets = [] →
      ∃ t o, s.availableTickets = [t] ∧ w'.store.pendingOperations[t]? = some o ∧
        o.ticketSequence = some t ∧ (∃ n, o.operationType = .allocateTickets n) ∧
        (s.pendingOperations[t]? = none ∨ ∃ e, completion H s c.msg = some e ∧ e.operationId = t) := by
  have hflag := flag_iff (run_flags h calls).updating
  simp only [← OperationType.isAllocation_iff, Bool.not_eq_true]
  refine ⟨hflag.1, hflag.2, fun c w' r hstep hne hempty => ?_⟩
  obtain ⟨t, n, hav, hnew, hold⟩ := (run_effect h hstep).books.lastTicket hne hempty
  rw [pending_books, Option.map_eq_some_iff] at hnew
  obtain ⟨o, ho, hentry⟩ := hnew
  rw [pending_books, Option.map_eq_none_iff] at hold
  refine ⟨t, o, hav, ho, congrArg Entry.ticketSequence hentry, ?_, hold⟩
  rw [show o.operationType = .allocateTickets n from congrArg Entry.operationType hentry]
  rfl

open Reference in
/-- An allocation is in flight once the owner has asked for tickets. -/
theorem ticketUpdate_inFlight_recovering :
    ∃! k : ℕ, ∃ o : Operation,
      (run (step host) world₁ [recover]).store.pendingOperations[k]? = some o ∧
        ∃ n, o.operationType = .allocateTickets n :=
  (ticketUpdate_inFlight started_world₁ _).1.mp (by decide +kernel)

end XrplBridge
