import XrplBridge.Protocol.Books
import XrplBridge.Reference

/-!
# The conservation of tickets

As long as every evidence names the kind of sequence its operation was created with, a
ticket that has been allocated is in exactly one place: available, held by a pending
operation, or used up. The tickets available and held, with the count of the used ones,
only grow, and only by an allocation.
-/

namespace XrplBridge

open Library Contract Std

/-- An evidence of the right kind names the operation's own ticket, or none. -/
theorem Completion.SameKind.ticketSequence_eq {c : Completion} (hk : c.SameKind)
    (hc : c.operation.entry.Created c.operationId) (hn : c.evidence.operationId = some c.operationId) :
    c.evidence.ticketSequence = c.operation.ticketSequence := by
  obtain ⟨hacc, htick⟩ := hk
  generalize he : c.operation.entry = entry at hc
  have ht : c.operation.ticketSequence = entry.ticketSequence := congrArg Entry.ticketSequence he
  have ha : c.operation.accountSequence = entry.accountSequence := congrArg Entry.accountSequence he
  rw [ha] at hacc
  rw [ht] at htick ⊢
  cases hc with
  | onTicket =>
    have hnone : c.evidence.accountSequence = none := by simpa using hacc
    rw [ResultEvidence.operationId, hnone, Option.none_or] at hn
    exact hn
  | onAccount => simpa using htick

theorem spentTickets_some (c : Completion) :
    spentTickets (some c).toList =
      if c.evidence.transactionResult = .invalid then [] else c.operation.ticketSequence.toList := by
  simp only [spentTickets, Option.toList_some, List.flatMap_singleton, Completion.spent]

theorem allocatedTickets_some (c : Completion) :
    allocatedTickets (some c).toList =
      if c.operation.operationType.isAllocation = true ∧ c.evidence.transactionResult = .accepted
      then c.evidence.tickets else [] := by
  simp only [allocatedTickets, Option.toList_some, List.flatMap_singleton, Completion.allocated,
    Completion.isAllocation, Bool.and_eq_true, decide_eq_true_eq]

namespace Books

variable {b b' : Books} {l : Option Completion}

/-- The tickets that pending operations hold. -/
def held (b : Books) : List ℕ := collect b.pending Entry.ticketSequence

/-- The tickets available and held, and the used ones as far as they are counted. -/
def ticketSum (b : Books) : ℕ := b.available.length + b.held.length + b.used

theorem held_insert {k : ℕ} {e : Entry} (hk : b.pending[k]? = none) :
    (collect (b.pending.insert k e) Entry.ticketSequence).Perm (e.ticketSequence.toList ++ b.held) :=
  collect_insert_new hk _ _

theorem held_erase {k : ℕ} {e : Entry} (hk : b.pending[k]? = some e) :
    b.held.Perm (e.ticketSequence.toList ++ collect (b.pending.erase k) Entry.ticketSequence) :=
  collect_erase hk _

/-- The end of an operation uses up its ticket or gives it back, and adds those allocated. -/
theorem finish_tickets {k : ℕ} {e : Entry} (hk : b.pending[k]? = some e) (result : TransactionResult)
    (tickets : List ℕ) :
    ((b.finish k e.operationType result tickets e.ticketSequence).available ++
        (b.finish k e.operationType result tickets e.ticketSequence).held ++
        if result = .invalid then [] else e.ticketSequence.toList).Perm
      (b.available ++ b.held ++
        if e.operationType.isAllocation = true ∧ result = .accepted then tickets else []) := by
  rw [finish_eq, List.perm_iff_count]
  intro a
  have hheld := (held_erase hk).count_eq a
  simp only [held, List.count_append] at hheld ⊢
  split_ifs <;> simp only [List.count_nil] <;> omega

/-- A new operation holds the ticket that was at the front. -/
theorem take_tickets {t : ℕ} {ts : List ℕ} {operationType : OperationType} (hav : b.available = t :: ts)
    (hun : b.pending[t]? = none) :
    (ts ++ collect (b.pending.insert t ⟨some t, none, operationType⟩) Entry.ticketSequence).Perm
      (b.available ++ b.held) := by
  rw [List.perm_iff_count]
  intro a
  have hheld := (held_insert (e := ⟨some t, none, operationType⟩) hun).count_eq a
  simp only [List.count_append, Option.toList_some, hav, List.count_cons, List.count_nil] at hheld ⊢
  omega

theorem Registers.tickets (h : b.Registers b') : (b'.available ++ b'.held).Perm (b.available ++ b.held) := by
  cases h with
  | counted => exact .refl _
  | exhausted => exact .refl _
  | allocating _ _ hav hun => exact take_tickets hav hun

/-- **Tickets are neither lost nor doubled in a step.** -/
theorem Step.tickets (hs : b.Step l b') (hc : b.Created) (hk : ∀ c ∈ l, c.SameKind) :
    (b'.available ++ b'.held ++ spentTickets l.toList).Perm
      (b.available ++ b.held ++ allocatedTickets l.toList) := by
  cases hs with
  | kept | retuned | halted | resumed => exact .refl _
  | opened hav _ hun => exact (take_tickets hav hun).append_right _
  | rotating hav _ hun => exact (take_tickets hav hun).append_right _
  | recovering _ _ _ _ hun =>
    exact ((held_insert (e := ⟨none, some _, .allocateTickets _⟩) hun).append_left _).append_right _
  | cancelled hp => simpa [spentTickets, allocatedTickets] using finish_tickets hp .invalid []
  | @completed c _ hp hn _ _ _ hset =>
    have hticket : c.evidence.ticketSequence = c.operation.ticketSequence :=
      (hk c rfl).ticketSequence_eq (hc _ _ hp) hn
    rw [hticket] at hset
    have hfin := finish_tickets hp c.evidence.transactionResult c.evidence.tickets
    rw [spentTickets_some, allocatedTickets_some]
    split_ifs at hset
    · exact (hset.tickets.append_right _).trans hfin
    · rw [hset]
      exact hfin

/-- What a step counts as used: a ticket that is used up, less those that are allocated. -/
theorem Step.used (hs : b.Step l b') (hc : b.Created) (hk : ∀ c ∈ l, c.SameKind) :
    b'.used + min (allocatedTickets l.toList).length b.used = b.used + (spentTickets l.toList).length := by
  cases hs with
  | cancelled =>
    rw [finish_eq]
    simp [spentTickets, allocatedTickets]
  | @completed c _ hp hn _ _ _ hset =>
    have hticket : c.evidence.ticketSequence = c.operation.ticketSequence :=
      (hk c rfl).ticketSequence_eq (hc _ _ hp) hn
    have hused : b'.used = (b.finish c.operationId c.operation.operationType c.evidence.transactionResult
        c.evidence.tickets c.evidence.ticketSequence).used + (spentTickets (some c).toList).length := by
      rw [spentTickets_some, ← hticket]
      split_ifs at hset with hcond
      · rw [if_neg hcond.1]
        obtain ⟨t, ht⟩ := Option.isSome_iff_exists.mp hcond.2
        cases hset <;> simp [ht]
      · rw [hset]
        cases ht : c.evidence.ticketSequence with
        | none => simp
        | some t => rw [if_pos (by simpa [ht] using hcond)]; simp
    rw [hused, finish_eq, allocatedTickets_some]
    split_ifs <;> simp only [List.length_nil] <;> omega
  | _ => simp [spentTickets, allocatedTickets]

/-- The sum changes by an allocation only. -/
theorem Step.ticketSum (hs : b.Step l b') (hc : b.Created) (hk : ∀ c ∈ l, c.SameKind) :
    b'.ticketSum = b.ticketSum +
      ((allocatedTickets l.toList).length - min (allocatedTickets l.toList).length b.used) := by
  have hlen := (hs.tickets hc hk).length_eq
  have hused := hs.used hc hk
  simp only [List.length_append] at hlen
  unfold Books.ticketSum
  omega

end Books

/-! ### In every run -/

variable {H : Host} {w : World}

/-- Tickets that are available, held or used up are those that have been allocated. -/
theorem run_tickets (h : Started H w) (calls : List Call) (hk : ∀ c ∈ completions H w calls, c.SameKind) :
    ((run (step H) w calls).store.books.available ++ (run (step H) w calls).store.books.held ++
      spentTickets (completions H w calls)).Perm (allocatedTickets (completions H w calls)) := by
  refine (run_books (P := fun cs b => b.Created ∧ ((∀ c ∈ cs, c.SameKind) →
    (b.available ++ b.held ++ spentTickets cs).Perm (allocatedTickets cs))) h ?_ ?_ calls).2 hk
  · intro t _ _
    refine ⟨fun k e hk => by simp [Books.initial] at hk, fun _ => ?_⟩
    simp [Books.initial, Books.held, spentTickets, allocatedTickets]
  · rintro cs b l b' ⟨hc, ih⟩ hs
    refine ⟨hc.step hs, fun hk => ?_⟩
    have hold := ih fun c hcs => hk c (List.mem_append_left _ hcs)
    have hnew := hs.tickets hc fun c hcl => hk c (List.mem_append_right _ (Option.mem_toList.mpr hcl))
    rw [List.perm_iff_count] at hold hnew ⊢
    intro a
    have hold := hold a
    have hnew := hnew a
    simp only [spentTickets, allocatedTickets, List.flatMap_append, List.count_append] at hold hnew ⊢
    omega

/-- The tickets that pending operations hold. -/
def Contract.Storage.heldTickets (s : Storage) : List ℕ := collect s.pendingOperations Operation.ticketSequence

theorem books_held (s : Storage) : s.books.held = s.heldTickets :=
  collect_map s.pendingOperations Operation.entry Entry.ticketSequence

/-- The tickets available and held, and the counter of the used ones. -/
def Contract.Storage.ticketSum (s : Storage) : ℕ :=
  s.availableTickets.length + s.heldTickets.length + s.usedTicketsCounter

theorem books_ticketSum (s : Storage) : s.books.ticketSum = s.ticketSum := by
  rw [Books.ticketSum, books_held]
  rfl

/-- **Tickets are conserved.** If every evidence that ends an operation names its kind of
sequence, and no ticket is allocated twice, then the tickets available, held and used up are
apart from each other, and are the tickets that have been allocated; a pending operation has
one sequence, its key; and the sum of the tickets changes with an accepted allocation only,
by what it allocates beyond the counter of used tickets. -/
theorem tickets_conserved (h : Started H w) (calls : List Call)
    (hkind : ∀ c ∈ completions H w calls, c.SameKind)
    (hfresh : (allocatedTickets (completions H w calls)).Nodup) :
    let s := (run (step H) w calls).store
    let spent := spentTickets (completions H w calls)
    s.availableTickets.Nodup ∧
      (s.availableTickets.Disjoint s.heldTickets ∧ s.availableTickets.Disjoint spent ∧
        s.heldTickets.Disjoint spent) ∧
      (∀ t, t ∈ allocatedTickets (completions H w calls) ↔
        t ∈ s.availableTickets ∨ t ∈ s.heldTickets ∨ t ∈ spent) ∧
      (∀ (k : ℕ) (o : Operation), s.pendingOperations[k]? = some o →
        (o.ticketSequence = some k ∧ o.accountSequence = none) ∨
          (o.ticketSequence = none ∧ o.accountSequence = some k ∧ ∃ n, o.operationType = .allocateTickets n)) ∧
      ∀ c w' r, step H (run (step H) w calls) c = .ok (w', r) →
        (∀ e ∈ completion H s c.msg, e.SameKind) →
          let n := (allocatedTickets (completion H s c.msg).toList).length
          w'.store.ticketSum = s.ticketSum + (n - min n s.usedTicketsCounter) := by
  have hperm := run_tickets h calls hkind
  have hcreated := run_created h calls
  rw [books_held] at hperm
  have hnodup := hperm.nodup_iff.mpr hfresh
  rw [List.nodup_append', List.nodup_append', List.disjoint_append_left] at hnodup
  obtain ⟨⟨hav, -, hdis⟩, -, hdis₁, hdis₂⟩ := hnodup
  refine ⟨hav, ⟨hdis, hdis₁, hdis₂⟩, fun t => ?_, fun k o ho => ?_, fun c w' r hstep hk => ?_⟩
  · rw [← hperm.mem_iff, List.mem_append, List.mem_append, or_assoc]
    rfl
  · have hentry := hcreated k o.entry (by simp [ho])
    generalize he : o.entry = entry at hentry
    have ht : o.ticketSequence = entry.ticketSequence := congrArg Entry.ticketSequence he
    have ha : o.accountSequence = entry.accountSequence := congrArg Entry.accountSequence he
    have hty : o.operationType = entry.operationType := congrArg Entry.operationType he
    rw [ht, ha, hty]
    cases hentry with
    | onTicket => exact .inl ⟨rfl, rfl⟩
    | onAccount => exact .inr ⟨rfl, rfl, _, rfl⟩
  · have hsum := (run_effect h hstep).books.ticketSum hcreated hk
    rw [books_ticketSum, books_ticketSum] at hsum
    exact hsum

open Reference in
/-- The tickets 1 to 3 are allocated, the first is held by a rotation of keys. -/
theorem tickets_conserved_rotating :
    (run (step host) world₁ [recover, vote 2 relayer₁ allocation, rotate]).store.availableTickets.Nodup :=
  (tickets_conserved started_world₁ _ (by decide +kernel) (by decide +kernel)).1

end XrplBridge
