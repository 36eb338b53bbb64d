import XrplBridge.Protocol.Flags
import XrplBridge.Protocol.Tickets

/-!
# Progress

The bridge is stuck when a single ticket is available and nothing is pending: the ticket is
kept for an allocation, an allocation becomes due with a used ticket only, and the owner may
ask for tickets only when there are none. The counter of used tickets is meant to rule this
out (`Books.Stocked`): as long as it says enough tickets have been used, an allocation is
created on the last one.

It does so for every operation that is executed. But when the last pending operation was not
executed, its ticket comes back without an allocation; `Strands` says exactly when that
leaves the bridge stuck, and `progress_iff` that nothing else does.
-/

namespace XrplBridge

open Library Contract Std

/-! ### What an allocation asks for -/

/-- The number of tickets an allocation asks for. -/
def Contract.OperationType.requested : OperationType → ℕ
  | .allocateTickets n => n
  | _ => 0

/-- An accepted allocation delivers as many tickets as were asked for. -/
def Completion.Delivers (c : Completion) : Prop :=
  c.isAllocation = true → c.evidence.tickets.length = c.operation.operationType.requested

instance instDecidableDelivers (c : Completion) : Decidable c.Delivers :=
  inferInstanceAs (Decidable (c.isAllocation = true → _))

namespace Books

variable {b b' : Books} {l : Option Completion} {k T : ℕ} {e : Entry} {cs : List Completion}

/-- One ticket is left, and nothing is pending. -/
def Stuck (b : Books) : Prop := b.available.length = 1 ∧ ∀ k : ℕ, b.pending[k]? = none

/-- The end of the operation `k` leaves the bridge stuck: it is the only one, and its ticket,
which was not executed, is the only one too; or it has asked for tickets in vain, while one
was left. -/
def Strands (b : Books) (k : ℕ) (e : Entry) (result : TransactionResult) : Prop :=
  (∀ a : ℕ, a ≠ k → b.pending[a]? = none) ∧
    (result = .invalid ∧ e.ticketSequence.isSome = true ∧ b.available = [] ∨
      result ≠ .accepted ∧ e.accountSequence.isSome = true ∧ b.available.length = 1)

/-- What an entry asks for: of the owner's allocation more than the threshold, of one that
has become due the threshold. -/
def Asks (T : ℕ) (e : Entry) : Prop :=
  ∀ n, e.operationType = .allocateTickets n →
    if e.ticketSequence.isSome then n = T else T < n ∧ n ≤ maxTickets

/-- From the first allocation on, there are more tickets than the threshold, counting the used
ones; before, there are none. -/
structure Stocked (T : ℕ) (cs : List Completion) (b : Books) : Prop where
  threshold : b.threshold = T
  asks : ∀ (k : ℕ) (e : Entry), b.pending[k]? = some e → Asks T e
  before : allocatedTickets cs = [] → b.ticketSum = 0
  after : allocatedTickets cs ≠ [] → T < b.ticketSum ∧ T < maxTickets

/-! ### The stock -/

/-- What is asked for, after a step that keeps the threshold. -/
theorem Stocked.asks_step (h : Stocked T cs b) (hs : b.Step l b') (k : ℕ) (e : Entry)
    (he : b'.pending[k]? = some e) : Asks T e := by
  rcases hs.added he with hold | hadded
  · exact h.asks k e hold
  · intro n hn
    cases hadded with
    | opened hna => exact absurd hn (hna n)
    | rotating => cases hn
    | recovering habove hbelow =>
      cases hn
      exact ⟨h.threshold ▸ habove, hbelow⟩
    | due =>
      cases hn
      exact h.threshold

/-- The first allocation is one the owner has asked for, and delivers more than the threshold. -/
theorem Stocked.first (h : Stocked T cs b) (hs : b.Step l b') (hd : ∀ c ∈ l, c.Delivers)
    (hcs : allocatedTickets cs = []) (hne : allocatedTickets l.toList ≠ []) :
    T < (allocatedTickets l.toList).length ∧ T < maxTickets := by
  have hsum := h.before hcs
  unfold Books.ticketSum at hsum
  cases hs with
  | @completed c _ hp =>
    rw [allocatedTickets_some] at hne ⊢
    split_ifs at hne ⊢ with hacc
    · obtain ⟨n, hn⟩ := OperationType.isAllocation_iff.mp hacc.1
      have hlen := hd c rfl (by simp [Completion.isAllocation, hacc])
      rw [hn] at hlen
      have hasks := h.asks _ _ hp n hn
      have hnone : c.operation.entry.ticketSequence = none := by
        by_contra hsome
        obtain ⟨t, ht⟩ := Option.ne_none_iff_exists'.mp hsome
        have := List.length_pos_of_mem ((mem_collect (f := Entry.ticketSequence)).mpr ⟨_, _, hp, ht⟩)
        unfold Books.held at hsum
        omega
      rw [hnone] at hasks
      rw [hlen]
      exact ⟨hasks.1, Nat.lt_of_lt_of_le hasks.1 hasks.2⟩
    · exact absurd rfl hne
  | _ => exact absurd rfl hne

/-- Every step that keeps the threshold keeps the stock. -/
theorem Stocked.step (h : Stocked T cs b) (hs : b.Step l b') (hc : b.Created) (ht : b'.threshold = b.threshold)
    (hk : ∀ c ∈ l, c.SameKind) (hd : ∀ c ∈ l, c.Delivers) : Stocked T (cs ++ l.toList) b' := by
  have hsum := hs.ticketSum hc hk
  have hal : allocatedTickets (cs ++ l.toList) = allocatedTickets cs ++ allocatedTickets l.toList :=
    List.flatMap_append
  refine ⟨ht.trans h.threshold, h.asks_step hs, ?_, ?_⟩
  · rw [hal]
    intro hnil
    obtain ⟨h₁, h₂⟩ := List.append_eq_nil_iff.mp hnil
    rw [hsum, h.before h₁, h₂]
    rfl
  · rw [hal]
    intro hne
    by_cases hnil : allocatedTickets cs = []
    · rw [hnil, List.nil_append] at hne
      obtain ⟨hlt, hroom⟩ := h.first hs hd hnil hne
      have hzero := h.before hnil
      refine ⟨?_, hroom⟩
      unfold Books.ticketSum at hsum hzero ⊢
      omega
    · obtain ⟨hlt, hroom⟩ := h.after hnil
      exact ⟨by omega, hroom⟩

/-! ### What leaves the bridge stuck -/

theorem pending_erase_none : (∀ a : ℕ, (b.pending.erase k)[a]? = none) ↔ ∀ a : ℕ, a ≠ k → b.pending[a]? = none := by
  constructor
  · intro h a hne
    rw [← getElem?_erase_ne (Ne.symm hne)]
    exact h a
  · intro h a
    by_cases hka : k = a
    · rw [hka, getElem?_erase_self']
    · rw [getElem?_erase_ne hka]
      exact h a (Ne.symm hka)

/-- The end of an operation, when no ticket is registered, leaves the bridge stuck exactly if
it strands it. -/
theorem stuck_finish (hc : e.Created k) {result : TransactionResult} {tickets : List ℕ}
    (hno : result = .invalid ∨ e.ticketSequence = none)
    (hdel : e.operationType.isAllocation = true → result = .accepted → 2 ≤ tickets.length) :
    (b.finish k e.operationType result tickets e.ticketSequence).Stuck ↔ b.Strands k e result := by
  unfold Stuck Strands
  rw [finish_eq, and_comm]
  apply and_congr pending_erase_none
  simp only [List.length_append]
  cases hc with
  | onTicket =>
    obtain rfl := hno.resolve_right (by simp)
    simp
  | onAccount =>
    cases result with
    | accepted =>
      have := hdel rfl rfl
      simp
      omega
    | _ => simp

/-- **While enough tickets have been used, the last one gets an allocation**: an operation
that was executed leaves the bridge stuck never. -/
theorem Stocked.not_stuck (h : Stocked T cs b) (hf : b.Flags) (hk : b.pending[k]? = some e)
    (hticket : e.ticketSequence.isSome = true) {result : TransactionResult} {tickets : List ℕ}
    (hvalid : result ≠ .invalid)
    (hdel : e.operationType.isAllocation = true → result = .accepted → 2 ≤ tickets.length)
    (hr : (b.finish k e.operationType result tickets e.ticketSequence).Registers b') : ¬ b'.Stuck := by
  rintro ⟨hone, hnone⟩
  obtain ⟨t, ht⟩ := Option.isSome_iff_exists.mp hticket
  have hupdating := (hf.finish hk result tickets e.ticketSequence).updating
  cases hr with
  | exhausted _ _ hav =>
    change (b.finish k e.operationType result tickets e.ticketSequence).available.length = 1 at hone
    rw [hav] at hone
    cases hone
  | @allocating t' _ _ _ _ _ =>
    have := hnone t'
    rw [getElem?_insert_self'] at this
    cases this
  | counted hdue =>
    change (b.finish k e.operationType result tickets e.ticketSequence).available.length = 1 at hone
    change ∀ a : ℕ, (b.finish k e.operationType result tickets e.ticketSequence).pending[a]? = none at hnone
    have hidle : (b.finish k e.operationType result tickets e.ticketSequence).updating = false := by
      rw [count_eq_zero.mpr fun a x hx => by rw [hnone a] at hx; cases hx] at hupdating
      cases hu : (b.finish k e.operationType result tickets e.ticketSequence).updating with
      | false => rfl
      | true => rw [hu] at hupdating; cases hupdating
    have hfew : ¬ (b.finish k e.operationType result tickets e.ticketSequence).threshold ≤
        (b.finish k e.operationType result tickets e.ticketSequence).used + 1 := fun hd => hdue ⟨hd, hidle⟩
    rw [pending_finish] at hnone
    rw [finish_eq] at hone hfew
    dsimp only at hone hfew
    simp only [if_neg hvalid, List.nil_append, List.length_append] at hone
    by_cases hacc : e.operationType.isAllocation = true ∧ result = .accepted
    · have := hdel hacc.1 hacc.2
      rw [if_pos hacc] at hone
      omega
    · -- the operation held the only other ticket
      rw [if_neg hacc, List.length_nil, Nat.add_zero] at hone
      rw [if_neg hacc, h.threshold] at hfew
      have hheld := (held_erase hk).length_eq
      have hempty : collect (b.pending.erase k) Entry.ticketSequence = [] := by
        apply List.eq_nil_iff_forall_not_mem.mpr
        intro a ha
        obtain ⟨a', x, hx, -⟩ := mem_collect.mp ha
        rw [hnone a'] at hx
        cases hx
      rw [hempty, ht, List.append_nil, Option.toList_some, List.length_singleton] at hheld
      have hsome : allocatedTickets cs ≠ [] := fun hnil => by
        have := h.before hnil
        unfold Books.ticketSum at this
        omega
      have hmore := (h.after hsome).1
      unfold Books.ticketSum at hmore
      omega

/-- **A completion leaves the bridge stuck exactly if it strands it.** -/
theorem Step.stuck_completed {c : Completion} (hs : b.Step (some c) b') (h : Stocked T cs b) (hc : b.Created)
    (hf : b.Flags) (hT : 2 ≤ T) (hk : c.SameKind) (hd : c.Delivers) :
    b'.Stuck ↔ b.Strands c.operationId c.operation.entry c.evidence.transactionResult := by
  cases hs with
  | completed hp hn _ _ _ hset =>
    have hticket : c.evidence.ticketSequence = c.operation.entry.ticketSequence := hk.ticketSequence_eq (hc _ _ hp) hn
    have hdel : c.operation.entry.operationType.isAllocation = true → c.evidence.transactionResult = .accepted →
        2 ≤ c.evidence.tickets.length := by
      intro hall hacc
      obtain ⟨n, hnum⟩ := OperationType.isAllocation_iff.mp hall
      have hasks := h.asks _ _ hp n hnum
      have hlen := hd ((Bool.and_eq_true _ _).mpr ⟨hall, decide_eq_true hacc⟩)
      rw [show c.operation.operationType = .allocateTickets n from hnum] at hlen
      change c.evidence.tickets.length = n at hlen
      split_ifs at hasks <;> omega
    rw [hticket] at hset
    split_ifs at hset with hcond
    · apply iff_of_false (h.not_stuck hf hp hcond.2 hcond.1 hdel hset)
      rintro ⟨-, ⟨hinv, -⟩ | ⟨-, hacct, -⟩⟩
      · exact hcond.1 hinv
      · have := hc _ _ hp
        generalize c.operation.entry = entry at *
        cases this with
        | onTicket => cases hacct
        | onAccount => cases hcond.2
    · rw [hset]
      refine stuck_finish (hc _ _ hp) ?_ hdel
      by_cases hinv : c.evidence.transactionResult = .invalid
      · exact .inl hinv
      · exact .inr (Option.not_isSome_iff_eq_none.mp fun hsome => hcond ⟨hinv, hsome⟩)

end Books

/-! ### Calls that strand the bridge -/

variable {H : Host} {s s' s₁ : Storage} {w : World} {k T : ℕ} {cs : List Completion}

variable (H) in
/-- A call, if it succeeds, ends an operation and strands the bridge by it. -/
def Strands (s : Storage) (msg : ExecuteMsg) : Prop :=
  ∃ k o result, ended H s msg = some (k, o, result) ∧ s.books.Strands k o.entry result

theorem not_strands {msg : ExecuteMsg} (h : ended H s msg = none) : ¬ Strands H s msg := by
  rintro ⟨k, o, result, he, -⟩
  rw [h] at he
  cases he

theorem strands_iff {msg : ExecuteMsg} {o : Operation} {result : TransactionResult}
    (h : ended H s msg = some (k, o, result)) : Strands H s msg ↔ s.books.Strands k o.entry result := by
  constructor
  · rintro ⟨k', o', result', he, hs⟩
    rw [h] at he
    cases he
    exact hs
  · exact fun hs => ⟨k, o, result, h, hs⟩

/-- A stuck bridge has nothing to end. -/
theorem Strands.not_stuck {msg : ExecuteMsg} (h : Strands H s msg) : ¬ s.books.Stuck := by
  obtain ⟨k, o, result, he, -⟩ := h
  rintro ⟨-, hnone⟩
  have := hnone k
  rw [pending_books, pending_of_ended he] at this
  cases this

theorem Contract.Opens.not_stuck {timestamp : ℕ} {operationType : OperationType}
    (h : Opens s timestamp operationType s') : ¬ s'.books.Stuck := by
  rintro ⟨-, hnone⟩
  cases h with
  | @intro t =>
    have := hnone t
    simp at this

/-- **A call leaves the bridge stuck exactly if it strands it.** -/
theorem Contract.Effect.stuck_iff {q : Querier} {env : BlockInfo} {sender : Addr} {funds : List Coin}
    {msg : ExecuteMsg} {ms : List SubMsg} (h : Effect H s q env sender funds msg s' ms)
    (hstock : s.books.Stocked T cs) (hT : 2 ≤ T) (hc : s.books.Created) (hf : s.books.Flags)
    (hk : ∀ c ∈ completion H s msg, c.SameKind) (hd : ∀ c ∈ completion H s msg, c.Delivers)
    (hs : ¬ s.books.Stuck) : s'.books.Stuck ↔ Strands H s msg := by
  have hbooks := h.books
  have hsame : s'.books = s.books → ended H s msg = none → (s'.books.Stuck ↔ Strands H s msg) := fun hb he => by
    rw [hb]
    exact iff_of_false hs (not_strands he)
  cases h with
  | voted _ hv => exact hsame hv.books (ended_of_not_reaches hv.reaches)
  | receivedXRPL _ hv _ _ _ hfee => exact hsame (by rw [handleFeeCollection_books hfee, hv.books]) rfl
  | receivedCosmos _ hv _ _ _ hfee => exact hsame (by rw [handleFeeCollection_books hfee, hv.books]) rfl
  | @completed e _ _ _ k o _ _ _ hv hid ho =>
    have hcomp := completion_of_reaches hv.reaches hid ho
    rw [hcomp] at hbooks hk hd
    rw [strands_iff (ended_of_reaches hv.reaches hid ho)]
    exact hbooks.stuck_completed hstock hc hf hT (hk _ rfl) (hd _ rfl)
  | @cancelled k o _ _ ho hh =>
    rw [hh.finish k o.ticketSequence, strands_iff (ended_cancelled ho)]
    exact Books.stuck_finish (e := o.entry) (hc _ _ (by simp [ho])) (.inl rfl) (fun _ hacc => by cases hacc)
  | sentXRPL _ _ _ _ ho => exact iff_of_false ho.not_stuck (not_strands rfl)
  | sentCosmos _ _ _ _ _ _ _ ho => exact iff_of_false ho.not_stuck (not_strands rfl)
  | registeredXRPL _ _ _ _ _ ho => exact iff_of_false ho.not_stuck (not_strands rfl)
  | recoveredXRPL _ _ ho => exact iff_of_false ho.not_stuck (not_strands rfl)
  | rotating _ _ ho => exact iff_of_false ho.not_stuck (not_strands rfl)
  | @recovering k _ _ hempty =>
    refine iff_of_false (fun hstuck => ?_) (not_strands rfl)
    have := hstuck.2 k
    simp at this
  | signed ho => exact hsame (books_signed ho _) rfl
  | repriced => exact hsame (books_repriced s _) rfl
  | claimedFees _ ht =>
    obtain ⟨⟨_, rfl⟩, -⟩ := substractRelayerFees_eq_ok ht
    exact hsame rfl rfl
  | retuned | halted | resumed => exact iff_of_false hs (not_strands rfl)
  | _ => exact hsame rfl rfl

/-! ### In every run -/

theorem Books.Registers.threshold {b b' : Books} (h : b.Registers b') : b'.threshold = b.threshold := by
  cases h <;> rfl

/-- Nothing but `UpdateUsedTicketSequenceThreshold` changes the threshold of used tickets. -/
theorem Contract.Effect.threshold {q : Querier} {env : BlockInfo} {sender : Addr} {funds : List Coin}
    {msg : ExecuteMsg} {ms : List SubMsg} (h : Effect H s q env sender funds msg s' ms)
    (hne : ∀ n, msg ≠ .updateUsedTicketSequenceThreshold n) : s'.books.threshold = s.books.threshold := by
  have hbooks := h.books
  have hopens : ∀ {s₁ : Storage} {timestamp : ℕ} {operationType : OperationType},
      Opens s₁ timestamp operationType s' → s'.books.threshold = s₁.books.threshold := fun ho => by cases ho; rfl
  cases h with
  | voted _ hv => rw [hv.books]
  | receivedXRPL _ hv _ _ _ hfee => rw [handleFeeCollection_books hfee, hv.books]
  | receivedCosmos _ hv _ _ _ hfee => rw [handleFeeCollection_books hfee, hv.books]
  | completed _ _ hv hid ho =>
    rw [completion_of_reaches hv.reaches hid ho] at hbooks
    cases hbooks with
    | completed _ _ _ _ _ hset =>
      split_ifs at hset
      · rw [hset.threshold, Books.finish_eq]
      · rw [hset, Books.finish_eq]
  | @cancelled k o _ _ _ hh => rw [hh.finish k o.ticketSequence, Books.finish_eq]
  | sentXRPL _ _ _ hfee ho => rw [hopens ho, handleFeeCollection_books hfee]
  | sentCosmos _ _ _ _ _ _ hfee ho => rw [hopens ho, handleFeeCollection_books hfee]
  | registeredXRPL _ _ _ _ _ ho => exact (hopens ho).trans rfl
  | recoveredXRPL _ _ ho => exact (hopens ho).trans rfl
  | rotating _ _ ho => exact (hopens ho).trans rfl
  | retuned => exact absurd rfl (hne _)
  | claimedFees _ ht =>
    obtain ⟨⟨_, rfl⟩, -⟩ := substractRelayerFees_eq_ok ht
    rfl
  | _ => rfl

/-- A run in which every evidence that ends an operation names its kind of sequence, every
accepted allocation delivers as many tickets as were asked for, and the threshold of used
tickets is never updated. -/
structure Orderly (H : Host) (w : World) (calls : List Call) : Prop where
  kinds : ∀ c ∈ completions H w calls, c.SameKind
  delivers : ∀ c ∈ completions H w calls, c.Delivers
  keeps : ∀ x ∈ history (step H) w calls, ∀ n, x.2.msg ≠ .updateUsedTicketSequenceThreshold n

theorem completions_append (w : World) (as bs : List Call) :
    completions H w (as ++ bs) = completions H w as ++ completions H (run (step H) w as) bs := by
  simp only [completions, labels, history_append, List.filterMap_append]

/-- The beginning of an orderly run is orderly. -/
theorem Orderly.of_append {pre post : List Call} (h : Orderly H w (pre ++ post)) : Orderly H w pre := by
  refine ⟨fun c hc => h.kinds c ?_, fun c hc => h.delivers c ?_, fun x hx => h.keeps x ?_⟩
  · rw [completions_append]
    exact List.mem_append_left _ hc
  · rw [completions_append]
    exact List.mem_append_left _ hc
  · rw [history_append]
    exact List.mem_append_left _ hx

/-- A call of an orderly run, that goes through. -/
theorem Orderly.last {calls : List Call} {c : Call} {w' : World} {r : Response}
    (h : Orderly H w (calls ++ [c])) (hstep : step H (run (step H) w calls) c = .ok (w', r)) :
    (∀ x ∈ completion H (run (step H) w calls).store c.msg, x.SameKind) ∧
      (∀ x ∈ completion H (run (step H) w calls).store c.msg, x.Delivers) ∧
      ∀ n, c.msg ≠ .updateUsedTicketSequenceThreshold n := by
  have hmem : ∀ x ∈ completion H (run (step H) w calls).store c.msg, x ∈ completions H w (calls ++ [c]) := by
    intro x hx
    rw [completions, labels_snoc_ok hstep]
    exact List.mem_append_right _ (Option.mem_toList.mpr hx)
  refine ⟨fun x hx => h.kinds x (hmem x hx), fun x hx => h.delivers x (hmem x hx), fun n => ?_⟩
  refine h.keeps (run (step H) w calls, c) ?_ n
  rw [history_snoc_ok hstep]
  exact List.mem_append_right _ (List.mem_singleton.mpr rfl)

theorem run_stocked (h : Started H w) (calls : List Call) (ho : Orderly H w calls) :
    (run (step H) w calls).store.books.Stocked w.store.config.usedTicketSequenceThreshold
      (completions H w calls) := by
  refine run_induction (P := fun calls (w' : World) => Orderly H w calls →
    w'.store.books.Stocked w.store.config.usedTicketSequenceThreshold (completions H w calls)) ?_ ?_ ?_ calls ho
  · intro _
    obtain ⟨t, -, -, hb⟩ := started_books h
    have ht : w.store.config.usedTicketSequenceThreshold = t := congrArg Books.threshold hb
    rw [hb, ht]
    refine ⟨rfl, fun k e hk => by simp [Books.initial] at hk, fun _ => ?_, fun hne => absurd rfl hne⟩
    simp [Books.initial, Books.ticketSum, Books.held]
  · intro calls c w' r ih hstep ho
    obtain ⟨hk, hd, hkeep⟩ := ho.last hstep
    have heff := run_effect h hstep
    rw [completions, labels_snoc_ok hstep]
    exact (ih ho.of_append).step heff.books (run_created h calls) (heff.threshold hkeep) hk hd
  · intro calls c f ih hstep ho
    rw [completions, labels_snoc_error hstep]
    exact ih ho.of_append

/-- A run without a call that strands the bridge never leaves it stuck. -/
theorem run_not_stuck (h : Started H w) (calls : List Call) (ho : Orderly H w calls)
    (hno : ∀ x ∈ history (step H) w calls, ¬ Strands H x.1.store x.2.msg) :
    ¬ (run (step H) w calls).store.books.Stuck := by
  refine run_induction (P := fun calls (w' : World) => Orderly H w calls →
    (∀ x ∈ history (step H) w calls, ¬ Strands H x.1.store x.2.msg) → ¬ w'.store.books.Stuck) ?_ ?_ ?_ calls ho hno
  · intro _ _
    obtain ⟨t, -, -, hb⟩ := started_books h
    rw [hb]
    rintro ⟨hone, -⟩
    cases hone
  · intro calls c w' r ih hstep ho hno
    obtain ⟨hk, hd, -⟩ := ho.last hstep
    obtain ⟨t, hT, -, hb⟩ := started_books h
    have ht : w.store.config.usedTicketSequenceThreshold = t := congrArg Books.threshold hb
    rw [history_snoc_ok hstep] at hno
    have hold := ih ho.of_append fun x hx => hno x (List.mem_append_left _ hx)
    rw [(run_effect h hstep).stuck_iff (run_stocked h calls ho.of_append) (ht ▸ hT) (run_created h calls)
      (run_flags h calls) hk hd hold]
    exact hno _ (List.mem_append_right _ (List.mem_singleton.mpr rfl))
  · intro calls c f ih hstep ho hno
    rw [history_snoc_error hstep] at hno
    exact ih ho.of_append hno

variable (H) in
/-- The bridge can make progress: an operation can be created, one is pending, or the owner
can ask for tickets. -/
def Progress (s : Storage) : Prop :=
  2 ≤ s.availableTickets.length ∨ (∃ (k : ℕ) (o : Operation), s.pendingOperations[k]? = some o) ∨
    (s.availableTickets = [] ∧ ∀ q env sender funds accountSequence, isOwner s sender = true →
      ∃ n s' r, execute H s q env sender funds (.recoverTickets accountSequence (some n)) = .ok (s', r))

/-- The owner can ask for tickets when there are none and no allocation is pending. -/
theorem recoverTickets_ok {q : Querier} {env : BlockInfo} {sender : Addr} {funds : List Coin} {accountSequence n : ℕ}
    (hempty : s.availableTickets = []) (hfree : s.pendingOperations[accountSequence]? = none)
    (hno : s.pendingTicketUpdate = false) (hlo : s.config.usedTicketSequenceThreshold < n) (hhi : n ≤ maxTickets)
    (howner : isOwner s sender = true) :
    ∃ s' r, execute H s q env sender funds (.recoverTickets accountSequence (some n)) = .ok (s', r) ∧
      r.messages = [] := by
  obtain ⟨s₁, hs₁⟩ : ∃ s₁, createPendingOperation { s with pendingTicketUpdate := true } env.seconds none
      (some accountSequence) (.allocateTickets n) = .ok s₁ :=
    createPendingOperation_ok rfl (checkValidOperationIfHalt_allocateTickets _ _) hfree
  have hnumber : ¬ (n ≤ s.config.usedTicketSequenceThreshold ∨ n > maxTickets) := by omega
  exact ⟨_, _, bind_eq_ok.mpr ⟨(), checkAuthorization_owner rfl howner,
    bind_eq_ok.mpr ⟨(), failIf_eq_ok.mpr (by simp [hempty]), bind_eq_ok.mpr ⟨(), failIf_eq_ok.mpr (by simp [hno]),
      bind_eq_ok.mpr ⟨(), failIf_eq_ok.mpr hnumber, bind_eq_ok.mpr ⟨s₁, hs₁, rfl⟩⟩⟩⟩⟩, rfl⟩

theorem not_progress_of_stuck (h : s.books.Stuck) : ¬ Progress H s := by
  obtain ⟨hone, hnone⟩ := h
  change s.availableTickets.length = 1 at hone
  rintro (htwo | ⟨k, o, ho⟩ | ⟨hempty, -⟩)
  · omega
  · have := hnone k
    rw [pending_books, ho] at this
    cases this
  · rw [hempty] at hone
    cases hone

/-- Some ticket is allocated once an allocation has been accepted, and only then. -/
theorem run_allocated (h : Started H w) (calls : List Call) :
    allocatedTickets (completions H w calls) ≠ [] ↔ ∃ c ∈ completions H w calls, c.isAllocation = true := by
  have hlisted : ∀ c ∈ completions H w calls, c.isAllocation = true → c.evidence.tickets ≠ [] := by
    refine run_books (P := fun cs _ => ∀ c ∈ cs, c.isAllocation = true → c.evidence.tickets ≠ []) h
      (fun _ _ _ => by simp) ?_ calls
    intro cs b l b' ih hs c hc
    rcases List.mem_append.mp hc with hc | hc
    · exact ih c hc
    · cases hs with
      | completed _ _ _ _ hdel =>
        rw [Option.toList_some, List.mem_singleton] at hc
        rw [hc]
        exact hdel
      | _ => cases hc
  rw [allocatedTickets, ne_eq, List.flatMap_eq_nil_iff]
  push Not
  apply exists_congr
  intro c
  apply and_congr_right
  intro hc
  unfold Completion.allocated
  cases ha : c.isAllocation with
  | true => simpa using hlisted c hc ha
  | false => simp

/-- After the first allocation, the bridge makes progress unless it is stuck. -/
theorem run_progress (h : Started H w) (calls : List Call) (ho : Orderly H w calls)
    (hall : ∃ c ∈ completions H w calls, c.isAllocation = true)
    (hs : ¬ (run (step H) w calls).store.books.Stuck) : Progress H (run (step H) w calls).store := by
  obtain ⟨-, hroom⟩ := (run_stocked h calls ho).after ((run_allocated h calls).mpr hall)
  have hthreshold := (run_stocked h calls ho).threshold
  change (run (step H) w calls).store.config.usedTicketSequenceThreshold = _ at hthreshold
  by_cases hpend : ∃ (k : ℕ) (o : Operation), (run (step H) w calls).store.pendingOperations[k]? = some o
  · exact .inr (.inl hpend)
  have hnone : ∀ k : ℕ, (run (step H) w calls).store.pendingOperations[k]? = none := fun k => by
    by_contra hsome
    exact hpend ⟨k, Option.ne_none_iff_exists'.mp hsome⟩
  have hbooks : ∀ k : ℕ, (run (step H) w calls).store.books.pending[k]? = none := fun k => by simp [hnone k]
  rcases Nat.lt_trichotomy (run (step H) w calls).store.availableTickets.length 1 with hlt | hone | hgt
  · have hempty : (run (step H) w calls).store.availableTickets = [] := List.length_eq_zero_iff.mp (by omega)
    refine .inr (.inr ⟨hempty, fun q env sender funds accountSequence howner => ?_⟩)
    have hcount := (run_flags h calls).updating
    rw [count_eq_zero.mpr fun k e hk => by rw [hbooks k] at hk; cases hk] at hcount
    have hno : (run (step H) w calls).store.pendingTicketUpdate = false := by
      cases hu : (run (step H) w calls).store.pendingTicketUpdate with
      | false => rfl
      | true => simp [Storage.books, hu] at hcount
    obtain ⟨s', r, hexec, -⟩ : ∃ s' r, execute H (run (step H) w calls).store q env sender funds
        (.recoverTickets accountSequence (some _)) = .ok (s', r) ∧ r.messages = [] :=
      recoverTickets_ok hempty (hnone accountSequence) hno (Nat.lt_succ_self _) (by omega) howner
    exact ⟨_, s', r, hexec⟩
  · exact absurd ⟨hone, hbooks⟩ hs
  · exact .inl hgt

/-- **The bridge makes progress exactly as long as no call strands it**: in every orderly
run, from the first accepted allocation on. -/
theorem progress_iff (h : Started H w) (calls : List Call) (ho : Orderly H w calls) :
    (∀ pre post, calls = pre ++ post → (∃ c ∈ completions H w pre, c.isAllocation = true) →
        Progress H (run (step H) w pre).store) ↔
      ∀ x ∈ history (step H) w calls, ¬ Strands H x.1.store x.2.msg := by
  constructor
  · rintro hall ⟨v, c⟩ hx hstrands
    obtain ⟨pre, post, ⟨w', r⟩, rfl, rfl, hstep⟩ := mem_history_iff.mp hx
    rw [show pre ++ c :: post = (pre ++ [c]) ++ post by simp] at ho hall
    have hlast := ho.of_append
    obtain ⟨hk, hd, -⟩ := hlast.last hstep
    obtain ⟨t, hT, -, hb⟩ := started_books h
    have ht : w.store.config.usedTicketSequenceThreshold = t := congrArg Books.threshold hb
    have hstuck : (run (step H) w (pre ++ [c])).store.books.Stuck := by
      rw [run_snoc_ok hstep]
      exact ((run_effect h hstep).stuck_iff (run_stocked h pre hlast.of_append) (ht ▸ hT) (run_created h pre)
        (run_flags h pre) hk hd hstrands.not_stuck).mpr hstrands
    refine not_progress_of_stuck hstuck (hall (pre ++ [c]) post rfl ((run_allocated h _).mp fun hnil => ?_))
    -- the ticket that is left has been allocated
    have hlen := (run_tickets h (pre ++ [c]) hlast.kinds).length_eq
    rw [hnil, List.length_append, List.length_append, hstuck.1, List.length_nil] at hlen
    omega
  · rintro hno pre post rfl hall
    refine run_progress h pre ho.of_append hall (run_not_stuck h pre ho.of_append fun x hx => hno x ?_)
    rw [history_append]
    exact List.mem_append_left _ hx

open Reference in
/-- After the first allocation the bridge makes progress. -/
theorem progress_iff_allocation : Progress host (run (step host) world₁ [recover, vote 2 relayer₁ allocation]).store := by
  have ho : Orderly host world₁ [recover, vote 2 relayer₁ allocation] := by
    refine ⟨by decide +kernel, by decide +kernel, fun x hx n => ?_⟩
    have hmem := mem_of_mem_history hx
    simp only [List.mem_cons, List.not_mem_nil, or_false] at hmem
    rcases hmem with heq | heq <;> rw [heq] <;> nofun
  refine (progress_iff started_world₁ _ ho).mpr (fun x hx => ?_) _ [] (by simp) (by decide +kernel)
  obtain ⟨v, c⟩ := x
  obtain ⟨pre, post, _, hcalls, rfl, -⟩ := mem_history_iff.mp hx
  rcases pre with _ | ⟨d, _ | ⟨d', pre⟩⟩
  · simp only [List.nil_append, List.cons.injEq] at hcalls
    rw [← hcalls.1]
    exact not_strands rfl
  · simp only [List.cons_append, List.nil_append, List.cons.injEq] at hcalls
    obtain ⟨rfl, rfl, -⟩ := hcalls
    have hended : ended host (run (step host) world₁ [recover]).store (vote 2 relayer₁ allocation).msg =
        some (1, ⟨"1-1", 1, none, some 1, [], .allocateTickets 3, 10⟩, .accepted) := by decide +kernel
    rw [strands_iff hended]
    rintro ⟨-, ⟨hinv, -⟩ | ⟨hacc, -⟩⟩
    · cases hinv
    · exact hacc rfl
  · simp at hcalls

open Reference in
/-- Two rotations are rejected on the tickets 1 and 2, an allocation becomes due on the ticket 3
and is reported as invalid: the bridge is stuck. -/
theorem progress_stranded :
    let calls := [recover, vote 2 relayer₁ allocation, rotate,
      vote 4 relayer₁ (.xrplTransactionResult ⟨some "cd34", none, some 1, .rejected, none⟩),
      call 5 owner (.rotateKeys [relayer₂] 1),
      vote 6 relayer₁ (.xrplTransactionResult ⟨some "ef56", none, some 2, .rejected, none⟩),
      vote 7 relayer₁ (.xrplTransactionResult ⟨none, none, some 3, .invalid, some (.ticketsAllocation none)⟩)]
    Orderly host world₁ calls ∧ (allocatedTickets (completions host world₁ calls)).Nodup ∧
      (∃ c ∈ completions host world₁ calls, c.isAllocation = true) ∧
      ¬ Progress host (run (step host) world₁ calls).store := by
  intro calls
  have hends : (∀ c ∈ completions host world₁ calls, c.SameKind) ∧ (∀ c ∈ completions host world₁ calls, c.Delivers) ∧
      (allocatedTickets (completions host world₁ calls)).Nodup ∧
        ∃ c ∈ completions host world₁ calls, c.isAllocation = true := by decide +kernel
  obtain ⟨hkinds, hdelivers, hnodup, hallocates⟩ := hends
  have hone : (run (step host) world₁ calls).store.books.available.length = 1 := by decide +kernel
  have hempty : (run (step host) world₁ calls).store.pendingOperations.isEmpty = true := by decide +kernel
  refine ⟨⟨hkinds, hdelivers, fun x hx n => ?_⟩, hnodup, hallocates, not_progress_of_stuck ⟨hone, fun k => ?_⟩⟩
  · have hmem := mem_of_mem_history hx
    simp only [calls, List.mem_cons, List.not_mem_nil, or_false] at hmem
    rcases hmem with heq | heq | heq | heq | heq | heq | heq <;> rw [heq] <;> nofun
  · rw [pending_books, ExtTreeMap.isEmpty_iff.mp hempty]
    rfl

end XrplBridge
