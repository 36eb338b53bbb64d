import XrplBridge.Protocol.Instances
import XrplBridge.Protocol.Operations

/-!
# The lifetime of an operation

What a call does with a number under which operations are pending (`Fate`): the operation stays
as it is, a relayer signs it, it is given a new fee, it ends, or the call creates a new one under
the number. `Effect.fate` is the one place where this is read off the cases of a call; the
invariants on versions, fees and signatures are then inductions over the five cases.

An operation is followed through a run by its number, from its creation to its end: as long as no
call ends it, it keeps its identity and its type, and its version only grows (`run_continues`).
-/

namespace XrplBridge

open Library Contract Std

variable {H : Host} {s s' s₁ : Storage} {env : BlockInfo} {sender : Addr} {msg : ExecuteMsg} {k : ℕ}

/-- What a call does with the number `k`. -/
inductive Fate (H : Host) (s s' : Storage) (env : BlockInfo) (sender : Addr) (msg : ExecuteMsg) (k : ℕ) : Prop
  /-- The operation under the number, if there is one, stays as it is. -/
  | kept (unopened : opened H s msg ≠ some k) (stays : ∀ o result, ended H s msg ≠ some (k, o, result))
      (same : s'.pendingOperations[k]? = s.pendingOperations[k]?)
      (fee : s'.config.xrplBaseFee = s.config.xrplBaseFee)
  /-- A relayer signs it. -/
  | signed {o : Operation} {signature : String} (asked : msg = .saveSignature k o.version signature)
      (pending : s.pendingOperations[k]? = some o) (relayer : isRelayer s sender = true)
      (fresh : ∀ g ∈ o.signatures, g.relayerCosmosAddress ≠ sender)
      (after : s'.pendingOperations[k]? = some { o with signatures := o.signatures ++ [⟨sender, signature⟩] })
      (config : s'.config = s.config)
  /-- It gets a new fee, as all of them do. -/
  | repriced {xrplBaseFee : ℕ} (asked : msg = .updateXRPLBaseFee xrplBaseFee)
      (after : s'.pendingOperations[k]? = s.pendingOperations[k]?.map (Operation.withBaseFee xrplBaseFee))
      (fee : s'.config.xrplBaseFee = xrplBaseFee)
  /-- It ends. -/
  | finished {o : Operation} {result : TransactionResult} (unopened : opened H s msg ≠ some k)
      (ends : ended H s msg = some (k, o, result)) (gone : s'.pendingOperations[k]? = none)
      (fee : s'.config.xrplBaseFee = s.config.xrplBaseFee)
  /-- A new one is created. -/
  | created {ticketSequence accountSequence : Option ℕ} {operationType : OperationType}
      (opens : opened H s msg = some k)
      (after : s'.pendingOperations[k]? =
        some (newOperation s env.seconds k ticketSequence accountSequence operationType))
      (free : s.pendingOperations[k]? = none ∨ ∃ o result, ended H s msg = some (k, o, result))
      (fee : s'.config.xrplBaseFee = s.config.xrplBaseFee)

/-- The operations and the fee stay as they are. -/
theorem Fate.of_same (h : s'.issued = s.issued) (hopen : opened H s msg = none) (hno : ended H s msg = none) :
    Fate H s s' env sender msg k :=
  .kept (by simp [hopen]) (by simp [hno]) (congrArg (fun i : ExtTreeMap ℕ Operation × ℕ => i.1[k]?) h)
    (congrArg Prod.snd h)

theorem newOperation_congr (h : s₁.config.xrplBaseFee = s.config.xrplBaseFee) (timestamp : ℕ)
    (ticketSequence accountSequence : Option ℕ) (operationType : OperationType) :
    newOperation s₁ timestamp k ticketSequence accountSequence operationType =
      newOperation s timestamp k ticketSequence accountSequence operationType := by
  unfold newOperation
  rw [h]

/-- An operation is opened on what has been prepared without touching the operations. -/
theorem Contract.Opens.fate {operationType : OperationType} (h : Opens s₁ env.seconds operationType s')
    (hi : s₁.issued = s.issued) (ha : s₁.availableTickets = s.availableTickets)
    (hopen : opened H s msg = s.availableTickets.head?) (hno : ended H s msg = none) :
    Fate H s s' env sender msg k := by
  have hpending : s₁.pendingOperations = s.pendingOperations := congrArg Prod.fst hi
  have hfee : s₁.config.xrplBaseFee = s.config.xrplBaseFee := congrArg Prod.snd hi
  cases h with
  | @intro ticket tickets hav _ hunused =>
    rw [← ha, hav, List.head?_cons] at hopen
    by_cases hk : ticket = k
    · subst hk
      rw [hpending] at hunused
      exact .created hopen ((getElem?_insert_self' ..).trans (congrArg some (newOperation_congr hfee ..)))
        (.inl hunused) hfee
    · refine .kept (by simpa [hopen] using hk) (by simp [hno]) ?_ hfee
      rw [getElem?_insert_ne hk, hpending]

/-- The number that the end of an operation takes for an allocation, from the store it leaves. -/
theorem opened_completed {e : ResultEvidence} {operationId : ℕ} {o : Operation}
    (hcomp : completion H s (.saveEvidence (.xrplTransactionResult e)) = some ⟨operationId, o, e⟩)
    (hbooks : s₁.books = s.books.finish operationId o.operationType e.transactionResult e.tickets e.ticketSequence) :
    opened H s (.saveEvidence (.xrplTransactionResult e)) =
      if (e.transactionResult ≠ .invalid ∧ e.ticketSequence.isSome = true) ∧
          s₁.config.usedTicketSequenceThreshold ≤ s₁.usedTicketsCounter + 1 ∧ s₁.pendingTicketUpdate = false then
        s₁.availableTickets.head?
      else none := by
  simp only [opened, hcomp, Option.bind_some, ← hbooks]
  rfl

/-- An operation has been ended, and no number taken. -/
theorem Fate.of_erase {x : ℕ × Operation × TransactionResult}
    (h : s'.issued = (s.pendingOperations.erase x.1, s.config.xrplBaseFee)) (hx : ended H s msg = some x)
    (hopen : opened H s msg ≠ some k) : Fate H s s' env sender msg k := by
  have hpending : s'.pendingOperations = s.pendingOperations.erase x.1 := congrArg Prod.fst h
  by_cases hk : x.1 = k
  · subst hk
    refine .finished hopen hx ?_ (congrArg Prod.snd h)
    rw [hpending, getElem?_erase_self']
  · refine .kept hopen (fun o result he => ?_) ?_ (congrArg Prod.snd h)
    · rw [hx, Option.some.injEq] at he
      exact hk (by rw [he])
    · rw [hpending, getElem?_erase_ne hk]

/-- A used ticket is registered once an operation has been ended: the next ticket may be taken. -/
theorem Contract.Registers.fate {x : ℕ × Operation × TransactionResult} (h : Registers s₁ env.seconds s')
    (hissued : s₁.issued = (s.pendingOperations.erase x.1, s.config.xrplBaseFee)) (hx : ended H s msg = some x)
    (hopen : opened H s msg =
      if s₁.config.usedTicketSequenceThreshold ≤ s₁.usedTicketsCounter + 1 ∧ s₁.pendingTicketUpdate = false then
        s₁.availableTickets.head?
      else none) : Fate H s s' env sender msg k := by
  cases h with
  | counted _ hnotDue =>
    rw [if_neg hnotDue] at hopen
    exact .of_erase (x := x) hissued hx (by simp [hopen])
  | exhausted _ hdue hflag hav =>
    rw [hav, List.head?_nil, ite_self] at hopen
    exact .of_erase (x := x) hissued hx (by simp [hopen])
  | @allocating ticket tickets _ hdue hflag hav hunused =>
    rw [if_pos ⟨hdue, hflag⟩, hav, List.head?_cons] at hopen
    have hpending : s₁.pendingOperations = s.pendingOperations.erase x.1 := congrArg Prod.fst hissued
    have hfee : s₁.config.xrplBaseFee = s.config.xrplBaseFee := congrArg Prod.snd hissued
    by_cases hk : ticket = k
    · subst hk
      refine .created hopen ((getElem?_insert_self' ..).trans (congrArg some (newOperation_congr hfee ..))) ?_ hfee
      by_cases hid : x.1 = ticket
      · exact .inr ⟨x.2.1, x.2.2, by rw [hx, ← hid]⟩
      · rw [hpending, getElem?_erase_ne hid] at hunused
        exact .inl hunused
    · have hother : opened H s msg ≠ some k := by simpa [hopen] using hk
      by_cases hid : x.1 = k
      · subst hid
        refine .finished hother hx ?_ hfee
        rw [getElem?_insert_ne hk, hpending, getElem?_erase_self']
      · refine .kept hother (fun o result he => ?_) ?_ hfee
        · rw [hx, Option.some.injEq] at he
          exact hid (by rw [he])
        · rw [getElem?_insert_ne hk, hpending, getElem?_erase_ne hid]

/-- The end of an operation that the votes end, and the allocation that becomes due with it. -/
theorem Contract.Settles.fate {e : ResultEvidence} {operationId : ℕ} {o : Operation} {s₂ : Storage}
    (h : Settles s₂ env e operationId s')
    (hcomp : completion H s (.saveEvidence (.xrplTransactionResult e)) = some ⟨operationId, o, e⟩)
    (hissued : (endOperation s₂ e.transactionResult operationId e.ticketSequence).issued =
      (s.pendingOperations.erase operationId, s.config.xrplBaseFee))
    (hbooks : (endOperation s₂ e.transactionResult operationId e.ticketSequence).books =
      s.books.finish operationId o.operationType e.transactionResult e.tickets e.ticketSequence) :
    Fate H s s' env sender (.saveEvidence (.xrplTransactionResult e)) k := by
  have hended : ended H s (.saveEvidence (.xrplTransactionResult e)) =
      some (operationId, o, e.transactionResult) := by
    simp [ended, hcomp]
  have hopen := opened_completed hcomp hbooks
  cases h with
  | unregistered hcond =>
    refine .of_erase hissued hended ?_
    rw [hopen, if_neg]
    · simp
    · rintro ⟨⟨hne, hsome⟩, -⟩
      rcases hcond with hinvalid | hnone
      · exact hne hinvalid
      · simp [hnone] at hsome
  | registered hvalid hticketed hr =>
    apply hr.fate hissued hended
    rw [hopen]
    simp only [hticketed, and_true, ne_eq, hvalid, not_false_eq_true, true_and]

/-- **Every call does one of five things with a number.** -/
theorem Contract.Effect.fate {q : Querier} {funds : List Coin} {ms : List SubMsg}
    (h : Effect H s q env sender funds msg s' ms) (k : ℕ) : Fate H s s' env sender msg k := by
  cases h with
  | @voted e _ _ hv =>
    refine .of_same hv.issued ?_ (ended_of_not_reaches hv.reaches)
    cases e with
    | xrplToCosmosTransfer => rfl
    | xrplTransactionResult => simp [opened, completion_of_not_reaches hv.reaches]
  | receivedXRPL _ hv _ _ _ hc => exact .of_same ((handleFeeCollection_issued hc).trans hv.issued) rfl rfl
  | receivedCosmos _ hv _ _ _ hc => exact .of_same ((handleFeeCollection_issued hc).trans hv.issued) rfl rfl
  | completed _ _ hv hid ho _ hh hset =>
    refine hset.fate (completion_of_reaches hv.reaches hid ho) (hh.issued_endOperation.trans ?_) ?_
    · exact congrArg (fun i : ExtTreeMap ℕ Operation × ℕ => (i.1.erase _, i.2)) hv.issued
    · rw [hh.finish, hv.books]
      rfl
  | cancelled ho hh => exact .of_erase hh.issued_endOperation (ended_cancelled ho) (by simp [opened])
  | sentXRPL _ _ _ hc ho =>
    exact ho.fate (handleFeeCollection_issued hc) (handleFeeCollection_available hc) rfl rfl
  | sentCosmos _ _ _ _ _ _ hc ho =>
    exact ho.fate (handleFeeCollection_issued hc) (handleFeeCollection_available hc) rfl rfl
  | registeredXRPL _ _ _ _ _ ho => exact ho.fate rfl rfl rfl rfl
  | recoveredXRPL _ _ ho => exact ho.fate rfl rfl rfl rfl
  | rotating _ _ ho => exact ho.fate rfl rfl rfl rfl
  | @recovering accountSequence _ _ _ _ _ _ hunused =>
    by_cases hk : accountSequence = k
    · subst hk
      exact .created rfl (getElem?_insert_self' ..) (.inl hunused) rfl
    · exact .kept (by simpa [opened] using hk) (by simp [ended, completion]) (getElem?_insert_ne hk) rfl
  | @signed operationId _ signature o _ ho _ hrel hversion hfresh happ =>
    subst hversion happ
    by_cases hk : operationId = k
    · subst hk
      exact .signed rfl ho hrel hfresh (getElem?_insert_self' ..) rfl
    · exact .kept (by simp [opened]) (by simp [ended, completion]) (getElem?_insert_ne hk) rfl
  | repriced => exact .repriced rfl (getElem?_map_const _ _ _) rfl
  | claimedFees _ ht =>
    obtain ⟨⟨_, rfl⟩, -⟩ := substractRelayerFees_eq_ok ht
    exact .of_same rfl rfl rfl
  | _ => exact .of_same rfl rfl rfl

/-! ### Through a run -/

/-- The operation `o'` is the operation `o`, later. -/
structure Continues (o o' : Operation) : Prop where
  id : o'.id = o.id
  type : o'.operationType = o.operationType
  version : o.version ≤ o'.version
  /-- A version has one fee. -/
  fee : o'.version = o.version → o'.xrplBaseFee = o.xrplBaseFee
  /-- A version keeps its signatures. -/
  signatures : o'.version = o.version → o.signatures ⊆ o'.signatures

theorem Continues.refl (o : Operation) : Continues o o := ⟨rfl, rfl, le_rfl, fun _ => rfl, fun _ => List.Subset.refl _⟩

theorem Continues.trans {o o' o'' : Operation} (h : Continues o o') (h' : Continues o' o'') : Continues o o'' where
  id := h'.id.trans h.id
  type := h'.type.trans h.type
  version := h.version.trans h'.version
  fee hv := by
    have hle := h.version
    have hle' := h'.version
    rw [h'.fee (by omega), h.fee (by omega)]
  signatures hv := by
    have hle := h.version
    have hle' := h'.version
    exact List.Subset.trans (h.signatures (by omega)) (h'.signatures (by omega))

/-- Under a number that is not taken, nothing appears. -/
theorem Fate.absent (h : Fate H s s' env sender msg k) (hopen : opened H s msg ≠ some k)
    (ho : s.pendingOperations[k]? = none) : s'.pendingOperations[k]? = none := by
  cases h with
  | kept _ _ same => rw [same, ho]
  | signed _ pending => rw [ho] at pending; cases pending
  | repriced _ after => rw [after, ho, Option.map_none]
  | finished _ _ gone => exact gone
  | created opens => exact absurd opens hopen

/-- An operation that the call does not end is there after it, and the same. -/
theorem Fate.continues {o : Operation} (h : Fate H s s' env sender msg k)
    (hend : ∀ o result, ended H s msg ≠ some (k, o, result)) (ho : s.pendingOperations[k]? = some o) :
    ∃ o', s'.pendingOperations[k]? = some o' ∧ Continues o o' := by
  cases h with
  | kept _ _ same => exact ⟨o, same.trans ho, .refl o⟩
  | signed _ pending _ _ after =>
    rw [ho] at pending
    cases pending
    exact ⟨_, after, rfl, rfl, le_rfl, fun _ => rfl, fun _ => List.subset_append_left _ _⟩
  | repriced _ after =>
    rw [ho, Option.map_some] at after
    exact ⟨_, after, rfl, rfl, Nat.le_succ _, fun hv => absurd hv (Nat.succ_ne_self _),
      fun hv => absurd hv (Nat.succ_ne_self _)⟩
  | finished _ ends => exact absurd ends (hend _ _)
  | created _ _ free =>
    rcases free with hnone | ⟨o', result, hends⟩
    · rw [ho] at hnone; cases hnone
    · exact absurd hends (hend _ _)

/-- An operation that is pending after a call under a number that it does not take was pending
before. -/
theorem Fate.before {o' : Operation} (h : Fate H s s' env sender msg k) (hopen : opened H s msg ≠ some k)
    (ho' : s'.pendingOperations[k]? = some o') : ∃ o, s.pendingOperations[k]? = some o ∧ Continues o o' := by
  cases hs : s.pendingOperations[k]? with
  | none => rw [h.absent hopen hs] at ho'; cases ho'
  | some o =>
    refine ⟨o, rfl, ?_⟩
    have hend : ∀ o result, ended H s msg ≠ some (k, o, result) := by
      cases h with
      | kept _ stays => exact stays
      | signed asked => subst asked; simp [ended, completion]
      | repriced asked => subst asked; simp [ended, completion]
      | finished _ _ gone => rw [gone] at ho'; cases ho'
      | created opens => exact absurd opens hopen
    obtain ⟨o'', ho'', hc⟩ := h.continues hend hs
    rw [ho'] at ho''
    cases ho''
    exact hc

variable {w : World}

/-- No call of the run takes the number for a new operation. -/
def Untaken (H : Host) (w : World) (calls : List Call) (k : ℕ) : Prop :=
  ∀ x ∈ history (step H) w calls, opened H x.1.store x.2.msg ≠ some k

/-- No call of the run ends an operation under the number. -/
def Unended (H : Host) (w : World) (calls : List Call) (k : ℕ) : Prop :=
  ∀ x ∈ history (step H) w calls, ∀ o result, ended H x.1.store x.2.msg ≠ some (k, o, result)

theorem Unended.left {as bs : List Call} (h : Unended H w (as ++ bs) k) : Unended H w as k :=
  fun x hx => h x (mem_history_append hx bs)

theorem Unended.right {as bs : List Call} (h : Unended H w (as ++ bs) k) : Unended H (run (step H) w as) bs k := by
  intro x hx
  apply h x
  rw [history_append]
  exact List.mem_append_right _ hx

/-- An operation stays what it is until it is ended. -/
theorem run_continues (h : Started H w) (calls later : List Call) (hu : Unended H (run (step H) w calls) later k)
    {o : Operation} (ho : (run (step H) w calls).store.pendingOperations[k]? = some o) :
    ∃ o', (run (step H) w (calls ++ later)).store.pendingOperations[k]? = some o' ∧ Continues o o' := by
  rw [run_append]
  refine run_induction (P := fun later (w' : World) =>
    Unended H (run (step H) w calls) later k → ∃ o', w'.store.pendingOperations[k]? = some o' ∧ Continues o o')
    ?_ ?_ ?_ later hu
  · intro _
    exact ⟨o, ho, .refl o⟩
  · intro later c w' r ih hstep hu
    rw [Unended, history_snoc_ok hstep] at hu
    have hlast := hu _ (List.mem_append_right _ (List.mem_singleton.mpr rfl))
    obtain ⟨o₁, ho₁, hc₁⟩ := ih fun x hx => hu x (List.mem_append_left _ hx)
    rw [← run_append] at hstep hlast ho₁
    obtain ⟨o₂, ho₂, hc₂⟩ := ((run_effect h hstep).fate k).continues hlast ho₁
    exact ⟨o₂, ho₂, hc₁.trans hc₂⟩
  · intro later c e ih hstep hu
    rw [Unended, history_snoc_error hstep] at hu
    exact ih hu

/-- An operation that is pending later under a number that is not taken in between was pending
before, and is the same. -/
theorem run_before (h : Started H w) (calls later : List Call) (hu : Untaken H (run (step H) w calls) later k)
    {o' : Operation} (ho' : (run (step H) w (calls ++ later)).store.pendingOperations[k]? = some o') :
    ∃ o, (run (step H) w calls).store.pendingOperations[k]? = some o ∧ Continues o o' := by
  rw [run_append] at ho'
  refine run_induction (P := fun later (w' : World) =>
    Untaken H (run (step H) w calls) later k → ∀ o', w'.store.pendingOperations[k]? = some o' →
      ∃ o, (run (step H) w calls).store.pendingOperations[k]? = some o ∧ Continues o o') ?_ ?_ ?_ later hu o' ho'
  · intro _ o ho
    exact ⟨o, ho, .refl o⟩
  · intro later c w' r ih hstep hu o' ho'
    rw [Untaken, history_snoc_ok hstep] at hu
    have hlast := hu _ (List.mem_append_right _ (List.mem_singleton.mpr rfl))
    rw [← run_append] at hstep hlast ih
    obtain ⟨o, ho, hc⟩ := ((run_effect h hstep).fate k).before hlast ho'
    obtain ⟨o₀, ho₀, hc₀⟩ := ih (fun x hx => hu x (List.mem_append_left _ hx)) o ho
    exact ⟨o₀, ho₀, hc₀.trans hc⟩
  · intro later c e ih hstep hu
    rw [Untaken, history_snoc_error hstep] at hu
    exact ih hu

end XrplBridge
