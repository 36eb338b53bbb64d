import XrplBridge.Protocol.Lifetimes
import XrplBridge.Reference

/-!
# Numbers that are used again

A relayer signs an operation by its number and its version. The number is a ticket or an account
sequence, which is used again once an operation on it was cancelled or invalid, and every
operation starts at version 1. `namesOne_iff` says when a number and a version name one operation
in the whole of a run: exactly if the run takes no number twice.
-/

namespace XrplBridge

open Library Contract Std

variable (H : Host)

/-- The numbers a run takes for new operations, in order. -/
def openedNumbers (w : World) (calls : List Call) : List ℕ :=
  (history (step H) w calls).filterMap fun x => opened H x.1.store x.2.msg

/-- In a run, a number and a version name one operation. -/
structure NamesOne (w : World) (calls : List Call) : Prop where
  /-- Two operations of one number and one version are one, whenever they are pending. -/
  content : ∀ pre₁ pre₂, pre₁ <+: calls → pre₂ <+: calls → ∀ (k : ℕ) (o₁ o₂ : Operation),
    (run (step H) w pre₁).store.pendingOperations[k]? = some o₁ →
      (run (step H) w pre₂).store.pendingOperations[k]? = some o₂ → o₁.version = o₂.version →
        (ledger H w pre₁).born k = (ledger H w pre₂).born k ∧ o₁.id = o₂.id ∧
          o₁.operationType = o₂.operationType ∧ o₁.xrplBaseFee = o₂.xrplBaseFee
  /-- A signature for an operation is stored on this operation, however late it comes. -/
  signature : ∀ pre₁ pre₂, pre₁ <+: calls → pre₂ <+: calls → ∀ (k : ℕ) (o₁ : Operation),
    (run (step H) w pre₁).store.pendingOperations[k]? = some o₁ → ∀ (c : Call) (signature : String),
      c.msg = .saveSignature k o₁.version signature → (step H (run (step H) w pre₂) c).isOk = true →
        ∃ o₂ : Operation, (run (step H) w pre₂).store.pendingOperations[k]? = some o₂ ∧
          (ledger H w pre₁).born k = (ledger H w pre₂).born k ∧ o₁.id = o₂.id ∧
            o₁.operationType = o₂.operationType ∧ o₁.xrplBaseFee = o₂.xrplBaseFee

variable {H} {s s' : Storage} {w : World} {k : ℕ} {calls : List Call}

/-! ### The numbers of a run -/

theorem openedNumbers_snoc {c : Call} {w' : World} {r : Response}
    (hstep : step H (run (step H) w calls) c = .ok (w', r)) :
    openedNumbers H w (calls ++ [c]) =
      openedNumbers H w calls ++ (opened H (run (step H) w calls).store c.msg).toList := by
  rw [openedNumbers, history_snoc_ok hstep, List.filterMap_append]
  cases hk : opened H (run (step H) w calls).store c.msg <;> simp [openedNumbers, hk]

theorem openedNumbers_snoc_error {c : Call} {e : Failure} (hstep : step H (run (step H) w calls) c = .error e) :
    openedNumbers H w (calls ++ [c]) = openedNumbers H w calls := by
  rw [openedNumbers, history_snoc_error hstep, openedNumbers]

theorem openedNumbers_append (as bs : List Call) :
    openedNumbers H w (as ++ bs) = openedNumbers H w as ++ openedNumbers H (run (step H) w as) bs := by
  simp only [openedNumbers, history_append, List.filterMap_append]

/-- A number that is taken holds a new operation, of version 1. -/
theorem Fate.opens {env : BlockInfo} {sender : Addr} {msg : ExecuteMsg} (h : Fate H s s' env sender msg k)
    (hopen : opened H s msg = some k) : ∃ o, s'.pendingOperations[k]? = some o ∧ o.version = 1 := by
  cases h with
  | kept unopened => exact absurd hopen unopened
  | signed asked => rw [asked] at hopen; cases hopen
  | repriced asked => rw [asked] at hopen; cases hopen
  | finished unopened => exact absurd hopen unopened
  | created _ after => exact ⟨_, after, rfl⟩

/-- The number of a pending operation has been taken. -/
theorem run_opened (h : Started H w) (calls : List Call) :
    ∀ (k : ℕ) (o : Operation), (run (step H) w calls).store.pendingOperations[k]? = some o →
      k ∈ openedNumbers H w calls := by
  refine run_induction (P := fun calls (w' : World) => ∀ (k : ℕ) (o : Operation),
    w'.store.pendingOperations[k]? = some o → k ∈ openedNumbers H w calls) ?_ ?_ ?_ calls
  · obtain ⟨_, _, -, -, -, -, hs⟩ := started_eq h
    rw [hs]
    simp [initialStorage]
  · intro calls c w' r ih hstep k o ho
    rw [openedNumbers_snoc hstep, List.mem_append]
    by_cases hopen : opened H (run (step H) w calls).store c.msg = some k
    · right
      simp [hopen]
    · left
      obtain ⟨o', ho', -⟩ := ((run_effect h hstep).fate k).before hopen ho
      exact ih k o' ho'
  · intro calls c e ih hstep k o ho
    rw [openedNumbers_snoc_error hstep]
    exact ih k o ho

theorem ledger_now (calls : List Call) : (ledger H w calls).now = (history (step H) w calls).length := by
  refine @run_induction _ _ _ _ (step H)
    (fun calls _ => (ledger H w calls).now = (history (step H) w calls).length) w rfl ?_ ?_ calls
  · intro calls c w' r ih hstep
    rw [ledger_snoc hstep, history_snoc_ok hstep, List.length_append, List.length_singleton, ← ih]
    rfl
  · intro calls c e ih hstep
    rw [ledger, history_snoc_error hstep]
    exact ih

theorem Ledger.born_next (l : Ledger) (x : World × Call) (k : ℕ) :
    (l.next H x).born k = if opened H x.1.store x.2.msg = some k then l.now else l.born k := rfl

/-- An operation is not born again while its number is not taken. -/
theorem born_of_untaken {later : List Call} (hu : Untaken H (run (step H) w calls) later k) :
    (ledger H w (calls ++ later)).born k = (ledger H w calls).born k := by
  refine @run_induction _ _ _ _ (step H) (fun later _ =>
    Untaken H (run (step H) w calls) later k → (ledger H w (calls ++ later)).born k = (ledger H w calls).born k)
    (run (step H) w calls) ?_ ?_ ?_ later hu
  · intro _
    rw [List.append_nil]
  · intro later c w' r ih hstep hu
    rw [Untaken, history_snoc_ok hstep] at hu
    have hlast := hu _ (List.mem_append_right _ (List.mem_singleton.mpr rfl))
    rw [← run_append] at hstep hlast
    rw [← List.append_assoc, ledger_snoc hstep, Ledger.born_next, if_neg hlast]
    exact ih fun x hx => hu x (List.mem_append_left _ hx)
  · intro later c e ih hstep hu
    rw [Untaken, history_snoc_error hstep] at hu
    rw [← run_append] at hstep
    rw [← List.append_assoc, ledger, history_snoc_error hstep]
    exact ih hu

/-! ### One number, one operation -/

/-- In a run that takes no number twice, a pending operation's number is not taken later. -/
theorem untaken_of_nodup (h : Started H w) {later : List Call}
    (hnodup : (openedNumbers H w (calls ++ later)).Nodup) {o : Operation}
    (ho : (run (step H) w calls).store.pendingOperations[k]? = some o) :
    Untaken H (run (step H) w calls) later k := by
  intro x hx hopen
  rw [openedNumbers_append] at hnodup
  exact List.disjoint_of_nodup_append hnodup (run_opened h calls k o ho) (List.mem_filterMap.mpr ⟨x, hx, hopen⟩)

theorem content_of_nodup (h : Started H w) {pre later : List Call}
    (hnodup : (openedNumbers H w (pre ++ later)).Nodup) {o₁ o₂ : Operation}
    (ho₁ : (run (step H) w pre).store.pendingOperations[k]? = some o₁)
    (ho₂ : (run (step H) w (pre ++ later)).store.pendingOperations[k]? = some o₂) (hv : o₁.version = o₂.version) :
    (ledger H w pre).born k = (ledger H w (pre ++ later)).born k ∧ o₁.id = o₂.id ∧
      o₁.operationType = o₂.operationType ∧ o₁.xrplBaseFee = o₂.xrplBaseFee := by
  have hu := untaken_of_nodup h hnodup ho₁
  obtain ⟨o, ho, hc⟩ := run_before h pre later hu ho₂
  rw [ho₁] at ho
  cases ho
  exact ⟨(born_of_untaken hu).symm, hc.id.symm, hc.type.symm, (hc.fee hv.symm).symm⟩

theorem namesOne_of_nodup (h : Started H w) (hnodup : (openedNumbers H w calls).Nodup) : NamesOne H w calls := by
  have hpre : ∀ pre, pre <+: calls → (openedNumbers H w pre).Nodup := by
    rintro pre ⟨post, rfl⟩
    rw [openedNumbers_append] at hnodup
    exact hnodup.of_append_left
  have hcontent : ∀ pre₁ pre₂, pre₁ <+: calls → pre₂ <+: calls → ∀ (k : ℕ) (o₁ o₂ : Operation),
      (run (step H) w pre₁).store.pendingOperations[k]? = some o₁ →
        (run (step H) w pre₂).store.pendingOperations[k]? = some o₂ → o₁.version = o₂.version →
          (ledger H w pre₁).born k = (ledger H w pre₂).born k ∧ o₁.id = o₂.id ∧
            o₁.operationType = o₂.operationType ∧ o₁.xrplBaseFee = o₂.xrplBaseFee := by
    intro pre₁ pre₂ h₁ h₂ k o₁ o₂ ho₁ ho₂ hv
    rcases List.prefix_or_prefix_of_prefix h₁ h₂ with ⟨later, rfl⟩ | ⟨later, rfl⟩
    · exact content_of_nodup h (hpre _ h₂) ho₁ ho₂ hv
    · obtain ⟨hborn, hid, htype, hfee⟩ := content_of_nodup h (hpre _ h₁) ho₂ ho₁ hv.symm
      exact ⟨hborn.symm, hid.symm, htype.symm, hfee.symm⟩
  refine ⟨hcontent, fun pre₁ pre₂ h₁ h₂ k o₁ ho₁ c signature hmsg hok => ?_⟩
  obtain ⟨⟨w', r⟩, hstep⟩ := exists_of_isOk hok
  have heff := run_effect h hstep
  rw [hmsg] at heff
  generalize r.messages = ms at heff
  generalize w'.store = s' at heff
  cases heff with
  | signed ho₂ _ _ hversion => exact ⟨_, ho₂, hcontent pre₁ pre₂ h₁ h₂ k o₁ _ ho₁ ho₂ hversion⟩

/-- A number that is taken twice names two operations, both of version 1. -/
theorem nodup_of_namesOne (h : Started H w) (hone : NamesOne H w calls) : (openedNumbers H w calls).Nodup := by
  refine @run_induction _ _ _ _ (step H)
    (fun calls _ => NamesOne H w calls → (openedNumbers H w calls).Nodup) w ?_ ?_ ?_ calls hone
  · intro _
    exact List.nodup_nil
  · intro calls c w' r ih hstep hone
    have hshorter : NamesOne H w calls := by
      have hlonger : ∀ pre, pre <+: calls → pre <+: calls ++ [c] := fun pre hpre =>
        hpre.trans (List.prefix_append _ _)
      exact ⟨fun pre₁ pre₂ h₁ h₂ => hone.content pre₁ pre₂ (hlonger _ h₁) (hlonger _ h₂),
        fun pre₁ pre₂ h₁ h₂ => hone.signature pre₁ pre₂ (hlonger _ h₁) (hlonger _ h₂)⟩
    rw [openedNumbers_snoc hstep]
    cases hopen : opened H (run (step H) w calls).store c.msg with
    | none => simpa using ih hshorter
    | some k =>
      rw [Option.toList_some, List.nodup_append]
      refine ⟨ih hshorter, List.nodup_singleton k, fun a ha b hb => ?_⟩
      rw [List.mem_singleton] at hb
      subst hb
      rintro rfl
      obtain ⟨x, hx, hopen₁⟩ := List.mem_filterMap.mp ha
      obtain ⟨pre, post, ⟨w₁, r₁⟩, rfl, hx₁, hstep₁⟩ := mem_history_iff.mp hx
      rw [hx₁] at hstep₁ hopen₁
      -- right after either call, an operation of version 1 is pending
      obtain ⟨o₁, ho₁, hv₁⟩ := ((run_effect h hstep₁).fate a).opens hopen₁
      obtain ⟨o₂, ho₂, hv₂⟩ := ((run_effect h hstep).fate a).opens hopen
      rw [← run_snoc_ok hstep₁] at ho₁
      rw [← run_snoc_ok hstep] at ho₂
      have hborn := (hone.content (pre ++ [x.2]) _ ⟨post ++ [c], by simp⟩ List.prefix_rfl a o₁ o₂ ho₁ ho₂
        (hv₁.trans hv₂.symm)).1
      rw [ledger_snoc hstep₁, ledger_snoc hstep, Ledger.born_next, Ledger.born_next, if_pos hopen₁, if_pos hopen,
        ledger_now, ledger_now, history_append] at hborn
      simp only [history, hstep₁, List.length_append, List.length_cons] at hborn
      omega
  · intro calls c e ih hstep hone
    have hlonger : ∀ pre, pre <+: calls → pre <+: calls ++ [c] := fun pre hpre =>
      hpre.trans (List.prefix_append _ _)
    rw [openedNumbers_snoc_error hstep]
    exact ih ⟨fun pre₁ pre₂ h₁ h₂ => hone.content pre₁ pre₂ (hlonger _ h₁) (hlonger _ h₂),
      fun pre₁ pre₂ h₁ h₂ => hone.signature pre₁ pre₂ (hlonger _ h₁) (hlonger _ h₂)⟩

/-- **A number and a version name one operation**, in the whole of a run, exactly if the run takes
no number twice for a new operation. -/
theorem namesOne_iff (h : Started H w) (calls : List Call) :
    NamesOne H w calls ↔ (openedNumbers H w calls).Nodup :=
  ⟨nodup_of_namesOne h, namesOne_of_nodup h⟩

open Reference in
/-- Two transfers on different tickets. -/
theorem namesOne_iff_transfers :
    let allocation : Evidence :=
      .xrplTransactionResult ⟨some "ab12", some 1, none, .accepted, some (.ticketsAllocation (some [2, 3, 4]))⟩
    NamesOne host world₁ [recover, vote 2 relayer₁ allocation, send 3 1000000, send 4 2000000] :=
  (namesOne_iff started_world₁ _).mpr (by decide +kernel)

open Reference in
/-- A transfer is cancelled, and the next one gets its ticket and its version: a late signature
for the first is stored on the second. -/
theorem signature_misplaced :
    let allocation : Evidence :=
      .xrplTransactionResult ⟨some "ab12", some 1, none, .accepted, some (.ticketsAllocation (some [2, 3, 4]))⟩
    let first := [recover, vote 2 relayer₁ allocation, send 3 1000000]
    let calls := first ++ [cancel 4 2, send 5 2000000]
    ¬ NamesOne host world₁ calls ∧
      (step host (run (step host) world₁ calls)
        (call 6 relayer₁.cosmosAddress (.saveSignature 2 1 "3045"))).isOk = true := by
  intro allocation first calls
  refine ⟨fun hone => ?_, by decide +kernel⟩
  have ho₁ : (run (step host) world₁ first).store.pendingOperations[2]? =
      some ⟨"3-2", 1, some 2, none, [], .cosmosToXRPLTransfer xrpIssuer xrpCurrency 1000000 none user
        relayer₃.xrplAddress, 10⟩ := by decide +kernel
  have ho₂ : (run (step host) world₁ calls).store.pendingOperations[2]? =
      some ⟨"5-2", 1, some 2, none, [], .cosmosToXRPLTransfer xrpIssuer xrpCurrency 2000000 none user
        relayer₃.xrplAddress, 10⟩ := by decide +kernel
  have hid := (hone.content first calls (List.prefix_append _ _) List.prefix_rfl 2 _ _ ho₁ ho₂ rfl).2.1
  exact absurd hid (by decide)

end XrplBridge
