import XrplBridge.Protocol.VoteOrder
import XrplBridge.Protocol.Voting

/-!
# Submissions in any order

What a relayer submits, an evidence or a signature, is recorded in a slot: with the votes for
a hash, or with the signatures of an operation (`Slot`). As long as no threshold is
reached, a submission is checked against what is not a submission, and against the same
relayer's earlier submission to the same slot. So submissions of different relayers, or to
different slots, commute, up to the order in which they are recorded
(`submissions_commute`); and no call depends on that order (`order_unobservable`), which only
the queries show.
-/

namespace XrplBridge

open Library Contract Std

/-- Where a submission is recorded. -/
inductive Slot where
  /-- With the votes for evidences of this hash. -/
  | votes (hash : String)
  /-- With the signatures of this operation. -/
  | signatures (operationId : ℕ)
  deriving DecidableEq

variable (H : Host)

/-- The slot of a relayer's submission, none for another message. -/
def slotOf : ExecuteMsg → Option Slot
  | .saveEvidence e => some (.votes (e.getHash H))
  | .saveSignature operationId _ _ => some (.signatures operationId)
  | _ => none

/-- The storage with a submission recorded. -/
def Contract.Storage.record (s : Storage) (sender : Addr) : ExecuteMsg → Storage
  | .saveEvidence e =>
    { s with txEvidences := s.txEvidences.insert (e.getHash H) ⟨s.voters (e.getHash H) ++ [sender]⟩ }
  | .saveSignature operationId _ signature =>
    { s with
      pendingOperations := s.pendingOperations.modify operationId fun o =>
        { o with signatures := o.signatures ++ [⟨sender, signature⟩] } }
  | _ => s

/-- A submission is recorded, and nothing else comes of it: a signature, or a vote that does not
reach the threshold. -/
def Collects (s : Storage) : ExecuteMsg → Prop
  | .saveEvidence e => s.reaches H e = false
  | .saveSignature _ _ _ => True
  | _ => False

variable {H} {s s' : Storage} {q : Querier} {env : BlockInfo} {sender : Addr} {funds : List Coin} {msg : ExecuteMsg}
  {e : Evidence} {w : World}

/-- Replacing the value of a key. -/
theorem insert_eq_modify {m : ExtTreeMap ℕ Operation} {k : ℕ} {o : Operation} {f : Operation → Operation}
    (hk : m[k]? = some o) : m.insert k (f o) = m.modify k f := by
  apply ExtTreeMap.ext_getElem?
  intro a
  rw [ExtTreeMap.getElem?_insert, ExtTreeMap.getElem?_modify]
  split_ifs with ha
  · rw [hk]
    rfl
  · rfl

theorem step_error {c : Call} {f : Failure}
    (h : execute H w.store (w.bank.credit c.funds).querier c.env c.sender c.funds c.msg = .error f) :
    step H w c = .error f := by
  unfold step
  dsimp only
  rw [h]
  rfl

/-- What is done about a submission that is recorded only. -/
theorem record_of_execute {r : Response} (hc : Collects H s msg)
    (h : execute H s q env sender funds msg = .ok (s', r)) : s' = s.record H sender msg ∧ r.messages = [] := by
  have heff := effect_of_execute h
  cases msg with
  | saveEvidence e =>
    obtain ⟨hm, hs⟩ := heff.collected hc
    exact ⟨hs, hm⟩
  | saveSignature k version signature =>
    generalize r.messages = ms at heff ⊢
    cases heff with
    | signed hk _ _ _ _ ha => rw [Storage.record, ← insert_eq_modify hk, ha]; exact ⟨rfl, rfl⟩
  | _ => exact hc.elim

/-- A submission without coins that is recorded only: the storage with it, or nothing. -/
theorem commit_collects {c : Call} (hfunds : c.funds = []) (hc : Collects H w.store c.msg) :
    commit (step H) w c =
      if (execute H w.store w.bank.querier c.env c.sender [] c.msg).isOk then
        { w with store := w.store.record H c.sender c.msg } else w := by
  have hbank : w.bank.credit c.funds = w.bank := by rw [hfunds]; rfl
  have hsame : execute H w.store (w.bank.credit c.funds).querier c.env c.sender c.funds c.msg =
      execute H w.store w.bank.querier c.env c.sender [] c.msg := by rw [hbank, hfunds]
  cases hx : execute H w.store w.bank.querier c.env c.sender [] c.msg with
  | ok x =>
    obtain ⟨s', r⟩ := x
    obtain ⟨hs, hm⟩ := record_of_execute hc hx
    rw [commit_ok (step_ok (hsame.trans hx) hm), hbank, hs]
    rfl
  | error f => rw [commit_error (step_error (hsame.trans hx))]; rfl

/-! ### What a submission is checked against -/

/-- Two operations that differ in their signatures only. -/
def SameButSignatures (o o' : Operation) : Prop := o' = { o with signatures := o'.signatures }

/-- Two storages that differ in the votes and the signatures only, in which the sender has submitted
the same to the slot. -/
structure SameStanding (sender : Addr) (slot : Slot) (s s' : Storage) : Prop where
  rest : ∃ txEvidences pendingOperations, s' = { s with txEvidences, pendingOperations }
  operations : Related SameButSignatures s.pendingOperations s'.pendingOperations
  voted : ∀ hash, slot = .votes hash → (sender ∈ s.voters hash ↔ sender ∈ s'.voters hash)
  signed : ∀ k, slot = .signatures k → ∀ o o', s.pendingOperations[k]? = some o → s'.pendingOperations[k]? = some o' →
    ((∃ g ∈ o.signatures, g.relayerCosmosAddress = sender) ↔ ∃ g ∈ o'.signatures, g.relayerCosmosAddress = sender)

theorem checkOperationExists_beside {k : ℕ} (h : Related SameButSignatures s.pendingOperations s'.pendingOperations) :
    Alike (fun o o' => SameButSignatures o o' ∧ s.pendingOperations[k]? = some o ∧ s'.pendingOperations[k]? = some o')
      (checkOperationExists s k) (checkOperationExists s' k) := by
  have hk := h k
  unfold checkOperationExists
  generalize s.pendingOperations[k]? = x at hk ⊢
  generalize s'.pendingOperations[k]? = y at hk ⊢
  cases hk with
  | none => exact .error _
  | some hrel => exact .ok ⟨hrel, rfl, rfl⟩

/-- The vote is counted in both, and does not reach the threshold. -/
theorem handleEvidence_beside (h : SameStanding sender (.votes (e.getHash H)) s s') (hr : s.reaches H e = false)
    (hr' : s'.reaches H e = false) :
    Alike (fun x x' => x.2 = false ∧ x'.2 = false ∧ Related SameButSignatures x.1.pendingOperations x'.1.pendingOperations ∧
        ∃ m p, x'.1 = { x.1 with txEvidences := m, pendingOperations := p })
      (handleEvidence H s sender e) (handleEvidence H s' sender e) := by
  have hmem := h.voted _ rfl
  have hno : ¬ (s.voters (e.getHash H) ++ [sender]).length ≥ s.config.evidenceThreshold := by
    simpa [Storage.reaches] using hr
  have hno' : ¬ (s'.voters (e.getHash H) ++ [sender]).length ≥ s'.config.evidenceThreshold := by
    simpa [Storage.reaches] using hr'
  have hops := h.operations
  obtain ⟨m, p, rfl⟩ := h.rest
  unfold handleEvidence
  refine Alike.bind_same fun _ => (SameBut.failIf_alike hmem).bind fun _ => ?_
  dsimp only
  rw [if_neg hno, if_neg hno']
  exact .ok ⟨rfl, rfl, hops, _, _, rfl⟩

/-- Nor is a vote that is recorded only checked against other votes, or against signatures. -/
theorem saveEvidence_beside (h : SameStanding sender (.votes (e.getHash H)) s s') (hr : s.reaches H e = false)
    (hr' : s'.reaches H e = false) :
    Alike (fun _ _ => True) (saveEvidence H s q env sender e) (saveEvidence H s' q env sender e) := by
  have hhandle := handleEvidence_beside h hr hr'
  obtain ⟨m, p, rfl⟩ := h.rest
  refine Alike.bind_same fun _ => Alike.bind_same fun _ => hhandle.bind fun {x x'} hx => ?_
  obtain ⟨s₁, reached⟩ := x
  obtain ⟨s₁', reached'⟩ := x'
  obtain ⟨rfl, rfl, hops, m', p', rfl⟩ := hx
  cases e with
  | xrplToCosmosTransfer e =>
    refine Alike.bind_same fun _ => Alike.bind_same fun _ => Alike.bind_same fun _ =>
      Alike.bind (R := fun _ _ => True) ?_ fun _ => .ok trivial
    by_cases hissuer : e.issuer ≠ s₁.config.bridgeXRPLAddress
    · rw [if_pos hissuer, if_pos hissuer]
      exact Alike.bind_same fun _ => Alike.bind_same fun _ => Alike.bind_same fun _ => Alike.bind_same fun _ =>
        Alike.bind_same fun _ => Alike.bind_same fun _ => .ok trivial
    · rw [if_neg hissuer, if_neg hissuer]
      exact Alike.bind_same fun _ => Alike.bind_same fun _ => Alike.bind_same fun _ => .ok trivial
  | xrplTransactionResult e =>
    refine Alike.bind_same fun k => (checkOperationExists_beside hops).bind fun {o o'} hoo => ?_
    have htype : o'.operationType = o.operationType := by rw [hoo.1]
    dsimp only
    rw [htype]
    exact Alike.bind_same fun _ => .ok trivial

theorem saveSignature_beside {k version : ℕ} {signature : String} (h : SameStanding sender (.signatures k) s s') :
    Alike (fun _ _ => True) (saveSignature s sender k version signature)
      (saveSignature s' sender k version signature) := by
  have hexists := checkOperationExists_beside (k := k) h.operations
  have hsigned := h.signed k rfl
  obtain ⟨m, p, rfl⟩ := h.rest
  refine Alike.bind_same fun _ => Alike.bind (R := fun _ _ => True) ?_ fun _ => .ok trivial
  refine Alike.bind_same fun _ => hexists.bind fun {o o'} hoo => ?_
  obtain ⟨hsame, ho, ho'⟩ := hoo
  have hversion : o'.version = o.version := by rw [hsame]
  have htype : o'.operationType = o.operationType := by rw [hsame]
  dsimp only
  rw [hversion, htype]
  refine Alike.bind_same fun _ => Alike.bind_same fun _ => (SameBut.failIf_alike ?_).bind fun _ => .ok trivial
  simpa only [List.any_eq_true, decide_eq_true_eq] using hsigned o o' ho ho'

/-! ### Submissions next to each other -/

theorem getElem?_modify {m : ExtTreeMap ℕ Operation} {k a : ℕ} {f : Operation → Operation} :
    (m.modify k f)[a]? = if k = a then m[a]?.map f else m[a]? := by
  rw [ExtTreeMap.getElem?_modify]
  by_cases ha : k = a
  · subst ha
    simp
  · simp [ha]

theorem txEvidences_record : (s.record H sender (.saveEvidence e)).txEvidences =
    s.txEvidences.insert (e.getHash H) ⟨s.voters (e.getHash H) ++ [sender]⟩ := rfl

theorem voters_record (hash : String) :
    (s.record H sender (.saveEvidence e)).voters hash =
      if e.getHash H = hash then s.voters hash ++ [sender] else s.voters hash := by
  unfold Storage.voters Storage.record
  dsimp only
  split_ifs with hh
  · subst hh
    simp [Storage.voters]
  · rw [getElem?_insert_ne hh]

/-- A submission does not change what others are checked against. -/
theorem record_standing {other : Addr} {slot slot' : Slot} (hslot : slotOf H msg = some slot')
    (hne : slot' = slot → other ≠ sender) : SameStanding sender slot s (s.record H other msg) := by
  cases msg with
  | saveEvidence e =>
    cases hslot
    have hops : Related SameButSignatures s.pendingOperations s.pendingOperations :=
      Related.refl (R := SameButSignatures) (fun _ => rfl) _
    refine ⟨⟨_, _, rfl⟩, hops, fun hash hs => ?_, fun k hs o o' ho ho' => ?_⟩
    · rw [voters_record]
      split_ifs with hh
      · have hsender : sender ≠ other := (hne (hh ▸ hs.symm)).symm
        simp [hsender]
      · rfl
    · cases ho.symm.trans ho'
      rfl
  | saveSignature k version signature =>
    cases hslot
    refine ⟨⟨_, _, rfl⟩, fun a => ?_, fun hash hs => .rfl, fun a hs o o' ho ho' => ?_⟩
    · rw [Storage.record, getElem?_modify]
      cases s.pendingOperations[a]? with
      | none => split_ifs <;> exact .none
      | some o => split_ifs <;> exact .some rfl
    · rw [Storage.record, getElem?_modify, ho] at ho'
      split_ifs at ho' with ha
      · have hsender : other ≠ sender := hne (ha ▸ hs.symm)
        cases ho'
        simp [or_and_right, exists_or, hsender]
      · cases ho'
        rfl
  | _ => cases hslot

/-- Two votes leave the same votes, in some order. -/
theorem record_votes_swap {a b : Addr} {e e' : Evidence} :
    Related SameVotes ((s.record H a (.saveEvidence e)).record H b (.saveEvidence e')).txEvidences
      ((s.record H b (.saveEvidence e')).record H a (.saveEvidence e)).txEvidences := by
  intro hash
  simp only [txEvidences_record, voters_record]
  by_cases hh : e.getHash H = e'.getHash H
  · rw [if_pos hh, if_pos hh.symm, hh]
    by_cases hk : e'.getHash H = hash
    · subst hk
      simp only [getElem?_insert_self']
      refine .some ?_
      rw [SameVotes, List.append_assoc, List.append_assoc]
      exact (List.Perm.swap b a []).append_left _
    · simp only [getElem?_insert_ne hk]
      exact Related.refl (fun _ => .refl _) _ hash
  · rw [if_neg hh, if_neg (Ne.symm hh)]
    refine Related.of_getElem?_eq (fun _ => .refl _) (fun k => ?_) hash
    by_cases hk : e.getHash H = k
    · subst hk
      rw [getElem?_insert_ne (Ne.symm hh), getElem?_insert_self', getElem?_insert_self']
    · by_cases hk' : e'.getHash H = k
      · subst hk'
        rw [getElem?_insert_self', getElem?_insert_ne hh, getElem?_insert_self']
      · simp only [getElem?_insert_ne hk, getElem?_insert_ne hk']

/-- Two signatures leave the same signatures, in some order. -/
theorem modify_signatures_swap {m : ExtTreeMap ℕ Operation} {k k' : ℕ} {g g' : Signature} :
    Related SameOperation
      ((m.modify k fun o => { o with signatures := o.signatures ++ [g] }).modify k' fun o =>
        { o with signatures := o.signatures ++ [g'] })
      ((m.modify k' fun o => { o with signatures := o.signatures ++ [g'] }).modify k fun o =>
        { o with signatures := o.signatures ++ [g] }) := by
  intro a
  simp only [getElem?_modify]
  cases m[a]? with
  | none => split_ifs <;> exact .none
  | some o =>
    split_ifs
    · refine .some (.mk ?_)
      dsimp only
      rw [List.append_assoc, List.append_assoc]
      exact (List.Perm.swap g' g []).append_left _
    · exact .some (SameOperation.refl _)
    · exact .some (SameOperation.refl _)
    · exact .some (SameOperation.refl _)

/-- Two submissions leave the same records, in some order. -/
theorem record_swap {a b : Addr} {ma mb : ExecuteMsg} (ha : (slotOf H ma).isSome = true)
    (hb : (slotOf H mb).isSome = true) :
    Reordered ((s.record H a ma).record H b mb) ((s.record H b mb).record H a ma) := by
  cases ma with
  | saveEvidence e =>
    cases mb with
    | saveEvidence e' => exact .mk record_votes_swap (.refl SameOperation.refl _)
    | saveSignature k version signature => exact .refl _
    | _ => cases hb
  | saveSignature k version signature =>
    cases mb with
    | saveEvidence e => exact .refl _
    | saveSignature k' version' signature' => exact .mk (.refl (fun _ => .refl _) _) modify_signatures_swap
    | _ => cases hb
  | _ => cases ha

theorem isOk_beside {slot : Slot} (h : SameStanding sender slot s s') (hslot : slotOf H msg = some slot)
    (hc : Collects H s msg) (hc' : Collects H s' msg) :
    (execute H s q env sender funds msg).isOk = (execute H s' q env sender funds msg).isOk := by
  cases msg with
  | saveEvidence e =>
    cases hslot
    exact (saveEvidence_beside h hc hc').isOk_eq
  | saveSignature k version signature =>
    cases hslot
    exact (saveSignature_beside h).isOk_eq
  | _ => cases hslot

/-- Two submissions next to each other. -/
theorem submissions_swap {a b : Call} {sa sb : Slot} (hfa : a.funds = []) (hfb : b.funds = [])
    (hsa : slotOf H a.msg = some sa) (hsb : slotOf H b.msg = some sb) (hne : sa = sb → a.sender ≠ b.sender)
    (hca : Collects H w.store a.msg) (hcb : Collects H w.store b.msg)
    (hca' : Collects H (w.store.record H b.sender b.msg) a.msg)
    (hcb' : Collects H (w.store.record H a.sender a.msg) b.msg) :
    SameWorld (run (step H) w [a, b]) (run (step H) w [b, a]) := by
  have hb := @isOk_beside H _ _ w.bank.querier b.env _ [] _ _ (record_standing hsa hne) hsb hcb hcb'
  have ha := @isOk_beside H _ _ w.bank.querier a.env _ [] _ _ (record_standing hsb fun h => (hne h.symm).symm) hsa hca
    hca'
  simp only [run_cons, run_nil]
  rw [commit_collects hfa hca, commit_collects hfb hcb]
  cases hoka : (execute H w.store w.bank.querier a.env a.sender [] a.msg).isOk <;>
    cases hokb : (execute H w.store w.bank.querier b.env b.sender [] b.msg).isOk <;>
    simp only [Bool.false_eq_true, if_false, if_true]
  · rw [commit_collects hfb hcb, commit_collects hfa hca, hoka, hokb]
    exact .refl _
  · rw [commit_collects hfb hcb, commit_collects hfa hca', ← ha, hoka, hokb]
    exact .refl _
  · rw [commit_collects hfb hcb', commit_collects hfa hca, ← hb, hoka, hokb]
    exact .refl _
  · rw [commit_collects hfb hcb', commit_collects hfa hca', ← hb, ← ha, hoka, hokb]
    exact ⟨record_swap (by rw [hsa]; rfl) (by rw [hsb]; rfl), rfl⟩

/-! ### Submissions in any order -/

/-- Calls that are recorded only, in whichever order they come. -/
structure Collecting (H : Host) (w : World) (calls : List Call) : Prop where
  /-- They are submissions. -/
  submits : ∀ c ∈ calls, (slotOf H c.msg).isSome = true
  /-- No coins are attached. -/
  coinless : ∀ c ∈ calls, c.funds = []
  /-- Nobody submits to a slot twice. -/
  once : calls.Pairwise fun a b => slotOf H a.msg = slotOf H b.msg → a.sender ≠ b.sender
  /-- With all of the votes, no threshold is reached. -/
  below : ∀ c ∈ calls, ∀ e, c.msg = .saveEvidence e →
    (w.store.voters (e.getHash H)).length + calls.countP (fun c => slotOf H c.msg = some (.votes (e.getHash H))) <
      w.store.config.evidenceThreshold

namespace Collecting

variable {a b : Call} {calls calls' : List Call}

theorem perm (h : Collecting H w calls) (hp : calls.Perm calls') : Collecting H w calls' where
  submits c hc := h.submits c (hp.mem_iff.mpr hc)
  coinless c hc := h.coinless c (hp.mem_iff.mpr hc)
  once := (hp.pairwise_iff fun hab hs => (hab hs.symm).symm).mp h.once
  below c hc e hmsg := by
    rw [← hp.countP_eq]
    exact h.below c (hp.mem_iff.mpr hc) e hmsg

theorem collects (h : Collecting H w (a :: calls)) : Collects H w.store a.msg := by
  have hsubmits := h.submits a List.mem_cons_self
  cases hmsg : a.msg with
  | saveEvidence e =>
    have hbelow := h.below a List.mem_cons_self e hmsg
    have hslot : slotOf H a.msg = some (.votes (e.getHash H)) := by rw [hmsg]; rfl
    rw [List.countP_cons_of_pos (by simpa using hslot)] at hbelow
    simp only [Collects, Storage.reaches, decide_eq_false_iff_not]
    omega
  | saveSignature k version signature => trivial
  | _ =>
    rw [hmsg] at hsubmits
    cases hsubmits

/-- The calls to come, after the first of them has been recorded. -/
theorem record (h : Collecting H w (a :: calls)) :
    Collecting H { w with store := w.store.record H a.sender a.msg } calls where
  submits c hc := h.submits c (List.mem_cons_of_mem _ hc)
  coinless c hc := h.coinless c (List.mem_cons_of_mem _ hc)
  once := (List.pairwise_cons.mp h.once).2
  below c hc e hmsg := by
    have hbelow := h.below c (List.mem_cons_of_mem _ hc) e hmsg
    have hsubmits := h.submits a List.mem_cons_self
    rw [List.countP_cons] at hbelow
    cases hmsga : a.msg with
    | saveEvidence e' =>
      have hslot : slotOf H a.msg = some (.votes (e'.getHash H)) := by rw [hmsga]; rfl
      dsimp only
      rw [voters_record]
      by_cases hh : e'.getHash H = e.getHash H
      · rw [if_pos hh, List.length_append, List.length_singleton]
        rw [hslot, hh, if_pos (by simp)] at hbelow
        show _ < w.store.config.evidenceThreshold
        omega
      · rw [if_neg hh]
        show _ < w.store.config.evidenceThreshold
        omega
    | saveSignature k version signature =>
      show (w.store.voters (e.getHash H)).length + _ < w.store.config.evidenceThreshold
      omega
    | _ =>
      rw [hmsga] at hsubmits
      cases hsubmits

theorem tail (h : Collecting H w (a :: calls)) : Collecting H (commit (step H) w a) calls := by
  rw [commit_collects (h.coinless a List.mem_cons_self) h.collects]
  split_ifs
  · exact h.record
  · refine ⟨fun c hc => h.submits c (List.mem_cons_of_mem _ hc), fun c hc => h.coinless c (List.mem_cons_of_mem _ hc),
      (List.pairwise_cons.mp h.once).2, fun c hc e hmsg => ?_⟩
    have hbelow := h.below c (List.mem_cons_of_mem _ hc) e hmsg
    rw [List.countP_cons] at hbelow
    omega

theorem swap (h : Collecting H w (a :: b :: calls)) : SameWorld (run (step H) w [a, b]) (run (step H) w [b, a]) := by
  have h' : Collecting H w (b :: a :: calls) := h.perm (.swap b a calls)
  obtain ⟨sa, hsa⟩ := Option.isSome_iff_exists.mp (h.submits a List.mem_cons_self)
  obtain ⟨sb, hsb⟩ := Option.isSome_iff_exists.mp (h'.submits b List.mem_cons_self)
  refine submissions_swap (h.coinless a List.mem_cons_self) (h'.coinless b List.mem_cons_self) hsa hsb (fun hs => ?_)
    h.collects h'.collects h'.record.collects h.record.collects
  exact (List.pairwise_cons.mp h.once).1 b List.mem_cons_self (by rw [hsa, hsb, hs])

end Collecting

/-- **Submissions commute.** Take any evidences and signatures that some addresses submit, without
coins, nobody twice to the same slot, and too few votes to reach a threshold. Whichever order the
block puts them in, and whichever of them are refused, the balances and the storage come out the
same, but for the order in which votes and signatures are recorded, and so does every later run,
with the same answers to all of its calls. -/
theorem submissions_commute {w : World} {calls calls' : List Call} (h : Collecting H w calls)
    (hperm : calls.Perm calls') (later : List Call) :
    SameWorld (run (step H) w (calls ++ later)) (run (step H) w (calls' ++ later)) ∧
      answers (step H) (run (step H) w calls) later = answers (step H) (run (step H) w calls') later := by
  have hsame : SameWorld (run (step H) w calls) (run (step H) w calls') :=
    run_perm (P := Collecting H) (SameWorld.step_respects H) SameWorld.equivalence Collecting.tail
      (fun hp h => h.perm hp) Collecting.swap hperm h
  rw [run_append, run_append]
  exact ⟨run_related (SameWorld.step_respects H) hsame later, answers_related (SameWorld.step_respects H) hsame later⟩

/-- A relayer signs the operation 1. -/
def Reference.sign (r : Relayer) (signature : String) : Call := call 2 r.cosmosAddress (.saveSignature 1 1 signature)

open Reference in
/-- Two relayers sign the allocation, one of them votes for it: a later vote gets the same answer. -/
theorem submissions_commute_allocation :
    let w := run (step host) world₂ [recover]
    answers (step host) (run (step host) w [sign relayer₁ "A1", vote 2 relayer₁ allocation, sign relayer₂ "B2"])
        [vote 3 relayer₂ allocation] =
      answers (step host) (run (step host) w [sign relayer₂ "B2", sign relayer₁ "A1", vote 2 relayer₁ allocation])
        [vote 3 relayer₂ allocation] := by
  intro w
  have hbelow : (w.store.voters (allocation.getHash host)).length +
      [sign relayer₁ "A1", vote 2 relayer₁ allocation, sign relayer₂ "B2"].countP
        (fun c => slotOf host c.msg = some (.votes (allocation.getHash host))) < w.store.config.evidenceThreshold := by
    decide +kernel
  refine (submissions_commute ⟨?_, ?_, ?_, ?_⟩ ?_ [vote 3 relayer₂ allocation]).2
  · simp [sign, vote, call, slotOf]
  · simp [sign, vote, call]
  · decide +kernel
  · intro c hc e hmsg
    simp only [List.mem_cons, List.not_mem_nil, or_false] at hc
    rcases hc with rfl | rfl | rfl
    · cases hmsg
    · rw [← ExecuteMsg.saveEvidence.inj hmsg]
      exact hbelow
    · cases hmsg
  · exact @List.perm_append_comm _ [sign relayer₁ "A1", vote 2 relayer₁ allocation] [sign relayer₂ "B2"]

end XrplBridge
