import XrplBridge.Library.Refinement
import XrplBridge.Protocol.Confluence

/-!
# The relayers as one reporter

What are the votes for? Together the relayers shall be as good as one reporter who is trusted: what it
reports of XRPL is done at once. `trustedStep` is the bridge with such a reporter. It has no votes and asks
for no relayer; everything else is done as the contract does it.

The contract refines it (`votes_refine`): in every run, a vote that reaches the threshold is a report, and
a vote that does not is not seen, but for the coins that may be attached to it. What else is called is
called of both. The two bridges put out the same messages and hold the same, and when the votes are left
out, their storages are the same.

And nothing that could be reported is lost (`report_realised`): a report that would go through does go
through when relayers vote for it that are just enough, with the same result.
-/

namespace XrplBridge

open Library Contract Std

variable (H : Host)

/-- A report of XRPL, by someone who is trusted. -/
def report (s : Storage) (q : Querier) (env : BlockInfo) (e : Evidence) : ContractResult (Storage × Response) := do
  e.validateBasic
  checkNotProcessed H s e
  let processedTxs ← markProcessed H s e
  finishEvidence H { s with processedTxs } q env e true Response.new

/-- What a trusted bridge makes of a message: an evidence is a report, whoever it is from. -/
def trusted (s : Storage) (q : Querier) (c : Call) : ContractResult (Storage × Response) :=
  match c.msg with
  | .saveEvidence e => report H s q c.env e
  | msg => execute H s q c.env c.sender c.funds msg

/-- What is asked of a trusted bridge. -/
inductive Command where
  | call (c : Call)
  /-- Coins that come with nothing. -/
  | coins (funds : List Coin)

/-- A step of the trusted bridge. -/
def trustedStep (w : World) : Command → Except Failure (World × Response)
  | .call c => do
    let bank := w.bank.credit c.funds
    let (store, response) ← trusted H w.store bank.querier c
    let w ← dispatch H c.accepts ⟨store, bank⟩ response.messages
    pure (w, response)
  | .coins funds => .ok ({ w with bank := w.bank.credit funds }, Response.new)

/-- What the trusted bridge sees of a call. -/
def seen (w : World) (c : Call) : Option Command :=
  match c.msg with
  | .saveEvidence e =>
    if w.store.reaches H e then some (.call c) else if c.funds = [] then none else some (.coins c.funds)
  | _ => some (.call c)

/-- The votes are left out. -/
abbrev Frame.unvoted : Frame where
  votes _ m := m = ∅
  operation := Eq
  empty := rfl
  refl _ := rfl
  same h := h ▸ SameOperation.refl _
  sign h g := by rw [h]

variable {H} {s s' : Storage} {q : Querier} {env : BlockInfo} {e : Evidence} {w w' : World} {c : Call} {r : Response}

theorem sameBut_unvoted : SameBut .unvoted s s' ↔ s' = { s with txEvidences := ∅ } := by
  constructor
  · intro h
    cases h with
    | mk hv ho =>
      cases hv
      cases ho.eq
      rfl
  · rintro rfl
    exact .mk rfl (.refl (fun _ => rfl) _)

theorem sameWorldBut_unvoted : SameWorldBut .unvoted w w' ↔ w' = withVotes w ∅ := by
  rw [SameWorldBut, sameBut_unvoted]
  constructor
  · rintro ⟨hs, hb⟩
    cases w'
    cases hs
    cases hb
    rfl
  · rintro rfl
    exact ⟨rfl, rfl⟩

/-! ### A step -/

/-- An evidence whose votes are counted does not read the votes. -/
theorem finishEvidence_alike {F : Frame} {reached : Bool} {response : Response} (h : SameBut F s s') :
    Alike (SameAnswer (SameBut F)) (finishEvidence H s q env e reached response)
      (finishEvidence H s' q env e reached response) := by
  cases e with
  | xrplToCosmosTransfer e => exact h.saveTransferEvidence_alike
  | xrplTransactionResult e => exact h.saveResultEvidence_alike

/-- The dispatch of the same messages does not read the votes. -/
theorem dispatch_unvoted {accepts : CosmosMsg → Bool} {bank : Bank} {ms : List SubMsg}
    (hs : SameBut .unvoted s s') : Alike (SameWorldBut .unvoted) (dispatch H accepts ⟨s, bank⟩ ms)
      (dispatch H accepts ⟨s', bank⟩ ms) :=
  SameWorldBut.dispatch_alike ⟨hs, rfl⟩

/-- Any call but an evidence is the same for the trusted bridge. -/
theorem call_matches (hmsg : ∀ e, c.msg ≠ .saveEvidence e) (h : step H w c = .ok (w', r)) :
    trustedStep H (withVotes w ∅) (.call c) = .ok (withVotes w' ∅, r) := by
  have hexecute : Alike (SameAnswer (SameBut .unvoted))
      (execute H w.store (w.bank.credit c.funds).querier c.env c.sender c.funds c.msg)
      (trusted H (withVotes w ∅).store (w.bank.credit c.funds).querier c) := by
    have hsame : SameBut .unvoted w.store (withVotes w ∅).store := sameBut_unvoted.mpr rfl
    unfold trusted
    split
    · rename_i e he
      exact absurd he (hmsg e)
    · exact hsame.execute_alike hmsg
  have hstep : Alike (SameAnswer (SameWorldBut .unvoted)) (step H w c) (trustedStep H (withVotes w ∅) (.call c)) := by
    refine hexecute.bind fun {x x'} hx => ?_
    obtain ⟨s₁, r₁⟩ := x
    obtain ⟨s₁', r₁'⟩ := x'
    obtain ⟨hs, rfl⟩ := hx
    exact (dispatch_unvoted hs).bind fun hw => .ok ⟨hw, rfl⟩
  obtain ⟨⟨w₁, r₁⟩, hok, hw, hr⟩ := hstep.exists_of_ok h
  change SameWorldBut .unvoted w' w₁ at hw
  change r = r₁ at hr
  rw [hok, hr, sameWorldBut_unvoted.mp hw]

/-- A vote that reaches the threshold is a report. -/
theorem report_matches (hmsg : c.msg = .saveEvidence e) (hreaches : w.store.reaches H e = true)
    (h : step H w c = .ok (w', r)) :
    ∃ r', trustedStep H (withVotes w ∅) (.call c) = .ok (withVotes w' ∅, r') ∧ r'.messages = r.messages := by
  simp only [step, bind_eq_ok, pure_eq_ok, Prod.mk.injEq] at h
  obtain ⟨⟨s₁, r₁⟩, hx, w₁, hdispatch, rfl, rfl⟩ := h
  rw [hmsg] at hx
  change saveEvidence H _ _ _ _ e = _ at hx
  rw [saveEvidence_eq] at hx
  simp only [bind_eq_ok] at hx
  obtain ⟨_, -, _, hvalid, ⟨s₂, reached⟩, hhandle, hfinish⟩ := hx
  have hvotes := votes_of_ok hhandle
  obtain rfl : reached = true := hvotes.reaches.symm.trans hreaches
  cases hvotes with
  | @reached processedTxs txEvidences hfresh _ hprocessed _ _ =>
    have hcounted : SameBut .unvoted { w.store with processedTxs, txEvidences }
        { (withVotes w ∅).store with processedTxs } := sameBut_unvoted.mpr rfl
    obtain ⟨⟨s₃, r₃⟩, hfinish₃, hs₃, hr₃⟩ := (finishEvidence_alike hcounted).exists_of_ok hfinish
    have houtcome : Alike SameOutcome
        (finishEvidence H { (withVotes w ∅).store with processedTxs } (w.bank.credit c.funds).querier c.env e true
          (Response.new.addAttributes [("action", ContractActions.saveEvidence.asStr), ("sender", c.sender)]))
        (finishEvidence H { (withVotes w ∅).store with processedTxs } (w.bank.credit c.funds).querier c.env e true
          Response.new) := finishEvidence_outcome rfl
    obtain ⟨⟨s₄, r₄⟩, hfinish₄, rfl, hr₄⟩ := houtcome.exists_of_ok hfinish₃
    dsimp only at hs₃ hr₃ hr₄ hdispatch
    obtain ⟨w₂, hdispatch₂, hw₂⟩ := (dispatch_unvoted hs₃).exists_of_ok hdispatch
    have hreport : report H (withVotes w ∅).store (w.bank.credit c.funds).querier c.env e = .ok (s₃, r₄) :=
      bind_eq_ok.mpr ⟨(), hvalid, bind_eq_ok.mpr ⟨(), hfresh, bind_eq_ok.mpr ⟨processedTxs, hprocessed, hfinish₄⟩⟩⟩
    have hmessages : r₄.messages = r₁.messages := by rw [← hr₄, hr₃]
    refine ⟨r₄, bind_eq_ok.mpr ⟨(s₃, r₄), ?_, bind_eq_ok.mpr ⟨w₂, ?_, ?_⟩⟩, hmessages⟩
    · unfold trusted
      rw [hmsg]
      exact hreport
    · rw [hmessages]
      exact hdispatch₂
    · rw [sameWorldBut_unvoted.mp hw₂]
      rfl

/-- **A call of the bridge is a step of the trusted one, or is not seen there.** -/
theorem step_matches (h : step H w c = .ok (w', r)) :
    Matches (trustedStep H) Response.messages (withVotes w ∅) (withVotes w' ∅) r.messages (seen H w c) := by
  by_cases hmsg : ∃ e, c.msg = .saveEvidence e
  · obtain ⟨e, he⟩ := hmsg
    unfold seen
    rw [he]
    dsimp only
    by_cases hreaches : w.store.reaches H e = true
    · rw [if_pos hreaches]
      exact report_matches he hreaches h
    · rw [if_neg hreaches]
      simp only [step, bind_eq_ok, pure_eq_ok, Prod.mk.injEq] at h
      obtain ⟨⟨s₁, r₁⟩, hx, w₁, hdispatch, rfl, rfl⟩ := h
      have hcollects : Collects H w.store c.msg := by
        rw [he]
        exact Bool.eq_false_iff.mpr hreaches
      obtain ⟨rfl, hnone⟩ := record_of_execute hcollects hx
      dsimp only at hdispatch
      rw [hnone] at hdispatch
      cases hdispatch
      rw [he]
      by_cases hfunds : c.funds = []
      · rw [if_pos hfunds]
        refine ⟨?_, hnone⟩
        rw [hfunds]
        rfl
      · rw [if_neg hfunds]
        exact ⟨_, rfl, hnone.symm⟩
  · have hother : ∀ e, c.msg ≠ .saveEvidence e := fun e he => hmsg ⟨e, he⟩
    have hseen : seen H w c = some (.call c) := by
      unfold seen
      split
      · rename_i e he
        exact absurd he (hother e)
      · rfl
    rw [hseen]
    exact ⟨r, call_matches hother h, rfl⟩

/-! ### Runs -/

/-- What the trusted bridge sees of a run. -/
def commands (H : Host) (w : World) (calls : List Call) : List Command := labels (step H) (seen H) w calls

/-- **The relayers are one trusted reporter.** Take any run, and keep of it the votes that reach the
threshold, as reports, the calls that are no evidences, and the coins that come with other votes. All of
this goes through with the trusted bridge, which puts out exactly the same messages, and ends with the same
balances and supplies, and with the same storage without the votes. -/
theorem votes_refine (H : Host) (w : World) (calls : List Call) :
    run (trustedStep H) (withVotes w ∅) (commands H w calls) = withVotes (run (step H) w calls) ∅ ∧
      outputs (trustedStep H) Response.messages (withVotes w ∅) (commands H w calls) =
          outputs (step H) Response.messages w calls ∧
        AllCommitted (trustedStep H) (withVotes w ∅) (commands H w calls) :=
  run_refines (f := fun w => withVotes w ∅) step_matches w calls

/-- **Every report can be made.** What the trusted bridge would do about a report is done when relayers vote
for it, without coins, that have not, and are just enough to reach the threshold. -/
theorem report_realised {votes : List Call} {a : Call} (hv : Voting H w e (votes ++ [a]))
    (hlen : (w.store.voters (e.getHash H)).length + votes.length + 1 = w.store.config.evidenceThreshold)
    (h : trustedStep H (withVotes w ∅) (.call a) = .ok (w', r)) :
    ∃ w'' r', step H (run (step H) w votes) a = .ok (w'', r') ∧ withVotes w'' ∅ = w' ∧ r'.messages = r.messages := by
  have hmsg := hv.votes a (List.mem_append_right _ List.mem_cons_self)
  have hfunds := hv.coinless a (List.mem_append_right _ List.mem_cons_self)
  have hrelayer := hv.relayers a (List.mem_append_right _ List.mem_cons_self)
  simp only [trustedStep, bind_eq_ok, pure_eq_ok, Prod.mk.injEq] at h
  obtain ⟨⟨s₁, r₁⟩, hx, w₁, hdispatch, rfl, rfl⟩ := h
  unfold trusted at hx
  rw [hmsg, hfunds] at hx
  rw [hfunds] at hdispatch
  change report H _ w.bank.querier _ e = _ at hx
  change dispatch H _ ⟨s₁, w.bank⟩ _ = _ at hdispatch
  simp only [report, bind_eq_ok] at hx
  obtain ⟨_, hvalid, _, hfresh, n, hn, hfinish⟩ := hx
  -- every vote is accepted, since what is checked of the report is what is checked of a vote
  have hsupport : Supportable H w e :=
    ⟨hvalid, hfresh, fun _ m _ => finishEvidence_collects (s := { w.store with txEvidences := m }) hfinish⟩
  obtain ⟨m, hm, hhandle⟩ := hsupport.last_vote hv hlen hn
  have hcounted : SameBut .unvoted (counted H w.store e n) { (withVotes w ∅).store with processedTxs := n } :=
    sameBut_unvoted.mpr rfl
  obtain ⟨⟨s₂, r₂⟩, hfinish₂, hs₂, hr₂⟩ := (finishEvidence_alike hcounted).exists_of_ok_right hfinish
  have houtcome : Alike SameOutcome (finishEvidence H (counted H w.store e n) w.bank.querier a.env e true Response.new)
      (finishEvidence H (counted H w.store e n) w.bank.querier a.env e true (Response.new.addAttributes
        [("action", ContractActions.saveEvidence.asStr), ("sender", a.sender)])) := finishEvidence_outcome rfl
  obtain ⟨⟨s₃, r₃⟩, hfinish₃, rfl, hr₃⟩ := houtcome.exists_of_ok hfinish₂
  dsimp only at hs₂ hr₂ hr₃ hdispatch
  obtain ⟨w₂, hdispatch₂, hw₂⟩ := (dispatch_unvoted hs₂).exists_of_ok_right hdispatch
  have hmessages : r₃.messages = r₁.messages := by rw [← hr₃, hr₂]
  refine ⟨w₂, r₃, ?_, (sameWorldBut_unvoted.mp hw₂).symm, hmessages⟩
  rw [hm]
  refine (step_saveEvidence hmsg hfunds).mpr ⟨s₂, ?_, ?_⟩
  · rw [saveEvidence_eq]
    exact bind_eq_ok.mpr ⟨(), checkAuthorization_relayer rfl hrelayer, bind_eq_ok.mpr ⟨(), hvalid,
      bind_eq_ok.mpr ⟨_, hhandle, hfinish₃⟩⟩⟩
  · rw [hmessages]
    exact hdispatch₂

open Reference in
/-- The allocation is reported by two of the three relayers. -/
theorem report_realised_allocation :
    let w := run (step host) world₂ [recover]
    ∃ w' r w'' r', trustedStep host (withVotes w ∅) (.call (vote 3 relayer₂ allocation)) = .ok (w', r) ∧
      step host (run (step host) w [vote 2 relayer₁ allocation]) (vote 3 relayer₂ allocation) = .ok (w'', r') ∧
        withVotes w'' ∅ = w' ∧ r'.messages = r.messages := by
  intro w
  obtain ⟨⟨w', r⟩, hstep⟩ := exists_of_isOk (x := trustedStep host (withVotes w ∅) (.call (vote 3 relayer₂ allocation)))
    (by decide +kernel)
  have hvoters : w.store.voters (allocation.getHash host) = [] ∧ w.store.config.evidenceThreshold = 2 ∧
      isRelayer w.store relayer₁.cosmosAddress = true ∧ isRelayer w.store relayer₂.cosmosAddress = true := by
    decide +kernel
  obtain ⟨hnone, hthreshold, h₁, h₂⟩ := hvoters
  have hvoting : Voting host w allocation ([vote 2 relayer₁ allocation] ++ [vote 3 relayer₂ allocation]) :=
    ⟨by simp [vote, call], by simp [vote, call], by simp [vote, call, h₁, h₂], by simp [hnone], by decide⟩
  obtain ⟨w'', r', hdone⟩ := report_realised hvoting (by rw [hnone, hthreshold]; rfl) hstep
  exact ⟨w', r, w'', r', hstep, hdone⟩

end XrplBridge
