import XrplBridge.Protocol.Submissions

/-!
# Whose votes complete a quorum

The vote that reaches the threshold acts for all of them. What comes of it depends on the
evidence, on the storage and on the block of that last vote, and on nothing else: not on
who has voted, not on whose vote is the last, not on when the others were cast
(`quorum_outcome`).

The reason is that a vote is checked in two parts. The one about the relayer is whether it
may vote, and has not; the other is about the evidence alone, and if it lets the acting vote
through, it lets every vote before it through as well (`finishEvidence_collects`). So all of
them are recorded, and the acting vote removes their record.
-/

namespace XrplBridge

open Library Contract Std

variable (H : Host)

/-- `save_evidence`, once the vote is counted. -/
def finishEvidence (s : Storage) (q : Querier) (env : BlockInfo) (e : Evidence) (thresholdReached : Bool)
    (response : Response) : ContractResult (Storage × Response) :=
  match e with
  | .xrplToCosmosTransfer e => saveTransferEvidence H s q e thresholdReached response
  | .xrplTransactionResult e => saveResultEvidence H s env e thresholdReached response

theorem saveEvidence_eq (s : Storage) (q : Querier) (env : BlockInfo) (sender : Addr) (e : Evidence) :
    saveEvidence H s q env sender e = (do
      checkAuthorization s sender .saveEvidence
      e.validateBasic
      let (s, reached) ← handleEvidence H s sender e
      finishEvidence H s q env e reached (Response.new.addAttributes
        [("action", ContractActions.saveEvidence.asStr), ("sender", sender)])) := by
  cases e <;> rfl

variable {H} {s s' : Storage} {q : Querier} {env : BlockInfo} {sender : Addr} {e : Evidence} {w : World}
  {response response' : Response}

/-! ### The sender is only named -/

/-- The same storage and the same messages. -/
def SameOutcome (x x' : Storage × Response) : Prop := x.1 = x'.1 ∧ x.2.messages = x'.2.messages

/-- What a handler leaves, up to the attributes. -/
def SameHandlerOutcome (x x' : Storage × Response × List CosmosMsg) : Prop :=
  x.1 = x'.1 ∧ x.2.1.messages = x'.2.1.messages ∧ x.2.2 = x'.2.2

theorem saveTransferEvidence_outcome {e : TransferEvidence} {reached : Bool}
    (hr : response.messages = response'.messages) :
    Alike SameOutcome (saveTransferEvidence H s q e reached response)
      (saveTransferEvidence H s q e reached response') := by
  refine Alike.bind_same fun _ => Alike.bind_same fun _ => Alike.bind_same fun _ =>
    Alike.bind (R := SameOutcome) ?_ fun hx => .ok ⟨hx.1, hx.2⟩
  by_cases hissuer : e.issuer ≠ s.config.bridgeXRPLAddress
  · rw [if_pos hissuer, if_pos hissuer]
    refine Alike.bind_same fun token => Alike.bind_same fun _ => Alike.bind_same fun _ => Alike.bind_same fun t =>
      Alike.bind_same fun _ => Alike.bind_same fun _ => ?_
    cases reached with
    | false => exact .ok ⟨rfl, hr⟩
    | true =>
      refine Alike.bind_same fun x => ?_
      dsimp only
      by_cases hz : t.1 ≠ 0
      · rw [if_pos hz, if_pos hz]
        refine Alike.bind_same fun _ => .ok ⟨rfl, ?_⟩
        simp only [Response.messages_addSubmessages, Response.messages_addMessages, hr]
      · rw [if_neg hz, if_neg hz]
        refine .ok ⟨rfl, ?_⟩
        simp only [Response.messages_addMessages, hr]
  · rw [if_neg hissuer, if_neg hissuer]
    refine Alike.bind_same fun token => Alike.bind_same fun _ => Alike.bind_same fun t => ?_
    cases reached with
    | false => exact .ok ⟨rfl, hr⟩
    | true =>
      refine Alike.bind_same fun x => Alike.bind_same fun _ => .ok ⟨rfl, ?_⟩
      simp only [Response.messages_addSubmessages, Response.messages_addMessages, hr]

theorem runHandler_outcome {o : Operation} {operationResult : Option OperationResult} {result : TransactionResult}
    {txHash : Option String} {k : ℕ} {tokenFactoryAddr burnAddr : Addr}
    (hr : response.messages = response'.messages) :
    Alike SameHandlerOutcome (runHandler s o operationResult result txHash k tokenFactoryAddr burnAddr response)
      (runHandler s o operationResult result txHash k tokenFactoryAddr burnAddr response') := by
  unfold runHandler
  cases o.operationType with
  | allocateTickets n =>
    cases operationResult with
    | none => exact .error _
    | some r =>
      cases r with
      | ticketsAllocation tickets => exact Alike.bind_same fun _ => .ok ⟨rfl, hr, rfl⟩
  | trustSet issuer currency limit => exact Alike.bind_same fun _ => .ok ⟨rfl, hr, rfl⟩
  | rotateKeys rs n => exact .ok ⟨rfl, hr, rfl⟩
  | cosmosToXRPLTransfer issuer currency amount maxAmount sender recipient =>
    refine Alike.bind_same fun o => ?_
    cases o.operationType with
    | cosmosToXRPLTransfer issuer currency amount maxAmount sender recipient =>
      dsimp only
      cases s.xrplTokens.primary[buildXRPLTokenKey issuer currency]? with
      | some token =>
        dsimp only
        split_ifs
        · refine .ok ⟨rfl, ?_, rfl⟩
          simp only [Response.messages_addMessage, hr]
        · exact .ok ⟨rfl, hr, rfl⟩
      | none =>
        dsimp only
        split_ifs
        · exact .ok ⟨rfl, hr, rfl⟩
        · cases s.cosmosTokens.item currency with
          | none => exact .error _
          | some entry => exact Alike.bind_same fun _ => Alike.bind_same fun _ => .ok ⟨rfl, hr, rfl⟩
    | _ => exact .error _

theorem saveResultEvidence_outcome {e : ResultEvidence} {reached : Bool}
    (hr : response.messages = response'.messages) :
    Alike SameOutcome (saveResultEvidence H s env e reached response)
      (saveResultEvidence H s env e reached response') := by
  refine Alike.bind_same fun k => Alike.bind_same fun o => Alike.bind_same fun _ =>
    Alike.bind (R := SameHandlerOutcome) ?_ fun {x x'} hx => ?_
  · cases reached with
    | false => exact .ok ⟨rfl, hr, rfl⟩
    | true =>
      refine Alike.bind (R := SameHandlerOutcome) ?_ fun {x x'} hx => ?_
      · refine (runHandler_outcome hr).bind fun {x x'} hx => ?_
        exact .ok ⟨by rw [hx.1], hx.2.1, hx.2.2⟩
      · obtain ⟨s₁, r, msgs⟩ := x
        obtain ⟨s₁', r', msgs'⟩ := x'
        obtain ⟨rfl, hr₁, rfl⟩ := hx
        refine Alike.bind_same fun y => .ok ⟨rfl, ?_, rfl⟩
        dsimp only
        split_ifs
        · exact hr₁
        · exact hr₁
  · obtain ⟨s₁, r, msgs⟩ := x
    obtain ⟨s₁', r', msgs'⟩ := x'
    obtain ⟨rfl, hr₁, rfl⟩ := hx
    refine .ok ⟨rfl, ?_⟩
    cases e.txHash <;>
      simp only [Response.messages_addAttribute, Response.messages_addMessages, Response.messages_addAttributes] <;>
      exact congrArg (· ++ _) hr₁

/-- What an evidence does does not depend on what the response says so far, but for the messages. -/
theorem finishEvidence_outcome {reached : Bool} (hr : response.messages = response'.messages) :
    Alike SameOutcome (finishEvidence H s q env e reached response)
      (finishEvidence H s q env e reached response') := by
  cases e with
  | xrplToCosmosTransfer e => exact saveTransferEvidence_outcome hr
  | xrplTransactionResult e => exact saveResultEvidence_outcome hr

/-! ### What lets the acting vote through lets the others through -/

theorem saveTransferEvidence_collects {e : TransferEvidence} {x : Storage × Response} {reached : Bool}
    {m : ExtTreeMap String Evidences} {n : ExtTreeMap String Unit}
    (h : saveTransferEvidence H { s with txEvidences := m, processedTxs := n } q e reached response = .ok x) :
    ∃ r, saveTransferEvidence H s q e false response' = .ok (s, r) := by
  simp only [saveTransferEvidence, bind_eq_ok] at h
  obtain ⟨_, hhalt, _, hvalid, _, hself, ⟨s₁, r₁⟩, h, -⟩ := h
  refine ⟨_, bind_eq_ok.mpr ⟨(), hhalt, bind_eq_ok.mpr ⟨(), hvalid, bind_eq_ok.mpr ⟨(), hself,
    bind_eq_ok.mpr ⟨(s, response'), ?_, rfl⟩⟩⟩⟩⟩
  by_cases hissuer : e.issuer ≠ s.config.bridgeXRPLAddress
  · rw [if_pos hissuer] at h ⊢
    simp only [receiveXRPLOriginated, bind_eq_ok] at h
    obtain ⟨token, ht, _, henabled, fees, hfees, ⟨a, rem⟩, htrunc, bridged, hb, _, hcap, -⟩ := h
    exact bind_eq_ok.mpr ⟨token, ht, bind_eq_ok.mpr ⟨(), henabled, bind_eq_ok.mpr ⟨fees, hfees,
      bind_eq_ok.mpr ⟨(a, rem), htrunc, bind_eq_ok.mpr ⟨bridged, hb, bind_eq_ok.mpr ⟨(), hcap, rfl⟩⟩⟩⟩⟩⟩
  · rw [if_neg hissuer] at h ⊢
    simp only [receiveCosmosOriginated, bind_eq_ok] at h
    obtain ⟨⟨k, token⟩, ht, _, henabled, ⟨a, rem⟩, htrunc, -⟩ := h
    exact bind_eq_ok.mpr ⟨(k, token), ht, bind_eq_ok.mpr ⟨(), henabled, bind_eq_ok.mpr ⟨(a, rem), htrunc, rfl⟩⟩⟩

theorem saveResultEvidence_collects {env' : BlockInfo} {e : ResultEvidence} {x : Storage × Response} {reached : Bool}
    {m : ExtTreeMap String Evidences} {n : ExtTreeMap String Unit}
    (h : saveResultEvidence H { s with txEvidences := m, processedTxs := n } env e reached response = .ok x) :
    ∃ r, saveResultEvidence H s env' e false response' = .ok (s, r) := by
  simp only [saveResultEvidence, bind_eq_ok] at h
  obtain ⟨k, hk, o, ho, _, hkind, -⟩ := h
  exact ⟨_, bind_eq_ok.mpr ⟨k, hk, bind_eq_ok.mpr ⟨o, ho, bind_eq_ok.mpr ⟨(), hkind,
    bind_eq_ok.mpr ⟨(s, response', []), rfl, rfl⟩⟩⟩⟩⟩

/-- What is checked of the evidence is checked of every vote for it. -/
theorem finishEvidence_collects {env' : BlockInfo} {x : Storage × Response} {reached : Bool}
    {m : ExtTreeMap String Evidences} {n : ExtTreeMap String Unit}
    (h : finishEvidence H { s with txEvidences := m, processedTxs := n } q env e reached response = .ok x) :
    ∃ r, finishEvidence H s q env' e false response' = .ok (s, r) := by
  cases e with
  | xrplToCosmosTransfer e => exact saveTransferEvidence_collects h
  | xrplTransactionResult e => exact saveResultEvidence_collects h

/-- Every vote for the evidence goes through that is not refused for its voter, as long as it is
recorded only. -/
structure Supportable (H : Host) (w : World) (e : Evidence) : Prop where
  valid : e.validateBasic = .ok ()
  fresh : checkNotProcessed H w.store e = .ok ()
  finish : ∀ env m response, ∃ r,
    finishEvidence H { w.store with txEvidences := m } w.bank.querier env e false response =
      .ok ({ w.store with txEvidences := m }, r)

theorem Supportable.execute_ok (h : Supportable H w e) (hr : isRelayer w.store sender = true)
    (hnew : sender ∉ w.store.voters (e.getHash H)) (hno : w.store.reaches H e = false) :
    (execute H w.store w.bank.querier env sender [] (.saveEvidence e)).isOk = true := by
  obtain ⟨s₁, hs₁⟩ := handleEvidence_ok h.fresh hnew
  rw [hno] at hs₁
  have hvotes := votes_of_ok hs₁
  have hrest : ∃ m, s₁ = { w.store with txEvidences := m } := by
    cases hvotes with
    | collected => exact ⟨_, rfl⟩
  obtain ⟨m, rfl⟩ := hrest
  obtain ⟨r, hfinish⟩ := h.finish env m (Response.new.addAttributes
    [("action", ContractActions.saveEvidence.asStr), ("sender", sender)])
  have hok : saveEvidence H w.store w.bank.querier env sender e =
      .ok ({ w.store with txEvidences := m }, r) := by
    rw [saveEvidence_eq]
    exact bind_eq_ok.mpr ⟨(), checkAuthorization_relayer rfl hr, bind_eq_ok.mpr ⟨(), h.valid,
      bind_eq_ok.mpr ⟨_, hs₁, hfinish⟩⟩⟩
  exact congrArg Except.isOk hok

/-! ### The votes before the last -/

/-- Votes of different relayers for one evidence, none of whom has voted for it. -/
structure Voting (H : Host) (w : World) (e : Evidence) (calls : List Call) : Prop where
  votes : ∀ c ∈ calls, c.msg = .saveEvidence e
  /-- No coins are attached. -/
  coinless : ∀ c ∈ calls, c.funds = []
  relayers : ∀ c ∈ calls, isRelayer w.store c.sender = true
  new : ∀ c ∈ calls, c.sender ∉ w.store.voters (e.getHash H)
  once : (calls.map Call.sender).Nodup

variable {votes votes' : List Call} {a a' c : Call}

/-- The world with other votes. -/
def withVotes (w : World) (m : ExtTreeMap String Evidences) : World := { w with store := { w.store with txEvidences := m } }

theorem Voting.tail (h : Voting H w e (c :: votes)) :
    Voting H { w with store := w.store.record H c.sender (.saveEvidence e) } e votes := by
  refine ⟨fun d hd => h.votes d (List.mem_cons_of_mem _ hd), fun d hd => h.coinless d (List.mem_cons_of_mem _ hd),
    fun d hd => h.relayers d (List.mem_cons_of_mem _ hd), fun d hd => ?_, (List.nodup_cons.mp h.once).2⟩
  rw [voters_record, if_pos rfl, List.mem_append, List.mem_singleton]
  rintro (hold | hsame)
  · exact h.new d (List.mem_cons_of_mem _ hd) hold
  · exact (List.nodup_cons.mp h.once).1 (hsame ▸ List.mem_map_of_mem hd)

/-- Votes that do not reach the threshold change the votes only. -/
theorem Voting.run_withVotes (h : ∀ c ∈ votes, c.msg = .saveEvidence e) (hcoinless : ∀ c ∈ votes, c.funds = [])
    (hlt : (w.store.voters (e.getHash H)).length + votes.length < w.store.config.evidenceThreshold) :
    ∃ m, run (step H) w votes = withVotes w m := by
  induction votes generalizing w with
  | nil => exact ⟨_, rfl⟩
  | cons c votes ih =>
    rw [List.length_cons] at hlt
    have hmsg := h c List.mem_cons_self
    have hc : Collects H w.store c.msg := by
      rw [hmsg]
      simp only [Collects, Storage.reaches, decide_eq_false_iff_not]
      omega
    have ih := fun {w} => @ih w (fun d hd => h d (List.mem_cons_of_mem _ hd))
      fun d hd => hcoinless d (List.mem_cons_of_mem _ hd)
    rw [run_cons, commit_collects (hcoinless c List.mem_cons_self) hc]
    split_ifs
    · obtain ⟨m, hm⟩ := @ih { w with store := w.store.record H c.sender c.msg } (by
        rw [hmsg, voters_record, if_pos rfl, List.length_append, List.length_singleton]
        show _ < w.store.config.evidenceThreshold
        omega)
      exact ⟨m, by rw [hm, hmsg]; rfl⟩
    · exact ih (by omega)

theorem Supportable.record (h : Supportable H w e) :
    Supportable H { w with store := w.store.record H sender (.saveEvidence e) } e :=
  ⟨h.valid, h.fresh, h.finish⟩

/-- All votes for an evidence that can be supported are recorded, until the threshold is reached. -/
theorem Supportable.run_votes (h : Supportable H w e) (hv : Voting H w e votes)
    (hlt : (w.store.voters (e.getHash H)).length + votes.length < w.store.config.evidenceThreshold) :
    ∃ m, run (step H) w votes = withVotes w m ∧ m.erase (e.getHash H) = w.store.txEvidences.erase (e.getHash H) ∧
      (withVotes w m).store.voters (e.getHash H) = w.store.voters (e.getHash H) ++ votes.map Call.sender := by
  induction votes generalizing w with
  | nil => exact ⟨_, rfl, rfl, by simp [withVotes]⟩
  | cons c votes ih =>
    rw [List.length_cons] at hlt
    have hmsg := hv.votes c List.mem_cons_self
    have hno : w.store.reaches H e = false := by
      simp only [Storage.reaches, decide_eq_false_iff_not]
      omega
    have hc : Collects H w.store c.msg := by
      rw [hmsg]
      exact hno
    have hlen : ((w.store.record H c.sender (.saveEvidence e)).voters (e.getHash H)).length + votes.length <
        w.store.config.evidenceThreshold := by
      rw [voters_record, if_pos rfl, List.length_append, List.length_singleton]
      omega
    obtain ⟨m, hm, herase, hvoters⟩ := @ih { w with store := w.store.record H c.sender (.saveEvidence e) } h.record
      hv.tail hlen
    refine ⟨m, ?_, ?_, ?_⟩
    · rw [run_cons, commit_collects (hv.coinless c List.mem_cons_self) hc, hmsg,
        h.execute_ok (hv.relayers c List.mem_cons_self) (hv.new c List.mem_cons_self) hno, if_pos rfl, hm]
      rfl
    · rw [herase, txEvidences_record]
      apply ExtTreeMap.ext_getElem?
      intro k
      by_cases hk : e.getHash H = k
      · subst hk
        rw [getElem?_erase_self', getElem?_erase_self']
      · rw [getElem?_erase_ne hk, getElem?_erase_ne hk, getElem?_insert_ne hk]
    · show (withVotes _ m).store.voters _ = _
      rw [show (withVotes w m).store.voters (e.getHash H) = _ from hvoters]
      dsimp only
      rw [voters_record, if_pos rfl, List.append_assoc]
      rfl

/-! ### The last vote -/

/-- A vote that reaches the threshold, taken apart. -/
theorem handleEvidence_reaches (hf : checkNotProcessed H s e = .ok ()) (hnew : sender ∉ s.voters (e.getHash H))
    (hr : s.reaches H e = true) {n : ExtTreeMap String Unit} (hn : markProcessed H s e = .ok n) :
    handleEvidence H s sender e =
      .ok ({ s with
          processedTxs := n
          txEvidences := if (s.voters (e.getHash H) ++ [sender]).length ≠ 1 then s.txEvidences.erase (e.getHash H)
            else s.txEvidences }, true) := by
  have ht : (s.voters (e.getHash H) ++ [sender]).length ≥ s.config.evidenceThreshold := by
    simpa [Storage.reaches] using hr
  unfold handleEvidence
  simp only [if_pos ht]
  exact bind_eq_ok.mpr ⟨(), hf, bind_eq_ok.mpr ⟨(), failIf_eq_ok.mpr hnew, bind_eq_ok.mpr ⟨n, hn, rfl⟩⟩⟩

/-- A call that submits an evidence and goes through, taken apart. -/
theorem step_saveEvidence {w' : World} {r : Response} (hmsg : a.msg = .saveEvidence e) (hfunds : a.funds = []) :
    step H w a = .ok (w', r) ↔
      ∃ s, saveEvidence H w.store w.bank.querier a.env a.sender e = .ok (s, r) ∧
        dispatch H a.accepts ⟨s, w.bank⟩ r.messages = .ok w' := by
  have hbank : w.bank.credit a.funds = w.bank := by rw [hfunds]; rfl
  have hexecute : execute H w.store w.bank.querier a.env a.sender a.funds a.msg =
      saveEvidence H w.store w.bank.querier a.env a.sender e := by rw [hmsg]; rfl
  simp only [step, hbank, hexecute, bind_eq_ok, pure_eq_ok, Prod.mk.injEq]
  constructor
  · rintro ⟨⟨s, r₁⟩, hs, w₁, hd, rfl, rfl⟩
    exact ⟨s, hs, hd⟩
  · rintro ⟨s, hs, hd⟩
    exact ⟨(s, r), hs, w', hd, rfl, rfl⟩

/-- An evidence for which a vote goes through supports every vote, whoever has voted before. -/
theorem supportable_of_ok {m : ExtTreeMap String Evidences} {x : Storage × Response}
    (h : saveEvidence H (withVotes w m).store w.bank.querier env sender e = .ok x) : Supportable H w e := by
  rw [saveEvidence_eq] at h
  simp only [bind_eq_ok] at h
  obtain ⟨_, -, _, hvalid, ⟨s₁, reached⟩, hhandle, hfinish⟩ := h
  have hvotes := votes_of_ok hhandle
  obtain ⟨m₁, n₁, rfl⟩ := hvotes.frame
  have hfresh : checkNotProcessed H (withVotes w m).store e = .ok () := by
    cases hvotes with
    | collected hf => exact hf
    | reached hf => exact hf
  exact ⟨hvalid, hfresh, fun env' m' response =>
    finishEvidence_collects (s := { w.store with txEvidences := m' }) hfinish⟩

theorem markProcessed_ok (hf : checkNotProcessed H s e = .ok ()) : ∃ n, markProcessed H s e = .ok n := by
  unfold markProcessed
  split_ifs with hvalid
  · obtain ⟨t, ht, -⟩ := checkNotProcessed_eq_ok hf hvalid
    exact ⟨_, bind_eq_ok.mpr ⟨t, ht, rfl⟩⟩
  · exact ⟨_, rfl⟩

/-- The storage once the last vote of a quorum is counted. -/
def counted (H : Host) (s : Storage) (e : Evidence) (n : ExtTreeMap String Unit) : Storage :=
  { s with
    processedTxs := n
    txEvidences := if s.config.evidenceThreshold ≠ 1 then s.txEvidences.erase (e.getHash H) else s.txEvidences }

/-- The last vote of a quorum: it is counted, and the votes before it are gone. -/
theorem Supportable.last_vote {n : ExtTreeMap String Unit} (h : Supportable H w e)
    (hv : Voting H w e (votes ++ [a]))
    (hlen : (w.store.voters (e.getHash H)).length + votes.length + 1 = w.store.config.evidenceThreshold)
    (hn : markProcessed H w.store e = .ok n) :
    ∃ m, run (step H) w votes = withVotes w m ∧
      handleEvidence H (withVotes w m).store a.sender e = .ok (counted H w.store e n, true) := by
  have honce : (votes.map Call.sender ++ [a.sender]).Nodup := by simpa using hv.once
  have hinit : Voting H w e votes :=
    ⟨fun c hc => hv.votes c (List.mem_append_left _ hc), fun c hc => hv.coinless c (List.mem_append_left _ hc),
      fun c hc => hv.relayers c (List.mem_append_left _ hc), fun c hc => hv.new c (List.mem_append_left _ hc),
      honce.of_append_left⟩
  obtain ⟨m, hm, herase, hvoters⟩ := h.run_votes hinit (by omega)
  have hnew : a.sender ∉ (withVotes w m).store.voters (e.getHash H) := by
    rw [hvoters, List.mem_append]
    rintro (hold | hvoted)
    · exact hv.new a (List.mem_append_right _ List.mem_cons_self) hold
    · exact List.disjoint_of_nodup_append honce hvoted List.mem_cons_self
  have hcount : ((withVotes w m).store.voters (e.getHash H) ++ [a.sender]).length = w.store.config.evidenceThreshold := by
    rw [hvoters, List.length_append, List.length_append, List.length_map, List.length_singleton, hlen]
  have hreaches : (withVotes w m).store.reaches H e = true := by
    rw [List.length_append, List.length_singleton] at hcount
    exact decide_eq_true hcount.ge
  have hfresh : checkNotProcessed H (withVotes w m).store e = .ok () := h.fresh
  refine ⟨m, hm, (handleEvidence_reaches hfresh hnew hreaches hn).trans ?_⟩
  rw [hcount]
  by_cases hone : w.store.config.evidenceThreshold = 1
  · have hnil : votes = [] := List.eq_nil_of_length_eq_zero (by omega)
    subst hnil
    have hsame : w.store.txEvidences = m := congrArg (fun w => w.store.txEvidences) hm
    rw [counted, if_neg (not_not.mpr hone), if_neg (not_not.mpr hone), hsame]
    rfl
  · rw [counted, if_pos hone, if_pos hone, ← herase]
    rfl

/-- **Whose votes complete a quorum makes no difference.** Take two groups of relayers that have not
voted for an evidence, each just large enough to complete its quorum, and let each of them vote, without
coins, in any order and at any times, the last of each group in the same block and with the same messages
accepted. If the last vote of one group goes through, so does that of the other: with the same messages, the
same balances and supplies, and exactly the same storage. -/
theorem quorum_outcome {w' : World} {r : Response} (hv : Voting H w e (votes ++ [a]))
    (hv' : Voting H w e (votes' ++ [a']))
    (hlen : (w.store.voters (e.getHash H)).length + votes.length + 1 = w.store.config.evidenceThreshold)
    (hlen' : votes'.length = votes.length) (henv : a'.env = a.env) (haccepts : a'.accepts = a.accepts)
    (h : step H (run (step H) w votes) a = .ok (w', r)) :
    ∃ r', step H (run (step H) w votes') a' = .ok (w', r') ∧ r'.messages = r.messages := by
  have hmsg := hv.votes a (List.mem_append_right _ List.mem_cons_self)
  have hmsg' := hv'.votes a' (List.mem_append_right _ List.mem_cons_self)
  have hfunds := hv.coinless a (List.mem_append_right _ List.mem_cons_self)
  have hfunds' := hv'.coinless a' (List.mem_append_right _ List.mem_cons_self)
  have hrelayer' := hv'.relayers a' (List.mem_append_right _ List.mem_cons_self)
  obtain ⟨s, hs, hd⟩ := (step_saveEvidence hmsg hfunds).mp h
  -- the evidence supports every vote, since the last one of the first group goes through
  obtain ⟨m, hm⟩ := Voting.run_withVotes (H := H) (w := w) (e := e)
    (fun c hc => hv.votes c (List.mem_append_left [a] hc)) (fun c hc => hv.coinless c (List.mem_append_left [a] hc))
    (by omega)
  have hsupport : Supportable H w e := by
    rw [hm] at hs
    exact supportable_of_ok hs
  obtain ⟨n, hn⟩ := markProcessed_ok hsupport.fresh
  -- so both last votes are counted in the same storage
  obtain ⟨m₁, hm₁, hhandle⟩ := hsupport.last_vote hv hlen hn
  obtain ⟨m₂, hm₂, hhandle'⟩ := hsupport.last_vote hv' (by omega) hn
  rw [hm₁, saveEvidence_eq] at hs
  simp only [bind_eq_ok] at hs
  obtain ⟨_, -, _, hvalid, x, hx, hfinish⟩ := hs
  cases hhandle.symm.trans hx
  have houtcome : Alike SameOutcome
      (finishEvidence H (counted H w.store e n) w.bank.querier a.env e true (Response.new.addAttributes
        [("action", ContractActions.saveEvidence.asStr), ("sender", a.sender)]))
      (finishEvidence H (counted H w.store e n) w.bank.querier a.env e true (Response.new.addAttributes
        [("action", ContractActions.saveEvidence.asStr), ("sender", a'.sender)])) := finishEvidence_outcome rfl
  obtain ⟨⟨s', r'⟩, hfinish', rfl, hmessages⟩ := houtcome.exists_of_ok hfinish
  refine ⟨r', ?_, hmessages.symm⟩
  rw [hm₂]
  refine (step_saveEvidence hmsg' hfunds').mpr ⟨s, ?_, ?_⟩
  · rw [saveEvidence_eq, henv]
    exact bind_eq_ok.mpr ⟨(), checkAuthorization_relayer rfl hrelayer', bind_eq_ok.mpr ⟨(), hvalid,
      bind_eq_ok.mpr ⟨_, hhandle', hfinish'⟩⟩⟩
  · rw [haccepts, ← hmessages]
    rw [hm₁] at hd
    exact hd

open Reference in
/-- The allocation, by the first two of the relayers, or by the third and the first. -/
theorem quorum_outcome_allocation :
    let w := run (step host) world₂ [recover]
    ∃ w' r r', step host (run (step host) w [vote 2 relayer₁ allocation]) (vote 3 relayer₂ allocation) = .ok (w', r) ∧
      step host (run (step host) w [vote 4 relayer₃ allocation]) (vote 3 relayer₁ allocation) = .ok (w', r') ∧
        r'.messages = r.messages := by
  intro w
  obtain ⟨⟨w', r⟩, hstep⟩ := exists_of_isOk (x := step host
    (run (step host) w [vote 2 relayer₁ allocation]) (vote 3 relayer₂ allocation)) (by decide +kernel)
  have hvoters : w.store.voters (allocation.getHash host) = [] ∧ w.store.config.evidenceThreshold = 2 ∧
      isRelayer w.store relayer₁.cosmosAddress = true ∧ isRelayer w.store relayer₂.cosmosAddress = true ∧
        isRelayer w.store relayer₃.cosmosAddress = true := by decide +kernel
  obtain ⟨hnone, hthreshold, h₁, h₂, h₃⟩ := hvoters
  have hfirst : Voting host w allocation ([vote 2 relayer₁ allocation] ++ [vote 3 relayer₂ allocation]) :=
    ⟨by simp [vote, call], by simp [vote, call], by simp [vote, call, h₁, h₂], by simp [hnone], by decide⟩
  have hsecond : Voting host w allocation ([vote 4 relayer₃ allocation] ++ [vote 3 relayer₁ allocation]) :=
    ⟨by simp [vote, call], by simp [vote, call], by simp [vote, call, h₁, h₃], by simp [hnone], by decide⟩
  obtain ⟨r', hstep', hmessages⟩ := quorum_outcome hfirst hsecond (by rw [hnone, hthreshold]; rfl) rfl rfl rfl hstep
  exact ⟨w', r, r', hstep, hstep', hmessages⟩

end XrplBridge
