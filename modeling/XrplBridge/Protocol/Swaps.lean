import XrplBridge.Reference

/-!
# Universal swaps that fail

A transfer from XRPL with a memo is handed to the entry point, as a message that asks for a
reply on an error. The reply reads the data of the swap from `TEMP_UNIVERSAL_SWAP` to give
the coin back, but nothing writes this data. So the reply fails whatever the swap was, and the
whole call with it: the vote is not counted, and the transfer is not processed.
-/

namespace XrplBridge

open Library Contract

variable {H : Host} {w : World} {c : Call} {s' : Storage} {r : Response}

/-- The call of the entry point with a coin, to be replied to on an error. -/
def swapMsg (entryPoint : Addr) (memo : String) (coin : Coin) : SubMsg :=
  ⟨.wasmExecute entryPoint (.universalSwap memo) [coin], some universalSwapErrorId⟩

/-- The reply to a failed swap gives the coin back, and sends nothing else. -/
def Recovers (s : Storage) (coin : Coin) : Prop :=
  ∀ err, ∃ s' r recovery, reply s universalSwapErrorId err = .ok (s', r) ∧
    r.messages = [⟨.bankSend recovery [coin], none⟩]

/-- Without swap data, a reply fails. -/
theorem reply_of_none {s : Storage} (hs : s.tempUniversalSwap = none) (err : String) :
    reply s universalSwapErrorId err = fail noTempUniversalSwap := by
  rw [reply, if_pos rfl, hs]
  rfl

/-- A message that is delivered was accepted. -/
theorem accepts_of_deliverAll {accepts : CosmosMsg → Bool} {b b' : Bank} {ms : List SubMsg}
    (h : deliverAll H accepts b ms = some b') : ∀ m ∈ ms, accepts m.msg = true := by
  induction ms generalizing b with
  | nil => nofun
  | cons m ms ih =>
    rw [deliverAll, List.foldlM_cons, Option.bind_eq_bind, Option.bind_eq_some_iff] at h
    obtain ⟨b₁, hb₁, hrest⟩ := h
    refine List.forall_mem_cons.mpr ⟨?_, ih hrest⟩
    unfold deliver at hb₁
    split_ifs at hb₁ with ha
    exact ha

/-- **No failed swap is recovered.** Whatever call of a run hands a coin to the entry point, the
reply to its failure returns an error in the state the call leaves, and the call fails. -/
theorem universalSwap_notRecovered (h : Started H w) (calls : List Call)
    (hx : execute H (run (step H) w calls).store ((run (step H) w calls).bank.credit c.funds).querier c.env
      c.sender c.funds c.msg = .ok (s', r)) {entryPoint : Addr} {memo : String} {coin : Coin}
    (hm : swapMsg entryPoint memo coin ∈ r.messages) :
    ¬ Recovers s' coin ∧
      (∀ err, reply s' universalSwapErrorId err = fail noTempUniversalSwap) ∧
      (c.accepts (swapMsg entryPoint memo coin).msg = false → (step H (run (step H) w calls) c).isOk = false) := by
  have hs' : s'.tempUniversalSwap = none :=
    (congrArg Prod.fst (effect_of_execute hx).fixed).trans (run_tempUniversalSwap h calls)
  refine ⟨fun hrec => ?_, reply_of_none hs', fun hno => ?_⟩
  · obtain ⟨_, _, _, hok, -⟩ := hrec ""
    rw [reply_of_none hs'] at hok
    cases hok
  · by_contra hok
    obtain ⟨⟨w', r'⟩, hstep⟩ := exists_of_isOk (x := step H (run (step H) w calls) c) (by simpa using hok)
    obtain ⟨-, hall⟩ := step_eq_ok (run_tempUniversalSwap h calls) hstep
    simp only [step, hx, bind_eq_ok, pure_eq_ok, Prod.mk.injEq, Except.ok.injEq] at hstep
    obtain ⟨_, rfl, _, -, -, rfl⟩ := hstep
    rw [accepts_of_deliverAll hall _ hm] at hno
    cases hno

namespace Reference

/-- The world of one relayer, with an entry point. -/
def world₃ : World := launch { setup [relayer₁] 1 with osorEntryPoint := some entryPoint }

theorem started_world₃ : Started host world₃ := started_launch (by decide +kernel)

/-- The relayer's vote for a transfer of XRP to the user, to be swapped; the entry point
accepts the coin as it likes. -/
def swap (accepted : Bool) : Call :=
  { vote 1 relayer₁ (.xrplToCosmosTransfer ⟨"ab12", xrpIssuer, xrpCurrency, 10000000, user, some "swap"⟩) with
    accepts := fun m => m != (swapMsg entryPoint "swap" ⟨xrpDenom, 10000000⟩).msg || accepted }

end Reference

open Reference in
/-- The transfer of ten XRP is handed to the entry point. -/
theorem universalSwap_notRecovered_xrp :
    ∃ s' r, execute host world₃.store world₃.bank.querier (swap true).env (swap true).sender [] (swap true).msg =
        .ok (s', r) ∧ swapMsg entryPoint "swap" ⟨xrpDenom, 10000000⟩ ∈ r.messages ∧
      ¬ Recovers s' ⟨xrpDenom, 10000000⟩ := by
  obtain ⟨⟨s', r⟩, hx⟩ := exists_of_isOk (x := execute host world₃.store world₃.bank.querier (swap true).env
    (swap true).sender [] (swap true).msg) (by decide +kernel)
  have hm : (execute host world₃.store world₃.bank.querier (swap true).env (swap true).sender []
      (swap true).msg).toOption.any (fun x => swapMsg entryPoint "swap" ⟨xrpDenom, 10000000⟩ ∈ x.2.messages) =
        true := by decide +kernel
  rw [hx] at hm
  simp only [Except.toOption, Option.any_some, decide_eq_true_eq] at hm
  exact ⟨s', r, hx, hm, (universalSwap_notRecovered (c := swap true) started_world₃ [] hx hm).1⟩

open Reference in
/-- The vote for the transfer goes through if the entry point accepts the coin. If it does not,
the reply fails in the state the vote leaves, and the transfer is not processed. -/
theorem universalSwap_reverts :
    (step host world₃ (swap true)).isOk = true ∧
      (commit (step host) world₃ (swap true)).store.processedTxs.size = 1 ∧
      (reply (commit (step host) world₃ (swap true)).store universalSwapErrorId "submessage").isOk = false ∧
      (step host world₃ (swap false)).isOk = false ∧
      (commit (step host) world₃ (swap false)).store.processedTxs.size = 0 := by
  decide +kernel

end XrplBridge
