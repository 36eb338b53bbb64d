import XrplBridge.Protocol.Frames
import XrplBridge.Protocol.Quorum

/-!
# The order of votes and signatures

Relayers submit at the same time, and the block decides on an order. The queries list votes and
signatures in that order, but no call of `execute` depends on it: in two storages that hold the
same votes and the same signatures in another order (`Reordered`) every message of every sender
fails with the same error, or answers the same and leaves storages that again differ in the order
only. So no later run takes another course because of the order in which relayers have voted and
signed.

Only an evidence reads the votes; of the other calls `SameBut.execute_alike` says it.
-/

namespace XrplBridge

open Library Contract Std

/-- The same votes, in some order. -/
def SameVotes (es es' : Evidences) : Prop := es.relayerCosmosAddresses.Perm es'.relayerCosmosAddresses

/-- Votes and signatures in some order. -/
abbrev Frame.order : Frame where
  votes := Related SameVotes
  operation := SameOperation
  empty := .refl (fun _ => .refl _) _
  refl := SameOperation.refl
  same := id
  sign h g := by
    cases h with
    | mk hp => exact .mk (hp.append_right [g])

/-- The same storage, but for the order in which relayers have voted and signed. -/
abbrev Reordered (s s' : Storage) : Prop := SameBut .order s s'

namespace Reordered

variable {H : Host} {s s' s'' : Storage} {q : Querier} {env : BlockInfo} {sender : Addr} {funds : List Coin}

theorem refl (s : Storage) : Reordered s s :=
  .mk (.refl (fun _ => .refl _) _) (.refl SameOperation.refl _)

theorem symm (h : Reordered s s') : Reordered s' s := by
  cases h with
  | @mk m p hv ho =>
    exact .mk (s := { s with txEvidences := m, pendingOperations := p }) (hv.symm List.Perm.symm)
      (ho.symm SameOperation.symm)

theorem trans (h : Reordered s s') (h' : Reordered s' s'') : Reordered s s'' := by
  cases h with
  | mk hv ho =>
    cases h' with
    | mk hv' ho' => exact .mk (hv.trans List.Perm.trans hv') (ho.trans SameOperation.trans ho')

/-- The voters for a hash, in some order. -/
theorem voters (h : Reordered s s') (hash : String) : (s.voters hash).Perm (s'.voters hash) := by
  cases h with
  | mk hv =>
    have hk := hv hash
    unfold Storage.voters
    dsimp only
    generalize s.txEvidences[hash]? = x at hk ⊢
    generalize (_ : ExtTreeMap String Evidences)[hash]? = y at hk ⊢
    cases hk with
    | none => exact .refl _
    | some hp => exact hp

/-! ### Evidences -/

/-- Whether someone has voted, and how many have, does not depend on the order. -/
theorem handleEvidence_alike (h : Reordered s s') {evidence : Evidence} :
    Alike (SameAnswer Reordered) (handleEvidence H s sender evidence) (handleEvidence H s' sender evidence) := by
  have hp := h.voters (evidence.getHash H)
  have hlen := (hp.append_right [sender]).length_eq
  cases h with
  | mk hv ho =>
    unfold handleEvidence
    refine Alike.bind_same fun _ => (SameBut.failIf_alike hp.mem_iff).bind fun _ => ?_
    dsimp only
    rw [hlen]
    split_ifs
    · exact Alike.bind_same fun _ => .ok ⟨.mk (hv.erase _) ho, rfl⟩
    · exact Alike.bind_same fun _ => .ok ⟨.mk hv ho, rfl⟩
    · exact .ok ⟨.mk (hv.insert _ (hp.append_right _)) ho, rfl⟩

theorem saveEvidence_alike (h : Reordered s s') {evidence : Evidence} :
    Alike (SameAnswer Reordered) (saveEvidence H s q env sender evidence)
      (saveEvidence H s' q env sender evidence) := by
  have hhandle := @h.handleEvidence_alike H _ _ sender evidence
  cases h with
  | mk hv ho =>
    refine Alike.bind_same fun _ => Alike.bind_same fun _ => hhandle.bind fun {x x'} hx => ?_
    obtain ⟨s₁, reached⟩ := x
    obtain ⟨s₁', reached'⟩ := x'
    obtain ⟨hs, rfl⟩ := hx
    cases evidence with
    | xrplToCosmosTransfer e => exact hs.saveTransferEvidence_alike
    | xrplTransactionResult e => exact hs.saveResultEvidence_alike

/-- **No call can tell the order of votes and signatures.** -/
theorem execute_alike (h : Reordered s s') {msg : ExecuteMsg} :
    Alike (SameAnswer Reordered) (execute H s q env sender funds msg) (execute H s' q env sender funds msg) := by
  by_cases hmsg : ∃ e, msg = .saveEvidence e
  · obtain ⟨evidence, rfl⟩ := hmsg
    exact h.saveEvidence_alike
  · exact SameBut.execute_alike h fun e he => hmsg ⟨e, he⟩

end Reordered

/-! ### Runs -/

/-- The same world, but for the order in which relayers have voted and signed. -/
abbrev SameWorld (w w' : World) : Prop := SameWorldBut .order w w'

namespace SameWorld

variable {H : Host} {w w' w'' : World}

theorem refl (w : World) : SameWorld w w := ⟨Reordered.refl _, rfl⟩

theorem symm (h : SameWorld w w') : SameWorld w' w := ⟨Reordered.symm h.1, h.2.symm⟩

theorem trans (h : SameWorld w w') (h' : SameWorld w' w'') : SameWorld w w'' :=
  ⟨Reordered.trans h.1 h'.1, h.2.trans h'.2⟩

theorem equivalence : Equivalence SameWorld := ⟨refl, symm, trans⟩

/-- No call can tell the order of votes and signatures, in its world. -/
theorem step_respects (H : Host) : Respects (step H) SameWorld := by
  rintro w w' c ⟨hs, hb⟩
  unfold step
  rw [← hb]
  refine (Reordered.execute_alike hs).bind fun {x x'} hx => ?_
  obtain ⟨s₁, r⟩ := x
  obtain ⟨s₁', r'⟩ := x'
  obtain ⟨hs₁, rfl⟩ := hx
  have hw : SameWorld ⟨s₁, w.bank.credit c.funds⟩ ⟨s₁', w.bank.credit c.funds⟩ := ⟨hs₁, rfl⟩
  exact hw.dispatch_alike.bind fun hw => .ok ⟨hw, rfl⟩

end SameWorld

/-- **No call depends on the order of votes and signatures.** From two worlds that differ only in the
order in which relayers have voted and signed, any list of calls (by anyone, with any messages,
coins and times) gets the same answers, with the same errors, and leads to the same balances and
supplies, and to storages that differ in that order only. -/
theorem order_unobservable (H : Host) {w w' : World} (h : SameWorld w w') (calls : List Call) :
    answers (step H) w calls = answers (step H) w' calls ∧
      SameWorld (run (step H) w calls) (run (step H) w' calls) :=
  ⟨answers_related (SameWorld.step_respects H) h calls, run_related (SameWorld.step_respects H) h calls⟩

/-- The signatures of every operation, the last one first. -/
def Reference.reversed (w : World) : World :=
  { w with store := { w.store with
      pendingOperations := w.store.pendingOperations.map fun _ o => { o with signatures := o.signatures.reverse } } }

open Reference in
/-- Two relayers have signed the allocation: the votes that end it do not depend on who signed first. -/
theorem order_unobservable_allocation :
    let w := run (step host) world₂ [recover, call 2 relayer₁.cosmosAddress (.saveSignature 1 1 "A1"),
      call 2 relayer₂.cosmosAddress (.saveSignature 1 1 "B2")]
    answers (step host) w [vote 3 relayer₁ allocation, vote 3 relayer₂ allocation] =
      answers (step host) (reversed w) [vote 3 relayer₁ allocation, vote 3 relayer₂ allocation] := by
  intro w
  refine (@order_unobservable host w (reversed w) ⟨.mk (.refl (fun _ => .refl _) _) fun k => ?_, rfl⟩ _).1
  rw [getElem?_map_const]
  generalize w.store.pendingOperations[k]? = x
  cases x with
  | none => exact .none
  | some o => exact .some (.mk (List.reverse_perm _).symm)

end XrplBridge
