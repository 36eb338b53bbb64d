import XrplBridge.Protocol.Lifetimes
import XrplBridge.Protocol.Rotation
import XrplBridge.Protocol.Voting
import XrplBridge.Reference

/-!
# Signatures

A signature is stored on an operation by a `SaveSignature` that names its number and its
version. `Signed` is the call of the run that stored it: since then the operation has not ended,
its number has not been taken again, and it is what it was then but for its signatures
(`run_signed`). A new fee drops the signatures of all operations (`signatures_match`).

A rotation of the keys that comes into force does not: what the old relayers have signed stays
on the operations that are pending across it, and whoever has signed one cannot sign it again.
`signatures_current_iff` says when no signature survives its signer set.
-/

namespace XrplBridge

open Library Contract Std

variable {H : Host} {s s' : Storage} {w : World} {k : ℕ} {o o' : Operation} {g : Signature}

/-- An operation without its signatures. -/
def Contract.Operation.unsigned (o : Operation) : Operation := { o with signatures := [] }

theorem version_of_unsigned (h : o.unsigned = o'.unsigned) : o.version = o'.version := by
  have := congrArg Operation.version h
  exact this

theorem xrplBaseFee_of_unsigned (h : o.unsigned = o'.unsigned) : o.xrplBaseFee = o'.xrplBaseFee := by
  have := congrArg Operation.xrplBaseFee h
  exact this

/-- The call `c` of the run `pre ++ c :: post` stored the signature `g`, for the version the
operation `o` still has, and `o` has been pending ever since. -/
structure Signed (H : Host) (w : World) (k : ℕ) (o : Operation) (g : Signature) (pre : List Call) (c : Call)
    (post : List Call) : Prop where
  succeeded : (step H (run (step H) w pre) c).isOk = true
  sender : c.sender = g.relayerCosmosAddress
  asked : c.msg = .saveSignature k o.version g.signature
  /-- The operation was then what it is now, but for its signatures. -/
  pending : ∃ old, (run (step H) w pre).store.pendingOperations[k]? = some old ∧ old.unsigned = o.unsigned
  /-- It is the same operation. -/
  untaken : Untaken H (run (step H) w (pre ++ [c])) post k
  unended : Unended H (run (step H) w (pre ++ [c])) post k

/-! ### Where a signature comes from -/

theorem Untaken.snoc {w w' : World} {post : List Call} {c : Call} {r : Response} (hu : Untaken H w post k)
    (hstep : step H (run (step H) w post) c = .ok (w', r))
    (h : opened H (run (step H) w post).store c.msg ≠ some k) : Untaken H w (post ++ [c]) k := by
  intro x hx
  rw [history_snoc_ok hstep, List.mem_append, List.mem_singleton] at hx
  rcases hx with hx | rfl
  · exact hu x hx
  · exact h

theorem Unended.snoc {w w' : World} {post : List Call} {c : Call} {r : Response} (hu : Unended H w post k)
    (hstep : step H (run (step H) w post) c = .ok (w', r))
    (h : ∀ o result, ended H (run (step H) w post).store c.msg ≠ some (k, o, result)) :
    Unended H w (post ++ [c]) k := by
  intro x hx
  rw [history_snoc_ok hstep, List.mem_append, List.mem_singleton] at hx
  rcases hx with hx | rfl
  · exact hu x hx
  · exact h

/-- One more call leaves a signature of an operation that it does not end. -/
theorem Signed.snoc {pre post : List Call} {c d : Call} {w' : World} {r : Response}
    (h : Signed H w k o g pre c post) (hstep : step H (run (step H) w (pre ++ c :: post)) d = .ok (w', r))
    (hopen : opened H (run (step H) w (pre ++ c :: post)).store d.msg ≠ some k)
    (hend : ∀ o result, ended H (run (step H) w (pre ++ c :: post)).store d.msg ≠ some (k, o, result))
    (ho : o'.unsigned = o.unsigned) : Signed H w k o' g pre c (post ++ [d]) := by
  have hsplit : run (step H) w (pre ++ c :: post) = run (step H) (run (step H) w (pre ++ [c])) post := by
    rw [← run_append, List.append_assoc, List.singleton_append]
  rw [hsplit] at hstep hopen hend
  obtain ⟨old, hold, hsame⟩ := h.pending
  exact ⟨h.succeeded, h.sender, version_of_unsigned ho ▸ h.asked, ⟨old, hold, hsame.trans ho.symm⟩, h.untaken.snoc hstep hopen,
    h.unended.snoc hstep hend⟩

theorem Signed.snoc_error {pre post : List Call} {c d : Call} {e : Failure} (h : Signed H w k o g pre c post)
    (hstep : step H (run (step H) w (pre ++ c :: post)) d = .error e) : Signed H w k o g pre c (post ++ [d]) := by
  have hsplit : run (step H) w (pre ++ c :: post) = run (step H) (run (step H) w (pre ++ [c])) post := by
    rw [← run_append, List.append_assoc, List.singleton_append]
  rw [hsplit] at hstep
  refine { h with untaken := ?_, unended := ?_ }
  · rw [Untaken, history_snoc_error hstep]
    exact h.untaken
  · rw [Unended, history_snoc_error hstep]
    exact h.unended

/-- **Every signature was stored by a call of the run**, made on the operation as it is now. -/
theorem run_signed (h : Started H w) (calls : List Call) :
    ∀ (k : ℕ) (o : Operation), (run (step H) w calls).store.pendingOperations[k]? = some o → ∀ g ∈ o.signatures,
      ∃ pre c post, calls = pre ++ c :: post ∧ Signed H w k o g pre c post := by
  refine run_induction (P := fun calls (w' : World) => ∀ (k : ℕ) (o : Operation), w'.store.pendingOperations[k]? = some o →
    ∀ g ∈ o.signatures, ∃ pre c post, calls = pre ++ c :: post ∧ Signed H w k o g pre c post) ?_ ?_ ?_ calls
  · obtain ⟨_, _, -, -, -, -, hs⟩ := started_eq h
    rw [hs]
    simp [initialStorage]
  · intro calls d w' r ih hstep k o ho g hg
    -- a signature that was there before
    have hold : ∀ o₀, (run (step H) w calls).store.pendingOperations[k]? = some o₀ → g ∈ o₀.signatures →
        o.unsigned = o₀.unsigned → opened H (run (step H) w calls).store d.msg ≠ some k →
        (∀ o result, ended H (run (step H) w calls).store d.msg ≠ some (k, o, result)) →
        ∃ pre c post, calls ++ [d] = pre ++ c :: post ∧ Signed H w k o g pre c post := by
      intro o₀ ho₀ hg₀ hsame hopen hend
      obtain ⟨pre, c, post, rfl, hsigned⟩ := ih k o₀ ho₀ g hg₀
      exact ⟨pre, c, post ++ [d], by simp, hsigned.snoc hstep hopen hend hsame⟩
    cases (run_effect h hstep).fate k with
    | kept unopened stays same => exact hold o (same ▸ ho) hg rfl unopened stays
    | @signed o₀ signature asked pending _ _ after =>
      rw [ho] at after
      cases after
      rcases List.mem_append.mp hg with hg | hg
      · exact hold o₀ pending hg rfl (by simp [asked, opened]) (by simp [asked, ended, completion])
      · rw [List.mem_singleton] at hg
        subst hg
        refine ⟨calls, d, [], rfl, ?_, rfl, asked, ⟨o₀, pending, rfl⟩, ?_, ?_⟩
        · rw [hstep]
          rfl
        · intro x hx
          cases hx
        · intro x hx
          cases hx
    | repriced _ after =>
      rw [ho] at after
      obtain ⟨o₀, -, rfl⟩ := Option.map_eq_some_iff.mp after.symm
      cases hg
    | finished _ _ gone => rw [ho] at gone; cases gone
    | created _ after =>
      rw [ho] at after
      cases after
      cases hg
  · intro calls d e ih hstep k o ho g hg
    obtain ⟨pre, c, post, rfl, hsigned⟩ := ih k o ho g hg
    exact ⟨pre, c, post ++ [d], by simp, hsigned.snoc_error hstep⟩

/-- No address has signed an operation twice. -/
theorem run_signers_nodup (h : Started H w) (calls : List Call) :
    ∀ (k : ℕ) (o : Operation), (run (step H) w calls).store.pendingOperations[k]? = some o →
      (o.signatures.map Signature.relayerCosmosAddress).Nodup := by
  refine run_storage (P := fun s => ∀ (k : ℕ) (o : Operation), s.pendingOperations[k]? = some o →
    (o.signatures.map Signature.relayerCosmosAddress).Nodup) h ?_ ?_ calls
  · obtain ⟨_, _, -, -, -, -, hs⟩ := started_eq h
    rw [hs]
    simp [initialStorage]
  · intro s s' q env sender funds msg ms hp he k o ho
    cases he.fate k with
    | kept _ _ same => exact hp k o (same ▸ ho)
    | signed _ pending _ fresh after =>
      rw [ho] at after
      cases after
      rw [List.map_append, List.map_singleton, List.nodup_append]
      refine ⟨hp k _ pending, List.nodup_singleton _, fun a ha b hb => ?_⟩
      rw [List.mem_singleton] at hb
      obtain ⟨g, hg, rfl⟩ := List.mem_map.mp ha
      rw [hb]
      exact fresh g hg
    | repriced _ after =>
      rw [ho] at after
      obtain ⟨o₀, -, rfl⟩ := Option.map_eq_some_iff.mp after.symm
      exact List.nodup_nil
    | finished _ _ gone => rw [ho] at gone; cases gone
    | created _ after =>
      rw [ho] at after
      cases after
      exact List.nodup_nil

/-- A new fee is given to every operation, with a new version and without signatures. -/
theorem Contract.Effect.updateXRPLBaseFee {q : Querier} {env : BlockInfo} {sender : Addr} {funds : List Coin}
    {ms : List SubMsg} {fee : ℕ} (h : Effect H s q env sender funds (.updateXRPLBaseFee fee) s' ms) :
    s'.config.xrplBaseFee = fee ∧ ∀ k : ℕ, s'.pendingOperations[k]? = s.pendingOperations[k]?.map fun o =>
      { o with version := o.version + 1, signatures := [], xrplBaseFee := fee } := by
  cases h
  exact ⟨rfl, fun k => getElem?_map_const _ _ _⟩

/-- **Signatures match what is being signed.** In every run, a pending operation has the bridge's
fee, its signatures come from different addresses, and each was stored by a call made since the
operation was created, with the version it still has, and under the current fee. A new fee
raises the version of every pending operation by one and drops its signatures. -/
theorem signatures_match (h : Started H w) (calls : List Call) :
    let s := (run (step H) w calls).store
    (∀ (k : ℕ) (o : Operation), s.pendingOperations[k]? = some o →
      o.xrplBaseFee = s.config.xrplBaseFee ∧ (o.signatures.map Signature.relayerCosmosAddress).Nodup ∧
        ∀ g ∈ o.signatures, ∃ pre c post, calls = pre ++ c :: post ∧ Signed H w k o g pre c post ∧
          (run (step H) w pre).store.config.xrplBaseFee = s.config.xrplBaseFee) ∧
    ∀ (c : Call) (fee : ℕ) (w' : World) (r : Response), c.msg = .updateXRPLBaseFee fee →
      step H (run (step H) w calls) c = .ok (w', r) → w'.store.config.xrplBaseFee = fee ∧
        ∀ k : ℕ, w'.store.pendingOperations[k]? = s.pendingOperations[k]?.map fun o =>
          { o with version := o.version + 1, signatures := [], xrplBaseFee := fee } := by
  intro s
  refine ⟨fun k o ho => ⟨run_baseFee h calls k o ho, run_signers_nodup h calls k o ho, fun g hg => ?_⟩,
    fun c fee w' r hmsg hstep => ?_⟩
  · obtain ⟨pre, c, post, hcalls, hsigned⟩ := run_signed h calls k o ho g hg
    obtain ⟨old, hold, hsame⟩ := hsigned.pending
    refine ⟨pre, c, post, hcalls, hsigned, ?_⟩
    rw [← run_baseFee h pre k old hold, xrplBaseFee_of_unsigned hsame, run_baseFee h calls k o ho]
  · have heff := run_effect h hstep
    rw [hmsg] at heff
    exact heff.updateXRPLBaseFee

open Reference in
/-- The signature of the first relayer on the first allocation. -/
theorem signatures_match_allocation :
    let calls := [recover, call 2 relayer₁.cosmosAddress (.saveSignature 1 1 "3045")]
    let g : Signature := ⟨relayer₁.cosmosAddress, "3045"⟩
    ∃ o, (run (step host) world₂ calls).store.pendingOperations[1]? = some o ∧ o.signatures = [g] ∧
      o.xrplBaseFee = 10 ∧ ∃ pre c post, calls = pre ++ c :: post ∧ Signed host world₂ 1 o g pre c post := by
  intro calls g
  have ho : (run (step host) world₂ calls).store.pendingOperations[1]? =
      some ⟨"1-1", 1, none, some 1, [g], .allocateTickets 3, 10⟩ := by decide +kernel
  obtain ⟨-, -, hsigned⟩ := (signatures_match started_world₂ calls).1 1 _ ho
  obtain ⟨pre, c, post, hcalls, hs, -⟩ := hsigned g (List.mem_singleton.mpr rfl)
  exact ⟨_, ho, rfl, rfl, pre, c, post, hcalls, hs⟩

/-! ### Across a rotation -/

/-- What a signature does to the operation. -/
theorem Contract.Effect.saveSignature {q : Querier} {env : BlockInfo} {sender : Addr} {funds : List Coin}
    {ms : List SubMsg} {version : ℕ} {signature : String}
    (h : Effect H s q env sender funds (.saveSignature k version signature) s' ms) :
    ∃ o, s.pendingOperations[k]? = some o ∧ version = o.version ∧ isRelayer s sender = true ∧
      s'.pendingOperations[k]? = some { o with signatures := o.signatures ++ [⟨sender, signature⟩] } := by
  cases h with
  | signed ho _ hrel hversion _ happ =>
    subst happ
    exact ⟨_, ho, hversion, hrel, getElem?_insert_self' ..⟩

/-- A relayer can sign an operation that the state of the bridge allows, once. -/
theorem saveSignature_ok {q : Querier} {env : BlockInfo} {sender : Addr} {funds : List Coin} {signature : String}
    (ho : s.pendingOperations[k]? = some o) (hvalid : checkValidOperationIfHalt s o.operationType = .ok ())
    (hrel : isRelayer s sender = true) (hfresh : ∀ g ∈ o.signatures, g.relayerCosmosAddress ≠ sender)
    (hlen : signature.utf8ByteSize ≤ maxSignatureLength) :
    ∃ s' r, execute H s q env sender funds (.saveSignature k o.version signature) = .ok (s', r) ∧
      r.messages = [] := by
  have hnone : ¬ (o.signatures.any fun g => g.relayerCosmosAddress = sender) = true := by simpa using hfresh
  have hadd : addSignature s k o.version sender signature = .ok { s with
      pendingOperations := s.pendingOperations.insert k
        { o with signatures := o.signatures ++ [⟨sender, signature⟩] } } :=
    bind_eq_ok.mpr ⟨(), failIf_eq_ok.mpr (by omega), bind_eq_ok.mpr ⟨o, orFail_eq_ok.mpr ho,
      bind_eq_ok.mpr ⟨(), failIf_eq_ok.mpr (not_not.mpr rfl), bind_eq_ok.mpr ⟨(), hvalid,
        bind_eq_ok.mpr ⟨(), failIf_eq_ok.mpr hnone, rfl⟩⟩⟩⟩⟩
  exact ⟨_, _, bind_eq_ok.mpr ⟨(), checkAuthorization_relayer rfl hrel, bind_eq_ok.mpr ⟨_, hadd, rfl⟩⟩, rfl⟩

/-- While no rotation comes into force, the relayers stay. -/
theorem run_relayers (h : Started H w) (calls later : List Call)
    (hno : ∀ x ∈ history (step H) (run (step H) w calls) later, rotation H x.1.store x.2.msg = none) :
    (run (step H) w (calls ++ later)).store.config.relayers = (run (step H) w calls).store.config.relayers := by
  rw [run_append]
  refine run_induction (P := fun later (w' : World) =>
    (∀ x ∈ history (step H) (run (step H) w calls) later, rotation H x.1.store x.2.msg = none) →
      w'.store.config.relayers = (run (step H) w calls).store.config.relayers) (fun _ => rfl) ?_ ?_ later hno
  · intro later c w' r ih hstep hno
    rw [history_snoc_ok hstep] at hno
    have hlast := hno _ (List.mem_append_right _ (List.mem_singleton.mpr rfl))
    have hih := ih fun x hx => hno x (List.mem_append_left _ hx)
    rw [← run_append] at hstep hlast hih
    exact ((run_effect h hstep).polled.relayers hlast).1.trans hih
  · intro later c e ih hstep hno
    rw [history_snoc_error hstep] at hno
    exact ih hno

/-- The signature was stored by a call of the run, and no rotation has come into force since. -/
def SignedSince (H : Host) (w : World) (calls : List Call) (k : ℕ) (o : Operation) (g : Signature) : Prop :=
  ∃ pre c post, calls = pre ++ c :: post ∧ Signed H w k o g pre c post ∧
    ∀ x ∈ history (step H) (run (step H) w (pre ++ [c])) post, rotation H x.1.store x.2.msg = none

/-- The signatures on the pending operations are those of the signer set. -/
structure CurrentSignatures (H : Host) (w : World) (calls : List Call) : Prop where
  /-- They are current relayers'. -/
  relayers : ∀ (k : ℕ) (o : Operation), (run (step H) w calls).store.pendingOperations[k]? = some o →
    ∀ g ∈ o.signatures, isRelayer (run (step H) w calls).store g.relayerCosmosAddress = true
  /-- They were stored after the last rotation. -/
  since : ∀ (k : ℕ) (o : Operation), (run (step H) w calls).store.pendingOperations[k]? = some o →
    ∀ g ∈ o.signatures, SignedSince H w calls k o g
  /-- A relayer that has not signed since can sign. -/
  signable : ∀ (k : ℕ) (o : Operation), (run (step H) w calls).store.pendingOperations[k]? = some o →
    checkValidOperationIfHalt (run (step H) w calls).store o.operationType = .ok () →
      ∀ a, isRelayer (run (step H) w calls).store a = true →
        (∃ g ∈ o.signatures, g.relayerCosmosAddress = a ∧ SignedSince H w calls k o g) ∨
        ∀ (c : Call) (signature : String), c.sender = a → c.msg = .saveSignature k o.version signature →
          signature.utf8ByteSize ≤ maxSignatureLength → (step H (run (step H) w calls) c).isOk = true

/-- A call that brings a rotation into force leaves no operation with signatures pending. -/
def DropsSignatures (H : Host) (s : Storage) (msg : ExecuteMsg) : Prop :=
  rotation H s msg ≠ none → ∀ (k : ℕ) (o : Operation), s.pendingOperations[k]? = some o →
    (∀ o' result, ended H s msg ≠ some (k, o', result)) → o.signatures = []

/-- A signature that was stored before a rotation is on the operation when the rotation comes
into force. -/
theorem Signed.no_rotation (h : Started H w) {pre post : List Call} {c : Call} (hs : Signed H w k o g pre c post)
    (ho : (run (step H) w (pre ++ c :: post)).store.pendingOperations[k]? = some o)
    (hdrop : ∀ x ∈ history (step H) w (pre ++ c :: post), DropsSignatures H x.1.store x.2.msg) :
    isRelayer (run (step H) w pre).store g.relayerCosmosAddress = true ∧
      ∀ x ∈ history (step H) (run (step H) w (pre ++ [c])) post, rotation H x.1.store x.2.msg = none := by
  have hsplit : ∀ post, pre ++ c :: post = (pre ++ [c]) ++ post := fun post => by simp
  obtain ⟨⟨w', r⟩, hstep⟩ := exists_of_isOk hs.succeeded
  have heff := run_effect h hstep
  rw [hs.asked, hs.sender] at heff
  obtain ⟨old, -, hversion, hrel, hafter⟩ := heff.saveSignature
  rw [← run_snoc_ok hstep] at hafter
  refine ⟨hrel, fun x hx => ?_⟩
  obtain ⟨mid, post, _, rfl, hx₁, hd⟩ := mem_history_iff.mp hx
  -- the operation at the rotation, between the signature and the end of the run
  obtain ⟨o₁, ho₁, hc₁⟩ := run_continues h (pre ++ [c]) mid hs.unended.left hafter
  have hrest : Unended H (run (step H) w (pre ++ [c] ++ mid)) (x.2 :: post) k := by
    rw [run_append]
    exact hs.unended.right
  obtain ⟨o₂, ho₂, hc₂⟩ := run_continues h (pre ++ [c] ++ mid) (x.2 :: post) hrest ho₁
  rw [hsplit, ← List.append_assoc, ho₂] at ho
  cases ho
  have hle := hc₁.version
  have hle' := hc₂.version
  simp only at hle
  have hg : g ∈ o₁.signatures := by
    apply hc₁.signatures (by simp only; omega)
    exact List.mem_append_right _ (List.mem_singleton.mpr rfl)
  by_contra hrot
  have hmem : x ∈ history (step H) w (pre ++ c :: (mid ++ x.2 :: post)) := by
    rw [hsplit, history_append]
    exact List.mem_append_right _ hx
  have hnil := hdrop x hmem hrot k o₁ (by rw [hx₁, ← run_append]; exact ho₁) (hs.unended x hx)
  rw [hnil] at hg
  cases hg

theorem run_currentSignatures (h : Started H w) (calls : List Call)
    (hdrop : ∀ x ∈ history (step H) w calls, DropsSignatures H x.1.store x.2.msg) : CurrentSignatures H w calls := by
  have hsince : ∀ (k : ℕ) (o : Operation), (run (step H) w calls).store.pendingOperations[k]? = some o →
      ∀ g ∈ o.signatures, isRelayer (run (step H) w calls).store g.relayerCosmosAddress = true ∧
        SignedSince H w calls k o g := by
    intro k o ho g hg
    obtain ⟨pre, c, post, rfl, hs⟩ := run_signed h calls k o ho g hg
    obtain ⟨hrel, hno⟩ := hs.no_rotation h ho hdrop
    refine ⟨?_, pre, c, post, rfl, hs, hno⟩
    -- the relayers are those of the signature
    obtain ⟨⟨w', r⟩, hstep⟩ := exists_of_isOk hs.succeeded
    have hown : rotation H (run (step H) w pre).store c.msg = none :=
      rotation_eq_none fun e => by rw [hs.asked]; exact nofun
    have hlater := run_relayers h (pre ++ [c]) post hno
    have hcall := ((run_effect h hstep).polled.relayers hown).1
    rw [← run_snoc_ok hstep] at hcall
    rw [List.append_assoc, List.singleton_append] at hlater
    unfold isRelayer at hrel ⊢
    rwa [hlater, hcall]
  refine ⟨fun k o ho g hg => (hsince k o ho g hg).1, fun k o ho g hg => (hsince k o ho g hg).2,
    fun k o ho hvalid a ha => ?_⟩
  by_cases hsigned : ∃ g ∈ o.signatures, g.relayerCosmosAddress = a
  · obtain ⟨g, hg, hga⟩ := hsigned
    exact .inl ⟨g, hg, hga, (hsince k o ho g hg).2⟩
  · refine .inr fun c signature hsender hmsg hlen => ?_
    have hfresh : ∀ g ∈ o.signatures, g.relayerCosmosAddress ≠ a := fun g hg hga => hsigned ⟨g, hg, hga⟩
    obtain ⟨s', r, hexec, hmsgs⟩ : ∃ s' r, execute H (run (step H) w calls).store
        ((run (step H) w calls).bank.credit c.funds).querier c.env a c.funds (.saveSignature k o.version signature) =
          .ok (s', r) ∧ r.messages = [] := saveSignature_ok ho hvalid ha hfresh hlen
    rw [← hsender, ← hmsg] at hexec
    rw [step_ok hexec hmsgs]
    rfl

/-- A signed operation that is pending across a rotation carries a signature of before it. -/
theorem drops_of_currentSignatures (h : Started H w) {calls : List Call} {c : Call} {w' : World} {r : Response}
    (hstep : step H (run (step H) w calls) c = .ok (w', r)) (hcur : CurrentSignatures H w (calls ++ [c])) :
    DropsSignatures H (run (step H) w calls).store c.msg := by
  intro hrot k o ho hstays
  have hafter : (run (step H) w (calls ++ [c])).store.pendingOperations[k]? = some o := by
    rw [run_snoc_ok hstep]
    cases (run_effect h hstep).fate k with
    | kept _ _ same => exact same.trans ho
    | signed asked => exact absurd (rotation_eq_none fun e => by rw [asked]; exact nofun) hrot
    | repriced asked => exact absurd (rotation_eq_none fun e => by rw [asked]; exact nofun) hrot
    | finished _ ends => exact absurd ends (hstays _ _)
    | created _ _ free =>
      rcases free with hnone | ⟨o', result, hends⟩
      · rw [ho] at hnone; cases hnone
      · exact absurd hends (hstays _ _)
  by_contra hne
  obtain ⟨g, hg⟩ := List.exists_mem_of_ne_nil _ hne
  obtain ⟨pre, d, post, hcalls, hsigned, hno⟩ := hcur.since k o hafter g hg
  rcases List.eq_nil_or_concat' post with rfl | ⟨post, d', rfl⟩
  · -- the rotation itself stores no signature
    obtain ⟨-, hd⟩ := List.append_inj' hcalls rfl
    cases hd
    exact hrot (rotation_eq_none fun e => by rw [hsigned.asked]; exact nofun)
  · -- the rotation is among the calls after the signature
    rw [← List.cons_append, ← List.append_assoc] at hcalls
    obtain ⟨rfl, hd⟩ := List.append_inj' hcalls rfl
    cases hd
    have hrun : run (step H) w (pre ++ d :: post) = run (step H) (run (step H) w (pre ++ [d])) post := by
      rw [← run_append, List.append_assoc, List.singleton_append]
    rw [hrun] at hstep hrot
    exact hrot (hno _ (mem_history hstep))

/-- **When no signature survives its signer set**: in every state of a run the signatures on the
pending operations are current relayers' and younger than the last rotation, and every relayer
has signed since or can sign, exactly if every rotation that comes into force finds no signature
on another pending operation. -/
theorem signatures_current_iff (h : Started H w) (calls : List Call) :
    (∀ pre, pre <+: calls → CurrentSignatures H w pre) ↔
      ∀ x ∈ history (step H) w calls, DropsSignatures H x.1.store x.2.msg := by
  constructor
  · rintro hcur x hx
    obtain ⟨pre, post, ⟨w', r⟩, rfl, hx₁, hstep⟩ := mem_history_iff.mp hx
    rw [hx₁] at hstep ⊢
    exact drops_of_currentSignatures h hstep (hcur _ ⟨post, by simp⟩)
  · rintro hdrop pre ⟨post, rfl⟩
    exact run_currentSignatures h pre fun x hx => hdrop x (mem_history_append hx post)

open Reference in
/-- In a run without rotations the signatures are current. -/
theorem signatures_current_iff_allocation :
    CurrentSignatures host world₂ [recover, call 2 relayer₁.cosmosAddress (.saveSignature 1 1 "3045")] := by
  refine (signatures_current_iff started_world₂ _).mpr (fun x hx hrot => ?_) _ List.prefix_rfl
  have hall : (history (step host) world₂
      [recover, call 2 relayer₁.cosmosAddress (.saveSignature 1 1 "3045")]).all
        (fun x => rotation host x.1.store x.2.msg = none) = true := by decide +kernel
  exact absurd (by simpa using List.all_eq_true.mp hall x hx) hrot

open Reference in
/-- A transfer that the only relayer has signed is pending while the keys are rotated to the
second relayer: the signature stays. If the first relayer keeps its address and changes its
keys, it cannot sign the transfer any more. -/
theorem signature_survives :
    let signing := [recover, vote 2 relayer₁ allocation, send 3 1000000,
      call 4 relayer₁.cosmosAddress (.saveSignature 1 1 "3045")]
    let rotated : Evidence := .xrplTransactionResult ⟨some "cd34", none, some 2, .accepted, none⟩
    let kept : Relayer := { relayer₂ with cosmosAddress := relayer₁.cosmosAddress }
    let rekeyed := signing ++ [call 5 owner (.rotateKeys [kept] 1), vote 6 relayer₁ rotated, call 7 owner .resumeBridge]
    ¬ CurrentSignatures host world₁ (signing ++ [call 5 owner (.rotateKeys [relayer₂] 1), vote 6 relayer₁ rotated]) ∧
      (run (step host) world₁ rekeyed).store.config.relayers = [kept] ∧
      (step host (run (step host) world₁ rekeyed) (call 8 kept.cosmosAddress (.saveSignature 1 1 "3046"))).map
        (fun _ => ()) = .error (.err .signatureAlreadyProvided) := by
  intro signing rotated kept rekeyed
  refine ⟨fun hcur => ?_, by decide +kernel⟩
  have ho : (run (step host) world₁ (signing ++ [call 5 owner (.rotateKeys [relayer₂] 1),
      vote 6 relayer₁ rotated])).store.pendingOperations[1]? =
        some ⟨"3-1", 1, some 1, none, [⟨relayer₁.cosmosAddress, "3045"⟩],
          .cosmosToXRPLTransfer xrpIssuer xrpCurrency 1000000 none user relayer₃.xrplAddress, 10⟩ := by decide +kernel
  have hrel := hcur.relayers 1 _ ho _ (List.mem_singleton.mpr rfl)
  exact absurd hrel (by decide +kernel)

end XrplBridge
