import XrplBridge.Protocol.Operations
import XrplBridge.Protocol.Quorum
import XrplBridge.Protocol.Rotation

/-!
# Migration

`Invariants` is what `instantiate` and `execute` keep across the config and the other stores
(`run_invariants`). A migration replaces the whole config and none of the others, without a check:
it keeps the invariants exactly if its message fits what is stored (`migrate_iff`).
-/

namespace XrplBridge

open Library Contract Std

variable {H : Host} {w : World}

/-- What the config has to do with the other stores. -/
structure Invariants (s : Storage) : Prop where
  relayers : ValidRelayers s.config.relayers s.config.evidenceThreshold
  rotating : s.pendingRotateKeys = true → s.config.bridgeState = .halted
  own : s.prohibitedXRPLAddresses.contains s.config.bridgeXRPLAddress = true
  fees : ∀ (k : ℕ) (o : Operation), s.pendingOperations[k]? = some o → o.xrplBaseFee = s.config.xrplBaseFee
  votes : ∀ (hash : String) (es : Evidences), s.txEvidences[hash]? = some es →
    (∀ a ∈ es.relayerCosmosAddresses, isRelayer s a = true) ∧
      es.relayerCosmosAddresses.length < s.config.evidenceThreshold

/-- The message of a migration fits what is stored. -/
structure Fits (s : Storage) (msg : MigrateMsg) : Prop where
  relayers : ValidRelayers msg.relayers msg.evidenceThreshold
  idle : s.pendingRotateKeys = false
  own : s.prohibitedXRPLAddresses.contains msg.bridgeXRPLAddress = true
  fees : msg.xrplBaseFee = s.config.xrplBaseFee ∨ ∀ k : ℕ, s.pendingOperations[k]? = none
  votes : ∀ (hash : String) (es : Evidences), s.txEvidences[hash]? = some es →
    (∀ a ∈ es.relayerCosmosAddresses, (msg.relayers.any fun r => r.cosmosAddress = a) = true) ∧
      es.relayerCosmosAddresses.length < msg.evidenceThreshold

/-- `instantiate` and `execute` keep the invariants. -/
theorem run_invariants (h : Started H w) (calls : List Call) : Invariants (run (step H) w calls).store := by
  have hreg := run_registered h calls
  have hquorum := run_quorum h calls
  refine ⟨hquorum.relayers, (run_flags h calls).halted, ?_, run_baseFee h calls, fun hash es hes => ?_⟩
  · rw [hreg.address]
    exact hreg.sound.prohibited
  · have hopen := (hquorum.votes hash es hes).2
    exact ⟨hopen.elect, hopen.lt⟩

/-- A migration keeps what it does not write, and makes the bridge active. -/
theorem Invariants.migrated_iff {s s' : Storage} {msg : MigrateMsg} {r : Response} (h : Invariants s)
    (hm : migrate s msg = .ok (s', r)) : Invariants s' ↔ Fits s msg := by
  obtain rfl := migrate_eq_ok hm
  constructor
  · intro h'
    refine ⟨h'.relayers, ?_, h'.own, ?_, h'.votes⟩
    · by_contra hrot
      have hhalted := h'.rotating (by simpa using hrot)
      cases hhalted
    · by_cases hnone : ∀ k : ℕ, s.pendingOperations[k]? = none
      · exact .inr hnone
      · push Not at hnone
        obtain ⟨k, hk⟩ := hnone
        obtain ⟨o, ho⟩ := Option.ne_none_iff_exists'.mp hk
        exact .inl ((h'.fees k o ho).symm.trans (h.fees k o ho))
  · intro hf
    refine ⟨hf.relayers, fun hrot => ?_, hf.own, fun k o ho => ?_, hf.votes⟩
    · rw [hf.idle] at hrot
      cases hrot
    · rcases hf.fees with hfee | hnone
      · exact (h.fees k o ho).trans hfee.symm
      · rw [hnone k] at ho
        cases ho

/-- **Migrations.** From a state that a run reaches, a migration keeps the invariants exactly if
its message fits what is stored. -/
theorem migrate_iff (h : Started H w) (calls : List Call) {s' : Storage} {msg : MigrateMsg} {r : Response}
    (hm : migrate (run (step H) w calls).store msg = .ok (s', r)) :
    Invariants s' ↔ Fits (run (step H) w calls).store msg :=
  (run_invariants h calls).migrated_iff hm

open Reference in
/-- Nothing is pending after the tickets 1 to 3 have been allocated, and no votes are stored. -/
theorem migrate_iff_idle :
    ∃ s' r, migrate (run (step host) world₁ [recover, vote 2 relayer₁ allocation]).store
      (migration [relayer₁, relayer₂] 2) = .ok (s', r) ∧ Invariants s' := by
  obtain ⟨⟨s', r⟩, hm⟩ := exists_of_isOk (x := migrate
    (run (step host) world₁ [recover, vote 2 relayer₁ allocation]).store (migration [relayer₁, relayer₂] 2))
    (by decide +kernel)
  refine ⟨s', r, hm, (migrate_iff started_world₁ _ hm).mpr ⟨?_, by decide +kernel, by decide +kernel, ?_, ?_⟩⟩
  · exact ⟨by decide, by decide, by decide, by decide, by decide, by decide⟩
  · exact .inl (by decide +kernel)
  · have hnone : (run (step host) world₁ [recover, vote 2 relayer₁ allocation]).store.txEvidences.isEmpty = true := by
      decide +kernel
    intro hash es hes
    rw [ExtTreeMap.isEmpty_iff.mp hnone] at hes
    simp at hes

open Reference in
/-- A rotation is pending and the bridge halted; the migration makes it active, although its message
asks for a halted bridge. -/
theorem migrate_rotating :
    let s := (run (step host) world₁ [recover, vote 2 relayer₁ allocation, rotate]).store
    Invariants s ∧ ∃ s' r, migrate s (migration [relayer₁] 1) = .ok (s', r) ∧ ¬ Invariants s' := by
  intro s
  refine ⟨run_invariants started_world₁ _, ?_⟩
  obtain ⟨⟨s', r⟩, hm⟩ := exists_of_isOk (x := migrate s (migration [relayer₁] 1)) (by decide +kernel)
  have hrot : s.pendingRotateKeys = true := by decide +kernel
  refine ⟨s', r, hm, fun hinv => ?_⟩
  clear_value s
  obtain rfl := migrate_eq_ok hm
  cases hinv.rotating hrot

end XrplBridge
