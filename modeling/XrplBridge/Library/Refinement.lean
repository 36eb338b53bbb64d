import XrplBridge.Library.Transaction

/-!
# Refinement

A machine does what another one does, if every step that it commits is a step of the other one with the
same output, or is not seen there at all: nothing is put out, and the abstract state stays (`Matches`).
Then whole runs match (`run_refines`): the abstract machine, given the steps that it can see, commits all
of them, puts out the same, and ends in the abstraction of the state that the first one ends in.
-/

namespace XrplBridge.Library

universe u u' v v' w w' x x' y

variable {σ : Type u} {α : Type v} {ε : Type w} {ρ : Type x} {step : σ → α → Except ε (σ × ρ)}
  {τ : Type u'} {κ : Type v'} {ε' : Type w'} {ρ' : Type x'} {step' : τ → κ → Except ε' (τ × ρ')} {μ : Type y}

variable (step) in
/-- What the committed steps of a run put out, in order. -/
def outputs (out : ρ → List μ) (s : σ) : List α → List μ
  | [] => []
  | a :: as =>
    match step s a with
    | .ok r => out r.2 ++ outputs out r.1 as
    | .error _ => outputs out s as

theorem outputs_append (out : ρ → List μ) (s : σ) (as bs : List α) :
    outputs step out s (as ++ bs) = outputs step out s as ++ outputs step out (run step s as) bs := by
  induction as generalizing s with
  | nil => rfl
  | cons a as ih =>
    simp only [List.cons_append, outputs, run_cons, commit]
    cases step s a with
    | ok r => simp only [ih, List.append_assoc]
    | error e => simp only [ih]

theorem outputs_snoc_ok {out : ρ → List μ} {s s' : σ} {as : List α} {a : α} {r : ρ}
    (h : step (run step s as) a = .ok (s', r)) : outputs step out s (as ++ [a]) = outputs step out s as ++ out r := by
  simp [outputs_append, outputs, h]

theorem outputs_snoc_error {out : ρ → List μ} {s : σ} {as : List α} {a : α} {e : ε}
    (h : step (run step s as) a = .error e) : outputs step out s (as ++ [a]) = outputs step out s as := by
  simp [outputs_append, outputs, h]

variable (step') in
/-- A step that is seen has the same output, one that is not has none. -/
def Matches (out' : ρ' → List μ) (t t' : τ) (output : List μ) : Option κ → Prop
  | some b => ∃ r', step' t b = .ok (t', r') ∧ out' r' = output
  | none => t' = t ∧ output = []

/-- **The rule of refinement.** -/
theorem run_refines {f : σ → τ} {see : σ → α → Option κ} {out : ρ → List μ} {out' : ρ' → List μ}
    (hstep : ∀ {s a s' r}, step s a = .ok (s', r) → Matches step' out' (f s) (f s') (out r) (see s a))
    (s : σ) (as : List α) :
    run step' (f s) (labels step see s as) = f (run step s as) ∧
      outputs step' out' (f s) (labels step see s as) = outputs step out s as ∧
        AllCommitted step' (f s) (labels step see s as) := by
  refine run_induction (P := fun as s' => run step' (f s) (labels step see s as) = f s' ∧
    outputs step' out' (f s) (labels step see s as) = outputs step out s as ∧
      AllCommitted step' (f s) (labels step see s as)) ⟨rfl, rfl, rfl⟩ ?_ ?_ as
  · rintro as a s' r ⟨hrun, hout, hall⟩ hs
    have hmatch := hstep hs
    rw [labels_snoc_ok hs, outputs_snoc_ok hs]
    cases hsee : see (run step s as) a with
    | some b =>
      rw [hsee] at hmatch
      obtain ⟨r', hr', hsame⟩ := hmatch
      rw [← hrun] at hr'
      exact ⟨run_snoc_ok hr', by rw [Option.toList_some, outputs_snoc_ok hr', hout, hsame], hall.snoc hr'⟩
    | none =>
      rw [hsee] at hmatch
      obtain ⟨hkept, hnone⟩ := hmatch
      rw [Option.toList_none, List.append_nil, hnone, List.append_nil]
      exact ⟨hrun.trans hkept.symm, hout, hall⟩
  · rintro as a e hp hs
    rw [labels_snoc_error hs, outputs_snoc_error hs]
    exact hp

end XrplBridge.Library
