import Mathlib.Tactic.Common
import Mathlib.Data.List.Induction
import Mathlib.Algebra.BigOperators.Group.List.Basic

/-!
# Transactions with rollback

A machine whose step may fail: a step that succeeds commits its new state, a step
that fails leaves the state as it was. Any list of inputs is then a run. This module
gives the runs of such a machine, the invariant rule, the rule for properties of the
whole history, and the list of what was committed along a run.

* `run_invariant` — what holds at the start and is kept by every committed step
  holds after every run.
* `run_induction` — the same for a property of the run itself and the state it ends in.
* `history` — the committed steps of a run, each with the state it was taken in;
  `mem_history_iff` finds each of them at a prefix of the run.
* `run_simulation` — a machine that takes the steps of an abstract, labelled relation
  inherits what the relation keeps, of the labels so far and the abstract state.
* `run_schedule` — a list of inputs none of which fails, from what is known of those that
  are still to come.
-/

namespace XrplBridge.Library

universe u v w x y z

/-! ### Computations that may fail -/

section Fallible

variable {ε : Type u} {α : Type v} {β : Type v}

theorem bind_eq_ok {x : Except ε α} {f : α → Except ε β} {b : β} :
    (x >>= f) = .ok b ↔ ∃ a, x = .ok a ∧ f a = .ok b := by
  cases x <;> simp [bind, Except.bind]

theorem pure_eq_ok {a b : α} : (pure a : Except ε α) = .ok b ↔ a = b := by
  simp [pure, Except.pure]

theorem exists_of_isOk {x : Except ε α} (h : x.isOk = true) : ∃ a, x = .ok a := by
  cases x with
  | ok a => exact ⟨a, rfl⟩
  | error e => cases h

theorem toOption_of_ok {x : Except ε α} {a : α} (h : x = .ok a) : x.toOption = some a := by
  rw [h]
  rfl

variable {α' : Type w} {β' : Type w} {γ : Type v} {R : α → α' → Prop} {S : β → β' → Prop}

/-- Two computations that fail with the same error, or succeed with related results. -/
inductive Alike (R : α → α' → Prop) : Except ε α → Except ε α' → Prop
  | ok {a : α} {a' : α'} (related : R a a') : Alike R (.ok a) (.ok a')
  | error (e : ε) : Alike R (.error e) (.error e)

/-- **The rule of sequences**: two computations are alike if their first parts are, and what follows
related results is. -/
theorem Alike.bind {x : Except ε α} {x' : Except ε α'} {f : α → Except ε β} {f' : α' → Except ε β'} (h : Alike R x x')
    (hf : ∀ {a a'}, R a a' → Alike S (f a) (f' a')) : Alike S (x >>= f) (x' >>= f') := by
  cases h with
  | ok hr => exact hf hr
  | error e => exact .error e

/-- The rule of sequences, with the same first part. -/
theorem Alike.bind_same {S : β → γ → Prop} {x : Except ε α} {f : α → Except ε β} {f' : α → Except ε γ}
    (hf : ∀ a, Alike S (f a) (f' a)) : Alike S (x >>= f) (x >>= f') := by
  cases x with
  | ok a => exact hf a
  | error e => exact .error e

/-- A first part that succeeds, of the first computation alone. -/
theorem Alike.of_ok_left {γ' : Type w} {S : β → γ' → Prop} {x : Except ε α} {a : α} {f : α → Except ε β}
    {y : Except ε γ'} (hx : x = .ok a) (h : Alike S (f a) y) : Alike S (x >>= f) y := by
  rw [hx]
  exact h

/-- A first part that succeeds, of the second computation alone. -/
theorem Alike.of_ok_right {γ' : Type w} {S : γ' → β → Prop} {x : Except ε α} {a : α} {f : α → Except ε β}
    {y : Except ε γ'} (hx : x = .ok a) (h : Alike S y (f a)) : Alike S y (x >>= f) := by
  rw [hx]
  exact h

end Fallible

/-! ### Runs -/

variable {σ : Type u} {α : Type v} {ε : Type w} {ρ : Type x} (step : σ → α → Except ε (σ × ρ))

/-- The state after the input `a`: the new state if the step succeeds, the old one if not. -/
def commit (s : σ) (a : α) : σ :=
  match step s a with
  | .ok r => r.1
  | .error _ => s

/-- The state after a list of inputs. -/
def run (s : σ) (as : List α) : σ := as.foldl (commit step) s

variable {step}

theorem commit_ok {s s' : σ} {a : α} {r : ρ} (h : step s a = .ok (s', r)) : commit step s a = s' := by
  simp [commit, h]

theorem commit_error {s : σ} {a : α} {e : ε} (h : step s a = .error e) : commit step s a = s := by
  simp [commit, h]

@[simp] theorem run_nil (s : σ) : run step s [] = s := rfl

@[simp] theorem run_cons (s : σ) (a : α) (as : List α) :
    run step s (a :: as) = run step (commit step s a) as := rfl

theorem run_append (s : σ) (as bs : List α) : run step s (as ++ bs) = run step (run step s as) bs :=
  List.foldl_append

@[simp] theorem run_snoc (s : σ) (as : List α) (a : α) :
    run step s (as ++ [a]) = commit step (run step s as) a := by
  simp [run_append]

theorem run_snoc_ok {s s' : σ} {as : List α} {a : α} {r : ρ} (h : step (run step s as) a = .ok (s', r)) :
    run step s (as ++ [a]) = s' := by
  rw [run_snoc, commit_ok h]

/-- **The invariant rule.** -/
theorem run_invariant {I : σ → Prop}
    (hstep : ∀ {s a s' r}, I s → step s a = .ok (s', r) → I s') {s : σ} (h : I s) (as : List α) :
    I (run step s as) := by
  induction as generalizing s with
  | nil => exact h
  | cons a as ih =>
    apply ih
    cases hs : step s a with
    | ok r =>
      obtain ⟨s', r⟩ := r
      rw [commit_ok hs]
      exact hstep h hs
    | error e => rw [commit_error hs]; exact h

/-- **The history rule**: a property of the run so far and the state it ends in. -/
theorem run_induction {P : List α → σ → Prop} {s : σ} (h₀ : P [] s)
    (hok : ∀ {as a s' r}, P as (run step s as) → step (run step s as) a = .ok (s', r) → P (as ++ [a]) s')
    (herr : ∀ {as a e}, P as (run step s as) → step (run step s as) a = .error e →
      P (as ++ [a]) (run step s as)) (as : List α) : P as (run step s as) := by
  induction as using List.reverseRecOn with
  | nil => exact h₀
  | append_singleton as a ih =>
    rw [run_snoc]
    cases hs : step (run step s as) a with
    | ok r =>
      obtain ⟨s', r⟩ := r
      rw [commit_ok hs]
      exact hok ih hs
    | error e => rw [commit_error hs]; exact herr ih hs

/-! ### What was committed -/

variable (step) in
/-- The committed steps of a run, each with the state it was taken in. -/
def history (s : σ) : List α → List (σ × α)
  | [] => []
  | a :: as =>
    match step s a with
    | .ok r => (s, a) :: history r.1 as
    | .error _ => history s as

theorem history_append (s : σ) (as bs : List α) :
    history step s (as ++ bs) = history step s as ++ history step (run step s as) bs := by
  induction as generalizing s with
  | nil => rfl
  | cons a as ih =>
    simp only [List.cons_append, history, run_cons, commit]
    cases step s a with
    | ok r => simp only [ih, List.cons_append]
    | error e => simp only [ih]

theorem history_snoc_ok {s s' : σ} {as : List α} {a : α} {r : ρ}
    (h : step (run step s as) a = .ok (s', r)) :
    history step s (as ++ [a]) = history step s as ++ [(run step s as, a)] := by
  simp [history_append, history, h]

theorem history_snoc_error {s : σ} {as : List α} {a : α} {e : ε}
    (h : step (run step s as) a = .error e) : history step s (as ++ [a]) = history step s as := by
  simp [history_append, history, h]

/-- A committed step stands at a prefix of the run, and succeeded there. -/
theorem mem_history_iff {s t : σ} {as : List α} {a : α} :
    (t, a) ∈ history step s as ↔
      ∃ pre post r, as = pre ++ a :: post ∧ t = run step s pre ∧ step t a = .ok r := by
  induction as generalizing s with
  | nil => simp [history]
  | cons b as ih =>
    have hrest : (t, a) ∈ history step (commit step s b) as ↔
        ∃ pre post r, as = pre ++ a :: post ∧ t = run step s (b :: pre) ∧ step t a = .ok r := ih
    have hpre : (∃ pre post r, b :: as = pre ++ a :: post ∧ t = run step s pre ∧ step t a = .ok r) ↔
        (b = a ∧ t = s ∧ ∃ r, step t a = .ok r) ∨ (t, a) ∈ history step (commit step s b) as := by
      rw [hrest]
      constructor
      · rintro ⟨pre, post, r, he, ht, hr⟩
        cases pre with
        | nil =>
          simp only [List.nil_append, List.cons.injEq] at he
          exact .inl ⟨he.1, ht, r, hr⟩
        | cons c pre =>
          simp only [List.cons_append, List.cons.injEq] at he
          obtain ⟨rfl, rfl⟩ := he
          exact .inr ⟨pre, post, r, rfl, ht, hr⟩
      · rintro (⟨rfl, rfl, r, hr⟩ | ⟨pre, post, r, rfl, ht, hr⟩)
        · exact ⟨[], as, r, rfl, rfl, hr⟩
        · exact ⟨b :: pre, post, r, rfl, ht, hr⟩
    rw [hpre]
    simp only [history]
    cases hs : step s b with
    | ok r =>
      obtain ⟨s', r⟩ := r
      rw [commit_ok hs]
      simp only [List.mem_cons, Prod.mk.injEq]
      refine or_congr_left ⟨?_, fun ⟨h1, h2, _⟩ => ⟨h2, h1.symm⟩⟩
      rintro ⟨rfl, rfl⟩
      exact ⟨rfl, rfl, _, hs⟩
    | error e =>
      rw [commit_error hs]
      refine ⟨.inr, ?_⟩
      rintro (⟨rfl, rfl, r, hr⟩ | h)
      · rw [hs] at hr; cases hr
      · exact h

/-- A step that succeeds is in the history of every run that takes it. -/
theorem mem_history {s : σ} {as bs : List α} {a : α} {r : σ × ρ} (h : step (run step s as) a = .ok r) :
    (run step s as, a) ∈ history step s (as ++ a :: bs) :=
  mem_history_iff.mpr ⟨as, bs, r, rfl, rfl, h⟩

theorem mem_of_mem_history {s : σ} {as : List α} {x : σ × α} (h : x ∈ history step s as) : x.2 ∈ as := by
  obtain ⟨pre, post, _, rfl, -⟩ := mem_history_iff.mp h
  exact List.mem_append_right _ List.mem_cons_self

/-- The history of a run is the beginning of the history of a longer one. -/
theorem mem_history_append {s : σ} {as : List α} {x : σ × α} (h : x ∈ history step s as) (bs : List α) :
    x ∈ history step s (as ++ bs) := by
  rw [history_append]
  exact List.mem_append_left _ h

/-- **The rule of invariants under a condition**: what every step that meets the condition keeps
holds after a run whose steps all meet it. -/
theorem run_invariant_of {I : σ → Prop} {p : σ → α → Prop} {s : σ} (h : I s)
    (hstep : ∀ {as a s' r}, I (run step s as) → p (run step s as) a → step (run step s as) a = .ok (s', r) → I s')
    (as : List α) (hp : ∀ x ∈ history step s as, p x.1 x.2) : I (run step s as) := by
  refine run_induction (P := fun as s' => (∀ x ∈ history step s as, p x.1 x.2) → I s') (fun _ => h) ?_ ?_ as hp
  · intro as a s' r ih hs hp
    rw [history_snoc_ok hs] at hp
    have hlast := hp (run step s as, a) (List.mem_append_right _ (List.mem_singleton.mpr rfl))
    exact hstep (ih fun x hx => hp x (List.mem_append_left _ hx)) hlast hs
  · intro as a e ih hs hp
    rw [history_snoc_error hs] at hp
    exact ih hp

/-! ### Schedules -/

variable (step) in
/-- Every step of the run is committed. -/
def AllCommitted (s : σ) (as : List α) : Prop := (history step s as).map Prod.snd = as

theorem AllCommitted.snoc {s s' : σ} {as : List α} {a : α} {r : ρ} (h : AllCommitted step s as)
    (hs : step (run step s as) a = .ok (s', r)) : AllCommitted step s (as ++ [a]) := by
  rw [AllCommitted, history_snoc_ok hs, List.map_append, h]
  rfl

theorem AllCommitted.cons {s s' : σ} {as : List α} {a : α} {r : ρ} (hs : step s a = .ok (s', r))
    (h : AllCommitted step s' as) : AllCommitted step s (a :: as) := by
  simp only [AllCommitted, history, hs, List.map_cons]
  rw [h]

/-- **The rule of schedules**: if what is known of the inputs to come makes the next one succeed, and is
then known of the rest, all of them succeed. -/
theorem run_schedule {β : Type y} {f : β → α} {I : List β → σ → Prop}
    (hstep : ∀ {b bs s}, I (b :: bs) s → ∃ s' r, step s (f b) = .ok (s', r) ∧ I bs s') {s : σ} {bs : List β}
    (h : I bs s) : AllCommitted step s (bs.map f) ∧ I [] (run step s (bs.map f)) := by
  induction bs generalizing s with
  | nil => exact ⟨rfl, h⟩
  | cons b bs ih =>
    obtain ⟨s', r, hs, hnext⟩ := hstep h
    obtain ⟨hall, hend⟩ := ih hnext
    rw [List.map_cons, run_cons, commit_ok hs]
    exact ⟨.cons hs hall, hend⟩

/-! ### Simulation -/

variable {τ : Type y} {κ : Type z}

variable (step) in
/-- The labels of the committed steps of a run. -/
def labels (label : σ → α → Option κ) (s : σ) (as : List α) : List κ :=
  (history step s as).filterMap fun e => label e.1 e.2

theorem labels_snoc_ok {label : σ → α → Option κ} {s s' : σ} {as : List α} {a : α} {r : ρ}
    (h : step (run step s as) a = .ok (s', r)) :
    labels step label s (as ++ [a]) = labels step label s as ++ (label (run step s as) a).toList := by
  rw [labels, history_snoc_ok h, List.filterMap_append]
  cases hl : label (run step s as) a <;> simp [labels, hl]

theorem labels_snoc_error {label : σ → α → Option κ} {s : σ} {as : List α} {a : α} {e : ε}
    (h : step (run step s as) a = .error e) : labels step label s (as ++ [a]) = labels step label s as := by
  rw [labels, history_snoc_error h, labels]

/-- **The simulation rule**: if every committed step is a step of the abstract relation,
what the relation keeps holds of the labels of every run and the abstract state it ends in. -/
theorem run_simulation {I : σ → Prop} {f : σ → τ} {label : σ → α → Option κ}
    {R : τ → Option κ → τ → Prop} {P : List κ → τ → Prop}
    (hsim : ∀ {s a s' r}, I s → step s a = .ok (s', r) → I s' ∧ R (f s) (label s a) (f s'))
    (hkeep : ∀ {ls t l t'}, P ls t → R t l t' → P (ls ++ l.toList) t') {s : σ} (hs : I s)
    (h₀ : P [] (f s)) (as : List α) : P (labels step label s as) (f (run step s as)) := by
  have hinv : ∀ as, I (run step s as) := run_invariant (fun h h' => (hsim h h').1) hs
  refine run_induction (P := fun as s' => P (labels step label s as) (f s')) h₀ ?_ ?_ as
  · intro as a s' r hp hstep
    rw [labels_snoc_ok hstep]
    exact hkeep hp (hsim (hinv as) hstep).2
  · intro as a e hp hstep
    rwa [labels_snoc_error hstep]

end XrplBridge.Library
