import XrplBridge.Library.Transaction

/-!
# Runs in another order

When may the inputs of a machine be put in another order? Take a relation on states under
which the machine cannot tell them apart: in related states every input gets the same
answer, and leaves related states (`Respects`). Then runs from related states stay related
and give the same answers (`run_related`, `answers_related`). So it is enough to look at
two inputs next to each other, in the state that the first of them is taken in:
`run_perm` is the rule for all orders of a list of inputs.
-/

namespace XrplBridge.Library

universe u v w x y

variable {σ : Type u} {α : Type v} {ε : Type w} {ρ : Type x} {step : σ → α → Except ε (σ × ρ)}

/-- The states are related, and the answers the same. -/
def SameAnswer (R : σ → σ → Prop) (x x' : σ × ρ) : Prop := R x.1 x'.1 ∧ x.2 = x'.2

variable (step) in
/-- The machine cannot tell related states apart. -/
def Respects (R : σ → σ → Prop) : Prop := ∀ s s' a, R s s' → Alike (SameAnswer R) (step s a) (step s' a)

variable (step) in
/-- What a run answers to each of its inputs. -/
def answers (s : σ) : List α → List (Except ε ρ)
  | [] => []
  | a :: as => (step s a).map Prod.snd :: answers (commit step s a) as

variable {R : σ → σ → Prop} {s s' : σ}

theorem Alike.exists_of_ok {β : Type x} {β' : Type y} {S : β → β' → Prop} {x : Except ε β} {x' : Except ε β'} {b : β}
    (h : Alike S x x') (hx : x = .ok b) : ∃ b', x' = .ok b' ∧ S b b' := by
  cases h with
  | ok hs =>
    cases hx
    exact ⟨_, rfl, hs⟩
  | error e => cases hx

theorem Alike.exists_of_ok_right {β : Type x} {β' : Type y} {S : β → β' → Prop} {x : Except ε β} {x' : Except ε β'}
    {b' : β'} (h : Alike S x x') (hx : x' = .ok b') : ∃ b, x = .ok b ∧ S b b' := by
  cases h with
  | ok hs =>
    cases hx
    exact ⟨_, rfl, hs⟩
  | error e => cases hx

theorem Alike.isOk_eq {β : Type x} {β' : Type y} {S : β → β' → Prop} {x : Except ε β} {x' : Except ε β'}
    (h : Alike S x x') : x.isOk = x'.isOk := by
  cases h <;> rfl

theorem commit_related (hR : Respects step R) (h : R s s') (a : α) : R (commit step s a) (commit step s' a) := by
  have ha := hR s s' a h
  unfold commit
  generalize step s a = x at ha ⊢
  generalize step s' a = x' at ha ⊢
  cases ha with
  | ok hsame => exact hsame.1
  | error e => exact h

/-- Runs from related states end in related states. -/
theorem run_related (hR : Respects step R) (h : R s s') (as : List α) : R (run step s as) (run step s' as) := by
  induction as generalizing s s' with
  | nil => exact h
  | cons a as ih => exact ih (commit_related hR h a)

/-- They answer the same. -/
theorem answers_related (hR : Respects step R) (h : R s s') (as : List α) : answers step s as = answers step s' as := by
  induction as generalizing s s' with
  | nil => rfl
  | cons a as ih =>
    have hsame : (step s a).map Prod.snd = (step s' a).map Prod.snd := by
      have ha := hR s s' a h
      generalize step s a = x at ha ⊢
      generalize step s' a = x' at ha ⊢
      cases ha with
      | ok hsame => exact congrArg Except.ok hsame.2
      | error e => rfl
    rw [answers, answers, hsame, ih (commit_related hR h a)]

/-- **The rule of permutations**: the order of the inputs makes no difference, if that of any
two next to each other makes none. What is known of the state and the inputs to come
(`P`) has to be kept by every input taken. -/
theorem run_perm {P : σ → List α → Prop} (hR : Respects step R) (hequiv : Equivalence R)
    (htail : ∀ {s a as}, P s (a :: as) → P (commit step s a) as)
    (hperm : ∀ {s as bs}, as.Perm bs → P s as → P s bs)
    (hswap : ∀ {s a b as}, P s (a :: b :: as) → R (run step s [a, b]) (run step s [b, a]))
    {as bs : List α} (h : as.Perm bs) (hP : P s as) : R (run step s as) (run step s bs) := by
  induction h generalizing s with
  | nil => exact hequiv.refl _
  | cons a _ ih => exact ih (htail hP)
  | swap a b as => exact run_related hR (hswap hP) as
  | trans h₁ _ ih₁ ih₂ => exact hequiv.trans (ih₁ hP) (ih₂ (hperm h₁ hP))

end XrplBridge.Library
