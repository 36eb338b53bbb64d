import Mathlib.Data.List.Forall2
import Mathlib.Tactic.Common

/-!
# Texts that are read in one way

A format writes values one after the other, between structural characters: the *stops*. Two texts are
`Separable` if a reader who sees one of them followed by a stop cannot take it for the other, so that
what is written after them cannot blur where they end. Texts without stops are separable, and so are
texts that start differently, quoted texts, and enclosed sequences of separable texts: a format is
injective if its values are.

* `separable_of_free` — texts without stops;
* `Escaped.inj` — what stands between quotes, with escapes;
* `intercalate_inj` — sequences, item by item;
* `flatMap_injective` — a code none of whose words starts another.
-/

namespace XrplBridge.Library

universe u v

variable {α : Type u} {stop : α → Prop} {v w : List α}

/-! ### Separable texts -/

/-- Two texts that are not confused if a stop follows. -/
def Separable (stop : α → Prop) (v w : List α) : Prop :=
  ∀ ⦃c d : α⦄ ⦃r r' : List α⦄, stop c → stop d → v ++ c :: r = w ++ d :: r' → v = w

/-- Texts without stops. -/
theorem separable_of_free (hv : ∀ x ∈ v, ¬ stop x) (hw : ∀ x ∈ w, ¬ stop x) : Separable stop v w := by
  intro c d r r' hc hd h
  induction v generalizing w with
  | nil =>
    cases w with
    | nil => rfl
    | cons y w => exact absurd ((List.cons.inj h).1 ▸ hc) (hw y List.mem_cons_self)
  | cons x v ih =>
    cases w with
    | nil => exact absurd ((List.cons.inj h).1 ▸ hd) (hv x List.mem_cons_self)
    | cons y w =>
      obtain ⟨hhead, htail⟩ := List.cons.inj h
      rw [hhead, ih (fun x hx => hv x (List.mem_cons_of_mem _ hx)) (fun x hx => hw x (List.mem_cons_of_mem _ hx)) htail]

/-- Texts that start differently. -/
theorem separable_of_head {x y : α} (h : x ≠ y) : Separable stop (x :: v) (y :: w) := by
  intro c d r r' _ _ heq
  exact absurd (List.cons.inj heq).1 h

theorem Separable.append_left (h : Separable stop v w) (u : List α) : Separable stop (u ++ v) (u ++ w) := by
  intro c d r r' hc hd heq
  rw [List.append_assoc, List.append_assoc, List.append_cancel_left_eq] at heq
  rw [h hc hd heq]

/-- Texts that end by themselves: whatever follows, they are not confused. -/
def SelfEnding (v w : List α) : Prop := ∀ ⦃r r' : List α⦄, v ++ r = w ++ r' → v = w

theorem SelfEnding.separable (h : SelfEnding v w) : Separable stop v w := fun _ _ _ _ _ _ heq => h heq

/-- A stop ends separable texts. -/
theorem Separable.selfEnding (h : Separable stop v w) {c : α} (hc : stop c) : SelfEnding (v ++ [c]) (w ++ [c]) := by
  intro r r' heq
  rw [List.append_assoc, List.append_assoc] at heq
  rw [h hc hc heq]

theorem SelfEnding.cons (h : SelfEnding v w) (x : α) : SelfEnding (x :: v) (x :: w) := by
  intro r r' heq
  rw [h (List.cons.inj heq).2]

/-! ### Sequences -/

/-- **A sequence is read item by item**, if its items are separable and a stop stands between them. -/
theorem intercalate_inj {vs ws : List (List α)} (h : List.Forall₂ (Separable stop) vs ws) {sep c d : α}
    {r r' : List α} (hsep : stop sep) (hc : stop c) (hd : stop d)
    (heq : [sep].intercalate vs ++ c :: r = [sep].intercalate ws ++ d :: r') : vs = ws := by
  induction h with
  | nil => rfl
  | @cons v w vs ws hvw hrest ih =>
    cases hrest with
    | nil =>
      rw [List.intercalate_singleton, List.intercalate_singleton] at heq
      rw [hvw hc hd heq]
    | cons =>
      rw [List.intercalate_cons_cons, List.intercalate_cons_cons] at heq
      simp only [List.append_assoc, List.singleton_append] at heq
      obtain rfl := hvw hsep hsep heq
      rw [ih (List.cons.inj (List.append_cancel_left heq)).2]

/-! ### Quoted texts -/

/-- What may stand between quotes: characters that are neither the quote nor the escape, and escaped
ones. -/
inductive Escaped (quote escape : α) : List α → Prop
  | nil : Escaped quote escape []
  | plain {x : α} {v : List α} (notQuote : x ≠ quote) (notEscape : x ≠ escape) (rest : Escaped quote escape v) :
      Escaped quote escape (x :: v)
  | escaped {x : α} {v : List α} (rest : Escaped quote escape v) : Escaped quote escape (escape :: x :: v)

namespace Escaped

variable {quote escape : α}

theorem append (hv : Escaped quote escape v) (hw : Escaped quote escape w) : Escaped quote escape (v ++ w) := by
  induction hv with
  | nil => exact hw
  | plain hq he _ ih => exact .plain hq he ih
  | escaped _ ih => exact .escaped ih

/-- **A quoted text ends at its closing quote.** -/
theorem inj (hne : quote ≠ escape) (hv : Escaped quote escape v) (hw : Escaped quote escape w) {r r' : List α}
    (h : v ++ quote :: r = w ++ quote :: r') : v = w := by
  induction hv generalizing w with
  | nil =>
    cases hw with
    | nil => rfl
    | plain hq _ _ => exact absurd (List.cons.inj h).1.symm hq
    | escaped _ => exact absurd (List.cons.inj h).1 hne
  | plain hq he _ ih =>
    cases hw with
    | nil => exact absurd (List.cons.inj h).1 hq
    | plain _ _ hrest =>
      obtain ⟨hhead, htail⟩ := List.cons.inj h
      rw [hhead, ih hrest htail]
    | escaped _ => exact absurd (List.cons.inj h).1 he
  | escaped _ ih =>
    cases hw with
    | nil => exact absurd (List.cons.inj h).1.symm hne
    | plain _ he _ => exact absurd (List.cons.inj h).1.symm he
    | escaped hrest =>
      obtain ⟨hhead, htail⟩ := List.cons.inj (List.cons.inj h).2
      rw [hhead, ih hrest htail]

theorem selfEnding (hne : quote ≠ escape) (hv : Escaped quote escape v) (hw : Escaped quote escape w) :
    SelfEnding (v ++ [quote]) (w ++ [quote]) := by
  intro r r' heq
  rw [List.append_assoc, List.append_assoc] at heq
  rw [hv.inj hne hw heq]

end Escaped

/-! ### Codes -/

/-- **A code none of whose words starts another** is read word by word. -/
theorem flatMap_injective {β : Type v} {f : β → List α} (hne : ∀ a, f a ≠ []) (h : ∀ a b, f a <+: f b → a = b) :
    Function.Injective (List.flatMap f) := by
  intro xs ys heq
  induction xs generalizing ys with
  | nil =>
    cases ys with
    | nil => rfl
    | cons y ys => simp [hne y] at heq
  | cons x xs ih =>
    cases ys with
    | nil => simp [hne x] at heq
    | cons y ys =>
      rw [List.flatMap_cons, List.flatMap_cons] at heq
      obtain rfl : x = y := by
        have hx : f x <+: f x ++ xs.flatMap f := List.prefix_append _ _
        have hy : f y <+: f x ++ xs.flatMap f := heq ▸ List.prefix_append _ _
        rcases List.prefix_or_prefix_of_prefix hx hy with hxy | hyx
        · exact h x y hxy
        · exact (h y x hyx).symm
      rw [ih (List.append_cancel_left heq)]

end XrplBridge.Library
