import Mathlib.Data.List.Basic
import Mathlib.Tactic.GCongr

/-!
# Library/Grows — lists that grow by elements of a kind

`Grows P a b` says that `b` is `a` with elements put in between, all of which satisfy `P`.  It is a
congruence for the ways lists are put together, so a function whose parts grow with its argument
grows with it.
-/

/-- **The second list is the first one with elements of the kind put in.** -/
inductive Grows {α : Type*} (P : α → Prop) : List α → List α → Prop
  | nil : Grows P [] []
  | keep {x : α} {a b : List α} : Grows P a b → Grows P (x :: a) (x :: b)
  | add {x : α} {a b : List α} : P x → Grows P a b → Grows P a (x :: b)

namespace Grows

variable {α β : Type*} {P : α → Prop} {a b c d : List α}

@[refl, simp] theorem refl (a : List α) : Grows P a a := by
  induction a with
  | nil => exact .nil
  | cons x a ih => exact .keep ih

/-- Elements of the kind may come out of nothing. -/
theorem of_forall (h : ∀ x ∈ a, P x) : Grows P [] a := by
  induction a with
  | nil => exact .nil
  | cons x a ih =>
      obtain ⟨hx, ha⟩ := List.forall_mem_cons.mp h
      exact .add hx (ih ha)

@[gcongr] theorem append (hab : Grows P a b) (hcd : Grows P c d) : Grows P (a ++ c) (b ++ d) := by
  induction hab with
  | nil => exact hcd
  | keep _ ih => exact .keep ih
  | add hx _ ih => exact .add hx ih

theorem sublist (h : Grows P a b) : a.Sublist b := by
  induction h with
  | nil => exact .slnil
  | keep _ ih => exact .cons_cons _ ih
  | add _ _ ih => exact .cons _ ih

/-- **What was not there is of the kind.** -/
theorem mem_or {x : α} (h : Grows P a b) (hx : x ∈ b) : x ∈ a ∨ P x := by
  induction h with
  | nil => cases hx
  | keep _ ih =>
      rcases List.mem_cons.mp hx with rfl | hx
      · exact .inl List.mem_cons_self
      · exact (ih hx).imp_left (List.mem_cons_of_mem _)
  | add hP _ ih =>
      rcases List.mem_cons.mp hx with rfl | hx
      · exact .inr hP
      · exact ih hx

/-- Nothing is put in where nothing is of the kind. -/
theorem eq_of_forall_not (hP : ∀ x, ¬P x) (h : Grows P a b) : a = b := by
  induction h with
  | nil => rfl
  | keep _ ih => rw [ih]
  | add hx _ _ => exact absurd hx (hP _)

/-- An element that is not of the kind is in both lists or in none. -/
theorem mem_iff {x : α} (h : Grows P a b) (hx : ¬P x) : x ∈ a ↔ x ∈ b :=
  ⟨fun hmem => h.sublist.subset hmem, fun hmem => (h.mem_or hmem).resolve_right hx⟩

/-- The images grow, by images of elements of the kind. -/
theorem flatMap {Q : β → Prop} {f : α → List β} (hf : ∀ x, P x → ∀ y ∈ f x, Q y)
    (h : Grows P a b) : Grows Q (a.flatMap f) (b.flatMap f) := by
  induction h with
  | nil => exact .nil
  | keep _ ih => exact (refl _).append ih
  | add hx _ ih => exact (of_forall (hf _ hx)).append ih

/-- A list that grows by elements that do not end the prefix has a prefix that grows. -/
theorem takeWhile {p : α → Bool} (hp : ∀ x, P x → p x = true) (h : Grows P a b) :
    Grows P (a.takeWhile p) (b.takeWhile p) := by
  induction h with
  | nil => exact .nil
  | @keep x a b _ ih =>
      rw [List.takeWhile_cons, List.takeWhile_cons]
      split
      · exact .keep ih
      · exact .nil
  | add hx _ ih =>
      rw [List.takeWhile_cons, if_pos (hp _ hx)]
      exact .add hx ih

/-- One part there, the other one only if it is of the kind. -/
theorem of_ite {p q : Prop} [Decidable p] [Decidable q] (hpq : p → q) (h : ¬p → ∀ x ∈ a, P x) :
    Grows P (if p then a else []) (if q then a else []) := by
  by_cases hp : p
  · rw [if_pos hp, if_pos (hpq hp)]
  · rw [if_neg hp]
    split
    · exact of_forall (h hp)
    · exact .nil

end Grows
