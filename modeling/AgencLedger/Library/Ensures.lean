import Mathlib.Tactic.Common

/-!
# Library/Ensures — what a step with a state and errors ensures when it does not fail

`Ensures P step Q` says that `step`, started where `P` holds, ends where `Q` holds of what it
returns, unless it fails.  The rules follow the way steps are put together.
-/

/-! ## Two steps in a row -/

section

variable {ε σ α β : Type} {step : StateT σ (Except ε) α}
  {next : α → StateT σ (Except ε) β} {s s' : σ}

theorem step_seq_of_ok {a : α} (h : step s = .ok (a, s')) : (step >>= next) s = next a s' := by
  change (step s >>= fun r => next r.1 r.2) = next a s'
  rw [h]
  rfl

theorem step_seq_of_error {e : ε} (h : step s = .error e) : (step >>= next) s = .error e := by
  change (step s >>= fun r => next r.1 r.2) = .error e
  rw [h]
  rfl

end

/-! ## What a step ensures -/

/-- **A step that does not fail leads from `P` to `Q`.** -/
def Ensures {ε σ α : Type} (P : σ → Prop) (step : StateT σ (Except ε) α) (Q : α → σ → Prop) :
    Prop :=
  ∀ s a s', P s → step s = .ok (a, s') → Q a s'

namespace Ensures

variable {ε σ α β : Type} {P : σ → Prop} {Q : α → σ → Prop} {R : β → σ → Prop} {p : Prop}
  {step : StateT σ (Except ε) α} {next : α → StateT σ (Except ε) β}

/-- Nothing is asked of a step whose outcome does not matter. -/
theorem any : Ensures P step fun _ _ => True := fun _ _ _ _ _ => trivial

theorem pure {a : α} (h : ∀ s, P s → Q a s) :
    Ensures P (Pure.pure a : StateT σ (Except ε) α) Q := by
  intro s b s' hs hb
  cases hb
  exact h s hs

theorem throw {e : ε} : Ensures P (MonadExcept.throw e : StateT σ (Except ε) α) Q :=
  fun _ _ _ _ h => nomatch h

theorem get {Q : σ → σ → Prop} (h : ∀ s, P s → Q s s) :
    Ensures P (MonadState.get : StateT σ (Except ε) σ) Q := by
  intro s t s' hs ht
  cases ht
  exact h s hs

/-- **Two steps in a row.** -/
theorem seq (hstep : Ensures P step Q) (hnext : ∀ a, Ensures (Q a) (next a) R) :
    Ensures P (step >>= next) R := by
  intro s b s' hs h
  rcases ha : step s with e | ⟨a, t⟩
  · rw [step_seq_of_error ha] at h
    cases h
  · rw [step_seq_of_ok ha] at h
    exact hnext a t b s' (hstep s a t hs ha) h

/-- A fact that is not about the state holds for all the steps that follow. -/
theorem of_and (h : p → Ensures P step Q) : Ensures (fun s => p ∧ P s) step Q :=
  fun s a s' hs hstep => h hs.1 s a s' hs.2 hstep

end Ensures

/-! ## Failing one way only -/

/-- **A step that fails only with `e`**, where `P` holds, and else keeps `P`.  As a class it is
found for a composite step from those of its parts. -/
class FailsOnly {ε σ α : Type} (P : σ → Prop) (e : ε) (step : StateT σ (Except ε) α) : Prop where
  error : ∀ {s e'}, P s → step s = .error e' → e' = e
  ok : ∀ {s a s'}, P s → step s = .ok (a, s') → P s'

namespace FailsOnly

variable {ε σ α β : Type} {P : σ → Prop} {e : ε} {step other : StateT σ (Except ε) α}
  {next : α → StateT σ (Except ε) β}

instance pure (a : α) : FailsOnly P e (Pure.pure a : StateT σ (Except ε) α) where
  error := fun _ h => nomatch h
  ok := fun hs h => by
    cases h
    exact hs

instance throw : FailsOnly P e (MonadExcept.throw e : StateT σ (Except ε) α) where
  error := fun _ h => (Except.error.inj h).symm
  ok := fun _ h => nomatch h

instance get : FailsOnly P e (MonadState.get : StateT σ (Except ε) σ) where
  error := fun _ h => nomatch h
  ok := fun hs h => by
    cases h
    exact hs

instance seq [hstep : FailsOnly P e step] [hnext : ∀ a, FailsOnly P e (next a)] :
    FailsOnly P e (step >>= next) where
  error := fun {s e'} hs h => by
    rcases hr : step s with e'' | ⟨a, s'⟩
    · rw [step_seq_of_error hr] at h
      cases h
      exact hstep.error hs hr
    · rw [step_seq_of_ok hr] at h
      exact (hnext a).error (hstep.ok hs hr) h
  ok := fun {s b s''} hs h => by
    rcases hr : step s with e'' | ⟨a, s'⟩
    · rw [step_seq_of_error hr] at h
      cases h
    · rw [step_seq_of_ok hr] at h
      exact (hnext a).ok (hstep.ok hs hr) h

/-- Two steps in a row, part by part. -/
theorem bind (hstep : FailsOnly P e step) (hnext : ∀ a, FailsOnly P e (next a)) :
    FailsOnly P e (step >>= next) :=
  seq

instance ite {c : Prop} [Decidable c] [hstep : FailsOnly P e step] [hother : FailsOnly P e other] :
    FailsOnly P e (if c then step else other) := by
  split
  · exact hstep
  · exact hother

end FailsOnly

/-! ## Handing out values -/

/-- **A step that keeps `P` and returns only values of `Q`.**  As a class it is found for a step
that another one calls. -/
class Yields {ε σ α : Type} (P : σ → Prop) (Q : α → Prop)
  (step : StateT σ (Except ε) α) : Prop where
  ensures : Ensures P step fun a s => Q a ∧ P s

namespace Yields

variable {ε σ α β : Type} {P : σ → Prop} {Q : α → Prop} {R : β → Prop}
  {step other : StateT σ (Except ε) α} {next : α → StateT σ (Except ε) β}

theorem pure {a : α} (h : Q a) : Yields P Q (Pure.pure a : StateT σ (Except ε) α) where
  ensures := .pure fun _ hs => ⟨h, hs⟩

theorem throw {e : ε} : Yields P Q (MonadExcept.throw e : StateT σ (Except ε) α) where
  ensures := .throw

/-- **Two steps in a row**: the second one is called with what the first one returns. -/
theorem seq [h : Yields P Q step] (hnext : ∀ a, Q a → Yields P R (next a)) :
    Yields P R (step >>= next) where
  ensures := h.ensures.seq fun a => .of_and fun ha => (hnext a ha).ensures

theorem ite {c : Prop} [Decidable c] (h : c → Yields P Q step) (h' : ¬c → Yields P Q other) :
    Yields P Q (if c then step else other) := by
  split
  · exact h ‹_›
  · exact h' ‹_›

end Yields
