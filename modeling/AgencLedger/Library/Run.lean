import Mathlib.Data.List.Induction

/-!
# Library/Run — runs of a deterministic system, and invariants of the runs that keep a condition

A system takes one `step` for each event.  `Guarded step ok s es` says that the run on the events
`es` from `s` meets the condition `ok` at every step; what such steps preserve holds in every state
the run reaches.
-/

namespace Run

variable {S E : Type*}

/-- The state a run ends in. -/
def final (step : S → E → S) (s : S) (es : List E) : S := es.foldl step s

/-- Every step of the run meets the condition, seen from the state it starts in. -/
def Guarded (step : S → E → S) (ok : S → E → Prop) : S → List E → Prop
  | _, [] => True
  | s, e :: es => ok s e ∧ Guarded step ok (step s e) es

variable {step : S → E → S} {ok : S → E → Prop} {s : S}

@[simp] theorem final_nil : final step s [] = s := rfl

@[simp] theorem final_cons (e : E) (es : List E) :
    final step s (e :: es) = final step (step s e) es := rfl

theorem final_append (es fs : List E) :
    final step s (es ++ fs) = final step (final step s es) fs := List.foldl_append

@[simp] theorem guarded_nil : Guarded step ok s [] := trivial

@[simp] theorem guarded_cons {e : E} {es : List E} :
    Guarded step ok s (e :: es) ↔ ok s e ∧ Guarded step ok (step s e) es := Iff.rfl

theorem guarded_append {es fs : List E} :
    Guarded step ok s (es ++ fs) ↔ Guarded step ok s es ∧ Guarded step ok (final step s es) fs := by
  induction es generalizing s with
  | nil => simp
  | cons e es ih => simp [ih, and_assoc]

/-- A condition that always holds. -/
theorem guarded_of_forall (h : ∀ s e, ok s e) (es : List E) : Guarded step ok s es := by
  induction es generalizing s with
  | nil => trivial
  | cons e es ih => exact ⟨h s e, ih⟩

/-- A run without a condition. -/
theorem guarded_true (es : List E) : Guarded step (fun _ _ => True) s es :=
  guarded_of_forall (fun _ _ => trivial) es

/-- **What every guarded step preserves holds at the end of every guarded run.** -/
theorem invariant {inv : S → Prop} (hstep : ∀ s e, inv s → ok s e → inv (step s e))
    {es : List E} (hs : inv s) (hrun : Guarded step ok s es) : inv (final step s es) := by
  induction es generalizing s with
  | nil => exact hs
  | cons e es ih => exact ih (hstep s e hs hrun.1) hrun.2

/-- **What holds at the end of a run, and not at its start, was brought by one of its steps**, and
none of the steps behind it ends it: where a step that leaves it holding brings it, or keeps it and
does not end it. -/
theorem exists_origin_since {inv holds : S → Prop} {brings ends : S → E → Prop}
    (hinv : ∀ s e, inv s → ok s e → inv (step s e))
    (hstep : ∀ s e, inv s → ok s e → holds (step s e) → brings s e ∨ holds s ∧ ¬ends s e)
    (hs : inv s) (hnot : ¬holds s) {es : List E} (hrun : Guarded step ok s es)
    (h : holds (final step s es)) :
    ∃ before e after, es = before ++ e :: after ∧ brings (final step s before) e ∧
      Guarded step (fun s e => ¬ends s e) (step (final step s before) e) after := by
  induction es using List.reverseRecOn with
  | nil => exact absurd h hnot
  | append_singleton es e ih =>
      obtain ⟨hes, he, -⟩ := guarded_append.mp hrun
      rw [final_append] at h
      rcases hstep _ e (invariant hinv hs hes) he h with hbrings | ⟨hholds, hends⟩
      · exact ⟨es, e, [], rfl, hbrings, trivial⟩
      · obtain ⟨before, e', after, rfl, hbrings, hafter⟩ := ih hes hholds
        refine ⟨before, e', after ++ [e], by simp, hbrings,
          guarded_append.mpr ⟨hafter, ?_, trivial⟩⟩
        rw [final_append, final_cons] at hends
        exact hends

/-- The same of any run, where no other step can bring it. -/
theorem exists_origin {holds : S → Prop} {brings : S → E → Prop}
    (hstep : ∀ s e, holds (step s e) → brings s e ∨ holds s) (hs : ¬holds s) {es : List E}
    (h : holds (final step s es)) :
    ∃ before e after, es = before ++ e :: after ∧ brings (final step s before) e := by
  obtain ⟨before, e, after, hes, hbrings, -⟩ := @exists_origin_since S E step (fun _ _ => True) s
    (fun _ => True) holds brings (fun _ _ => False) (fun _ _ _ _ => trivial)
    (fun s e _ _ hholds => (hstep s e hholds).imp_right fun hold => ⟨hold, not_false⟩) trivial hs es
    (guarded_true es) h
  exact ⟨before, e, after, hes, hbrings⟩

end Run
