import AgencLedger.App.Handled

/-!
# App/Approval — what an approval uses, and what was reviewed

A handler returns once its review is on the screen, and the main loop takes the next APDU.  The
command it brings replaces the one under review, and an approval uses what it finds.  So an approval
uses what was reviewed as long as no APDU disturbs the review.
-/

namespace AgencLedger

/-! ## Reviews that are not disturbed -/

/-- **The event does not disturb the review on the screen**: it is no APDU, or an empty one, or one
that brings the very message, path and mode reviewed, or the review is gone after it. -/
def App.Undisturbed (env : Env) (app : App) (event : Event) : Prop :=
  ∀ bytes memory frame reviewed, event = .apdu bytes memory frame → app.screen = .review reviewed →
    bytes = [] ∨ app.dataAfter env bytes = reviewed ∨
      ¬((app.step env event).running = true ∧ (app.step env event).screen = .review reviewed)

/-- The approvals so far used what was reviewed, and so will an approval of the review on the
screen. -/
structure App.Reviewed (app : App) : Prop where
  screen : app.running = true → ∀ reviewed, app.screen = .review reviewed →
    app.command.data = reviewed
  approvals : ∀ approval ∈ app.approvals, approval.used = approval.reviewed

section

variable {env : Env} {app : App}

/-- **What `review_choice` does**: it takes the review off the screen, and on approval uses the
command there is. -/
theorem reviewChoice_spec (memory confirm : Bool) (reviewed : CommandData) :
    (reviewChoice env memory confirm reviewed app).2.screen = .page ∧
      (reviewChoice env memory confirm reviewed app).2.approvals
        = app.approvals ++ if confirm then [⟨reviewed, app.command.data⟩] else [] := by
  unfold reviewChoice
  rcases confirm with _ | _
  · exact ⟨rfl, (List.append_nil _).symm⟩
  · simp only [if_true]
    split
    · unfold storePreviewFingerprint
      split
      · exact ⟨rfl, rfl⟩
      · split <;> exact ⟨rfl, rfl⟩
    · split <;> exact ⟨rfl, rfl⟩

theorem step_of_running (h : app.running = true) (event : Event) :
    app.step env event
      = { (app.react env event).2 with running := (app.react env event).1.returns } := by
  rw [App.step, if_pos h]

theorem step_of_not_running (h : app.running = false) (event : Event) :
    app.step env event = app := by
  rw [App.step, if_neg (by simp [h])]

/-- An APDU that is not empty goes to `handle_apdu`. -/
theorem react_apdu {bytes : List UInt8} (h : bytes ≠ []) (memory : Bool) (frame : ℕ → Hash) :
    app.react env (.apdu bytes memory frame) = handleApdu env frame memory bytes app := by
  rw [App.react, if_neg (by simpa using h)]

/-- A choice of the user keeps approvals true. -/
theorem reviewed_step_choice (h : app.Reviewed) (hrun : app.running = true)
    (confirm memory : Bool) : (app.step env (.choice confirm memory)).Reviewed := by
  rw [step_of_running hrun]
  simp only [App.react, App.choose]
  split
  · rename_i reviewed hscreen
    obtain ⟨hpage, happrovals⟩ := @reviewChoice_spec env app memory confirm reviewed
    refine ⟨fun _ reviewed' hreview => ?_, fun approval hmem => ?_⟩
    · simp only [hpage] at hreview
      cases hreview
    · simp only [happrovals, List.mem_append] at hmem
      rcases hmem with hold | hnew
      · exact h.approvals approval hold
      · split at hnew
        · obtain rfl := List.mem_singleton.mp hnew
          exact h.screen hrun reviewed hscreen
        · simp at hnew
  · split <;> exact ⟨fun _ _ hreview => (nomatch hreview), h.approvals⟩
  · exact ⟨fun _ _ hreview => (nomatch hreview), h.approvals⟩

/-- An APDU that does not disturb the review keeps approvals true. -/
theorem reviewed_step_apdu (h : app.Reviewed) (hrun : app.running = true) {bytes : List UInt8}
    {memory : Bool} {frame : ℕ → Hash} (hevent : app.Undisturbed env (.apdu bytes memory frame)) :
    (app.step env (.apdu bytes memory frame)).Reviewed := by
  rw [App.Undisturbed] at hevent
  rw [step_of_running hrun] at hevent ⊢
  by_cases hbytes : bytes = []
  · subst hbytes
    exact ⟨fun _ => h.screen hrun, h.approvals⟩
  rw [react_apdu hbytes] at hevent ⊢
  obtain ⟨command, previewState, hdata, hhandled⟩ :=
    handled_handleApdu env frame memory app bytes
  refine ⟨fun hreturns reviewed hscreen => ?_, fun approval hmem => ?_⟩
  · rcases hhandled.screen with hsame | hnew
    · -- the review is the one that was on the screen before
      rcases hevent bytes memory frame reviewed rfl (hsame.symm.trans hscreen)
        with hnil | hsent | hgone
      · exact absurd hnil hbytes
      · exact (hhandled.data_eq.trans hdata).trans hsent
      · exact absurd ⟨hreturns, hscreen⟩ hgone
    · exact (hnew reviewed hscreen).symm
  · refine h.approvals approval ?_
    rw [hhandled.approvals_eq] at hmem
    exact hmem

/-- **One undisturbed step keeps approvals true.** -/
theorem reviewed_step (h : app.Reviewed) {event : Event} (hevent : app.Undisturbed env event) :
    (app.step env event).Reviewed := by
  rcases hrun : app.running with _ | _
  · rw [step_of_not_running hrun]
    exact h
  · rcases event with ⟨bytes, memory, frame⟩ | ⟨confirm, memory⟩ | settings
    · exact reviewed_step_apdu h hrun hevent
    · exact reviewed_step_choice h hrun confirm memory
    · rw [step_of_running hrun]
      exact ⟨fun _ => h.screen hrun, h.approvals⟩

end

/-- An APDU that disturbs the review lets its approval use something else. -/
theorem undisturbed_of_approvals {env : Env} {app : App} {event : Event}
    (h : ∀ approval ∈ ((app.step env event).step env (.choice true true)).approvals,
      approval.used = approval.reviewed) : app.Undisturbed env event := by
  rintro bytes memory frame reviewed rfl -
  by_cases hgone : (app.step env (.apdu bytes memory frame)).running = true ∧
      (app.step env (.apdu bytes memory frame)).screen = .review reviewed
  · by_cases hbytes : bytes = []
    · exact .inl hbytes
    · obtain ⟨hrun', hscreen⟩ := hgone
      have hrun : app.running = true := by
        by_contra hstopped
        rw [Bool.not_eq_true] at hstopped
        rw [step_of_not_running hstopped, hstopped] at hrun'
        cases hrun'
      obtain ⟨command, previewState, hdata, hhandled⟩ :=
        handled_handleApdu env frame memory app bytes
      have hused := h ⟨reviewed, (app.step env (.apdu bytes memory frame)).command.data⟩ (by
        rw [step_of_running hrun']
        simp [App.react, App.choose, hscreen, (reviewChoice_spec _ _ _).2])
      refine .inr (.inl ?_)
      rw [step_of_running hrun, react_apdu hbytes] at hused
      rw [← hdata, ← hhandled.data_eq]
      exact hused
  · exact .inr (.inr hgone)

/-- An app that was started has approved nothing. -/
theorem reviewed_start (env : Env) (calledFromSwap : Bool) (swap : SwapValidated)
    (settings : AppSettings) : (App.start env calledFromSwap swap settings).Reviewed :=
  ⟨fun _ _ h => (nomatch h), fun _ h => (nomatch h)⟩

/-- **In an undisturbed run every approval uses what was reviewed**, in every state it reaches; and
a further event keeps that so for the next approval exactly when it does not disturb the review. -/
theorem approvals_of_undisturbed (env : Env) (calledFromSwap : Bool) (swap : SwapValidated)
    (settings : AppSettings) {events : List Event}
    (hrun : Run.Guarded (App.step env) (App.Undisturbed env)
      (App.start env calledFromSwap swap settings) events) :
    (∀ approval ∈ (Run.final (App.step env) (App.start env calledFromSwap swap settings)
        events).approvals, approval.used = approval.reviewed) ∧
      ∀ event, (Run.final (App.step env) (App.start env calledFromSwap swap settings)
          events).Undisturbed env event ↔
        ∀ approval ∈ (Run.final (App.step env) (App.start env calledFromSwap swap settings)
          (events ++ [event, .choice true true])).approvals,
            approval.used = approval.reviewed := by
  have hreviewed : (Run.final (App.step env) (App.start env calledFromSwap swap settings)
      events).Reviewed :=
    @Run.invariant _ _ _ _ _ App.Reviewed (fun _ _ h hevent => reviewed_step h hevent) _
      (reviewed_start env calledFromSwap swap settings) hrun
  refine ⟨hreviewed.approvals, fun event => ?_⟩
  rw [Run.final_append, Run.final_cons, Run.final_cons, Run.final_nil]
  constructor
  · intro hevent
    have hchoice : ∀ app : App, app.Undisturbed env (.choice true true) :=
      fun _ _ _ _ _ h => nomatch h
    exact (reviewed_step (reviewed_step hreviewed hevent) (hchoice _)).approvals
  · exact undisturbed_of_approvals

/-! ## A review that is disturbed -/

/-- An environment in which the messages here are signed. -/
def signingEnv : Env := .plain ⟨fun _ => none, fun _ => false, fun _ _ => none⟩ plainSigner

/-- The command to sign the off-chain message `hi`. -/
def offchainApdu : List UInt8 :=
  writeApdu 0x07 1 ([1] ++ plainPath ++ offchainMessageSigningDomain ++ [0]
    ++ List.replicate 32 0 ++ [0, 1] ++ plainSigner.data ++ [2, 0, 104, 105])

/-- The command to hand out a key without asking. -/
def getPubkeyApdu : List UInt8 := writeApdu 0x05 0 plainPath

/-- The app of the runs here. -/
def dashboardApp : App := .start signingEnv false .zero ⟨false, false, false⟩

/-- The message goes to review and is approved after an empty APDU. -/
def quietRun : List Event := [.plain offchainApdu, .plain [], .choice true true]

/-- A key is asked for while the message is under review. -/
def disturbedRun : List Event := [.plain offchainApdu, .plain getPubkeyApdu, .choice true true]

theorem guarded_quietRun :
    Run.Guarded (App.step signingEnv) (App.Undisturbed signingEnv) dashboardApp quietRun := by
  refine ⟨fun _ _ _ _ _ hscreen => (nomatch hscreen), fun _ _ _ _ hevent _ => .inl ?_,
    fun _ _ _ _ hevent => (nomatch hevent), trivial⟩
  exact (Event.apdu.inj hevent).1.symm

/-- The theorem on the quiet run, which has one approval. -/
theorem approvals_quietRun :
    (Run.final (App.step signingEnv) dashboardApp quietRun).approvals.length = 1 ∧
      (∀ approval ∈ (Run.final (App.step signingEnv) dashboardApp quietRun).approvals,
        approval.used = approval.reviewed) ∧
      ∀ event, (Run.final (App.step signingEnv) dashboardApp quietRun).Undisturbed
        signingEnv event ↔
        ∀ approval ∈ (Run.final (App.step signingEnv) dashboardApp
          (quietRun ++ [event, .choice true true])).approvals, approval.used = approval.reviewed :=
  ⟨by decide,
    approvals_of_undisturbed signingEnv false .zero ⟨false, false, false⟩ guarded_quietRun⟩

/-- **The approval of the disturbed review uses another message**: the empty one. -/
theorem disturbedRun_approvals :
    ¬∀ approval ∈ (Run.final (App.step signingEnv) dashboardApp disturbedRun).approvals,
      approval.used = approval.reviewed := by
  decide

end AgencLedger
