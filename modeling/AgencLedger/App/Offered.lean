import AgencLedger.App.Warnings

/-!
# App/Offered — what the user can do to a review

While no APDU comes, a review on the screens stays what it is: the user turns its pages, goes on
from its warning, and answers it once.  Every page drawn meanwhile is a page of the same steps, and
whatever the user does, nothing is signed but what was put up, and that only on a confirmation.
-/

namespace AgencLedger

/-- The steps of a review, by what the frame of a call that draws one reads. -/
abbrev Steps : Type := (ℕ → Hash) → List (List Char × List Char)

/-- The user brings it about. -/
def UiEvent.ByUser : UiEvent → Prop
  | .apdu .. => False
  | _ => True

/-- **A review is offered**: that of the command there is, with these steps. -/
structure Ui.Offers (ui : Ui) (reviewed : CommandData) (shown : Steps) : Prop where
  running : ui.app.running = true
  screen : ui.app.screen = .review reviewed
  data : ui.app.command.data = reviewed
  view : ui.view.InReview
  shows : ∀ frame, ui.app.Shows frame ui.content (shown frame)

/-- Nothing is left to be answered. -/
structure Ui.Over (ui : Ui) : Prop where
  running : ui.app.running = true
  screens : ui.view = .page ∧ ui.app.screen = .page ∨ ui.view = .home ∧ ui.app.screen = .idle

/-- What a page of the review is drawn as. -/
def UiOutput.IsPage (shown : Steps) (event : UiEvent) (output : UiOutput) : Prop :=
  ∀ start count frame, event = .draw start count frame →
    output = .ignored ∨ output = .drawn (((shown frame).drop start).take count)

theorem UiOutput.isPage_of_ne {shown : Steps} {event : UiEvent} {output : UiOutput}
    (h : ∀ start count frame, event ≠ .draw start count frame) : output.IsPage shown event :=
  fun start count frame hevent => absurd hevent (h start count frame)

/-- What comes of a confirmation. -/
def App.signature (env : Env) (path : List UInt32) (message : List UInt8) : Outcome :=
  match env.sign path message with
  | none => .status .sdkException
  | some signature => .response signature.data

section

variable {env : Env} {wallet : Bool} {ui : Ui} {reviewed : CommandData} {shown : Steps}

/-- Behind the warning about tokens there is the review. -/
theorem exists_startMessageSigningReview (app : App) (content : ReviewContent) :
    ∃ warned title confirmation,
      startMessageSigningReview wallet app content = .review warned title confirmation := by
  unfold startMessageSigningReview
  split <;> exact ⟨_, _, _, rfl⟩

/-- A page of the review is drawn from its steps, and changes none of them. -/
theorem Ui.Offers.draw (h : ui.Offers reviewed shown) (start count : ℕ) (frame : ℕ → Hash) :
    (ui.react env wallet (.draw start count frame) = (.ignored, ui)) ∨
      ∃ ui', ui.react env wallet (.draw start count frame)
          = (.drawn (((shown frame).drop start).take count), ui') ∧
        ui'.Offers reviewed shown ∧ ui'.app.signed = ui.app.signed := by
  simp only [Ui.react]
  split
  · rename_i warned title confirmation hview
    split
    · rename_i hpage
      obtain ⟨pairs, buffers, slots, hpairs, -, hread⟩ := @read_page frame ui.app ui.content
        (shown frame) (h.shows frame) ui.slots start count hpage.2
        (hpage.1.trans ui.content.nbPairs_le)
      rw [hpairs]
      refine .inr ⟨{ ui with app := { ui.app with buffers }, slots }, ?_,
        ⟨h.running, h.screen, h.data, h.view, fun frame => (h.shows frame).with_buffers buffers⟩,
        rfl⟩
      exact Prod.ext (congrArg UiOutput.drawn hread) rfl
    · exact .inl rfl
  · exact .inl rfl

/-- The answer to a review, as the app gives it. -/
theorem reviewChoice_signed {app : App} (hpreview : app.command.isPreviewMode = false)
    (memory confirm : Bool) (reviewed : CommandData) :
    (reviewChoice env memory confirm reviewed app).1
        = (if confirm then App.signature env app.command.derivationPath app.command.message
          else .status .userRefusal) ∧
      (reviewChoice env memory confirm reviewed app).2.signed
        = app.signed ++ if confirm then [(app.command.derivationPath, app.command.message)]
          else [] := by
  cases confirm with
  | false => exact ⟨rfl, (List.append_nil _).symm⟩
  | true =>
      unfold reviewChoice App.signature
      simp only [if_true, App.resetTrustedInfo, App.resetDynamicTokenInfo, hpreview,
        App.setResultSignMessage, Bool.false_eq_true, if_false]
      cases env.sign app.command.derivationPath app.command.message <;> exact ⟨rfl, rfl⟩

/-- **The answer to the review**: a confirmation signs what was offered, a refusal nothing. -/
theorem Ui.Offers.answer (h : ui.Offers reviewed shown) (hpreview : reviewed.isPreviewMode = false)
    (confirm memory : Bool) :
    (ui.app.react env (.choice confirm memory)).1
        = (if confirm then App.signature env reviewed.derivationPath reviewed.message
          else .status .userRefusal) ∧
      (ui.passOn env (.choice confirm memory) .page).2.Over ∧
      (ui.passOn env (.choice confirm memory) .page).2.app.signed
        = ui.app.signed
          ++ if confirm then [(reviewed.derivationPath, reviewed.message)] else [] := by
  obtain rfl := h.data
  have hreact : ui.app.react env (.choice confirm memory)
      = reviewChoice env memory confirm ui.app.command.data ui.app := by
    simp only [App.react, App.choose, h.screen]
  obtain ⟨houtcome, hsigned⟩ :=
    @reviewChoice_signed env ui.app hpreview memory confirm ui.app.command.data
  have hpage := (@reviewChoice_spec env ui.app memory confirm ui.app.command.data).1
  rw [← hreact] at houtcome hsigned hpage
  refine ⟨houtcome, ⟨?_, .inl ⟨rfl, ?_⟩⟩, ?_⟩
  · rw [Ui.passOn, step_of_running h.running]
    change (ui.app.react env (.choice confirm memory)).1.returns = true
    rw [houtcome]
    cases confirm with
    | false => rfl
    | true =>
        unfold App.signature
        rw [if_pos rfl]
        split <;> rfl
  · rw [Ui.passOn, step_of_running h.running]
    exact hpage
  · rw [Ui.passOn, step_of_running h.running]
    exact hsigned

/-- **What an event of the user does to an offer**: it stands, or it is answered. -/
theorem Ui.Offers.step (h : ui.Offers reviewed shown) (hpreview : reviewed.isPreviewMode = false)
    {event : UiEvent} (huser : event.ByUser) :
    (ui.react env wallet event).1.IsPage shown event ∧
      ((ui.step env wallet event).Offers reviewed shown ∧
          (ui.step env wallet event).app.signed = ui.app.signed ∨
        (ui.step env wallet event).Over ∧ ((ui.step env wallet event).app.signed = ui.app.signed ∨
          (∃ memory, event = .choice true memory) ∧ (ui.step env wallet event).app.signed
            = ui.app.signed ++ [(reviewed.derivationPath, reviewed.message)])) := by
  rw [Ui.step, if_pos h.running]
  cases event with
  | apdu bytes memory frame => exact huser.elim
  | draw start count frame =>
      rcases @Ui.Offers.draw env wallet _ _ _ h start count frame with
        hignored | ⟨ui', hdrawn, hoffers, hsigned⟩
      · rw [hignored]
        exact ⟨fun _ _ _ _ => .inl rfl, .inl ⟨h, rfl⟩⟩
      · rw [hdrawn]
        refine ⟨fun start' count' frame' hevent => ?_, .inl ⟨hoffers, hsigned⟩⟩
        obtain ⟨rfl, rfl, rfl⟩ := UiEvent.draw.inj hevent
        exact .inr rfl
  | tokenWarningChoice cancel memory =>
      refine ⟨UiOutput.isPage_of_ne (by simp), ?_⟩
      simp only [Ui.react]
      split
      · cases cancel with
        | true =>
            obtain ⟨-, hover, hsigned⟩ := @Ui.Offers.answer env _ _ _ h hpreview false memory
            exact .inr ⟨hover, .inl (hsigned.trans (List.append_nil _))⟩
        | false =>
            exact .inl ⟨⟨h.running, h.screen, h.data, inReview_startMessageSigningReview _ _,
              h.shows⟩, rfl⟩
      · exact .inl ⟨h, rfl⟩
  | choice confirm memory =>
      refine ⟨UiOutput.isPage_of_ne (by simp), ?_⟩
      simp only [Ui.react]
      split
      · obtain ⟨-, hover, hsigned⟩ := @Ui.Offers.answer env _ _ _ h hpreview confirm memory
        cases confirm with
        | true => exact .inr ⟨hover, .inr ⟨⟨memory, rfl⟩, hsigned⟩⟩
        | false => exact .inr ⟨hover, .inl (hsigned.trans (List.append_nil _))⟩
      · rename_i hview
        have := h.view
        rw [hview] at this
        exact this.elim
      · exact .inl ⟨h, rfl⟩
  | close =>
      refine ⟨UiOutput.isPage_of_ne (by simp), ?_⟩
      simp only [Ui.react]
      split
      · rename_i hview
        have := h.view
        rw [hview] at this
        exact this.elim
      · exact .inl ⟨h, rfl⟩
  | setSettings settings =>
      refine ⟨UiOutput.isPage_of_ne (by simp), ?_⟩
      simp only [Ui.react]
      split
      · rename_i hview
        have := h.view
        rw [hview] at this
        exact this.elim
      · exact .inl ⟨h, rfl⟩

/-- Nothing comes of it any more. -/
theorem Ui.Over.step (h : ui.Over) {event : UiEvent} (huser : event.ByUser) :
    (ui.react env wallet event).1.IsPage shown event ∧ (ui.step env wallet event).Over ∧
      (ui.step env wallet event).app.signed = ui.app.signed := by
  rw [Ui.step, if_pos h.running]
  rcases h.screens with ⟨hview, hscreen⟩ | ⟨hview, hscreen⟩
  · have hclose : ui.app.step env (.choice false false)
        = { ui.app with screen := .idle, running := true } := by
      rw [step_of_running h.running]
      simp only [App.react, App.choose, hscreen]
      rfl
    cases event with
    | apdu bytes memory frame => exact huser.elim
    | close =>
        simp only [Ui.react, hview, Ui.passOn, hclose]
        exact ⟨UiOutput.isPage_of_ne (by simp), ⟨rfl, .inr ⟨rfl, rfl⟩⟩, trivial⟩
    | _ =>
        simp only [Ui.react, hview]
        exact ⟨fun _ _ _ _ => .inl rfl, h, trivial⟩
  · cases event with
    | apdu bytes memory frame => exact huser.elim
    | setSettings settings =>
        simp only [Ui.react, hview, Ui.passOn, step_of_running h.running]
        exact ⟨UiOutput.isPage_of_ne (by simp), ⟨rfl, .inr ⟨rfl, hscreen⟩⟩, rfl⟩
    | _ =>
        simp only [Ui.react, hview]
        exact ⟨fun _ _ _ _ => .inl rfl, h, trivial⟩

/-- **Whatever the user does with the review**: the pages drawn are pages of its steps, and nothing
is signed but what was offered, once, and on a confirmation; it is signed if the user goes on to the
review and confirms. -/
structure Ui.SignsAsShown (env : Env) (wallet : Bool) (ui : Ui) (path : List UInt32)
    (message : List UInt8) (shown : Steps) : Prop where
  pages : ∀ events event, (∀ e ∈ events, e.ByUser) → event.ByUser →
    ((Run.final (Ui.step env wallet) ui events).react env wallet event).1.IsPage shown event
  signed : ∀ events, (∀ e ∈ events, e.ByUser) →
    (Run.final (Ui.step env wallet) ui events).app.signed = ui.app.signed ∨
      (∃ memory, .choice true memory ∈ events) ∧
        (Run.final (Ui.step env wallet) ui events).app.signed = ui.app.signed ++ [(path, message)]
  signs : ∀ memory memory',
    ((ui.step env wallet (.tokenWarningChoice false memory)).react env wallet
      (.choice true memory')).1 = .outcome (App.signature env path message)

/-- The offer, or what has become of it. -/
theorem Ui.Offers.final (h : ui.Offers reviewed shown) (hpreview : reviewed.isPreviewMode = false)
    {events : List UiEvent} (huser : ∀ e ∈ events, e.ByUser) :
    (Run.final (Ui.step env wallet) ui events).Offers reviewed shown ∧
        (Run.final (Ui.step env wallet) ui events).app.signed = ui.app.signed ∨
      (Run.final (Ui.step env wallet) ui events).Over ∧
        ((Run.final (Ui.step env wallet) ui events).app.signed = ui.app.signed ∨
          (∃ memory, .choice true memory ∈ events) ∧
            (Run.final (Ui.step env wallet) ui events).app.signed
              = ui.app.signed ++ [(reviewed.derivationPath, reviewed.message)]) := by
  induction events using List.reverseRecOn with
  | nil => exact .inl ⟨h, rfl⟩
  | append_singleton events event ih =>
      obtain ⟨hevents, hevent⟩ := List.forall_mem_append.mp huser
      replace hevent := hevent event List.mem_cons_self
      rw [Run.final_append, Run.final_cons, Run.final_nil]
      have hconfirmed : (∃ memory, .choice true memory ∈ events) →
          ∃ memory, .choice true memory ∈ events ++ [event] :=
        Exists.imp fun _ => List.mem_append_left _
      rcases ih hevents with ⟨hoffers, hsame⟩ | ⟨hover, hsigned⟩
      · rcases (@Ui.Offers.step env wallet _ _ _ hoffers hpreview event hevent).2 with
          ⟨hoffers', hsame'⟩ | ⟨hover', hsame' | ⟨⟨memory, rfl⟩, hnew⟩⟩
        · exact .inl ⟨hoffers', hsame'.trans hsame⟩
        · exact .inr ⟨hover', .inl (hsame'.trans hsame)⟩
        · exact .inr ⟨hover', .inr ⟨⟨memory, by simp⟩, by rw [hnew, hsame]⟩⟩
      · obtain ⟨-, hover', hsame'⟩ := @Ui.Over.step env wallet _ shown hover event hevent
        rw [hsame']
        exact .inr ⟨hover', hsigned.imp_right fun ⟨hmem, hnew⟩ => ⟨hconfirmed hmem, hnew⟩⟩

/-- **An offer is signed as it is shown.** -/
theorem Ui.Offers.signsAsShown (h : ui.Offers reviewed shown)
    (hpreview : reviewed.isPreviewMode = false) :
    ui.SignsAsShown env wallet reviewed.derivationPath reviewed.message shown := by
  refine ⟨fun events event huser hevent => ?_, fun events huser => ?_, fun memory memory' => ?_⟩
  · rcases @Ui.Offers.final env wallet _ _ _ h hpreview events huser with
      ⟨hoffers, -⟩ | ⟨hover, -⟩
    · exact (hoffers.step hpreview hevent).1
    · exact (hover.step hevent).1
  · rcases @Ui.Offers.final env wallet _ _ _ h hpreview events huser with
      ⟨-, hsame⟩ | ⟨-, hsigned⟩
    · exact .inl hsame
    · exact hsigned
  · have hnext : ∃ ui', ui.step env wallet (.tokenWarningChoice false memory) = ui' ∧
        ui'.Offers reviewed shown ∧ ∃ warned title confirmation,
          ui'.view = .review warned title confirmation := by
      rw [Ui.step, if_pos h.running]
      have hview := h.view
      cases hnow : ui.view <;> rw [hnow] at hview <;> try exact hview.elim
      · simp only [Ui.react, hnow, Bool.false_eq_true, if_false]
        exact ⟨_, rfl, ⟨h.running, h.screen, h.data, inReview_startMessageSigningReview _ _,
          h.shows⟩, exists_startMessageSigningReview _ _⟩
      · simp only [Ui.react, hnow]
        exact ⟨_, rfl, h, _, _, _, hnow⟩
    obtain ⟨ui', hui', hoffers, warned, title, confirmation, hview⟩ := hnext
    rw [hui']
    simp only [Ui.react, hview, Ui.passOn]
    exact congrArg UiOutput.outcome (hoffers.answer hpreview true memory').1

end

end AgencLedger
