import AgencLedger.App.Approval
import AgencLedger.App.Screens

/-!
# App/Warnings — no approval without its warnings

A review that needs a warning is put up behind one: the library shows that of blind signing before
an advanced review, and the app asks by itself about transfer hooks and fees.  Over any run of the
screens, whatever was approved was put up by an APDU, and its warnings were there in between.
-/

namespace AgencLedger

/-! ## Views and screens -/

/-- The view is part of a review. -/
def View.InReview : View → Prop
  | .tokenWarning .. | .review .. => True
  | _ => False

/-- The view for what the main loop has on the screen. -/
def View.Matches (view : View) : Screen → Prop
  | .idle => view = .home
  | .review _ => view.InReview
  | .address => ∃ publicKeyStr, view = .address publicKeyStr
  | .page => view = .page

/-- **The screens are what the app under them takes them for.** -/
structure Ui.Synced (ui : Ui) : Prop where
  dashboard : ui.app.calledFromSwap = false
  view : ui.app.running = true → ui.view.Matches ui.app.screen

/-- The event puts up a review. -/
def Ui.Starts (env : Env) (ui : Ui) (event : UiEvent) : Prop :=
  ∃ bytes memory frame, event = .apdu bytes memory frame ∧ ui.app.running = true ∧
    (ui.app.react env (.apdu bytes memory frame)).1 = .pending ∧
    (ui.app.react env (.apdu bytes memory frame)).2.screen ≠ .address

/-- **What an event can do to a review**: put one up, leave it as it is, take it off, go on from a
warning to it, or approve it. -/
inductive Ui.Move (env : Env) (wallet : Bool) (ui ui' : Ui) : UiEvent → Prop
  | starts {event : UiEvent} (hstarts : ui.Starts env event)
      (hview : (ui'.view, ui'.content) = startReviewUi wallet ui'.app)
      (hscreen : ui'.app.screen = .review ui'.app.command.data)
      (hsummary : ui'.app.summary.Finalizable)
      (happrovals : ui'.app.approvals = ui.app.approvals) : Move env wallet ui ui' event
  | stays {event : UiEvent} (hstarts : ¬ui.Starts env event) (hview : ui'.view = ui.view)
      (hscreen : ui'.app.screen = ui.app.screen)
      (happrovals : ui'.app.approvals = ui.app.approvals) : Move env wallet ui ui' event
  | leaves {event : UiEvent} (hstarts : ¬ui.Starts env event) (hview : ¬ui'.view.InReview)
      (hmatches : ui'.view.Matches ui'.app.screen)
      (happrovals : ui'.app.approvals = ui.app.approvals) : Move env wallet ui ui' event
  | continues {memory : Bool} {title text : String} (hview : ui.view = .tokenWarning title text)
      (hview' : ui'.view = startMessageSigningReview wallet ui.app ui.content)
      (happ : ui'.app = ui.app) : Move env wallet ui ui' (.tokenWarningChoice false memory)
  | approves {memory warned : Bool} {title : String} {confirmation : Option String}
      {reviewed : CommandData} (hview : ui.view = .review warned title confirmation)
      (hscreen : ui.app.screen = .review reviewed) (hview' : ui'.view = .page)
      (hscreen' : ui'.app.screen = .page)
      (happrovals : ui'.app.approvals = ui.app.approvals ++ [⟨reviewed, ui.app.command.data⟩]) :
      Move env wallet ui ui' (.choice true memory)

section

variable {env : Env} {wallet : Bool} {ui : Ui}

theorem not_starts {event : UiEvent} (h : ∀ bytes memory frame, event ≠ .apdu bytes memory frame) :
    ¬ui.Starts env event := fun ⟨bytes, memory, frame, hevent, _⟩ => h bytes memory frame hevent

/-- An APDU, outside a swap. -/
theorem answered_react {app : App} (hswap : app.calledFromSwap = false) (bytes : List UInt8)
    (memory : Bool) (frame : ℕ → Hash) :
    Answered app.screen (app.react env (.apdu bytes memory frame)) := by
  by_cases hbytes : bytes = []
  · subst hbytes
    exact .of_sendSw _ (.inl rfl)
  rw [react_apdu hbytes]
  rcases handleApdu_cases env frame memory app bytes
    with ⟨command, sw, hanswer⟩ | ⟨command, instruction, -, -, -, hdispatch⟩
  · rw [hanswer]
    exact .of_sendSw _ (.inl rfl)
  · rw [hdispatch]
    by_cases hdelayed : instruction = .signMessageDelayed
    · rw [if_pos hdelayed]
      exact @answered_dispatch env frame memory { app with command } hswap instruction
    · rw [if_neg hdelayed]
      exact @answered_dispatch env frame memory (App.clearPreviewState { app with command }) hswap
        instruction

/-- It approves nothing, and does not change how the app was started. -/
theorem kept_react {app : App} (bytes : List UInt8) (memory : Bool) (frame : ℕ → Hash) :
    (app.react env (.apdu bytes memory frame)).2.approvals = app.approvals ∧
      (app.react env (.apdu bytes memory frame)).2.calledFromSwap = app.calledFromSwap := by
  by_cases hbytes : bytes = []
  · subst hbytes
    exact ⟨rfl, rfl⟩
  rw [react_apdu hbytes]
  obtain ⟨command, previewState, -, hhandled⟩ := handled_handleApdu env frame memory app bytes
  exact ⟨hhandled.approvals_eq, hhandled.calledFromSwap_eq⟩

theorem afterApdu_page {outcome : Outcome} (h : ui.app.screen = .page) :
    ui.afterApdu wallet outcome = { ui with view := .page } := by
  unfold Ui.afterApdu
  rw [h]
  cases outcome <;> rfl

theorem afterApdu_answered {outcome : Outcome} (hne : outcome ≠ .pending)
    (hpage : ui.app.screen ≠ .page) : ui.afterApdu wallet outcome = ui := by
  unfold Ui.afterApdu
  rcases hscreen : ui.app.screen with _ | reviewed | _ | _
  all_goals first
    | exact absurd hscreen hpage
    | cases outcome <;> first | rfl | exact absurd rfl hne

theorem afterApdu_review {reviewed : CommandData} (h : ui.app.screen = .review reviewed) :
    ui.afterApdu wallet .pending = { ui with
      view := (startReviewUi wallet ui.app).1, content := (startReviewUi wallet ui.app).2 } := by
  unfold Ui.afterApdu
  rw [h]

theorem afterApdu_address (h : ui.app.screen = .address) :
    ui.afterApdu wallet .pending = { ui with view := .address ui.app.publicKeyStr } := by
  unfold Ui.afterApdu
  rw [h]

/-- **An APDU puts up a review, leaves the one there is or takes it off.** -/
theorem move_apdu (h : ui.Synced) (hrun : ui.app.running = true) (bytes : List UInt8)
    (memory : Bool) (frame : ℕ → Hash) :
    ui.Move env wallet (ui.step env wallet (.apdu bytes memory frame))
      (.apdu bytes memory frame) := by
  obtain ⟨hpending, hanswered⟩ := @answered_react env ui.app h.dashboard bytes memory frame
  have hkept := (@kept_react env ui.app bytes memory frame).1
  have hstarts : ui.Starts env (.apdu bytes memory frame) ↔
      (ui.app.react env (.apdu bytes memory frame)).1 = .pending ∧
        (ui.app.react env (.apdu bytes memory frame)).2.screen ≠ .address := by
    refine ⟨fun ⟨bytes', memory', frame', hevent, _, hstarts⟩ => ?_,
      fun hstarts => ⟨bytes, memory, frame, rfl, hrun, hstarts⟩⟩
    obtain ⟨rfl, rfl, rfl⟩ := UiEvent.apdu.inj hevent
    exact hstarts
  rw [Ui.step, if_pos hrun]
  simp only [Ui.react, step_of_running hrun]
  rcases hreact : ui.app.react env (.apdu bytes memory frame) with ⟨outcome, app'⟩
  rw [hreact] at hpending hanswered hkept hstarts
  simp only at hpending hanswered hkept hstarts ⊢
  by_cases hnow : outcome = .pending
  · subst hnow
    rcases hpending rfl with ⟨hscreen, hsummary⟩ | hscreen
    · rw [afterApdu_review hscreen]
      exact .starts (hstarts.mpr ⟨rfl, by rw [hscreen]; simp⟩) rfl hscreen hsummary hkept
    · rw [afterApdu_address hscreen]
      exact .leaves (fun hs => (hstarts.mp hs).2 hscreen) id (by rw [hscreen]; exact ⟨_, rfl⟩) hkept
  · have hnot : ¬ui.Starts env (.apdu bytes memory frame) := fun hs => hnow (hstarts.mp hs).1
    by_cases hpage : app'.screen = .page
    · rw [afterApdu_page hpage]
      exact .leaves hnot id (by rw [hpage]; rfl) hkept
    · rw [afterApdu_answered hnow hpage]
      exact .stays hnot rfl ((hanswered hnow).resolve_right hpage) hkept

/-- Asking for pairs touches the buffers only. -/
theorem getReviewPairs_app {frame : ℕ → Hash} {content : ReviewContent} {app app' : App}
    {slots slots' : List DynamicSlot} {indices : List UInt8} {pairs : List ReviewPair}
    (h : getReviewPairs frame content app slots indices = some (pairs, app', slots')) :
    app' = { app with buffers := app'.buffers } := by
  have hone : ∀ {app app' : App} {slots slots' : List DynamicSlot} {index : UInt8}
      {pair : ReviewPair}, getReviewPair frame content app slots index = some (pair, app', slots') →
        app' = { app with buffers := app'.buffers } := by
    intro app app' slots slots' index pair hpair
    simp only [getReviewPair] at hpair
    split at hpair
    · cases hpair
      rfl
    · split at hpair
      · cases hpair
      · cases hpair
        rfl
  induction indices generalizing app slots pairs with
  | nil =>
      cases h
      rfl
  | cons index indices ih =>
      obtain ⟨⟨pair, app₁, slots₁⟩, hpair, h⟩ := Option.bind_eq_some_iff.mp h
      obtain ⟨⟨rest, app₂, slots₂⟩, hrest, h⟩ := Option.bind_eq_some_iff.mp h
      cases h
      have happ₁ := hone hpair
      have happ := ih hrest
      rw [happ₁] at happ
      exact happ

/-- A view of a review is there for a review. -/
theorem View.Matches.review {view : View} {screen : Screen} (h : view.Matches screen)
    (hview : view.InReview) : ∃ reviewed, screen = .review reviewed := by
  cases screen with
  | review reviewed => exact ⟨reviewed, rfl⟩
  | idle | page =>
      rw [show view = _ from h] at hview
      exact hview.elim
  | address =>
      obtain ⟨text, rfl⟩ := h
      exact hview.elim

theorem View.Matches.address {text : List Char} {screen : Screen}
    (h : (View.address text).Matches screen) : screen = .address := by
  cases screen with
  | address => rfl
  | review reviewed => exact h.elim
  | idle | page => cases h

theorem View.Matches.page {screen : Screen} (h : View.page.Matches screen) : screen = .page := by
  cases screen with
  | page => rfl
  | review reviewed => exact h.elim
  | idle => cases h
  | address =>
      obtain ⟨text, htext⟩ := h
      cases htext

/-- The answer to a review takes it off the screen. -/
theorem choice_of_review (hrun : ui.app.running = true) {reviewed : CommandData}
    (hscreen : ui.app.screen = .review reviewed) (confirm memory : Bool) :
    (ui.app.step env (.choice confirm memory)).screen = .page ∧
      (ui.app.step env (.choice confirm memory)).approvals
        = ui.app.approvals ++ if confirm then [⟨reviewed, ui.app.command.data⟩] else [] := by
  rw [step_of_running hrun]
  simp only [App.react, App.choose, hscreen]
  exact @reviewChoice_spec env ui.app memory confirm reviewed

theorem leaves_of_page {ui' : Ui} {event : UiEvent} (hnot : ¬ui.Starts env event)
    (hview : ui'.view = .page) (hscreen : ui'.app.screen = .page)
    (happrovals : ui'.app.approvals = ui.app.approvals) : ui.Move env wallet ui' event :=
  .leaves hnot (by rw [hview]; exact id) (by rw [hview, hscreen]; rfl) happrovals

/-- **What the user can do to a review.** -/
theorem move_step (h : ui.Synced) (event : UiEvent) :
    ui.Move env wallet (ui.step env wallet event) event := by
  rcases hrun : ui.app.running with _ | _
  · rw [Ui.step, if_neg (by simp [hrun])]
    exact .stays (fun ⟨_, _, _, _, hrun', _⟩ => by simp [hrun] at hrun') rfl rfl rfl
  have hmatches := h.view hrun
  cases event with
  | apdu bytes memory frame => exact move_apdu h hrun bytes memory frame
  | tokenWarningChoice cancel memory =>
      have hnot : ¬ui.Starts env (.tokenWarningChoice cancel memory) := not_starts (by simp)
      rw [Ui.step, if_pos hrun]
      simp only [Ui.react]
      split
      · rename_i title text hview
        obtain ⟨reviewed, hscreen⟩ := hmatches.review (by rw [hview]; trivial)
        obtain ⟨hpage, happrovals⟩ := @choice_of_review env ui hrun reviewed hscreen false memory
        cases cancel with
        | true =>
            exact leaves_of_page hnot rfl hpage (happrovals.trans (List.append_nil _))
        | false => exact .continues hview rfl rfl
      · exact .stays hnot rfl rfl rfl
  | choice confirm memory =>
      have hnot : ¬ui.Starts env (.choice confirm memory) := not_starts (by simp)
      rw [Ui.step, if_pos hrun]
      simp only [Ui.react]
      split
      · rename_i warned title confirmation hview
        obtain ⟨reviewed, hscreen⟩ := hmatches.review (by rw [hview]; trivial)
        obtain ⟨hpage, happrovals⟩ := @choice_of_review env ui hrun reviewed hscreen confirm memory
        cases confirm with
        | true => exact .approves hview hscreen rfl hpage happrovals
        | false =>
            exact leaves_of_page hnot rfl hpage (happrovals.trans (List.append_nil _))
      · rename_i text hview
        rw [hview] at hmatches
        have hscreen := hmatches.address
        have hstep : (ui.app.step env (.choice confirm memory)).screen = .page ∧
            (ui.app.step env (.choice confirm memory)).approvals = ui.app.approvals := by
          rw [step_of_running hrun]
          simp only [App.react, App.choose, hscreen]
          cases confirm <;> exact ⟨rfl, rfl⟩
        exact leaves_of_page hnot rfl hstep.1 hstep.2
      · exact .stays hnot rfl rfl rfl
  | draw start count frame =>
      have hnot : ¬ui.Starts env (.draw start count frame) := not_starts (by simp)
      rw [Ui.step, if_pos hrun]
      simp only [Ui.react]
      split
      · split
        · split
          · exact .stays hnot rfl rfl rfl
          · rename_i pairs app slots hpairs
            have happ := getReviewPairs_app hpairs
            have hscreen := congrArg App.screen happ
            have happrovals := congrArg App.approvals happ
            exact .stays hnot rfl hscreen happrovals
        · exact .stays hnot rfl rfl rfl
      · exact .stays hnot rfl rfl rfl
  | close =>
      have hnot : ¬ui.Starts env .close := not_starts (by simp)
      rw [Ui.step, if_pos hrun]
      simp only [Ui.react]
      split
      · rename_i hview
        rw [hview] at hmatches
        have hscreen := hmatches.page
        have hstep : (ui.app.step env (.choice false false)).screen = .idle ∧
            (ui.app.step env (.choice false false)).approvals = ui.app.approvals := by
          rw [step_of_running hrun]
          simp only [App.react, App.choose, hscreen]
          exact ⟨trivial, trivial⟩
        refine .leaves hnot id ?_ hstep.2
        change View.home.Matches (ui.app.step env (.choice false false)).screen
        rw [hstep.1]
        rfl
      · exact .stays hnot rfl rfl rfl
  | setSettings settings =>
      have hnot : ¬ui.Starts env (.setSettings settings) := not_starts (by simp)
      rw [Ui.step, if_pos hrun]
      simp only [Ui.react]
      split
      · rename_i hview
        have hstep : ui.app.step env (.setSettings settings)
            = { { ui.app with settings } with running := true } := step_of_running hrun _
        exact .stays hnot hview.symm (by rw [Ui.passOn, hstep]) (by rw [Ui.passOn, hstep])
      · exact .stays hnot rfl rfl rfl

/-! ## The app under the screens -/

/-- **The event that the screens pass on** to the app. -/
def Ui.passed (ui : Ui) : UiEvent → Option Event
  | .apdu bytes memory frame => some (.apdu bytes memory frame)
  | .tokenWarningChoice cancel memory =>
      match ui.view with
      | .tokenWarning .. => if cancel then some (.choice false memory) else none
      | _ => none
  | .choice confirm memory =>
      match ui.view with
      | .review .. | .address _ => some (.choice confirm memory)
      | _ => none
  | .draw .. => none
  | .close =>
      match ui.view with
      | .page => some (.choice false false)
      | _ => none
  | .setSettings settings =>
      match ui.view with
      | .home => some (.setSettings settings)
      | _ => none

/-- **The screens refine the app**: under an event the app takes the step that is passed on, or none
but for its display buffers, or is left. -/
theorem app_step (event : UiEvent) :
    (∃ passed, ui.passed event = some passed ∧ (ui.step env wallet event).app
        = ui.app.step env passed) ∨
      ui.passed event = none ∧
        ((∃ buffers, (ui.step env wallet event).app = { ui.app with buffers }) ∨
          (ui.step env wallet event).app = { ui.app with running := false }) ∨
      ui.app.running = false ∧ ui.step env wallet event = ui := by
  rcases hrun : ui.app.running with _ | _
  · exact .inr (.inr ⟨rfl, by rw [Ui.step, if_neg (by simp [hrun])]⟩)
  have hsame : ∀ {ui' : Ui}, ui' = ui → ∃ buffers, ui'.app = { ui.app with buffers } :=
    fun h => ⟨ui.app.buffers, by rw [h]⟩
  rw [Ui.step, if_pos hrun]
  cases event with
  | apdu bytes memory frame =>
      refine .inl ⟨_, rfl, ?_⟩
      simp only [Ui.react, Ui.afterApdu]
      split <;> rfl
  | tokenWarningChoice cancel memory =>
      cases hview : ui.view <;> simp only [Ui.react, Ui.passed, hview]
      case tokenWarning =>
        cases cancel with
        | true => exact .inl ⟨_, rfl, rfl⟩
        | false => exact .inr (.inl ⟨rfl, .inl ⟨ui.app.buffers, rfl⟩⟩)
      all_goals exact .inr (.inl ⟨trivial, .inl (hsame rfl)⟩)
  | choice confirm memory =>
      cases hview : ui.view <;> simp only [Ui.react, Ui.passed, hview]
      case review | address => exact .inl ⟨_, rfl, rfl⟩
      all_goals exact .inr (.inl ⟨trivial, .inl (hsame rfl)⟩)
  | draw start count frame =>
      simp only [Ui.react, Ui.passed]
      refine .inr (.inl ⟨trivial, ?_⟩)
      split
      · split
        · split
          · exact .inr rfl
          · rename_i hpairs
            exact .inl ⟨_, getReviewPairs_app hpairs⟩
        · exact .inl (hsame rfl)
      · exact .inl (hsame rfl)
  | close =>
      cases hview : ui.view <;> simp only [Ui.react, Ui.passed, hview]
      case page => exact .inl ⟨_, rfl, rfl⟩
      all_goals exact .inr (.inl ⟨trivial, .inl (hsame rfl)⟩)
  | setSettings settings =>
      cases hview : ui.view <;> simp only [Ui.react, Ui.passed, hview]
      case home => exact .inl ⟨_, rfl, rfl⟩
      all_goals exact .inr (.inl ⟨trivial, .inl (hsame rfl)⟩)

/-- **What the app keeps it keeps under the screens.** -/
theorem invariant_screens {inv : App → Prop} {ok : App → Event → Prop}
    (hstep : ∀ app event, inv app → ok app event → inv (app.step env event))
    (hbuffers : ∀ (app : App) buffers, inv app → inv { app with buffers })
    (hexit : ∀ app : App, inv app → inv { app with running := false }) {events : List UiEvent}
    (h : inv ui.app)
    (hok : Run.Guarded (Ui.step env wallet)
      (fun ui event => ∀ passed, ui.passed event = some passed → ok ui.app passed) ui events) :
    inv (Run.final (Ui.step env wallet) ui events).app := by
  refine @Run.invariant Ui UiEvent _ _ _ (fun ui => inv ui.app) (fun ui event h hok => ?_) _ h hok
  rcases @app_step env wallet ui event with
    ⟨passed, hpassed, happ⟩ | ⟨-, ⟨buffers, happ⟩ | happ⟩ | ⟨-, hsame⟩
  · rw [happ]
    exact hstep ui.app passed h (hok passed hpassed)
  · rw [happ]
    exact hbuffers ui.app buffers h
  · rw [happ]
    exact hexit ui.app h
  · rw [hsame]
    exact h

/-- How the app was started does not change. -/
theorem calledFromSwap_step (app : App) (event : Event) :
    (app.step env event).calledFromSwap = app.calledFromSwap := by
  rcases hrun : app.running with _ | _
  · rw [step_of_not_running hrun]
  rw [step_of_running hrun]
  rcases event with ⟨bytes, memory, frame⟩ | ⟨confirm, memory⟩ | settings
  · exact (@kept_react env app bytes memory frame).2
  · simp only [App.react, App.choose]
    split
    · unfold reviewChoice
      cases confirm with
      | false => rfl
      | true =>
          simp only [if_true]
          split
          · unfold storePreviewFingerprint
            split
            · rfl
            · split <;> rfl
          · split <;> rfl
    · cases confirm <;> rfl
    · rfl
  · rfl

theorem inReview_startMessageSigningReview (app : App) (content : ReviewContent) :
    (startMessageSigningReview wallet app content).InReview := by
  unfold startMessageSigningReview
  split <;> trivial

theorem inReview_startReviewUi (app : App) : (startReviewUi wallet app).1.InReview := by
  unfold startReviewUi startSignOffchainMessageUi startSignMessageUi
  simp only
  repeat' split
  all_goals trivial

/-- **The screens stay what the app takes them for.** -/
theorem synced_step (h : ui.Synced) (event : UiEvent) : (ui.step env wallet event).Synced := by
  refine ⟨?_, fun hrun' => ?_⟩
  · rcases @app_step env wallet ui event with
      ⟨passed, -, happ⟩ | ⟨-, ⟨buffers, happ⟩ | happ⟩ | ⟨-, hsame⟩
    · rw [happ, calledFromSwap_step]
      exact h.dashboard
    · rw [happ]
      exact h.dashboard
    · rw [happ]
      exact h.dashboard
    · rw [hsame]
      exact h.dashboard
  · have hrun : ui.app.running = true := by
      by_contra hstopped
      rw [Ui.step, if_neg hstopped] at hrun'
      exact hstopped hrun'
    rcases @move_step env wallet ui h event with
      ⟨-, hview, hscreen, -, -⟩ | ⟨-, hview, hscreen, -⟩ | ⟨-, -, hmatches, -⟩ |
        ⟨hview, hview', happ⟩ | ⟨-, -, hview', hscreen', -⟩
    · have hstarted : (ui.step env wallet event).view = _ := congrArg Prod.fst hview
      rw [hscreen, hstarted]
      exact inReview_startReviewUi _
    · rw [hview, hscreen]
      exact h.view hrun
    · exact hmatches
    · obtain ⟨reviewed, hscreen⟩ := (h.view hrun).review (by rw [hview]; trivial)
      rw [happ, hscreen, hview']
      exact inReview_startMessageSigningReview _ _
    · rw [hview', hscreen']
      rfl

theorem synced_start (settings : AppSettings) (slots : List DynamicSlot) :
    (Ui.start env settings slots).Synced := ⟨rfl, fun _ => rfl⟩

theorem synced_final (settings : AppSettings) (slots : List DynamicSlot) (events : List UiEvent) :
    (Run.final (Ui.step env wallet) (Ui.start env settings slots) events).Synced :=
  @Run.invariant _ _ _ _ _ Ui.Synced (fun _ event h _ => synced_step h event) _
    (synced_start settings slots) (Run.guarded_true events)

end

/-! ## Warnings -/

/-- The review put up is one that is signed blindly. -/
def Ui.BlindSigning (ui : Ui) : Prop :=
  if ui.app.command.instruction = some .signOffchainMessage then
    isDataAscii ui.app.command.offchainContent = false
  else ui.app.summary.isBlindSigning = true

/-- The review put up is one of tokens with extensions that have to be warned of. -/
def Ui.TokenWarning (ui : Ui) : Prop :=
  ui.app.command.instruction ≠ some .signOffchainMessage ∧ ui.app.summary.isBlindSigning = false ∧
    (ui.app.summary.hookWarning = true ∨ ui.app.summary.feeWarning = true)

section

variable {env : Env} {wallet : Bool} {ui started : Ui}

/-- **A review that is signed blindly starts with the library's warning.** -/
theorem startReviewUi_of_blindSigning (h : ui.BlindSigning) :
    ∃ title confirmation, (startReviewUi wallet ui.app).1 = .review true title confirmation := by
  unfold Ui.BlindSigning at h
  unfold startReviewUi
  split at h
  · rename_i hins
    simp only [if_pos hins, startSignOffchainMessageUi, h]
    exact ⟨_, _, rfl⟩
  · rename_i hins
    simp only [if_neg hins, startSignMessageUi, h]
    exact ⟨_, _, rfl⟩

/-- A warning about tokens comes before the review. -/
theorem startReviewUi_of_tokenWarning (h : ui.TokenWarning) :
    ∃ title text, (startReviewUi wallet ui.app).1 = .tokenWarning title text := by
  obtain ⟨hins, hblind, hwarning⟩ := h
  unfold startReviewUi
  simp only [if_neg hins, startSignMessageUi, hblind, Bool.false_eq_true, if_false]
  by_cases hhook : ui.app.summary.hookWarning = true
  · rw [if_pos hhook]
    exact ⟨_, _, rfl⟩
  · rw [if_neg hhook, if_pos (hwarning.resolve_left hhook)]
    exact ⟨_, _, rfl⟩

/-- A review of `started`, some events later. -/
structure Ui.FollowsFrom (started ui : Ui) (events : List UiEvent) : Prop where
  screen : ui.app.screen = started.app.screen
  view : ui.view = started.view ∨
    (∃ title text, started.view = .tokenWarning title text) ∧
      ∃ memory, .tokenWarningChoice false memory ∈ events

/-- **Until another one is put up**, a review is the one that was, and past its warning only once
the user went on. -/
theorem followsFrom_of_guarded (h : started.Synced) {events : List UiEvent}
    (hrun : Run.Guarded (Ui.step env wallet) (fun ui event => ¬ui.Starts env event) started events)
    (hview : (Run.final (Ui.step env wallet) started events).view.InReview) :
    started.FollowsFrom (Run.final (Ui.step env wallet) started events) events := by
  induction events using List.reverseRecOn with
  | nil => exact ⟨rfl, .inl rfl⟩
  | append_singleton events event ih =>
      obtain ⟨hevents, hevent, -⟩ := Run.guarded_append.mp hrun
      rw [Run.final_append, Run.final_cons, Run.final_nil] at hview ⊢
      have hsynced : (Run.final (Ui.step env wallet) started events).Synced :=
        @Run.invariant _ _ _ _ _ Ui.Synced (fun _ event h _ => synced_step h event) _ h hevents
      generalize Run.final (Ui.step env wallet) started events = ui at *
      rcases @move_step env wallet ui hsynced event with
        ⟨hstarts, -, -, -, -⟩ | ⟨-, hsame, hscreen, -⟩ | ⟨-, hleft, -, -⟩ |
          ⟨hold, -, happ⟩ | ⟨-, -, hpage, -, -⟩
      · exact absurd hstarts hevent
      · obtain ⟨hscreen', hview'⟩ := ih hevents (by rwa [hsame] at hview)
        refine ⟨hscreen.trans hscreen', ?_⟩
        rw [hsame]
        exact hview'.imp_right fun ⟨hwarning, memory, hmem⟩ =>
          ⟨hwarning, memory, List.mem_append_left _ hmem⟩
      · exact absurd hview hleft
      · obtain ⟨hscreen', hview'⟩ := ih hevents (by rw [hold]; trivial)
        refine ⟨(congrArg App.screen happ).trans hscreen', .inr ⟨?_, _,
          List.mem_append_right _ List.mem_cons_self⟩⟩
        exact hview'.elim (fun hsame => ⟨_, _, hsame.symm.trans hold⟩) And.left
      · rw [hpage] at hview
        exact hview.elim

/-- A started review is that of its command. -/
theorem started_of_starts (h : ui.Synced) {bytes : List UInt8} {memory : Bool} {frame : ℕ → Hash}
    (hstarts : ui.Starts env (.apdu bytes memory frame)) :
    (ui.step env wallet (.apdu bytes memory frame)).view
        = (startReviewUi wallet (ui.step env wallet (.apdu bytes memory frame)).app).1 ∧
      (ui.step env wallet (.apdu bytes memory frame)).app.screen
        = .review (ui.step env wallet (.apdu bytes memory frame)).app.command.data := by
  rcases @move_step env wallet ui h (.apdu bytes memory frame) with
    ⟨-, hview, hscreen, -, -⟩ | ⟨hnot, -, -, -⟩ | ⟨hnot, -, -, -⟩
  · exact ⟨congrArg Prod.fst hview, hscreen⟩
  · exact absurd hstarts hnot
  · exact absurd hstarts hnot

/-- **A review was put up by an APDU**, and no other since. -/
theorem exists_started {settings : AppSettings} {slots : List DynamicSlot} {events : List UiEvent}
    (h : (Run.final (Ui.step env wallet) (.start env settings slots) events).view.InReview) :
    ∃ before event after, events = before ++ event :: after ∧
      (Run.final (Ui.step env wallet) (.start env settings slots) before).Starts env event ∧
      Run.Guarded (Ui.step env wallet) (fun ui event => ¬ui.Starts env event)
        ((Run.final (Ui.step env wallet) (.start env settings slots) before).step env wallet event)
        after := by
  refine @Run.exists_origin_since Ui UiEvent (Ui.step env wallet) (fun _ _ => True) _ Ui.Synced
    (fun ui => ui.view.InReview) (Ui.Starts env) (Ui.Starts env)
    (fun _ event h _ => synced_step h event) (fun ui event hsynced _ hview => ?_)
    (synced_start settings slots) id _ (Run.guarded_true events) h
  rcases @move_step env wallet ui hsynced event with
    ⟨hstarts, -, -, -, -⟩ | ⟨hnot, hsame, -, -⟩ | ⟨-, hleft, -, -⟩ |
      ⟨hold, -, -⟩ | ⟨-, -, hpage, -, -⟩
  · exact .inl hstarts
  · exact .inr ⟨by rwa [hsame] at hview, hnot⟩
  · exact absurd hview hleft
  · exact .inr ⟨by rw [hold]; trivial, not_starts (by simp)⟩
  · rw [hpage] at hview
    exact hview.elim

/-- How the approval in the last event of a run came about: it answers the review that an APDU has
put up, and no other since, and is recorded as an approval of the command of that APDU.  A review
that is signed blindly is answered behind the library's warning, one of tokens to be warned of only
after the user went on from the warning. -/
def Ui.ApprovesStarted (env : Env) (wallet : Bool) (start : Ui) (events : List UiEvent)
    (event : UiEvent) : Prop :=
  ∃ before bytes memory frame after started warned title confirmation,
    events = before ++ .apdu bytes memory frame :: after ∧
    started = Run.final (Ui.step env wallet) start (before ++ [.apdu bytes memory frame]) ∧
    Run.Guarded (Ui.step env wallet) (fun ui event => ¬ui.Starts env event) started after ∧
    (Run.final (Ui.step env wallet) start (events ++ [event])).app.approvals
      = (Run.final (Ui.step env wallet) start events).app.approvals
        ++ [⟨started.app.command.data,
          (Run.final (Ui.step env wallet) start events).app.command.data⟩] ∧
    (∃ memory, event = .choice true memory) ∧
    (Run.final (Ui.step env wallet) start events).view = .review warned title confirmation ∧
    (started.BlindSigning → warned = true) ∧
    (started.TokenWarning → ∃ memory, .tokenWarningChoice false memory ∈ after)

/-- **Nothing is approved without its warnings**, in any run of the screens, whatever happens in
it. -/
theorem warnings_of_approval {settings : AppSettings} {slots : List DynamicSlot}
    {events : List UiEvent} {event : UiEvent}
    (h : (Run.final (Ui.step env wallet) (.start env settings slots)
        (events ++ [event])).app.approvals
      ≠ (Run.final (Ui.step env wallet) (.start env settings slots) events).app.approvals) :
    Ui.ApprovesStarted env wallet (.start env settings slots) events event := by
  unfold Ui.ApprovesStarted
  have hsynced := @synced_final env wallet settings slots events
  rw [Run.final_append, Run.final_cons, Run.final_nil] at h ⊢
  rcases @move_step env wallet _ hsynced event with
    ⟨-, -, -, -, hkept⟩ | ⟨-, -, -, hkept⟩ | ⟨-, -, -, hkept⟩ | ⟨-, -, happ⟩ |
      @⟨memory', warned, title, confirmation, reviewed, hview, hscreen, -, -, happrovals⟩
  · exact absurd hkept h
  · exact absurd hkept h
  · exact absurd hkept h
  · exact absurd (congrArg App.approvals happ) h
  obtain ⟨before, event, after, rfl, hstarts, hquiet⟩ :=
    @exists_started env wallet settings slots events (by rw [hview]; trivial)
  obtain ⟨bytes, memory, frame, rfl, -⟩ := id hstarts
  have hbefore := @synced_final env wallet settings slots before
  obtain ⟨hstartedView, hstartedScreen⟩ := @started_of_starts env wallet _ hbefore _ _ _ hstarts
  have hfinal : Run.final (Ui.step env wallet) (.start env settings slots)
      (before ++ .apdu bytes memory frame :: after) = Run.final (Ui.step env wallet)
        ((Run.final (Ui.step env wallet) (.start env settings slots) before).step env wallet
          (.apdu bytes memory frame)) after := by
    rw [Run.final_append, Run.final_cons]
  have hfollows := followsFrom_of_guarded (synced_step hbefore _) hquiet
    (by rw [← hfinal, hview]; trivial)
  rw [← hfinal] at hfollows
  refine ⟨before, bytes, memory, frame, after, _, warned, title, confirmation, rfl, ?_, hquiet,
    ?_, ⟨memory', rfl⟩, hview, fun hblind => ?_, fun hwarning => ?_⟩
  · rw [Run.final_append, Run.final_cons, Run.final_nil]
  · have hreviewed := hfollows.screen
    rw [hscreen, hstartedScreen] at hreviewed
    rw [happrovals, Screen.review.inj hreviewed]
  · obtain ⟨title', confirmation', hreview⟩ := @startReviewUi_of_blindSigning wallet _ hblind
    rw [← hstartedView] at hreview
    rcases hfollows.view with hsame | ⟨⟨_, _, hwarning⟩, -⟩
    · rw [hview, hreview] at hsame
      exact (View.review.inj hsame).1
    · rw [hreview] at hwarning
      cases hwarning
  · obtain ⟨title', text, hwarn⟩ := @startReviewUi_of_tokenWarning wallet _ hwarning
    rw [← hstartedView] at hwarn
    rcases hfollows.view with hsame | ⟨-, hcontinued⟩
    · rw [hview, hwarn] at hsame
      cases hsame
    · exact hcontinued

end

/-- The slots of a device that shows four pairs on a page. -/
def plainSlots : List DynamicSlot := List.replicate 4 ⟨[], []⟩

/-- The environment that names the owner of the wallet's account of a Token-2022 mint. -/
def hookEnv : Env :=
  .naming "48btkZZQEcWRRtvhu48DLmG34SnANuudDEYK6HzhdSdZ"
    "2b1kV6DkPAnxd5ixfnxCpjxmKwqjjaYmCZfHsFu24GXo"

/-- A transfer of 42 to that account, with an account for a hook. -/
def hookMessage : List UInt8 :=
  legacyMessage
    [plainSigner, sourceAccount, token2022Mint, token2022Account, splToken2022ProgramId]
    [writeInstruction 4 [1, 2, 3, 0, 1] [12, 42, 0, 0, 0, 0, 0, 0, 0, 6]]

/-- The owner is provided, the transfer is to be signed, and the user goes on from the warning of
the hook. -/
def hookRun : List UiEvent :=
  [.apdu (writeApdu 0x21 1 [7]) true fun _ => Block.zero 32,
    .apdu (writeApdu 0x06 1 ([1] ++ plainPath ++ hookMessage)) true fun _ => Block.zero 32,
    .tokenWarningChoice false true]

theorem warnings_of_approval_hook :
    Ui.ApprovesStarted hookEnv true (.start hookEnv ⟨false, false, false⟩ plainSlots) hookRun
      (.choice true true) :=
  warnings_of_approval (by decide +kernel)

end AgencLedger
