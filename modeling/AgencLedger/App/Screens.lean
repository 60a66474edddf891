import AgencLedger.App.Handled
import AgencLedger.App.ReviewPages

/-!
# App/Screens — the screens of the app, and what the user can do on them

The model of the main loop knows one screen for each handler that answers later.  Here are the calls
of the screen library behind it: a review may be preceded by a warning of its own, the user turns
its pages, and the settings are changed from the home page only.  `Ui.step` is what an APDU or the
user does; the app under it takes the steps of `App.step`.
-/

namespace AgencLedger

/-! ## Views -/

/-- What the screen library was called with last, and which callback it will call. -/
inductive View
  /-- `nbgl_useCaseHomeAndSettings` -/
  | home
  /-- `nbgl_useCaseChoice`, answered by `on_token_warning_choice` -/
  | tokenWarning (title text : String)
  /-- `nbgl_useCaseAdvancedReview` with the blind signing warning, or `nbgl_useCaseReview` without,
  answered by `review_choice` -/
  | review (blindSigningWarning : Bool) (title : String) (confirmation : Option String)
  /-- `nbgl_useCaseAddressReview` -/
  | address (publicKeyStr : List Char)
  /-- a status, an error or a spinner -/
  | page
  deriving DecidableEq

/-- The screens, and the app under them. -/
structure Ui where
  app : App
  view : View
  content : ReviewContent
  slots : List DynamicSlot

/-- The title of a review of this type, and the question at its end. -/
def TransactionType.titles : TransactionType → String × String
  | .solTransfer => ("Review transaction to send SOL", "Sign transaction to send SOL?")
  | .splTransfer => ("Review transaction to send tokens", "Sign transaction to send tokens?")
  | .solStaking => ("Review transaction to delegate stake", "Sign transaction to delegate stake?")
  | .solDeactivateStake =>
      ("Review transaction to deactivate stake", "Sign transaction to deactivate stake?")
  | .solActivateStake =>
      ("Review transaction to activate stake", "Sign transaction to activate stake?")
  | .solWithdraw => ("Review transaction to withdraw SOL", "Sign transaction to withdraw SOL?")
  | .blindSigning => ("Review transaction", "Accept risk and sign transaction?")
  | .agencAction => ("Review AgenC action", "Sign AgenC action?")
  | .other => ("Review transaction", "Sign transaction?")

/-- The question as it is passed on; `wallet` is `SCREEN_SIZE_WALLET`. -/
def TransactionType.confirmation (wallet : Bool) (type : TransactionType) : Option String :=
  if wallet then some type.titles.2
  else if type = .blindSigning then some "Accept risk and sign transaction"
  else none

/-- `start_message_signing_review`. -/
def startMessageSigningReview (wallet : Bool) (app : App) (content : ReviewContent) : View :=
  match content.operationType with
  | .transaction =>
      let type := app.summary.transactionType
      .review false type.titles.1 (type.confirmation wallet)
  | .message => .review false "Review message" (if wallet then some "Sign message?" else none)

/-- `start_sign_message_ui`. -/
def startSignMessageUi (wallet : Bool) (app : App) (numSummarySteps : ℕ) : View × ReviewContent :=
  let content : ReviewContent := ⟨.transaction, numSummarySteps, false⟩
  if app.summary.isBlindSigning then
    (.review true "Review transaction" (some "Accept risk and sign transaction?"), content)
  else if app.summary.hookWarning then
    (.tokenWarning "Transfer Hook"
      "This transaction invokes a custom program. It may lead to unexpected behaviour.", content)
  else if app.summary.feeWarning then
    (.tokenWarning "Token Extensions cannot be verified"
      ("A token in this transaction may contain Transfer Fee extension which would lead "
        ++ "to additional fees upon broadcast."), content)
  else (startMessageSigningReview wallet app content, content)

/-- `start_sign_offchain_message_ui`. -/
def startSignOffchainMessageUi (wallet : Bool) (app : App) (isAscii : Bool)
    (numSummarySteps : ℕ) : View × ReviewContent :=
  let content : ReviewContent := ⟨.message, numSummarySteps, isAscii⟩
  if !isAscii then
    (.review true "Review UTF-8 message" (some "Accept risk and sign UTF-8 message"), content)
  else (startMessageSigningReview wallet app content, content)

/-- What `handle_sign_offchain_message` finds behind the header. -/
def Command.offchainContent (command : Command) : List UInt8 :=
  match parseOffchainMessageHeader ⟨0, command.message⟩ with
  | .ok (_, p) => p.buffer
  | .error _ => []

/-- The call at the end of a handler that puts up a review.  The summary was finalized unless it is
empty, and its used items were counted; an ASCII message takes one more step. -/
def startReviewUi (wallet : Bool) (app : App) : View × ReviewContent :=
  let numSummarySteps := app.summary.usedItems.length
  if app.command.instruction = some .signOffchainMessage then
    let isAscii := isDataAscii app.command.offchainContent
    startSignOffchainMessageUi wallet app isAscii
      (if isAscii then numSummarySteps + 1 else numSummarySteps)
  else startSignMessageUi wallet app numSummarySteps

/-! ## Steps -/

/-- What can happen to the screens.  `memory` and `frame` are as for the app. -/
inductive UiEvent
  | apdu (bytes : List UInt8) (memory : Bool) (frame : ℕ → Hash)
  /-- the answer to a warning about tokens -/
  | tokenWarningChoice (cancel memory : Bool)
  /-- the answer to a review, or to an address -/
  | choice (confirm memory : Bool)
  /-- the library draws a page of the review -/
  | draw (start count : ℕ) (frame : ℕ → Hash)
  /-- a page is over: `ui_idle` -/
  | close
  /-- a switch of the settings -/
  | setSettings (settings : AppSettings)

/-- What comes of an event. -/
inductive UiOutput
  | outcome (outcome : Outcome)
  /-- the titles and texts of a page -/
  | drawn (pairs : List (List Char × List Char))
  /-- the event does not belong to the view -/
  | ignored
  deriving DecidableEq

/-- `G_publicKeyStr`. -/
def App.publicKeyStr (app : App) : List Char :=
  (encodeBase58 app.publicKey.data 45).toOption.getD []

/-- An event of the app under the screens, with the view that it leaves. -/
def Ui.passOn (env : Env) (ui : Ui) (event : Event) (view : View) : UiOutput × Ui :=
  (.outcome (ui.app.react env event).1, { ui with app := ui.app.step env event, view })

/-- The view once an APDU is handled.  A handler that answers later has put up its screen; one that
answers may have put up a page. -/
def Ui.afterApdu (wallet : Bool) (ui : Ui) (outcome : Outcome) : Ui :=
  match outcome, ui.app.screen with
  | .pending, .review _ =>
      let (view, content) := startReviewUi wallet ui.app
      { ui with view, content }
  | .pending, .address => { ui with view := .address ui.app.publicKeyStr }
  | _, .page => { ui with view := .page }
  | _, _ => ui

/-- What an event does to the screens and the app. -/
def Ui.react (env : Env) (wallet : Bool) (ui : Ui) : UiEvent → UiOutput × Ui
  | .apdu bytes memory frame =>
      let (outcome, _) := ui.app.react env (.apdu bytes memory frame)
      (.outcome outcome, Ui.afterApdu wallet
        { ui with app := ui.app.step env (.apdu bytes memory frame) } outcome)
  | .tokenWarningChoice cancel memory =>
      match ui.view with
      | .tokenWarning _ _ =>
          if cancel then ui.passOn env (.choice false memory) .page
          else (.outcome .pending,
            { ui with view := startMessageSigningReview wallet ui.app ui.content })
      | _ => (.ignored, ui)
  | .choice confirm memory =>
      match ui.view with
      | .review .. | .address _ => ui.passOn env (.choice confirm memory) .page
      | _ => (.ignored, ui)
  | .draw start count frame =>
      match ui.view with
      | .review .. =>
          if start + count ≤ ui.content.nbPairs.toNat ∧ count ≤ ui.slots.length then
            match getReviewPairs frame ui.content ui.app ui.slots (pageIndices start count) with
            | none => (.outcome .exit, { ui with app := { ui.app with running := false } })
            | some (pairs, app, slots) =>
                (.drawn (pairs.map (ReviewPair.read app.command slots)), { ui with app, slots })
          else (.ignored, ui)
      | _ => (.ignored, ui)
  | .close =>
      match ui.view with
      | .page => ui.passOn env (.choice false false) .home
      | _ => (.ignored, ui)
  | .setSettings settings =>
      match ui.view with
      | .home => ui.passOn env (.setSettings settings) .home
      | _ => (.ignored, ui)

/-- **One step of the screens.** -/
def Ui.step (env : Env) (wallet : Bool) (ui : Ui) (event : UiEvent) : Ui :=
  if ui.app.running then (ui.react env wallet event).2 else ui

/-- The app as it was started from the dashboard, on its home page. -/
def Ui.start (env : Env) (settings : AppSettings) (slots : List DynamicSlot) : Ui where
  app := .start env false .zero settings
  view := .home
  content := ⟨.transaction, 0, false⟩
  slots

/-! ## How a handler leaves the screen -/

/-- Where there are items there is a primary one. -/
def TransactionSummary.Finalizable (s : TransactionSummary) : Prop :=
  s.usedItems ≠ [] → s.primary.isSome

/-- **What a handler does to the screen**: where it answers later it has put up a review of its
command, or an address; else it leaves the screen or puts up a page. -/
structure Answered (screen : Screen) (r : Outcome × App) : Prop where
  pending : r.1 = .pending →
    r.2.screen = .review r.2.command.data ∧ r.2.summary.Finalizable ∨ r.2.screen = .address
  answered : r.1 ≠ .pending → r.2.screen = screen ∨ r.2.screen = .page

namespace Answered

variable {screen : Screen} {outcome : Outcome} {app : App}

theorem of_ne (houtcome : outcome ≠ .pending) (hscreen : app.screen = screen ∨ app.screen = .page) :
    Answered screen (outcome, app) := ⟨fun h => absurd h houtcome, fun _ => hscreen⟩

theorem of_review (hscreen : app.screen = .review app.command.data)
    (hsummary : app.summary.Finalizable) : Answered screen (.pending, app) :=
  ⟨fun _ => .inl ⟨hscreen, hsummary⟩, fun h => absurd rfl h⟩

theorem of_sendSw (sw : ApduReply) (hscreen : app.screen = screen ∨ app.screen = .page) :
    Answered screen (app.sendSw sw) := of_ne (by simp) hscreen

end Answered

section

variable {env : Env} {frame : ℕ → Hash} {memory : Bool} {app : App}

theorem answered_swapFinalize : Answered app.screen (swapFinalize env app) := by
  unfold swapFinalize
  split <;> exact .of_ne (by simp) (.inl rfl)

theorem finalizable_of_finalize {s : TransactionSummary} {kinds : List SummaryItemKind}
    (h : s.finalize = .ok kinds) : s.Finalizable :=
  fun _ => TransactionSummary.isSome_primary_of_finalize h

theorem answered_handleSignMessageUi :
    Answered app.screen (handleSignMessageUi env frame app) := by
  unfold handleSignMessageUi
  split
  · exact .of_sendSw _ (.inl rfl)
  rename_i kinds hkinds
  split
  · split
    · exact .of_ne (by simp) (.inl rfl)
    · split
      · exact answered_swapFinalize
      · exact .of_ne (by simp) (.inl rfl)
  · exact .of_review rfl (finalizable_of_finalize hkinds)

theorem screen_blindSigningItems {printConfig : PrintConfig} {app' : App}
    (h : blindSigningItems env app printConfig = .ok app') : app'.screen = app.screen := by
  unfold blindSigningItems at h
  simp only at h
  split at h
  · split at h
    · obtain ⟨feePayer, -, h⟩ := (Result.seq_ok_iff _ _ _).mp h
      obtain rfl : _ = app' := Except.ok.inj h
      rfl
    · cases h
  · cases h

theorem answered_signWithSummary (messageBody : Parser) (printConfig : PrintConfig) :
    Answered app.screen (signWithSummary env frame app messageBody printConfig) := by
  unfold signWithSummary
  rcases processMessageBody (app.tokenContext env) messageBody printConfig app.summary
    with ⟨ret, summary⟩
  have hstopped : ∀ (stop : Stop) (app' : App), app'.screen = app.screen →
      Answered app.screen (.stopped stop, app') := fun stop app' h => .of_ne (by simp) (.inl h)
  rcases ret with stop | u
  · rcases stop with _ | _ | _ | _ | _ <;> try exact hstopped _ _ rfl
    simp only
    split
    · exact .of_ne (by simp) (.inl rfl)
    split
    · exact .of_sendSw _ (.inr rfl)
    split
    · rename_i hblind
      have hscreen : _ = app.screen :=
        @screen_blindSigningItems env { app with summary } printConfig _ hblind
      rw [← hscreen]
      exact answered_handleSignMessageUi
    · exact hstopped _ _ rfl
  · exact @answered_handleSignMessageUi env frame { app with summary }

theorem answered_signWithDescriptors (messageBody : Parser) (header : MessageHeader) :
    Answered app.screen (signWithDescriptors env app messageBody header) := by
  unfold signWithDescriptors
  simp only
  split
  · exact .of_sendSw _ (.inl rfl)
  split
  · exact .of_sendSw _ (.inl rfl)
  split
  · exact @answered_swapFinalize env
      app.resetSavedDescriptors.resetTrustedInfo.resetDynamicTokenInfo
  · exact .of_ne (by simp) (.inl rfl)
  · exact .of_ne (by simp) (.inl rfl)

theorem answered_handleSignMessageParseMessage :
    Answered app.screen (handleSignMessageParseMessage env frame app) := by
  unfold handleSignMessageParseMessage
  split
  · exact .of_sendSw _ (.inl rfl)
  · exact .of_ne (by simp) (.inl rfl)
  split
  · exact .of_sendSw _ (.inl rfl)
  split
  · exact .of_sendSw _ (.inl rfl)
  simp only
  split
  · exact @answered_signWithDescriptors env app.resetSummary _ _
  · exact @answered_signWithSummary env frame app.resetSummary _ _

theorem answered_handleSignMessageDelayed :
    Answered app.screen (handleSignMessageDelayed env app) := by
  have hinternal : Answered app.screen (handleSignMessageDelayedInternal env app) := by
    unfold handleSignMessageDelayedInternal
    split
    · exact .of_sendSw _ (.inl rfl)
    split
    · exact .of_sendSw _ (.inl rfl)
    split
    · simp only
      split
      · exact .of_sendSw _ (.inr rfl)
      · exact .of_ne (by simp) (.inr rfl)
    · exact .of_sendSw _ (.inr rfl)
  exact ⟨hinternal.pending, hinternal.answered⟩

/-- Without a primary item there is none at all. -/
theorem finalizable_of_preparePrimaryItems {expertMode isAscii hasPrimaryItem : Bool}
    {messageHash : Hash} {header : OffchainMessageHeader} {signer : Ptr Pubkey}
    {s : TransactionSummary} (h : preparePrimaryItems expertMode isAscii messageHash header signer
      .reset = .ok (s, hasPrimaryItem)) (hprimary : (hasPrimaryItem && s.primary.isNone) = false) :
    s.Finalizable := by
  intro hne
  cases hasPrimaryItem with
  | true => simpa [Option.isSome_iff_ne_none] using hprimary
  | false =>
      refine absurd ?_ hne
      have hbind : ∀ {α : Type} {x : Result α} {f : α → Result (TransactionSummary × Bool)},
          (∀ a, f a ≠ .ok (s, false)) → (x >>= f) ≠ .ok (s, false) := fun {α x f} hf h => by
        rcases x with stop | a
        · cases h
        · exact hf a h
      have hreturn : ∀ s', (return (s', true) : Result (TransactionSummary × Bool)) ≠ .ok (s, false)
        := fun s' h => by cases h
      -- expert mode, and a message that is not ASCII, always set a primary item
      unfold preparePrimaryItems at h
      cases expertMode <;> cases isAscii
      case false.true =>
        cases h
        rfl
      case false.false => exact absurd h (hbind hreturn)
      all_goals
        simp only [if_true] at h
        refine absurd h ?_
        repeat' first
          | exact hreturn _
          | refine hbind fun _ => ?_
          | split

theorem answered_setupOffchainSigningUi {screen : Screen} (header : OffchainMessageHeader)
    (isAscii : Bool) (signer : Ptr Pubkey) (hscreen : app.screen = screen) :
    Answered screen (setupOffchainSigningUi header isAscii signer app) := by
  subst hscreen
  unfold setupOffchainSigningUi
  split
  · exact .of_ne (by simp) (.inl rfl)
  rename_i summary hasPrimaryItem hitems
  simp only
  split
  · exact .of_sendSw _ (.inl rfl)
  · rename_i hprimary
    exact .of_review rfl
      (finalizable_of_preparePrimaryItems hitems (Bool.eq_false_iff.mpr hprimary))

theorem answered_handleSignOffchainMessage :
    Answered app.screen (handleSignOffchainMessage env app) := by
  unfold handleSignOffchainMessage
  split
  · exact .of_sendSw _ (.inl rfl)
  split
  · exact .of_sendSw _ (.inl rfl)
  split
  · exact .of_sendSw _ (.inl rfl)
  · exact .of_ne (by simp) (.inl rfl)
  simp only
  split
  · exact .of_sendSw _ (.inl rfl)
  split
  · exact .of_sendSw _ (.inl rfl)
  split
  · exact .of_sendSw _ (.inl rfl)
  split
  · exact .of_sendSw _ (.inl rfl)
  split
  · exact .of_sendSw _ (.inl rfl)
  split
  · exact .of_sendSw _ (.inr rfl)
  · exact answered_setupOffchainSigningUi _ _ _ rfl

theorem answered_dispatch (hswap : app.calledFromSwap = false) {instruction : InstructionCode} :
    Answered app.screen (dispatch env frame memory app instruction) := by
  cases instruction
  case deprecatedGetAppConfiguration | getAppConfiguration => exact .of_ne (by simp) (.inl rfl)
  case deprecatedGetPubkey | getPubkey =>
    change Answered _ (handleGetPubkey env app)
    unfold handleGetPubkey
    split
    · exact .of_sendSw _ (.inl rfl)
    · simp only
      split
      · exact .of_ne (by simp) (.inl rfl)
      · exact ⟨fun _ => .inr rfl, fun h => absurd rfl h⟩
  case deprecatedSignMessage | signMessage => exact answered_handleSignMessageParseMessage
  case signMessagePreview =>
    change Answered _ (if app.calledFromSwap then app.sendSw .sdkNotSupported else _)
    split
    · exact .of_sendSw _ (.inl rfl)
    · exact @answered_handleSignMessageParseMessage env frame
        { app with command := { app.command with isPreviewMode := true } }
  case signMessageDelayed => exact answered_handleSignMessageDelayed
  case signOffchainMessage => exact answered_handleSignOffchainMessage
  case trustedInfoProvideInstructionDescriptor =>
    change Answered _ (handleProvideInstructionDescriptor env memory app)
    rw [handleProvideInstructionDescriptor, hswap]
    exact .of_sendSw _ (.inl rfl)
  case trustedInfoGetChallenge => exact .of_ne (by simp) (.inl rfl)
  case trustedInfoProvideInfo =>
    change Answered _ (handleProvideTrustedInfo env memory app)
    unfold handleProvideTrustedInfo
    simp only
    split <;> exact .of_sendSw _ (.inl rfl)
  case trustedInfoProvideDynamicDescriptor =>
    change Answered _ (handleProvideDynamicDescriptor env memory app)
    unfold handleProvideDynamicDescriptor
    simp only
    split <;> exact .of_sendSw _ (.inl rfl)

end

end AgencLedger
