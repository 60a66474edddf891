import AgencLedger.App.Main

/-!
# App/Handled — what the handlers leave alone

No handler changes what an approval would use of the command it handles, nor the approvals made, nor
the parameters of the swap; a handler that puts up a review puts up that of its command.  So much
holds of every path through every handler.
-/

namespace AgencLedger

/-! ## Handled states -/

/-- Every saved descriptor is for the template of the swap. -/
def App.DescriptorsMatch (app : App) : Prop :=
  ∀ saved, app.savedDescriptors = some saved →
    ∀ entry ∈ saved.descriptors, entry.templateId = app.swap.templateId

/-- **What handling a command can make of the app.** -/
structure App.Handled (env : Env) (app app' : App) : Prop where
  data_eq : app'.command.data = app.command.data
  instruction_eq : app'.command.instruction = app.command.instruction
  approvals_eq : app'.approvals = app.approvals
  swap_eq : app'.swap = app.swap
  calledFromSwap_eq : app'.calledFromSwap = app.calledFromSwap
  screen : app'.screen = app.screen ∨
    ∀ reviewed, app'.screen = .review reviewed → reviewed = app'.command.data
  descriptorsMatch : app.DescriptorsMatch → app'.DescriptorsMatch

namespace App.Handled

variable {env : Env} {app b c : App}

theorem refl (app : App) : app.Handled env app := ⟨rfl, rfl, rfl, rfl, rfl, .inl rfl, id⟩

theorem trans (h : app.Handled env b) (h' : b.Handled env c) : app.Handled env c where
  data_eq := h'.data_eq.trans h.data_eq
  instruction_eq := h'.instruction_eq.trans h.instruction_eq
  approvals_eq := h'.approvals_eq.trans h.approvals_eq
  swap_eq := h'.swap_eq.trans h.swap_eq
  calledFromSwap_eq := h'.calledFromSwap_eq.trans h.calledFromSwap_eq
  screen := by
    rcases h'.screen with hsame | hnew
    · rcases h.screen with hsame' | hnew'
      · exact .inl (hsame.trans hsame')
      · exact .inr fun reviewed hr => (hnew' reviewed (hsame ▸ hr)).trans h'.data_eq.symm
    · exact .inr hnew
  descriptorsMatch := h'.descriptorsMatch ∘ h.descriptorsMatch

/-- Forgetting the descriptors. -/
theorem of_none (h : app.Handled env b) : app.Handled env { b with savedDescriptors := none } :=
  { h with
    descriptorsMatch := fun _ _ hsaved => nomatch hsaved }

/-- Going to a page, or to the address of a key. -/
theorem of_screen (h : app.Handled env b) {screen : Screen}
    (hscreen : ∀ reviewed, screen ≠ .review reviewed) :
    app.Handled env { b with screen } :=
  { h with screen := .inr fun reviewed hr => absurd hr (hscreen reviewed) }

end App.Handled

/-! ## The handlers -/

section

variable {env : Env} {frame : ℕ → Hash} {memory : Bool} (app : App)

/-- New items in the summary. -/
theorem handled_summary (summary : TransactionSummary) (buffers : DisplayBuffers) :
    app.Handled env { app with summary, buffers } := ⟨rfl, rfl, rfl, rfl, rfl, .inl rfl, id⟩

theorem handled_startReview : app.Handled env app.startReview.2 :=
  ⟨rfl, rfl, rfl, rfl, rfl, .inr fun _ h => (Screen.review.inj h).symm, id⟩

theorem handled_swapFinalize : app.Handled env (swapFinalize env app).2 := by
  unfold swapFinalize
  split
  · exact .refl app
  · exact ⟨rfl, rfl, rfl, rfl, rfl, .inl rfl, id⟩

theorem handled_handleSignMessageUi : app.Handled env (handleSignMessageUi env frame app).2 := by
  unfold handleSignMessageUi
  split
  · exact .refl app
  · split
    · split
      · exact .refl app
      · split
        · exact handled_swapFinalize app
        · exact .refl app
    · exact handled_startReview app

theorem handled_blindSigningItems {printConfig : PrintConfig} {app' : App}
    (h : blindSigningItems env app printConfig = .ok app') : app.Handled env app' := by
  unfold blindSigningItems at h
  simp only at h
  split at h
  · split at h
    · obtain ⟨feePayer, -, h⟩ := (Result.seq_ok_iff _ _ _).mp h
      obtain rfl : _ = app' := Except.ok.inj h
      exact ⟨rfl, rfl, rfl, rfl, rfl, .inl rfl, id⟩
    · cases h
  · cases h

theorem handled_signWithDescriptors (messageBody : Parser) (header : MessageHeader) :
    app.Handled env (signWithDescriptors env app messageBody header).2 := by
  have hreset : app.Handled env app.resetSavedDescriptors := (App.Handled.refl app).of_none
  have hall : app.Handled env app.resetSavedDescriptors.resetTrustedInfo.resetDynamicTokenInfo :=
    hreset.trans ⟨rfl, rfl, rfl, rfl, rfl, .inl rfl, id⟩
  unfold signWithDescriptors
  simp only
  split
  · exact hreset
  · split
    · exact hreset
    · split
      · exact hall.trans (handled_swapFinalize _)
      · exact hall
      · exact hall

theorem handled_signWithSummary (messageBody : Parser) (printConfig : PrintConfig) :
    app.Handled env (signWithSummary env frame app messageBody printConfig).2 := by
  unfold signWithSummary
  rcases processMessageBody (app.tokenContext env) messageBody printConfig app.summary
    with ⟨ret, summary⟩
  have hsummary : app.Handled env { app with summary } := handled_summary app summary app.buffers
  rcases ret with stop | u
  · rcases stop with _ | _ | _ | _ | _ <;> try exact hsummary
    simp only
    split
    · exact hsummary
    · split
      · exact hsummary.of_screen (by simp)
      · split
        · rename_i hblind
          exact (hsummary.trans (handled_blindSigningItems _ hblind)).trans
            (handled_handleSignMessageUi _)
        · exact hsummary
  · exact hsummary.trans (handled_handleSignMessageUi _)

theorem handled_handleSignMessageParseMessage :
    app.Handled env (handleSignMessageParseMessage env frame app).2 := by
  unfold handleSignMessageParseMessage
  split
  · exact .refl app
  · exact .refl app
  · split
    · exact .refl app
    · split
      · exact .refl app
      · simp only
        split
        · exact (handled_summary app .reset .reset).trans (handled_signWithDescriptors _ _ _)
        · exact (handled_summary app .reset .reset).trans (handled_signWithSummary _ _ _)

theorem handled_handleSignMessageDelayed :
    app.Handled env (handleSignMessageDelayed env app).2 := by
  have hsigned : app.Handled env (app.setResultSignMessage env).2 :=
    ⟨rfl, rfl, rfl, rfl, rfl, .inl rfl, id⟩
  have hpage : app.Handled env { (app.setResultSignMessage env).2 with screen := .page } :=
    hsigned.of_screen (by simp)
  have hinternal : app.Handled env (handleSignMessageDelayedInternal env app).2 := by
    unfold handleSignMessageDelayedInternal
    split
    · exact .refl app
    · split
      · exact .refl app
      · split
        · simp only
          split
          · exact hpage
          · exact hpage
        · exact (App.Handled.refl app).of_screen (by simp)
  exact hinternal.trans ⟨rfl, rfl, rfl, rfl, rfl, .inl rfl, id⟩

theorem handled_setupOffchainSigningUi (header : OffchainMessageHeader) (isAscii : Bool)
    (signer : Ptr Pubkey) :
      app.Handled env (setupOffchainSigningUi header isAscii signer app).2 := by
  unfold setupOffchainSigningUi
  split
  · exact .refl app
  · rename_i summary hasPrimaryItem _
    simp only
    split
    · exact handled_summary app summary .reset
    · exact (handled_summary app summary .reset).trans (handled_startReview _)

theorem handled_handleSignOffchainMessage :
    app.Handled env (handleSignOffchainMessage env app).2 := by
  unfold handleSignOffchainMessage
  split
  · exact .refl app
  split
  · exact .refl app
  split
  · exact .refl app
  · exact .refl app
  · rename_i header p _
    have htext : app.Handled env { app with command := { app.command with
        messageTextStart := some (offchainMessageHeaderLength header) } } :=
      ⟨rfl, rfl, rfl, rfl, rfl, .inl rfl, id⟩
    simp only
    split
    · exact htext
    split
    · exact htext
    split
    · exact htext
    split
    · exact htext
    split
    · exact htext
    split
    · exact htext.of_screen (by simp)
    · refine App.Handled.trans ?_ (handled_setupOffchainSigningUi _ _ _ _)
      exact ⟨rfl, rfl, rfl, rfl, rfl, .inl rfl, id⟩

/-- Saving a descriptor appends it. -/
theorem descriptors_saveInstructionDescriptor {isMainNet : Bool} {templateId : UInt64}
    {descriptor : InstructionDescriptor} {saved saved' : SavedDescriptors}
    (h : saveInstructionDescriptor isMainNet templateId descriptor saved = some saved') :
    saved'.descriptors = saved.descriptors ++ [⟨isMainNet, templateId, descriptor⟩] := by
  unfold saveInstructionDescriptor at h
  simp only at h
  repeat' split at h
  all_goals cases h
  all_goals rfl

/-- A descriptor that passes the checks is for the template of the swap. -/
theorem templateId_of_checkDescriptor {swap : SwapValidated} {items : List TlvItem} {out : TlvOut}
    (h : checkDescriptor env swap items out = .ok ()) :
    swap.initialized = true ∧ out.templateId = swap.templateId := by
  have hguard : ∀ {c : Prop} [Decidable c] {e : Outcome} {k : PUnit → Except Outcome Unit}
      {x : Except Outcome Unit}, (if c then throw e >>= k else x) = .ok () ↔ ¬c ∧ x = .ok () :=
    fun {c} _ {e k x} => by
      by_cases hc : c <;> simp [hc, throw, throwThe, MonadExceptOf.throw, bind, Except.bind]
  have hcheck : checkTemplateId swap out.templateId = true := by
    simp only [checkDescriptor, hguard] at h
    obtain ⟨-, -, -, -, -, -, hcheck, -⟩ := h
    simpa using hcheck
  simp only [checkTemplateId, Bool.and_eq_true, beq_iff_eq] at hcheck
  exact ⟨hcheck.1, hcheck.2.symm⟩

theorem handled_handleProvideInstructionDescriptor :
    app.Handled env (handleProvideInstructionDescriptor env memory app).2 := by
  unfold handleProvideInstructionDescriptor
  split
  · exact .refl app
  split
  · exact .refl app
  rename_i items out hparse
  split
  · exact .refl app
  rename_i hcheck
  split
  · exact .refl app
  simp only
  split
  · exact .refl app
  rename_i saved hsave
  refine ⟨rfl, rfl, rfl, rfl, rfl, .inl rfl, fun hmatch saved' hsaved' entry hentry => ?_⟩
  obtain rfl : saved = saved' := Option.some.inj hsaved'
  rw [descriptors_saveInstructionDescriptor hsave] at hentry
  rcases List.mem_append.mp hentry with hold | hnew
  · rcases hdescriptors : app.savedDescriptors with _ | kept
    · rw [hdescriptors] at hold
      simp [SavedDescriptors.zero] at hold
    · rw [hdescriptors] at hold
      exact hmatch kept hdescriptors entry hold
  · obtain rfl := List.mem_singleton.mp hnew
    exact (templateId_of_checkDescriptor hcheck).2

theorem handled_handleProvideTrustedInfo :
    app.Handled env (handleProvideTrustedInfo env memory app).2 := by
  unfold handleProvideTrustedInfo
  simp only
  split <;> exact ⟨rfl, rfl, rfl, rfl, rfl, .inl rfl, id⟩

theorem handled_handleProvideDynamicDescriptor :
    app.Handled env (handleProvideDynamicDescriptor env memory app).2 := by
  unfold handleProvideDynamicDescriptor
  simp only
  split <;> exact ⟨rfl, rfl, rfl, rfl, rfl, .inl rfl, id⟩

theorem handled_handleGetPubkey : app.Handled env (handleGetPubkey env app).2 := by
  unfold handleGetPubkey
  split
  · exact .refl app
  · rename_i publicKey _
    have hkey : app.Handled env { app with publicKey } :=
      ⟨rfl, rfl, rfl, rfl, rfl, .inl rfl, id⟩
    simp only
    split
    · exact hkey
    · exact hkey.of_screen (by simp)

/-! ## Commands -/

/-- The command as its handler finds it: a preview is marked as one outside a swap. -/
def Command.marked (command : Command) (calledFromSwap : Bool) : InstructionCode → Command
  | .signMessagePreview =>
      if calledFromSwap then command else { command with isPreviewMode := true }
  | _ => command

theorem handled_dispatch (instruction : InstructionCode) :
    ({ app with command := app.command.marked app.calledFromSwap instruction } : App).Handled env
      (dispatch env frame memory app instruction).2 := by
  rcases instruction with _ | _ | _ | _ | _ | _ | _ | _ | _ | _ | _ | _ | _
  case signMessagePreview =>
    change App.Handled env { app with command := if app.calledFromSwap then _ else _ }
      (if app.calledFromSwap then app.sendSw .sdkNotSupported else _).2
    split
    · exact .refl app
    · exact handled_handleSignMessageParseMessage _
  case deprecatedGetAppConfiguration => exact .refl app
  case getAppConfiguration => exact .refl app
  case deprecatedGetPubkey => exact handled_handleGetPubkey app
  case getPubkey => exact handled_handleGetPubkey app
  case deprecatedSignMessage => exact handled_handleSignMessageParseMessage app
  case signMessage => exact handled_handleSignMessageParseMessage app
  case signMessageDelayed => exact handled_handleSignMessageDelayed app
  case signOffchainMessage => exact handled_handleSignOffchainMessage app
  case trustedInfoProvideInstructionDescriptor =>
    exact handled_handleProvideInstructionDescriptor app
  case trustedInfoGetChallenge => exact .refl app
  case trustedInfoProvideInfo => exact handled_handleProvideTrustedInfo app
  case trustedInfoProvideDynamicDescriptor => exact handled_handleProvideDynamicDescriptor app

end

/-- A complete command as its handler finds it; a command in progress has no handler. -/
def Command.asHandled (command : Command) (calledFromSwap : Bool) : Command :=
  match command.state, command.instruction with
  | .payloadInProgress, _ => command
  | _, none => command
  | _, some instruction => command.marked calledFromSwap instruction

theorem handled_handleCommand (env : Env) (frame : ℕ → Hash) (memory : Bool) (app : App) :
    ∃ previewState, App.Handled env
      { app with previewState, command := app.command.asHandled app.calledFromSwap }
      (handleCommand env frame memory app).2 := by
  unfold handleCommand Command.asHandled
  rcases hins : app.command.instruction with _ | instruction
  · exact ⟨app.previewState, by rcases app.command.state with _ | _ | _ <;> exact .refl app⟩
  · have hcomplete : ∃ previewState, App.Handled env
        { app with previewState, command := app.command.marked app.calledFromSwap instruction }
        (dispatch env frame memory
          (if instruction = .signMessageDelayed then app else app.clearPreviewState)
          instruction).2 := by
      split
      · exact ⟨app.previewState, handled_dispatch app instruction⟩
      · exact ⟨none, handled_dispatch app.clearPreviewState instruction⟩
    rcases app.command.state with _ | _ | _
    · exact hcomplete
    · exact ⟨app.previewState, .refl app⟩
    · exact hcomplete

/-- **An APDU is answered at once, or it completes a command**, which goes to its handler. -/
theorem handleApdu_cases (env : Env) (frame : ℕ → Hash) (memory : Bool) (app : App)
    (apdu : List UInt8) :
    (∃ command sw, handleApdu env frame memory apdu app = ({ app with command } : App).sendSw sw) ∨
      ∃ command instruction,
        apduHandleMessage (maxMessageLength env.usbSegmentSize) apdu app.command = .ok command ∧
        command.state ≠ .payloadInProgress ∧ command.instruction = some instruction ∧
        handleApdu env frame memory apdu app
          = dispatch env frame memory (if instruction = .signMessageDelayed
              then { app with command } else App.clearPreviewState { app with command })
              instruction := by
  unfold handleApdu
  rcases apduHandleMessage (maxMessageLength env.usbSegmentSize) apdu app.command with sw | command
  · exact .inl ⟨.clear, sw, rfl⟩
  · simp only
    unfold handleCommand
    split
    · exact .inl ⟨command, .success, rfl⟩
    · exact .inl ⟨command, .unimplementedInstruction, rfl⟩
    · rename_i instruction hinstruction hprogress
      exact .inr ⟨command, instruction, rfl, hprogress, hinstruction, rfl⟩

/-- **What an approval would use after an APDU**: the data of its command, a refused one counting
as empty. -/
def App.dataAfter (env : Env) (app : App) (apdu : List UInt8) : CommandData :=
  match apduHandleMessage (maxMessageLength env.usbSegmentSize) apdu app.command with
  | .error _ => Command.clear.data
  | .ok command => (command.asHandled app.calledFromSwap).data

/-- **What an APDU does**: its command replaces the one before, and is handled. -/
theorem handled_handleApdu (env : Env) (frame : ℕ → Hash) (memory : Bool) (app : App)
    (apdu : List UInt8) :
    ∃ command previewState, command.data = app.dataAfter env apdu ∧
      ({ app with command, previewState } : App).Handled env
        (handleApdu env frame memory apdu app).2 := by
  unfold handleApdu App.dataAfter
  rcases apduHandleMessage (maxMessageLength env.usbSegmentSize) apdu app.command with sw | command
  · exact ⟨.clear, app.previewState, rfl, .refl _⟩
  · obtain ⟨previewState, hhandled⟩ :=
      handled_handleCommand env frame memory ({ app with command } : App)
    exact ⟨command.asHandled app.calledFromSwap, previewState, rfl, hhandled⟩

end AgencLedger
