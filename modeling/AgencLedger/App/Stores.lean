import AgencLedger.App.Approval

/-!
# App/Stores — what the commands do to the stores that outlive them

Descriptors, trusted information and the fingerprint of a preview are received by one command and
used by later ones.  Only the commands that provide them fill these stores; the others leave a store
as it is or empty it.
-/

namespace AgencLedger

/-- **The stores are as they were or empty**, and the fingerprint is untouched. -/
structure App.KeepsStores (app app' : App) : Prop where
  savedDescriptors : app'.savedDescriptors = app.savedDescriptors ∨ app'.savedDescriptors = none
  trustedInfo : app'.trustedInfo = app.trustedInfo ∨ app'.trustedInfo = none
  previewState : app'.previewState = app.previewState

namespace App.KeepsStores

variable {app app' b : App}

/-- A step that touches none of the stores. -/
theorem of_eq (hdescriptors : app'.savedDescriptors = app.savedDescriptors)
    (hinfo : app'.trustedInfo = app.trustedInfo) (hpreview : app'.previewState = app.previewState) :
    app.KeepsStores app' :=
  ⟨.inl hdescriptors, .inl hinfo, hpreview⟩

theorem refl (app : App) : app.KeepsStores app := of_eq rfl rfl rfl

theorem trans (h : app.KeepsStores b) (h' : b.KeepsStores app') : app.KeepsStores app' where
  savedDescriptors := h'.savedDescriptors.elim
    (fun heq => h.savedDescriptors.imp heq.trans heq.trans) .inr
  trustedInfo := h'.trustedInfo.elim (fun heq => h.trustedInfo.imp heq.trans heq.trans) .inr
  previewState := h'.previewState.trans h.previewState

end App.KeepsStores

/-! ## The handlers -/

section

variable {env : Env} {frame : ℕ → Hash} {memory : Bool} (app : App)

theorem keepsStores_swapFinalize : app.KeepsStores (swapFinalize env app).2 := by
  unfold swapFinalize
  split
  · exact .refl app
  · exact .of_eq rfl rfl rfl

theorem keepsStores_handleSignMessageUi :
    app.KeepsStores (handleSignMessageUi env frame app).2 := by
  unfold handleSignMessageUi
  repeat' split
  all_goals first | exact keepsStores_swapFinalize app | exact .of_eq rfl rfl rfl

theorem keepsStores_blindSigningItems {printConfig : PrintConfig} {app' : App}
    (h : blindSigningItems env app printConfig = .ok app') : app.KeepsStores app' := by
  unfold blindSigningItems at h
  simp only at h
  split at h
  · split at h
    · obtain ⟨feePayer, -, h⟩ := (Result.seq_ok_iff _ _ _).mp h
      obtain rfl : _ = app' := Except.ok.inj h
      exact .of_eq rfl rfl rfl
    · cases h
  · cases h

/-- The descriptor path empties the stores. -/
theorem keepsStores_signWithDescriptors (messageBody : Parser) (header : MessageHeader) :
    app.KeepsStores (signWithDescriptors env app messageBody header).2 := by
  have hreset : app.KeepsStores app.resetSavedDescriptors := ⟨.inr rfl, .inl rfl, rfl⟩
  have hall : app.KeepsStores
      app.resetSavedDescriptors.resetTrustedInfo.resetDynamicTokenInfo := ⟨.inr rfl, .inr rfl, rfl⟩
  unfold signWithDescriptors
  simp only
  split
  · exact hreset
  split
  · exact hreset
  split
  · exact hall.trans (keepsStores_swapFinalize _)
  · exact hall
  · exact hall

theorem keepsStores_signWithSummary (messageBody : Parser) (printConfig : PrintConfig) :
    app.KeepsStores (signWithSummary env frame app messageBody printConfig).2 := by
  unfold signWithSummary
  rcases processMessageBody (app.tokenContext env) messageBody printConfig app.summary
    with ⟨ret, summary⟩
  have hsummary : app.KeepsStores { app with summary } := .of_eq rfl rfl rfl
  rcases ret with stop | u
  · rcases stop with _ | _ | _ | _ | _ <;> try exact hsummary
    simp only
    split
    · exact hsummary
    split
    · exact .of_eq rfl rfl rfl
    split
    · rename_i hblind
      exact (hsummary.trans (keepsStores_blindSigningItems _ hblind)).trans
        (keepsStores_handleSignMessageUi _)
    · exact hsummary
  · exact hsummary.trans (keepsStores_handleSignMessageUi _)

theorem keepsStores_handleSignMessageParseMessage :
    app.KeepsStores (handleSignMessageParseMessage env frame app).2 := by
  have hreset : app.KeepsStores app.resetSummary := .of_eq rfl rfl rfl
  unfold handleSignMessageParseMessage
  split
  · exact .refl app
  · exact .refl app
  split
  · exact .refl app
  split
  · exact .refl app
  simp only
  split
  · exact hreset.trans (keepsStores_signWithDescriptors _ _ _)
  · exact hreset.trans (keepsStores_signWithSummary _ _ _)

theorem keepsStores_handleSignOffchainMessage :
    app.KeepsStores (handleSignOffchainMessage env app).2 := by
  have hsetup : ∀ (app : App) header isAscii signer,
      app.KeepsStores (setupOffchainSigningUi header isAscii signer app).2 := by
    intro app header isAscii signer
    unfold setupOffchainSigningUi
    split
    · exact .refl app
    · simp only
      split <;> exact .of_eq rfl rfl rfl
  unfold handleSignOffchainMessage
  split
  · exact .refl app
  split
  · exact .refl app
  split
  · exact .refl app
  · exact .refl app
  simp only
  split
  · exact .of_eq rfl rfl rfl
  split
  · exact .of_eq rfl rfl rfl
  split
  · exact .of_eq rfl rfl rfl
  split
  · exact .of_eq rfl rfl rfl
  split
  · exact .of_eq rfl rfl rfl
  split
  · exact .of_eq rfl rfl rfl
  · refine App.KeepsStores.trans ?_ (hsetup _ _ _ _)
    exact .of_eq rfl rfl rfl

theorem keepsStores_handleGetPubkey : app.KeepsStores (handleGetPubkey env app).2 := by
  unfold handleGetPubkey
  split
  · exact .refl app
  · simp only
    split <;> exact .of_eq rfl rfl rfl

/-- A delayed command leaves the descriptors and the trusted information. -/
theorem stores_handleSignMessageDelayed :
    (handleSignMessageDelayed env app).2.savedDescriptors = app.savedDescriptors ∧
      (handleSignMessageDelayed env app).2.trustedInfo = app.trustedInfo ∧
      (handleSignMessageDelayed env app).2.previewState = none := by
  have hinternal : (handleSignMessageDelayedInternal env app).2.savedDescriptors
      = app.savedDescriptors ∧
      (handleSignMessageDelayedInternal env app).2.trustedInfo = app.trustedInfo := by
    unfold handleSignMessageDelayedInternal
    split
    · exact ⟨rfl, rfl⟩
    split
    · exact ⟨rfl, rfl⟩
    split
    · simp only
      split <;> exact ⟨rfl, rfl⟩
    · exact ⟨rfl, rfl⟩
  exact ⟨hinternal.1, hinternal.2, rfl⟩

theorem stores_handleProvideInstructionDescriptor :
    (handleProvideInstructionDescriptor env memory app).2.trustedInfo = app.trustedInfo ∧
      (handleProvideInstructionDescriptor env memory app).2.previewState = app.previewState := by
  unfold handleProvideInstructionDescriptor
  split
  · exact ⟨rfl, rfl⟩
  split
  · exact ⟨rfl, rfl⟩
  split
  · exact ⟨rfl, rfl⟩
  split
  · exact ⟨rfl, rfl⟩
  simp only
  split <;> exact ⟨rfl, rfl⟩

theorem stores_handleProvideTrustedInfo :
    (handleProvideTrustedInfo env memory app).2.savedDescriptors = app.savedDescriptors ∧
      (handleProvideTrustedInfo env memory app).2.previewState = app.previewState := by
  unfold handleProvideTrustedInfo
  simp only
  split <;> exact ⟨rfl, rfl⟩

theorem keepsStores_handleProvideDynamicDescriptor :
    app.KeepsStores (handleProvideDynamicDescriptor env memory app).2 := by
  unfold handleProvideDynamicDescriptor
  simp only
  split <;> exact .of_eq rfl rfl rfl

/-! ## The user -/

/-- `review_choice` leaves the descriptors and the swap, and leaves or empties the information. -/
theorem stores_reviewChoice (memory confirm : Bool) (reviewed : CommandData) :
    (reviewChoice env memory confirm reviewed app).2.savedDescriptors = app.savedDescriptors ∧
      ((reviewChoice env memory confirm reviewed app).2.trustedInfo = app.trustedInfo ∨
        (reviewChoice env memory confirm reviewed app).2.trustedInfo = none) ∧
      (reviewChoice env memory confirm reviewed app).2.swap = app.swap := by
  unfold reviewChoice
  rcases confirm with _ | _
  · exact ⟨rfl, .inr rfl, rfl⟩
  · simp only [if_true]
    split
    · unfold storePreviewFingerprint
      split
      · exact ⟨rfl, .inr rfl, rfl⟩
      · split <;> exact ⟨rfl, .inr rfl, rfl⟩
    · split <;> exact ⟨rfl, .inr rfl, rfl⟩

/-- What the user does leaves as much. -/
theorem stores_choose (confirm memory : Bool) :
    (app.choose env confirm memory).2.savedDescriptors = app.savedDescriptors ∧
      ((app.choose env confirm memory).2.trustedInfo = app.trustedInfo ∨
        (app.choose env confirm memory).2.trustedInfo = none) ∧
      (app.choose env confirm memory).2.swap = app.swap := by
  unfold App.choose
  split
  · exact stores_reviewChoice app memory confirm _
  · split <;> exact ⟨rfl, .inl rfl, rfl⟩
  · exact ⟨rfl, .inl rfl, rfl⟩

/-! ## Commands -/

/-- **Only three commands do more** than to keep or empty the stores. -/
theorem keepsStores_dispatch {instruction : InstructionCode}
    (hdelayed : instruction ≠ .signMessageDelayed)
    (hdescriptor : instruction ≠ .trustedInfoProvideInstructionDescriptor)
    (hinfo : instruction ≠ .trustedInfoProvideInfo) :
    app.KeepsStores (dispatch env frame memory app instruction).2 := by
  rcases instruction with _ | _ | _ | _ | _ | _ | _ | _ | _ | _ | _ | _ | _
  case signMessagePreview =>
    change app.KeepsStores (if app.calledFromSwap then app.sendSw .sdkNotSupported else _).2
    split
    · exact .refl app
    · refine App.KeepsStores.trans (.of_eq ?_ ?_ ?_)
        (keepsStores_handleSignMessageParseMessage _) <;> rfl
  case deprecatedGetAppConfiguration => exact .refl app
  case getAppConfiguration => exact .refl app
  case deprecatedGetPubkey => exact keepsStores_handleGetPubkey app
  case getPubkey => exact keepsStores_handleGetPubkey app
  case deprecatedSignMessage => exact keepsStores_handleSignMessageParseMessage app
  case signMessage => exact keepsStores_handleSignMessageParseMessage app
  case signMessageDelayed => exact absurd rfl hdelayed
  case signOffchainMessage => exact keepsStores_handleSignOffchainMessage app
  case trustedInfoProvideInstructionDescriptor => exact absurd rfl hdescriptor
  case trustedInfoGetChallenge => exact .refl app
  case trustedInfoProvideInfo => exact absurd rfl hinfo
  case trustedInfoProvideDynamicDescriptor =>
    exact keepsStores_handleProvideDynamicDescriptor app

/-- **What a command makes of the descriptors**: only one that brings a descriptor adds to them. -/
theorem savedDescriptors_dispatch {instruction : InstructionCode}
    (hdescriptor : instruction ≠ .trustedInfoProvideInstructionDescriptor) :
    (dispatch env frame memory app instruction).2.savedDescriptors = app.savedDescriptors ∨
      (dispatch env frame memory app instruction).2.savedDescriptors = none := by
  by_cases hdelayed : instruction = .signMessageDelayed
  · subst hdelayed
    exact .inl (stores_handleSignMessageDelayed app).1
  by_cases hinfo : instruction = .trustedInfoProvideInfo
  · subst hinfo
    exact .inl (stores_handleProvideTrustedInfo app).1
  · exact (keepsStores_dispatch app hdelayed hdescriptor hinfo).savedDescriptors

end

/-! ## Complete commands -/

/-- The APDU completes a command, which goes to its handler. -/
structure App.Completes (env : Env) (app : App) (bytes : List UInt8) (command : Command)
    (instruction : InstructionCode) : Prop where
  nonempty : bytes ≠ []
  handled : apduHandleMessage (maxMessageLength env.usbSegmentSize) bytes app.command = .ok command
  complete : command.state ≠ .payloadInProgress
  instruction : command.instruction = some instruction

/-- A complete command goes to its handler; but for a delayed one, the fingerprint is cleared. -/
theorem App.Completes.handleApdu_eq {env : Env} {app : App} {bytes : List UInt8} {command : Command}
    {instruction : InstructionCode} (h : app.Completes env bytes command instruction)
    (frame : ℕ → Hash) (memory : Bool) :
    handleApdu env frame memory bytes app
      = dispatch env frame memory (if instruction = .signMessageDelayed
          then { app with command } else App.clearPreviewState { app with command })
          instruction := by
  rw [handleApdu, h.handled]
  dsimp only
  rw [handleCommand]
  dsimp only
  rcases hstate : command.state with _ | _ | _
  · rw [h.instruction]
  · exact absurd hstate h.complete
  · rw [h.instruction]

end AgencLedger
