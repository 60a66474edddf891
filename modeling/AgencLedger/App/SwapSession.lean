import AgencLedger.App.Crosschain

/-!
# App/SwapSession — what an app started from Exchange signs

An app that Exchange started signs by way of `swap_finalize` and leaves, and every handler that puts
up a review refuses to do so in a swap, but for that of off-chain messages.
-/

namespace AgencLedger

/-! ## Messages that pass the swap validation -/

/-- The message of the command passes the swap validation: that of its descriptors where there are
any, else that of its summary. -/
def App.PassesSwapValidation (env : Env) (frame : ℕ → Hash) (app : App) : Prop :=
  ∃ header messageBody, parseMessageHeader ⟨0, app.command.message⟩ = .ok (header, messageBody) ∧
    ((app.savedDescriptors.isSome = true ∧
        processMessageBodyWithDescriptor env app.resetSummary messageBody header = .ok ()) ∨
      (app.savedDescriptors = none ∧ ∃ signerPubkey summary kinds,
        scanHeaderForSigner env app.command.derivationPath header = some signerPubkey ∧
        processMessageBody (app.tokenContext env) messageBody (app.printConfig header signerPubkey)
          .reset = (.ok (), summary) ∧
        summary.finalize = .ok kinds ∧
        checkSwapValidity env frame { app with summary, buffers := .reset } kinds = .ok ()))

/-- No review waits for the user. -/
def App.NoReview (app : App) : Prop := ∀ reviewed, app.screen ≠ .review reviewed

/-- **What handling a command may do in a swap**: it signs at most the message of the command, by
way of `swap_finalize` and after its validation. -/
structure App.SwapHandled (env : Env) (frame : ℕ → Hash) (app : App)
    (r : Outcome × App) : Prop where
  previewState_eq : r.2.previewState = none
  signed : r.2.signed = app.signed ∨
    (∃ signature, r.1 = .swapFinalize signature) ∧ app.PassesSwapValidation env frame ∧
      r.2.signed = app.signed ++ [(app.command.derivationPath, app.command.message)]

section

variable {env : Env} {frame : ℕ → Hash} {memory : Bool} {app : App}

theorem swapFinalize_spec :
    (swapFinalize env app).2.screen = app.screen ∧
      (swapFinalize env app).2.previewState = app.previewState ∧
      ((swapFinalize env app).2.signed = app.signed ∨
        (∃ signature, (swapFinalize env app).1 = .swapFinalize signature) ∧
          (swapFinalize env app).2.signed
            = app.signed ++ [(app.command.derivationPath, app.command.message)]) := by
  unfold swapFinalize
  split
  · exact ⟨rfl, rfl, .inl rfl⟩
  · exact ⟨rfl, rfl, .inr ⟨⟨_, rfl⟩, rfl⟩⟩

/-- In a swap a finished summary is checked and signed, or refused. -/
theorem handleSignMessageUi_swap (hswap : app.calledFromSwap = true) :
    (handleSignMessageUi env frame app).2 = app ∨
      handleSignMessageUi env frame app = swapFinalize env app ∧
        ∃ kinds, app.summary.finalize = .ok kinds ∧
          checkSwapValidity env frame app kinds = .ok () := by
  unfold handleSignMessageUi
  split
  · exact .inl rfl
  · rename_i kinds hkinds
    rw [if_pos hswap]
    split
    · exact .inl rfl
    · split
      · rename_i hvalid
        exact .inr ⟨rfl, kinds, hkinds, hvalid⟩
      · exact .inl rfl

/-- In a swap a message that is not accepted is refused, and one whose summary passes is signed. -/
theorem signWithSummary_swap (hswap : app.calledFromSwap = true) (messageBody : Parser)
    (printConfig : PrintConfig) :
    (signWithSummary env frame app messageBody printConfig).2.screen = app.screen ∧
      (signWithSummary env frame app messageBody printConfig).2.previewState = app.previewState ∧
      ((signWithSummary env frame app messageBody printConfig).2.signed = app.signed ∨
        (∃ signature, (signWithSummary env frame app messageBody printConfig).1
            = .swapFinalize signature) ∧
          (∃ summary kinds, processMessageBody (app.tokenContext env) messageBody printConfig
              app.summary = (.ok (), summary) ∧ summary.finalize = .ok kinds ∧
            checkSwapValidity env frame { app with summary } kinds = .ok ()) ∧
          (signWithSummary env frame app messageBody printConfig).2.signed
            = app.signed ++ [(app.command.derivationPath, app.command.message)]) := by
  unfold signWithSummary
  rcases processMessageBody (app.tokenContext env) messageBody printConfig app.summary
    with ⟨ret, summary⟩
  rcases ret with stop | u
  · rcases stop with _ | _ | _ | _ <;> try exact ⟨rfl, rfl, .inl rfl⟩
    simp only
    rw [if_pos hswap]
    exact ⟨rfl, rfl, .inl rfl⟩
  · simp only
    rcases @handleSignMessageUi_swap env frame { app with summary } hswap
      with hsame | ⟨heq, kinds, hkinds, hvalid⟩
    · rw [hsame]
      exact ⟨rfl, rfl, .inl rfl⟩
    · rw [heq]
      obtain ⟨hscreen, hpreview, hsigned⟩ := @swapFinalize_spec env { app with summary }
      exact ⟨hscreen, hpreview, hsigned.imp_right fun ⟨hsignature, happend⟩ =>
        ⟨hsignature, ⟨summary, kinds, rfl, hkinds, hvalid⟩, happend⟩⟩

/-- Signing with descriptors signs nothing but after their check. -/
theorem signWithDescriptors_swap (messageBody : Parser) (header : MessageHeader) :
    (signWithDescriptors env app messageBody header).2.screen = app.screen ∧
      (signWithDescriptors env app messageBody header).2.previewState = app.previewState ∧
      ((signWithDescriptors env app messageBody header).2.signed = app.signed ∨
        (∃ signature, (signWithDescriptors env app messageBody header).1 =
          .swapFinalize signature) ∧
          processMessageBodyWithDescriptor env app messageBody header = .ok () ∧
          (signWithDescriptors env app messageBody header).2.signed
            = app.signed ++ [(app.command.derivationPath, app.command.message)]) := by
  unfold signWithDescriptors
  simp only
  split
  · exact ⟨rfl, rfl, .inl rfl⟩
  · split
    · exact ⟨rfl, rfl, .inl rfl⟩
    · split
      · rename_i hvalid
        obtain ⟨hscreen, hpreview, hsigned⟩ := @swapFinalize_spec env
          app.resetSavedDescriptors.resetTrustedInfo.resetDynamicTokenInfo
        exact ⟨hscreen, hpreview, hsigned.imp_right fun ⟨hsignature, happend⟩ =>
          ⟨hsignature, hvalid, happend⟩⟩
      · exact ⟨rfl, rfl, .inl rfl⟩
      · exact ⟨rfl, rfl, .inl rfl⟩

/-- **A message is signed in a swap only after its validation.** -/
theorem handleSignMessageParseMessage_swap (hswap : app.calledFromSwap = true)
    (hpreview : app.previewState = none) :
    (handleSignMessageParseMessage env frame app).2.screen = app.screen ∧
      app.SwapHandled env frame (handleSignMessageParseMessage env frame app) := by
  unfold handleSignMessageParseMessage
  split
  · exact ⟨rfl, hpreview, .inl rfl⟩
  · exact ⟨rfl, hpreview, .inl rfl⟩
  rename_i header messageBody hheader
  split
  · exact ⟨rfl, hpreview, .inl rfl⟩
  rename_i signerPubkey hsigner
  split
  · exact ⟨rfl, hpreview, .inl rfl⟩
  simp only
  split
  · rename_i hsome
    obtain ⟨hscreen, hpreview', hsigned⟩ := @signWithDescriptors_swap env app.resetSummary
      messageBody header
    exact ⟨hscreen, hpreview'.trans hpreview, hsigned.imp_right fun ⟨hsignature, hvalid, happend⟩ =>
      ⟨hsignature, ⟨header, messageBody, hheader, .inl ⟨hsome, hvalid⟩⟩, happend⟩⟩
  · rename_i hnone
    obtain ⟨hscreen, hpreview', hsigned⟩ := @signWithSummary_swap env frame app.resetSummary hswap
      messageBody (app.printConfig header signerPubkey)
    exact ⟨hscreen, hpreview'.trans hpreview, hsigned.imp_right
      fun ⟨hsignature, ⟨summary, kinds, hbody, hkinds, hvalid⟩, happend⟩ =>
        ⟨hsignature, ⟨header, messageBody, hheader,
          .inr ⟨by simpa using hnone, signerPubkey, summary,
          kinds, hsigner, hbody, hkinds, hvalid⟩⟩, happend⟩⟩

end

/-! ## Off-chain messages -/

/-- **The command has an off-chain message that is put up for review**: it is well formed, for the
signer, and of a text that is shown or may be signed blindly. -/
def Command.ShowsOffchain (env : Env) (settings : AppSettings) (command : Command) : Prop :=
  command.nonConfirm = false ∧ command.message.length ≤ packetDataSize ∧
    ∃ header p publicKey signer,
      parseOffchainMessageHeader ⟨0, command.message⟩ = .ok (header, p) ∧
      checkOffchainHeader header p.buffer = .ok () ∧
      env.getPublicKey command.derivationPath = some publicKey ∧
      (getPubkeyIndex publicKey header.signers).bind (header.signers[·]?) = some signer ∧
      (isDataAscii p.buffer = true ∨
        isDataUtf8 p.buffer = true ∧ ¬(header.version = 0 ∧ header.format = 0) ∧
          settings.allowBlindSign = true)

/-- The items of an off-chain message fit, and there is a primary one where there is any. -/
theorem exists_preparePrimaryItems (expertMode isAscii : Bool) (messageHash : Hash)
    (header : OffchainMessageHeader) (signer : Ptr Pubkey) :
    ∃ s hasPrimaryItem, preparePrimaryItems expertMode isAscii messageHash header signer .reset
        = .ok (s, hasPrimaryItem) ∧ (hasPrimaryItem && s.primary.isNone) = false := by
  unfold preparePrimaryItems uiApplicationDomain
  rcases expertMode with _ | _
  · rcases isAscii with _ | _ <;> exact ⟨_, _, rfl, rfl⟩
  · by_cases hsigners : header.signers.length > 1 <;> by_cases hversion : header.version = 0 <;>
      simp only [hsigners, hversion, if_true, if_false] <;>
      rcases header.applicationDomain with _ | domain <;> try exact ⟨_, _, rfl, rfl⟩
    all_goals
      by_cases hdomain : domain.val = Block.zero 32 <;> simp only [hdomain, if_true, if_false] <;>
        exact ⟨_, _, rfl, rfl⟩

section

variable {env : Env} {app : App}

theorem setupOffchainSigningUi_spec (header : OffchainMessageHeader) (isAscii : Bool)
    (signer : Ptr Pubkey) :
    ∃ summary, setupOffchainSigningUi header isAscii signer app
      = { app with summary, buffers := .reset : App }.startReview := by
  obtain ⟨s, hasPrimaryItem, hitems, hprimary⟩ := exists_preparePrimaryItems
    app.settings.expertMode isAscii app.command.messageHash header signer
  unfold setupOffchainSigningUi
  rw [hitems]
  simp only [hprimary]
  exact ⟨s, rfl⟩

/-- **When the handler of off-chain messages puts up a review**; it signs nothing. -/
theorem handleSignOffchainMessage_spec :
    (handleSignOffchainMessage env app).2.signed = app.signed ∧
      (handleSignOffchainMessage env app).2.previewState = app.previewState ∧
      (¬app.command.ShowsOffchain env app.settings ∧
          ((handleSignOffchainMessage env app).2.screen = app.screen ∨
            (handleSignOffchainMessage env app).2.screen = .page) ∨
        app.command.ShowsOffchain env app.settings ∧
          (handleSignOffchainMessage env app).1 = .pending ∧
          ∃ reviewed, (handleSignOffchainMessage env app).2.screen = .review reviewed) := by
  unfold handleSignOffchainMessage
  split
  · rename_i hconfirm
    exact ⟨rfl, rfl, .inl ⟨fun h => by simp [h.1] at hconfirm, .inl rfl⟩⟩
  rename_i hconfirm
  split
  · rename_i hlong
    exact ⟨rfl, rfl, .inl ⟨fun h => absurd h.2.1 (by omega), .inl rfl⟩⟩
  rename_i hlong
  split
  · rename_i hparse
    refine ⟨rfl, rfl, .inl ⟨fun ⟨_, _, header, p, _, _, hok, _⟩ => ?_, .inl rfl⟩⟩
    rw [hparse] at hok
    cases hok
  · rename_i hparse
    refine ⟨rfl, rfl, .inl ⟨fun ⟨_, _, header, p, _, _, hok, _⟩ => ?_, .inl rfl⟩⟩
    rw [hparse] at hok
    cases hok
  rename_i header p hparse
  have hheader : ∀ header' p', parseOffchainMessageHeader ⟨0, app.command.message⟩
      = .ok (header', p') → header' = header ∧ p' = p := fun header' p' h => by
    rw [hparse] at h
    cases h
    exact ⟨rfl, rfl⟩
  simp only
  split
  · rename_i hcheck
    refine ⟨rfl, rfl, .inl ⟨fun ⟨_, _, header', p', _, _, hok, hvalid, _⟩ => ?_, .inl rfl⟩⟩
    obtain ⟨rfl, rfl⟩ := hheader _ _ hok
    rw [hcheck] at hvalid
    cases hvalid
  rename_i hcheck
  split
  · rename_i hkey
    refine ⟨rfl, rfl, .inl ⟨fun ⟨_, _, _, _, _, _, _, _, hsome, _⟩ => ?_, .inl rfl⟩⟩
    rw [hkey] at hsome
    cases hsome
  rename_i publicKey hkey
  split
  · rename_i hsigner
    refine ⟨rfl, rfl, .inl
      ⟨fun ⟨_, _, header', p', publicKey', _, hok, _, hsome, hsigner', _⟩ => ?_,
      .inl rfl⟩⟩
    obtain ⟨rfl, rfl⟩ := hheader _ _ hok
    obtain rfl : publicKey = publicKey' := Option.some.inj (hkey.symm.trans hsome)
    rw [hsigner] at hsigner'
    cases hsigner'
  rename_i signer hsigner
  -- what is left is the text
  have hshows : app.command.ShowsOffchain env app.settings ↔ (isDataAscii p.buffer = true ∨
      isDataUtf8 p.buffer = true ∧ ¬(header.version = 0 ∧ header.format = 0) ∧
        app.settings.allowBlindSign = true) := by
    constructor
    · rintro ⟨_, _, header', p', _, _, hok, _, _, _, htext⟩
      obtain ⟨rfl, rfl⟩ := hheader _ _ hok
      exact htext
    · exact fun htext => ⟨by simpa using hconfirm, by omega, header, p, publicKey, signer, hparse,
        hcheck, hkey, hsigner, htext⟩
  rw [hshows]
  split
  · rename_i hutf8
    exact ⟨rfl, rfl, .inl ⟨by simp_all, .inl rfl⟩⟩
  rename_i hutf8
  split
  · rename_i hformat
    exact ⟨rfl, rfl, .inl ⟨by simp_all, .inl rfl⟩⟩
  rename_i hformat
  split
  · rename_i hblind
    exact ⟨rfl, rfl, .inl ⟨by simp_all, .inr rfl⟩⟩
  rename_i hblind
  obtain ⟨summary, hreview⟩ := @setupOffchainSigningUi_spec
    { app with command := { app.command with
        messageTextStart := some (offchainMessageHeaderLength header)
        messageHash := if (!isDataAscii p.buffer || app.settings.expertMode) = true then
          (env.sdk.sha256 p.buffer).getD app.command.messageHash else app.command.messageHash } }
    header (isDataAscii p.buffer) signer
  rw [hreview]
  refine ⟨rfl, rfl, .inr ⟨?_, rfl, _, rfl⟩⟩
  cases hascii : isDataAscii p.buffer <;> simp_all

end

/-! ## Commands -/

section

variable {env : Env} {frame : ℕ → Hash} {memory : Bool} {app : App}

theorem handleGetPubkey_swap (hpreview : app.previewState = none) (hscreen : app.NoReview) :
    (handleGetPubkey env app).2.NoReview ∧
      app.SwapHandled env frame (handleGetPubkey env app) := by
  unfold handleGetPubkey
  split
  · exact ⟨hscreen, hpreview, .inl rfl⟩
  · simp only
    split
    · exact ⟨hscreen, hpreview, .inl rfl⟩
    · exact ⟨fun _ h => (nomatch h), hpreview, .inl rfl⟩

theorem handleSignMessageDelayed_swap (hpreview : app.previewState = none)
    (hscreen : app.NoReview) :
    (handleSignMessageDelayed env app).2.NoReview ∧
      app.SwapHandled env frame (handleSignMessageDelayed env app) := by
  unfold handleSignMessageDelayed handleSignMessageDelayedInternal
  rw [hpreview]
  exact ⟨hscreen, rfl, .inl rfl⟩

theorem handleProvideInstructionDescriptor_swap (hpreview : app.previewState = none)
    (hscreen : app.NoReview) :
    (handleProvideInstructionDescriptor env memory app).2.NoReview ∧
      app.SwapHandled env frame (handleProvideInstructionDescriptor env memory app) := by
  unfold handleProvideInstructionDescriptor
  repeat' split
  all_goals first
    | exact ⟨hscreen, hpreview, .inl rfl⟩
    | skip
  all_goals
    simp only
    split <;> exact ⟨hscreen, hpreview, .inl rfl⟩

theorem handleProvideTrustedInfo_swap (hpreview : app.previewState = none)
    (hscreen : app.NoReview) :
    (handleProvideTrustedInfo env memory app).2.NoReview ∧
      app.SwapHandled env frame (handleProvideTrustedInfo env memory app) := by
  unfold handleProvideTrustedInfo
  simp only
  split <;> exact ⟨hscreen, hpreview, .inl rfl⟩

theorem handleProvideDynamicDescriptor_swap (hpreview : app.previewState = none)
    (hscreen : app.NoReview) :
    (handleProvideDynamicDescriptor env memory app).2.NoReview ∧
      app.SwapHandled env frame (handleProvideDynamicDescriptor env memory app) := by
  unfold handleProvideDynamicDescriptor
  simp only
  split <;> exact ⟨hscreen, hpreview, .inl rfl⟩

/-- **No command but an off-chain message puts up a review in a swap**, and none signs but by way
of `swap_finalize`. -/
theorem dispatch_swap (hswap : app.calledFromSwap = true) (hpreview : app.previewState = none)
    (hscreen : app.NoReview) (instruction : InstructionCode) :
    ((dispatch env frame memory app instruction).2.NoReview ↔
        ¬(instruction = .signOffchainMessage ∧ app.command.ShowsOffchain env app.settings)) ∧
      app.SwapHandled env frame (dispatch env frame memory app instruction) := by
  have hother : ∀ {r : Outcome × App}, instruction ≠ .signOffchainMessage →
      r.2.NoReview ∧ app.SwapHandled env frame r →
      (r.2.NoReview ↔ ¬(instruction = .signOffchainMessage ∧
        app.command.ShowsOffchain env app.settings)) ∧ app.SwapHandled env frame r :=
    fun hne h => ⟨iff_of_true h.1 fun hoffchain => hne hoffchain.1, h.2⟩
  have hsame : ∀ outcome, App.NoReview (outcome, app).2 ∧
    app.SwapHandled env frame (outcome, app) :=
    fun _ => ⟨hscreen, hpreview, .inl rfl⟩
  have hparse : (handleSignMessageParseMessage env frame app).2.NoReview ∧
      app.SwapHandled env frame (handleSignMessageParseMessage env frame app) := by
    obtain ⟨hsame, hhandled⟩ := @handleSignMessageParseMessage_swap env frame app hswap hpreview
    exact ⟨fun reviewed h => hscreen reviewed (hsame.symm.trans h), hhandled⟩
  rcases instruction with _ | _ | _ | _ | _ | _ | _ | _ | _ | _ | _ | _ | _
  case signOffchainMessage =>
    obtain ⟨hsigned, hpreview', ⟨hnot, hscreen'⟩ | ⟨hshows, -, reviewed, hreview⟩⟩ :=
      @handleSignOffchainMessage_spec env app
    · refine ⟨iff_of_true (fun reviewed h => ?_) fun h => hnot h.2,
        hpreview'.trans hpreview, .inl hsigned⟩
      rcases hscreen' with hsame' | hpage
      · exact hscreen reviewed (hsame'.symm.trans h)
      · cases hpage.symm.trans h
    · exact ⟨iff_of_false (fun h => h reviewed hreview) fun h => h ⟨rfl, hshows⟩,
        hpreview'.trans hpreview, .inl hsigned⟩
  case signMessagePreview =>
    refine hother (by simp) ?_
    change App.NoReview (if app.calledFromSwap then app.sendSw .sdkNotSupported else _).2 ∧
      app.SwapHandled env frame (if app.calledFromSwap then app.sendSw .sdkNotSupported else _)
    rw [if_pos hswap]
    exact hsame _
  case deprecatedGetAppConfiguration => exact hother (by simp) (hsame _)
  case getAppConfiguration => exact hother (by simp) (hsame _)
  case trustedInfoGetChallenge => exact hother (by simp) (hsame _)
  case deprecatedGetPubkey => exact hother (by simp) (handleGetPubkey_swap hpreview hscreen)
  case getPubkey => exact hother (by simp) (handleGetPubkey_swap hpreview hscreen)
  case deprecatedSignMessage => exact hother (by simp) hparse
  case signMessage => exact hother (by simp) hparse
  case signMessageDelayed =>
    exact hother (by simp) (handleSignMessageDelayed_swap hpreview hscreen)
  case trustedInfoProvideInstructionDescriptor =>
    exact hother (by simp) (handleProvideInstructionDescriptor_swap hpreview hscreen)
  case trustedInfoProvideInfo =>
    exact hother (by simp) (handleProvideTrustedInfo_swap hpreview hscreen)
  case trustedInfoProvideDynamicDescriptor =>
    exact hother (by simp) (handleProvideDynamicDescriptor_swap hpreview hscreen)

end

/-! ## Runs -/

/-- **The event brings an off-chain message that is put up for review.** -/
def App.ShowsOffchain (env : Env) (app : App) (event : Event) : Prop :=
  app.running = true ∧ ∃ bytes memory frame command, event = .apdu bytes memory frame ∧
    apduHandleMessage (maxMessageLength env.usbSegmentSize) bytes app.command = .ok command ∧
    command.state ≠ .payloadInProgress ∧ command.instruction = some .signOffchainMessage ∧
    command.ShowsOffchain env app.settings

/-- The event signs the message of its command, which passes the swap validation, by way of
`swap_finalize`. -/
def App.SignsSwap (env : Env) (app : App) (event : Event) : Prop :=
  ∃ bytes memory frame command, event = .apdu bytes memory frame ∧
    apduHandleMessage (maxMessageLength env.usbSegmentSize) bytes app.command = .ok command ∧
    (∃ signature, (app.react env event).1 = .swapFinalize signature) ∧
    ({ app with command } : App).PassesSwapValidation env frame ∧
    (app.step env event).signed = app.signed ++ [(command.derivationPath, command.message)]

/-- **The app is in a swap**: it has approved nothing, shows no review, and left with its first
signature. -/
structure App.InSwap (app : App) : Prop where
  calledFromSwap_eq : app.calledFromSwap = true
  previewState_eq : app.previewState = none
  noReview : app.NoReview
  approvals_eq : app.approvals = []
  signed : app.signed = [] ∨ app.running = false ∧ app.signed.length = 1

section

variable {env : Env} {app : App}

theorem handleCommand_swap {frame : ℕ → Hash} {memory : Bool} (hswap : app.calledFromSwap = true)
    (hpreview : app.previewState = none) (hscreen : app.NoReview) :
    ((handleCommand env frame memory app).2.NoReview ↔
        ¬(app.command.state ≠ .payloadInProgress ∧
          app.command.instruction = some .signOffchainMessage ∧
          app.command.ShowsOffchain env app.settings)) ∧
      app.SwapHandled env frame (handleCommand env frame memory app) := by
  have hclear : app.clearPreviewState = app := by
    rw [App.clearPreviewState, ← hpreview]
  have hcomplete : ∀ instruction, dispatch env frame memory
      (if instruction = .signMessageDelayed then app else app.clearPreviewState) instruction
        = dispatch env frame memory app instruction := fun instruction => by rw [hclear, ite_self]
  unfold handleCommand
  rcases hstate : app.command.state with _ | _ | _
  · rcases hins : app.command.instruction with _ | instruction
    · exact ⟨iff_of_true hscreen (by simp), hpreview, .inl rfl⟩
    · simpa [hcomplete] using @dispatch_swap env frame memory app hswap hpreview
        hscreen instruction
  · exact ⟨iff_of_true hscreen (by simp), hpreview, .inl rfl⟩
  · rcases hins : app.command.instruction with _ | instruction
    · exact ⟨iff_of_true hscreen (by simp), hpreview, .inl rfl⟩
    · simpa [hcomplete] using @dispatch_swap env frame memory app hswap hpreview
        hscreen instruction

/-- **What an APDU does in a swap.** -/
theorem step_apdu_swap (h : app.InSwap) (hrun : app.running = true) (bytes : List UInt8)
    (memory : Bool) (frame : ℕ → Hash) :
    ((app.step env (.apdu bytes memory frame)).NoReview ↔
        ¬app.ShowsOffchain env (.apdu bytes memory frame)) ∧
      (app.step env (.apdu bytes memory frame)).previewState = none ∧
      ((app.step env (.apdu bytes memory frame)).signed = app.signed ∨
        app.SignsSwap env (.apdu bytes memory frame)) := by
  by_cases hbytes : bytes = []
  · subst hbytes
    rw [step_of_running hrun]
    refine ⟨iff_of_true h.noReview ?_, h.previewState_eq, .inl rfl⟩
    rintro ⟨-, bytes, memory, frame, command, hevent, hok, -⟩
    cases hevent
    cases hok
  have hreact := @react_apdu env app bytes hbytes memory frame
  rcases hok : apduHandleMessage (maxMessageLength env.usbSegmentSize) bytes app.command
    with sw | command
  · have herror : app.react env (.apdu bytes memory frame)
        = ({ app with command := .clear } : App).sendSw sw := by
      rw [hreact, handleApdu, hok]
    rw [step_of_running hrun, herror]
    refine ⟨iff_of_true h.noReview ?_, h.previewState_eq, .inl rfl⟩
    rintro ⟨-, bytes', memory', frame', command', hevent, hok', -⟩
    cases hevent
    rw [hok] at hok'
    cases hok'
  · have hcommand : app.react env (.apdu bytes memory frame)
        = handleCommand env frame memory { app with command } := by
      rw [hreact, handleApdu, hok]
    obtain ⟨hreview, hpreview, hsigned⟩ := @handleCommand_swap env { app with command } frame memory
      h.calledFromSwap_eq h.previewState_eq h.noReview
    refine ⟨?_, ?_, ?_⟩
    · rw [step_of_running hrun, hcommand]
      refine hreview.trans (not_congr ⟨fun hshows => ?_, ?_⟩)
      · exact ⟨hrun, bytes, memory, frame, command, rfl, hok, hshows⟩
      · rintro ⟨-, bytes', memory', frame', command', hevent, hok', hshows⟩
        cases hevent
        obtain rfl : command = command' := Except.ok.inj (hok.symm.trans hok')
        exact hshows
    · rw [step_of_running hrun, hcommand]
      exact hpreview
    · rcases hsigned with hsame | ⟨hfinalize, hvalid, happend⟩
      · rw [step_of_running hrun, hcommand]
        exact .inl hsame
      · refine .inr ⟨bytes, memory, frame, command, rfl, hok, ?_, hvalid, ?_⟩
        · rw [hcommand]
          exact hfinalize
        · rw [step_of_running hrun, hcommand]
          exact happend

/-- Without a review there is nothing to approve, and the user's choices sign nothing. -/
theorem choose_noReview (hscreen : app.NoReview) (confirm memory : Bool) :
    (app.choose env confirm memory).2.NoReview ∧
      (app.choose env confirm memory).2.previewState = app.previewState ∧
      (app.choose env confirm memory).2.approvals = app.approvals ∧
      (app.choose env confirm memory).2.signed = app.signed ∧
      (app.choose env confirm memory).2.calledFromSwap = app.calledFromSwap := by
  unfold App.choose
  split
  · rename_i reviewed hreview
    exact absurd hreview (hscreen reviewed)
  · simp only
    split <;> exact ⟨fun _ h => (nomatch h), rfl, rfl, rfl, rfl⟩
  · exact ⟨fun _ h => (nomatch h), rfl, rfl, rfl, rfl⟩

/-- **One step signs nothing, or the message of a command that passes the swap validation.** -/
theorem signed_step (h : app.InSwap) (event : Event) :
    (app.step env event).signed = app.signed ∨ app.running = true ∧ app.SignsSwap env event := by
  rcases hrun : app.running with _ | _
  · rw [step_of_not_running hrun]
    exact .inl rfl
  · rcases event with ⟨bytes, memory, frame⟩ | ⟨confirm, memory⟩ | settings
    · exact (step_apdu_swap h hrun bytes memory frame).2.2.imp_right fun hsigns => ⟨rfl, hsigns⟩
    · rw [step_of_running hrun]
      exact .inl (@choose_noReview env app h.noReview confirm memory).2.2.2.1
    · rw [step_of_running hrun]
      exact .inl rfl

/-- **One step leaves the app in the swap** exactly when it puts up no off-chain message. -/
theorem inSwap_step_iff (h : app.InSwap) (event : Event) :
    (app.step env event).InSwap ↔ ¬app.ShowsOffchain env event := by
  rcases hrun : app.running with _ | _
  · rw [step_of_not_running hrun]
    exact iff_of_true h fun hshows => absurd hshows.1 (by simp [hrun])
  have hsigned : ∀ event, (app.step env event).signed = [] ∨
      (app.step env event).running = false ∧ (app.step env event).signed.length = 1 :=
        fun event => by
    have hnone : app.signed = [] := h.signed.resolve_right fun hstopped =>
      absurd hstopped.1 (by simp [hrun])
    rcases signed_step h event with hsame | ⟨-, bytes, memory, frame, command, -, -, ⟨signature,
      hfinalize⟩, -, happend⟩
    · exact .inl (hsame.trans hnone)
    · refine .inr ⟨?_, by rw [happend, hnone]; rfl⟩
      rw [step_of_running hrun, hfinalize]
      rfl
  rcases event with ⟨bytes, memory, frame⟩ | ⟨confirm, memory⟩ | settings
  · obtain ⟨hreview, hpreview, -⟩ := @step_apdu_swap env app h hrun bytes memory frame
    refine ⟨fun hstep => hreview.mp hstep.noReview, fun hshows => ⟨?_, hpreview, hreview.mpr hshows,
      ?_, hsigned _⟩⟩
    all_goals rw [step_of_running hrun]
    all_goals
      by_cases hbytes : bytes = []
      · subst hbytes
        first | exact h.calledFromSwap_eq | exact h.approvals_eq
      rw [react_apdu hbytes]
      obtain ⟨command, previewState, -, hhandled⟩ :=
        handled_handleApdu env frame memory app bytes
    · exact hhandled.calledFromSwap_eq.trans h.calledFromSwap_eq
    · exact hhandled.approvals_eq.trans h.approvals_eq
  · have hchoose := @choose_noReview env app h.noReview confirm memory
    refine iff_of_true ?_ fun ⟨_, _, _, _, _, hevent, _⟩ => (nomatch hevent)
    have hsigned' := hsigned (.choice confirm memory)
    rw [step_of_running hrun] at hsigned' ⊢
    exact ⟨hchoose.2.2.2.2.trans h.calledFromSwap_eq,
      hchoose.2.1.trans h.previewState_eq, hchoose.1,
      hchoose.2.2.1.trans h.approvals_eq, hsigned'⟩
  · refine iff_of_true ?_ fun ⟨_, _, _, _, _, hevent, _⟩ => (nomatch hevent)
    have hsigned' := hsigned (.setSettings settings)
    rw [step_of_running hrun] at hsigned' ⊢
    exact ⟨h.calledFromSwap_eq, h.previewState_eq, h.noReview, h.approvals_eq, hsigned'⟩

end

/-- What Exchange starts is in a swap. -/
theorem inSwap_startFromExchange {env : Env} {params : CreateTransactionParameters}
    {settings : AppSettings} {app : App}
    (h : App.startFromExchange env params settings = some app) : app.InSwap := by
  obtain ⟨swap, -, rfl⟩ := Option.map_eq_some_iff.mp h
  exact ⟨rfl, rfl, fun _ hreview => (nomatch hreview), rfl, .inl rfl⟩

/-- **An app that Exchange started signs at most once, by way of `swap_finalize` and after the swap
validation, and shows no review**, in every run in which no off-chain message is put up; a further
event keeps that so exactly when it puts none up. -/
theorem inSwap_of_guarded {env : Env} {params : CreateTransactionParameters}
    {settings : AppSettings} {app : App}
    (hstart : App.startFromExchange env params settings = some app)
    {events : List Event}
    (hrun : Run.Guarded (App.step env) (fun app event => ¬app.ShowsOffchain env event) app events) :
    (Run.final (App.step env) app events).InSwap ∧
      ∀ event,
        ((Run.final (App.step env) app (events ++ [event])).signed
            = (Run.final (App.step env) app events).signed ∨
          (Run.final (App.step env) app events).SignsSwap env event) ∧
        ((Run.final (App.step env) app (events ++ [event])).InSwap ↔
          ¬(Run.final (App.step env) app events).ShowsOffchain env event) := by
  have hfinal : (Run.final (App.step env) app events).InSwap :=
    @Run.invariant _ _ _ _ _ App.InSwap (fun _ _ h hevent => (inSwap_step_iff h _).mpr hevent) _
      (inSwap_startFromExchange hstart) hrun
  refine ⟨hfinal, fun event => ?_⟩
  rw [Run.final_append, Run.final_cons, Run.final_nil]
  exact ⟨(signed_step hfinal event).imp_right And.right, inSwap_step_iff hfinal event⟩

/-! ## A swap that signs, and an off-chain message in a swap -/

theorem guarded_descriptor :
    Run.Guarded (App.step exchangeEnv) (fun app event => ¬app.ShowsOffchain exchangeEnv event)
      crosschainApp [.plain (descriptorApdu 7)] := by
  refine ⟨?_, trivial⟩
  rintro ⟨-, bytes, memory, frame, command, hevent, hok, -, hins, -⟩
  obtain ⟨rfl, rfl, rfl⟩ := Event.apdu.inj hevent
  have hcommand : (apduHandleMessage (maxMessageLength exchangeEnv.usbSegmentSize)
    (descriptorApdu 7)
      crosschainApp.command).toOption.map (·.instruction)
        = some (some .trustedInfoProvideInstructionDescriptor) := by decide +kernel
  rw [hok] at hcommand
  cases hins.symm.trans (Option.some.inj hcommand)

/-- The theorem on a cross-chain swap; the transfer that follows its descriptor is signed. -/
theorem inSwap_descriptor :
    (Run.final (App.step exchangeEnv) crosschainApp
        [.plain (descriptorApdu 7), .plain transferApdu]).signed.length = 1 ∧
      (Run.final (App.step exchangeEnv) crosschainApp [.plain (descriptorApdu 7)]).InSwap ∧
      ∀ event,
        ((Run.final (App.step exchangeEnv) crosschainApp
          ([.plain (descriptorApdu 7)] ++ [event])).signed
            = (Run.final (App.step exchangeEnv) crosschainApp [.plain (descriptorApdu 7)]).signed ∨
          (Run.final (App.step exchangeEnv) crosschainApp
            [.plain (descriptorApdu 7)]).SignsSwap exchangeEnv event) ∧
        ((Run.final (App.step exchangeEnv) crosschainApp
            ([.plain (descriptorApdu 7)] ++ [event])).InSwap ↔
          ¬(Run.final (App.step exchangeEnv) crosschainApp
            [.plain (descriptorApdu 7)]).ShowsOffchain exchangeEnv event) :=
  ⟨by decide +kernel, inSwap_of_guarded crosschainApp_start guarded_descriptor⟩

/-- **An app that Exchange started puts up an off-chain message for review, and signs it when the
user approves.** -/
theorem offchainApdu_in_swap :
    App.startFromExchange exchangeEnv (exchangeParameters none) ⟨false, false, false⟩
        = some standardApp ∧
      (∃ reviewed, (Run.final (App.step exchangeEnv) standardApp
        [.plain offchainApdu]).screen = .review reviewed) ∧
      (Run.final (App.step exchangeEnv) standardApp
        [.plain offchainApdu, .choice true true]).signed.length = 1 ∧
      (Run.final (App.step exchangeEnv) standardApp
        [.plain offchainApdu, .choice true true]).approvals.length = 1 := by
  refine ⟨standardApp_start, ?_, by decide, by decide⟩
  have hreview : (Run.final (App.step exchangeEnv) standardApp [.plain offchainApdu]).screen
      = .review (Run.final (App.step exchangeEnv) standardApp
        [.plain offchainApdu]).command.data := by
    decide
  exact ⟨_, hreview⟩

end AgencLedger
