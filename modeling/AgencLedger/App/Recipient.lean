import AgencLedger.App.Stores
import AgencLedger.Review.Recipient

/-!
# App/Recipient — where the recipient that a token transfer shows comes from

The owner behind the destination of a transfer is not in the message.  An earlier command brought
it, in trusted information that was received as a whole; no other command brings any, and while a
review is on the screen the information it shows stays.
-/

namespace AgencLedger

/-! ## Trusted information -/

/-- The texts of the information are the base58 encodings of its keys. -/
structure TrustedInfo.Decoded (sdk : Sdk) (info : TrustedInfo) : Prop where
  owner : sdk.base58Decode info.encodedOwnerAddress.chars 32 = some info.ownerAddress.data
  token : sdk.base58Decode info.encodedTokenAddress.chars 32 = some info.tokenAddress.data
  mint : sdk.base58Decode info.encodedMintAddress.chars 32 = some info.mintAddress.data

/-- **The event brings the information**: it completes a command that provides it, the payload
passes all checks, and the command is answered with success. -/
structure App.Receives (env : Env) (app : App) (event : Event) (info : TrustedInfo) : Prop where
  running : app.running = true
  command : ∃ bytes memory frame command, event = .apdu bytes memory frame ∧ bytes ≠ [] ∧
    apduHandleMessage (maxMessageLength env.usbSegmentSize) bytes app.command = .ok command ∧
    command.state ≠ .payloadInProgress ∧ command.instruction = some .trustedInfoProvideInfo ∧
    handleProvideTrustedInfoInternal env
      (App.clearPreviewState { app with command }) = some info
  success : (app.react env event).1 = .status .success

section

variable {env : Env} {app : App}

theorem base58Decode_of_copyAndDecodePubkey {sdk : Sdk} {encodedAddress : List UInt8}
    {text : CString} {key : Pubkey}
    (h : copyAndDecodePubkey sdk encodedAddress = some (text, key)) :
    sdk.base58Decode text.chars 32 = some key.data := by
  unfold copyAndDecodePubkey at h
  split at h
  · cases h
  · simp only at h
    split at h
    · rename_i decoded hdecode
      split at h
      · cases h
        exact hdecode
      · cases h
    · cases h

/-- What the handler returns was received, and its texts decode to its keys. -/
theorem decoded_of_handleProvideTrustedInfoInternal {info : TrustedInfo}
    (h : handleProvideTrustedInfoInternal env app = some info) :
    info.received = true ∧ info.Decoded env.sdk := by
  unfold handleProvideTrustedInfoInternal at h
  obtain ⟨out, -, h⟩ := Option.bind_eq_some_iff.mp h
  split at h
  · cases h
  split at h
  · cases h
  split at h
  · cases h
  split at h
  · cases h
  obtain ⟨⟨encodedOwner, owner⟩, howner, h⟩ := Option.bind_eq_some_iff.mp h
  obtain ⟨⟨encodedToken, token⟩, htoken, h⟩ := Option.bind_eq_some_iff.mp h
  obtain ⟨⟨encodedMint, mint⟩, hmint, h⟩ := Option.bind_eq_some_iff.mp h
  cases h
  exact ⟨rfl, base58Decode_of_copyAndDecodePubkey howner,
    base58Decode_of_copyAndDecodePubkey htoken, base58Decode_of_copyAndDecodePubkey hmint⟩

theorem App.Receives.decoded {event : Event} {info : TrustedInfo}
    (h : app.Receives env event info) : info.Decoded env.sdk := by
  obtain ⟨bytes, memory, frame, command, -, -, -, -, -, hinfo⟩ := h.command
  exact (decoded_of_handleProvideTrustedInfoInternal hinfo).2

/-! ## Where it comes from -/

/-- What `handle_provide_trusted_info` leaves is what its payload brings. -/
theorem trustedInfo_handleProvideTrustedInfo {memory : Bool} {info : TrustedInfo}
    (h : (handleProvideTrustedInfo env memory app).2.trustedInfo = some info) :
    handleProvideTrustedInfoInternal env app = some info ∧
      (handleProvideTrustedInfo env memory app).1 = .status .success := by
  unfold handleProvideTrustedInfo at h ⊢
  rcases hbrought : (if app.trustedInfo.isNone && !memory then none
    else handleProvideTrustedInfoInternal env app) with _ | brought
  · rw [hbrought] at h
    cases h
  · rw [hbrought] at h
    obtain rfl : brought = info := Option.some.inj h
    refine ⟨?_, rfl⟩
    split at hbrought
    · cases hbrought
    · exact hbrought

/-- Only one command brings information. -/
theorem trustedInfo_dispatch {frame : ℕ → Hash} {memory : Bool} {instruction : InstructionCode}
    {info : TrustedInfo}
    (h : (dispatch env frame memory app instruction).2.trustedInfo = some info) :
    (instruction = .trustedInfoProvideInfo ∧
        handleProvideTrustedInfoInternal env app = some info ∧
        (dispatch env frame memory app instruction).1 = .status .success) ∨
      app.trustedInfo = some info := by
  by_cases hprovide : instruction = .trustedInfoProvideInfo
  · subst hprovide
    obtain ⟨hinfo, hsuccess⟩ := trustedInfo_handleProvideTrustedInfo h
    exact .inl ⟨rfl, hinfo, hsuccess⟩
  right
  by_cases hdelayed : instruction = .signMessageDelayed
  · subst hdelayed
    exact (stores_handleSignMessageDelayed app).2.1.symm.trans h
  by_cases hdescriptor : instruction = .trustedInfoProvideInstructionDescriptor
  · subst hdescriptor
    exact (stores_handleProvideInstructionDescriptor app).1.symm.trans h
  rcases (keepsStores_dispatch app hdelayed hdescriptor hprovide).trustedInfo with hsame | hnone
  · exact hsame.symm.trans h
  · exact absurd (hnone.symm.trans h) (by simp)

/-- **A step keeps the information, or brings it.** -/
theorem receives_or_trustedInfo {event : Event} {info : TrustedInfo}
    (h : (app.step env event).trustedInfo = some info) :
    app.Receives env event info ∨ app.trustedInfo = some info := by
  rcases hrun : app.running with _ | _
  · rw [step_of_not_running hrun] at h
    exact .inr h
  have hreact : (app.react env event).2.trustedInfo = some info := by
    rwa [step_of_running hrun] at h
  rcases event with ⟨bytes, memory, frame⟩ | ⟨confirm, memory⟩ | settings
  · by_cases hbytes : bytes = []
    · subst hbytes
      exact .inr hreact
    have happly := @react_apdu env app bytes hbytes memory frame
    rw [happly] at hreact
    rcases handleApdu_cases env frame memory app bytes
      with ⟨command, sw, hanswer⟩ | ⟨command, code, hok, hprogress, hcode, hdispatch⟩
    · rw [hanswer] at hreact
      exact .inr hreact
    · rw [hdispatch] at hreact
      rcases trustedInfo_dispatch hreact with ⟨rfl, hinternal, hsuccess⟩ | hkept
      · rw [if_neg (by simp)] at hinternal
        refine .inl ⟨hrun, ⟨bytes, memory, frame, command, rfl, hbytes, hok, hprogress, hcode,
          hinternal⟩, ?_⟩
        rw [happly, hdispatch]
        exact hsuccess
      · right
        split at hkept <;> exact hkept
  · rcases (@stores_choose env app confirm memory).2.1 with hsame | hnone
    · exact .inr (hsame.symm.trans hreact)
    · exact absurd (hnone.symm.trans hreact) (by simp)
  · exact .inr hreact

/-! ## While a review is on the screen -/

theorem trustedInfo_handleSignMessageUi {frame : ℕ → Hash} :
    (handleSignMessageUi env frame app).2.trustedInfo = app.trustedInfo := by
  have hfinalize : (swapFinalize env app).2.trustedInfo = app.trustedInfo := by
    unfold swapFinalize
    split <;> rfl
  unfold handleSignMessageUi
  repeat' split
  all_goals first | exact hfinalize | rfl

/-- The summary path leaves the information. -/
theorem trustedInfo_signWithSummary {frame : ℕ → Hash} {messageBody : Parser}
    {printConfig : PrintConfig} :
    (signWithSummary env frame app messageBody printConfig).2.trustedInfo = app.trustedInfo := by
  unfold signWithSummary
  rcases processMessageBody (app.tokenContext env) messageBody printConfig app.summary
    with ⟨ret, summary⟩
  simp only
  split
  · exact trustedInfo_handleSignMessageUi
  · split
    · rfl
    split
    · rfl
    split
    · rename_i blind hblind
      have hkept : blind.trustedInfo = app.trustedInfo := by
        unfold blindSigningItems at hblind
        simp only at hblind
        split at hblind
        · split at hblind
          · obtain ⟨feePayer, -, hblind⟩ := (Result.seq_ok_iff _ _ _).mp hblind
            rw [← Except.ok.inj hblind]
          · cases hblind
        · cases hblind
      exact trustedInfo_handleSignMessageUi.trans hkept
    · rfl
  · rfl

/-- The descriptor path empties the stores, and puts nothing on the screen. -/
theorem screen_signWithDescriptors {messageBody : Parser} {header : MessageHeader} :
    (signWithDescriptors env app messageBody header).2.screen = app.screen := by
  have hfinalize : ∀ app : App, (swapFinalize env app).2.screen = app.screen := fun app => by
    unfold swapFinalize
    split <;> rfl
  unfold signWithDescriptors
  simp only
  repeat' split
  all_goals first | exact hfinalize _ | rfl

theorem trustedInfo_or_screen_handleSignMessageParseMessage {frame : ℕ → Hash} :
    (handleSignMessageParseMessage env frame app).2.trustedInfo = app.trustedInfo ∨
      (handleSignMessageParseMessage env frame app).2.screen = app.screen := by
  unfold handleSignMessageParseMessage
  split
  · exact .inl rfl
  · exact .inl rfl
  split
  · exact .inl rfl
  split
  · exact .inl rfl
  simp only
  split
  · exact .inr screen_signWithDescriptors
  · exact .inl trustedInfo_signWithSummary

theorem trustedInfo_handleSignOffchainMessage :
    (handleSignOffchainMessage env app).2.trustedInfo = app.trustedInfo := by
  have hsetup : ∀ (app : App) header isAscii signer,
      (setupOffchainSigningUi header isAscii signer app).2.trustedInfo = app.trustedInfo := by
    intro app header isAscii signer
    unfold setupOffchainSigningUi
    repeat' split
    all_goals rfl
  unfold handleSignOffchainMessage
  simp only
  repeat' split
  all_goals first | rfl | exact hsetup _ _ _ _

/-- **A handler leaves the information or the screen.** -/
theorem trustedInfo_or_screen_dispatch {frame : ℕ → Hash} {memory : Bool}
    {instruction : InstructionCode} :
    (dispatch env frame memory app instruction).2.trustedInfo = app.trustedInfo ∨
      (dispatch env frame memory app instruction).2.screen = app.screen := by
  rcases instruction with _ | _ | _ | _ | _ | _ | _ | _ | _ | _ | _ | _ | _
  case deprecatedGetPubkey | getPubkey =>
    change (handleGetPubkey env app).2.trustedInfo = app.trustedInfo ∨ _
    left
    unfold handleGetPubkey
    split
    · rfl
    · simp only
      split <;> rfl
  case deprecatedSignMessage | signMessage =>
    exact trustedInfo_or_screen_handleSignMessageParseMessage
  case signMessagePreview =>
    change (if app.calledFromSwap then app.sendSw .sdkNotSupported else _).2.trustedInfo = _ ∨
      (if app.calledFromSwap then app.sendSw .sdkNotSupported else _).2.screen = _
    split
    · exact .inl rfl
    · exact trustedInfo_or_screen_handleSignMessageParseMessage
  case signMessageDelayed => exact .inl (stores_handleSignMessageDelayed app).2.1
  case signOffchainMessage => exact .inl trustedInfo_handleSignOffchainMessage
  case trustedInfoProvideInstructionDescriptor =>
    exact .inl (stores_handleProvideInstructionDescriptor app).1
  case trustedInfoProvideInfo =>
    right
    change (handleProvideTrustedInfo env memory app).2.screen = app.screen
    unfold handleProvideTrustedInfo
    simp only
    split <;> rfl
  case trustedInfoProvideDynamicDescriptor =>
    left
    change (handleProvideDynamicDescriptor env memory app).2.trustedInfo = app.trustedInfo
    unfold handleProvideDynamicDescriptor
    simp only
    split <;> rfl
  all_goals exact .inl rfl

/-- The command that puts a review on the screen leaves the information. -/
theorem trustedInfo_of_startedReview {bytes : List UInt8} {memory : Bool} {frame : ℕ → Hash}
    {reviewed : CommandData} (hscreen : ∀ reviewed, app.screen ≠ .review reviewed)
    (h : (app.step env (.apdu bytes memory frame)).screen = .review reviewed) :
    (app.step env (.apdu bytes memory frame)).trustedInfo = app.trustedInfo := by
  rcases hrun : app.running with _ | _
  · rw [step_of_not_running hrun]
  rw [step_of_running hrun] at h ⊢
  by_cases hbytes : bytes = []
  · subst hbytes
    rfl
  rw [react_apdu hbytes] at h ⊢
  rcases handleApdu_cases env frame memory app bytes
    with ⟨command, sw, hanswer⟩ | ⟨command, code, -, -, -, hdispatch⟩
  · rw [hanswer]
    rfl
  · obtain ⟨sent, hsent, hinfo, hsame⟩ : ∃ sent : App,
        handleApdu env frame memory bytes app = dispatch env frame memory sent code ∧
          sent.trustedInfo = app.trustedInfo ∧ sent.screen = app.screen :=
      ⟨_, hdispatch, by split <;> rfl, by split <;> rfl⟩
    rw [hsent] at h ⊢
    rcases @trustedInfo_or_screen_dispatch env sent frame memory code with hkept | hkept
    · exact hkept.trans hinfo
    · exact absurd (hsame.symm.trans (hkept.symm.trans h)) (hscreen reviewed)

/-- The event is the user's. -/
def Event.OfUser (event : Event) : Prop :=
  ∀ bytes memory frame, event ≠ .apdu bytes memory frame

/-- A review that the user leaves on the screen was there before, with the same information. -/
theorem review_of_userStep {event : Event} (hevent : event.OfUser) {reviewed : CommandData}
    (h : (app.step env event).screen = .review reviewed) :
    app.screen = .review reviewed ∧ (app.step env event).trustedInfo = app.trustedInfo := by
  rcases hrun : app.running with _ | _
  · rw [step_of_not_running hrun] at h ⊢
    exact ⟨h, rfl⟩
  rw [step_of_running hrun] at h ⊢
  rcases event with ⟨bytes, memory, frame⟩ | ⟨confirm, memory⟩ | settings
  · exact absurd rfl (hevent bytes memory frame)
  · exfalso
    replace h : (app.choose env confirm memory).2.screen = .review reviewed := h
    unfold App.choose at h
    split at h
    · rw [(@reviewChoice_spec env app memory confirm _).1] at h
      cases h
    · simp only at h
      split at h <;> cases h
    · cases h
  · exact ⟨h, rfl⟩

/-- **While a review is on the screen, and no command comes, the information stays.** -/
theorem review_of_userRun {events : List Event} (hevents : ∀ event ∈ events, event.OfUser)
    {reviewed : CommandData}
    (h : (Run.final (App.step env) app events).screen = .review reviewed) :
    app.screen = .review reviewed ∧
      (Run.final (App.step env) app events).trustedInfo = app.trustedInfo := by
  induction events generalizing app with
  | nil => exact ⟨h, rfl⟩
  | cons event events ih =>
      obtain ⟨hevent, hevents⟩ := List.forall_mem_cons.mp hevents
      obtain ⟨hscreen, hinfo⟩ := ih hevents h
      obtain ⟨hscreen', hinfo'⟩ := review_of_userStep hevent hscreen
      exact ⟨hscreen', hinfo.trans hinfo'⟩

/-! ## The recipient -/

/-- **The recipient that a transfer shows owns its destination**: whatever came before, an accepted
message with a checked transfer finds trusted information that a command brought as a whole, and its
mint, its token account and its owner are those of the transfer; the recipient is named only by the
owner as it was received; and the information outlives the review that the next command starts. -/
theorem recipient_ownsDestination {calledFromSwap : Bool} {swap : SwapValidated}
    {settings : AppSettings} {events : List Event}
    (hrun : app = Run.final (App.step env) (.start env calledFromSwap swap settings) events)
    {messageBody : Parser} {printConfig : PrintConfig} {s : TransactionSummary}
    (h : processMessageBody (app.tokenContext env) messageBody printConfig .reset = (.ok (), s))
    {instruction : Instruction}
    (hins : instruction ∈ bodyInstructions printConfig.header
      printConfig.header.instructionsLength messageBody)
    (hprogram : instructionProgramId instruction printConfig.header = .ok .splToken)
    (htransfer : instruction.TransfersChecked) :
    ∃ info before event after, events = before ++ event :: after ∧
      (Run.final (App.step env) (.start env calledFromSwap swap settings) before).Receives env event
        info ∧
      info.Decoded env.sdk ∧ info.OwnsDestination env.sdk printConfig.header instruction ∧
      (∀ item ∈ s.usedItems, item.title = "To" → ∀ text, item.value = .string text →
        text = info.encodedOwnerAddress) ∧
      ∀ bytes memory frame more, (∀ reviewed, app.screen ≠ .review reviewed) →
        (∀ event ∈ more, event.OfUser) →
        ∀ reviewed, (Run.final (App.step env) app (.apdu bytes memory frame :: more)).screen
            = .review reviewed →
          (Run.final (App.step env) app (.apdu bytes memory frame :: more)).trustedInfo
            = some info := by
  obtain ⟨info, htrusted, -, howns, hto⟩ := ownsDestination_of_accepted h hins hprogram htransfer
  replace htrusted : app.trustedInfo = some info := htrusted
  obtain ⟨before, event, after, hevents, hreceives⟩ :=
    @Run.exists_origin _ _ (App.step env) (.start env calledFromSwap swap settings)
      (fun app => app.trustedInfo = some info) (fun app event => app.Receives env event info)
      (fun _ _ hinfo => receives_or_trustedInfo hinfo) (by intro hnone; cases hnone) events
      (hrun ▸ htrusted)
  refine ⟨info, before, event, after, hevents, hreceives, hreceives.decoded, howns, hto, ?_⟩
  intro bytes memory frame more hscreen hmore reviewed hreview
  obtain ⟨hstarted, hkept⟩ := review_of_userRun hmore hreview
  exact hkept.trans ((trustedInfo_of_startedReview hscreen hstarted).trans htrusted)

end

/-! ## The wallet as a recipient -/

/-- The environment that names the owner of the wallet's account of USDC. -/
def recipientEnv : Env :=
  .naming "9mXjp24PXrRbfBJL6eQySAHjkvTF9XedbS3Mre8XTS5g"
    "EPjFWdd5AufqSSqeM2qN1xzybapC8G4wEGGkZwyTDt1v"

/-- The app that was told so. -/
def recipientApp : App :=
  Run.final (App.step recipientEnv) (.start recipientEnv false .zero ⟨false, false, false⟩)
    [.plain (writeApdu 0x21 1 [7])]

/-- The keys of a transfer to that account. -/
def recipientKeys : List Pubkey :=
  [plainSigner, sourceAccount, usdcAccount, usdcMint, splTokenProgramId]

/-- The configuration of the transfer. -/
def recipientConfig : PrintConfig :=
  plainConfig (legacyHeader recipientKeys (by decide) 1) ⟨4, plainSigner⟩

/-- The transfer of 42 millionths. -/
def recipientTransfer : Instruction :=
  ⟨4, ⟨199, [1, 3, 2, 0]⟩, ⟨204, [12, 42, 0, 0, 0, 0, 0, 0, 0, 6]⟩⟩

/-- The body of the message that is that transfer. -/
def recipientBody : Parser :=
  legacyBody recipientKeys [writeInstruction 4 [1, 3, 2, 0] [12, 42, 0, 0, 0, 0, 0, 0, 0, 6]]

/-- Its review. -/
def recipientReview : Result Unit × TransactionSummary :=
  processMessageBody (recipientApp.tokenContext recipientEnv) recipientBody recipientConfig .reset

theorem recipientReview_ok : recipientReview.1 = .ok () := by decide +kernel

theorem eq_of_fst_ok {review : Result Unit × TransactionSummary} (h : review.1 = .ok ()) :
    review = (.ok (), review.2) :=
  Prod.ext h rfl

/-- The recipient of that transfer was brought by the only command before it. -/
theorem recipient_ownsDestination_wallet :
    ∃ info : TrustedInfo, info.OwnsDestination recipientEnv.sdk recipientConfig.header
        recipientTransfer ∧
      ∀ item ∈ recipientReview.2.usedItems, item.title = "To" →
        ∀ text, item.value = .string text → text = info.encodedOwnerAddress := by
  obtain ⟨info, -, -, -, -, -, -, howns, hto, -⟩ := @recipient_ownsDestination recipientEnv
    recipientApp false .zero ⟨false, false, false⟩ _ rfl recipientBody recipientConfig
    recipientReview.2 (eq_of_fst_ok recipientReview_ok) recipientTransfer (by decide +kernel)
    (by decide +kernel) (.inl rfl)
  exact ⟨info, howns, hto⟩

end AgencLedger
