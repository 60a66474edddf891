import AgencLedger.App.Descriptor

/-!
# App/SignMessage — signing a transaction

`handle_sign_message_parse_message` turns the message of the command into a summary.  From the
dashboard the user reviews it; started from Exchange, the app compares it with the validated swap
and signs without asking.

The swap checks do not return when they fail: `send_swap_error_*` leaves the app.
-/

namespace AgencLedger

/-! ## The swap checks -/

section

variable (swapSdk : SwapSdk) (swap : SwapValidated)

/-- What `check_swap_validity_native` makes of one item, as displayed: which of `amount_ok` and
`recipient_ok` it sets, or `none` for a swap error. -/
def checkNativeItem (kind : SummaryItemKind) (title text : List Char) : Option (Bool × Bool) :=
  match kind with
  | .amount =>
      if title = "Max fees".toList then
        if checkSwapFee swapSdk swap text then some (true, false) else none
      else if title = "Amount".toList then
        if checkSwapAmount swapSdk swap text then some (true, false) else none
      else none
  | .pubkey =>
      if title ≠ "To".toList then none
      else if checkSwapRecipient swap text then some (false, true) else none
  | _ => none

/-- The loop of `check_swap_validity_native`. -/
def checkNativeItems : List (SummaryItemKind × List Char × List Char) → Bool × Bool →
    Option (Bool × Bool)
  | [], ok => some ok
  | (kind, title, text) :: items, (amountOk, recipientOk) =>
      match checkNativeItem swapSdk swap kind title text with
      | none => none
      | some (amount, recipient) =>
          checkNativeItems items (amountOk || amount, recipientOk || recipient)

/-- `check_swap_validity_native`. -/
def checkSwapValidityNative (items : List (SummaryItemKind × List Char × List Char)) : Bool :=
  (items.length = 2 || items.length = 3) &&
    match checkNativeItems swapSdk swap items (false, false) with
    | some (amountOk, recipientOk) => amountOk && recipientOk
    | none => false

/-- The flags of `check_swap_validity_token`. -/
structure TokenFlags where
  amountOk : Bool
  mintOk : Bool
  destAtaOk : Bool
  destSolAddressOk : Bool
  createTokenAccountReceived : Bool
  deriving DecidableEq

/-- One pass of the loop of `check_swap_validity_token` over a key. -/
def checkTokenPubkey (info : TrustedInfo) (title text : List Char) (flags : TokenFlags) :
    Except SwapErrorCode TokenFlags :=
  if title = "Create token account".toList then
    if info.encodedTokenAddress.chars ≠ text then throw .generic
    else return { flags with createTokenAccountReceived := true }
  else if title = "For".toList then
    if !flags.createTokenAccountReceived then throw .unexpectedTokenContext else return flags
  else if title = "Funded by".toList then
    if !flags.createTokenAccountReceived then throw .unexpectedTokenContext else return flags
  else if title = "Token address".toList then
    if info.encodedMintAddress.chars ≠ text then throw .generic
    else return { flags with mintOk := true }
  else if title = "From (token account)".toList then return flags
  else if title = "To (token account)".toList then
    if info.encodedTokenAddress.chars ≠ text then throw .generic
    else return { flags with destAtaOk := true }
  -- any other key is passed over
  else return flags

/-- One pass of the loop of `check_swap_validity_token`. -/
def checkTokenItem (info : TrustedInfo) (kind : SummaryItemKind) (title text : List Char)
    (flags : TokenFlags) : Except SwapErrorCode TokenFlags :=
  match kind with
  | .tokenAmount =>
      if title ≠ "Amount".toList then throw .generic
      else if !checkSwapAmount swapSdk swap text then throw .generic
      else if flags.amountOk then throw .duplicateAmount
      else return { flags with amountOk := true }
  | .amount =>
      if title ≠ "Max fees".toList then throw .generic
      else if !checkSwapFee swapSdk swap text then throw .generic
      else return flags
  | .pubkey => checkTokenPubkey info title text flags
  | .string =>
      if title ≠ "To".toList then throw .generic
      else if info.encodedOwnerAddress.chars ≠ text then throw .generic
      else if !checkSwapRecipient swap text then throw .generic
      else return { flags with destSolAddressOk := true }
  | _ => throw .generic

/-- The loop of `check_swap_validity_token`. -/
def checkTokenItems (info : TrustedInfo) :
    List (SummaryItemKind × List Char × List Char) → TokenFlags → Except SwapErrorCode TokenFlags
  | [], flags => return flags
  | (kind, title, text) :: items, flags => do
      let flags ← checkTokenItem swapSdk swap info kind title text flags
      checkTokenItems info items flags

/-- `check_swap_validity_token`. -/
def checkSwapValidityToken (sdk : Sdk) (trustedInfo : Option TrustedInfo)
    (items : List (SummaryItemKind × List Char × List Char)) (isToken2022 : Bool) :
    Except SwapErrorCode Unit :=
  match trustedInfo with
  | none => throw .descriptorInfoMissing
  | some info => do
      if !info.received then throw .descriptorInfoMissing
      if !validateAssociatedTokenAddress sdk info.ownerAddress info.mintAddress info.tokenAddress
          isToken2022 then throw .ataValidationFailed
      let flags ← checkTokenItems swapSdk swap info items ⟨false, false, false, false, false⟩
      if !flags.amountOk || !flags.mintOk || !flags.destAtaOk || !flags.destSolAddressOk then
        throw .generic

end

/-- The items of a summary as the swap checks see them: the kinds found when it was finalized, and
the title and text `transaction_summary_display_item` leaves for each, whatever it returns. -/
def displayedItems (frame : ℕ → Hash) (s : TransactionSummary) (kinds : List SummaryItemKind)
    (buffers : DisplayBuffers) : List (SummaryItemKind × List Char × List Char) :=
  kinds.zip (displayAll frame s true (List.range kinds.length) buffers)

/-- `check_swap_validity`; `frame` is what the frame of a call that has returned reads. -/
def checkSwapValidity (env : Env) (frame : ℕ → Hash) (app : App) (kinds : List SummaryItemKind) :
    Except SwapErrorCode Unit :=
  let items := displayedItems frame app.summary kinds app.buffers
  match app.swap.swapMode with
  | .error => throw .invalidSwapProtocol
  | .crosschain => throw .crosschainInStandardCheck
  | .standard =>
      if isTokenTransaction app.swap then
        if app.summary.isToken2022Transfer && app.summary.feeWarning then
          throw .transferCheckedWithFeesRequired
        else if app.summary.isToken2022Transfer && app.summary.hookWarning then
          throw .transferHookRefused
        else
          checkSwapValidityToken env.swapSdk app.swap env.sdk app.trustedInfo items
            app.summary.isToken2022Transfer
      else if checkSwapValidityNative env.swapSdk app.swap items then return ()
      else throw .generic

/-! ## Finishing -/

/-- `swap_finalize`. -/
def swapFinalize (env : Env) (app : App) : Outcome × App :=
  if app.swapResponseReady then (.exit, app)
  else
    let (signature, app) := { app with swapResponseReady := true }.setResultSignMessage env
    (.swapFinalize signature, app)

/-- `start_sign_message_ui` and `start_sign_offchain_message_ui`: the screens all end in
`review_choice`. -/
def App.startReview (app : App) : Outcome × App :=
  (.pending, { app with screen := .review app.command.data })

/-- `handle_sign_message_ui`. -/
def handleSignMessageUi (env : Env) (frame : ℕ → Hash) (app : App) : Outcome × App :=
  match app.summary.finalize with
  | .error _ => app.sendSw .solanaSummaryFinalizeFailed
  | .ok kinds =>
      if app.calledFromSwap then
        if app.command.isPreviewMode then (.swapError .previewNotSupported, app)
        else
          match checkSwapValidity env frame app kinds with
          | .ok () => swapFinalize env app
          | .error code => (.swapError code, app)
      else app.startReview

/-! ## From message to summary -/

/-- `get_pubkey_index`. -/
def getPubkeyIndex (needle : Pubkey) (haystack : List (Ptr Pubkey)) : Option ℕ :=
  haystack.findIdx? fun key => key.val = needle

/-- `scan_header_for_signer`: the signer's key among those that must sign. -/
def scanHeaderForSigner (env : Env) (derivationPath : List UInt32) (header : MessageHeader) :
    Option (Ptr Pubkey) := do
  let signer ← env.getPublicKey derivationPath
  let index ← getPubkeyIndex signer
    (header.pubkeys.take header.pubkeysHeader.numRequiredSignatures.toNat)
  header.pubkeys[index]?

/-- The items of the blind signing fallback, and its flags. -/
def blindSigningItems (env : Env) (app : App) (printConfig : PrintConfig) : Result App := do
  let s := { app.summary with isBlindSigning := true }
  let some s := s.put .primary ⟨"Unrecognized", .string (.lit "format")⟩
    | throw .nullItem
  let messageHash := (env.sdk.sha256 app.command.message).getD app.command.messageHash
  let some s := s.put .general ⟨"Message Hash", .hash (.global messageHash)⟩
    | throw .nullItem
  let feePayer ← readAt printConfig.header.pubkeys 0
  -- whether the fee payer's slot was free is not looked at
  let s := if printConfig.showAuthority feePayer then
      (s.put .feePayer ⟨"Fee payer", .pubkey feePayer⟩).getD s
    else s
  return { app with summary := s, command := { app.command with messageHash } }

/-- The configuration a message is printed with. -/
def App.printConfig (app : App) (header : MessageHeader) (signerPubkey : Ptr Pubkey) :
    PrintConfig where
  header
  expertMode := app.settings.expertMode
  forceFullPrint := app.calledFromSwap
  userInputIsAtaOrTokenAccount := app.command.userInputIsAtaOrTokenAccount
  signerPubkey

/-- The descriptor path of `handle_sign_message_parse_message`. -/
def signWithDescriptors (env : Env) (app : App) (messageBody : Parser) (header : MessageHeader) :
    Outcome × App :=
  let reset := app.resetSavedDescriptors
  if !app.calledFromSwap then reset.sendSw .sdkNotSupported
  else if app.command.isPreviewMode then reset.sendSw .sdkNotSupported
  else
    let reset := reset.resetTrustedInfo.resetDynamicTokenInfo
    match processMessageBodyWithDescriptor env app messageBody header with
    | .ok () => swapFinalize env reset
    | .error .bail => (.swapError .descriptorProcessingFailed, reset)
    | .error stop => (.stopped stop, reset)

/-- The summary path of `handle_sign_message_parse_message`. -/
def signWithSummary (env : Env) (frame : ℕ → Hash) (app : App) (messageBody : Parser)
    (printConfig : PrintConfig) : Outcome × App :=
  let (ret, summary) :=
    processMessageBody (app.tokenContext env) messageBody printConfig app.summary
  let app := { app with summary }
  match ret with
  | .ok () => handleSignMessageUi env frame app
  | .error .bail =>
      if app.calledFromSwap then (.swapError .blindSigningRefused, app)
      else if !app.settings.allowBlindSign then
        { app with screen := .page }.sendSw .sdkNotSupported
      else
        match blindSigningItems env app printConfig with
        | .ok app => handleSignMessageUi env frame app
        | .error stop => (.stopped stop, app)
  | .error stop => (.stopped stop, app)

/-- `handle_sign_message_parse_message`. -/
def handleSignMessageParseMessage (env : Env) (frame : ℕ → Hash) (app : App) : Outcome × App :=
  match parseMessageHeader ⟨0, app.command.message⟩ with
  | .error .bail => app.sendSw .solanaInvalidMessage
  | .error stop => (.stopped stop, app)
  | .ok (header, messageBody) =>
      match scanHeaderForSigner env app.command.derivationPath header with
      | none => app.sendSw .solanaInvalidMessageHeader
      | some signerPubkey =>
          if app.command.nonConfirm then app.sendSw .sdkNotSupported
          else
            let app := { app with summary := .reset, buffers := .reset }
            if app.savedDescriptors.isSome then signWithDescriptors env app messageBody header
            else signWithSummary env frame app messageBody (app.printConfig header signerPubkey)

/-! ## The paths through the handler -/

section

variable {env : Env} {frame : ℕ → Hash} {app : App} {header : MessageHeader}
  {messageBody : Parser} {signerPubkey : Ptr Pubkey}

/-- What `transaction_summary_reset` does to the app. -/
abbrev App.resetSummary (app : App) : App := { app with summary := .reset, buffers := .reset }

/-- Without descriptors the message of a confirmed command goes the summary path. -/
theorem handleSignMessageParseMessage_eq
    (hheader : parseMessageHeader ⟨0, app.command.message⟩ = .ok (header, messageBody))
    (hsigner : scanHeaderForSigner env app.command.derivationPath header = some signerPubkey)
    (hconfirm : app.command.nonConfirm = false) (hdescriptors : app.savedDescriptors = none) :
    handleSignMessageParseMessage env frame app
      = signWithSummary env frame app.resetSummary messageBody
          (app.printConfig header signerPubkey) := by
  unfold handleSignMessageParseMessage
  simp only [hheader, hsigner]
  rw [if_neg (by simp [hconfirm])]
  exact if_neg (by simp [hdescriptors])

/-- A failed body goes on to the blind signing fallback, where that is allowed. -/
theorem signWithSummary_bail {printConfig : PrintConfig} {s : TransactionSummary}
    (hbody : processMessageBody (app.tokenContext env) messageBody printConfig app.summary
      = (.error .bail, s)) (hswap : app.calledFromSwap = false)
    (hblind : app.settings.allowBlindSign = true) :
    signWithSummary env frame app messageBody printConfig
      = match blindSigningItems env { app with summary := s } printConfig with
        | .ok app => handleSignMessageUi env frame app
        | .error stop => (.stopped stop, { app with summary := s }) := by
  unfold signWithSummary
  rw [hbody]
  exact (if_neg (by simp [hswap])).trans (if_neg (by simp [hblind]))

end

end AgencLedger
