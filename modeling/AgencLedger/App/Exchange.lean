import AgencLedger.App.NativeSwap
import AgencLedger.App.Recipient
import AgencLedger.App.SwapParameters
import AgencLedger.App.SwapSession
import AgencLedger.App.TokenSwap

/-!
# App/Exchange — what Exchange shows of a swap, and what is signed

Before it starts the app for a swap, Exchange calls it as a library: to check that an address is the
user's, and to print the amounts that it puts on its own screen.  The app shows nothing in a swap,
so what the user has seen is what Exchange has shown.  In a run that puts up no off-chain message
and saves no descriptor for the template zero, each message that is signed does just that.
-/

namespace AgencLedger

/-! ## Texts of one amount -/

/-- An amount in the text of another asset's decimals. -/
theorem amountText_of_value {a da b db : ℕ} {asset : List Char}
    (h : (a : ℚ) / 10 ^ da = b / 10 ^ db) : amountText a da asset = amountText b db asset := by
  rw [div_eq_div_iff (by positivity) (by positivity)] at h
  rw [amountText, numeral_eq_iff.mpr (by exact_mod_cast h), amountText]

/-! ## The library calls -/

/-- `check_address_parameters_t`. -/
structure CheckAddressParameters where
  addressParameters : Option (List UInt8)
  addressToCheck : Option CString
  extraIdToCheck : Option CString
  deriving DecidableEq

/-- `get_printable_amount_parameters_t`. -/
structure GetPrintableAmountParameters where
  coinConfiguration : Option (List UInt8)
  amount : List UInt8
  isFee : Bool
  deriving DecidableEq

/-- `derive_public_key`: the key of the path, and its text. -/
def derivePublicKey (env : Env) (buffer : List UInt8) : Option (Pubkey × List Char) :=
  match readDerivationPath (some buffer) with
  | .error _ => none
  | .ok path =>
      match env.getPublicKey path with
      | none => none
      | some publicKey =>
          match encodeBase58 publicKey.data 45 with
          | .error _ => none
          | .ok publicKeyStr => some (publicKey, publicKeyStr)

/-- `swap_handle_check_address`: the result it leaves. -/
def swapHandleCheckAddress (env : Env) (params : CheckAddressParameters) : Bool :=
  match params.addressParameters, params.addressToCheck, params.extraIdToCheck with
  | some addressParameters, some addressToCheck, some extraIdToCheck =>
      if extraIdToCheck.chars ≠ [] then false
      else
        match derivePublicKey env addressParameters with
        | none => false
        | some (_, publicKeyStr) => addressToCheck.chars == publicKeyStr
  | _, _, _ => false

/-- `swap_handle_get_printable_amount`: what it leaves in `printable_amount`, which it has cleared.
The result of a print call that fails stays there. -/
def swapHandleGetPrintableAmount (swapSdk : SwapSdk) (params : GetPrintableAmountParameters) :
    List Char :=
  let printableAmount := List.replicate swapSdk.maxPrintableAmountSize nul
  match swapSdk.strToU64 params.amount with
  | none => printableAmount
  | some amount =>
      match params.isFee, params.coinConfiguration with
      | false, some coinConfiguration =>
          match swapSdk.parseConfig coinConfiguration with
          | none => printableAmount
          | some (ticker, decimals) =>
              overlay (printTokenAmount amount (some ticker) decimals
                swapSdk.maxPrintableAmountSize).written printableAmount
      | _, _ => overlay (printAmount amount swapSdk.maxPrintableAmountSize).written printableAmount

section

variable {env : Env} {swapSdk : SwapSdk} {params : CreateTransactionParameters}
  {swap : SwapValidated}

/-- **An address is the user's** exactly when it is the numeral of the key at the path. -/
theorem swapHandleCheckAddress_iff {addressParameters : List UInt8} {address extraId : CString} :
    swapHandleCheckAddress env ⟨some addressParameters, some address, some extraId⟩ = true ↔
      extraId.chars = [] ∧ ∃ path publicKey,
        readDerivationPath (some addressParameters) = .ok path ∧
          env.getPublicKey path = some publicKey ∧
          address.chars = base58Numeral publicKey.data := by
  simp only [swapHandleCheckAddress, derivePublicKey]
  split
  · rename_i hextra
    exact iff_of_false Bool.false_ne_true fun h => hextra h.1
  rename_i hextra
  rw [and_iff_right (not_not.mp hextra)]
  rcases readDerivationPath (some addressParameters) with sw | path
  · simp
  rcases hkey : env.getPublicKey path with _ | publicKey
  · simp [hkey]
  · simp [hkey, encodeBase58_block publicKey (show 44 < 45 by decide)]

/-- Where `check_swap_amount` lets anything pass, its print call has succeeded. -/
theorem ok_of_checkSwapAmount {text : List Char} (h : checkSwapAmount swapSdk swap text = true) :
    (printTokenAmount swap.amount (some swap.ticker) swap.decimals
      swapSdk.maxPrintableAmountSize).ret = .ok () := by
  obtain ⟨-, hcheck⟩ := Bool.and_eq_true_iff.mp h
  rcases hret : (printTokenAmount swap.amount (some swap.ticker) swap.decimals
    swapSdk.maxPrintableAmountSize).ret with stop | _
  · rw [printedText, hret] at hcheck
    cases hcheck
  · rfl

/-- **The amount on Exchange's screen** is the saved one, if the check of it lets anything pass. -/
theorem textOf_printableAmount (hcopy : swapCopyTransactionParameters swapSdk params = some swap)
    {text : List Char} (h : checkSwapAmount swapSdk swap text = true) :
    textOf (swapHandleGetPrintableAmount swapSdk ⟨params.coinConfiguration, params.amount, false⟩)
      = amountText swap.amount.toNat swap.decimals.toNat swap.ticker.chars := by
  have hok := ok_of_checkSwapAmount h
  obtain ⟨coin, hcoin, hsaved⟩ : ∃ coin, swapCoin swapSdk params.coinConfiguration = some coin ∧
      coin = (swap.ticker, swap.decimals) := by
    unfold swapCopyTransactionParameters at hcopy
    simp only [Option.bind_eq_bind, Option.bind_eq_some_iff] at hcopy
    obtain ⟨coin, hcoin, amount, -, fee, -, hswap⟩ := hcopy
    cases hswap
    exact ⟨coin, hcoin, rfl⟩
  subst hsaved
  obtain ⟨-, -, hamount, -⟩ := swapCopyTransactionParameters_eq_some hcopy
  rw [← textOf_printTokenAmount swapSdk.one_lt_maxPrintableAmountSize hok
    (List.replicate swapSdk.maxPrintableAmountSize nul)]
  rcases hconfig : params.coinConfiguration with _ | config
  · rw [hconfig] at hcoin
    obtain ⟨hticker, hdecimals⟩ := Prod.mk.inj (Option.some.inj hcoin)
    simp only [swapHandleGetPrintableAmount, hamount, printAmount, ← hticker, ← hdecimals]
  · rw [hconfig] at hcoin
    simp only [swapHandleGetPrintableAmount, hamount]
    rw [show swapSdk.parseConfig config = some (swap.ticker, swap.decimals) from hcoin]

/-- **The fee on Exchange's screen** is the saved one, where there is room for an amount of SOL. -/
theorem textOf_printableAmount_fee (hroom : 25 < swapSdk.maxPrintableAmountSize)
    (hmax : swapSdk.maxPrintableAmountSize ≤ 2147483647)
    (hcopy : swapCopyTransactionParameters swapSdk params = some swap) :
    textOf (swapHandleGetPrintableAmount swapSdk ⟨params.coinConfiguration, params.feeAmount, true⟩)
      = amountText swap.fee.toNat 9 "SOL".toList := by
  obtain ⟨-, -, -, hfee⟩ := swapCopyTransactionParameters_eq_some hcopy
  have htext := textOf_printTokenAmount swapSdk.one_lt_maxPrintableAmountSize
    (printAmount_ok_of_lt swap.fee hroom hmax) (List.replicate swapSdk.maxPrintableAmountSize nul)
  simp only [swapHandleGetPrintableAmount, hfee]
  exact htext

/-- What Exchange shows of a swap: an amount, a recipient, by as much of its address as is saved,
and a fee that is not below the given one. -/
structure CreateTransactionParameters.Shows (swapSdk : SwapSdk)
    (params : CreateTransactionParameters) (amount recipient : List Char) (maxFee : UInt64) :
    Prop where
  amount : textOf (swapHandleGetPrintableAmount swapSdk
    ⟨params.coinConfiguration, params.amount, false⟩) = amount
  recipient : params.destinationAddress.chars.take 44 = recipient
  fee : ∃ fee, maxFee ≤ fee ∧ textOf (swapHandleGetPrintableAmount swapSdk
    ⟨params.coinConfiguration, params.feeAmount, true⟩) = amountText fee.toNat 9 "SOL".toList

/-- **Exchange has shown what passes the checks** against the saved parameters. -/
theorem shows_of_checked (hroom : 25 < swapSdk.maxPrintableAmountSize)
    (hcopy : swapCopyTransactionParameters swapSdk params = some swap) {text : List Char}
    (hpasses : checkSwapAmount swapSdk swap text = true) {amount decimals : ℕ}
    (hamount : (amount : ℚ) / 10 ^ decimals = swap.amount.toNat / 10 ^ swap.decimals.toNat)
    {maxFee : UInt64} (hfee : maxFee ≤ swap.fee) :
    params.Shows swapSdk (amountText amount decimals swap.ticker.chars) swap.recipient.chars
      maxFee where
  amount := (textOf_printableAmount hcopy hpasses).trans (amountText_of_value hamount).symm
  recipient := congrArg CString.chars (recipient_of_swapCopyTransactionParameters hcopy).symm
  fee := by
    obtain ⟨hmax, -⟩ := (printTokenAmount_ok_iff swapSdk.one_lt_maxPrintableAmountSize).mp
      (ok_of_checkSwapAmount hpasses)
    exact ⟨swap.fee, hfee, textOf_printableAmount_fee hroom hmax hcopy⟩

end

/-! ## Reviews behind the signatures -/

section

variable {env : Env} {frame : ℕ → Hash} {app : App}

/-- A message that passes the swap validation without descriptors has a review that passes. -/
theorem passesReview_of_passesSwapValidation (hswap : app.calledFromSwap = true)
    (hnone : app.savedDescriptors = none) (h : app.PassesSwapValidation env frame) :
    ∃ header messageBody signerPubkey parsed l s,
      app.PassesReview env frame header messageBody signerPubkey parsed l s := by
  obtain ⟨header, messageBody, hheader, ⟨hsome, -⟩ | ⟨-, signerPubkey, s, kinds, hsigner, hbody,
    hkinds, hvalid⟩⟩ := h
  · rw [hnone] at hsome
    cases hsome
  · obtain ⟨parsed, l, hparsed, hl, hfail, hitems⟩ := usedItems_of_accepted hbody
    exact ⟨header, messageBody, signerPubkey, parsed, l, s, hswap, hheader, hsigner, hbody, hparsed,
      hl, hfail, hitems, setsPrimary_print hfail, kinds, hkinds, hvalid⟩

/-- Only an amount that passes lets a review pass. -/
theorem App.PassesReview.checkSwapAmount {header : MessageHeader} {messageBody : Parser}
    {signerPubkey : Ptr Pubkey} {parsed : List ParsedInstruction} {l : Layout}
    {s : TransactionSummary}
    (review : app.PassesReview env frame header messageBody signerPubkey parsed l s)
    (hmode : app.swap.swapMode = .standard) :
    ∃ text, checkSwapAmount env.swapSdk app.swap text = true := by
  obtain ⟨kinds, hkinds, hvalid⟩ := review.valid
  by_cases hticker : app.swap.ticker.chars = "SOL".toList
  · have hnative : checkSwapValidityNative env.swapSdk app.swap
        (displayedItems frame s kinds .reset) = true :=
      @checkSwapValidityNative_of_valid env frame { app.resetSummary with summary := s } kinds hmode
        hticker hvalid
    rw [displayedItems_eq hkinds, review.usedItems_eq,
      checkSwapValidityNative_layout_iff review.primary] at hnative
    obtain ⟨info, hswaps⟩ := hnative
    exact ⟨_, hswaps.amount⟩
  · obtain ⟨-, htoken⟩ := @checkSwapValidityToken_of_valid env frame
      { app.resetSummary with summary := s } kinds hmode hticker hvalid
    obtain ⟨trusted, flags, -, hitems, hamount, -⟩ := checkSwapValidityToken_ok htoken
    obtain ⟨hall, -, hlast, -⟩ := checkTokenItems_ok hitems
    obtain ⟨⟨kind, title, text⟩, hentry, rfl⟩ :=
      List.mem_map.mp ((hlast hamount).resolve_left Bool.false_ne_true)
    exact ⟨text, (hall _ hentry).2⟩

/-- The saved parameters stay as they are. -/
theorem swap_step (app : App) (event : Event) : (app.step env event).swap = app.swap := by
  rcases hrun : app.running with _ | _
  · rw [step_of_not_running hrun]
  rw [step_of_running hrun]
  rcases event with ⟨bytes, memory, frame⟩ | ⟨confirm, memory⟩ | settings
  · by_cases hbytes : bytes = []
    · subst hbytes
      rfl
    · rw [react_apdu hbytes]
      obtain ⟨command, previewState, -, hhandled⟩ :=
        handled_handleApdu env frame memory app bytes
      exact hhandled.swap_eq
  · exact (stores_choose app confirm memory).2.2
  · rfl

/-- **The event keeps to the swap**: it puts up no off-chain message and saves no descriptor for the
template zero. -/
def App.KeepsToSwap (env : Env) (app : App) (event : Event) : Prop :=
  ¬app.ShowsOffchain env event ∧ app.NamesTemplate env event

/-- A state of the app while it handles a command in a run. -/
def App.Handles (env : Env) (app : App) (events : List Event) (app' : App) : Prop :=
  ∃ before event after command, events = before ++ event :: after ∧
    app' = { Run.final (App.step env) app before with command }

/-- The review behind a signature. -/
structure App.SignedReview (env : Env) (app : App) (events : List Event) (path : List UInt32)
    (message : List UInt8) (app' : App) (frame : ℕ → Hash) (header : MessageHeader)
    (messageBody : Parser) (signerPubkey : Ptr Pubkey) (parsed : List ParsedInstruction)
    (l : Layout) (s : TransactionSummary) : Prop where
  handles : app.Handles env events app'
  path_eq : app'.command.derivationPath = path
  message_eq : app'.command.message = message
  swap_eq : app'.swap = app.swap
  review : app'.PassesReview env frame header messageBody signerPubkey parsed l s

/-- The app is in the swap that Exchange has started it for. -/
structure App.OnSwap (params : CreateTransactionParameters) (swap : SwapValidated) (app : App) :
    Prop where
  inSwap : app.InSwap
  forTemplate : app.ForTemplate (swapModeOf params.destinationAddressExtraId)
  swap_eq : app.swap = swap

theorem onSwap_startFromExchange {params : CreateTransactionParameters} {settings : AppSettings}
    (hstart : App.startFromExchange env params settings = some app) :
    app.OnSwap params app.swap ∧ app.signed = [] := by
  have hsigned : app.signed = [] := by
    obtain ⟨swap, -, rfl⟩ := Option.map_eq_some_iff.mp hstart
    rfl
  exact ⟨⟨inSwap_startFromExchange hstart, forTemplate_startFromExchange hstart, rfl⟩, hsigned⟩

theorem onSwap_step {params : CreateTransactionParameters} {swap : SwapValidated}
    (h : app.OnSwap params swap) {event : Event} (hok : app.KeepsToSwap env event) :
    (app.step env event).OnSwap params swap :=
  ⟨(inSwap_step_iff h.inSwap event).mpr hok.1, forTemplate_step h.forTemplate hok.2,
    (swap_step app event).trans h.swap_eq⟩

/-- A standard swap holds no descriptors. -/
theorem App.OnSwap.savedDescriptors_eq {params : CreateTransactionParameters}
    {swap : SwapValidated} (h : app.OnSwap params swap) (hmode : swap.swapMode = .standard) :
    app.savedDescriptors = none := by
  by_contra hsome
  have hcross := h.forTemplate.crosschain (Option.isSome_iff_ne_none.mpr hsome)
  rw [h.swap_eq, hmode] at hcross
  cases hcross

/-- The event signs the message: a command for it passes the validation. -/
def App.Signs (env : Env) (path : List UInt32) (message : List UInt8) (app : App) : Prop :=
  ∃ frame command, command.derivationPath = path ∧ command.message = message ∧
    ({ app with command } : App).PassesSwapValidation env frame

/-- **Each signature of a swap comes of a command that passes the validation.** -/
theorem exists_signs {params : CreateTransactionParameters} {settings : AppSettings}
    (hstart : App.startFromExchange env params settings = some app) {events : List Event}
    (hrun : Run.Guarded (App.step env) (App.KeepsToSwap env) app events)
    {path : List UInt32} {message : List UInt8}
    (hsigned : (path, message) ∈ (Run.final (App.step env) app events).signed) :
    ∃ before event after, events = before ++ event :: after ∧
      (Run.final (App.step env) app before).OnSwap params app.swap ∧
      (Run.final (App.step env) app before).Signs env path message := by
  obtain ⟨hon, hnone⟩ := onSwap_startFromExchange hstart
  obtain ⟨before, event, after, hevents, hsigns, -⟩ :=
    @Run.exists_origin_since _ _ (App.step env) (App.KeepsToSwap env) app
      (App.OnSwap params app.swap) (fun app' => (path, message) ∈ app'.signed)
      (fun app' _ => app'.OnSwap params app.swap ∧ app'.Signs env path message) (fun _ _ => False)
      (fun _ _ hinv hok => onSwap_step hinv hok)
      (fun app' event hinv _ hmem => by
        rcases signed_step hinv.inSwap event with hsame | ⟨-, bytes, memory, frame, command, -, -,
          -, hvalid, happend⟩
        · exact .inr ⟨hsame ▸ hmem, not_false⟩
        · rw [happend, List.mem_append, List.mem_singleton] at hmem
          rcases hmem with hold | hnew
          · exact .inr ⟨hold, not_false⟩
          · cases hnew
            exact .inl ⟨hinv, frame, command, rfl, rfl, hvalid⟩)
      hon (hnone ▸ List.not_mem_nil) events hrun hsigned
  exact ⟨before, event, after, hevents, hsigns⟩

/-- **So in a standard swap it has a review that passes.** -/
theorem exists_signedReview {params : CreateTransactionParameters} {settings : AppSettings}
    (hstart : App.startFromExchange env params settings = some app)
    (hmode : app.swap.swapMode = .standard) {events : List Event}
    (hrun : Run.Guarded (App.step env) (App.KeepsToSwap env) app events)
    {path : List UInt32} {message : List UInt8}
    (hsigned : (path, message) ∈ (Run.final (App.step env) app events).signed) :
    ∃ app' frame header messageBody signerPubkey parsed l s,
      app.SignedReview env events path message app' frame header messageBody signerPubkey parsed l
        s := by
  obtain ⟨before, event, after, hevents, hon, frame, command, rfl, rfl, hvalid⟩ :=
    exists_signs hstart hrun hsigned
  obtain ⟨header, messageBody, signerPubkey, parsed, l, s, review⟩ :=
    @passesReview_of_passesSwapValidation env frame
      { Run.final (App.step env) app before with command } hon.inSwap.calledFromSwap_eq
      (hon.savedDescriptors_eq hmode) hvalid
  exact ⟨_, frame, header, messageBody, signerPubkey, parsed, l, s,
    ⟨before, event, after, command, hevents, rfl⟩, rfl, rfl, hon.swap_eq, review⟩

/-! ## What Exchange has shown of them -/

/-- **A signed transfer of lamports is the one that Exchange has shown**: its amount, its recipient
and a fee not below its own; and an address that Exchange has found to be that of the path is the
one it is paid from. -/
theorem shows_of_signed_lamports {params : CreateTransactionParameters} {settings : AppSettings}
    (hroom : 25 < env.swapSdk.maxPrintableAmountSize)
    (hstart : App.startFromExchange env params settings = some app)
    (hmode : app.swap.swapMode = .standard) (hticker : app.swap.ticker.chars = "SOL".toList)
    {events : List Event} (hrun : Run.Guarded (App.step env) (App.KeepsToSwap env) app events)
    {path : List UInt32} {message : List UInt8}
    (hsigned : (path, message) ∈ (Run.final (App.step env) app events).signed) :
    ∃ app' header messageBody parsed l info, app.Handles env events app' ∧
      parseMessageHeader ⟨0, message⟩ = .ok (header, messageBody) ∧
      parseMessageBody (app'.tokenContext env) messageBody header = (parsed, .ok ()) ∧
      layout parsed = some l ∧ patternInstructions parsed = [.system (.transfer info)] ∧
      params.Shows env.swapSdk (amountText info.lamports.toNat 9 "SOL".toList)
        (base58Numeral info.to.val.data) l.maxFee ∧
      ∀ addressParameters address extraId, readDerivationPath (some addressParameters) = .ok path →
        swapHandleCheckAddress env ⟨some addressParameters, some address, some extraId⟩ = true →
          address.chars = base58Numeral info.from.val.data := by
  obtain ⟨app', frame, header, messageBody, signerPubkey, parsed, l, s, hhandles, rfl, rfl, hswap,
    review⟩ := exists_signedReview hstart hmode hrun hsigned
  obtain ⟨text, hpasses⟩ := review.checkSwapAmount (hswap ▸ hmode)
  obtain ⟨info, hpattern, hvalid⟩ := review.lamports (hswap ▸ hmode) (hswap ▸ hticker)
  have hcopy : swapCopyTransactionParameters env.swapSdk params = some app'.swap := by
    obtain ⟨swap, hcopy, rfl⟩ := Option.map_eq_some_iff.mp hstart
    rw [hcopy, hswap]
    rfl
  have hshows := shows_of_checked hroom hcopy hpasses hvalid.amount hvalid.maxFee
  rw [hswap, hticker, ← hswap, ← hvalid.recipient] at hshows
  refine ⟨app', header, messageBody, parsed, l, info, hhandles, review.header_eq, review.parsed_eq,
    review.layout_eq, hpattern, hshows, fun addressParameters address extraId hpath hcheck => ?_⟩
  obtain ⟨-, path, publicKey, hpath', hkey, haddress⟩ := swapHandleCheckAddress_iff.mp hcheck
  obtain rfl := Except.ok.inj (hpath'.symm.trans hpath)
  obtain rfl := Option.some.inj (hkey.symm.trans hvalid.source)
  exact haddress

/-- **So is a signed transfer of tokens**: the address that Exchange has shown is that of the owner
of the account that it goes to. -/
theorem shows_of_signed_token {params : CreateTransactionParameters} {settings : AppSettings}
    (hroom : 25 < env.swapSdk.maxPrintableAmountSize)
    (hstart : App.startFromExchange env params settings = some app)
    (hmode : app.swap.swapMode = .standard) (hticker : app.swap.ticker.chars ≠ "SOL".toList)
    {events : List Event} (hrun : Run.Guarded (App.step env) (App.KeepsToSwap env) app events)
    {path : List UInt32} {message : List UInt8}
    (hsigned : (path, message) ∈ (Run.final (App.step env) app events).signed) :
    ∃ app' header messageBody parsed l info transfer, ∃ trusted : TrustedInfo,
      app.Handles env events app' ∧
      parseMessageHeader ⟨0, message⟩ = .ok (header, messageBody) ∧
      parseMessageBody (app'.tokenContext env) messageBody header = (parsed, .ok ()) ∧
      layout parsed = some l ∧
      (patternInstructions parsed = [.splToken info] ∨ ∃ create, patternInstructions parsed
        = [.splAssociatedTokenAccount create, .splToken info]) ∧
      info.body.transfer? = some transfer ∧
      params.Shows env.swapSdk (amountText transfer.amount.toNat transfer.decimals.toNat
          (getTokenSymbol (app'.tokenContext env) transfer.mintAccount.val
            info.isToken2022Kind).chars) trusted.encodedOwnerAddress.chars l.maxFee ∧
      trusted.Decoded env.sdk ∧
      validateAssociatedTokenAddress env.sdk trusted.ownerAddress transfer.mintAccount.val
        transfer.destAccount.val info.isToken2022Kind = true := by
  obtain ⟨app', frame, header, messageBody, signerPubkey, parsed, l, s, hhandles, rfl, rfl, hswap,
    review⟩ := exists_signedReview hstart hmode hrun hsigned
  obtain ⟨text, hpasses⟩ := review.checkSwapAmount (hswap ▸ hmode)
  obtain ⟨info, transfer, trusted, hpattern, hvalid⟩ :=
    review.token (hswap ▸ hmode) (hswap ▸ hticker)
  obtain ⟨swap, hcopy, rfl⟩ := Option.map_eq_some_iff.mp hstart
  have hshows := shows_of_checked hroom (hcopy.trans (congrArg some hswap.symm)) hpasses
    hvalid.amount hvalid.maxFee
  rw [← hvalid.symbol, ← hvalid.recipient] at hshows
  refine ⟨app', header, messageBody, parsed, l, info, transfer, trusted, hhandles, review.header_eq,
    review.parsed_eq, review.layout_eq, hpattern, hvalid.body, hshows, ?_, hvalid.account⟩
  obtain ⟨before, event, after, command, -, rfl⟩ := hhandles
  obtain ⟨_, _, _, -, hreceives⟩ :=
    @Run.exists_origin _ _ (App.step env) (.start env true swap settings)
      (fun app => app.trustedInfo = some trusted) (fun app event => app.Receives env event trusted)
      (fun _ _ hinfo => receives_or_trustedInfo hinfo) (by intro hnone; cases hnone) before
      hvalid.trustedInfo
  exact hreceives.decoded

end

/-! ## A swap of lamports and one of tokens -/

/-- Commands of other kinds keep to the swap. -/
theorem keepsToSwap_of_instruction {env : Env} {app : App} {bytes : List UInt8}
    {instruction : InstructionCode}
    (h : (apduHandleMessage (maxMessageLength env.usbSegmentSize) bytes app.command).toOption.map
      (·.instruction) = some (some instruction))
    (hoffchain : instruction ≠ .signOffchainMessage)
    (hdescriptor : instruction ≠ .trustedInfoProvideInstructionDescriptor) :
    app.KeepsToSwap env (.plain bytes) := by
  constructor
  · rintro ⟨-, bytes', memory, frame, command, hevent, hok, -, hins, -⟩
    obtain ⟨rfl, -, -⟩ := Event.apdu.inj hevent
    rw [hok] at h
    exact hoffchain (Option.some.inj ((Option.some.inj h).symm.trans hins))
  · intro bytes' memory frame command items out hevent _ hcompletes
    obtain ⟨rfl, -, -⟩ := Event.apdu.inj hevent
    rw [hcompletes.handled] at h
    exact absurd (Option.some.inj ((Option.some.inj h).symm.trans hcompletes.instruction))
      hdescriptor

/-- The message of one lamport is to be signed. -/
def lamportsRun : List Event :=
  [.plain (writeApdu 0x06 1 ([1] ++ plainPath ++ lamportsApp.command.message))]

theorem guarded_lamportsRun :
    Run.Guarded (App.step exchangeEnv) (App.KeepsToSwap exchangeEnv) standardApp lamportsRun :=
  ⟨@keepsToSwap_of_instruction exchangeEnv standardApp _ .signMessage (by decide +kernel)
    (by decide) (by decide), trivial⟩

/-- The theorem on that run. -/
theorem shows_of_signed_lamports_one :
    ∃ app' header messageBody parsed l info, standardApp.Handles exchangeEnv lamportsRun app' ∧
      parseMessageHeader ⟨0, lamportsApp.command.message⟩ = .ok (header, messageBody) ∧
      parseMessageBody (app'.tokenContext exchangeEnv) messageBody header = (parsed, .ok ()) ∧
      layout parsed = some l ∧ patternInstructions parsed = [.system (.transfer info)] ∧
      (exchangeParameters none).Shows exchangeEnv.swapSdk
        (amountText info.lamports.toNat 9 "SOL".toList) (base58Numeral info.to.val.data) l.maxFee ∧
      ∀ addressParameters address extraId, readDerivationPath (some addressParameters)
          = .ok [0x8000002c, 0x800001f5] →
        swapHandleCheckAddress exchangeEnv ⟨some addressParameters, some address, some extraId⟩
            = true →
          address.chars = base58Numeral info.from.val.data :=
  shows_of_signed_lamports (by decide) standardApp_start rfl rfl guarded_lamportsRun
    (by decide +kernel)

/-- An environment that names the wallet and the token USDC. -/
def usdcEnv : Env :=
  { recipientEnv with
    tlv := { recipientEnv.tlv with
      tuid := fun payload => if payload = [9] then
        some [⟨0x10, [0], []⟩,
          ⟨0x11, bytesOfAddress "EPjFWdd5AufqSSqeM2qN1xzybapC8G4wEGGkZwyTDt1v", []⟩,
          ⟨0x12, [], []⟩] else none
      dynamicDescriptor := fun payload => if payload = [8] then
        some ⟨[9], 501, .lit "USDC" nul_notMem_usdc, 6⟩ else none } }

/-- A swap of one millionth of it for the wallet. -/
def usdcParameters : CreateTransactionParameters where
  coinConfiguration := some [4, 85, 83, 68, 67, 6]
  amount := [1]
  feeAmount := [1]
  destinationAddress := .lit "LbUiWL3xVV8hTFYBVdbTNrpDo41NKS6o3LHHuDzjfcY" nul_notMem_wallet
  destinationAddressExtraId := none

/-- The app of that swap. -/
def usdcApp : App := .start usdcEnv true tokenApp.swap ⟨false, false, false⟩

theorem usdcApp_start :
    App.startFromExchange usdcEnv usdcParameters ⟨false, false, false⟩ = some usdcApp := by
  decide +kernel

/-- The wallet and the token are named, then the transfer is to be signed. -/
def usdcRun : List Event :=
  [.plain (writeApdu 0x21 1 [7]), .plain (writeApdu 0x22 1 [8]),
    .plain (writeApdu 0x06 1 ([1] ++ plainPath ++ tokenApp.command.message))]

theorem guarded_usdcRun :
    Run.Guarded (App.step usdcEnv) (App.KeepsToSwap usdcEnv) usdcApp usdcRun :=
  ⟨@keepsToSwap_of_instruction usdcEnv _ _ .trustedInfoProvideInfo (by decide +kernel) (by decide)
      (by decide),
    @keepsToSwap_of_instruction usdcEnv _ _ .trustedInfoProvideDynamicDescriptor (by decide +kernel)
      (by decide) (by decide),
    @keepsToSwap_of_instruction usdcEnv _ _ .signMessage (by decide +kernel) (by decide)
      (by decide), trivial⟩

/-- The theorem on that run. -/
theorem shows_of_signed_token_usdc :
    ∃ app' header messageBody parsed l info transfer, ∃ trusted : TrustedInfo,
      usdcApp.Handles usdcEnv usdcRun app' ∧
      parseMessageHeader ⟨0, tokenApp.command.message⟩ = .ok (header, messageBody) ∧
      parseMessageBody (app'.tokenContext usdcEnv) messageBody header = (parsed, .ok ()) ∧
      layout parsed = some l ∧
      (patternInstructions parsed = [.splToken info] ∨ ∃ create, patternInstructions parsed
        = [.splAssociatedTokenAccount create, .splToken info]) ∧
      info.body.transfer? = some transfer ∧
      usdcParameters.Shows usdcEnv.swapSdk (amountText transfer.amount.toNat
          transfer.decimals.toNat (getTokenSymbol (app'.tokenContext usdcEnv)
            transfer.mintAccount.val info.isToken2022Kind).chars)
        trusted.encodedOwnerAddress.chars l.maxFee ∧
      trusted.Decoded usdcEnv.sdk ∧
      validateAssociatedTokenAddress usdcEnv.sdk trusted.ownerAddress transfer.mintAccount.val
        transfer.destAccount.val info.isToken2022Kind = true :=
  @shows_of_signed_token usdcEnv usdcApp usdcParameters ⟨false, false, false⟩ (by decide)
    usdcApp_start rfl (by decide) usdcRun guarded_usdcRun [0x8000002c, 0x800001f5]
    tokenApp.command.message (by decide +kernel)

end AgencLedger
