import AgencLedger.App.NativeSwap
import AgencLedger.App.TokenSwap

/-!
# App/DisplaySettings — whether a swap depends on how the user likes to read

The swap checks read the same texts as the user.  Long keys are always asked for, and
`force_full_print` shows every item of a transfer; but expert mode adds authorities to a review, and
`check_swap_validity_native` counts items.  `check_swap_validity_token` passes over the keys it does
not know, so tokens are swapped in either mode.
-/

namespace AgencLedger

/-! ## Items passed over -/

section

variable {swapSdk : SwapSdk} {swap : SwapValidated} {info : TrustedInfo} {frame : ℕ → Hash}

/-- The titles that `check_swap_validity_token` knows of keys. -/
def tokenPubkeyTitles : List String :=
  ["Create token account", "For", "Funded by", "Token address", "To (token account)"]

/-- A key that `check_swap_validity_token` passes over. -/
def SummaryItem.PassedOver (item : SummaryItem) : Prop :=
  item.TitleFits ∧ item.title ∉ tokenPubkeyTitles ∧ ∃ key, item.value = .pubkey key

theorem SummaryItem.PassedOver.firm {item : SummaryItem} (h : item.PassedOver) :
    item.Firm frame := by
  obtain ⟨hfits, -, key, hkey⟩ := h
  exact ⟨hfits, _, hkey ▸ textIs_pubkey key⟩

theorem checkTokenItems_append (a b : List (SummaryItemKind × List Char × List Char))
    (flags : TokenFlags) :
    checkTokenItems swapSdk swap info (a ++ b) flags
      = (checkTokenItems swapSdk swap info a flags).bind (checkTokenItems swapSdk swap info b) := by
  induction a generalizing flags with
  | nil => rfl
  | cons entry a ih =>
      obtain ⟨kind, title, text⟩ := entry
      rw [List.cons_append, checkTokenItems, checkTokenItems]
      rcases checkTokenItem swapSdk swap info kind title text flags with code | flags₁
      · rfl
      · exact ih flags₁

/-- Keys that are passed over leave the flags alone. -/
theorem checkTokenItems_passedOver {items : List SummaryItem} (h : ∀ item ∈ items, item.PassedOver)
    (buffers : DisplayBuffers) (flags : TokenFlags) :
    checkTokenItems swapSdk swap info (shownItems frame items buffers) flags = .ok flags := by
  induction items generalizing buffers with
  | nil => rfl
  | cons item items ih =>
      obtain ⟨⟨hfits, htitle, key, hkey⟩, hrest⟩ := List.forall_mem_cons.mp h
      rcases item with ⟨title, value⟩
      obtain rfl : value = .pubkey key := hkey
      obtain ⟨after, hshown⟩ := shownItems_cons hfits (@textIs_pubkey frame key) items buffers
      simp only [tokenPubkeyTitles, List.mem_cons, List.not_mem_nil, or_false, not_or] at htitle
      obtain ⟨hcreate, hfor, hfunded, haddress, hto⟩ := htitle
      have hitem : checkTokenItem swapSdk swap info .pubkey title.toList
          (base58Numeral key.val.data) flags = .ok flags := by
        simp only [checkTokenItem, checkTokenPubkey, String.toList_inj, if_neg hcreate, if_neg hfor,
          if_neg hfunded, if_neg haddress, if_neg hto, ite_self]
        rfl
      rw [hshown, checkTokenItems]
      exact (congrArg (· >>= _) hitem).trans (ih hrest after)

/-- Behind firm items they may as well be missing, and in front of them too. -/
theorem checkTokenItems_dropPassedOver {before items after : List SummaryItem}
    (hbefore : ∀ item ∈ before, item.PassedOver) (hitems : ∀ item ∈ items, item.Firm frame)
    (hafter : ∀ item ∈ after, item.PassedOver) (buffers : DisplayBuffers) (flags : TokenFlags) :
    checkTokenItems swapSdk swap info (shownItems frame (before ++ items ++ after) buffers) flags
      = checkTokenItems swapSdk swap info (shownItems frame items .reset) flags := by
  obtain ⟨buffers₁, hshown₁⟩ := @shownItems_append frame before buffers
  obtain ⟨buffers₂, hshown₂⟩ := @shownItems_append frame items buffers₁
  rw [List.append_assoc, hshown₁, hshown₂, checkTokenItems_append,
    checkTokenItems_passedOver hbefore, shownItems_of_firm hitems buffers₁ .reset]
  change checkTokenItems swapSdk swap info (_ ++ _) flags = _
  rw [checkTokenItems_append]
  rcases checkTokenItems swapSdk swap info (shownItems frame items .reset) flags
    with code | flags'
  · rfl
  · exact checkTokenItems_passedOver hafter buffers₂ flags'

/-! ## Transfers of tokens -/

/-- The items of a signature that are there in any mode: those of a multisig. -/
def SplTokenSign.items : SplTokenSign → List SummaryItem
  | .single _ => []
  | .multi account signers =>
      [⟨"Owner", .pubkey account⟩, ⟨"Signers", .u64 signers.count.toUInt64⟩]

theorem passedOver_owner (key : Ptr Pubkey) : SummaryItem.PassedOver ⟨"Owner", .pubkey key⟩ :=
  ⟨by simp, by simp [tokenPubkeyTitles], key, rfl⟩

theorem items_printSplTokenSign (sign : SplTokenSign) (printConfig : PrintConfig) :
    ∃ before : List SummaryItem, (∀ item ∈ before, item.PassedOver) ∧
      Script.items .general (printSplTokenSign sign printConfig) = before ++ sign.items := by
  rcases sign with signer | ⟨account, signers⟩
  · by_cases hshow : printConfig.showAuthority signer = true
    · refine ⟨[⟨"Owner", .pubkey signer⟩], fun item hitem => ?_, ?_⟩
      · obtain rfl := List.mem_singleton.mp hitem
        exact passedOver_owner signer
      · simp [printSplTokenSign, generalAuthority, hshow, SplTokenSign.items]
    · refine ⟨[], fun item hitem => absurd hitem List.not_mem_nil, ?_⟩
      simp [printSplTokenSign, generalAuthority, hshow, SplTokenSign.items]
  · exact ⟨[], fun item hitem => absurd hitem List.not_mem_nil,
      by simp [printSplTokenSign, SplTokenSign.items]⟩

theorem firm_signItems (sign : SplTokenSign) (maxFee : UInt64) :
    ∀ item ∈ sign.items ++ maxFeeItems maxFee, item.Firm frame := by
  intro item hitem
  rcases List.mem_append.mp hitem with hsign | hfee
  · rcases sign with signer | ⟨account, signers⟩
    · cases hsign
    · rcases List.mem_pair.mp hsign with rfl | rfl
      · exact (passedOver_owner account).firm
      · exact ⟨by simp, _, textIs_u64 _⟩
  · unfold maxFeeItems at hfee
    split at hfee
    · obtain rfl := List.mem_singleton.mp hfee
      exact ⟨by simp, _, textIs_amount maxFee⟩
    · cases hfee

theorem passedOver_nonceItems (printConfig : PrintConfig) (nonce : Option SystemAdvanceNonceInfo) :
    ∀ item ∈ nonceItems printConfig nonce, item.PassedOver := by
  intro item hitem
  unfold nonceItems at hitem
  split at hitem
  · split at hitem
    · rcases List.mem_pair.mp hitem with rfl | rfl
      · exact ⟨by simp, by simp [tokenPubkeyTitles], _, rfl⟩
      · exact ⟨by simp, by simp [tokenPubkeyTitles], _, rfl⟩
    · cases hitem
  · cases hitem

/-- **The loop makes the same of a transfer's review in every mode.** -/
theorem checkTokenItems_transfer_congr {ctx : TokenContext} {l : Layout}
    {printConfig printConfig' : PrintConfig} {isToken2022Kind : Bool}
    {transfer : SplTokenTransferInfo} {toAddress : CString}
    (hfull : printConfig.forceFullPrint = true) (hfull' : printConfig'.forceFullPrint = true)
    (htransfer : l.pattern.transfer? = some (isToken2022Kind, transfer))
    (hto : getTransferToAddress ctx = some toAddress) (buffers : DisplayBuffers)
    (flags : TokenFlags) :
    checkTokenItems swapSdk swap info (shownItems frame (l.usedItems printConfig ctx) buffers) flags
      = checkTokenItems swapSdk swap info (shownItems frame (l.usedItems printConfig' ctx) buffers)
          flags := by
  obtain ⟨before, hbefore, hsign⟩ := items_printSplTokenSign transfer.sign printConfig
  obtain ⟨before', hbefore', hsign'⟩ := items_printSplTokenSign transfer.sign printConfig'
  rw [usedItems_tokenTransfer hfull htransfer hto, usedItems_tokenTransfer hfull' htransfer hto,
    hsign, hsign']
  have hsplit : ∀ (amount : SummaryItem) (head sign fee before nonce : List SummaryItem),
      amount :: (head ++ (before ++ sign) ++ fee ++ nonce)
        = (amount :: head) ++ (before ++ (sign ++ fee) ++ nonce) := by simp
  rw [hsplit, hsplit]
  obtain ⟨after, hshown⟩ := shownItems_append (_ :: _) buffers
  rw [hshown, hshown, checkTokenItems_append, checkTokenItems_append]
  congr 1
  funext flags'
  rw [checkTokenItems_dropPassedOver hbefore (firm_signItems _ _) (passedOver_nonceItems _ _),
    checkTokenItems_dropPassedOver hbefore' (firm_signItems _ _) (passedOver_nonceItems _ _)]

end

/-! ## Approved messages -/

/-- The checks of a swap approve of the message: it is accepted, finalized and valid. -/
def App.Approves (env : Env) (frame : ℕ → Hash) (app : App) (messageBody : Parser)
    (printConfig : PrintConfig) : Prop :=
  ∃ s kinds, processMessageBody (app.tokenContext env) messageBody printConfig .reset
    = (.ok (), s) ∧
    s.finalize = .ok kinds ∧
    checkSwapValidity env frame { app.resetSummary with summary := s } kinds = .ok ()

section

variable {env : Env} {frame : ℕ → Hash} {app : App} {messageBody : Parser}
  {printConfig : PrintConfig} {parsed : List ParsedInstruction} {l : Layout}

/-- The check of a swap of tokens sees no more of the items than the loop. -/
theorem checkSwapValidityToken_congr {swapSdk : SwapSdk} {swap : SwapValidated} {sdk : Sdk}
    {trustedInfo : Option TrustedInfo} {isToken2022 : Bool}
    {items items' : List (SummaryItemKind × List Char × List Char)}
    (h : ∀ info flags, checkTokenItems swapSdk swap info items flags
      = checkTokenItems swapSdk swap info items' flags) :
    checkSwapValidityToken swapSdk swap sdk trustedInfo items isToken2022
      = checkSwapValidityToken swapSdk swap sdk trustedInfo items' isToken2022 := by
  simp only [checkSwapValidityToken, h]

/-- **Which messages a swap of lamports approves**: a transfer whose authority is not shown. -/
theorem approves_lamports_iff
    (hparsed : parseMessageBody (app.tokenContext env) messageBody printConfig.header
      = (parsed, .ok ())) (hl : layout parsed = some l)
    (hmode : app.swap.swapMode = .standard) (hticker : app.swap.ticker.chars = "SOL".toList) :
    app.Approves env frame messageBody printConfig ↔
      ∃ info, l.SwapsLamports env.swapSdk app.swap printConfig info := by
  have hcheck : ∀ s kinds, s.finalize = .ok kinds →
      s.usedItems = l.usedItems printConfig (app.tokenContext env) →
      Script.items .primary (l.pattern.print printConfig (app.tokenContext env)) ≠ [] →
      (checkSwapValidity env frame { app.resetSummary with summary := s } kinds = .ok () ↔
        ∃ info, l.SwapsLamports env.swapSdk app.swap printConfig info) :=
    fun s kinds hkinds hitems hprimary => by
      rw [← @checkSwapValidityNative_layout_iff _ _ _ (app.tokenContext env) frame
        .reset l hprimary,
        ← hitems, ← displayedItems_eq hkinds]
      have hnative : isTokenTransaction app.swap = false := by
        rw [isTokenTransaction, hticker, bne_self_eq_false]
      simp only [checkSwapValidity, hmode, hnative, Bool.false_eq_true, if_false]
      split
      · rename_i h
        exact iff_of_true rfl h
      · rename_i h
        exact iff_of_false (fun h => by cases h) h
  constructor
  · rintro ⟨s, kinds, hs, hkinds, hvalid⟩
    obtain ⟨parsed', l', hparsed', hl', hfail, hitems⟩ := usedItems_of_accepted hs
    obtain ⟨rfl, -⟩ := Prod.ext_iff.mp (hparsed.symm.trans hparsed')
    obtain rfl : l = l' := Option.some.inj (hl.symm.trans hl')
    exact (hcheck s kinds hkinds hitems (setsPrimary_print hfail)).mp hvalid
  · rintro ⟨info, h⟩
    have hfail : Effect.fail ∉ l.pattern.print printConfig (app.tokenContext env) := by
      simp [h.pattern, Pattern.print, printSystemInfo, printSystemTransferInfo, generalAuthority,
        h.sender, primary, general]
    obtain ⟨s, kinds, hs, hkinds, hitems⟩ :=
      accepted_of_not_isCrowded hparsed hl hfail (by rw [h.pattern]; rfl)
    exact ⟨s, kinds, hs, hkinds,
      (hcheck s kinds hkinds hitems (setsPrimary_print hfail)).mpr ⟨info, h⟩⟩

/-- **A swap of tokens approves of a message in every mode or in none.** -/
theorem App.Approves.congr_token {printConfig' : PrintConfig}
    (hparsed : parseMessageBody (app.tokenContext env) messageBody printConfig.header
      = (parsed, .ok ())) (hl : layout parsed = some l)
    (hheader : printConfig'.header = printConfig.header)
    (hfull : printConfig.forceFullPrint = true) (hfull' : printConfig'.forceFullPrint = true)
    (hticker : app.swap.ticker.chars ≠ "SOL".toList)
    (h : app.Approves env frame messageBody printConfig) :
    app.Approves env frame messageBody printConfig' := by
  obtain ⟨s, kinds, hs, hkinds, hvalid⟩ := h
  obtain ⟨parsed', l', hparsed', hl', hfail, hitems⟩ := usedItems_of_accepted hs
  obtain ⟨rfl, -⟩ := Prod.ext_iff.mp (hparsed.symm.trans hparsed')
  obtain rfl : l = l' := Option.some.inj (hl.symm.trans hl')
  have hmode : app.swap.swapMode = .standard :=
    @swapMode_of_checkSwapValidity env frame { app.resetSummary with summary := s } kinds hvalid
  obtain ⟨-, htoken⟩ := @checkSwapValidityToken_of_valid env frame
    { app.resetSummary with summary := s } kinds hmode hticker hvalid
  obtain ⟨trusted, flags, -, hloop, hamount, -⟩ := checkSwapValidityToken_ok htoken
  rw [displayedItems_eq hkinds, hitems] at hloop
  obtain ⟨isToken2022Kind, transfer, htransfer⟩ :=
    transfer?_of_checkTokenItems hs hparsed hl hloop hamount
  obtain ⟨info, hinfo, rfl, hbody⟩ := parsed_transfer_of_layout hparsed hl htransfer
  obtain ⟨trusted', -, -, -, -, -, hto⟩ := getTransferToAddress_of_check (hinfo.check hbody)
  have hcrowded : l.pattern.isCrowded = false := by
    cases hpattern : l.pattern <;> rw [hpattern] at htransfer <;> first | rfl | cases htransfer
  have hfail' : Effect.fail ∉ l.pattern.print printConfig' (app.tokenContext env) := by
    rw [print_transfer htransfer hto]
    exact fail_notMem_printSplTokenTransferInfo hto
  have hparsed' : parseMessageBody (app.tokenContext env) messageBody printConfig'.header
      = (parsed, .ok ()) := hheader ▸ hparsed
  obtain ⟨s', kinds', hs', hkinds', hitems'⟩ :=
    accepted_of_not_isCrowded hparsed' hl hfail' hcrowded
  refine ⟨s', kinds', hs', hkinds', ?_⟩
  -- the flags and the loop are the same for both reviews
  have hflags := (tokenFlags_of_accepted hs' hparsed' hl htransfer hto).trans
    (tokenFlags_of_accepted hs hparsed hl htransfer hto).symm
  have h2022 : s'.isToken2022Transfer = s.isToken2022Transfer := congrArg Prod.fst hflags
  have hfee : s'.feeWarning = s.feeWarning := congrArg (·.2.1) hflags
  have hhook : s'.hookWarning = s.hookWarning := congrArg (·.2.2) hflags
  simp only [checkSwapValidity, hmode, h2022, hfee, hhook, displayedItems_eq hkinds',
    displayedItems_eq hkinds, hitems', hitems, isTokenTransaction, bne_iff_ne.mpr hticker, if_true]
    at hvalid ⊢
  rw [checkSwapValidityToken_congr fun info flags =>
    checkTokenItems_transfer_congr hfull' hfull htransfer hto _ flags]
  exact hvalid

end

/-! ## Outcomes -/

/-- The same decision: the same outcome, or two swap errors. -/
def Outcome.SameDecision (a b : Outcome) : Prop :=
  a = b ∨ ∃ code code', a = .swapError code ∧ b = .swapError code'

/-- The app with other display settings. -/
def App.withDisplay (app : App) (expertMode longPubkeys : Bool) : App :=
  { app with settings := { app.settings with expertMode, longPubkeys } }

/-- The message of the command goes the summary path, and its review has a layout. -/
structure App.HasLayout (env : Env) (app : App) (header : MessageHeader) (messageBody : Parser)
    (signerPubkey : Ptr Pubkey) (l : Layout) : Prop where
  header_eq : parseMessageHeader ⟨0, app.command.message⟩ = .ok (header, messageBody)
  signer_eq : scanHeaderForSigner env app.command.derivationPath header = some signerPubkey
  confirm : app.command.nonConfirm = false
  layout_eq : ∃ parsed, parseMessageBody (app.tokenContext env) messageBody header
    = (parsed, .ok ()) ∧ layout parsed = some l

section

variable {env : Env} {frame : ℕ → Hash} {app : App} {header : MessageHeader}
  {messageBody : Parser} {signerPubkey : Ptr Pubkey} {l : Layout}

/-- The summary path of a swap, by what becomes of the message. -/
theorem outcome_signWithSummary_swap {printConfig : PrintConfig}
    (hswap : app.calledFromSwap = true) :
    (signWithSummary env frame app.resetSummary messageBody printConfig).1
      = match processMessageBody (app.tokenContext env) messageBody printConfig .reset with
        | (.ok (), s) => (handleSignMessageUi env frame { app.resetSummary with summary := s }).1
        | (.error .bail, _) => .swapError .blindSigningRefused
        | (.error stop, _) => .stopped stop := by
  rcases hbody : processMessageBody (app.tokenContext env) messageBody printConfig .reset
    with ⟨ret, s⟩
  have hbody' : processMessageBody (app.resetSummary.tokenContext env) messageBody printConfig
      app.resetSummary.summary = (ret, s) := hbody
  unfold signWithSummary
  rw [hbody']
  rcases ret with stop | u
  · rcases stop with _ | _ | _ | _ | _
    · exact congrArg Prod.fst (if_pos hswap)
    all_goals rfl
  · rfl

/-- An accepted message is signed if the checks approve of it and there is no preview. -/
theorem outcome_handleSignMessageUi_swap {s : TransactionSummary} {kinds : List SummaryItemKind}
    (hswap : app.calledFromSwap = true) (hkinds : s.finalize = .ok kinds) :
    (app.command.isPreviewMode = false →
        checkSwapValidity env frame { app.resetSummary with summary := s } kinds = .ok () →
        (handleSignMessageUi env frame { app.resetSummary with summary := s }).1
          = (swapFinalize env app).1) ∧
      (¬(app.command.isPreviewMode = false ∧
          checkSwapValidity env frame { app.resetSummary with summary := s } kinds = .ok ()) →
        ∃ code, (handleSignMessageUi env frame { app.resetSummary with summary := s }).1
          = .swapError code) := by
  simp only [handleSignMessageUi, hkinds, hswap, if_true]
  refine ⟨fun hpreview hvalid => ?_, fun hnot => ?_⟩
  · rw [if_neg (by simp [hpreview]), hvalid]
    simp only [swapFinalize]
    split <;> rfl
  · split
    · exact ⟨_, rfl⟩
    · rename_i hpreview
      split
      · rename_i hvalid
        exact absurd ⟨Bool.eq_false_iff.mpr hpreview, hvalid⟩ hnot
      · exact ⟨_, rfl⟩

/-- Approving a message takes room for its review. -/
theorem App.Approves.hasRoom {printConfig : PrintConfig}
    (hparsed : parseMessageBody (app.tokenContext env) messageBody printConfig.header
      = (parsed, .ok ())) (hl : layout parsed = some l)
    (h : app.Approves env frame messageBody printConfig) : l.HasRoom printConfig := by
  obtain ⟨s, kinds, hs, -⟩ := h
  by_contra hroom
  have hnull := (processMessageBody_of_layout hparsed hl).1 hroom
  rw [hs] at hnull
  cases hnull

/-- **What becomes of a swap's message that has a layout.** -/
theorem App.HasLayout.outcome (hswap : app.calledFromSwap = true)
    (hnone : app.savedDescriptors = none)
    (h : app.HasLayout env header messageBody signerPubkey l) :
    (¬l.HasRoom (app.printConfig header signerPubkey) →
        (handleSignMessageParseMessage env frame app).1 = .stopped .nullItem) ∧
      (l.HasRoom (app.printConfig header signerPubkey) →
        (app.command.isPreviewMode = false →
            app.Approves env frame messageBody (app.printConfig header signerPubkey) →
            (handleSignMessageParseMessage env frame app).1 = (swapFinalize env app).1) ∧
          (¬(app.command.isPreviewMode = false ∧
              app.Approves env frame messageBody (app.printConfig header signerPubkey)) →
            ∃ code, (handleSignMessageParseMessage env frame app).1 = .swapError code)) := by
  obtain ⟨parsed, hparsed, hl⟩ := h.layout_eq
  have hbody := @processMessageBody_of_layout (app.printConfig header signerPubkey)
    (app.tokenContext env) messageBody parsed l hparsed hl
  rw [handleSignMessageParseMessage_eq h.header_eq h.signer_eq h.confirm hnone,
    outcome_signWithSummary_swap hswap]
  rcases hprocess : processMessageBody (app.tokenContext env) messageBody
    (app.printConfig header signerPubkey) .reset with ⟨ret, s⟩
  rw [hprocess] at hbody
  obtain ⟨hnull, hok⟩ := hbody
  refine ⟨fun hroom => ?_, fun hroom => ?_⟩
  · obtain rfl := hnull hroom
    rfl
  · rcases hok hroom with rfl | rfl
    · obtain ⟨kinds, hkinds⟩ := finalize_of_accepted hprocess
      obtain ⟨hfinal, herror⟩ :=
        @outcome_handleSignMessageUi_swap env frame app s kinds hswap hkinds
      refine ⟨fun hpreview happroves => hfinal hpreview ?_, fun hnot => herror fun hvalid => ?_⟩
      · obtain ⟨s', kinds', hs', hkinds', hvalid⟩ := happroves
        obtain ⟨-, rfl⟩ := Prod.ext_iff.mp (hprocess.symm.trans hs')
        obtain rfl : kinds = kinds' := Except.ok.inj (hkinds.symm.trans hkinds')
        exact hvalid
      · exact hnot ⟨hvalid.1, s, kinds, hprocess, hkinds, hvalid.2⟩
    · refine ⟨fun _ happroves => ?_, fun _ => ⟨_, rfl⟩⟩
      obtain ⟨s', kinds', hs', -⟩ := happroves
      cases hprocess.symm.trans hs'

/-- A body without a layout fails alike in every mode. -/
theorem processMessageBody_of_not_layout {ctx : TokenContext}
    (h : ∀ parsed l, parseMessageBody ctx messageBody header = (parsed, .ok ()) →
      layout parsed ≠ some l) :
    ∃ stop, ∀ printConfig : PrintConfig, printConfig.header = header →
      (processMessageBody ctx messageBody printConfig .reset).1 = .error stop := by
  rcases hparsed : parseMessageBody ctx messageBody header with ⟨parsed, stop | u⟩
  · refine ⟨stop, fun printConfig hheader => ?_⟩
    unfold processMessageBody
    rw [hheader, hparsed]
  · rcases hl : layout parsed with _ | l
    · refine ⟨.bail, fun printConfig hheader => ?_⟩
      rw [← hheader] at hparsed
      exact processMessageBody_of_layout_none hparsed hl
    · exact absurd hl (h parsed l hparsed)

/-- **Without a layout the display settings play no part.** -/
theorem outcome_of_not_hasLayout (hswap : app.calledFromSwap = true)
    (hnone : app.savedDescriptors = none)
    (h : ¬∃ header messageBody signerPubkey l,
      app.HasLayout env header messageBody signerPubkey l) :
    ∃ outcome, ∀ expertMode longPubkeys,
      (handleSignMessageParseMessage env frame (app.withDisplay expertMode longPubkeys)).1
        = outcome := by
  have hcommand : ∀ expertMode longPubkeys,
      (app.withDisplay expertMode longPubkeys).command = app.command := fun _ _ => rfl
  rcases hheader : parseMessageHeader ⟨0, app.command.message⟩ with stop | ⟨header, messageBody⟩
  · have houtcome : ∀ app' : App, app'.command = app.command →
        (handleSignMessageParseMessage env frame app').1
          = if stop = .bail then .status .solanaInvalidMessage else .stopped stop :=
      fun app' happ' => by
      unfold handleSignMessageParseMessage
      simp only [happ', hheader]
      rcases stop with _ | _ | _ | _ | _ <;> rfl
    exact ⟨_, fun expertMode longPubkeys => houtcome _ (hcommand expertMode longPubkeys)⟩
  rcases hsigner : scanHeaderForSigner env app.command.derivationPath header with _ | signerPubkey
  · refine ⟨.status .solanaInvalidMessageHeader, fun expertMode longPubkeys => ?_⟩
    rw [handleSignMessageParseMessage, hcommand, hheader]
    simp only [hsigner]
    rfl
  rcases hconfirm : app.command.nonConfirm
  · obtain ⟨stop, hstop⟩ := @processMessageBody_of_not_layout header messageBody
      (app.tokenContext env) fun parsed l hparsed hl =>
        h ⟨header, messageBody, signerPubkey, l, hheader, hsigner, hconfirm, parsed, hparsed, hl⟩
    refine ⟨if stop = .bail then .swapError .blindSigningRefused else .stopped stop,
      fun expertMode longPubkeys => ?_⟩
    rw [@handleSignMessageParseMessage_eq env frame (app.withDisplay expertMode longPubkeys) _ _ _
      hheader hsigner hconfirm hnone,
      @outcome_signWithSummary_swap env frame (app.withDisplay expertMode longPubkeys) _ _ hswap]
    have hbody := hstop ((app.withDisplay expertMode longPubkeys).printConfig header signerPubkey)
      rfl
    rcases hprocess : processMessageBody
      ((app.withDisplay expertMode longPubkeys).tokenContext env) messageBody
      ((app.withDisplay expertMode longPubkeys).printConfig header signerPubkey) .reset
        with ⟨ret, s⟩
    obtain rfl : ret = .error stop := (congrArg Prod.fst hprocess).symm.trans hbody
    rcases stop with _ | _ | _ | _ | _ <;> rfl
  · refine ⟨.status .sdkNotSupported, fun expertMode longPubkeys => ?_⟩
    rw [handleSignMessageParseMessage, hcommand, hheader]
    simp only [hsigner, hconfirm, if_true]
    rfl

end

/-! ## Settings and decisions -/

section

variable {env : Env} {frame : ℕ → Hash} {app : App} {header : MessageHeader}
  {messageBody : Parser} {signerPubkey : Ptr Pubkey} {l : Layout}

theorem Outcome.SameDecision.symm {a b : Outcome} (h : a.SameDecision b) : b.SameDecision a := by
  rcases h with rfl | ⟨code, code', ha, hb⟩
  · exact .inl rfl
  · exact .inr ⟨code', code, hb, ha⟩

theorem swapFinalize_ne_swapError (app : App) (code : SwapErrorCode) :
    (swapFinalize env app).1 ≠ .swapError code := by
  intro h
  unfold swapFinalize at h
  split at h <;> cases h

theorem swapFinalize_ne_stopped (app : App) (stop : Stop) :
    (swapFinalize env app).1 ≠ .stopped stop := by
  intro h
  unfold swapFinalize at h
  split at h <;> cases h

theorem swapFinalize_withDisplay (app : App) (expertMode longPubkeys : Bool) :
    (swapFinalize env (app.withDisplay expertMode longPubkeys)).1 = (swapFinalize env app).1 := by
  have hready : (app.withDisplay expertMode longPubkeys).swapResponseReady
      = app.swapResponseReady := rfl
  unfold swapFinalize
  rw [hready]
  split <;> rfl

/-- The outcomes differ where one review has room and the other has not. -/
theorem App.HasLayout.not_sameDecision {app' : App} (hswap : app.calledFromSwap = true)
    (hnone : app.savedDescriptors = none) (hswap' : app'.calledFromSwap = true)
    (hnone' : app'.savedDescriptors = none)
    (h : app.HasLayout env header messageBody signerPubkey l)
    (h' : app'.HasLayout env header messageBody signerPubkey l)
    (hroom : l.HasRoom (app.printConfig header signerPubkey))
    (hroom' : ¬l.HasRoom (app'.printConfig header signerPubkey)) :
    ¬(handleSignMessageParseMessage env frame app).1.SameDecision
      (handleSignMessageParseMessage env frame app').1 := by
  obtain ⟨hfinal, herror⟩ := (@App.HasLayout.outcome env frame _ _ _ _ _ hswap hnone h).2 hroom
  rw [(@App.HasLayout.outcome env frame _ _ _ _ _ hswap' hnone' h').1 hroom']
  by_cases hok : app.command.isPreviewMode = false ∧
      app.Approves env frame messageBody (app.printConfig header signerPubkey)
  · rw [hfinal hok.1 hok.2]
    rintro (hsame | ⟨code, code', -, hcode⟩)
    · exact swapFinalize_ne_stopped app _ hsame
    · cases hcode
  · obtain ⟨code, hcode⟩ := herror hok
    rw [hcode]
    rintro (hsame | ⟨code, code', -, hcode⟩)
    · cases hsame
    · cases hcode

/-- In one of two modes with room a message is approved, then so in the other, unless it is a swap
of lamports. -/
theorem App.HasLayout.sameDecision {expertMode longPubkeys expertMode' longPubkeys' : Bool}
    (hswap : app.calledFromSwap = true) (hnone : app.savedDescriptors = none)
    (h : app.HasLayout env header messageBody signerPubkey l)
    (hlamports : ¬(app.swap.swapMode = .standard ∧ app.swap.ticker.chars = "SOL".toList ∧
      app.command.isPreviewMode = false ∧ ∃ info, l.SwapsLamports env.swapSdk app.swap
        ((app.withDisplay false false).printConfig header signerPubkey) info))
    (hroom : l.HasRoom ((app.withDisplay false false).printConfig header signerPubkey) ↔
      l.HasRoom ((app.withDisplay true false).printConfig header signerPubkey)) :
    (handleSignMessageParseMessage env frame
    (app.withDisplay expertMode longPubkeys)).1.SameDecision
      (handleSignMessageParseMessage env frame
        (app.withDisplay expertMode' longPubkeys')).1 := by
  obtain ⟨parsed, hparsed, hl⟩ := h.layout_eq
  -- a message that is approved in one mode is approved in the other
  have happroves : ∀ {e lp e' lp'}, app.command.isPreviewMode = false →
      (app.withDisplay e lp).Approves env frame messageBody
        ((app.withDisplay e lp).printConfig header signerPubkey) →
      (app.withDisplay e' lp').Approves env frame messageBody
        ((app.withDisplay e' lp').printConfig header signerPubkey) :=
    fun {e lp e' lp'} hpreview hvalid => by
      by_cases hticker : app.swap.ticker.chars = "SOL".toList
      · obtain ⟨s, kinds, hs, hkinds, hcheck⟩ := hvalid
        have hmode : app.swap.swapMode = .standard := @swapMode_of_checkSwapValidity env frame
          { (app.withDisplay e lp).resetSummary with summary := s } kinds hcheck
        obtain ⟨info, hinfo⟩ := (@approves_lamports_iff env frame (app.withDisplay e lp) messageBody
          ((app.withDisplay e lp).printConfig header signerPubkey) _ _ hparsed hl hmode hticker).mp
          ⟨s, kinds, hs, hkinds, hcheck⟩
        obtain rfl : e = false := (PrintConfig.showAuthority_eq_false_iff.mp hinfo.sender).1
        exact absurd ⟨hmode, hticker, hpreview, info, hinfo⟩ hlamports
      · exact @App.Approves.congr_token env frame (app.withDisplay e lp) messageBody
          ((app.withDisplay e lp).printConfig header signerPubkey) parsed l
          ((app.withDisplay e' lp').printConfig header signerPubkey) hparsed hl rfl hswap hswap
          hticker hvalid
  have hrooms : ∀ {e lp e' lp'},
    l.HasRoom ((app.withDisplay e lp).printConfig header signerPubkey) →
      l.HasRoom ((app.withDisplay e' lp').printConfig header signerPubkey) :=
    fun {e lp e' lp'} hroom' => by
      cases e <;> cases e'
      · exact hroom'
      · exact hroom.mp hroom'
      · exact hroom.mpr hroom'
      · exact hroom'
  have houtcome := @App.HasLayout.outcome env frame (app.withDisplay expertMode longPubkeys) header
    messageBody signerPubkey l hswap hnone ⟨h.header_eq, h.signer_eq, h.confirm, h.layout_eq⟩
  have houtcome' := @App.HasLayout.outcome env frame
    (app.withDisplay expertMode' longPubkeys') header
    messageBody signerPubkey l hswap hnone ⟨h.header_eq, h.signer_eq, h.confirm, h.layout_eq⟩
  by_cases hfits : l.HasRoom
      ((app.withDisplay expertMode longPubkeys).printConfig header signerPubkey)
  · obtain ⟨hfinal, herror⟩ := houtcome.2 hfits
    obtain ⟨hfinal', herror'⟩ := houtcome'.2 (hrooms hfits)
    by_cases hok : app.command.isPreviewMode = false ∧
        (app.withDisplay expertMode longPubkeys).Approves env frame messageBody
          ((app.withDisplay expertMode longPubkeys).printConfig header signerPubkey)
    · refine .inl ((hfinal hok.1 hok.2).trans ?_)
      rw [hfinal' hok.1 (happroves hok.1 hok.2), swapFinalize_withDisplay, swapFinalize_withDisplay]
    · obtain ⟨code, hcode⟩ := herror hok
      obtain ⟨code', hcode'⟩ := herror' fun hok' => hok ⟨hok'.1, happroves hok'.1 hok'.2⟩
      exact .inr ⟨code, code', hcode, hcode'⟩
  · exact .inl ((houtcome.1 hfits).trans (houtcome'.1 fun hfits' => hfits (hrooms hfits')).symm)

/-- A swap of lamports is signed in user mode only: expert mode shows the sender. -/
theorem App.HasLayout.lamports_not_sameDecision {info : SystemTransferInfo}
    (hswap : app.calledFromSwap = true) (hnone : app.savedDescriptors = none)
    (h : app.HasLayout env header messageBody signerPubkey l)
    (hmode : app.swap.swapMode = .standard) (hticker : app.swap.ticker.chars = "SOL".toList)
    (hpreview : app.command.isPreviewMode = false)
    (hinfo : l.SwapsLamports env.swapSdk app.swap
      ((app.withDisplay false false).printConfig header signerPubkey) info)
    (hroom : l.HasRoom ((app.withDisplay false false).printConfig header signerPubkey) ↔
      l.HasRoom ((app.withDisplay true false).printConfig header signerPubkey)) :
    ¬(handleSignMessageParseMessage env frame (app.withDisplay false false)).1.SameDecision
      (handleSignMessageParseMessage env frame (app.withDisplay true false)).1 := by
  obtain ⟨parsed, hparsed, hl⟩ := h.layout_eq
  have happroves : (app.withDisplay false false).Approves env frame messageBody
      ((app.withDisplay false false).printConfig header signerPubkey) :=
    (@approves_lamports_iff env frame (app.withDisplay false false) messageBody
      ((app.withDisplay false false).printConfig header signerPubkey) parsed l hparsed hl hmode
      hticker).mpr ⟨info, hinfo⟩
  have hrefused : ¬(app.withDisplay true false).Approves env frame messageBody
      ((app.withDisplay true false).printConfig header signerPubkey) := fun hvalid => by
    obtain ⟨info', hinfo'⟩ := (@approves_lamports_iff env frame (app.withDisplay true false)
      messageBody ((app.withDisplay true false).printConfig header signerPubkey) parsed l hparsed hl
      hmode hticker).mp hvalid
    obtain ⟨hexpert, -⟩ := PrintConfig.showAuthority_eq_false_iff.mp hinfo'.sender
    cases hexpert
  have hfits := @App.Approves.hasRoom env frame (app.withDisplay false false) messageBody l parsed
    ((app.withDisplay false false).printConfig header signerPubkey) hparsed hl happroves
  have huser := @App.HasLayout.outcome env frame (app.withDisplay false false) header messageBody
    signerPubkey l hswap hnone ⟨h.header_eq, h.signer_eq, h.confirm, h.layout_eq⟩
  have hexpert := @App.HasLayout.outcome env frame (app.withDisplay true false) header messageBody
    signerPubkey l hswap hnone ⟨h.header_eq, h.signer_eq, h.confirm, h.layout_eq⟩
  have hfinal := (huser.2 hfits).1 hpreview happroves
  obtain ⟨code, hcode⟩ := (hexpert.2 (hroom.mp hfits)).2 fun hok => hrefused hok.2
  rw [hfinal, hcode]
  rintro (hsame | ⟨code, code', hsame, -⟩)
  · exact swapFinalize_ne_swapError _ _ hsame
  · exact swapFinalize_ne_swapError _ _ hsame

/-- **When the decisions of swaps do not depend on the display settings**: the message is no swap of
lamports that would be signed, and its review has room in both modes or in none. -/
theorem sameDecision_iff (env : Env) (frame : ℕ → Hash) (app : App)
    (hswap : app.calledFromSwap = true) (hnone : app.savedDescriptors = none) :
    (∀ expertMode longPubkeys expertMode' longPubkeys',
      (handleSignMessageParseMessage env frame
          (app.withDisplay expertMode longPubkeys)).1.SameDecision
        (handleSignMessageParseMessage env frame (app.withDisplay expertMode' longPubkeys')).1) ↔
      ∀ header messageBody signerPubkey l,
        app.HasLayout env header messageBody signerPubkey l →
          ¬(app.swap.swapMode = .standard ∧ app.swap.ticker.chars = "SOL".toList ∧
              app.command.isPreviewMode = false ∧ ∃ info, l.SwapsLamports env.swapSdk app.swap
                ((app.withDisplay false false).printConfig header signerPubkey) info) ∧
            (l.HasRoom ((app.withDisplay false false).printConfig header signerPubkey) ↔
              l.HasRoom ((app.withDisplay true false).printConfig header signerPubkey)) := by
  constructor
  · intro hsame header messageBody signerPubkey l h
    have huser : (app.withDisplay false false).HasLayout env header messageBody signerPubkey l :=
      ⟨h.header_eq, h.signer_eq, h.confirm, h.layout_eq⟩
    have hexpert : (app.withDisplay true false).HasLayout env header messageBody signerPubkey l :=
      ⟨h.header_eq, h.signer_eq, h.confirm, h.layout_eq⟩
    have hroom : l.HasRoom ((app.withDisplay false false).printConfig header signerPubkey) ↔
        l.HasRoom ((app.withDisplay true false).printConfig header signerPubkey) := by
      constructor
      · intro hfits
        by_contra hfull
        exact @App.HasLayout.not_sameDecision env frame (app.withDisplay false false) header
          messageBody signerPubkey l (app.withDisplay true false) hswap hnone hswap hnone huser
          hexpert hfits hfull
          (hsame false false true false)
      · intro hfits
        by_contra hfull
        exact @App.HasLayout.not_sameDecision env frame (app.withDisplay true false) header
          messageBody signerPubkey l (app.withDisplay false false) hswap hnone hswap hnone hexpert
          huser hfits hfull
          (hsame true false false false)
    refine ⟨?_, hroom⟩
    rintro ⟨hmode, hticker, hpreview, info, hinfo⟩
    exact App.HasLayout.lamports_not_sameDecision hswap hnone h hmode hticker hpreview hinfo hroom
      (hsame false false true false)
  · intro hlayouts expertMode longPubkeys expertMode' longPubkeys'
    by_cases hlayout : ∃ header messageBody signerPubkey l,
        app.HasLayout env header messageBody signerPubkey l
    · obtain ⟨header, messageBody, signerPubkey, l, h⟩ := hlayout
      obtain ⟨hlamports, hroom⟩ := hlayouts header messageBody signerPubkey l h
      exact App.HasLayout.sameDecision hswap hnone h hlamports hroom
    · obtain ⟨outcome, houtcome⟩ :=
        @outcome_of_not_hasLayout env frame app hswap hnone hlayout
      exact .inl ((houtcome expertMode longPubkeys).trans
        (houtcome expertMode' longPubkeys').symm)

end

/-- Expert mode refuses the swap of lamports that user mode signs. -/
theorem sameDecision_lamports :
    ¬(handleSignMessageParseMessage exchangeEnv (fun _ => Block.zero 32)
          (lamportsApp.withDisplay false false)).1.SameDecision
        (handleSignMessageParseMessage exchangeEnv (fun _ => Block.zero 32)
          (lamportsApp.withDisplay true false)).1 := by
  have huser : (handleSignMessageParseMessage exchangeEnv (fun _ => Block.zero 32)
      (lamportsApp.withDisplay false false)).1 = .swapFinalize (some (Block.zero 64)) := by
    decide +kernel
  have hexpert : (handleSignMessageParseMessage exchangeEnv (fun _ => Block.zero 32)
      (lamportsApp.withDisplay true false)).1 = .swapError .generic := by
    decide +kernel
  rw [huser, hexpert]
  rintro (hsame | ⟨code, code', hfinal, -⟩)
  · cases hsame
  · cases hfinal

/-- The theorem on a swap of lamports. -/
theorem sameDecision_iff_lamports :
    (∀ expertMode longPubkeys expertMode' longPubkeys',
      (handleSignMessageParseMessage exchangeEnv (fun _ => Block.zero 32)
          (lamportsApp.withDisplay expertMode longPubkeys)).1.SameDecision
        (handleSignMessageParseMessage exchangeEnv (fun _ => Block.zero 32)
          (lamportsApp.withDisplay expertMode' longPubkeys')).1) ↔
      ∀ header messageBody signerPubkey l,
        lamportsApp.HasLayout exchangeEnv header messageBody signerPubkey l →
          ¬(lamportsApp.swap.swapMode = .standard ∧
              lamportsApp.swap.ticker.chars = "SOL".toList ∧
              lamportsApp.command.isPreviewMode = false ∧
              ∃ info, l.SwapsLamports exchangeEnv.swapSdk lamportsApp.swap
                ((lamportsApp.withDisplay false false).printConfig header signerPubkey) info) ∧
            (l.HasRoom ((lamportsApp.withDisplay false false).printConfig header signerPubkey) ↔
              l.HasRoom ((lamportsApp.withDisplay true false).printConfig header signerPubkey)) :=
  sameDecision_iff exchangeEnv (fun _ => Block.zero 32) lamportsApp rfl rfl

end AgencLedger
