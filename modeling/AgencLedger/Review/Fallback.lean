import AgencLedger.App.Main
import AgencLedger.Review.Slots

/-!
# Review/Fallback — what a failed attempt leaves to the blind signing review

When `process_message_body` fails the app falls back to a review of the message hash, in the same
summary.  A pattern that is refused is refused before its first item, so what can be left over is
what comes before the pattern: the extension warning and the nonce.
-/

namespace AgencLedger

/-! ## How patterns bail out -/

section

variable {printConfig : PrintConfig} {ctx : TokenContext}

attribute [local simp] unchecked_generalAuthority

theorem unchecked_primaryIfTitled (primaryTitle : Option String) (value : SummaryValue) :
    (primaryIfTitled primaryTitle value).Unchecked := by
  rcases primaryTitle with _ | title <;> simp [primaryIfTitled]

attribute [local simp] unchecked_primaryIfTitled

theorem unchecked_printSystemInfo (info : SystemInfo) :
    (printSystemInfo info printConfig).Unchecked := by
  rcases info with _ | _ | _ | _ | _ | _ | _ | _ | _ | _ <;>
    simp [printSystemInfo, printSystemTransferInfo, printSystemAdvanceNonceAccount,
      printSystemCreateAccountInfo, printSystemCreateAccountWithSeedInfo, ownerItems, seedItems,
      printSystemInitializeNonceInfo, printSystemWithdrawNonceInfo, printSystemAuthorizeNonceInfo,
      printSystemAssignInfo, printSystemAllocateInfo, printSystemAllocateWithSeedInfo,
      Effect.Unchecked]

theorem unchecked_printStakeInfo (sdk : Sdk) (info : StakeInfo) :
    (printStakeInfo sdk info printConfig).Unchecked := by
  have hinitialize : ∀ title info, (printStakeInitializeInfo (some title) info
      printConfig).Unchecked := fun title info => by
    rcases h : info.lockup with _ | lockup <;>
      simp [printStakeInitializeInfo, stakeAuthorityItems, stakeLockupItems, h]
  have hauthorize : ∀ info, (printStakeAuthorizeInfo info printConfig).Unchecked := fun info => by
    rcases h : info.custodian with _ | custodian <;>
      simp [printStakeAuthorizeInfo, custodianItem, h]
  have hlockup : ∀ info, (printStakeSetLockupInfo info printConfig).Unchecked := fun info => by
    rcases ht : info.lockup.unixTimestamp with _ | time <;>
      rcases he : info.lockup.epoch with _ | epoch <;>
      rcases hc : info.lockup.custodian with _ | custodian <;>
      simp [printStakeSetLockupInfo, ht, he, hc]
  rcases info with _ | _ | _ | _ | _ | _ | _ | _ | _ | _ | _ <;>
    simp [printStakeInfo, printDelegateStakeInfo, printStakeWithdrawInfo, hinitialize, hauthorize,
      printStakeDeactivateInfo, hlockup, printStakeSplitInfo, printStakeSplitInfo1,
      printStakeSplitInfo2, printStakeMergeInfo]

theorem unchecked_printVoteInfo (info : VoteInfo) :
    (printVoteInfo info printConfig).Unchecked := by
  rcases info with _ | _ | _ | _ | _ | _ <;>
    simp [printVoteInfo, printVoteInitializeInfo, printVoteWithdrawInfo, printVoteAuthorizeInfo,
      printVoteUpdateValidatorIdInfo, printVoteUpdateCommissionInfo]

theorem unchecked_printSplTokenSign (sign : SplTokenSign) :
    (printSplTokenSign sign printConfig).Unchecked := by
  rcases sign with signer | ⟨account, signers⟩ <;> simp [printSplTokenSign]

theorem unchecked_summaryItemSetMultisigMOfN (m n : UInt8) :
    (summaryItemSetMultisigMOfN m n).Unchecked := by
  unfold summaryItemSetMultisigMOfN
  split <;> simp

attribute [local simp] unchecked_printSplTokenSign unchecked_summaryItemSetMultisigMOfN

/-- With trusted info at hand the printer of transfers does not bail out. -/
theorem unchecked_printSplTokenTransferInfo (hto : (getTransferToAddress ctx).isSome)
    (info : SplTokenTransferInfo) (isToken2022Kind : Bool) :
    (printSplTokenTransferInfo ctx info printConfig isToken2022Kind true).Unchecked := by
  have hitem : (transferToItem ctx).Unchecked := by
    obtain ⟨address, haddress⟩ := Option.isSome_iff_exists.mp hto
    simp [transferToItem, haddress]
  have hfee : ∀ symbol, (transferFeeItem info symbol).Unchecked := fun symbol => by
    unfold transferFeeItem
    split <;> simp
  simp [printSplTokenTransferInfo, hitem, hfee, Effect.Unchecked]

theorem printSplTokenInfo_cases {info : SplTokenInfo}
    (hto : info.body.transfer?.isSome → (getTransferToAddress ctx).isSome) :
    printSplTokenInfo ctx info printConfig = [.fail] ∨
      (printSplTokenInfo ctx info printConfig).Unchecked := by
  rcases info with ⟨isToken2022Kind, warning, body⟩
  cases body with
  | extension kind => exact .inl rfl
  | transferChecked info | transferCheckedWithFee info =>
      exact .inr (unchecked_printSplTokenTransferInfo (hto rfl) info isToken2022Kind)
  | initializeMint info =>
      right
      rcases h : info.freezeAuthority with _ | authority <;>
        simp [printSplTokenInfo, printSplTokenInitializeMintInfo, h]
  | setAuthority info =>
      right
      rcases h : info.newAuthority with _ | authority <;>
        simp [printSplTokenInfo, printSplTokenSetAuthorityInfo, h]
  | _ =>
      right
      simp [printSplTokenInfo, printSplTokenInitializeAccountInfo,
        printSplTokenInitializeMultisigInfo, printSplTokenApproveInfo, printSplTokenRevokeInfo,
        printSplTokenMintToInfo, printSplTokenBurnInfo, printSplTokenCloseAccountInfo,
        printSplTokenFreezeAccountInfo, printSplTokenThawAccountInfo,
        printSplTokenSyncNativeInfo]

theorem checked_printAgencInfo (index : ℕ) (info : AgencInfo) :
    (printAgencInfo index info).Checked := by
  rcases info with ⟨programId, body⟩
  cases body with
  | createTask info =>
      simp [printAgencInfo, printAgencCreateTaskInfo, checked_printCreateTaskFields]
  | registerAgent info =>
      rcases h : info.metadataUri with _ | uri <;>
        simp [printAgencInfo, printAgencRegisterAgentInfo, h]
  | configureTaskValidation info =>
      rcases h : info.attestor with _ | attestor <;>
        simp [printAgencInfo, printAgencConfigureTaskValidationInfo, h]
  | _ =>
      simp [printAgencInfo, printAgencSetTaskJobSpecInfo, printAgencClaimTaskWithJobSpecInfo,
        printAgencSubmitTaskResultInfo, printAgencAcceptTaskResultInfo,
        printAgencRejectTaskResultInfo, printAgencCancelTaskInfo, printAgencExpireClaimInfo]

@[simp] theorem fail_notMem_setGeneral (title : String) (value : SummaryValue) :
    Effect.fail ∉ setGeneral title value := by
  simp [setGeneral]

@[simp] theorem fail_notMem_setPrimaryAction (action : CString) :
    Effect.fail ∉ setPrimaryAction action := by
  simp [setPrimaryAction]

theorem fail_notMem_printAgencInfo (index : ℕ) (info : AgencInfo) :
    Effect.fail ∉ printAgencInfo index info := by
  rcases info with ⟨programId, body⟩
  cases body with
  | createTask info =>
      simp [printAgencInfo, printAgencCreateTaskInfo, fail_notMem_printCreateTaskFields]
  | registerAgent info =>
      rcases h : info.metadataUri with _ | uri <;>
        simp [printAgencInfo, printAgencRegisterAgentInfo, h]
  | configureTaskValidation info =>
      rcases h : info.attestor with _ | attestor <;>
        simp [printAgencInfo, printAgencConfigureTaskValidationInfo, h]
  | submitTaskResult info =>
      by_cases h : info.artifactHash.isSome <;>
        simp [printAgencInfo, printAgencSubmitTaskResultInfo, h]
  | _ =>
      simp [printAgencInfo, printAgencSetTaskJobSpecInfo, printAgencClaimTaskWithJobSpecInfo,
        printAgencAcceptTaskResultInfo, printAgencRejectTaskResultInfo,
        printAgencCancelTaskInfo, printAgencExpireClaimInfo]

/-- **How a pattern is printed**: it is refused at once, or it never bails out, or it looks at its
items, and these fit. -/
inductive PrintsCleanly (script : Script) : Prop
  | refused (h : script = [.fail])
  | unchecked (h : script.Unchecked)
  | checked (h : script.Checked) (hfail : Effect.fail ∉ script)
      (hcount : script.generalCount ≤ numGeneralItems)

theorem printsCleanly_printAgencInfo (index : ℕ) (info : AgencInfo) :
    PrintsCleanly (printAgencInfo index info) := by
  refine .checked (checked_printAgencInfo index info) (fail_notMem_printAgencInfo index info) ?_
  rcases info with ⟨programId, body⟩
  cases body with
  | createTask info =>
      have hcount := createTaskSlots_le info
      simp only [printAgencInfo, printAgencCreateTaskInfo, Script.generalCount_append,
        Script.generalCount_setPrimaryAction, generalCount_printCreateTaskFields, numGeneralItems]
      omega
  | _ => exact (generalCount_printAgencInfo_le rfl).trans (show 8 ≤ numGeneralItems by decide)

theorem printsCleanly_printAgencCreateTaskWithReviewInfo (create configure : AgencInfo) :
    PrintsCleanly (printAgencCreateTaskWithReviewInfo create configure) := by
  rcases create with ⟨id, create⟩
  rcases configure with ⟨id', configure⟩
  by_cases hbody : ∃ task validation, create = .createTask task ∧
      configure = .configureTaskValidation validation
  · obtain ⟨task, validation, rfl, rfl⟩ := hbody
    rw [printAgencCreateTaskWithReviewInfo_eq]
    split
    · have hcount := createTaskSlots_le task
      refine .checked (by simp [checked_printCreateTaskFields])
        (by simp [fail_notMem_printCreateTaskFields]) ?_
      simp only [Script.generalCount_append, Script.generalCount_setPrimaryAction,
        generalCount_printCreateTaskFields, Script.generalCount_setGeneral, numGeneralItems]
      omega
    · exact .refused rfl
  · refine .refused ?_
    unfold printAgencCreateTaskWithReviewInfo
    split
    · rename_i hcreate hconfigure
      exact absurd ⟨_, _, hcreate, hconfigure⟩ hbody
    · rfl

/-- **Every pattern of a message whose transfers have trusted info is printed so.** -/
theorem printsCleanly_print {pattern : Pattern}
    (hto : pattern.transfer?.isSome → (getTransferToAddress ctx).isSome) :
    PrintsCleanly (pattern.print printConfig ctx) := by
  cases pattern with
  | system info => exact .unchecked (unchecked_printSystemInfo info)
  | stake info => exact .unchecked (unchecked_printStakeInfo ctx.sdk info)
  | vote info => exact .unchecked (unchecked_printVoteInfo info)
  | splToken info =>
      exact (printSplTokenInfo_cases fun h =>
        hto (by simpa [Pattern.transfer?] using h)).elim .refused
        .unchecked
  | agenc index info => exact printsCleanly_printAgencInfo index info
  | agencCreateTaskWithReview create configure =>
      exact printsCleanly_printAgencCreateTaskWithReviewInfo create configure
  | stakeSplitV1_2 ca ss => exact .unchecked (unchecked_printStakeInfo ctx.sdk (.split ss))
  | stakeSplitV1_1 allocate assign ss =>
      exact .unchecked (unchecked_printStakeInfo ctx.sdk (.split ss))
  | splAssociatedTokenAccountCreateWithTransfer create isToken2022Kind transfer =>
      refine .unchecked fun e he => ?_
      simp only [Pattern.print, printSplAssociatedTokenAccountCreateWithTransfer] at he
      exact unchecked_printSplTokenTransferInfo (hto rfl) transfer isToken2022Kind e
        ((List.takeWhile_prefix _).subset he)
  | stakeAuthorizeBoth staker withdrawer =>
      simp only [Pattern.print, printStakeAuthorizeBoth]
      split
      · exact .refused rfl
      · refine .unchecked ?_
        rcases hc : withdrawer.custodian with _ | custodian <;> simp [newAuthorityItems]
  | voteAuthorizeBoth voter withdrawer =>
      simp only [Pattern.print, printVoteAuthorizeBoth]
      split
      · exact .refused rfl
      · exact .unchecked (by simp [newAuthorityItems])
  | createStakeAccountWithSeed cws si => exact .unchecked (unchecked_print rfl (by simp) (by simp))
  | createStakeAccountAndDelegate ca si sd =>
      exact .unchecked (unchecked_print rfl (by simp) (by simp))
  | createStakeAccountWithSeedAndDelegate cws si sd =>
      exact .unchecked (unchecked_print rfl (by simp) (by simp))
  | splTokenCreateMint ca im =>
      refine .unchecked ?_
      rcases hf : im.freezeAuthority with _ | authority <;>
        simp [Pattern.print, printSplTokenCreateMint, hf]
  | _ =>
      refine .unchecked ?_
      simp [Pattern.print, printSplAssociatedTokenAccountInfo,
        printSplAssociatedTokenAccountCreateInfo, printCreateStakeAccount,
        unchecked_printStakeInitializeInfo, printCreateNonceAccount,
        printCreateNonceAccountWithSeed, printCreateVoteAccount, printCreateVoteAccountWithSeed,
        printStakeSplitWithSeed, printSplTokenCreateAccount, printSplTokenCreateMultisig,
        printSystemCreateAccountInfo, printSystemCreateAccountWithSeedInfo, ownerItems, seedItems,
        printSystemInitializeNonceInfo, printVoteInitializeInfo, printStakeSplitInfo1,
        printStakeSplitInfo2, printSystemPrefundForSplit, printPrefundedSplit,
        printPrefundedSplitWithSeed, printStakeSplitInfo]

end

/-! ## What a failing body leaves -/

section

variable {ctx : TokenContext} {messageBody : Parser} {printConfig : PrintConfig}
  {parsed : List ParsedInstruction}

/-- A transfer that is shown has trusted info to show. -/
theorem getTransferToAddress_of_layout {header : MessageHeader} {l : Layout}
    (hparsed : parseMessageBody ctx messageBody header = (parsed, .ok ()))
    (hl : layout parsed = some l) (ht : l.pattern.transfer?.isSome) :
    (getTransferToAddress ctx).isSome := by
  obtain ⟨⟨isToken2022Kind, transfer⟩, ht⟩ := Option.isSome_iff_exists.mp ht
  obtain ⟨info, hinfo, -, hbody⟩ := parsed_transfer_of_layout hparsed hl ht
  obtain ⟨trusted, -, -, -, -, -, hto⟩ := getTransferToAddress_of_check (hinfo.check hbody)
  rw [hto]
  rfl

/-- Nothing comes before the pattern. -/
def QuietHead (printConfig : PrintConfig) (parsed : List ParsedInstruction) : Prop :=
  generateExtensionWarning parsed = false ∧
    (printConfig.expertMode = true → (splitNonce (displayInstructionInfo parsed)).1 = none)

theorem items_reviewHead_eq_nil (h : QuietHead printConfig parsed) (slot : Slot) :
    Script.items slot (reviewHead printConfig parsed (generateExtensionWarning parsed)
      (splitNonce (displayInstructionInfo parsed)).1) = [] := by
  rw [reviewHead, Script.items_append, (parseEffects_quiet parsed).2, h.1]
  rcases hnonce : (splitNonce (displayInstructionInfo parsed)).1 with _ | nonce
  · simp [headItems]
  · have hexpert : printConfig.expertMode = false := by
      rw [Bool.eq_false_iff]
      intro hexpert
      rw [h.2 hexpert] at hnonce
      cases hnonce
    simp [headItems, printSystemNoncedTransactionSentinel, hexpert]

/-- What stands before the pattern, if anything does, is a warning or a nonce. -/
theorem exists_item_reviewHead (h : ¬QuietHead printConfig parsed) :
    ∃ slot item, item ∈ Script.items slot (reviewHead printConfig parsed
        (generateExtensionWarning parsed) (splitNonce (displayInstructionInfo parsed)).1) ∧
      (item.title = "Extension Warning" ∨ item.title = "Nonce account") := by
  unfold QuietHead at h
  rw [not_and_or, Bool.not_eq_false] at h
  rcases h with hwarning | hnonce
  · exact ⟨.general, ⟨"Extension Warning", .string (.lit "Unsupported extensions found")⟩,
      by simp [reviewHead, headItems, hwarning, printSplTokenExtensionWarning], .inl rfl⟩
  · rw [Classical.not_imp] at hnonce
    obtain ⟨hexpert, hsome⟩ := hnonce
    obtain ⟨nonce, hnonce⟩ := Option.ne_none_iff_exists'.mp hsome
    exact ⟨.nonceAccount, ⟨"Nonce account", .pubkey nonce.account⟩,
      by simp [reviewHead, headItems, hnonce, printSystemNoncedTransactionSentinel, hexpert,
        Script.itemAt], .inr rfl⟩

/-- A pattern that is printed cleanly bails out before it has put anything, and the fee behind it
does not bail out. -/
theorem play_bail_of_printsCleanly {script fee : Script} {t s : TransactionSummary}
    (hscript : PrintsCleanly script) (hfee : fee.Unchecked)
    (hroom : script.generalCount ≤ numGeneralItems → Script.Fits script t)
    (h : Script.play (script ++ fee) t = (.error .bail, s)) : s = t := by
  have hnever : ∀ {a : Script} {u : TransactionSummary}, a.Unchecked →
      Script.play a u ≠ (.error .bail, s) := fun ha heq => by
    rcases Script.play_unchecked ha _ with hr | hr <;> rw [heq] at hr <;> cases hr
  rcases hscript with rfl | hunchecked | ⟨-, hfail, hcount⟩
  · exact (Prod.ext_iff.mp h).2.symm
  · exact absurd h (hnever (Script.unchecked_append.mpr ⟨hunchecked, hfee⟩))
  · obtain ⟨u, -, hplay, -⟩ := Script.play_append_of_fits hfail (hroom hcount)
    rw [hplay] at h
    exact absurd h (hnever hfee)

/-- The summary after the head of a quiet review is empty. -/
theorem itemsOf_reviewHead (h : QuietHead printConfig parsed) {t : TransactionSummary}
    (ht : ∀ slot, t.itemsOf slot = TransactionSummary.reset.itemsOf slot
      ++ Script.items slot (reviewHead printConfig parsed (generateExtensionWarning parsed)
        (splitNonce (displayInstructionInfo parsed)).1)) (slot : Slot) : t.itemsOf slot = [] := by
  rw [ht slot, items_reviewHead_eq_nil h, TransactionSummary.itemsOf_reset, List.append_nil]

/-- The whole script of a body that parses starts with the head of its review. -/
theorem messageBodyScript_eq (hparsed : parseMessageBody ctx messageBody printConfig.header
      = (parsed, .ok ())) :
    messageBodyScript ctx messageBody printConfig
      = reviewHead printConfig parsed (generateExtensionWarning parsed)
          (splitNonce (displayInstructionInfo parsed)).1
        ++ match layout parsed with
          | some l => l.pattern.print printConfig ctx ++ l.feeItems
          | none => [.fail] := by
  unfold messageBodyScript
  simp only [hparsed, printMessageBody_eq]
  rcases hl : layout parsed with _ | l
  · simp only [reviewHead, List.append_assoc]
  · obtain ⟨-, -, -, -, -, hwarning, -⟩ := layout_spec hl
    rw [reviewHead_append, hwarning, layout_nonce hl]

/-- **A failing body whose review has nothing before its pattern leaves nothing.** -/
theorem itemsOf_of_bail {s : TransactionSummary}
    (h : processMessageBody ctx messageBody printConfig .reset = (.error .bail, s))
    (hquiet : ∀ parsed, parseMessageBody ctx messageBody printConfig.header = (parsed, .ok ()) →
      QuietHead printConfig parsed) (slot : Slot) : s.itemsOf slot = [] := by
  unfold processMessageBody at h
  rcases hparsed : parseMessageBody ctx messageBody printConfig.header with ⟨parsed, stop | u⟩
  · -- parsing alone puts no item
    obtain ⟨done, hdone, hitems⟩ := Script.itemsOf_play_prefix
      (messageBodyScript ctx messageBody printConfig) .reset
    obtain ⟨rest, hrest⟩ := hdone
    have hnil : Script.items slot done = [] := by
      have hall := (parseEffects_quiet parsed).2 slot
      rw [messageBodyScript, hparsed] at hrest
      simp only [List.append_nil] at hrest
      rw [← hrest, Script.items_append] at hall
      exact (List.append_eq_nil_iff.mp hall).1
    simp only [hparsed] at h
    obtain rfl : _ = s := congrArg Prod.snd h
    rw [hitems slot, hnil, TransactionSummary.itemsOf_reset, List.append_nil]
  · simp only [hparsed] at h
    have hq := hquiet parsed hparsed
    obtain ⟨t, ht, hplay, hfits⟩ := Script.play_append_of_fits
      (fail_notMem_reviewHead printConfig parsed (generateExtensionWarning parsed)
        (splitNonce (displayInstructionInfo parsed)).1)
      (fits_reviewHead printConfig parsed _ _)
    rw [messageBodyScript_eq hparsed, hplay] at h
    have hst : s = t := by
      rcases hl : layout parsed with _ | l
      · simp only [hl] at h
        exact (Prod.ext_iff.mp h).2.symm
      · simp only [hl] at h
        refine play_bail_of_printsCleanly
          (printsCleanly_print (getTransferToAddress_of_layout hparsed hl)) l.unchecked_feeItems
          (fun hcount => ?_) h
        rw [hfits, fits_reviewHead_iff (onePrimary_print printConfig ctx l.pattern), hq.1]
        simpa using hcount
    rw [hst]
    exact itemsOf_reviewHead hq ht slot

/-- **A failing body whose review starts with a warning or a nonce leaves that in the summary.** -/
theorem exists_item_of_not_quietHead {s : TransactionSummary} {r : Result Unit}
    (h : processMessageBody ctx messageBody printConfig .reset = (r, s))
    (hparsed : parseMessageBody ctx messageBody printConfig.header = (parsed, .ok ()))
    (hloud : ¬QuietHead printConfig parsed) :
    ∃ slot, ∃ item ∈ s.itemsOf slot,
      item.title = "Extension Warning" ∨ item.title = "Nonce account" := by
  unfold processMessageBody at h
  simp only [hparsed, messageBodyScript_eq hparsed] at h
  obtain ⟨t, ht, hplay, -⟩ := Script.play_append_of_fits
    (fail_notMem_reviewHead printConfig parsed (generateExtensionWarning parsed)
      (splitNonce (displayInstructionInfo parsed)).1)
    (fits_reviewHead printConfig parsed _ _)
  rw [hplay] at h
  obtain ⟨slot, item, hitem, htitle⟩ := exists_item_reviewHead hloud
  obtain ⟨done, -, hdone⟩ := Script.itemsOf_play_prefix (match layout parsed with
    | some l => l.pattern.print printConfig ctx ++ l.feeItems
    | none => [.fail]) t
  obtain rfl : _ = s := congrArg Prod.snd h
  refine ⟨slot, item, ?_, htitle⟩
  rw [hdone slot, ht slot]
  exact List.mem_append_left _ (List.mem_append_right _ hitem)

end

/-! ## The fallback -/

theorem nul_notMem_format : nul ∉ "format".toList := by decide

/-- The items a blind signing review is meant to consist of. -/
def blindReview (messageHash : Hash) (printConfig : PrintConfig) : List SummaryItem :=
  [⟨"Unrecognized", .string (.lit "format" nul_notMem_format)⟩,
   ⟨"Message Hash", .hash (.global messageHash)⟩]
    ++ (printConfig.header.pubkeys.head?.filter printConfig.showAuthority).toList.map
      fun feePayer => ⟨"Fee payer", .pubkey feePayer⟩

/-- **The command reaches the blind signing fallback**: the header of its message parses and names
the signer, blind signing is on, no swap goes on, and the body fails. -/
structure FallsBack (env : Env) (app : App) (header : MessageHeader) (messageBody : Parser)
    (signerPubkey : Ptr Pubkey) : Prop where
  header_eq : parseMessageHeader ⟨0, app.command.message⟩ = .ok (header, messageBody)
  signer_eq : scanHeaderForSigner env app.command.derivationPath header = some signerPubkey
  nonConfirm_eq : app.command.nonConfirm = false
  savedDescriptors_eq : app.savedDescriptors = none
  calledFromSwap_eq : app.calledFromSwap = false
  allowBlindSign_eq : app.settings.allowBlindSign = true
  body_eq : (processMessageBody (app.tokenContext env) messageBody
    (app.printConfig header signerPubkey) .reset).1 = .error .bail

/-- The command is put up for review with the items of a blind signing review, and no others. -/
def ReviewsBlindly (env : Env) (frame : ℕ → Hash) (app : App) (items : List SummaryItem) : Prop :=
  ∃ app', handleSignMessageParseMessage env frame app = (.pending, app') ∧
    app'.summary.usedItems = items

section

variable {env : Env} {frame : ℕ → Hash} {app : App} {header : MessageHeader}
  {messageBody : Parser} {signerPubkey : Ptr Pubkey} {hash : Hash}

/-- The app with the summary that a failed body leaves to the fallback. -/
def App.leftOver (env : Env) (app : App) (header : MessageHeader) (messageBody : Parser)
    (signerPubkey : Ptr Pubkey) : App :=
  { app.resetSummary with
    summary := (processMessageBody (app.tokenContext env) messageBody
      (app.printConfig header signerPubkey) .reset).2 }

theorem FallsBack.processMessageBody_eq (h : FallsBack env app header messageBody signerPubkey) :
    processMessageBody (app.tokenContext env) messageBody (app.printConfig header signerPubkey)
        .reset
      = (.error .bail, (app.leftOver env header messageBody signerPubkey).summary) := by
  rw [← h.body_eq]
  rfl

/-- **What the handler does then**: it adds its items to what is left, and starts the review. -/
theorem FallsBack.handle_eq (h : FallsBack env app header messageBody signerPubkey) :
    handleSignMessageParseMessage env frame app =
      match blindSigningItems env (app.leftOver env header messageBody signerPubkey)
          (app.printConfig header signerPubkey) with
      | .ok app => handleSignMessageUi env frame app
      | .error stop => (.stopped stop, app.leftOver env header messageBody signerPubkey) := by
  rw [handleSignMessageParseMessage_eq h.header_eq h.signer_eq h.nonConfirm_eq
    h.savedDescriptors_eq]
  exact signWithSummary_bail h.processMessageBody_eq h.calledFromSwap_eq h.allowBlindSign_eq

/-- Outside a swap a summary with a primary item goes to review as it is. -/
theorem handleSignMessageUi_pending (env : Env) (frame : ℕ → Hash)
    (hswap : app.calledFromSwap = false) (hprimary : app.summary.primary.isSome) :
    ∃ app', handleSignMessageUi env frame app = (.pending, app') ∧ app'.summary = app.summary := by
  obtain ⟨item, hitem⟩ := Option.isSome_iff_exists.mp hprimary
  simp [handleSignMessageUi, TransactionSummary.finalize, hitem, hswap, App.startReview]

/-- A review that is put up has the summary it was given. -/
theorem summary_of_handleSignMessageUi {app' : App} (hswap : app.calledFromSwap = false)
    (h : handleSignMessageUi env frame app = (.pending, app')) : app'.summary = app.summary := by
  unfold handleSignMessageUi at h
  rcases hfin : app.summary.finalize with stop | kinds
  · rw [hfin] at h
    cases h
  · simp only [hfin, hswap] at h
    cases h
    rfl

/-- The signer found in a header is one of its keys, so there is a first key. -/
theorem exists_feePayer
    (h : scanHeaderForSigner env app.command.derivationPath header = some signerPubkey) :
    ∃ feePayer, header.pubkeys[0]? = some feePayer := by
  simp only [scanHeaderForSigner, Option.bind_eq_bind, Option.bind_eq_some_iff] at h
  obtain ⟨signer, -, index, -, hkey⟩ := h
  obtain ⟨hlt, -⟩ := List.getElem?_eq_some_iff.mp hkey
  exact ⟨header.pubkeys[0], List.getElem?_eq_getElem (by omega)⟩

/-- **From an empty summary the fallback makes the blind signing review.** -/
theorem blindSigningItems_of_empty (printConfig : PrintConfig) {feePayer : Ptr Pubkey}
    (hempty : ∀ slot, app.summary.itemsOf slot = [])
    (hhash : env.sdk.sha256 app.command.message = some hash)
    (hkey : printConfig.header.pubkeys[0]? = some feePayer) :
    ∃ app', blindSigningItems env app printConfig = .ok app' ∧
      app'.summary.usedItems = blindReview hash printConfig ∧
      app'.calledFromSwap = app.calledFromSwap ∧ app'.summary.primary.isSome := by
  have hprimary : app.summary.primary = none := by
    simpa [TransactionSummary.itemsOf] using hempty .primary
  have hgeneral : app.summary.general = [] := hempty .general
  have hnonce : app.summary.nonceAccount = none := by
    simpa [TransactionSummary.itemsOf] using hempty .nonceAccount
  have hauthority : app.summary.nonceAuthority = none := by
    simpa [TransactionSummary.itemsOf] using hempty .nonceAuthority
  have hfee : app.summary.feePayer = none := by
    simpa [TransactionSummary.itemsOf] using hempty .feePayer
  have hhead : printConfig.header.pubkeys.head? = some feePayer := by
    rw [List.head?_eq_getElem?, hkey]
  have hroom : 0 < numGeneralItems := by decide
  simp only [blindSigningItems, blindReview, TransactionSummary.put, readAt, hkey, hhash, hprimary,
    hgeneral, hfee, hhead, hroom, Option.isNone_none, if_true, dif_pos, List.length_nil,
    List.nil_append, Option.getD_some, bind, Except.bind, pure, Except.pure, Option.filter_some]
  refine ⟨_, rfl, ?_, rfl, ?_⟩ <;>
    by_cases hshow : printConfig.showAuthority feePayer = true <;>
      simp [hshow, TransactionSummary.usedItems, hnonce, hauthority]

/-- The fallback removes no item. -/
theorem itemsOf_blindSigningItems {printConfig : PrintConfig} {app' : App}
    (h : blindSigningItems env app printConfig = .ok app') :
    app'.calledFromSwap = app.calledFromSwap ∧
      ∀ slot, app.summary.itemsOf slot <+: app'.summary.itemsOf slot := by
  unfold blindSigningItems at h
  have hflag : ∀ slot, { app.summary with isBlindSigning := true }.itemsOf slot
      = app.summary.itemsOf slot := fun slot => by cases slot <;> rfl
  rcases hprimary : TransactionSummary.put { app.summary with isBlindSigning := true } .primary
    ⟨"Unrecognized", .string (.lit "format")⟩ with _ | s₁
  · simp only [hprimary] at h
    cases h
  · simp only [hprimary] at h
    rcases hgeneral : s₁.put .general ⟨"Message Hash", .hash (.global
        ((env.sdk.sha256 app.command.message).getD app.command.messageHash))⟩ with _ | s₂
    · simp only [hgeneral] at h
      cases h
    · simp only [hgeneral] at h
      obtain ⟨feePayer, -, h⟩ := (Result.seq_ok_iff _ _ _).mp h
      have h₂ : ∀ slot, app.summary.itemsOf slot <+: s₂.itemsOf slot := fun slot => by
        rw [TransactionSummary.itemsOf_put hgeneral, TransactionSummary.itemsOf_put hprimary,
          hflag, List.append_assoc]
        exact List.prefix_append _ _
      obtain rfl : _ = app' := Except.ok.inj h
      refine ⟨rfl, fun slot => ?_⟩
      simp only
      split
      · rcases hput : s₂.put .feePayer ⟨"Fee payer", .pubkey feePayer⟩ with _ | s₃
        · exact h₂ slot
        · refine (h₂ slot).trans ?_
          rw [Option.getD_some, TransactionSummary.itemsOf_put hput]
          exact List.prefix_append _ _
      · exact h₂ slot

/-- The titles of a blind signing review. -/
theorem title_of_mem_blindReview {printConfig : PrintConfig} {item : SummaryItem}
    (h : item ∈ blindReview hash printConfig) :
    item.title = "Unrecognized" ∨ item.title = "Message Hash" ∨ item.title = "Fee payer" := by
  simp only [blindReview, List.mem_append, List.mem_cons, List.not_mem_nil, or_false,
    List.mem_map] at h
  rcases h with (rfl | rfl) | ⟨feePayer, -, rfl⟩ <;> simp

/-- **A failed message is put up for blind signing with nothing but the blind signing items exactly
when nothing comes before its pattern**: its body does not parse, or it does, with no extension to
warn of and, in expert mode, no nonce in front. -/
theorem reviewsBlindly_iff (h : FallsBack env app header messageBody signerPubkey)
    (hhash : env.sdk.sha256 app.command.message = some hash) :
    ReviewsBlindly env frame app (blindReview hash (app.printConfig header signerPubkey)) ↔
      ∀ parsed, parseMessageBody (app.tokenContext env) messageBody header = (parsed, .ok ()) →
        QuietHead (app.printConfig header signerPubkey) parsed := by
  have hleft := h.processMessageBody_eq
  constructor
  · rintro ⟨app', happ', hitems⟩ parsed hparsed
    by_contra hloud
    obtain ⟨slot, item, hitem, htitle⟩ := exists_item_of_not_quietHead hleft hparsed hloud
    rw [h.handle_eq] at happ'
    rcases hblind : blindSigningItems env (app.leftOver env header messageBody signerPubkey)
      (app.printConfig header signerPubkey) with stop | shown
    · rw [hblind] at happ'
      cases happ'
    · rw [hblind] at happ'
      obtain ⟨hswap, hkept⟩ := itemsOf_blindSigningItems hblind
      have hmem : item ∈ blindReview hash (app.printConfig header signerPubkey) := by
        rw [← hitems, summary_of_handleSignMessageUi (hswap.trans h.calledFromSwap_eq) happ']
        exact TransactionSummary.mem_usedItems.mpr
          ⟨slot, (hkept slot).subset hitem⟩
      rcases title_of_mem_blindReview hmem with ht | ht | ht <;> rw [ht] at htitle <;>
        revert htitle <;> decide
  · intro hquiet
    obtain ⟨feePayer, hkey⟩ := exists_feePayer h.signer_eq
    obtain ⟨shown, hblind, hitems, hswap, hprimary⟩ := blindSigningItems_of_empty
      (app.printConfig header signerPubkey) (itemsOf_of_bail hleft hquiet) hhash hkey
    obtain ⟨app', happ', hsummary⟩ := handleSignMessageUi_pending env frame
      (hswap.trans h.calledFromSwap_eq) hprimary
    refine ⟨app', ?_, hsummary ▸ hitems⟩
    rw [h.handle_eq, hblind]
    exact happ'

end

/-! ## Two messages that fall back -/

/-- An environment in which the message has the given digest. -/
def hashingEnv (digest : Hash) : Env :=
  .plain ⟨fun _ => some digest, fun _ => false, fun _ _ => none⟩ plainSigner

/-- Two transfers, which are no pattern. -/
def twoTransfers : List (List UInt8) :=
  List.replicate 2 (writeInstruction 1 [0, 0] [2, 0, 0, 0, 1, 0, 0, 0, 0, 0, 0, 0])

/-- The SHA-256 of the message with these transfers. -/
def twoTransfersHash : Hash :=
  ⟨[140, 136, 71, 82, 75, 226, 103, 90, 53, 215, 112, 176, 48, 176, 195, 221, 16, 71, 251, 4, 169,
    137, 55, 232, 166, 16, 40, 105, 110, 156, 194, 246], rfl⟩

/-- The transfer hook extension of Token-2022, which is not shown. -/
def hookExtension : List (List UInt8) := [writeInstruction 1 [0, 0] [36]]

/-- The SHA-256 of the message with this extension. -/
def hookExtensionHash : Hash :=
  ⟨[189, 69, 15, 169, 188, 201, 195, 212, 88, 93, 115, 215, 179, 6, 196, 110, 229, 208, 239, 57,
    138, 34, 152, 100, 61, 83, 203, 176, 189, 49, 22, 158], rfl⟩

/-- The app about to sign instructions of a program. -/
def fallbackApp (program : Pubkey) (instructions : List (List UInt8)) (digest : Hash) : App :=
  .plain (hashingEnv digest) (legacyMessage [plainSigner, program] instructions)

theorem fallsBack_twoTransfers :
    FallsBack (hashingEnv twoTransfersHash)
      (fallbackApp systemProgramId twoTransfers twoTransfersHash)
      (legacyHeader [plainSigner, systemProgramId] (by decide) 2)
      (legacyBody [plainSigner, systemProgramId] twoTransfers) ⟨4, plainSigner⟩ := by
  constructor <;> decide +kernel

/-- The theorem on two transfers. -/
theorem reviewsBlindly_twoTransfers :
    ReviewsBlindly (hashingEnv twoTransfersHash) (fun _ => Block.zero 32)
        (fallbackApp systemProgramId twoTransfers twoTransfersHash)
        (blindReview twoTransfersHash
          ((fallbackApp systemProgramId twoTransfers twoTransfersHash).printConfig
            (legacyHeader [plainSigner, systemProgramId] (by decide) 2) ⟨4, plainSigner⟩)) ↔
      ∀ parsed, parseMessageBody
          ((fallbackApp systemProgramId twoTransfers twoTransfersHash).tokenContext
            (hashingEnv twoTransfersHash))
          (legacyBody [plainSigner, systemProgramId] twoTransfers)
          (legacyHeader [plainSigner, systemProgramId] (by decide) 2) = (parsed, .ok ()) →
        QuietHead ((fallbackApp systemProgramId twoTransfers twoTransfersHash).printConfig
          (legacyHeader [plainSigner, systemProgramId] (by decide) 2) ⟨4, plainSigner⟩) parsed :=
  reviewsBlindly_iff fallsBack_twoTransfers rfl

theorem fallsBack_hookExtension :
    FallsBack (hashingEnv hookExtensionHash)
      (fallbackApp splToken2022ProgramId hookExtension hookExtensionHash)
      (legacyHeader [plainSigner, splToken2022ProgramId] (by decide) 1)
      (legacyBody [plainSigner, splToken2022ProgramId] hookExtension) ⟨4, plainSigner⟩ := by
  constructor <;> decide

/-- **The warning of a transfer hook survives into the blind signing review.** -/
theorem hookExtension_not_reviewsBlindly :
    FallsBack (hashingEnv hookExtensionHash)
        (fallbackApp splToken2022ProgramId hookExtension hookExtensionHash)
        (legacyHeader [plainSigner, splToken2022ProgramId] (by decide) 1)
        (legacyBody [plainSigner, splToken2022ProgramId] hookExtension) ⟨4, plainSigner⟩ ∧
      ¬ReviewsBlindly (hashingEnv hookExtensionHash) (fun _ => Block.zero 32)
        (fallbackApp splToken2022ProgramId hookExtension hookExtensionHash)
        (blindReview hookExtensionHash
          ((fallbackApp splToken2022ProgramId hookExtension hookExtensionHash).printConfig
            (legacyHeader [plainSigner, splToken2022ProgramId] (by decide) 1)
            ⟨4, plainSigner⟩)) := by
  refine ⟨fallsBack_hookExtension, ?_⟩
  rintro ⟨app', happ', hitems⟩
  have hshown : (handleSignMessageParseMessage (hashingEnv hookExtensionHash)
      (fun _ => Block.zero 32)
      (fallbackApp splToken2022ProgramId hookExtension
        hookExtensionHash)).2.summary.usedItems.length
        = 4 := by
    decide +kernel
  rw [happ', hitems] at hshown
  revert hshown
  decide

end AgencLedger
