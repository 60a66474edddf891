import AgencLedger.Review.Shown

/-!
# Review/Outcome — what becomes of a message

With a layout that has room a message is accepted or bails out, and one that is accepted can be
finalized: `transaction_summary_finalize` asks for a primary item only, and every pattern that is
printed has one.
-/

namespace AgencLedger

section

variable {printConfig : PrintConfig} {ctx : TokenContext}

/-- The script sets a primary item. -/
def Script.SetsPrimary (script : Script) : Prop := items .primary script ≠ []

namespace Script

variable {a b : Script}

@[simp] theorem setsPrimary_append : SetsPrimary (a ++ b) ↔ SetsPrimary a ∨ SetsPrimary b := by
  rw [SetsPrimary, items_append, Ne, List.append_eq_nil_iff, not_and_or]
  rfl

@[simp] theorem setsPrimary_primary (title : String) (value : SummaryValue) :
    SetsPrimary (primary title value) := by
  simp [SetsPrimary]

@[simp] theorem setsPrimary_setPrimaryAction (action : CString) :
    SetsPrimary (setPrimaryAction action) := by
  simp [SetsPrimary, setPrimaryAction, itemAt]

@[simp] theorem setsPrimary_primaryIfTitled (title : String) (value : SummaryValue) :
    SetsPrimary (primaryIfTitled (some title) value) :=
  setsPrimary_primary title value

@[simp] theorem setsPrimary_ite {c : Prop} [Decidable c] :
    SetsPrimary (if c then a else b) ↔ if c then SetsPrimary a else SetsPrimary b := by
  split <;> rfl

end Script

theorem setsPrimary_printSystemInfo (info : SystemInfo) :
    (printSystemInfo info printConfig).SetsPrimary := by
  cases info <;>
    simp [printSystemInfo, printSystemTransferInfo, printSystemAdvanceNonceAccount,
      printSystemCreateAccountInfo, printSystemCreateAccountWithSeedInfo,
      printSystemInitializeNonceInfo, printSystemWithdrawNonceInfo, printSystemAuthorizeNonceInfo,
      printSystemAssignInfo, printSystemAllocateInfo, printSystemAllocateWithSeedInfo]

theorem setsPrimary_printStakeInfo (sdk : Sdk) (info : StakeInfo) :
    (printStakeInfo sdk info printConfig).SetsPrimary := by
  cases info <;>
    simp [printStakeInfo, printDelegateStakeInfo, printStakeInitializeInfo,
      printStakeWithdrawInfo, printStakeAuthorizeInfo, printStakeSetLockupInfo,
      printStakeDeactivateInfo, printStakeSplitInfo, printStakeSplitInfo1, printStakeMergeInfo]

theorem setsPrimary_printVoteInfo (info : VoteInfo) :
    (printVoteInfo info printConfig).SetsPrimary := by
  cases info <;>
    simp [printVoteInfo, printVoteInitializeInfo, printVoteWithdrawInfo, printVoteAuthorizeInfo,
      printVoteUpdateValidatorIdInfo, printVoteUpdateCommissionInfo]

theorem setsPrimary_printSplTokenInfo {info : SplTokenInfo}
    (hfail : Effect.fail ∉ printSplTokenInfo ctx info printConfig) :
    (printSplTokenInfo ctx info printConfig).SetsPrimary := by
  rcases info with ⟨isToken2022Kind, warning, body⟩
  cases body with
  | extension kind => simp [printSplTokenInfo] at hfail
  | _ =>
      simp [printSplTokenInfo, printSplTokenInitializeMintInfo, printSplTokenInitializeAccountInfo,
        printSplTokenInitializeMultisigInfo, printSplTokenApproveInfo, printSplTokenRevokeInfo,
        printSplTokenSetAuthorityInfo, printSplTokenTransferInfo, printSplTokenMintToInfo,
        printSplTokenBurnInfo, printSplTokenCloseAccountInfo, printSplTokenFreezeAccountInfo,
        printSplTokenThawAccountInfo, printSplTokenSyncNativeInfo]

theorem setsPrimary_printAgencInfo (index : ℕ) (info : AgencInfo) :
    (printAgencInfo index info).SetsPrimary := by
  rcases info with ⟨programId, body⟩
  cases body <;>
    simp [printAgencInfo, printAgencCreateTaskInfo, printAgencRegisterAgentInfo,
      printAgencConfigureTaskValidationInfo, printAgencSetTaskJobSpecInfo,
      printAgencClaimTaskWithJobSpecInfo, printAgencSubmitTaskResultInfo,
      printAgencAcceptTaskResultInfo, printAgencRejectTaskResultInfo, printAgencCancelTaskInfo,
      printAgencExpireClaimInfo]

/-- **A pattern that is printed sets a primary item.** -/
theorem setsPrimary_print {pattern : Pattern}
    (hfail : Effect.fail ∉ pattern.print printConfig ctx) :
    (pattern.print printConfig ctx).SetsPrimary := by
  cases pattern with
  | system info => exact setsPrimary_printSystemInfo info
  | stake info => exact setsPrimary_printStakeInfo ctx.sdk info
  | vote info => exact setsPrimary_printVoteInfo info
  | splToken info => exact setsPrimary_printSplTokenInfo hfail
  | agenc index info => exact setsPrimary_printAgencInfo index info
  | stakeSplitV1_2 ca ss => exact setsPrimary_printStakeInfo ctx.sdk (.split ss)
  | stakeSplitV1_1 allocate assign ss => exact setsPrimary_printStakeInfo ctx.sdk (.split ss)
  | stakeAuthorizeBoth staker withdrawer =>
      simp only [Pattern.print, printStakeAuthorizeBoth] at hfail ⊢
      split at hfail
      · simp at hfail
      · rename_i hkinds
        rw [if_neg hkinds]
        simp
  | voteAuthorizeBoth voter withdrawer =>
      simp only [Pattern.print, printVoteAuthorizeBoth] at hfail ⊢
      split at hfail
      · simp at hfail
      · rename_i hkinds
        rw [if_neg hkinds]
        simp
  | splAssociatedTokenAccountCreateWithTransfer create isToken2022Kind transfer =>
      simp [Script.SetsPrimary, Pattern.print, printSplAssociatedTokenAccountCreateWithTransfer,
        printSplTokenTransferInfo, primary, Script.itemAt]
  | agencCreateTaskWithReview create configure =>
      simp only [Pattern.print, printAgencCreateTaskWithReviewInfo] at hfail ⊢
      split at hfail
      · split at hfail
        · simp at hfail
        · rename_i hreview
          rw [if_neg hreview]
          simp
      · simp at hfail
  | _ =>
      simp [Pattern.print, printSplAssociatedTokenAccountInfo,
        printSplAssociatedTokenAccountCreateInfo, printCreateStakeAccount,
        printCreateStakeAccountWithSeed, printCreateNonceAccount, printCreateNonceAccountWithSeed,
        printCreateVoteAccount, printCreateVoteAccountWithSeed, printStakeSplitWithSeed,
        printSplTokenCreateMint, printSplTokenCreateAccount, printSplTokenCreateMultisig,
        printCreateStakeAccountAndDelegate, printCreateStakeAccountWithSeedAndDelegate,
        printStakeSplitInfo, printStakeSplitInfo1, printPrefundedSplit, printPrefundedSplitWithSeed]

/-- **An accepted message can be finalized.** -/
theorem finalize_of_accepted {messageBody : Parser} {s : TransactionSummary}
    (h : processMessageBody ctx messageBody printConfig .reset = (.ok (), s)) :
    ∃ kinds, s.finalize = .ok kinds := by
  obtain ⟨parsed, l, -, -, hfail, hslots⟩ := processMessageBody_ok h
  simp only [Layout.script, List.mem_append, not_or] at hfail
  have hprimary := hslots .primary
  rw [TransactionSummary.itemsOf_reset, List.nil_append, Layout.script, Script.items_append,
    Script.items_append, items_headItems] at hprimary
  have hsome : s.primary ≠ none := fun hnone => by
    rw [TransactionSummary.itemsOf, hnone] at hprimary
    have hnil := List.append_eq_nil_iff.mp hprimary.symm
    exact setsPrimary_print hfail.1.2 (List.append_eq_nil_iff.mp hnil.1).2
  exact ⟨_, if_neg (by simpa [Option.isNone_iff_eq_none] using hsome)⟩

/-- **A message is accepted if its pattern is printed and is none of the crowded ones**, and its
summary can be finalized. -/
theorem accepted_of_not_isCrowded {messageBody : Parser} {parsed : List ParsedInstruction}
    {l : Layout}
    (hparsed : parseMessageBody ctx messageBody printConfig.header = (parsed, .ok ()))
    (hl : layout parsed = some l) (hfail : Effect.fail ∉ l.pattern.print printConfig ctx)
    (hcrowded : l.pattern.isCrowded = false) :
    ∃ s kinds, processMessageBody ctx messageBody printConfig .reset = (.ok (), s) ∧
      s.finalize = .ok kinds ∧ s.usedItems = l.usedItems printConfig ctx := by
  have hscript : Effect.fail ∉ parsed.flatMap (·.info.parseEffects)
    ++ l.script printConfig ctx := by
    intro h
    rw [reviewHead_append] at h
    rcases List.mem_append.mp h with hhead | hrest
    · exact fail_notMem_reviewHead _ _ _ _ hhead
    · exact (List.mem_append.mp hrest).elim hfail l.unchecked_feeItems.fail_notMem
  have hcount : l.warningSlots + (l.pattern.print printConfig ctx).generalCount + l.feeSlots
      ≤ numGeneralItems := by
    have hpattern := generalCount_print_le printConfig ctx hcrowded
    have hnum : numGeneralItems = 11 := rfl
    unfold Layout.warningSlots Layout.feeSlots
    split <;> split <;> omega
  have hroom := (@fits_script_iff printConfig ctx parsed l).mpr hcount
  have hok := processMessageBody_ok_iff.mpr ⟨parsed, l, hparsed, hl,
    fun h => hscript (List.mem_append_right _ h), fun slot => by
      have := hroom slot
      rwa [Script.items_append, (parseEffects_quiet parsed).2, List.nil_append] at this⟩
  obtain ⟨s, hs⟩ : ∃ s, processMessageBody ctx messageBody printConfig .reset = (.ok (), s) :=
    ⟨_, Prod.ext hok rfl⟩
  obtain ⟨kinds, hkinds⟩ := finalize_of_accepted hs
  obtain ⟨parsed', l', hparsed', hl', -, hitems⟩ := usedItems_of_accepted hs
  obtain ⟨rfl, -⟩ := Prod.ext_iff.mp (hparsed.symm.trans hparsed')
  obtain rfl : l = l' := Option.some.inj (hl.symm.trans hl')
  exact ⟨s, kinds, hs, hkinds, hitems⟩

/-- A script stops by bailing out or at a `NULL` item. -/
theorem Script.play_error {script : Script} {s : TransactionSummary} {stop : Stop}
    (h : (play script s).1 = .error stop) : stop = .bail ∨ stop = .nullItem := by
  obtain ⟨done, e, rest, t, -, -, hstop⟩ := play_eq_error h
  exact (step_eq_error hstop).elim (fun h => .inr h.1) fun h => .inl h.1

/-- **What becomes of a message that has a layout**: without room it meets a `NULL` item, with room
it does not. -/
theorem processMessageBody_of_layout {messageBody : Parser} {parsed : List ParsedInstruction}
    {l : Layout} (hparsed : parseMessageBody ctx messageBody printConfig.header = (parsed, .ok ()))
    (hl : layout parsed = some l) :
    (¬l.HasRoom printConfig →
        (processMessageBody ctx messageBody printConfig .reset).1 = .error .nullItem) ∧
      (l.HasRoom printConfig →
        (processMessageBody ctx messageBody printConfig .reset).1 = .ok () ∨
          (processMessageBody ctx messageBody printConfig .reset).1 = .error .bail) := by
  simp only [processMessageBody, messageBodyScript, hparsed, printMessageBody_eq, hl]
  have hnull := @play_script_nullItem_iff printConfig ctx parsed l
  refine ⟨hnull.mpr, fun hroom => ?_⟩
  rcases hplay : (Script.play (parsed.flatMap (·.info.parseEffects) ++ l.script printConfig ctx)
    .reset).1 with stop | u
  · rcases Script.play_error hplay with rfl | rfl
    · exact .inr rfl
    · exact absurd hroom (hnull.mp hplay)
  · exact .inl rfl

/-- A message without a layout bails out. -/
theorem processMessageBody_of_layout_none {messageBody : Parser} {parsed : List ParsedInstruction}
    (hparsed : parseMessageBody ctx messageBody printConfig.header = (parsed, .ok ()))
    (hl : layout parsed = none) :
    (processMessageBody ctx messageBody printConfig .reset).1 = .error .bail := by
  rcases hresult : (processMessageBody ctx messageBody printConfig .reset).1 with stop | u
  · simp only [processMessageBody, messageBodyScript, hparsed, printMessageBody_eq, hl] at hresult
    rcases Script.play_error hresult with rfl | rfl
    · rfl
    · have hhead := play_reviewHead_fail_ne_nullItem printConfig parsed
        (generateExtensionWarning parsed) (splitNonce (displayInstructionInfo parsed)).1
      rw [reviewHead, List.append_assoc] at hhead
      exact absurd hresult hhead
  · obtain ⟨parsed', l, hparsed', hl', -⟩ := processMessageBody_ok_iff.mp hresult
    obtain ⟨rfl, -⟩ := Prod.ext_iff.mp (hparsed.symm.trans hparsed')
    rw [hl] at hl'
    cases hl'

end

end AgencLedger
