import AgencLedger.App.Crosschain
import AgencLedger.App.SwapReview

/-!
# App/NativeSwap — what a swap of lamports signs

`check_swap_validity_native` reads kinds, titles and texts off the review, and never the
instructions.  No pattern but a System transfer has a review that it lets pass, and of a transfer
only that of the signer outside expert mode.
-/

namespace AgencLedger

/-! ## Items -/

/-- What `check_swap_validity_native` asks of an item. -/
def SummaryItem.NativeOk (swapSdk : SwapSdk) (swap : SwapValidated) (item : SummaryItem) : Prop :=
  match item.value with
  | .amount u64 =>
      item.title = "Max fees" ∧
          checkSwapFee swapSdk swap (amountText u64.toNat 9 "SOL".toList) = true ∨
        item.title = "Amount" ∧
          checkSwapAmount swapSdk swap (amountText u64.toNat 9 "SOL".toList) = true
  | .pubkey key =>
      item.title = "To" ∧ checkSwapRecipient swap (base58Numeral key.val.data) = true
  | _ => False

section

variable {swapSdk : SwapSdk} {swap : SwapValidated} {frame : ℕ → Hash} {items : List SummaryItem}
  {buffers : DisplayBuffers}

/-- The check of one item as it is shown. -/
theorem checkNativeItem_shown {item : SummaryItem} (hfits : item.TitleFits) :
    ∃ title text after,
      shownItems frame (item :: items) buffers
        = (item.value.kind, title, text) :: shownItems frame items after ∧
      (item.NativeOk swapSdk swap → checkNativeItem swapSdk swap item.value.kind title text
        = some (decide (item.value.kind = .amount), decide (item.value.kind = .pubkey))) ∧
      (¬item.NativeOk swapSdk swap →
        checkNativeItem swapSdk swap item.value.kind title text = none) := by
  rcases item with ⟨title, value⟩
  rcases value with u64 | t | i64 | u64 | key | ref | str | str | time | domain
  case amount =>
    obtain ⟨after, hshown⟩ := shownItems_cons hfits (@textIs_amount frame u64) items buffers
    refine ⟨_, _, after, hshown, ?_⟩
    simp only [checkNativeItem, SummaryValue.kind, String.toList_inj, SummaryItem.NativeOk]
    by_cases hfee : title = "Max fees"
    · have hamount : title ≠ "Amount" := by simp [hfee]
      rw [if_pos hfee]
      by_cases hcheck : checkSwapFee swapSdk swap (amountText u64.toNat 9 "SOL".toList) = true
      · rw [if_pos hcheck]
        exact ⟨fun _ => rfl, fun h => absurd (.inl ⟨hfee, hcheck⟩) h⟩
      · rw [if_neg hcheck]
        exact ⟨fun h => absurd h (not_or.mpr ⟨fun h => hcheck h.2, fun h => hamount h.1⟩),
          fun _ => rfl⟩
    · rw [if_neg hfee]
      by_cases hamount : title = "Amount"
      · rw [if_pos hamount]
        by_cases hcheck : checkSwapAmount swapSdk swap (amountText u64.toNat 9 "SOL".toList) = true
        · rw [if_pos hcheck]
          exact ⟨fun _ => rfl, fun h => absurd (.inr ⟨hamount, hcheck⟩) h⟩
        · rw [if_neg hcheck]
          exact ⟨fun h => absurd h (not_or.mpr ⟨fun h => hfee h.1, fun h => hcheck h.2⟩),
            fun _ => rfl⟩
      · rw [if_neg hamount]
        exact ⟨fun h => absurd h (not_or.mpr ⟨fun h => hfee h.1, fun h => hamount h.1⟩),
          fun _ => rfl⟩
  case pubkey =>
    obtain ⟨after, hshown⟩ := shownItems_cons hfits (@textIs_pubkey frame key) items buffers
    refine ⟨_, _, after, hshown, ?_⟩
    simp only [checkNativeItem, SummaryValue.kind, ne_eq, String.toList_inj, SummaryItem.NativeOk]
    by_cases hto : title = "To"
    · rw [if_neg (not_not.mpr hto)]
      by_cases hcheck : checkSwapRecipient swap (base58Numeral key.val.data) = true
      · rw [if_pos hcheck]
        exact ⟨fun _ => rfl, fun h => absurd ⟨hto, hcheck⟩ h⟩
      · rw [if_neg hcheck]
        exact ⟨fun h => absurd h.2 hcheck, fun _ => rfl⟩
    · rw [if_pos hto]
      exact ⟨fun h => absurd h.1 hto, fun _ => rfl⟩
  -- any other kind is refused, whatever is shown
  all_goals exact ⟨_, _, _, rfl, fun h => absurd h not_false, fun _ => rfl⟩

/-- **The loop accepts the items one by one**, and notes whether there was an amount and a key. -/
theorem checkNativeItems_eq_some_iff {ok ok' : Bool × Bool}
    (hfits : ∀ item ∈ items, item.TitleFits) :
    checkNativeItems swapSdk swap (shownItems frame items buffers) ok = some ok' ↔
      (∀ item ∈ items, item.NativeOk swapSdk swap) ∧
        ok' = (ok.1 || items.any fun item => item.value.kind = .amount,
          ok.2 || items.any fun item => item.value.kind = .pubkey) := by
  induction items generalizing ok buffers with
  | nil => simp [shownItems, checkNativeItems, eq_comm]
  | cons item items ih =>
      obtain ⟨title, text, after, hshown, hok, hrefused⟩ :=
        @checkNativeItem_shown swapSdk swap frame items buffers _ (hfits item List.mem_cons_self)
      rw [hshown, List.forall_mem_cons, List.any_cons, List.any_cons, checkNativeItems]
      by_cases hitem : item.NativeOk swapSdk swap
      · simp only [hok hitem]
        rw [ih fun item hitem => hfits item (List.mem_cons_of_mem _ hitem)]
        simp [hitem, Bool.or_assoc]
      · simp only [hrefused hitem]
        simp [hitem]

/-- **`check_swap_validity_native`** accepts two or three items, with an amount and a key. -/
theorem checkSwapValidityNative_iff (hfits : ∀ item ∈ items, item.TitleFits) :
    checkSwapValidityNative swapSdk swap (shownItems frame items buffers) = true ↔
      (items.length = 2 ∨ items.length = 3) ∧ (∀ item ∈ items, item.NativeOk swapSdk swap) ∧
        (∃ item ∈ items, item.value.kind = .amount) ∧
          ∃ item ∈ items, item.value.kind = .pubkey := by
  have hlength : (shownItems frame items buffers).length = items.length := by
    clear hfits
    induction items generalizing buffers with
    | nil => rfl
    | cons item items ih => exact congrArg (· + 1) ih
  rw [checkSwapValidityNative, hlength]
  simp only [Bool.and_eq_true, Bool.or_eq_true, decide_eq_true_eq]
  refine and_congr_right fun _ => ?_
  rcases hitems : checkNativeItems swapSdk swap (shownItems frame items buffers) (false, false)
    with _ | flags
  · refine iff_of_false (by simp) fun ⟨hall, _⟩ => ?_
    rw [(checkNativeItems_eq_some_iff hfits).mpr ⟨hall, rfl⟩] at hitems
    cases hitems
  · obtain ⟨hall, rfl⟩ := (checkNativeItems_eq_some_iff hfits).mp hitems
    rw [and_iff_right hall]
    simp

end

/-! ## Patterns -/

section

variable {swapSdk : SwapSdk} {swap : SwapValidated} {printConfig : PrintConfig}
  {ctx : TokenContext}

/-- The primary item of the printer does not pass. -/
def Script.PrimaryRefused (swapSdk : SwapSdk) (swap : SwapValidated) (script : Script) : Prop :=
  ∀ item ∈ items .primary script, ¬item.NativeOk swapSdk swap

theorem primaryRefused_printSystemInfo {info : SystemInfo} (h : ∀ t, info ≠ .transfer t) :
    (printSystemInfo info printConfig).PrimaryRefused swapSdk swap := by
  intro item hitem hok
  rcases info with _ | _ | _ | _ | _ | _ | _ | _ | _ | _
  case transfer info => exact h info rfl
  all_goals
    simp [printSystemInfo, printSystemAdvanceNonceAccount, printSystemCreateAccountInfo,
      printSystemCreateAccountWithSeedInfo, printSystemInitializeNonceInfo, primaryIfTitled,
      printSystemWithdrawNonceInfo, printSystemAuthorizeNonceInfo, printSystemAssignInfo,
      printSystemAllocateInfo, printSystemAllocateWithSeedInfo,
      Script.GeneralOnly.items_primary] at hitem
    subst hitem
    simp [SummaryItem.NativeOk] at hok

theorem primaryRefused_printStakeInfo (sdk : Sdk) {info : StakeInfo}
    (h : ∀ w, info ≠ .withdraw w) :
    (printStakeInfo sdk info printConfig).PrimaryRefused swapSdk swap := by
  have hlockup : ∀ info, (printStakeSetLockupInfo info printConfig).PrimaryRefused swapSdk swap :=
    fun info item hitem hok => by
      rcases ht : info.lockup.unixTimestamp with _ | time <;>
        rcases he : info.lockup.epoch with _ | epoch <;>
        rcases hc : info.lockup.custodian with _ | custodian <;>
        simp [printStakeSetLockupInfo, ht, he, hc, Script.GeneralOnly.items_primary] at hitem <;>
        subst hitem <;> simp [SummaryItem.NativeOk] at hok
  intro item hitem hok
  rcases info with _ | _ | _ | _ | _ | _ | _ | _ | _ | _ | _
  case withdraw info => exact h info rfl
  case setLockup info => exact hlockup info item hitem hok
  case setLockupChecked info => exact hlockup info item hitem hok
  all_goals
    simp [printStakeInfo, printDelegateStakeInfo, printStakeInitializeInfo, primaryIfTitled,
      printStakeAuthorizeInfo, printStakeDeactivateInfo, printStakeSplitInfo, printStakeSplitInfo1,
      printStakeMergeInfo, Script.GeneralOnly.items_primary] at hitem
    subst hitem
    simp [SummaryItem.NativeOk] at hok

theorem primaryRefused_printVoteInfo (info : VoteInfo) :
    (printVoteInfo info printConfig).PrimaryRefused swapSdk swap := by
  intro item hitem hok
  rcases info with _ | _ | _ | _ | _ | _
  all_goals
    simp [printVoteInfo, printVoteInitializeInfo, printVoteWithdrawInfo, printVoteAuthorizeInfo,
      printVoteUpdateValidatorIdInfo, printVoteUpdateCommissionInfo, primaryIfTitled,
      Script.GeneralOnly.items_primary] at hitem
    subst hitem
    simp [SummaryItem.NativeOk] at hok

theorem primaryRefused_printSplTokenTransferInfo (info : SplTokenTransferInfo)
    (isToken2022Kind : Bool) :
    (printSplTokenTransferInfo ctx info printConfig isToken2022Kind true).PrimaryRefused swapSdk
      swap := by
  intro item hitem hok
  simp [printSplTokenTransferInfo, Script.GeneralOnly.items_primary, Script.itemAt] at hitem
  subst hitem
  simp [SummaryItem.NativeOk] at hok

theorem primaryRefused_printSplTokenInfo (info : SplTokenInfo) :
    (printSplTokenInfo ctx info printConfig).PrimaryRefused swapSdk swap := by
  rcases info with ⟨isToken2022Kind, warning, body⟩
  intro item hitem hok
  cases body with
  | initializeMint info =>
      rcases h : info.freezeAuthority with _ | authority <;>
        simp [printSplTokenInfo, printSplTokenInitializeMintInfo, primaryIfTitled, h] at hitem <;>
        subst hitem <;> simp [SummaryItem.NativeOk] at hok
  | setAuthority info =>
      rcases h : info.newAuthority with _ | authority <;>
        simp [printSplTokenInfo, printSplTokenSetAuthorityInfo, h,
          Script.GeneralOnly.items_primary] at hitem <;>
        subst hitem <;> simp [SummaryItem.NativeOk] at hok
  | transferChecked info | transferCheckedWithFee info =>
      exact primaryRefused_printSplTokenTransferInfo info isToken2022Kind item hitem hok
  | extension kind => simp [printSplTokenInfo, Script.itemAt] at hitem
  | _ =>
      simp [printSplTokenInfo, printSplTokenInitializeAccountInfo, primaryIfTitled,
        printSplTokenInitializeMultisigInfo, printSplTokenApproveInfo, printSplTokenRevokeInfo,
        printSplTokenMintToInfo, printSplTokenBurnInfo, printSplTokenCloseAccountInfo,
        printSplTokenFreezeAccountInfo, printSplTokenThawAccountInfo,
        printSplTokenSyncNativeInfo, Script.GeneralOnly.items_primary] at hitem
      subst hitem
      simp [SummaryItem.NativeOk] at hok

/-- The action of an AgenC instruction is a text. -/
theorem primaryRefused_setPrimaryAction {action : CString} {rest : Script} (h : rest.GeneralOnly) :
    (setPrimaryAction action ++ rest).PrimaryRefused swapSdk swap := by
  intro item hitem hok
  simp [setPrimaryAction, Script.itemAt, h.items_primary] at hitem
  subst hitem
  exact hok

theorem primaryRefused_printAgencInfo (index : ℕ) (info : AgencInfo) :
    (printAgencInfo index info).PrimaryRefused swapSdk swap := by
  rcases info with ⟨programId, body⟩
  cases body with
  | createTask info =>
      exact primaryRefused_setPrimaryAction (generalOnly_printCreateTaskFields programId info)
  | registerAgent info =>
      rcases h : info.metadataUri with _ | uri <;>
        simp only [printAgencInfo, printAgencRegisterAgentInfo, h, List.append_assoc] <;>
        exact primaryRefused_setPrimaryAction (by simp)
  | configureTaskValidation info =>
      rcases h : info.attestor with _ | attestor <;>
        simp only [printAgencInfo, printAgencConfigureTaskValidationInfo, h, List.append_assoc] <;>
        exact primaryRefused_setPrimaryAction (by simp)
  | _ =>
      simp only [printAgencInfo, printAgencSetTaskJobSpecInfo, printAgencClaimTaskWithJobSpecInfo,
        printAgencSubmitTaskResultInfo, printAgencAcceptTaskResultInfo,
        printAgencRejectTaskResultInfo, printAgencCancelTaskInfo, printAgencExpireClaimInfo,
        List.append_assoc]
      exact primaryRefused_setPrimaryAction (by simp)

/-- **Only two printers set a primary item that passes**: that of a transfer, and that of a
withdrawal of stake. -/
theorem primaryRefused_print {pattern : Pattern} (htransfer : ∀ t, pattern ≠ .system (.transfer t))
    (hwithdraw : ∀ w, pattern ≠ .stake (.withdraw w)) :
    (pattern.print printConfig ctx).PrimaryRefused swapSdk swap := by
  cases pattern with
  | system info => exact primaryRefused_printSystemInfo fun t h => htransfer t (h ▸ rfl)
  | stake info => exact primaryRefused_printStakeInfo ctx.sdk fun w h => hwithdraw w (h ▸ rfl)
  | vote info => exact primaryRefused_printVoteInfo info
  | splToken info => exact primaryRefused_printSplTokenInfo info
  | agenc index info => exact primaryRefused_printAgencInfo index info
  | stakeSplitV1_2 ca ss | stakeSplitV1_1 _ _ ss =>
      exact @primaryRefused_printStakeInfo _ _ _ ctx.sdk (.split ss) (by simp)
  | splAssociatedTokenAccountCreateWithTransfer create isToken2022Kind transfer =>
      intro item hitem
      obtain ⟨rest, hrest⟩ := List.takeWhile_prefix (p := (· ≠ Effect.fail))
        (l := printSplTokenTransferInfo ctx transfer printConfig isToken2022Kind true)
      refine @primaryRefused_printSplTokenTransferInfo _ _ printConfig ctx transfer isToken2022Kind
        item ?_
      rw [← hrest, Script.items_append]
      exact List.mem_append_left _ hitem
  | agencCreateTaskWithReview create configure =>
      simp only [Pattern.print, printAgencCreateTaskWithReviewInfo]
      split
      · split
        · exact fun item hitem => absurd hitem List.not_mem_nil
        · rw [List.append_assoc]
          exact primaryRefused_setPrimaryAction
            (by simp [generalOnly_printCreateTaskFields])
      · exact fun item hitem => absurd hitem List.not_mem_nil
  | stakeAuthorizeBoth staker withdrawer =>
      intro item hitem hok
      simp only [Pattern.print, printStakeAuthorizeBoth] at hitem
      split at hitem
      · exact List.not_mem_nil hitem
      · rcases hc : withdrawer.custodian with _ | custodian <;>
          simp [hc, Script.GeneralOnly.items_primary] at hitem <;>
          subst hitem <;> simp [SummaryItem.NativeOk] at hok
  | voteAuthorizeBoth voter withdrawer =>
      intro item hitem hok
      simp only [Pattern.print, printVoteAuthorizeBoth] at hitem
      split at hitem
      · exact List.not_mem_nil hitem
      · simp [Script.GeneralOnly.items_primary] at hitem
        subst hitem
        simp [SummaryItem.NativeOk] at hok
  | splTokenCreateMint ca im =>
      intro item hitem hok
      rcases hf : im.freezeAuthority with _ | authority <;>
        simp [Pattern.print, printSplTokenCreateMint, hf, Script.GeneralOnly.items_primary] at hitem
        <;> subst hitem <;> simp [SummaryItem.NativeOk] at hok
  | _ =>
      intro item hitem hok
      simp [Pattern.print, printSplAssociatedTokenAccountInfo,
        printSplAssociatedTokenAccountCreateInfo, printCreateStakeAccount,
        printCreateStakeAccountWithSeed, printCreateNonceAccount, printCreateNonceAccountWithSeed,
        printCreateVoteAccount, printCreateVoteAccountWithSeed, printStakeSplitWithSeed,
        printSplTokenCreateAccount, printSplTokenCreateMultisig, printPrefundedSplit,
        printPrefundedSplitWithSeed, printStakeSplitInfo, printStakeSplitInfo1,
        printCreateStakeAccountAndDelegate, printCreateStakeAccountWithSeedAndDelegate,
        printSystemCreateAccountInfo, printSystemCreateAccountWithSeedInfo,
        printStakeInitializeInfo, printDelegateStakeInfo, printSystemInitializeNonceInfo,
        printVoteInitializeInfo, Script.itemAt, Script.GeneralOnly.items_primary] at hitem
      subst hitem
      simp [SummaryItem.NativeOk] at hok

/-! ## Reviews -/

/-- An authority stays out of the review if it is the signer, outside expert mode. -/
theorem PrintConfig.showAuthority_eq_false_iff {authority : Ptr Pubkey} :
    printConfig.showAuthority authority = false ↔
      printConfig.expertMode = false ∧ printConfig.signerPubkey.val = authority.val := by
  rw [showAuthority, Bool.or_eq_false_iff, Bool.not_eq_false', pubkeysEqual_iff]

/-- **The review of a swap of lamports**: a transfer by the signer, of the amount and to the
recipient of the swap, whose fee passes. -/
structure Layout.SwapsLamports (swapSdk : SwapSdk) (swap : SwapValidated)
    (printConfig : PrintConfig)
    (l : Layout) (info : SystemTransferInfo) : Prop where
  pattern : l.pattern = .system (.transfer info)
  warning : l.warning = false
  sender : printConfig.showAuthority info.from = false
  amount : checkSwapAmount swapSdk swap (amountText info.lamports.toNat 9 "SOL".toList) = true
  recipient : checkSwapRecipient swap (base58Numeral info.to.val.data) = true
  fee : l.maxFee ≠ 0 →
    checkSwapFee swapSdk swap (amountText l.maxFee.toNat 9 "SOL".toList) = true

/-- The items of a transfer's review. -/
theorem usedItems_transfer {l : Layout} {info : SystemTransferInfo}
    (h : l.pattern = .system (.transfer info)) :
    l.usedItems printConfig ctx
      = [⟨"Amount", .amount info.lamports⟩] ++ (if l.warning then extensionWarningItems else [])
        ++ ((if printConfig.showAuthority info.from then [⟨"Sender", .pubkey info.from⟩] else [])
          ++ [⟨"To", .pubkey info.to⟩])
        ++ maxFeeItems l.maxFee ++ nonceItems printConfig l.nonce := by
  simp [Layout.usedItems, h, Pattern.print, printSystemInfo, printSystemTransferInfo,
    generalAuthority, Script.itemAt]

/-- When all items of a transfer's review pass. -/
theorem swapsLamports_of_nativeOk {l : Layout} {info : SystemTransferInfo}
    (hpattern : l.pattern = .system (.transfer info))
    (hall : ∀ item ∈ l.usedItems printConfig ctx, item.NativeOk swapSdk swap) :
    l.SwapsLamports swapSdk swap printConfig info := by
  rw [usedItems_transfer hpattern] at hall
  have hamount := hall ⟨"Amount", .amount info.lamports⟩ (by simp)
  have hto := hall ⟨"To", .pubkey info.to⟩ (by simp)
  refine ⟨hpattern, ?_, ?_, hamount.elim (fun h => absurd h.1 (by simp)) (·.2), hto.2,
    fun hfee => ?_⟩
  · by_contra hwarning
    rw [Bool.not_eq_false] at hwarning
    exact hall ⟨"", .string (.lit "Verify transaction before signing" nul_notMem_verify)⟩
      (by simp [hwarning, extensionWarningItems])
  · by_contra hsender
    rw [Bool.not_eq_false] at hsender
    exact absurd (hall ⟨"Sender", .pubkey info.from⟩ (by simp [hsender])).1 (by simp)
  · have hmax := hall ⟨"Max fees", .amount l.maxFee⟩ (by simp [maxFeeItems, hfee])
    exact hmax.elim (·.2) fun h => absurd h.1 (by simp)

/-- The review has two items, or three with a fee. -/
theorem Layout.SwapsLamports.usedItems {l : Layout} {info : SystemTransferInfo}
    (h : l.SwapsLamports swapSdk swap printConfig info) :
    l.usedItems printConfig ctx
      = [⟨"Amount", .amount info.lamports⟩, ⟨"To", .pubkey info.to⟩] ++ maxFeeItems l.maxFee := by
  obtain ⟨hexpert, -⟩ := PrintConfig.showAuthority_eq_false_iff.mp h.sender
  have hnonce : nonceItems printConfig l.nonce = [] := by
    rcases hn : l.nonce with _ | nonce <;> simp [nonceItems, hexpert]
  rw [usedItems_transfer h.pattern, h.warning, h.sender, hnonce]
  simp

/-- **Which reviews pass `check_swap_validity_native`**: those of a swap of lamports. -/
theorem checkSwapValidityNative_layout_iff {frame : ℕ → Hash}
    {buffers : DisplayBuffers} {l : Layout}
    (hprimary : Script.items .primary (l.pattern.print printConfig ctx) ≠ []) :
    checkSwapValidityNative swapSdk swap
        (shownItems frame (l.usedItems printConfig ctx) buffers) = true ↔
      ∃ info, l.SwapsLamports swapSdk swap printConfig info := by
  rw [checkSwapValidityNative_iff fun item h => titleFits_of_mem_usedItems h]
  constructor
  · rintro ⟨-, hall, -⟩
    obtain ⟨item, hitem⟩ := List.exists_mem_of_ne_nil _ hprimary
    have hmem : ∀ {item}, item ∈ Script.items .primary (l.pattern.print printConfig ctx) →
        item ∈ l.usedItems printConfig ctx := fun h => by
      simp only [Layout.usedItems, List.mem_append]
      exact .inl (.inl (.inl (.inl h)))
    have hpattern : (∃ t, l.pattern = .system (.transfer t)) ∨
        ∃ w, l.pattern = .stake (.withdraw w) := by
      by_contra hother
      obtain ⟨htransfer, hwithdraw⟩ := not_or.mp hother
      exact primaryRefused_print (not_exists.mp htransfer) (not_exists.mp hwithdraw) item hitem
        (hall item (hmem hitem))
    rcases hpattern with ⟨info, hpattern⟩ | ⟨info, hpattern⟩
    · exact ⟨info, swapsLamports_of_nativeOk hpattern hall⟩
    · have hfrom : (⟨"From stake account", .pubkey info.account⟩ : SummaryItem)
          ∈ l.usedItems printConfig ctx := by
        simp [Layout.usedItems, hpattern, Pattern.print, printStakeInfo, printStakeWithdrawInfo]
      exact absurd (hall _ hfrom).1 (by simp)
  · rintro ⟨info, h⟩
    rw [h.usedItems]
    refine ⟨?_, fun item hitem => ?_, ⟨_, List.mem_cons_self, rfl⟩,
      ⟨_, List.mem_cons_of_mem _ List.mem_cons_self, rfl⟩⟩
    · by_cases hfee : l.maxFee = 0 <;> simp [maxFeeItems, hfee]
    · simp only [List.cons_append, List.nil_append, List.mem_cons] at hitem
      rcases hitem with rfl | rfl | hitem
      · exact .inr ⟨rfl, h.amount⟩
      · exact ⟨rfl, h.recipient⟩
      · unfold maxFeeItems at hitem
        split at hitem
        · rename_i hfee
          obtain rfl := List.mem_singleton.mp hitem
          exact .inl ⟨rfl, h.fee hfee⟩
        · cases hitem

end

/-! ## Signed swaps -/

/-- Only a lone System instruction is shown as one. -/
theorem recognise_eq_system {core : List InstructionInfo} {info : SystemInfo}
    (h : recognise core = some (.system info)) : core = [.system info] := by
  unfold recognise at h
  split at h
  · unfold recogniseOne at h
    split at h <;> cases h
    rfl
  · unfold recogniseTwo at h
    split at h <;> cases h
  · unfold recogniseThree at h
    split at h <;> cases h
  · unfold recogniseFour at h
    split at h <;> cases h
  · cases h

/-- The mode and the ticker lead to `check_swap_validity_native`. -/
theorem checkSwapValidityNative_of_valid {env : Env} {frame : ℕ → Hash} {app : App}
    {kinds : List SummaryItemKind} (hmode : app.swap.swapMode = .standard)
    (hticker : app.swap.ticker.chars = "SOL".toList)
    (h : checkSwapValidity env frame app kinds = .ok ()) :
    checkSwapValidityNative env.swapSdk app.swap
      (displayedItems frame app.summary kinds app.buffers) = true := by
  unfold checkSwapValidity at h
  rw [hmode] at h
  simp only at h
  rw [if_neg (by rw [isTokenTransaction, hticker, bne_self_eq_false]; exact Bool.false_ne_true)]
    at h
  split at h
  · assumption
  · cases h

/-- What a swap has checked of the transfer of lamports it signs. -/
structure App.ValidLamports (env : Env) (app : App) (l : Layout) (info : SystemTransferInfo) :
    Prop where
  warning : l.warning = false
  source : env.getPublicKey app.command.derivationPath = some info.from.val
  recipient : base58Numeral info.to.val.data = app.swap.recipient.chars
  amount : (info.lamports.toNat : ℚ) / 10 ^ 9
    = app.swap.amount.toNat / 10 ^ app.swap.decimals.toNat
  maxFee : l.maxFee ≤ app.swap.fee

/-- **A review that passes in a swap of lamports** is that of one transfer. -/
theorem App.PassesReview.lamports {env : Env} {frame : ℕ → Hash} {app : App}
    {header : MessageHeader}
    {messageBody : Parser} {signerPubkey : Ptr Pubkey}
    {parsed : List ParsedInstruction} {l : Layout}
    {s : TransactionSummary}
    (review : app.PassesReview env frame header messageBody signerPubkey parsed l s)
    (hmode : app.swap.swapMode = .standard) (hticker : app.swap.ticker.chars = "SOL".toList) :
    ∃ info, patternInstructions parsed = [.system (.transfer info)] ∧
      app.ValidLamports env l info := by
  obtain ⟨kinds, hkinds, hvalid⟩ := review.valid
  have hnative : checkSwapValidityNative env.swapSdk app.swap
      (displayedItems frame s kinds .reset) = true :=
    @checkSwapValidityNative_of_valid env frame { app.resetSummary with summary := s } kinds hmode
      hticker hvalid
  rw [displayedItems_eq hkinds, review.usedItems_eq,
    checkSwapValidityNative_layout_iff review.primary] at hnative
  obtain ⟨info, hswaps⟩ := hnative
  refine ⟨info, ?_, hswaps.warning, ?_, (recipient_of_checkSwapRecipient hswaps.recipient).symm,
    (value_of_checkSwapAmount hswaps.amount).1, ?_⟩
  · exact recognise_eq_system
      ((recognise_patternInstructions review.layout_eq).trans (congrArg some hswaps.pattern))
  · rw [getPublicKey_of_scanHeaderForSigner review.signer_eq]
    exact congrArg some (PrintConfig.showAuthority_eq_false_iff.mp hswaps.sender).2
  · by_cases hfee : l.maxFee = 0
    · rw [hfee]
      exact UInt64.zero_le
    · exact le_of_checkSwapFee (hswaps.fee hfee)

/-- **A swap of lamports signs one transfer**: from the device to the validated recipient, of the
validated amount, and for a fee within the validated one. -/
theorem transfer_of_swapFinalize {env : Env} {frame : ℕ → Hash} {app : App}
    {signature : Option (Block 64)} (hnone : app.savedDescriptors = none)
    (hmode : app.swap.swapMode = .standard) (hticker : app.swap.ticker.chars = "SOL".toList)
    (h : (handleSignMessageParseMessage env frame app).1 = .swapFinalize signature) :
    ∃ header messageBody parsed l info,
      parseMessageHeader ⟨0, app.command.message⟩ = .ok (header, messageBody) ∧
        parseMessageBody (app.tokenContext env) messageBody header = (parsed, .ok ()) ∧
        layout parsed = some l ∧ patternInstructions parsed = [.system (.transfer info)] ∧
        env.getPublicKey app.command.derivationPath = some info.from.val ∧
        base58Numeral info.to.val.data = app.swap.recipient.chars ∧
        (info.lamports.toNat : ℚ) / 10 ^ 9
          = app.swap.amount.toNat / 10 ^ app.swap.decimals.toNat ∧
        l.maxFee ≤ app.swap.fee := by
  obtain ⟨header, messageBody, signerPubkey, parsed, l, s, review⟩ :=
    passesReview_of_swapFinalize hnone h
  obtain ⟨info, hpattern, hvalid⟩ := review.lamports hmode hticker
  exact ⟨header, messageBody, parsed, l, info, review.header_eq, review.parsed_eq, review.layout_eq,
    hpattern, hvalid.source, hvalid.recipient, hvalid.amount, hvalid.maxFee⟩

/-- The app of a standard swap, with the message to sign: one lamport for the System program. -/
def lamportsApp : App :=
  { App.plain exchangeEnv (legacyMessage [plainSigner, systemProgramId]
      [writeInstruction 1 [0, 1] [2, 0, 0, 0, 1, 0, 0, 0, 0, 0, 0, 0]]) with
    calledFromSwap := true
    swap := standardApp.swap }

/-- The theorem on a swap of one lamport. -/
theorem transfer_of_swapFinalize_lamports :
    ∃ header messageBody parsed l info,
      parseMessageHeader ⟨0, lamportsApp.command.message⟩ = .ok (header, messageBody) ∧
        parseMessageBody (lamportsApp.tokenContext exchangeEnv) messageBody header
          = (parsed, .ok ()) ∧
        layout parsed = some l ∧ patternInstructions parsed = [.system (.transfer info)] ∧
        exchangeEnv.getPublicKey lamportsApp.command.derivationPath = some info.from.val ∧
        base58Numeral info.to.val.data = lamportsApp.swap.recipient.chars ∧
        (info.lamports.toNat : ℚ) / 10 ^ 9
          = lamportsApp.swap.amount.toNat / 10 ^ lamportsApp.swap.decimals.toNat ∧
        l.maxFee ≤ lamportsApp.swap.fee :=
  @transfer_of_swapFinalize exchangeEnv (fun _ => Block.zero 32) lamportsApp (some (Block.zero 64))
    rfl rfl rfl (by decide +kernel)

end AgencLedger
