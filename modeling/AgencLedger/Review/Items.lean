import AgencLedger.Review.Slots
import AgencLedger.Review.Subjects

/-!
# Review/Items — the items of a pattern that are not like the others

Most items of a review show a key, a number or a fixed text under a title of their own.  Token
amounts and timestamps are the ones whose text may fail to print, and three titles belong to the
review as a whole: the two of the extension warning and the one of the fee.  `Pattern.notables`
lists what a pattern shows of these, and no pattern uses a title of the review.
-/

namespace AgencLedger

/-! ## Notable items -/

/-- The titles of the review as a whole. -/
def reservedTitles : List String := ["Extension Warning", "", "Max fees"]

/-- The values whose text may fail to print. -/
def SummaryValue.mayFail : SummaryValue → Bool
  | .tokenAmount _ => true
  | .timestamp _ => true
  | _ => false

/-- An item under a title of the review, or one whose text may fail to print. -/
def SummaryItem.notable (item : SummaryItem) : Bool :=
  decide (item.title ∈ reservedTitles) || item.value.mayFail

/-- The item an effect puts somewhere. -/
@[simp] def Effect.item? : Effect → Option SummaryItem
  | .put _ item => some item
  | .putChecked _ item => some item
  | _ => none

namespace Script

/-- The notable items of a script, in order. -/
def notables (script : Script) : List SummaryItem :=
  (script.filterMap Effect.item?).filter SummaryItem.notable

theorem mem_itemAt {item : SummaryItem} {e : Effect} :
    (∃ slot, item ∈ itemAt slot e) ↔ e.item? = some item := by
  cases e <;> simp [itemAt, Effect.item?, eq_comm]

/-- **The items of a script, slot by slot or in order.** -/
theorem mem_items {item : SummaryItem} {script : Script} :
    (∃ slot, item ∈ items slot script) ↔ item ∈ script.filterMap Effect.item? := by
  simp only [items, List.mem_flatMap, List.mem_filterMap, ← mem_itemAt]
  constructor
  · rintro ⟨slot, e, he, hitem⟩
    exact ⟨e, he, slot, hitem⟩
  · rintro ⟨e, he, slot, hitem⟩
    exact ⟨slot, e, he, hitem⟩

theorem mem_notables {item : SummaryItem} {script : Script} :
    item ∈ script.notables ↔ item.notable = true ∧ ∃ slot, item ∈ items slot script := by
  rw [notables, List.mem_filter, mem_items, and_comm]

variable (a b : Script)

@[simp] theorem notables_nil : notables [] = [] := rfl

@[simp] theorem notables_append : notables (a ++ b) = notables a ++ notables b := by
  simp [notables]

@[simp] theorem notables_ite (c : Prop) [Decidable c] :
    notables (if c then a else b) = if c then notables a else notables b :=
  apply_ite notables c a b

@[simp] theorem notables_primary (title : String) (value : SummaryValue) :
    notables (primary title value) = [⟨title, value⟩].filter SummaryItem.notable := rfl

@[simp] theorem notables_general (title : String) (value : SummaryValue) :
    notables (general title value) = [⟨title, value⟩].filter SummaryItem.notable := rfl

@[simp] theorem notables_setGeneral (title : String) (value : SummaryValue) :
    notables (setGeneral title value) = [⟨title, value⟩].filter SummaryItem.notable := rfl

@[simp] theorem notables_setPrimaryAction (action : CString) :
    notables (setPrimaryAction action) = [] := rfl

@[simp] theorem notables_cons (e : Effect) :
    notables (e :: a) = e.item?.toList.filter SummaryItem.notable ++ notables a := by
  rw [notables, notables, ← List.filter_append]
  cases h : e.item? <;> simp only [List.filterMap_cons, h] <;> rfl

end Script

@[simp] theorem mem_reservedTitles {title : String} :
    title ∈ reservedTitles ↔ title = "Extension Warning" ∨ title = "" ∨ title = "Max fees" := by
  simp [reservedTitles]

/-- Most items are not notable. -/
@[simp] theorem filter_notable_singleton (title : String) (value : SummaryValue) :
    [SummaryItem.mk title value].filter SummaryItem.notable
      = if decide (title ∈ reservedTitles) || value.mayFail then [⟨title, value⟩] else [] :=
  List.filter_cons

@[simp] theorem mayFail_amount (u64 : UInt64) : (SummaryValue.amount u64).mayFail = false := rfl
@[simp] theorem mayFail_tokenAmount (t : TokenAmount) :
    (SummaryValue.tokenAmount t).mayFail = true :=
  rfl
@[simp] theorem mayFail_i64 (i64 : Int64) : (SummaryValue.i64 i64).mayFail = false := rfl
@[simp] theorem mayFail_u64 (u64 : UInt64) : (SummaryValue.u64 u64).mayFail = false := rfl
@[simp] theorem mayFail_pubkey (key : Ptr Pubkey) : (SummaryValue.pubkey key).mayFail = false := rfl
@[simp] theorem mayFail_hash (ref : HashRef) : (SummaryValue.hash ref).mayFail = false := rfl
@[simp] theorem mayFail_sizedString (str : SizedString) :
    (SummaryValue.sizedString str).mayFail = false := rfl
@[simp] theorem mayFail_string (str : CString) : (SummaryValue.string str).mayFail = false := rfl
@[simp] theorem mayFail_timestamp (i64 : Int64) : (SummaryValue.timestamp i64).mayFail = true := rfl

/-! ## What the patterns show -/

/-- The time of a lockup that is set. -/
def lockupTime (lockup : Option StakeLockup) : List SummaryItem :=
  match lockup with
  | some lockup =>
      if lockup.unixTimestamp > 0 then [⟨"Lockup time", .timestamp lockup.unixTimestamp⟩] else []
  | none => []

/-- The time of a stake instruction. -/
def StakeInfo.notables : StakeInfo → List SummaryItem
  | .stakeInitialize info => lockupTime info.lockup
  | .initializeChecked info => lockupTime info.lockup
  | .setLockup info => info.lockup.unixTimestamp.toList.map fun time => ⟨"Time", .timestamp time⟩
  | .setLockupChecked info =>
      info.lockup.unixTimestamp.toList.map fun time => ⟨"Time", .timestamp time⟩
  | _ => []

/-- The amounts of a transfer: the one that moves, and its fee. -/
def SplTokenTransferInfo.notables (ctx : TokenContext) (info : SplTokenTransferInfo)
    (isToken2022Kind : Bool) : List SummaryItem :=
  let symbol := getTokenSymbol ctx info.mintAccount.val isToken2022Kind
  ⟨"Amount", .tokenAmount ⟨info.amount, symbol, info.decimals⟩⟩ ::
    match info.transferCheckedWithFeeAmount with
    | some fee =>
        if fee ≠ 0 then [⟨"Token transfer fee", .tokenAmount ⟨fee, symbol, info.decimals⟩⟩] else []
    | none => []

/-- The amounts of a token instruction. -/
def SplTokenInfo.notables (ctx : TokenContext) (info : SplTokenInfo) : List SummaryItem :=
  let symbol := fun mint : Ptr Pubkey => getTokenSymbol ctx mint.val info.isToken2022Kind
  match info.body with
  | .transferChecked transfer => transfer.notables ctx info.isToken2022Kind
  | .transferCheckedWithFee transfer => transfer.notables ctx info.isToken2022Kind
  | .approveChecked approve =>
      [⟨"Allowance", .tokenAmount ⟨approve.amount, symbol approve.mintAccount, approve.decimals⟩⟩]
  | .mintToChecked mintTo =>
      [⟨"Mint tokens", .tokenAmount ⟨mintTo.amount, symbol mintTo.mintAccount, mintTo.decimals⟩⟩]
  | .burnChecked burn =>
      [⟨"Burn tokens", .tokenAmount ⟨burn.amount, symbol burn.mintAccount, burn.decimals⟩⟩]
  | _ => []

/-- The deadline of a task. -/
def AgencBody.notables : AgencBody → List SummaryItem
  | .createTask task => [⟨"Deadline", .timestamp task.deadline⟩]
  | _ => []

/-- **The notable items of a pattern**: token amounts and timestamps. -/
def Pattern.notables (ctx : TokenContext) : Pattern → List SummaryItem
  | .stake info => info.notables
  | .splToken info => info.notables ctx
  | .agenc _ info => info.body.notables
  | .createStakeAccount _ si => lockupTime si.lockup
  | .createStakeAccountWithSeed _ si => lockupTime si.lockup
  | .createStakeAccountAndDelegate _ si _ => lockupTime si.lockup
  | .createStakeAccountWithSeedAndDelegate _ si _ => lockupTime si.lockup
  | .splAssociatedTokenAccountCreateWithTransfer _ isToken2022Kind transfer =>
      transfer.notables ctx isToken2022Kind
  | .agencCreateTaskWithReview create _ => create.body.notables
  | _ => []

/-- The printer of a task with its review bails out on all but the standard review. -/
theorem printAgencCreateTaskWithReviewInfo_of_fail_notMem {create configure : AgencInfo}
    (h : Effect.fail ∉ printAgencCreateTaskWithReviewInfo create configure) :
    ∃ task review, create.body = .createTask task ∧
      configure.body = .configureTaskValidation review ∧ standardReview task review = true ∧
      printAgencCreateTaskWithReviewInfo create configure
        = setPrimaryAction (.lit "Create task") ++ printCreateTaskFields create.programId task
          ++ setGeneral "Review window" (.i64 review.reviewWindowSecs) := by
  unfold printAgencCreateTaskWithReviewInfo at h ⊢
  split at h
  · rename_i task review htask hreview
    split at h
    · simp at h
    · rename_i hcheck
      exact ⟨task, review, htask, hreview, by simpa [standardReview, and_assoc] using hcheck,
        if_neg hcheck⟩
  · simp at h

section

variable (printConfig : PrintConfig) (ctx : TokenContext)

open Script

@[simp] theorem notables_generalAuthority (title : String) (authority : Ptr Pubkey)
    (h : title ∉ reservedTitles) :
    (generalAuthority printConfig title authority).notables = [] := by
  simp only [generalAuthority, notables_ite, notables_general, filter_notable_singleton, h]
  split <;> rfl

@[simp] theorem notables_primaryIfTitled_none (value : SummaryValue) :
    (primaryIfTitled none value).notables = [] := rfl

@[simp] theorem notables_primaryIfTitled_some (title : String) (value : SummaryValue) :
    (primaryIfTitled (some title) value).notables
      = [⟨title, value⟩].filter SummaryItem.notable := rfl

@[simp] theorem notables_ownerItems (displayOwner : Bool) (space : UInt64) (owner : Ptr Pubkey) :
    (ownerItems displayOwner space owner).notables = [] := by
  simp [ownerItems]

@[simp] theorem notables_seedItems (base : Ptr Pubkey) (seed : SizedString) :
    (seedItems printConfig base seed).notables = [] := by
  simp [seedItems]

@[simp] theorem notables_printSystemCreateAccountInfo_none (info : SystemCreateAccountInfo)
    (displayOwner : Bool) :
    (printSystemCreateAccountInfo none info printConfig displayOwner).notables = [] := by
  simp [printSystemCreateAccountInfo]

@[simp] theorem notables_printSystemCreateAccountWithSeedInfo_none
    (info : SystemCreateAccountWithSeedInfo) (displayOwner : Bool) :
    (printSystemCreateAccountWithSeedInfo none info printConfig displayOwner).notables = [] := by
  simp [printSystemCreateAccountWithSeedInfo]

theorem notables_printSystemInfo (info : SystemInfo) :
    (printSystemInfo info printConfig).notables = [] := by
  cases info <;>
    simp [printSystemInfo, printSystemTransferInfo, printSystemAdvanceNonceAccount,
      printSystemCreateAccountInfo, printSystemCreateAccountWithSeedInfo,
      printSystemInitializeNonceInfo, printSystemWithdrawNonceInfo, printSystemAuthorizeNonceInfo,
      printSystemAssignInfo, printSystemAllocateInfo, printSystemAllocateWithSeedInfo]

@[simp] theorem notables_stakeLockupItems (lockup : Option StakeLockup) :
    (stakeLockupItems lockup printConfig).notables = lockupTime lockup := by
  cases lockup with
  | none => simp [stakeLockupItems, lockupTime]
  | some lockup =>
      by_cases ht : lockup.unixTimestamp > 0 <;> simp [stakeLockupItems, lockupTime, ht]

@[simp] theorem notables_printStakeInitializeInfo (info : StakeInitializeInfo) :
    (printStakeInitializeInfo none info printConfig).notables = lockupTime info.lockup := by
  simp [printStakeInitializeInfo, stakeAuthorityItems]

@[simp] theorem notables_printStakeInitializeInfo_some (info : StakeInitializeInfo) :
    (printStakeInitializeInfo (some "Init stake acct") info printConfig).notables
      = lockupTime info.lockup := by
  simp [printStakeInitializeInfo, stakeAuthorityItems]

@[simp] theorem notables_voteAccount (sdk : Sdk) (votePubkey : Ptr Pubkey) :
    (voteAccountValue sdk votePubkey).mayFail = false := by
  unfold voteAccountValue
  split
  · rfl
  · split <;> rfl

@[simp] theorem notables_printStakeSplitInfo1 (info : StakeSplitInfo) :
    (printStakeSplitInfo1 info).notables = [] := by
  simp [printStakeSplitInfo1]

@[simp] theorem notables_printStakeSplitInfo2 (info : StakeSplitInfo) :
    (printStakeSplitInfo2 info printConfig).notables = [] := by
  simp [printStakeSplitInfo2]

theorem notables_printStakeInfo (info : StakeInfo) :
    (printStakeInfo ctx.sdk info printConfig).notables = info.notables := by
  have hauthorize : ∀ info, (printStakeAuthorizeInfo info printConfig).notables = [] :=
    fun info => by
    cases h : info.authorize <;> cases hc : info.custodian <;>
      simp [printStakeAuthorizeInfo, StakeAuthorize.title, custodianItem, h, hc]
  have hlockup : ∀ info, (printStakeSetLockupInfo info printConfig).notables
      = info.lockup.unixTimestamp.toList.map fun time => ⟨"Time", .timestamp time⟩ := fun info => by
    cases ht : info.lockup.unixTimestamp <;> cases he : info.lockup.epoch <;>
      cases hc : info.lockup.custodian <;> simp [printStakeSetLockupInfo, ht, he, hc]
  cases info <;>
    simp [printStakeInfo, StakeInfo.notables, hauthorize, hlockup, printDelegateStakeInfo,
      printStakeWithdrawInfo, printStakeDeactivateInfo, printStakeSplitInfo, printStakeMergeInfo]

theorem notables_printVoteInfo (info : VoteInfo) :
    (printVoteInfo info printConfig).notables = [] := by
  have hauthorize : ∀ info, (printVoteAuthorizeInfo info printConfig).notables = [] :=
    fun info => by
    cases h : info.authorize <;> simp [printVoteAuthorizeInfo, VoteAuthorize.title, h]
  cases info <;>
    simp [printVoteInfo, hauthorize, printVoteInitializeInfo, printVoteWithdrawInfo,
      printVoteUpdateValidatorIdInfo, printVoteUpdateCommissionInfo]

@[simp] theorem notables_printVoteInitializeInfo_none (info : VoteInitializeInfo) :
    (printVoteInitializeInfo none info).notables = [] := by
  simp [printVoteInitializeInfo]

@[simp] theorem notables_printSystemInitializeNonceInfo_none (info : SystemInitializeNonceInfo) :
    (printSystemInitializeNonceInfo none info).notables = [] := by
  simp [printSystemInitializeNonceInfo]

@[simp] theorem notables_printDelegateStakeInfo_none (sdk : Sdk) (info : StakeDelegateInfo) :
    (printDelegateStakeInfo sdk none info printConfig).notables = [] := by
  simp [printDelegateStakeInfo]

@[simp] theorem notables_printSplTokenSign (sign : SplTokenSign) :
    (printSplTokenSign sign printConfig).notables = [] := by
  cases sign <;> simp [printSplTokenSign]

@[simp] theorem notables_summaryItemSetMultisigMOfN (m n : UInt8) :
    (summaryItemSetMultisigMOfN m n).notables = [] := by
  unfold summaryItemSetMultisigMOfN
  split <;> simp

@[simp] theorem notables_transferToItem : (transferToItem ctx).notables = [] := by
  unfold transferToItem
  split <;> simp

@[simp] theorem notables_printSplTokenTransferInfo (info : SplTokenTransferInfo)
    (isToken2022Kind : Bool) :
    (printSplTokenTransferInfo ctx info printConfig isToken2022Kind true).notables
      = info.notables ctx isToken2022Kind := by
  cases hfee : info.transferCheckedWithFeeAmount <;>
    simp [printSplTokenTransferInfo, SplTokenTransferInfo.notables, transferFeeItem, hfee]

theorem notables_printSplTokenInfo (info : SplTokenInfo) :
    (printSplTokenInfo ctx info printConfig).notables = info.notables ctx := by
  rcases info with ⟨isToken2022Kind, warning, body⟩
  cases body with
  | initializeMint info =>
      cases h : info.freezeAuthority <;>
        simp [printSplTokenInfo, SplTokenInfo.notables, printSplTokenInitializeMintInfo, h]
  | setAuthority info =>
      cases h : info.newAuthority <;>
        simp [printSplTokenInfo, SplTokenInfo.notables, printSplTokenSetAuthorityInfo, h]
  | _ =>
      simp [printSplTokenInfo, SplTokenInfo.notables, printSplTokenInitializeAccountInfo,
        printSplTokenInitializeMultisigInfo, printSplTokenApproveInfo, printSplTokenRevokeInfo,
        printSplTokenMintToInfo, printSplTokenBurnInfo, printSplTokenCloseAccountInfo,
        printSplTokenFreezeAccountInfo, printSplTokenThawAccountInfo, printSplTokenSyncNativeInfo]

@[simp] theorem notables_printCreateTaskFields (programId : Ptr Pubkey)
    (info : AgencCreateTaskInfo) :
    (printCreateTaskFields programId info).notables = [⟨"Deadline", .timestamp info.deadline⟩] := by
  cases h : info.rewardMint <;> simp [printCreateTaskFields, h]

theorem notables_printAgencInfo (index : ℕ) (info : AgencInfo) :
    (printAgencInfo index info).notables = info.body.notables := by
  rcases info with ⟨programId, body⟩
  cases body with
  | registerAgent info =>
      cases h : info.metadataUri <;>
        simp [printAgencInfo, AgencBody.notables, printAgencRegisterAgentInfo, h]
  | configureTaskValidation info =>
      cases h : info.attestor <;>
        simp [printAgencInfo, AgencBody.notables, printAgencConfigureTaskValidationInfo, h]
  | _ =>
      simp [printAgencInfo, AgencBody.notables, printAgencCreateTaskInfo,
        printAgencSetTaskJobSpecInfo, printAgencClaimTaskWithJobSpecInfo,
        printAgencSubmitTaskResultInfo, printAgencAcceptTaskResultInfo,
        printAgencRejectTaskResultInfo, printAgencCancelTaskInfo, printAgencExpireClaimInfo]

/-- **The notable items of a pattern's printer**, where it does not bail out. -/
theorem notables_print {pattern : Pattern}
    (hfail : Effect.fail ∉ pattern.print printConfig ctx)
    (hto : pattern.transfer?.isSome → (getTransferToAddress ctx).isSome) :
    (pattern.print printConfig ctx).notables = pattern.notables ctx := by
  have hnew : ∀ title first second, title ∉ reservedTitles →
      (newAuthorityItems title first second).notables = [] := fun title first second h => by
    have h' := mt mem_reservedTitles.mpr h
    simp only [newAuthorityItems, notables_ite, notables_append, notables_general]
    simp [h']
  cases pattern with
  | system info => exact notables_printSystemInfo printConfig info
  | stake info => exact notables_printStakeInfo printConfig ctx info
  | vote info => exact notables_printVoteInfo printConfig info
  | splToken info => exact notables_printSplTokenInfo printConfig ctx info
  | agenc index info => exact notables_printAgencInfo index info
  | stakeSplitV1_2 ca ss => exact notables_printStakeInfo printConfig ctx (.split ss)
  | stakeSplitV1_1 allocate assign ss => exact notables_printStakeInfo printConfig ctx (.split ss)
  | splAssociatedTokenAccountCreateWithTransfer create isToken2022Kind transfer =>
      obtain ⟨toAddress, hto⟩ := Option.isSome_iff_exists.mp (hto rfl)
      simp only [Pattern.print, Pattern.notables,
        printSplAssociatedTokenAccountCreateWithTransfer_eq hto, notables_printSplTokenTransferInfo]
  | stakeAuthorizeBoth staker withdrawer =>
      cases hc : withdrawer.custodian <;>
        simp [Pattern.print, Pattern.notables, printStakeAuthorizeBoth, hnew, hc]
  | voteAuthorizeBoth voter withdrawer =>
      simp [Pattern.print, Pattern.notables, printVoteAuthorizeBoth, hnew]
  | splTokenCreateMint ca im =>
      cases hf : im.freezeAuthority <;>
        simp [Pattern.print, Pattern.notables, printSplTokenCreateMint, hf]
  | agencCreateTaskWithReview create configure =>
      obtain ⟨task, review, htask, -, -, hprint⟩ :=
        printAgencCreateTaskWithReviewInfo_of_fail_notMem hfail
      simp [Pattern.print, Pattern.notables, hprint, htask, AgencBody.notables]
  | _ =>
      simp [Pattern.print, Pattern.notables, printSplAssociatedTokenAccountInfo,
        printSplAssociatedTokenAccountCreateInfo, printCreateStakeAccount,
        printCreateStakeAccountWithSeed, printCreateNonceAccount, printCreateNonceAccountWithSeed,
        printCreateVoteAccount, printCreateVoteAccountWithSeed, printStakeSplitWithSeed,
        printSplTokenCreateAccount, printSplTokenCreateMultisig,
        printCreateStakeAccountAndDelegate, printCreateStakeAccountWithSeedAndDelegate,
        printPrefundedSplit, printPrefundedSplitWithSeed, printStakeSplitInfo,
        printSystemPrefundForSplit]

end

/-! ## The notable items of a review -/

theorem nul_notMem_extensionsFound : nul ∉ "Unsupported extensions found".toList := by decide

theorem nul_notMem_verify : nul ∉ "Verify transaction before signing".toList := by decide

/-- The items of the extension warning. -/
def extensionWarningItems : List SummaryItem :=
  [⟨"Extension Warning", .string (.lit "Unsupported extensions found" nul_notMem_extensionsFound)⟩,
   ⟨"", .string (.lit "Verify transaction before signing" nul_notMem_verify)⟩]

/-- The item of the fee, unless it is zero. -/
def maxFeeItems (maxFee : UInt64) : List SummaryItem :=
  if maxFee ≠ 0 then [⟨"Max fees", .amount maxFee⟩] else []

/-- The notable items of a pattern bear titles of their own, and may fail. -/
theorem Pattern.notables_spec {ctx : TokenContext} {pattern : Pattern} {item : SummaryItem}
    (h : item ∈ pattern.notables ctx) : item.title ∉ reservedTitles ∧
      item.value.mayFail = true := by
  have hlockup : ∀ lockup, item ∈ lockupTime lockup →
      item.title ∉ reservedTitles ∧ item.value.mayFail = true := fun lockup hitem => by
    unfold lockupTime at hitem
    split at hitem
    · split at hitem <;> simp at hitem
      simp [hitem]
    · cases hitem
  have hstake : ∀ info : StakeInfo, item ∈ info.notables →
      item.title ∉ reservedTitles ∧ item.value.mayFail = true := fun info hitem => by
    unfold StakeInfo.notables at hitem
    split at hitem
    · exact hlockup _ hitem
    · exact hlockup _ hitem
    · obtain ⟨time, -, rfl⟩ := List.mem_map.mp hitem
      simp
    · obtain ⟨time, -, rfl⟩ := List.mem_map.mp hitem
      simp
    · cases hitem
  have htransfer : ∀ (transfer : SplTokenTransferInfo) isToken2022Kind,
      item ∈ transfer.notables ctx isToken2022Kind →
      item.title ∉ reservedTitles ∧ item.value.mayFail = true := fun transfer kind hitem => by
    rcases List.mem_cons.mp hitem with rfl | hitem
    · simp
    · split at hitem
      · split at hitem <;> simp at hitem
        simp [hitem]
      · cases hitem
  have htoken : ∀ info : SplTokenInfo, item ∈ info.notables ctx →
      item.title ∉ reservedTitles ∧ item.value.mayFail = true := fun info hitem => by
    unfold SplTokenInfo.notables at hitem
    split at hitem
    · exact htransfer _ _ hitem
    · exact htransfer _ _ hitem
    all_goals simp at hitem
    all_goals simp [hitem]
  have hagenc : ∀ body : AgencBody, item ∈ body.notables →
      item.title ∉ reservedTitles ∧ item.value.mayFail = true := fun body hitem => by
    unfold AgencBody.notables at hitem
    split at hitem <;> simp at hitem
    simp [hitem]
  unfold Pattern.notables at h
  split at h
  case h_1 => exact hstake _ h
  case h_2 => exact htoken _ h
  case h_3 => exact hagenc _ h
  case h_8 => exact htransfer _ _ h
  case h_9 => exact hagenc _ h
  case h_10 => cases h
  all_goals exact hlockup _ h

section

variable {ctx : TokenContext} {messageBody : Parser} {printConfig : PrintConfig}
  {parsed : List ParsedInstruction} {l : Layout}

/-- A transfer that a message shows has a recipient to show. -/
theorem getTransferToAddress_isSome
    (hparsed : parseMessageBody ctx messageBody printConfig.header = (parsed, .ok ()))
    (hl : layout parsed = some l) (ht : l.pattern.transfer?.isSome) :
    (getTransferToAddress ctx).isSome := by
  obtain ⟨⟨isToken2022Kind, transfer⟩, ht⟩ := Option.isSome_iff_exists.mp ht
  obtain ⟨info, hinfo, -, hbody⟩ := parsed_transfer_of_layout hparsed hl ht
  obtain ⟨trusted, -, -, -, -, -, hto⟩ := getTransferToAddress_of_check (hinfo.check hbody)
  rw [hto]
  rfl

/-- **The notable items of a layout**: the warning, those of the pattern, the fee. -/
theorem notables_script
    (hparsed : parseMessageBody ctx messageBody printConfig.header = (parsed, .ok ()))
    (hl : layout parsed = some l) (hfail : Effect.fail ∉ l.script printConfig ctx) :
    (l.script printConfig ctx).notables = (if l.warning then extensionWarningItems else [])
      ++ l.pattern.notables ctx ++ maxFeeItems l.maxFee := by
  have hprint : Effect.fail ∉ l.pattern.print printConfig ctx := fun h =>
    hfail (List.mem_append_left _ (List.mem_append_right _ h))
  have hhead : (headItems printConfig l.warning l.nonce).notables
      = if l.warning then extensionWarningItems else [] := by
    have hnonce : ∀ nonce, (printSystemNoncedTransactionSentinel nonce printConfig).notables = [] :=
      fun nonce => by
        unfold printSystemNoncedTransactionSentinel
        split <;> simp [SummaryItem.notable]
    cases l.nonce <;>
      simp [headItems, hnonce, printSplTokenExtensionWarning, extensionWarningItems]
  have hfee : (if l.maxFee ≠ 0 then printComputeBudgetMaxFee l.maxFee else []).notables
      = maxFeeItems l.maxFee := by
    simp [maxFeeItems, printComputeBudgetMaxFee]
  rw [Layout.script, Script.notables_append, Script.notables_append, hhead, hfee,
    notables_print printConfig ctx hprint (getTransferToAddress_isSome hparsed hl)]

/-- **The notable items of an accepted message.** -/
theorem mem_usedItems_of_accepted {s : TransactionSummary}
    (h : processMessageBody ctx messageBody printConfig .reset = (.ok (), s)) :
    ∃ parsed l, parseMessageBody ctx messageBody printConfig.header = (parsed, .ok ()) ∧
      layout parsed = some l ∧ ∀ item : SummaryItem, item.notable = true →
        (item ∈ s.usedItems ↔ (l.warning = true ∧ item ∈ extensionWarningItems) ∨
          item ∈ l.pattern.notables ctx ∨ item ∈ maxFeeItems l.maxFee) := by
  obtain ⟨parsed, l, hparsed, hl, hfail, hitems⟩ := processMessageBody_ok h
  refine ⟨parsed, l, hparsed, hl, fun item hitem => ?_⟩
  have hmem : item ∈ s.usedItems ↔ item ∈ (l.script printConfig ctx).notables := by
    rw [TransactionSummary.mem_usedItems, Script.mem_notables]
    simp only [hitems, TransactionSummary.itemsOf_reset, List.nil_append, hitem, true_and]
  rw [hmem, notables_script hparsed hl hfail, List.mem_append, List.mem_append, or_assoc]
  cases l.warning <;> simp

end

end AgencLedger
