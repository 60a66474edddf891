import AgencLedger.Review.Body

/-!
# Review/Slots — how many general slots a review asks for

Eleven general slots serve the extension warning, the pattern and the fee.  Most patterns ask for
eight at most.  Those that create a stake account, with a seed or with its delegation, can ask for
more, and so can the creation of a task; they are counted exactly.
-/

namespace AgencLedger

/-! ## Counting -/

namespace Script

/-- The general items of a script. -/
def generalCount (script : Script) : ℕ := (items .general script).length

variable (a b : Script)

@[simp] theorem generalCount_nil : generalCount [] = 0 := rfl

@[simp] theorem generalCount_append : generalCount (a ++ b) = generalCount a + generalCount b := by
  simp [generalCount]

@[simp] theorem generalCount_cons (e : Effect) :
    generalCount (e :: a) = (itemAt .general e).length + generalCount a := by
  simp [generalCount]

@[simp] theorem generalCount_ite (c : Prop) [Decidable c] :
    generalCount (if c then a else b) = if c then generalCount a else generalCount b :=
  apply_ite generalCount c a b

@[simp] theorem generalCount_primary (title : String) (value : SummaryValue) :
    generalCount (primary title value) = 0 := by
  simp [generalCount]

@[simp] theorem generalCount_general (title : String) (value : SummaryValue) :
    generalCount (general title value) = 1 := by
  simp [generalCount]

@[simp] theorem generalCount_setGeneral (title : String) (value : SummaryValue) :
    generalCount (setGeneral title value) = 1 := by
  simp [setGeneral, itemAt]

@[simp] theorem generalCount_setPrimaryAction (action : CString) :
    generalCount (setPrimaryAction action) = 0 := by
  simp [setPrimaryAction, itemAt]

theorem generalCount_le_of_isPrefix {a b : Script} (h : a <+: b) :
    generalCount a ≤ generalCount b := by
  obtain ⟨rest, rfl⟩ := h
  simp

end Script

/-! ## The parts the counted patterns are made of -/

section

variable (printConfig : PrintConfig)

/-- One slot for an authority that is shown. -/
def authoritySlots (authority : Ptr Pubkey) : ℕ :=
  if printConfig.showAuthority authority then 1 else 0

/-- Two slots for base and seed in expert mode. -/
def seedSlots : ℕ := if printConfig.expertMode then 2 else 0

/-- The slots of a lockup. -/
def lockupSlots : Option StakeLockup → ℕ
  | some lockup =>
      if lockup.unixTimestamp > 0 || lockup.epoch > 0 then
        (if lockup.unixTimestamp > 0 then 1 else 0) + (if lockup.epoch > 0 then 1 else 0) + 1
      else if printConfig.expertMode then 1 else 0
  | none => if printConfig.expertMode then 1 else 0

/-- The slots of a stake initialisation. -/
def initializeSlots (si : StakeInitializeInfo) : ℕ :=
  (if pubkeysEqual si.withdrawAuthority si.stakeAuthority then 1 else 2)
    + lockupSlots printConfig si.lockup

/-- The slots of the creation of a task. -/
def createTaskSlots (task : AgencCreateTaskInfo) : ℕ :=
  (if task.rewardMint.isSome then 2 else 1) + (if task.taskType ≠ 0 then 1 else 0) + 7

@[simp] theorem generalCount_generalAuthority (title : String) (authority : Ptr Pubkey) :
    (generalAuthority printConfig title authority).generalCount
      = authoritySlots printConfig authority := by
  simp [generalAuthority, authoritySlots]

@[simp] theorem generalCount_primaryIfTitled (primaryTitle : Option String)
    (value : SummaryValue) : (primaryIfTitled primaryTitle value).generalCount = 0 := by
  cases primaryTitle <;> simp [primaryIfTitled]

@[simp] theorem generalCount_seedItems (base : Ptr Pubkey) (seed : SizedString) :
    (seedItems printConfig base seed).generalCount = seedSlots printConfig := by
  simp [seedItems, seedSlots]

@[simp] theorem generalCount_printSystemCreateAccountInfo (primaryTitle : Option String)
    (info : SystemCreateAccountInfo) :
    (printSystemCreateAccountInfo primaryTitle info printConfig false).generalCount
      = 1 + authoritySlots printConfig info.from := by
  simp [printSystemCreateAccountInfo, ownerItems]

@[simp] theorem generalCount_printSystemCreateAccountWithSeedInfo (primaryTitle : Option String)
    (info : SystemCreateAccountWithSeedInfo) :
    (printSystemCreateAccountWithSeedInfo primaryTitle info printConfig false).generalCount
      = 1 + authoritySlots printConfig info.from + seedSlots printConfig := by
  simp [printSystemCreateAccountWithSeedInfo, ownerItems, Nat.add_assoc]

@[simp] theorem generalCount_printStakeInitializeInfo (primaryTitle : Option String)
    (info : StakeInitializeInfo) :
    (printStakeInitializeInfo primaryTitle info printConfig).generalCount
      = initializeSlots printConfig info := by
  cases h : info.lockup <;>
    simp [printStakeInitializeInfo, stakeAuthorityItems, stakeLockupItems, initializeSlots,
      lockupSlots, h, Nat.add_assoc]

@[simp] theorem generalCount_printDelegateStakeInfo (sdk : Sdk) (primaryTitle : Option String)
    (info : StakeDelegateInfo) :
    (printDelegateStakeInfo sdk primaryTitle info printConfig).generalCount
      = authoritySlots printConfig info.authorizedPubkey + 1 := by
  simp [printDelegateStakeInfo]

theorem authoritySlots_le (authority : Ptr Pubkey) : authoritySlots printConfig authority ≤ 1 := by
  unfold authoritySlots
  split <;> omega

theorem seedSlots_le : seedSlots printConfig ≤ 2 := by
  unfold seedSlots
  split <;> omega

theorem initializeSlots_le (si : StakeInitializeInfo) : initializeSlots printConfig si ≤ 5 := by
  unfold initializeSlots lockupSlots
  repeat' split
  all_goals omega

end

@[simp] theorem generalCount_printCreateTaskFields (programId : Ptr Pubkey)
    (info : AgencCreateTaskInfo) :
    (printCreateTaskFields programId info).generalCount = createTaskSlots info := by
  cases h : info.rewardMint <;> simp [printCreateTaskFields, createTaskSlots, h] <;> omega

theorem createTaskSlots_le (info : AgencCreateTaskInfo) : createTaskSlots info ≤ 10 := by
  unfold createTaskSlots
  repeat' split
  all_goals omega

/-! ## The patterns -/

/-- The pair that the printer of a task with its review accepts. -/
def standardReview (task : AgencCreateTaskInfo) (configure : AgencConfigureTaskValidationInfo) :
    Bool :=
  pubkeysEqual task.task configure.task && pubkeysEqual task.creator configure.creator &&
    configure.mode = 1 && configure.validatorQuorum = 0 && configure.attestor.isNone

/-- The patterns that can ask for more than eight general slots. -/
def Pattern.isCrowded : Pattern → Bool
  | .createStakeAccountWithSeed .. => true
  | .createStakeAccountAndDelegate .. => true
  | .createStakeAccountWithSeedAndDelegate .. => true
  | .agenc _ ⟨_, .createTask _⟩ => true
  | .agencCreateTaskWithReview .. => true
  | _ => false

section

variable (printConfig : PrintConfig) (ctx : TokenContext)

theorem generalCount_printSystemInfo_le (info : SystemInfo) :
    (printSystemInfo info printConfig).generalCount ≤ 8 := by
  have hauth := authoritySlots_le printConfig
  have hseed := seedSlots_le printConfig
  have howner : ∀ space owner, (ownerItems true space owner).generalCount ≤ 2 :=
    fun space owner => by
      unfold ownerItems
      split <;> simp
  cases info with
  | transfer info =>
      have := hauth info.from
      simp [printSystemInfo, printSystemTransferInfo, Script.itemAt]
      omega
  | createAccount info =>
      have := hauth info.from
      have := howner info.space info.owner
      simp [printSystemInfo, printSystemCreateAccountInfo]
      omega
  | createAccountWithSeed info =>
      have := hauth info.from
      have := howner info.space info.owner
      simp [printSystemInfo, printSystemCreateAccountWithSeedInfo]
      omega
  | advanceNonce info =>
      have := hauth info.authority
      simp [printSystemInfo, printSystemAdvanceNonceAccount]
      omega
  | withdrawNonce info =>
      have := hauth info.authority
      simp [printSystemInfo, printSystemWithdrawNonceInfo]
      omega
  | authorizeNonce info =>
      have := hauth info.authority
      simp [printSystemInfo, printSystemAuthorizeNonceInfo]
      omega
  | allocateWithSeed info =>
      simp [printSystemInfo, printSystemAllocateWithSeedInfo]
      omega
  | _ =>
      simp [printSystemInfo, printSystemInitializeNonceInfo, printSystemAssignInfo,
        printSystemAllocateInfo]

theorem generalCount_printStakeInfo_le (info : StakeInfo) :
    (printStakeInfo ctx.sdk info printConfig).generalCount ≤ 8 := by
  have hauth := authoritySlots_le printConfig
  have hcustodian : ∀ info : StakeAuthorizeInfo,
      (printStakeAuthorizeInfo info printConfig).generalCount ≤ 3 := fun info => by
    have := hauth info.authority
    cases h : info.custodian with
    | none => simp [printStakeAuthorizeInfo, custodianItem, h]; omega
    | some custodian =>
        have := hauth custodian
        simp [printStakeAuthorizeInfo, custodianItem, h]
        omega
  have hlockup : ∀ info : StakeSetLockupInfo,
      (printStakeSetLockupInfo info printConfig).generalCount ≤ 4 := fun info => by
    have := hauth info.custodian
    cases ht : info.lockup.unixTimestamp <;> cases he : info.lockup.epoch <;>
      cases hc : info.lockup.custodian <;> simp [printStakeSetLockupInfo, ht, he, hc] <;> omega
  cases info with
  | delegateStake info =>
      have := hauth info.authorizedPubkey
      simp [printStakeInfo]
      omega
  | stakeInitialize info | initializeChecked info =>
      have := initializeSlots_le printConfig info
      simp [printStakeInfo]
      omega
  | authorize info | authorizeChecked info =>
      have := hcustodian info
      simp [printStakeInfo]
      omega
  | setLockup info | setLockupChecked info =>
      have := hlockup info
      simp [printStakeInfo]
      omega
  | withdraw info | deactivate info | split info | merge info =>
      have := hauth info.authority
      simp [printStakeInfo, printStakeWithdrawInfo, printStakeDeactivateInfo, printStakeSplitInfo,
        printStakeSplitInfo1, printStakeSplitInfo2, printStakeMergeInfo]
      try omega

@[simp] theorem generalCount_printVoteInitializeInfo (primaryTitle : Option String)
    (info : VoteInitializeInfo) : (printVoteInitializeInfo primaryTitle info).generalCount = 4 := by
  simp [printVoteInitializeInfo]

theorem generalCount_printVoteInfo_le (info : VoteInfo) :
    (printVoteInfo info printConfig).generalCount ≤ 8 := by
  have hauth := authoritySlots_le printConfig
  cases info with
  | voteInitialize info => simp [printVoteInfo]
  | withdraw info | authorize info | authorizeChecked info | updateValidatorId info
  | updateCommission info =>
      have := hauth info.authority
      simp [printVoteInfo, printVoteWithdrawInfo, printVoteAuthorizeInfo,
        printVoteUpdateValidatorIdInfo, printVoteUpdateCommissionInfo]
      omega

theorem generalCount_summaryItemSetMultisigMOfN_le (m n : UInt8) :
    (summaryItemSetMultisigMOfN m n).generalCount ≤ 1 := by
  unfold summaryItemSetMultisigMOfN
  split <;> simp

theorem generalCount_printSplTokenSign_le (sign : SplTokenSign) :
    (printSplTokenSign sign printConfig).generalCount ≤ 2 := by
  cases sign with
  | single signer =>
      have := authoritySlots_le printConfig signer
      simp [printSplTokenSign]
      omega
  | multi account signers => simp [printSplTokenSign]

theorem generalCount_printSplTokenTransferInfo_le (info : SplTokenTransferInfo)
    (isToken2022Kind : Bool) :
    (printSplTokenTransferInfo ctx info printConfig isToken2022Kind true).generalCount ≤ 6 := by
  have hsign := generalCount_printSplTokenSign_le printConfig info.sign
  have hto : (transferToItem ctx).generalCount ≤ 1 := by
    unfold transferToItem
    split <;> simp [Script.itemAt]
  have hfee : ∀ symbol, (transferFeeItem info symbol).generalCount ≤ 1 := fun symbol => by
    unfold transferFeeItem
    split
    · rw [Script.generalCount_ite]
      split <;> simp
    · simp
  have := hfee (getTokenSymbol ctx info.mintAccount.val isToken2022Kind)
  simp only [printSplTokenTransferInfo, Script.generalCount_append, Script.generalCount_ite,
    Script.generalCount_primary, Script.generalCount_general, Script.generalCount_cons,
    Script.generalCount_nil, Script.itemAt, if_true, List.length_nil]
  repeat' split
  all_goals omega

theorem generalCount_printSplTokenInfo_le (info : SplTokenInfo) :
    (printSplTokenInfo ctx info printConfig).generalCount ≤ 8 := by
  rcases info with ⟨isToken2022Kind, warning, body⟩
  have hsign := generalCount_printSplTokenSign_le printConfig
  cases body with
  | initializeMint info =>
      cases h : info.freezeAuthority <;>
        simp [printSplTokenInfo, printSplTokenInitializeMintInfo, h]
  | initializeAccount info | initializeAccount2 info =>
      simp [printSplTokenInfo, printSplTokenInitializeAccountInfo]
  | initializeMultisig info =>
      have := generalCount_summaryItemSetMultisigMOfN_le info.m info.signers.count
      simp [printSplTokenInfo, printSplTokenInitializeMultisigInfo]
      omega
  | transferChecked info | transferCheckedWithFee info =>
      have := generalCount_printSplTokenTransferInfo_le printConfig ctx info isToken2022Kind
      simp [printSplTokenInfo]
      omega
  | setAuthority info =>
      have := hsign info.sign
      cases h : info.newAuthority <;> simp [printSplTokenInfo, printSplTokenSetAuthorityInfo, h] <;>
        omega
  | freezeAccount info | thawAccount info =>
      have := hsign info.sign
      simp [printSplTokenInfo, printSplTokenFreezeAccountInfo, printSplTokenThawAccountInfo]
      split <;> omega
  | approveChecked info | revoke info | mintToChecked info | burnChecked info | closeAccount info =>
      have := hsign info.sign
      simp [printSplTokenInfo, printSplTokenApproveInfo, printSplTokenRevokeInfo,
        printSplTokenMintToInfo, printSplTokenBurnInfo, printSplTokenCloseAccountInfo]
      omega
  | syncNative info => simp [printSplTokenInfo, printSplTokenSyncNativeInfo]
  | extension kind => simp [printSplTokenInfo, Script.itemAt]

theorem generalCount_printAgencInfo_le {index : ℕ} {programId : Ptr Pubkey} {body : AgencBody}
    (h : (Pattern.agenc index ⟨programId, body⟩).isCrowded = false) :
    (printAgencInfo index ⟨programId, body⟩).generalCount ≤ 8 := by
  cases body with
  | createTask info => cases h
  | registerAgent info =>
      cases h : info.metadataUri <;> simp [printAgencInfo, printAgencRegisterAgentInfo, h]
  | configureTaskValidation info =>
      cases h : info.attestor <;> simp [printAgencInfo, printAgencConfigureTaskValidationInfo, h]
  | _ =>
      simp [printAgencInfo, printAgencSetTaskJobSpecInfo, printAgencClaimTaskWithJobSpecInfo,
        printAgencSubmitTaskResultInfo, printAgencAcceptTaskResultInfo,
        printAgencRejectTaskResultInfo, printAgencCancelTaskInfo, printAgencExpireClaimInfo]

/-- **Every pattern but the crowded ones asks for eight general slots at most.** -/
theorem generalCount_print_le {pattern : Pattern} (h : pattern.isCrowded = false) :
    (pattern.print printConfig ctx).generalCount ≤ 8 := by
  have hauth := authoritySlots_le printConfig
  have hseed := seedSlots_le printConfig
  have hnew : ∀ title first second, (newAuthorityItems title first second).generalCount ≤ 2 :=
    fun title first second => by
      unfold newAuthorityItems
      split <;> simp
  have hprefund : ∀ prefund, (printSystemPrefundForSplit prefund printConfig).generalCount ≤ 2 :=
    fun prefund => by
      unfold printSystemPrefundForSplit
      split <;> simp
  cases pattern with
  | system info => exact generalCount_printSystemInfo_le printConfig info
  | stake info => exact generalCount_printStakeInfo_le printConfig ctx info
  | vote info => exact generalCount_printVoteInfo_le printConfig info
  | splToken info => exact generalCount_printSplTokenInfo_le printConfig ctx info
  | agenc index info => exact generalCount_printAgencInfo_le h
  | splAssociatedTokenAccount create =>
      simp [Pattern.print, printSplAssociatedTokenAccountInfo,
        printSplAssociatedTokenAccountCreateInfo]
  | createStakeAccount ca si =>
      have := hauth ca.from
      have := initializeSlots_le printConfig si
      simp [Pattern.print, printCreateStakeAccount]
      omega
  | createNonceAccount ca ni =>
      have := hauth ca.from
      simp [Pattern.print, printCreateNonceAccount, printSystemInitializeNonceInfo]
      omega
  | createNonceAccountWithSeed cws ni =>
      have := hauth cws.from
      simp [Pattern.print, printCreateNonceAccountWithSeed, printSystemInitializeNonceInfo]
      omega
  | createVoteAccount ca vi =>
      have := hauth ca.from
      simp [Pattern.print, printCreateVoteAccount]
      omega
  | createVoteAccountWithSeed cws vi =>
      have := hauth cws.from
      simp [Pattern.print, printCreateVoteAccountWithSeed]
      omega
  | stakeAuthorizeBoth staker withdrawer =>
      have := hauth withdrawer.authority
      have := hnew "New stake auth" staker.newAuthority withdrawer.newAuthority
      simp only [Pattern.print, printStakeAuthorizeBoth]
      split
      · simp [Script.itemAt]
      · cases hc : withdrawer.custodian <;> simp <;> omega
  | voteAuthorizeBoth voter withdrawer =>
      have := hauth withdrawer.authority
      have := hnew "New vote auth" voter.newAuthority withdrawer.newAuthority
      simp only [Pattern.print, printVoteAuthorizeBoth]
      split
      · simp [Script.itemAt]
      · simp
        omega
  | stakeSplitWithSeedV1_1 aws ss | stakeSplitWithSeedV1_2 cws ss =>
      have := hauth ss.authority
      simp [Pattern.print, printStakeSplitWithSeed, printStakeSplitInfo1, printStakeSplitInfo2]
      omega
  | stakeSplitV1_2 ca ss => exact generalCount_printStakeInfo_le printConfig ctx (.split ss)
  | stakeSplitV1_1 allocate assign ss =>
      exact generalCount_printStakeInfo_le printConfig ctx (.split ss)
  | splTokenCreateMint ca im =>
      have := hauth ca.from
      cases hf : im.freezeAuthority <;> simp [Pattern.print, printSplTokenCreateMint, hf] <;> omega
  | splTokenCreateAccount ca ia =>
      have := hauth ca.from
      simp [Pattern.print, printSplTokenCreateAccount]
      omega
  | splTokenCreateMultisig ca im =>
      have := hauth ca.from
      have := generalCount_summaryItemSetMultisigMOfN_le im.m im.signers.count
      simp [Pattern.print, printSplTokenCreateMultisig]
      omega
  | splAssociatedTokenAccountCreateWithTransfer create isToken2022Kind transfer =>
      have hfull := generalCount_printSplTokenTransferInfo_le printConfig ctx transfer
        isToken2022Kind
      exact (Script.generalCount_le_of_isPrefix (List.takeWhile_prefix _)).trans
        (hfull.trans (by omega))
  | stakeSplitWithSeedV1_3 prefund aws ss =>
      have := hauth ss.authority
      have := hprefund prefund
      simp [Pattern.print, printPrefundedSplitWithSeed, printStakeSplitWithSeed,
        printStakeSplitInfo1, printStakeSplitInfo2]
      omega
  | stakeSplitV1_3 prefund allocate assign ss =>
      have := hauth ss.authority
      have := hprefund prefund
      simp [Pattern.print, printPrefundedSplit, printStakeSplitInfo, printStakeSplitInfo1,
        printStakeSplitInfo2]
      omega
  | createStakeAccountWithSeed cws si => cases h
  | createStakeAccountAndDelegate ca si sd => cases h
  | createStakeAccountWithSeedAndDelegate cws si sd => cases h
  | agencCreateTaskWithReview create configure => cases h

end

/-! ## The other slots

Outside the general slots a pattern fills the primary item only, and that once. -/

/-- The script puts nothing but general items. -/
def Script.GeneralOnly (script : Script) : Prop := ∀ slot, slot ≠ .general → items slot script = []

/-- Outside the general slots the script puts one primary item at most. -/
def Script.OnePrimary (script : Script) : Prop :=
  ∀ slot, slot ≠ .general → (items slot script).length ≤ if slot = .primary then 1 else 0

namespace Script

variable {a b : Script}

@[simp] theorem generalOnly_nil : GeneralOnly [] := fun _ _ => rfl

@[simp] theorem generalOnly_append : GeneralOnly (a ++ b) ↔ GeneralOnly a ∧ GeneralOnly b := by
  simp only [GeneralOnly, items_append, List.append_eq_nil_iff]
  exact ⟨fun h => ⟨fun slot hs => (h slot hs).1, fun slot hs => (h slot hs).2⟩,
    fun h slot hs => ⟨h.1 slot hs, h.2 slot hs⟩⟩

@[simp] theorem generalOnly_general (title : String) (value : SummaryValue) :
    GeneralOnly (general title value) := fun slot hs => by simp [hs]

@[simp] theorem generalOnly_setGeneral (title : String) (value : SummaryValue) :
    GeneralOnly (setGeneral title value) := fun slot hs => by simp [setGeneral, itemAt, hs.symm]

@[simp] theorem generalOnly_ite {c : Prop} [Decidable c] :
    GeneralOnly (if c then a else b) ↔ (c → GeneralOnly a) ∧ (¬c → GeneralOnly b) := by
  split <;> simp_all

@[simp] theorem generalOnly_setTransactionType {type : TransactionType} :
    GeneralOnly (.setTransactionType type :: a) ↔ GeneralOnly a := Iff.rfl

@[simp] theorem generalOnly_setTokenFeeWarning {warning : Bool} :
    GeneralOnly (.setTokenFeeWarning warning :: a) ↔ GeneralOnly a := Iff.rfl

@[simp] theorem generalOnly_setTokenHookWarning {warning : Bool} :
    GeneralOnly (.setTokenHookWarning warning :: a) ↔ GeneralOnly a := Iff.rfl

@[simp] theorem generalOnly_setIsToken2022Transfer {transfer : Bool} :
    GeneralOnly (.setIsToken2022Transfer transfer :: a) ↔ GeneralOnly a := Iff.rfl

@[simp] theorem generalOnly_fail : GeneralOnly (.fail :: a) ↔ GeneralOnly a := Iff.rfl

/-- A script of general items sets no primary one. -/
theorem GeneralOnly.items_primary (h : GeneralOnly a) : items .primary a = [] :=
  h .primary (by simp)

theorem GeneralOnly.onePrimary (h : GeneralOnly a) : OnePrimary a := fun slot hs => by
  simp [h slot hs]

@[simp] theorem onePrimary_primary (title : String) (value : SummaryValue) :
    OnePrimary (primary title value) := fun slot _ => by
  rw [items_primary]
  split <;> simp

@[simp] theorem onePrimary_setPrimaryAction (action : CString) :
    OnePrimary (setPrimaryAction action) := fun slot hs => by
  cases slot <;> simp [setPrimaryAction, itemAt]

theorem OnePrimary.append (ha : OnePrimary a) (hb : GeneralOnly b) : OnePrimary (a ++ b) :=
  fun slot hs => by simpa [hb slot hs] using ha slot hs

theorem OnePrimary.prepend (ha : GeneralOnly a) (hb : OnePrimary b) : OnePrimary (a ++ b) :=
  fun slot hs => by simpa [ha slot hs] using hb slot hs

@[simp] theorem onePrimary_append_iff (hb : GeneralOnly b) : OnePrimary (a ++ b) ↔ OnePrimary a :=
  ⟨fun h slot hs => by simpa [hb slot hs] using h slot hs, fun h => h.append hb⟩

@[simp] theorem onePrimary_ite {c : Prop} [Decidable c] :
    OnePrimary (if c then a else b) ↔ (c → OnePrimary a) ∧ (¬c → OnePrimary b) := by
  split <;> simp_all

@[simp] theorem onePrimary_fail : OnePrimary [.fail] := fun slot _ => by simp [itemAt]

theorem OnePrimary.of_isPrefix (h : OnePrimary b) (hab : a <+: b) : OnePrimary a := by
  obtain ⟨rest, rfl⟩ := hab
  intro slot hs
  have := h slot hs
  rw [items_append, List.length_append] at this
  omega

end Script

section

variable (printConfig : PrintConfig) (ctx : TokenContext)

@[simp] theorem generalOnly_generalAuthority (title : String) (authority : Ptr Pubkey) :
    (generalAuthority printConfig title authority).GeneralOnly := by
  simp [generalAuthority]

@[simp] theorem generalOnly_seedItems (base : Ptr Pubkey) (seed : SizedString) :
    (seedItems printConfig base seed).GeneralOnly := by
  simp [seedItems]

@[simp] theorem generalOnly_ownerItems (displayOwner : Bool) (space : UInt64) (owner : Ptr Pubkey) :
    (ownerItems displayOwner space owner).GeneralOnly := by
  simp [ownerItems]

@[simp] theorem generalOnly_primaryIfTitled_none (value : SummaryValue) :
    (primaryIfTitled none value).GeneralOnly := by
  simp [primaryIfTitled]

@[simp] theorem onePrimary_primaryIfTitled_some (title : String) (value : SummaryValue) :
    (primaryIfTitled (some title) value).OnePrimary := by
  simp [primaryIfTitled]

@[simp] theorem generalOnly_stakeAuthorityItems (info : StakeInitializeInfo) :
    (stakeAuthorityItems info).GeneralOnly := by
  simp [stakeAuthorityItems]

@[simp] theorem generalOnly_stakeLockupItems (lockup : Option StakeLockup) :
    (stakeLockupItems lockup printConfig).GeneralOnly := by
  rcases lockup with _ | lockup <;> simp [stakeLockupItems]

@[simp] theorem generalOnly_custodianItem (custodian : Option (Ptr Pubkey)) :
    (custodianItem printConfig custodian).GeneralOnly := by
  rcases custodian with _ | custodian <;> simp [custodianItem]

@[simp] theorem generalOnly_printSplTokenSign (sign : SplTokenSign) :
    (printSplTokenSign sign printConfig).GeneralOnly := by
  rcases sign with signer | ⟨account, signers⟩ <;> simp [printSplTokenSign]

@[simp] theorem generalOnly_transferToItem : (transferToItem ctx).GeneralOnly := by
  unfold transferToItem
  split <;> simp

@[simp] theorem generalOnly_transferFeeItem (info : SplTokenTransferInfo) (symbol : CString) :
    (transferFeeItem info symbol).GeneralOnly := by
  unfold transferFeeItem
  split <;> simp

@[simp] theorem generalOnly_summaryItemSetMultisigMOfN (m n : UInt8) :
    (summaryItemSetMultisigMOfN m n).GeneralOnly := by
  unfold summaryItemSetMultisigMOfN
  split <;> simp

@[simp] theorem generalOnly_newAuthorityItems (title : String) (first second : Ptr Pubkey) :
    (newAuthorityItems title first second).GeneralOnly := by
  simp [newAuthorityItems]

@[simp] theorem generalOnly_printSystemPrefundForSplit (info : SystemTransferInfo) :
    (printSystemPrefundForSplit info printConfig).GeneralOnly := by
  simp [printSystemPrefundForSplit]

@[simp] theorem generalOnly_printStakeSplitInfo2 (info : StakeSplitInfo) :
    (printStakeSplitInfo2 info printConfig).GeneralOnly := by
  simp [printStakeSplitInfo2]

theorem onePrimary_printSystemInfo (info : SystemInfo) :
    (printSystemInfo info printConfig).OnePrimary := by
  rcases info with _ | _ | _ | _ | _ | _ | _ | _ | _ | _ <;>
    simp [printSystemInfo, printSystemTransferInfo, printSystemAdvanceNonceAccount,
      printSystemCreateAccountInfo, printSystemCreateAccountWithSeedInfo,
      printSystemInitializeNonceInfo, printSystemWithdrawNonceInfo, printSystemAuthorizeNonceInfo,
      printSystemAssignInfo, printSystemAllocateInfo, printSystemAllocateWithSeedInfo]

theorem onePrimary_printStakeSplitInfo (info : StakeSplitInfo) :
    (printStakeSplitInfo info printConfig).OnePrimary := by
  simp [printStakeSplitInfo, printStakeSplitInfo1]

theorem onePrimary_printStakeInfo (info : StakeInfo) :
    (printStakeInfo ctx.sdk info printConfig).OnePrimary := by
  have hlockup : ∀ info, (printStakeSetLockupInfo info printConfig).OnePrimary := fun info => by
    rcases ht : info.lockup.unixTimestamp with _ | time <;>
      rcases he : info.lockup.epoch with _ | epoch <;>
      rcases hc : info.lockup.custodian with _ | custodian <;>
      simp [printStakeSetLockupInfo, ht, he, hc]
  rcases info with _ | _ | _ | _ | _ | _ | _ | _ | _ | _ | _ <;>
    simp [printStakeInfo, printDelegateStakeInfo, printStakeInitializeInfo, printStakeWithdrawInfo,
      printStakeAuthorizeInfo, printStakeDeactivateInfo, printStakeSplitInfo, printStakeSplitInfo1,
      printStakeMergeInfo, hlockup]

theorem onePrimary_printVoteInfo (info : VoteInfo) :
    (printVoteInfo info printConfig).OnePrimary := by
  rcases info with _ | _ | _ | _ | _ | _ <;>
    simp [printVoteInfo, printVoteInitializeInfo, printVoteWithdrawInfo, printVoteAuthorizeInfo,
      printVoteUpdateValidatorIdInfo, printVoteUpdateCommissionInfo]

theorem onePrimary_printSplTokenTransferInfo (info : SplTokenTransferInfo)
    (isToken2022Kind : Bool) :
    (printSplTokenTransferInfo ctx info printConfig isToken2022Kind true).OnePrimary := by
  simp [printSplTokenTransferInfo]

theorem onePrimary_printSplTokenInfo (info : SplTokenInfo) :
    (printSplTokenInfo ctx info printConfig).OnePrimary := by
  rcases info with ⟨isToken2022Kind, warning, body⟩
  cases body with
  | initializeMint info =>
      rcases h : info.freezeAuthority with _ | authority <;>
        simp [printSplTokenInfo, printSplTokenInitializeMintInfo, h]
  | setAuthority info =>
      rcases h : info.newAuthority with _ | authority <;>
        simp [printSplTokenInfo, printSplTokenSetAuthorityInfo, h]
  | transferChecked info | transferCheckedWithFee info =>
      exact onePrimary_printSplTokenTransferInfo printConfig ctx info isToken2022Kind
  | _ =>
      simp [printSplTokenInfo, printSplTokenInitializeAccountInfo,
        printSplTokenInitializeMultisigInfo, printSplTokenApproveInfo, printSplTokenRevokeInfo,
        printSplTokenMintToInfo, printSplTokenBurnInfo, printSplTokenCloseAccountInfo,
        printSplTokenFreezeAccountInfo, printSplTokenThawAccountInfo,
        printSplTokenSyncNativeInfo]

theorem generalOnly_printCreateTaskFields (programId : Ptr Pubkey) (info : AgencCreateTaskInfo) :
    (printCreateTaskFields programId info).GeneralOnly := by
  rcases h : info.rewardMint with _ | mint <;> simp [printCreateTaskFields, h]

theorem onePrimary_printAgencInfo (index : ℕ) (info : AgencInfo) :
    (printAgencInfo index info).OnePrimary := by
  rcases info with ⟨programId, body⟩
  cases body with
  | createTask info =>
      simp [printAgencInfo, printAgencCreateTaskInfo, generalOnly_printCreateTaskFields]
  | registerAgent info =>
      rcases h : info.metadataUri with _ | uri <;>
        simp [printAgencInfo, printAgencRegisterAgentInfo, h]
  | configureTaskValidation info =>
      rcases h : info.attestor with _ | attestor <;>
        simp [printAgencInfo, printAgencConfigureTaskValidationInfo, h]
  | _ =>
      simp [printAgencInfo, printAgencSetTaskJobSpecInfo, printAgencClaimTaskWithJobSpecInfo,
        printAgencSubmitTaskResultInfo, printAgencAcceptTaskResultInfo,
        printAgencRejectTaskResultInfo, printAgencCancelTaskInfo, printAgencExpireClaimInfo]

/-- **Every pattern sets one primary item at most**, and no nonce item. -/
theorem onePrimary_print (pattern : Pattern) : (pattern.print printConfig ctx).OnePrimary := by
  cases pattern with
  | system info => exact onePrimary_printSystemInfo printConfig info
  | stake info => exact onePrimary_printStakeInfo printConfig ctx info
  | vote info => exact onePrimary_printVoteInfo printConfig info
  | splToken info => exact onePrimary_printSplTokenInfo printConfig ctx info
  | agenc index info => exact onePrimary_printAgencInfo index info
  | stakeSplitV1_2 ca ss => exact onePrimary_printStakeInfo printConfig ctx (.split ss)
  | stakeSplitV1_1 allocate assign ss =>
      exact onePrimary_printStakeInfo printConfig ctx (.split ss)
  | stakeSplitV1_3 prefund allocate assign ss =>
      exact (onePrimary_printStakeSplitInfo printConfig ss).prepend
        (generalOnly_printSystemPrefundForSplit printConfig prefund)
  | stakeSplitWithSeedV1_3 prefund aws ss =>
      refine Script.OnePrimary.prepend
        (generalOnly_printSystemPrefundForSplit printConfig prefund) ?_
      simp [printStakeSplitWithSeed, printStakeSplitInfo1]
  | stakeAuthorizeBoth staker withdrawer =>
      rcases hc : withdrawer.custodian with _ | custodian <;>
        simp [Pattern.print, printStakeAuthorizeBoth, hc]
  | splTokenCreateMint ca im =>
      rcases hf : im.freezeAuthority with _ | authority <;>
        simp [Pattern.print, printSplTokenCreateMint, hf]
  | splAssociatedTokenAccountCreateWithTransfer create isToken2022Kind transfer =>
      exact (onePrimary_printSplTokenTransferInfo printConfig ctx transfer
        isToken2022Kind).of_isPrefix (List.takeWhile_prefix _)
  | agencCreateTaskWithReview create configure =>
      simp only [Pattern.print, printAgencCreateTaskWithReviewInfo]
      split
      · simp [generalOnly_printCreateTaskFields]
      · simp
  | _ =>
      simp [Pattern.print, printSplAssociatedTokenAccountInfo,
        printSplAssociatedTokenAccountCreateInfo, printCreateStakeAccount,
        printCreateStakeAccountWithSeed, printCreateNonceAccount, printCreateNonceAccountWithSeed,
        printCreateVoteAccount, printCreateVoteAccountWithSeed, printVoteAuthorizeBoth,
        printStakeSplitWithSeed, printSplTokenCreateAccount, printSplTokenCreateMultisig,
        printCreateStakeAccountAndDelegate, printCreateStakeAccountWithSeedAndDelegate,
        printSystemCreateAccountInfo, printSystemCreateAccountWithSeedInfo,
        printStakeInitializeInfo, printDelegateStakeInfo, printSystemInitializeNonceInfo,
        printVoteInitializeInfo, printStakeSplitInfo1]

end

/-! ## Running out of slots -/

namespace Script

/-- Every slot has room for the items of the script. -/
def Fits (script : Script) (s : TransactionSummary) : Prop :=
  ∀ slot, (s.itemsOf slot).length + (items slot script).length ≤ TransactionSummary.capacity slot

/-- No effect of the script bails out. -/
def Unchecked (script : Script) : Prop := ∀ e ∈ script, e.Unchecked

/-- The script looks at each item it fills. -/
def Checked (script : Script) : Prop := ∀ e ∈ script, e.Checked

variable {a b : Script} {s : TransactionSummary}

@[simp] theorem unchecked_nil : Unchecked [] := fun e he => by simp at he

@[simp] theorem unchecked_append : Unchecked (a ++ b) ↔ Unchecked a ∧ Unchecked b :=
  List.forall_mem_append

@[simp] theorem unchecked_cons {e : Effect} : Unchecked (e :: a) ↔ e.Unchecked ∧ Unchecked a :=
  List.forall_mem_cons

@[simp] theorem unchecked_ite {c : Prop} [Decidable c] :
    Unchecked (if c then a else b) ↔ (c → Unchecked a) ∧ (¬c → Unchecked b) := by
  split <;> simp_all

@[simp] theorem unchecked_primary (title : String) (value : SummaryValue) :
    Unchecked (primary title value) := by
  simp [primary, Effect.Unchecked]

@[simp] theorem unchecked_general (title : String) (value : SummaryValue) :
    Unchecked (general title value) := by
  simp [general, Effect.Unchecked]

@[simp] theorem checked_nil : Checked [] := fun e he => by simp at he

@[simp] theorem checked_append : Checked (a ++ b) ↔ Checked a ∧ Checked b :=
  List.forall_mem_append

@[simp] theorem checked_ite {c : Prop} [Decidable c] :
    Checked (if c then a else b) ↔ (c → Checked a) ∧ (¬c → Checked b) := by
  split <;> simp_all

@[simp] theorem checked_setGeneral (title : String) (value : SummaryValue) :
    Checked (setGeneral title value) := by
  simp [Checked, setGeneral, Effect.Checked]

@[simp] theorem checked_setPrimaryAction (action : CString) :
    Checked (setPrimaryAction action) := by
  simp [Checked, setPrimaryAction, Effect.Checked]

theorem Unchecked.fail_notMem (h : Unchecked a) : Effect.fail ∉ a := fun hmem => (h _ hmem).1 rfl

/-- **A script without checks fills a `NULL` item exactly when its items do not fit.** -/
theorem play_nullItem_iff (h : Unchecked a) :
    (play a s).1 = .error .nullItem ↔ ¬Fits a s := by
  have hok : (play a s).1 = .ok () ↔ Fits a s :=
    play_ok_iff.trans (and_iff_right h.fail_notMem)
  rw [← hok]
  rcases play_unchecked h s with hr | hr <;> simp [hr]

/-- **A checked script in front of an unchecked one** leaves the `NULL` item to the second: it is
filled when the first fits and both together do not. -/
theorem play_append_nullItem_iff (ha : Checked a) (hfail : Effect.fail ∉ a) (hb : Unchecked b) :
    (play (a ++ b) s).1 = .error .nullItem ↔ Fits a s ∧ ¬Fits (a ++ b) s := by
  have hfirst : (play a s).1 = .ok () ↔ Fits a s := play_ok_iff.trans (and_iff_right hfail)
  have hboth : (play (a ++ b) s).1 = .ok () ↔ Fits (a ++ b) s :=
    play_ok_iff.trans (and_iff_right (by simp [hfail, hb.fail_notMem]))
  have hne := play_checked ha s
  rw [← hfirst, ← hboth, play_append]
  rcases hr : play a s with ⟨stop | u, t⟩
  · rw [hr] at hne
    simpa using hne
  · rcases play_unchecked hb t with hr' | hr' <;> simp [hr']

/-- A script that fits goes on to the next one, which then has the room that is left. -/
theorem play_append_of_fits (hfail : Effect.fail ∉ a) (hfits : Fits a s) :
    ∃ t, (∀ slot, t.itemsOf slot = s.itemsOf slot ++ items slot a) ∧
      (∀ b, play (a ++ b) s = play b t) ∧ ∀ b, Fits b t ↔ Fits (a ++ b) s := by
  have hok : (play a s).1 = .ok () := play_ok_iff.mpr ⟨hfail, hfits⟩
  have hplay : play a s = (.ok (), (play a s).2) := by rw [← hok]
  refine ⟨(play a s).2, itemsOf_play hplay, fun b => by rw [play_append, hplay],
    fun b => forall_congr' fun slot => ?_⟩
  rw [itemsOf_play hplay, items_append, List.length_append, List.length_append, Nat.add_assoc]

end Script

/-! ## Layouts that have room -/

/-- The slots of the extension warning. -/
def Layout.warningSlots (l : Layout) : ℕ := if l.warning then 2 else 0

/-- The slot of the fee. -/
def Layout.feeSlots (l : Layout) : ℕ := if l.maxFee ≠ 0 then 1 else 0

/-- **The layouts that do not run out of slots unnoticed.**  The creation of a task checks its own
items, so it is in the way of the fee only, and only when it leaves no slot at all. -/
def Layout.HasRoom (printConfig : PrintConfig) (l : Layout) : Prop :=
  match l.pattern with
  | .createStakeAccountWithSeed cws si =>
      l.warningSlots + (1 + authoritySlots printConfig cws.from + seedSlots printConfig
        + initializeSlots printConfig si) + l.feeSlots ≤ numGeneralItems
  | .createStakeAccountAndDelegate ca si sd =>
      l.warningSlots + (1 + authoritySlots printConfig ca.from + initializeSlots printConfig si
        + (authoritySlots printConfig sd.authorizedPubkey + 1)) + l.feeSlots ≤ numGeneralItems
  | .createStakeAccountWithSeedAndDelegate cws si sd =>
      l.warningSlots + (1 + authoritySlots printConfig cws.from + seedSlots printConfig
        + initializeSlots printConfig si + (authoritySlots printConfig sd.authorizedPubkey + 1))
        + l.feeSlots ≤ numGeneralItems
  | .agenc _ ⟨_, .createTask task⟩ =>
      l.maxFee ≠ 0 → l.warningSlots + createTaskSlots task ≠ numGeneralItems
  | .agencCreateTaskWithReview ⟨_, .createTask task⟩ ⟨_, .configureTaskValidation configure⟩ =>
      standardReview task configure = true → l.maxFee ≠ 0 →
        l.warningSlots + (createTaskSlots task + 1) ≠ numGeneralItems
  | _ => True

/-- A print function of `process_message_body` hands `NULL` to a setter. -/
def FillsNullItem (ctx : TokenContext) (messageBody : Parser) (printConfig : PrintConfig) : Prop :=
  (Script.play (messageBodyScript ctx messageBody printConfig) .reset).1 = .error .nullItem

section

variable {printConfig : PrintConfig} {ctx : TokenContext}

theorem unchecked_parseEffects (parsed : List ParsedInstruction) :
    Script.Unchecked (parsed.flatMap (·.info.parseEffects)) := by
  have hinfo : ∀ info : InstructionInfo, info.parseEffects.Unchecked := fun info => by
    rcases info with _ | _ | info | _ | _ | _ | _ | _ | _ | _
    case stake =>
      rcases info with _ | _ | _ | _ | _ | _ | _ | _ | _ | _ | _ <;>
        simp [InstructionInfo.parseEffects, StakeInfo.parseEffects, Effect.Unchecked]
    all_goals simp [InstructionInfo.parseEffects]
  intro e he
  obtain ⟨q, -, hq⟩ := List.mem_flatMap.mp he
  exact hinfo q.info e hq

theorem unchecked_headItems (warning : Bool) (nonce : Option SystemAdvanceNonceInfo) :
    (headItems printConfig warning nonce).Unchecked := by
  rcases nonce with _ | nonce <;>
    simp [headItems, printSplTokenExtensionWarning, printSystemNoncedTransactionSentinel,
      Effect.Unchecked]

/-- Parsing and the head of a review, in front of a pattern. -/
abbrev reviewHead (printConfig : PrintConfig) (parsed : List ParsedInstruction) (warning : Bool)
    (nonce : Option SystemAdvanceNonceInfo) : Script :=
  parsed.flatMap (·.info.parseEffects) ++ headItems printConfig warning nonce

/-- **The items of a review fit when the general ones do.** -/
theorem fits_reviewHead_iff {parsed : List ParsedInstruction} {warning : Bool}
    {nonce : Option SystemAdvanceNonceInfo} {script : Script} (h : script.OnePrimary) :
    Script.Fits (reviewHead printConfig parsed warning nonce ++ script) .reset ↔
      (if warning then 2 else 0) + script.generalCount ≤ numGeneralItems := by
  have hquiet := (parseEffects_quiet parsed).2
  have hgeneral : (Script.items .general (headItems printConfig warning nonce)).length
      = if warning then 2 else 0 := by
    rcases nonce with _ | nonce <;> cases warning <;>
      simp [headItems, printSplTokenExtensionWarning, printSystemNoncedTransactionSentinel,
        Script.itemAt]
  have hother : ∀ slot, slot ≠ .general →
      (Script.items slot (headItems printConfig warning nonce)).length
        ≤ if slot = .nonceAccount ∨ slot = .nonceAuthority then 1 else 0 := fun slot hs => by
    rcases nonce with _ | nonce <;> cases slot <;>
      simp [headItems, printSplTokenExtensionWarning, printSystemNoncedTransactionSentinel,
        Script.itemAt] at hs ⊢ <;>
      split <;> simp
  simp only [Script.Fits, TransactionSummary.itemsOf_reset, List.length_nil, Nat.zero_add,
    Script.items_append, hquiet, List.nil_append, List.length_append]
  constructor
  · intro hfits
    have := hfits .general
    rw [hgeneral] at this
    exact this
  · intro hcount slot
    by_cases hs : slot = .general
    · subst hs
      rw [hgeneral]
      exact hcount
    · have h₁ := hother slot hs
      have h₂ := h slot hs
      cases slot <;> simp_all [TransactionSummary.capacity]

theorem fits_reviewHead (printConfig : PrintConfig) (parsed : List ParsedInstruction)
    (warning : Bool) (nonce : Option SystemAdvanceNonceInfo) :
    Script.Fits (reviewHead printConfig parsed warning nonce) .reset := by
  rw [← List.append_nil (reviewHead printConfig parsed warning nonce),
    fits_reviewHead_iff Script.generalOnly_nil.onePrimary]
  split <;> decide

theorem fail_notMem_reviewHead (printConfig : PrintConfig) (parsed : List ParsedInstruction)
    (warning : Bool) (nonce : Option SystemAdvanceNonceInfo) :
    Effect.fail ∉ reviewHead printConfig parsed warning nonce :=
  Script.Unchecked.fail_notMem
    (Script.unchecked_append.mpr ⟨unchecked_parseEffects parsed, unchecked_headItems _ _⟩)

/-- The fee, behind the pattern. -/
def Layout.feeItems (l : Layout) : Script :=
  if l.maxFee ≠ 0 then printComputeBudgetMaxFee l.maxFee else []

theorem Layout.generalCount_feeItems (l : Layout) : l.feeItems.generalCount = l.feeSlots := by
  simp [feeItems, feeSlots, printComputeBudgetMaxFee]

theorem Layout.generalOnly_feeItems (l : Layout) : l.feeItems.GeneralOnly := by
  simp [feeItems, printComputeBudgetMaxFee]

theorem Layout.unchecked_feeItems (l : Layout) : l.feeItems.Unchecked := by
  simp [feeItems, printComputeBudgetMaxFee]

/-- The whole script of a message that has a layout. -/
theorem reviewHead_append (parsed : List ParsedInstruction) (l : Layout) :
    parsed.flatMap (·.info.parseEffects) ++ l.script printConfig ctx
      = reviewHead printConfig parsed l.warning l.nonce
        ++ (l.pattern.print printConfig ctx ++ l.feeItems) := by
  simp only [reviewHead, Layout.script, Layout.feeItems, List.append_assoc]

/-- **The items of a layout fit when the general ones do.** -/
theorem fits_script_iff {parsed : List ParsedInstruction} {l : Layout} :
    Script.Fits (parsed.flatMap (·.info.parseEffects) ++ l.script printConfig ctx) .reset ↔
      l.warningSlots + (l.pattern.print printConfig ctx).generalCount + l.feeSlots
        ≤ numGeneralItems := by
  rw [reviewHead_append, fits_reviewHead_iff
    ((onePrimary_print printConfig ctx l.pattern).append l.generalOnly_feeItems),
    Script.generalCount_append, l.generalCount_feeItems, ← Nat.add_assoc]
  rfl

/-- A pattern that asks for eight slots at most leaves room. -/
theorem play_ne_nullItem_of_le {parsed : List ParsedInstruction} {l : Layout}
    (h : (l.pattern.print printConfig ctx).generalCount ≤ 8) :
    (Script.play (parsed.flatMap (·.info.parseEffects) ++ l.script printConfig ctx) .reset).1
      ≠ .error .nullItem := by
  refine Script.play_ne_nullItem_of_room (fits_script_iff.mpr ?_)
  have hwarning : l.warningSlots ≤ 2 := by
    unfold Layout.warningSlots
    split <;> omega
  have hfee : l.feeSlots ≤ 1 := by
    unfold Layout.feeSlots
    split <;> omega
  have hnum : numGeneralItems = 11 := rfl
  omega

/-- A pattern without checks fills a `NULL` item exactly when it has no room. -/
theorem play_nullItem_iff_of_unchecked {parsed : List ParsedInstruction} {l : Layout}
    (h : (l.pattern.print printConfig ctx).Unchecked) :
    (Script.play (parsed.flatMap (·.info.parseEffects) ++ l.script printConfig ctx) .reset).1
        = .error .nullItem ↔
      ¬l.warningSlots + (l.pattern.print printConfig ctx).generalCount + l.feeSlots
        ≤ numGeneralItems := by
  rw [Script.play_nullItem_iff, fits_script_iff]
  rw [reviewHead_append]
  simp only [reviewHead, Script.unchecked_append]
  exact ⟨⟨unchecked_parseEffects parsed, unchecked_headItems _ _⟩, h, l.unchecked_feeItems⟩

/-- A checked pattern lets the fee fill a `NULL` item exactly when it takes all slots itself. -/
theorem play_nullItem_iff_of_checked {parsed : List ParsedInstruction} {l : Layout}
    (h : (l.pattern.print printConfig ctx).Checked)
    (hfail : Effect.fail ∉ l.pattern.print printConfig ctx) :
    (Script.play (parsed.flatMap (·.info.parseEffects) ++ l.script printConfig ctx) .reset).1
        = .error .nullItem ↔
      ¬(l.maxFee ≠ 0 → l.warningSlots + (l.pattern.print printConfig ctx).generalCount
        ≠ numGeneralItems) := by
  obtain ⟨t, -, hplay, hfits⟩ := Script.play_append_of_fits
    (fail_notMem_reviewHead printConfig parsed l.warning l.nonce)
    (fits_reviewHead printConfig parsed l.warning l.nonce)
  have hprint := onePrimary_print printConfig ctx l.pattern
  rw [reviewHead_append, hplay, Script.play_append_nullItem_iff h hfail l.unchecked_feeItems,
    hfits, hfits, fits_reviewHead_iff hprint, fits_reviewHead_iff (hprint.append
      l.generalOnly_feeItems), Script.generalCount_append, l.generalCount_feeItems]
  unfold Layout.warningSlots Layout.feeSlots
  by_cases hfee : l.maxFee = 0
  · simp only [hfee, ne_eq, not_true_eq_false, if_false, false_implies, Nat.add_zero,
      and_not_self_iff]
  · simp only [ne_eq, hfee, not_false_eq_true, if_true, true_implies, not_not]
    omega

theorem printAgencCreateTaskWithReviewInfo_eq (id id' : Ptr Pubkey) (task : AgencCreateTaskInfo)
    (configure : AgencConfigureTaskValidationInfo) :
    printAgencCreateTaskWithReviewInfo ⟨id, .createTask task⟩
      ⟨id', .configureTaskValidation configure⟩
      = if standardReview task configure then
          setPrimaryAction (.lit "Create task") ++ printCreateTaskFields id task
            ++ setGeneral "Review window" (.i64 configure.reviewWindowSecs)
        else [.fail] := by
  have hcond : (!pubkeysEqual task.task configure.task || !pubkeysEqual task.creator
    configure.creator
      || decide (configure.mode ≠ 1) || decide (configure.validatorQuorum ≠ 0)
      || configure.attestor.isSome) = !standardReview task configure := by
    simp [standardReview]
  simp only [printAgencCreateTaskWithReviewInfo, hcond]
  cases standardReview task configure <;> rfl

theorem checked_printCreateTaskFields (programId : Ptr Pubkey) (info : AgencCreateTaskInfo) :
    (printCreateTaskFields programId info).Checked := by
  rcases h : info.rewardMint with _ | mint <;> simp [printCreateTaskFields, h]

theorem fail_notMem_printCreateTaskFields (programId : Ptr Pubkey) (info : AgencCreateTaskInfo) :
    Effect.fail ∉ printCreateTaskFields programId info := by
  rcases h : info.rewardMint with _ | mint <;> simp [printCreateTaskFields, setGeneral, h]

theorem unchecked_generalAuthority (title : String) (authority : Ptr Pubkey) :
    (generalAuthority printConfig title authority).Unchecked := by
  simp [generalAuthority]

theorem unchecked_printStakeInitializeInfo (info : StakeInitializeInfo) :
    (printStakeInitializeInfo none info printConfig).Unchecked := by
  rcases h : info.lockup with _ | lockup <;>
    simp [printStakeInitializeInfo, primaryIfTitled, stakeAuthorityItems, stakeLockupItems, h]

/-- The patterns that create a stake account look at no item. -/
theorem unchecked_print {pattern : Pattern} (h : pattern.isCrowded = true)
    (hagenc : ∀ index info, pattern ≠ .agenc index info)
    (hpair : ∀ create configure, pattern ≠ .agencCreateTaskWithReview create configure) :
    (pattern.print printConfig ctx).Unchecked := by
  cases pattern with
  | agenc index info => exact absurd rfl (hagenc index info)
  | agencCreateTaskWithReview create configure => exact absurd rfl (hpair create configure)
  | createStakeAccountWithSeed cws si =>
      simp [Pattern.print, printCreateStakeAccountWithSeed, printSystemCreateAccountWithSeedInfo,
        primaryIfTitled, ownerItems, seedItems, unchecked_generalAuthority,
        unchecked_printStakeInitializeInfo]
  | createStakeAccountAndDelegate ca si sd =>
      simp [Pattern.print, printCreateStakeAccountAndDelegate, printSystemCreateAccountInfo,
        primaryIfTitled, ownerItems, unchecked_generalAuthority,
        unchecked_printStakeInitializeInfo, printDelegateStakeInfo, Effect.Unchecked]
  | createStakeAccountWithSeedAndDelegate cws si sd =>
      simp [Pattern.print, printCreateStakeAccountWithSeedAndDelegate,
        printSystemCreateAccountWithSeedInfo, primaryIfTitled, ownerItems, seedItems,
        unchecked_generalAuthority, unchecked_printStakeInitializeInfo, printDelegateStakeInfo,
        Effect.Unchecked]
  | _ => cases h

/-- **A layout fills a `NULL` item exactly when it has no room.** -/
theorem play_script_nullItem_iff (parsed : List ParsedInstruction) (l : Layout) :
    (Script.play (parsed.flatMap (·.info.parseEffects) ++ l.script printConfig ctx) .reset).1
        = .error .nullItem ↔ ¬l.HasRoom printConfig := by
  have hnot : (l.pattern.print printConfig ctx).generalCount ≤ 8 →
      (Script.play (parsed.flatMap (·.info.parseEffects) ++ l.script printConfig ctx) .reset).1
        ≠ .error .nullItem := play_ne_nullItem_of_le
  rcases l with ⟨warning, nonce, fee, pattern⟩
  cases pattern with
  | createStakeAccountWithSeed cws si =>
      rw [play_nullItem_iff_of_unchecked (unchecked_print rfl (by simp) (by simp))]
      simp [Layout.HasRoom, Pattern.print, printCreateStakeAccountWithSeed]
  | createStakeAccountAndDelegate ca si sd =>
      rw [play_nullItem_iff_of_unchecked (unchecked_print rfl (by simp) (by simp))]
      simp [Layout.HasRoom, Pattern.print, printCreateStakeAccountAndDelegate, Script.itemAt,
        Nat.add_assoc]
  | createStakeAccountWithSeedAndDelegate cws si sd =>
      rw [play_nullItem_iff_of_unchecked (unchecked_print rfl (by simp) (by simp))]
      simp [Layout.HasRoom, Pattern.print, printCreateStakeAccountWithSeedAndDelegate,
        Script.itemAt, Nat.add_assoc]
  | agenc index info =>
      rcases info with ⟨programId, body⟩
      cases body with
      | createTask task =>
          have hprint : (Pattern.agenc index ⟨programId, .createTask task⟩).print printConfig ctx
              = setPrimaryAction (.lit "Create task") ++ printCreateTaskFields programId task := rfl
          rw [play_nullItem_iff_of_checked]
          · simp [Layout.HasRoom, hprint]
          · simp [hprint, checked_printCreateTaskFields]
          · simp [hprint, setPrimaryAction, fail_notMem_printCreateTaskFields]
      | _ => simpa [Layout.HasRoom] using hnot (generalCount_print_le _ _ rfl)
  | agencCreateTaskWithReview create configure =>
      rcases create with ⟨id, create⟩
      rcases configure with ⟨id', configure⟩
      by_cases hbody : ∃ task validation, create = .createTask task ∧
          configure = .configureTaskValidation validation
      · obtain ⟨task, validation, rfl, rfl⟩ := hbody
        have hprint := printAgencCreateTaskWithReviewInfo_eq id id' task validation
        cases hreview : standardReview task validation with
        | false =>
            rw [hreview, if_neg (by simp)] at hprint
            have hcount := hnot (by simp [Pattern.print, hprint, Script.itemAt])
            simpa [Layout.HasRoom, hreview] using hcount
        | true =>
            rw [hreview, if_pos rfl] at hprint
            rw [play_nullItem_iff_of_checked]
            · simp [Layout.HasRoom, Pattern.print, hprint, hreview]
            · simp [Pattern.print, hprint, checked_printCreateTaskFields]
            · simp [Pattern.print, hprint, setPrimaryAction, setGeneral,
                fail_notMem_printCreateTaskFields]
      · -- not a pair that `recognise` makes
        have hprint : printAgencCreateTaskWithReviewInfo ⟨id, create⟩ ⟨id', configure⟩
          = [.fail] := by
          unfold printAgencCreateTaskWithReviewInfo
          split
          · rename_i hcreate hconfigure
            exact absurd ⟨_, _, hcreate, hconfigure⟩ hbody
          · rfl
        have hroom : Layout.HasRoom printConfig
            ⟨warning, nonce, fee, .agencCreateTaskWithReview ⟨id, create⟩ ⟨id', configure⟩⟩ := by
          unfold Layout.HasRoom
          split <;> simp_all
        simpa [hroom] using hnot (by simp [Pattern.print, hprint, Script.itemAt])
  | _ => simpa [Layout.HasRoom] using hnot (generalCount_print_le _ _ rfl)

end

/-- Without a layout the printer bails out after the head of the review, which fits. -/
theorem play_reviewHead_fail_ne_nullItem (printConfig : PrintConfig)
    (parsed : List ParsedInstruction) (warning : Bool) (nonce : Option SystemAdvanceNonceInfo) :
    (Script.play (reviewHead printConfig parsed warning nonce ++ [.fail]) .reset).1
      ≠ .error .nullItem :=
  Script.play_ne_nullItem_of_room
    ((fits_reviewHead_iff Script.onePrimary_fail).mpr (by cases warning <;> decide))

/-- **`process_message_body` hands no `NULL` item to a setter exactly when the layout of the message
has room**: always, but for a stake account created with a seed or with its delegation that asks
for more than the eleven slots, and for a task that leaves none of them to the fee. -/
theorem not_fillsNullItem_iff (ctx : TokenContext) (messageBody : Parser)
    (printConfig : PrintConfig) :
    ¬FillsNullItem ctx messageBody printConfig ↔
      ∀ parsed l, parseMessageBody ctx messageBody printConfig.header = (parsed, .ok ()) →
        layout parsed = some l → l.HasRoom printConfig := by
  unfold FillsNullItem messageBodyScript
  rcases hparse : parseMessageBody ctx messageBody printConfig.header with ⟨parsed, stop | u⟩
  · refine iff_of_true (Script.play_ne_nullItem_of_room fun slot => ?_) (fun _ _ h => ?_)
    · simp [(parseEffects_quiet parsed).2]
    · cases (Prod.ext_iff.mp h).2
  · simp only [printMessageBody_eq]
    rcases hl : layout parsed with _ | l
    · have hnull := play_reviewHead_fail_ne_nullItem printConfig parsed
        (generateExtensionWarning parsed) (splitNonce (displayInstructionInfo parsed)).1
      rw [reviewHead, List.append_assoc] at hnull
      refine iff_of_true hnull fun parsed' l h hl' => ?_
      obtain rfl : parsed = parsed' := congrArg Prod.fst h
      rw [hl] at hl'
      cases hl'
    · rw [play_script_nullItem_iff, not_not]
      constructor
      · rintro hroom parsed' l' h hl'
        obtain rfl : parsed = parsed' := congrArg Prod.fst h
        obtain rfl : l = l' := Option.some.inj (hl.symm.trans hl')
        exact hroom
      · exact fun h => h parsed l rfl hl

/-! ## A message that runs out of slots -/

/-- The keys of the three programs of the message. -/
def crowdedHeader : MessageHeader where
  versioned := false
  version := 0
  pubkeysHeader := ⟨1, 0, 0, 3⟩
  pubkeys := [⟨4, systemProgramId⟩, ⟨36, stakeProgramId⟩, ⟨68, computeBudgetProgramId⟩]
  blockhash := ⟨100, Block.zero 32⟩
  instructionsLength := 4
  size := rfl

/-- A compute budget price; a stake account created with a seed, initialized with a lockup in both
time and epochs, and delegated. -/
def crowdedBody : Parser :=
  let key : UInt8 → List UInt8 := fun b => List.replicate 32 b
  let u64 : UInt8 → List UInt8 := fun b => b :: List.replicate 7 0
  ⟨133, [2, 0, 9, 3] ++ u64 1
    ++ [0, 2, 0, 0, 93, 3, 0, 0, 0] ++ key 9 ++ u64 1 ++ [65] ++ u64 5 ++ u64 200 ++ key 9
    ++ [1, 2, 0, 0, 116, 0, 0, 0, 0] ++ key 1 ++ key 2 ++ u64 7 ++ u64 7 ++ key 3
    ++ [1, 6, 0, 0, 0, 0, 0, 0, 4, 2, 0, 0, 0]⟩

/-- **In expert mode the fee of that message fills a `NULL` item.** -/
theorem crowded_fillsNullItem :
    FillsNullItem emptyContext crowdedBody
      ⟨crowdedHeader, true, false, false, ⟨4, systemProgramId⟩⟩ := by
  unfold FillsNullItem
  decide +kernel

end AgencLedger
