import AgencLedger.Review.Body

/-!
# Review/DeadStorage — what the items of a review point to

An item that points into the record of an instruction reads, once `process_message_body` has
returned, whatever the stack holds there.  One printer sets such an item: the artifact hash of a
submitted result.
-/

namespace AgencLedger

/-! ## Items that last -/

/-- The value does not point into a record. -/
def SummaryValue.Lasting : SummaryValue → Prop
  | .hash (.record _) => False
  | _ => True

namespace Script

/-- No item of the script points into a record. -/
def Lasting (script : Script) : Prop := ∀ slot, ∀ item ∈ items slot script, item.value.Lasting

variable {a b : Script}

@[simp] theorem lasting_nil : Lasting [] := fun slot item h => by simp at h

@[simp] theorem lasting_append : Lasting (a ++ b) ↔ Lasting a ∧ Lasting b := by
  simp only [Lasting, items_append, List.mem_append]
  exact ⟨fun h => ⟨fun slot item hi => h slot item (.inl hi), fun slot item hi =>
    h slot item (.inr hi)⟩, fun h slot item hi => hi.elim (h.1 slot item) (h.2 slot item)⟩

@[simp] theorem lasting_cons {e : Effect} :
    Lasting (e :: a) ↔ (∀ slot, ∀ item ∈ itemAt slot e, item.value.Lasting) ∧ Lasting a := by
  simp only [Lasting, items_cons, List.mem_append]
  exact ⟨fun h => ⟨fun slot item hi => h slot item (.inl hi), fun slot item hi =>
    h slot item (.inr hi)⟩, fun h slot item hi => hi.elim (h.1 slot item) (h.2 slot item)⟩

@[simp] theorem lasting_ite {c : Prop} [Decidable c] :
    Lasting (if c then a else b) ↔ (c → Lasting a) ∧ (¬c → Lasting b) := by
  split <;> simp_all

@[simp] theorem lasting_primary {title : String} {value : SummaryValue} :
    Lasting (primary title value) ↔ value.Lasting := by
  simp [Lasting]

@[simp] theorem lasting_general {title : String} {value : SummaryValue} :
    Lasting (general title value) ↔ value.Lasting := by
  simp [Lasting]

@[simp] theorem lasting_setGeneral {title : String} {value : SummaryValue} :
    Lasting (setGeneral title value) ↔ value.Lasting := by
  simp [setGeneral, itemAt]

@[simp] theorem lasting_setPrimaryAction (action : CString) :
    Lasting (setPrimaryAction action) := by
  simp [setPrimaryAction, itemAt, SummaryValue.Lasting]

/-- A script cut short has no other items. -/
theorem Lasting.of_isPrefix (h : Lasting b) (hab : a <+: b) : Lasting a := by
  obtain ⟨rest, rfl⟩ := hab
  exact (lasting_append.mp h).1

end Script

/-! ## The printers -/

attribute [local simp] SummaryValue.Lasting

section

variable (printConfig : PrintConfig)

@[simp] theorem lasting_generalAuthority (title : String) (authority : Ptr Pubkey) :
    (generalAuthority printConfig title authority).Lasting := by
  simp [generalAuthority]

@[simp] theorem lasting_primaryIfTitled (primaryTitle : Option String) (key : Ptr Pubkey) :
    (primaryIfTitled primaryTitle (.pubkey key)).Lasting := by
  cases primaryTitle <;> simp [primaryIfTitled]

@[simp] theorem lasting_seedItems (base : Ptr Pubkey) (seed : SizedString) :
    (seedItems printConfig base seed).Lasting := by
  simp [seedItems]

@[simp] theorem lasting_printSystemCreateAccountInfo (primaryTitle : Option String)
    (info : SystemCreateAccountInfo) (displayOwner : Bool) :
    (printSystemCreateAccountInfo primaryTitle info printConfig displayOwner).Lasting := by
  simp [printSystemCreateAccountInfo, ownerItems]

@[simp] theorem lasting_printSystemCreateAccountWithSeedInfo (primaryTitle : Option String)
    (info : SystemCreateAccountWithSeedInfo) (displayOwner : Bool) :
    (printSystemCreateAccountWithSeedInfo primaryTitle info printConfig displayOwner).Lasting := by
  simp [printSystemCreateAccountWithSeedInfo, ownerItems]

@[simp] theorem lasting_printSystemInitializeNonceInfo (primaryTitle : Option String)
    (info : SystemInitializeNonceInfo) :
    (printSystemInitializeNonceInfo primaryTitle info).Lasting := by
  simp [printSystemInitializeNonceInfo]

@[simp] theorem lasting_printSystemPrefundForSplit (info : SystemTransferInfo) :
    (printSystemPrefundForSplit info printConfig).Lasting := by
  simp [printSystemPrefundForSplit]

@[simp] theorem lasting_printSystemInfo (info : SystemInfo) :
    (printSystemInfo info printConfig).Lasting := by
  cases info <;>
    simp [printSystemInfo, printSystemTransferInfo, printSystemAdvanceNonceAccount,
      printSystemWithdrawNonceInfo, printSystemAuthorizeNonceInfo, printSystemAssignInfo,
      printSystemAllocateInfo, printSystemAllocateWithSeedInfo, Script.itemAt]

@[simp] theorem lasting_printSystemNoncedTransactionSentinel (info : SystemAdvanceNonceInfo) :
    (printSystemNoncedTransactionSentinel info printConfig).Lasting := by
  simp +contextual [printSystemNoncedTransactionSentinel, Script.itemAt]

theorem lasting_voteAccountValue (sdk : Sdk) (votePubkey : Ptr Pubkey) :
    (voteAccountValue sdk votePubkey).Lasting := by
  unfold voteAccountValue
  split
  · simp
  · split <;> simp

@[simp] theorem lasting_printDelegateStakeInfo (sdk : Sdk) (primaryTitle : Option String)
    (info : StakeDelegateInfo) :
    (printDelegateStakeInfo sdk primaryTitle info printConfig).Lasting := by
  simp only [printDelegateStakeInfo, Script.lasting_append, lasting_primaryIfTitled,
    lasting_generalAuthority, Script.lasting_general, lasting_voteAccountValue, and_self]

@[simp] theorem lasting_printStakeInitializeInfo (primaryTitle : Option String)
    (info : StakeInitializeInfo) :
    (printStakeInitializeInfo primaryTitle info printConfig).Lasting := by
  cases h : info.lockup <;>
    simp [printStakeInitializeInfo, stakeAuthorityItems, stakeLockupItems, h]

@[simp] theorem lasting_printStakeSplitInfo1 (info : StakeSplitInfo) :
    (printStakeSplitInfo1 info).Lasting := by
  simp [printStakeSplitInfo1]

@[simp] theorem lasting_printStakeSplitInfo2 (info : StakeSplitInfo) :
    (printStakeSplitInfo2 info printConfig).Lasting := by
  simp [printStakeSplitInfo2]

@[simp] theorem lasting_printStakeSplitInfo (info : StakeSplitInfo) :
    (printStakeSplitInfo info printConfig).Lasting := by
  simp [printStakeSplitInfo]

@[simp] theorem lasting_printStakeAuthorizeInfo (info : StakeAuthorizeInfo) :
    (printStakeAuthorizeInfo info printConfig).Lasting := by
  cases h : info.custodian <;> simp [printStakeAuthorizeInfo, custodianItem, h]

@[simp] theorem lasting_printStakeSetLockupInfo (info : StakeSetLockupInfo) :
    (printStakeSetLockupInfo info printConfig).Lasting := by
  cases ht : info.lockup.unixTimestamp <;> cases he : info.lockup.epoch <;>
    cases hc : info.lockup.custodian <;> simp [printStakeSetLockupInfo, ht, he, hc]

@[simp] theorem lasting_printStakeInfo (sdk : Sdk) (info : StakeInfo) :
    (printStakeInfo sdk info printConfig).Lasting := by
  cases info <;>
    simp [printStakeInfo, printStakeWithdrawInfo, printStakeDeactivateInfo, printStakeMergeInfo]

@[simp] theorem lasting_printVoteInitializeInfo (primaryTitle : Option String)
    (info : VoteInitializeInfo) : (printVoteInitializeInfo primaryTitle info).Lasting := by
  simp [printVoteInitializeInfo]

@[simp] theorem lasting_printVoteInfo (info : VoteInfo) :
    (printVoteInfo info printConfig).Lasting := by
  cases info <;>
    simp [printVoteInfo, printVoteWithdrawInfo, printVoteAuthorizeInfo,
      printVoteUpdateValidatorIdInfo, printVoteUpdateCommissionInfo]

@[simp] theorem lasting_summaryItemSetMultisigMOfN (m n : UInt8) :
    (summaryItemSetMultisigMOfN m n).Lasting := by
  unfold summaryItemSetMultisigMOfN
  split <;> simp

@[simp] theorem lasting_printSplTokenSign (sign : SplTokenSign) :
    (printSplTokenSign sign printConfig).Lasting := by
  cases sign <;> simp [printSplTokenSign]

@[simp] theorem lasting_printSplTokenTransferInfo (ctx : TokenContext) (info : SplTokenTransferInfo)
    (isToken2022Kind isPrimary : Bool) :
    (printSplTokenTransferInfo ctx info printConfig isToken2022Kind isPrimary).Lasting := by
  have hto : (transferToItem ctx).Lasting := by
    unfold transferToItem
    split <;> simp [Script.itemAt]
  have hfee : ∀ symbol, (transferFeeItem info symbol).Lasting := fun symbol => by
    unfold transferFeeItem
    split <;> simp
  simp [printSplTokenTransferInfo, hto, hfee, Script.itemAt]

@[simp] theorem lasting_printSplTokenInfo (ctx : TokenContext) (info : SplTokenInfo) :
    (printSplTokenInfo ctx info printConfig).Lasting := by
  rcases info with ⟨isToken2022Kind, warning, body⟩
  cases body
  case initializeMint info =>
    cases h : info.freezeAuthority <;> simp [printSplTokenInfo, printSplTokenInitializeMintInfo, h]
  case setAuthority info =>
    cases h : info.newAuthority <;> simp [printSplTokenInfo, printSplTokenSetAuthorityInfo, h]
  all_goals
    simp [printSplTokenInfo, printSplTokenInitializeAccountInfo,
      printSplTokenInitializeMultisigInfo, printSplTokenApproveInfo, printSplTokenRevokeInfo,
      printSplTokenMintToInfo, printSplTokenBurnInfo, printSplTokenCloseAccountInfo,
      printSplTokenFreezeAccountInfo, printSplTokenThawAccountInfo, printSplTokenSyncNativeInfo,
      Script.itemAt]

end

@[simp] theorem lasting_printCreateTaskFields (programId : Ptr Pubkey)
    (info : AgencCreateTaskInfo) : (printCreateTaskFields programId info).Lasting := by
  cases h : info.rewardMint <;> simp [printCreateTaskFields, h]

/-- A result submission whose result data named an artifact. -/
def AgencBody.hasArtifactHash : AgencBody → Bool
  | .submitTaskResult info => info.artifactHash.isSome
  | _ => false

/-- **Only the artifact hash of a result points into a record.** -/
theorem lasting_printAgencInfo {index : ℕ} {info : AgencInfo}
    (h : info.body.hasArtifactHash = false) : (printAgencInfo index info).Lasting := by
  rcases info with ⟨programId, body⟩
  cases body
  case registerAgent info =>
    cases h : info.metadataUri <;> simp [printAgencInfo, printAgencRegisterAgentInfo, h]
  case configureTaskValidation info =>
    cases h : info.attestor <;> simp [printAgencInfo, printAgencConfigureTaskValidationInfo, h]
  case submitTaskResult info =>
    have hnone : info.artifactHash.isSome = false := h
    simp [printAgencInfo, printAgencSubmitTaskResultInfo, hnone]
  all_goals
    simp [printAgencInfo, printAgencCreateTaskInfo, printAgencSetTaskJobSpecInfo,
      printAgencClaimTaskWithJobSpecInfo, printAgencAcceptTaskResultInfo,
      printAgencRejectTaskResultInfo, printAgencCancelTaskInfo, printAgencExpireClaimInfo]

/-- The pattern is such a submission. -/
def Pattern.hasArtifactHash : Pattern → Bool
  | .agenc _ info => info.body.hasArtifactHash
  | _ => false

theorem lasting_print {printConfig : PrintConfig} {ctx : TokenContext} {pattern : Pattern}
    (h : pattern.hasArtifactHash = false) : (pattern.print printConfig ctx).Lasting := by
  cases pattern
  case agenc index info => exact lasting_printAgencInfo h
  case splAssociatedTokenAccountCreateWithTransfer create isToken2022Kind transfer =>
    exact Script.Lasting.of_isPrefix
      (lasting_printSplTokenTransferInfo printConfig ctx transfer isToken2022Kind true)
      (List.takeWhile_prefix _)
  case agencCreateTaskWithReview create configure =>
    simp only [Pattern.print, printAgencCreateTaskWithReviewInfo]
    split
    · simp [Script.itemAt]
    · simp [Script.itemAt]
  case stakeAuthorizeBoth staker withdrawer =>
    cases h : withdrawer.custodian <;>
      simp [Pattern.print, printStakeAuthorizeBoth, newAuthorityItems, Script.itemAt, h]
  case splTokenCreateMint ca im =>
    cases h : im.freezeAuthority <;> simp [Pattern.print, printSplTokenCreateMint, h]
  all_goals
    simp [Pattern.print, printSplAssociatedTokenAccountInfo,
      printSplAssociatedTokenAccountCreateInfo, printCreateStakeAccount,
      printCreateStakeAccountWithSeed, printCreateNonceAccount, printCreateNonceAccountWithSeed,
      printCreateVoteAccount, printCreateVoteAccountWithSeed, printVoteAuthorizeBoth,
      newAuthorityItems, printStakeSplitWithSeed, printSplTokenCreateAccount,
      printSplTokenCreateMultisig, printCreateStakeAccountAndDelegate,
      printCreateStakeAccountWithSeedAndDelegate, printPrefundedSplit,
      printPrefundedSplitWithSeed, Script.itemAt]

/-- **The review of any other pattern lasts.** -/
theorem lasting_script {printConfig : PrintConfig} {ctx : TokenContext} {l : Layout}
    (h : l.pattern.hasArtifactHash = false) : (l.script printConfig ctx).Lasting := by
  cases hn : l.nonce <;>
    simp [Layout.script, headItems, printSplTokenExtensionWarning, printComputeBudgetMaxFee,
      lasting_print h, hn]

/-! ## Displaying -/

/-- A value that lasts is printed alike over any dead frame. -/
theorem print_eq_of_lasting {value : SummaryValue} (h : value.Lasting) (f g : ℕ → Hash)
    (longPubkeys : Bool) : value.print f longPubkeys = value.print g longPubkeys := by
  cases value with
  | hash ref => cases ref with
      | record index => exact absurd h (by simp)
      | _ => rfl
  | _ => rfl

theorem displayItem_eq_of_lasting {s : TransactionSummary}
    (h : ∀ item ∈ s.usedItems, item.value.Lasting) (f g : ℕ → Hash) (i : ℕ) (longPubkeys : Bool)
    (buffers : DisplayBuffers) :
    displayItem f s i longPubkeys buffers = displayItem g s i longPubkeys buffers := by
  unfold displayItem
  cases hi : s.slots[i]? with
  | none => rfl
  | some slot => cases slot with
      | none => rfl
      | some item =>
          have hitem := h item (TransactionSummary.mem_usedItems_of_mem_slots
            (List.mem_of_getElem? hi))
          simp only [updateDisplayForItem, print_eq_of_lasting hitem f g]

theorem displayAll_eq_of_lasting {s : TransactionSummary}
    (h : ∀ item ∈ s.usedItems, item.value.Lasting) (f g : ℕ → Hash) (longPubkeys : Bool)
    (indices : List ℕ) (buffers : DisplayBuffers) :
    displayAll f s longPubkeys indices buffers = displayAll g s longPubkeys indices buffers := by
  induction indices generalizing buffers with
  | nil => rfl
  | cons i indices ih => simp only [displayAll, displayItem_eq_of_lasting h f g, ih]

/-- **A hash item shows what its pointer reads.** -/
theorem getElem?_displayAll_hash {s : TransactionSummary} {i : ℕ} {title : String} {ref : HashRef}
    (h : s.slots[i]? = some (some ⟨title, .hash ref⟩)) (frame : ℕ → Hash) (longPubkeys : Bool)
    {indices : List ℕ} {k : ℕ} (hk : indices[k]? = some i) (buffers : DisplayBuffers) :
    ((displayAll frame s longPubkeys indices buffers)[k]?).map Prod.snd
      = some (base58Numeral (ref.read frame).data) := by
  obtain ⟨before, hget⟩ := getElem?_displayAll frame s longPubkeys hk buffers
  obtain ⟨hret, htext⟩ := printBase58_block (ref.read frame)
  simp only [hget, displayItem, h, updateDisplayForItem, SummaryValue.print, hret, Option.map_some,
    htext]

/-! ## Which messages last -/

/-- The record of an AgenC instruction is what its parser makes of it. -/
def Instruction.IsAgenc (header : MessageHeader) (instruction : Instruction) (info : AgencInfo) :
    Prop :=
  instructionProgramId instruction header = .ok .agenc ∧
    parseAgencInstructions instruction header = .ok info

/-- The instruction is an AgenC result submission whose result data names an artifact. -/
def SubmitsArtifact (header : MessageHeader) (instruction : Instruction) : Prop :=
  instructionProgramId instruction header = .ok .agenc ∧
    ∃ info, parseAgencInstructions instruction header = .ok info ∧
      info.body.hasArtifactHash = true

/-- **The AgenC records that a pattern is recognised from** are those of the message's AgenC
instructions. -/
theorem exists_core_agenc {ctx : TokenContext} {messageBody : Parser} {header : MessageHeader}
    {parsed : List ParsedInstruction} {l : Layout}
    (hparsed : parseMessageBody ctx messageBody header = (parsed, .ok ()))
    (hl : layout parsed = some l) :
    ∃ core, recognise core = some l.pattern ∧ ∀ info, (∃ index, .agenc index info ∈ core) ↔
      ∃ instruction ∈ bodyInstructions header header.instructionsLength messageBody,
        instruction.IsAgenc header info := by
  obtain ⟨core, hcore, hdisplayed, hall⟩ := core_of_layout hl
  refine ⟨core, hcore, fun info => ⟨?_, ?_⟩⟩
  · rintro ⟨index, hmem⟩
    obtain ⟨q, hq, -, hqinfo⟩ := hdisplayed _ hmem
    have hq' : q ∈ (parseMessageBody ctx messageBody header).1 := by rwa [hparsed]
    obtain ⟨-, -, i, hfrom⟩ := parsedFrom_of_mem hq'
    rw [hqinfo] at hfrom
    rw [← map_instruction_parseMessageBody hparsed]
    exact ⟨q.instruction, List.mem_map_of_mem hq, hfrom.1, hfrom.2.2.2⟩
  · rintro ⟨instruction, hins, hprogram, hparse⟩
    obtain ⟨q, hq, rfl, hne, index, hfrom⟩ := exists_parsed_of_mem hparsed hins
    obtain ⟨hqinfo, hignored⟩ : q.info = .agenc index info ∧ q.ignored = false := by
      cases hk : q.info with
      | unknown => exact absurd hk hne
      | agenc index' info' =>
          rw [hk] at hfrom
          obtain ⟨-, hignored, rfl, hinfo⟩ := hfrom
          obtain rfl : info' = info := Except.ok.inj (hinfo.symm.trans hparse)
          exact ⟨rfl, hignored⟩
      | _ =>
          rw [hk] at hfrom
          exact absurd (hprogram.symm.trans hfrom.1) (by simp)
    have hmem := hall q hq hignored (by rw [hqinfo]; rfl)
    simp only [hqinfo, reduceCtorEq, exists_false, or_false] at hmem
    exact ⟨index, hmem⟩

/-- A submitted result that takes part in a pattern is the pattern. -/
theorem recognise_submitTaskResult {core : List InstructionInfo} {pattern : Pattern} {index : ℕ}
    {programId : Ptr Pubkey} {info : AgencSubmitTaskResultInfo}
    (hmem : .agenc index ⟨programId, .submitTaskResult info⟩ ∈ core)
    (h : recognise core = some pattern) :
    pattern = .agenc index ⟨programId, .submitTaskResult info⟩ := by
  unfold recognise at h
  split at h
  · simp only [List.mem_singleton] at hmem
    subst hmem
    cases h
    rfl
  · unfold recogniseTwo at h
    split at h <;> simp_all
  · unfold recogniseThree at h
    split at h <;> simp_all
  · unfold recogniseFour at h
    split at h <;> simp_all
  · cases h

/-- So it is if it names an artifact. -/
theorem recognise_submission {core : List InstructionInfo} {pattern : Pattern} {index : ℕ}
    {info : AgencInfo} (hmem : .agenc index info ∈ core) (hinfo : info.body.hasArtifactHash = true)
    (h : recognise core = some pattern) : pattern = .agenc index info := by
  rcases info with ⟨programId, body⟩
  cases body
  case submitTaskResult body => exact recognise_submitTaskResult hmem h
  all_goals cases hinfo

/-- A pattern that is a submission comes from its only instruction. -/
theorem recognise_eq_agenc {core : List InstructionInfo} {index : ℕ} {info : AgencInfo}
    (h : recognise core = some (.agenc index info)) : core = [.agenc index info] := by
  unfold recognise at h
  split at h
  · unfold recogniseOne at h
    split at h <;> simp_all
  · unfold recogniseTwo at h
    split at h <;> simp_all
  · unfold recogniseThree at h
    split at h <;> simp_all
  · unfold recogniseFour at h
    split at h <;> simp_all
  · cases h

/-- **A layout shows an artifact hash exactly for a message that submits one.** -/
theorem hasArtifactHash_iff {ctx : TokenContext} {messageBody : Parser} {header : MessageHeader}
    {parsed : List ParsedInstruction} {l : Layout}
    (hparsed : parseMessageBody ctx messageBody header = (parsed, .ok ()))
    (hl : layout parsed = some l) :
    l.pattern.hasArtifactHash = true ↔
      ∃ instruction ∈ bodyInstructions header header.instructionsLength messageBody,
        SubmitsArtifact header instruction := by
  obtain ⟨core, hcore, hagenc⟩ := exists_core_agenc hparsed hl
  constructor
  · intro h
    obtain ⟨index, info, hpattern, hinfo⟩ : ∃ index info, l.pattern = .agenc index info ∧
        info.body.hasArtifactHash = true := by
      cases hp : l.pattern <;> rw [hp] at h <;> first | exact ⟨_, _, rfl, h⟩ | cases h
    rw [hpattern] at hcore
    have hmem : .agenc index info ∈ core := by
      rw [recognise_eq_agenc hcore]
      exact List.mem_singleton_self _
    obtain ⟨instruction, hins, hprogram, hparse⟩ := (hagenc info).mp ⟨index, hmem⟩
    exact ⟨instruction, hins, hprogram, info, hparse, hinfo⟩
  · rintro ⟨instruction, hins, hprogram, info, hparse, hart⟩
    obtain ⟨index, hmem⟩ := (hagenc info).mpr ⟨instruction, hins, hprogram, hparse⟩
    rw [recognise_submission hmem hart hcore]
    exact hart

/-! ## The review and dead storage -/

/-- The item that reads a record. -/
theorem artifact_item_mem (printConfig : PrintConfig) (ctx : TokenContext) {pattern : Pattern}
    (h : pattern.hasArtifactHash = true) :
    (∃ item, Script.items .primary (pattern.print printConfig ctx) = [item]) ∧
      ∃ index, ⟨"Artifact SHA-256", .hash (.record index)⟩ ∈
        Script.items .general (pattern.print printConfig ctx) := by
  cases pattern <;> try cases h
  rename_i index info
  rcases info with ⟨programId, body⟩
  cases body <;> try cases h
  rename_i body
  have hsome : body.artifactHash.isSome = true := h
  simp [Pattern.print, printAgencInfo, printAgencSubmitTaskResultInfo, hsome, setPrimaryAction,
    setGeneral, Script.itemAt]

/-- A hash that is not zero. -/
def nonzeroHash : Hash := Block.ofBytes 32 [1]

theorem base58Numeral_zero_ne :
    base58Numeral (Block.zero 32).data ≠ base58Numeral nonzeroHash.data := fun h =>
  absurd (@eq_of_base58Numeral_eq (Block.zero 32).data nonzeroHash.data rfl h) (by decide)

/-- Two frames show an artifact hash differently. -/
theorem displayAll_ne_of_artifact {ctx : TokenContext} {messageBody : Parser}
    {printConfig : PrintConfig} {s : TransactionSummary} {parsed : List ParsedInstruction}
    {l : Layout} (h : processMessageBody ctx messageBody printConfig .reset = (.ok (), s))
    (hparsed : parseMessageBody ctx messageBody printConfig.header = (parsed, .ok ()))
    (hl : layout parsed = some l) (hart : l.pattern.hasArtifactHash = true) (longPubkeys : Bool)
    (buffers : DisplayBuffers) :
    displayAll (fun _ => Block.zero 32) s longPubkeys (List.range s.usedItems.length) buffers
      ≠ displayAll (fun _ => nonzeroHash) s longPubkeys (List.range s.usedItems.length)
        buffers := by
  intro hsame
  obtain ⟨parsed', l', hparsed', hl', -, hitems⟩ := processMessageBody_ok h
  obtain rfl : parsed = parsed' := congrArg Prod.fst (hparsed.symm.trans hparsed')
  obtain rfl : l = l' := Option.some.inj (hl.symm.trans hl')
  simp only [TransactionSummary.itemsOf_reset, List.nil_append] at hitems
  obtain ⟨⟨first, hfirst⟩, index, hitem⟩ := artifact_item_mem printConfig ctx hart
  have hprimary : s.primary.isSome := by
    have hmem : first ∈ s.itemsOf .primary := by
      rw [hitems, Layout.script, Script.items_append, Script.items_append, hfirst]
      simp
    exact Option.isSome_of_mem (Option.mem_toList.mp hmem)
  have hused : ⟨"Artifact SHA-256", .hash (.record index)⟩ ∈ s.usedItems :=
    TransactionSummary.mem_usedItems.mpr ⟨.general, by
      rw [hitems, Layout.script, Script.items_append, Script.items_append]
      simp [hitem]⟩
  obtain ⟨k, hk⟩ := List.getElem?_of_mem hused
  have hrange := List.getElem?_range (List.getElem?_eq_some_iff.mp hk).1
  have hslot := TransactionSummary.getElem?_slots hprimary hk
  have hshow := congrArg (fun shown => (shown[k]?).map Prod.snd) hsame
  simp only [getElem?_displayAll_hash hslot _ _ hrange, HashRef.read, Option.some.injEq] at hshow
  exact absurd hshow base58Numeral_zero_ne

/-- **The items of an accepted message last** if it submits no artifact. -/
theorem lasting_usedItems {ctx : TokenContext} {messageBody : Parser} {printConfig : PrintConfig}
    {s : TransactionSummary}
    (h : processMessageBody ctx messageBody printConfig .reset = (.ok (), s))
    (hnone : ∀ instruction ∈ bodyInstructions printConfig.header
      printConfig.header.instructionsLength messageBody,
      ¬SubmitsArtifact printConfig.header instruction) :
    ∀ item ∈ s.usedItems, item.value.Lasting := by
  obtain ⟨parsed, l, hparsed, hl, -, hitems⟩ := processMessageBody_ok h
  have hart : l.pattern.hasArtifactHash = false := by
    rw [Bool.eq_false_iff, ne_eq, hasArtifactHash_iff hparsed hl]
    rintro ⟨instruction, hins, hsub⟩
    exact hnone instruction hins hsub
  intro item hitem
  obtain ⟨slot, hslot⟩ := TransactionSummary.mem_usedItems.mp hitem
  rw [hitems slot, TransactionSummary.itemsOf_reset, List.nil_append] at hslot
  exact lasting_script hart slot item hslot

/-- **The review of an accepted message is independent of dead storage exactly when the message
submits no artifact.** -/
theorem review_independent_of_frame_iff {ctx : TokenContext} {messageBody : Parser}
    {printConfig : PrintConfig} {s : TransactionSummary}
    (h : processMessageBody ctx messageBody printConfig .reset = (.ok (), s)) :
    (∀ (f g : ℕ → Hash) (longPubkeys : Bool) (buffers : DisplayBuffers),
        displayAll f s longPubkeys (List.range s.usedItems.length) buffers
          = displayAll g s longPubkeys (List.range s.usedItems.length) buffers) ↔
      ∀ instruction ∈ bodyInstructions printConfig.header printConfig.header.instructionsLength
          messageBody, ¬SubmitsArtifact printConfig.header instruction := by
  constructor
  · intro hall instruction hins hsub
    obtain ⟨parsed, l, hparsed, hl, -, -⟩ := processMessageBody_ok h
    exact displayAll_ne_of_artifact h hparsed hl
      ((hasArtifactHash_iff hparsed hl).mpr ⟨instruction, hins, hsub⟩) false .reset
      (hall _ _ false .reset)
  · intro hnone f g longPubkeys buffers
    exact displayAll_eq_of_lasting (lasting_usedItems h hnone) f g longPubkeys _ buffers

/-! ## A submitted artifact -/

/-- A message header with the keys of the System program and of AgenC. -/
def submissionHeader : MessageHeader where
  versioned := false
  version := 0
  pubkeysHeader := ⟨1, 0, 0, 2⟩
  pubkeys := [⟨4, systemProgramId⟩, ⟨36, agencArtifactProgramId⟩]
  blockhash := ⟨68, Block.zero 32⟩
  instructionsLength := 1
  size := rfl

/-- A submission whose result data is `text`. -/
def submissionBody (text : List UInt8) : Parser :=
  ⟨101, [1, 8] ++ List.replicate 8 0 ++ [105]
    ++ [0x27, 0x6c, 0x4a, 0x04, 0x42, 0x7d, 0x9d, 0x07] ++ List.replicate 32 7 ++ [1]
    ++ text.takeD 64 0⟩

/-- The result data that names the artifact with the zero hash. -/
def artifactText : List UInt8 := agencArtifactResultPrefix ++ List.replicate 43 65

/-- The summary of a submission. -/
def submissionReview (text : List UInt8) : Result Unit × TransactionSummary :=
  processMessageBody emptyContext (submissionBody text)
    (plainConfig submissionHeader ⟨4, systemProgramId⟩) .reset

theorem submissionReview_plain_ok : (submissionReview []).1 = .ok () := by
  decide +kernel

theorem submissionReview_plain : submissionReview [] = (.ok (), (submissionReview []).2) := by
  rw [← submissionReview_plain_ok]

/-- The theorem on a submission without an artifact. -/
theorem review_independent_of_frame_plain :
    (∀ (f g : ℕ → Hash) (longPubkeys : Bool) (buffers : DisplayBuffers),
        displayAll f (submissionReview []).2 longPubkeys
            (List.range (submissionReview []).2.usedItems.length) buffers
          = displayAll g (submissionReview []).2 longPubkeys
            (List.range (submissionReview []).2.usedItems.length) buffers) ↔
      ∀ instruction ∈ bodyInstructions submissionHeader 1 (submissionBody []),
        ¬SubmitsArtifact submissionHeader instruction :=
  @review_independent_of_frame_iff emptyContext (submissionBody [])
    (plainConfig submissionHeader ⟨4, systemProgramId⟩) (submissionReview []).2
    submissionReview_plain

/-- **The review of a submitted artifact depends on dead storage**, although the message is
accepted. -/
theorem artifact_review_depends_on_frame :
    (submissionReview artifactText).1 = .ok () ∧
      ¬∀ (f g : ℕ → Hash) (longPubkeys : Bool) (buffers : DisplayBuffers),
        displayAll f (submissionReview artifactText).2 longPubkeys
            (List.range (submissionReview artifactText).2.usedItems.length) buffers
          = displayAll g (submissionReview artifactText).2 longPubkeys
            (List.range (submissionReview artifactText).2.usedItems.length) buffers := by
  have hreview : (submissionReview artifactText).1 = .ok () := by decide +kernel
  have hne : displayAll (fun _ => Block.zero 32) (submissionReview artifactText).2 false
        (List.range (submissionReview artifactText).2.usedItems.length) .reset
      ≠ displayAll (fun _ => nonzeroHash) (submissionReview artifactText).2 false
        (List.range (submissionReview artifactText).2.usedItems.length) .reset := by
    decide +kernel
  exact ⟨hreview, fun hall => hne (hall _ _ false .reset)⟩

end AgencLedger
