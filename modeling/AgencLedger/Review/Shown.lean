import AgencLedger.Review.Display

/-!
# Review/Shown — what the display buffers show for each item of a review

An item is displayed in two buffers that the items before it have used: its text overwrites theirs,
and so does its title once the text has succeeded.  Every title of a review fits its buffer, so an
item whose text succeeds is shown under its own title.
-/

namespace AgencLedger

/-! ## Properties of all items -/

/-- Every item of the script has the property. -/
def Script.AllItems (P : SummaryItem → Prop) (script : Script) : Prop :=
  ∀ e ∈ script, ∀ item, e.item? = some item → P item

namespace Script

variable {P : SummaryItem → Prop} {a b : Script}

@[simp] theorem allItems_nil : AllItems P [] := fun _ h => absurd h List.not_mem_nil

@[simp] theorem allItems_append : AllItems P (a ++ b) ↔ AllItems P a ∧ AllItems P b :=
  List.forall_mem_append

@[simp] theorem allItems_cons {e : Effect} :
    AllItems P (e :: a) ↔ (∀ item, e.item? = some item → P item) ∧ AllItems P a :=
  List.forall_mem_cons

@[simp] theorem allItems_ite {c : Prop} [Decidable c] :
    AllItems P (if c then a else b) ↔ (c → AllItems P a) ∧ (¬c → AllItems P b) := by
  split <;> simp_all

@[simp] theorem allItems_primary (title : String) (value : SummaryValue) :
    AllItems P (primary title value) ↔ P ⟨title, value⟩ := by
  simp [AllItems, primary]

@[simp] theorem allItems_general (title : String) (value : SummaryValue) :
    AllItems P (general title value) ↔ P ⟨title, value⟩ := by
  simp [AllItems, general]

@[simp] theorem allItems_setGeneral (title : String) (value : SummaryValue) :
    AllItems P (setGeneral title value) ↔ P ⟨title, value⟩ := by
  simp [AllItems, setGeneral]

@[simp] theorem allItems_setPrimaryAction (action : CString) :
    AllItems P (setPrimaryAction action) ↔ P ⟨"AgenC action", .string action⟩ := by
  simp [AllItems, setPrimaryAction]

@[simp] theorem allItems_primaryIfTitled_none (value : SummaryValue) :
    AllItems P (primaryIfTitled none value) :=
  allItems_nil

@[simp] theorem allItems_primaryIfTitled_some (title : String) (value : SummaryValue) :
    AllItems P (primaryIfTitled (some title) value) ↔ P ⟨title, value⟩ :=
  allItems_primary title value

theorem AllItems.of_isPrefix (h : AllItems P b) (hab : a <+: b) : AllItems P a := by
  obtain ⟨rest, rfl⟩ := hab
  exact (allItems_append.mp h).1

/-- A property of all items holds of the items of each slot. -/
theorem AllItems.items (h : AllItems P a) {slot : Slot} {item : SummaryItem}
    (hitem : item ∈ items slot a) : P item := by
  obtain ⟨e, he, hvalue⟩ := List.mem_filterMap.mp (mem_items.mp ⟨slot, hitem⟩)
  exact h e he item hvalue

end Script

/-! ## Titles -/

/-- The title fits its buffer, and it has no `NUL`. -/
def SummaryItem.TitleFits (item : SummaryItem) : Prop :=
  item.title.toList.length < titleSize ∧ nul ∉ item.title.toList

section

variable (printConfig : PrintConfig) (ctx : TokenContext)

@[simp] theorem titleFits_iff {title : String} {value : SummaryValue} :
    SummaryItem.TitleFits ⟨title, value⟩ ↔ title.toList.length < 32 ∧ Char.ofNat 0 ∉ title.toList :=
  Iff.rfl

@[simp] theorem titlesFit_generalAuthority {title : String}
    (h : title.toList.length < 32 ∧ Char.ofNat 0 ∉ title.toList) (authority : Ptr Pubkey) :
    (generalAuthority printConfig title authority).AllItems SummaryItem.TitleFits := by
  unfold generalAuthority
  split
  · exact Script.allItems_general _ _ |>.mpr h
  · exact Script.allItems_nil

theorem titlesFit_printSystemInfo (info : SystemInfo) :
    (printSystemInfo info printConfig).AllItems SummaryItem.TitleFits := by
  rcases info with _ | _ | _ | _ | _ | _ | _ | _ | _ | _ <;>
    simp [printSystemInfo, printSystemTransferInfo, printSystemAdvanceNonceAccount,
      printSystemCreateAccountInfo, printSystemCreateAccountWithSeedInfo, ownerItems, seedItems,
      printSystemInitializeNonceInfo, printSystemWithdrawNonceInfo, printSystemAuthorizeNonceInfo,
      printSystemAssignInfo, printSystemAllocateInfo, printSystemAllocateWithSeedInfo]

@[simp] theorem titlesFit_stakeLockupItems (lockup : Option StakeLockup) :
    (stakeLockupItems lockup printConfig).AllItems SummaryItem.TitleFits := by
  rcases lockup with _ | lockup <;> simp [stakeLockupItems]

@[simp] theorem titlesFit_stakeAuthorityItems (info : StakeInitializeInfo) :
    (stakeAuthorityItems info).AllItems SummaryItem.TitleFits := by
  simp [stakeAuthorityItems]

@[simp] theorem titlesFit_custodianItem (custodian : Option (Ptr Pubkey)) :
    (custodianItem printConfig custodian).AllItems SummaryItem.TitleFits := by
  rcases custodian with _ | custodian <;> simp [custodianItem]

theorem titlesFit_printStakeInfo (info : StakeInfo) :
    (printStakeInfo ctx.sdk info printConfig).AllItems SummaryItem.TitleFits := by
  have hauthorize : ∀ info, (printStakeAuthorizeInfo info printConfig).AllItems
      SummaryItem.TitleFits := fun info => by
    rcases h : info.authorize with _ | _ <;>
      simp [printStakeAuthorizeInfo, StakeAuthorize.title, h]
  have hlockup : ∀ info, (printStakeSetLockupInfo info printConfig).AllItems
      SummaryItem.TitleFits := fun info => by
    rcases ht : info.lockup.unixTimestamp with _ | time <;>
      rcases he : info.lockup.epoch with _ | epoch <;>
      rcases hc : info.lockup.custodian with _ | custodian <;>
      simp [printStakeSetLockupInfo, ht, he, hc]
  rcases info with _ | _ | _ | _ | _ | _ | _ | _ | _ | _ | _ <;>
    simp [printStakeInfo, hauthorize, hlockup, printDelegateStakeInfo, printStakeInitializeInfo,
      printStakeWithdrawInfo, printStakeDeactivateInfo, printStakeSplitInfo, printStakeSplitInfo1,
      printStakeSplitInfo2, printStakeMergeInfo]

theorem titlesFit_printVoteInfo (info : VoteInfo) :
    (printVoteInfo info printConfig).AllItems SummaryItem.TitleFits := by
  have hauthorize : ∀ info, (printVoteAuthorizeInfo info printConfig).AllItems
      SummaryItem.TitleFits := fun info => by
    rcases h : info.authorize with _ | _ <;> simp [printVoteAuthorizeInfo, VoteAuthorize.title, h]
  rcases info with _ | _ | _ | _ | _ | _ <;>
    simp [printVoteInfo, hauthorize, printVoteInitializeInfo, printVoteWithdrawInfo,
      printVoteUpdateValidatorIdInfo, printVoteUpdateCommissionInfo]

@[simp] theorem titlesFit_printSplTokenSign (sign : SplTokenSign) :
    (printSplTokenSign sign printConfig).AllItems SummaryItem.TitleFits := by
  rcases sign with signer | ⟨account, signers⟩ <;> simp [printSplTokenSign]

@[simp] theorem titlesFit_summaryItemSetMultisigMOfN (m n : UInt8) :
    (summaryItemSetMultisigMOfN m n).AllItems SummaryItem.TitleFits := by
  unfold summaryItemSetMultisigMOfN
  split <;> simp

theorem titlesFit_printSplTokenTransferInfo (info : SplTokenTransferInfo) (isToken2022Kind : Bool) :
    (printSplTokenTransferInfo ctx info printConfig isToken2022Kind true).AllItems
      SummaryItem.TitleFits := by
  have hto : (transferToItem ctx).AllItems SummaryItem.TitleFits := by
    unfold transferToItem
    split <;> simp
  have hfee : ∀ symbol, (transferFeeItem info symbol).AllItems SummaryItem.TitleFits :=
    fun symbol => by
      unfold transferFeeItem
      split <;> simp
  simp [printSplTokenTransferInfo, hto, hfee]

theorem titlesFit_printSplTokenInfo (info : SplTokenInfo) :
    (printSplTokenInfo ctx info printConfig).AllItems SummaryItem.TitleFits := by
  rcases info with ⟨isToken2022Kind, warning, body⟩
  cases body with
  | initializeMint info =>
      rcases h : info.freezeAuthority with _ | authority <;>
        simp [printSplTokenInfo, printSplTokenInitializeMintInfo, h]
  | setAuthority info =>
      rcases h : info.newAuthority with _ | authority <;>
        simp [printSplTokenInfo, printSplTokenSetAuthorityInfo, h]
  | transferChecked info | transferCheckedWithFee info =>
      exact titlesFit_printSplTokenTransferInfo printConfig ctx info isToken2022Kind
  | _ =>
      simp [printSplTokenInfo, printSplTokenInitializeAccountInfo,
        printSplTokenInitializeMultisigInfo, printSplTokenApproveInfo, printSplTokenRevokeInfo,
        printSplTokenMintToInfo, printSplTokenBurnInfo, printSplTokenCloseAccountInfo,
        printSplTokenFreezeAccountInfo, printSplTokenThawAccountInfo,
        printSplTokenSyncNativeInfo]

theorem titlesFit_printCreateTaskFields (programId : Ptr Pubkey) (info : AgencCreateTaskInfo) :
    (printCreateTaskFields programId info).AllItems SummaryItem.TitleFits := by
  rcases h : info.rewardMint with _ | mint <;> simp [printCreateTaskFields, h]

theorem titlesFit_printAgencInfo (index : ℕ) (info : AgencInfo) :
    (printAgencInfo index info).AllItems SummaryItem.TitleFits := by
  rcases info with ⟨programId, body⟩
  cases body with
  | createTask info =>
      simp [printAgencInfo, printAgencCreateTaskInfo, titlesFit_printCreateTaskFields]
  | registerAgent info =>
      rcases h : info.metadataUri with _ | uri <;>
        simp [printAgencInfo, printAgencRegisterAgentInfo, h]
  | configureTaskValidation info =>
      rcases h : info.attestor with _ | attestor <;>
        simp [printAgencInfo, printAgencConfigureTaskValidationInfo, h]
  | _ =>
      simp [printAgencInfo, printAgencSetTaskJobSpecInfo, printAgencClaimTaskWithJobSpecInfo,
        printAgencSubmitTaskResultInfo, printAgencAcceptTaskResultInfo,
        printAgencRejectTaskResultInfo, printAgencCancelTaskInfo, printAgencExpireClaimInfo]

/-- **Every title that a pattern uses fits its buffer.** -/
theorem titlesFit_print (pattern : Pattern) :
    (pattern.print printConfig ctx).AllItems SummaryItem.TitleFits := by
  cases pattern with
  | system info => exact titlesFit_printSystemInfo printConfig info
  | stake info => exact titlesFit_printStakeInfo printConfig ctx info
  | vote info => exact titlesFit_printVoteInfo printConfig info
  | splToken info => exact titlesFit_printSplTokenInfo printConfig ctx info
  | agenc index info => exact titlesFit_printAgencInfo index info
  | stakeSplitV1_2 ca ss => exact titlesFit_printStakeInfo printConfig ctx (.split ss)
  | stakeSplitV1_1 allocate assign ss =>
      exact titlesFit_printStakeInfo printConfig ctx (.split ss)
  | stakeAuthorizeBoth staker withdrawer =>
      rcases hc : withdrawer.custodian with _ | custodian <;>
        simp [Pattern.print, printStakeAuthorizeBoth, newAuthorityItems, hc]
  | splTokenCreateMint ca im =>
      rcases hf : im.freezeAuthority with _ | authority <;>
        simp [Pattern.print, printSplTokenCreateMint, hf]
  | splAssociatedTokenAccountCreateWithTransfer create isToken2022Kind transfer =>
      exact (titlesFit_printSplTokenTransferInfo printConfig ctx transfer
        isToken2022Kind).of_isPrefix (List.takeWhile_prefix _)
  | agencCreateTaskWithReview create configure =>
      simp only [Pattern.print, printAgencCreateTaskWithReviewInfo]
      split
      · simp [titlesFit_printCreateTaskFields]
      · simp
  | _ =>
      simp [Pattern.print, printSplAssociatedTokenAccountInfo,
        printSplAssociatedTokenAccountCreateInfo, printCreateStakeAccount,
        printCreateStakeAccountWithSeed, printCreateNonceAccount, printCreateNonceAccountWithSeed,
        printCreateVoteAccount, printCreateVoteAccountWithSeed, printVoteAuthorizeBoth,
        printStakeSplitWithSeed, printSplTokenCreateAccount, printSplTokenCreateMultisig,
        printCreateStakeAccountAndDelegate, printCreateStakeAccountWithSeedAndDelegate,
        printSystemCreateAccountInfo, printSystemCreateAccountWithSeedInfo, ownerItems, seedItems,
        printStakeInitializeInfo, printDelegateStakeInfo, printSystemInitializeNonceInfo,
        printVoteInitializeInfo, printStakeSplitInfo, printStakeSplitInfo1, printStakeSplitInfo2,
        printPrefundedSplit, printPrefundedSplitWithSeed, printSystemPrefundForSplit,
        newAuthorityItems]

end

/-! ## The items of a layout, in order -/

/-- The items of the nonce: in expert mode only. -/
def nonceItems (printConfig : PrintConfig) (nonce : Option SystemAdvanceNonceInfo) :
    List SummaryItem :=
  match nonce with
  | some nonceInfo =>
      if printConfig.expertMode then
        [⟨"Nonce account", .pubkey nonceInfo.account⟩,
          ⟨"Nonce authority", .pubkey nonceInfo.authority⟩]
      else []
  | none => []

/-- **The items of a layout** in the order they are shown. -/
def Layout.usedItems (printConfig : PrintConfig) (ctx : TokenContext) (l : Layout) :
    List SummaryItem :=
  Script.items .primary (l.pattern.print printConfig ctx)
    ++ (if l.warning then extensionWarningItems else [])
    ++ Script.items .general (l.pattern.print printConfig ctx)
    ++ maxFeeItems l.maxFee ++ nonceItems printConfig l.nonce

section

variable {printConfig : PrintConfig} {ctx : TokenContext} {l : Layout}

/-- What the head of a review puts in each slot. -/
theorem items_headItems (slot : Slot) :
    Script.items slot (headItems printConfig l.warning l.nonce)
      = match slot with
        | .general => if l.warning then extensionWarningItems else []
        | .nonceAccount => (nonceItems printConfig l.nonce).take 1
        | .nonceAuthority => (nonceItems printConfig l.nonce).drop 1
        | _ => [] := by
  rcases l.nonce with _ | nonce <;> rcases l.warning with _ | _ <;>
    rcases hexpert : printConfig.expertMode with _ | _ <;> cases slot <;>
    simp only [headItems, nonceItems, printSystemNoncedTransactionSentinel, hexpert,
      Option.map_none, Option.map_some, Option.getD_none, Option.getD_some] <;> rfl

/-- **An accepted review shows the items of its layout.** -/
theorem usedItems_of_accepted {messageBody : Parser} {s : TransactionSummary}
    (h : processMessageBody ctx messageBody printConfig .reset = (.ok (), s)) :
    ∃ parsed l, parseMessageBody ctx messageBody printConfig.header = (parsed, .ok ()) ∧
      layout parsed = some l ∧ Effect.fail ∉ l.pattern.print printConfig ctx ∧
      s.usedItems = l.usedItems printConfig ctx := by
  obtain ⟨parsed, l, hparsed, hl, hfail, hitems⟩ := processMessageBody_ok h
  simp only [Layout.script, List.mem_append, not_or] at hfail
  refine ⟨parsed, l, hparsed, hl, hfail.1.2, ?_⟩
  have hpattern := onePrimary_print printConfig ctx l.pattern
  have hslot : ∀ slot, s.itemsOf slot = Script.items slot (headItems printConfig l.warning l.nonce)
      ++ Script.items slot (l.pattern.print printConfig ctx)
      ++ if slot = .general then maxFeeItems l.maxFee else [] := fun slot => by
    rw [hitems slot, TransactionSummary.itemsOf_reset, List.nil_append, Layout.script,
      Script.items_append, Script.items_append]
    congr 1
    by_cases hgeneral : slot = .general <;> by_cases hfee : l.maxFee = 0 <;>
      simp [maxFeeItems, printComputeBudgetMaxFee, hgeneral, hfee]
  have hquiet : ∀ slot, slot ≠ .general → slot ≠ .primary →
      Script.items slot (l.pattern.print printConfig ctx) = [] := fun slot hg hp => by
    have hlength := hpattern slot hg
    rw [if_neg hp] at hlength
    exact List.length_eq_zero_iff.mp (Nat.le_zero.mp hlength)
  rw [TransactionSummary.usedItems_eq_itemsOf, hslot, hslot, hslot, hslot, hslot,
    hquiet .nonceAccount (by simp) (by simp), hquiet .nonceAuthority (by simp) (by simp),
    hquiet .feePayer (by simp) (by simp)]
  simp only [items_headItems, if_true, List.nil_append, List.append_nil, List.append_assoc,
    reduceCtorEq, if_false, List.take_append_drop, Layout.usedItems]

/-- Every title of a review fits its buffer. -/
theorem titleFits_of_mem_usedItems {item : SummaryItem}
    (h : item ∈ l.usedItems printConfig ctx) : item.TitleFits := by
  have hpattern := titlesFit_print printConfig ctx l.pattern
  simp only [Layout.usedItems, List.mem_append] at h
  rcases h with (((hprimary | hwarning) | hgeneral) | hfee) | hnonce
  · exact hpattern.items hprimary
  · split at hwarning
    · simp only [extensionWarningItems, List.mem_cons, List.not_mem_nil, or_false] at hwarning
      rcases hwarning with rfl | rfl <;> simp
    · cases hwarning
  · exact hpattern.items hgeneral
  · unfold maxFeeItems at hfee
    split at hfee
    · obtain rfl := List.mem_singleton.mp hfee
      simp
    · cases hfee
  · unfold nonceItems at hnonce
    split at hnonce
    · split at hnonce
      · rcases List.mem_pair.mp hnonce with rfl | rfl <;> simp
      · cases hnonce
    · cases hnonce

end

/-! ## What the buffers show -/

/-- Kind, title and text of each item, as the buffers have them after its turn. -/
def shownItems (frame : ℕ → Hash) :
    List SummaryItem → DisplayBuffers → List (SummaryItemKind × List Char × List Char)
  | [], _ => []
  | item :: items, buffers =>
      let shown := (updateDisplayForItem frame true buffers (some item)).2
      (item.value.kind, textOf shown.title, textOf shown.text) :: shownItems frame items shown

section

variable {frame : ℕ → Hash} {item : SummaryItem} {items : List SummaryItem}
  {buffers : DisplayBuffers}

/-- **The display of a finalized review runs through its items.** -/
theorem zip_displayAll {s : TransactionSummary} {kinds : List SummaryItemKind}
    (h : s.finalize = .ok kinds) (frame : ℕ → Hash) (buffers : DisplayBuffers) :
    kinds.zip (displayAll frame s true (List.range kinds.length) buffers)
      = shownItems frame s.usedItems buffers := by
  have hprimary := TransactionSummary.isSome_primary_of_finalize h
  have hkinds : s.usedItems.map (fun item => item.value.kind) = kinds := by
    rw [TransactionSummary.finalize,
      if_neg (by simpa [Option.isSome_iff_ne_none] using hprimary)] at h
    exact Except.ok.inj h
  have hdisplay : ∀ (items : List SummaryItem) (k : ℕ) (buffers : DisplayBuffers),
      s.usedItems.drop k = items →
      (items.map fun item => item.value.kind).zip
        (displayAll frame s true (List.range' k items.length) buffers)
          = shownItems frame items buffers := by
    intro items
    induction items with
    | nil => exact fun _ _ _ => rfl
    | cons item items ih =>
        intro k buffers hdrop
        have hk : s.usedItems[k]? = some item := by
          rw [← List.head?_drop, hdrop]
          rfl
        have hrest : s.usedItems.drop (k + 1) = items := by
          rw [← List.drop_drop, hdrop]
          rfl
        simp only [List.map_cons, List.length_cons, List.range'_succ, displayAll, displayItem,
          TransactionSummary.getElem?_slots hprimary hk, List.zip_cons_cons, shownItems]
        rw [ih (k + 1) _ hrest]
  rw [← hkinds, List.length_map, List.range_eq_range']
  exact hdisplay s.usedItems 0 buffers rfl

/-- The text of a value, whatever was in the buffer. -/
def SummaryValue.TextIs (frame : ℕ → Hash) (value : SummaryValue) (text : List Char) : Prop :=
  (value.print frame true).ret = .ok () ∧
    ∀ buffer, textOf (overlay (value.print frame true).written buffer) = text

theorem textIs_amount (u64 : UInt64) :
    (SummaryValue.amount u64).TextIs frame (amountText u64.toNat 9 "SOL".toList) :=
  ⟨printAmount_ok u64, textOf_printTokenAmount (by decide) (printAmount_ok u64)⟩

theorem textIs_tokenAmount {t : TokenAmount} (h : (SummaryValue.tokenAmount t).Printable) :
    (SummaryValue.tokenAmount t).TextIs frame
      (amountText t.value.toNat t.decimals.toNat t.symbol.chars) :=
  ⟨(print_ok_iff frame true _).mpr h,
    textOf_printTokenAmount (by decide) ((print_ok_iff frame true _).mpr h)⟩

theorem textIs_pubkey (key : Ptr Pubkey) :
    (SummaryValue.pubkey key).TextIs frame (base58Numeral key.val.data) :=
  printPubkey_long key.val

theorem textIs_u64 (u64 : UInt64) : (SummaryValue.u64 u64).TextIs frame (decimal u64.toNat) := by
  refine ⟨(print_ok_iff frame true _).mpr trivial, fun buffer => ?_⟩
  rw [SummaryValue.print, printU64_eq u64 (by decide) (by decide)]
  exact textOf_overlay_append_nul (nul_notMem_decimal _)

theorem textIs_i64 (i64 : Int64) : (SummaryValue.i64 i64).TextIs frame (signedDecimal i64) := by
  refine ⟨(print_ok_iff frame true _).mpr trivial, fun buffer => ?_⟩
  rw [SummaryValue.print, printI64_eq i64 (by decide) (by decide)]
  exact textOf_overlay_append_nul (nul_notMem_signedDecimal _)

theorem textIs_hash (ref : HashRef) :
    (SummaryValue.hash ref).TextIs frame (base58Numeral (ref.read frame).data) :=
  printBase58_block _

theorem textIs_timestamp {time : Int64} (h : InCalendar time) :
    (SummaryValue.timestamp time).TextIs frame
      (timestampText (dateOfDay (dayNumber time).toNat) time) := by
  have hprint : (SummaryValue.timestamp time).print frame true
      = ⟨timestampText (dateOfDay (dayNumber time).toNat) time ++ [nul], .ok ()⟩ :=
    rfc3339Format_ok (show 19 < textBufferLength by decide) h
  refine ⟨by rw [hprint], fun buffer => ?_⟩
  rw [hprint]
  exact textOf_overlay_append_nul (nul_notMem_timestampText _ _)

theorem textIs_string {str : CString} (h : str.chars.length < textBufferLength) :
    (SummaryValue.string str).TextIs frame str.chars :=
  ⟨rfl, (printString_of_fits h str.noNul).2⟩

/-- **An item whose text succeeds is shown under its own title**, with its own text. -/
theorem shownItems_cons {text : List Char} (hfits : item.TitleFits)
    (htext : item.value.TextIs frame text) (items : List SummaryItem) (buffers : DisplayBuffers) :
    ∃ after, shownItems frame (item :: items) buffers
      = (item.value.kind, item.title.toList, text) :: shownItems frame items after := by
  refine ⟨(updateDisplayForItem frame true buffers (some item)).2, ?_⟩
  have htitle := (printString_of_fits hfits.1 hfits.2).2 buffers.title
  simp only [shownItems, updateDisplayForItem, htext.1, htext.2, htitle]

/-- An item that is shown the same whatever came before. -/
def SummaryItem.Firm (frame : ℕ → Hash) (item : SummaryItem) : Prop :=
  item.TitleFits ∧ ∃ text, item.value.TextIs frame text

/-- Firm items are shown the same from any buffers. -/
theorem shownItems_of_firm (h : ∀ item ∈ items, item.Firm frame)
    (buffers buffers' : DisplayBuffers) :
    shownItems frame items buffers = shownItems frame items buffers' := by
  induction items generalizing buffers buffers' with
  | nil => rfl
  | cons item items ih =>
      obtain ⟨hitem, hrest⟩ := List.forall_mem_cons.mp h
      obtain ⟨hfits, text, htext⟩ := hitem
      obtain ⟨after, hshown⟩ := shownItems_cons hfits htext items buffers
      obtain ⟨after', hshown'⟩ := shownItems_cons hfits htext items buffers'
      rw [hshown, hshown', ih hrest after after']

/-- An item whose text fails is shown under the title before it. -/
theorem shownItems_cons_of_error {stop : Stop}
    (htext : (item.value.print frame true).ret = .error stop) (items : List SummaryItem)
    (buffers : DisplayBuffers) :
    ∃ text after, shownItems frame (item :: items) buffers
      = (item.value.kind, textOf buffers.title, text) :: shownItems frame items after := by
  refine ⟨textOf (updateDisplayForItem frame true buffers (some item)).2.text,
    (updateDisplayForItem frame true buffers (some item)).2, ?_⟩
  simp only [shownItems, updateDisplayForItem, htext]

/-- The kinds are those of the items. -/
theorem map_kind_shownItems (items : List SummaryItem) (buffers : DisplayBuffers) :
    (shownItems frame items buffers).map Prod.fst = items.map fun item => item.value.kind := by
  induction items generalizing buffers with
  | nil => rfl
  | cons item items ih => exact congrArg _ (ih _)

/-- What comes first is shown regardless of what follows. -/
theorem shownItems_append (items : List SummaryItem) (buffers : DisplayBuffers) :
    ∃ after, ∀ rest, shownItems frame (items ++ rest) buffers
      = shownItems frame items buffers ++ shownItems frame rest after := by
  induction items generalizing buffers with
  | nil => exact ⟨buffers, fun _ => rfl⟩
  | cons item items ih =>
      obtain ⟨after, hafter⟩ := ih (updateDisplayForItem frame true buffers (some item)).2
      exact ⟨after, fun rest => congrArg _ (hafter rest)⟩

/-- An item whose text succeeds is shown wherever it stands. -/
theorem mem_shownItems {text : List Char} (hmem : item ∈ items) (hfits : item.TitleFits)
    (htext : item.value.TextIs frame text) (buffers : DisplayBuffers) :
    (item.value.kind, item.title.toList, text) ∈ shownItems frame items buffers := by
  obtain ⟨before, rest, rfl⟩ := List.append_of_mem hmem
  obtain ⟨after, hafter⟩ := @shownItems_append frame before buffers
  obtain ⟨after', hshown⟩ := shownItems_cons hfits htext rest after
  rw [hafter, hshown]
  exact List.mem_append_right _ List.mem_cons_self

/-- **A title that is shown is one of the items', or was there before.** -/
theorem title_of_mem_shownItems {kind : SummaryItemKind} {title text : List Char}
    (hfits : ∀ item ∈ items, item.TitleFits)
    (h : (kind, title, text) ∈ shownItems frame items buffers) :
    title = textOf buffers.title ∨ ∃ item ∈ items, title = item.title.toList := by
  induction items generalizing buffers with
  | nil => cases h
  | cons item items ih =>
      have hshown : textOf (updateDisplayForItem frame true buffers (some item)).2.title
          = textOf buffers.title ∨
          textOf (updateDisplayForItem frame true buffers (some item)).2.title
            = item.title.toList := by
        have hitem := hfits item List.mem_cons_self
        simp only [updateDisplayForItem]
        split
        · exact .inl rfl
        · exact .inr ((printString_of_fits hitem.1 hitem.2).2 _)
      have hnow : ∀ title,
          title = textOf (updateDisplayForItem frame true buffers (some item)).2.title →
          title = textOf buffers.title ∨ ∃ item' ∈ item :: items, title = item'.title.toList :=
        fun title htitle => hshown.imp (htitle.trans ·)
          fun heq => ⟨item, List.mem_cons_self, htitle.trans heq⟩
      rcases List.mem_cons.mp h with heq | hmem
      · cases heq
        exact hnow _ rfl
      · rcases ih (fun item hitem => hfits item (List.mem_cons_of_mem _ hitem)) hmem with
          hbefore | hlater
        · exact hnow _ hbefore
        · obtain ⟨item', hitem', htitle⟩ := hlater
          exact .inr ⟨item', List.mem_cons_of_mem _ hitem', htitle⟩

end

end AgencLedger
