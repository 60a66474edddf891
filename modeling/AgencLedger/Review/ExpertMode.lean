import AgencLedger.Library.Grows
import AgencLedger.Review.Accepted
import AgencLedger.Review.Outcome

/-!
# Review/ExpertMode — expert mode adds items and changes nothing else

In user mode a print function leaves out what the user knows, the key that signs, and what the
author of the code took for noise.  Every print function asks for the mode only to put in more
items, behind the primary one.  So the two reviews of a message have the same items in the same
order, but for those; and a message that user mode accepts is refused in expert mode for one reason
only, that the slots run out.
-/

namespace AgencLedger

/-! ## What only experts see -/

/-- The second configuration is the first one in expert mode. -/
structure PrintConfig.Reveals (signer : Pubkey) (user expert : PrintConfig) : Prop where
  signer_eq : user.signerPubkey.val = signer
  user_eq : user.expertMode = false
  expert_eq : expert = { user with expertMode := true }

/-- The titles of the items that only experts see, whatever they say. -/
def expertTitles : List String :=
  ["Nonce account", "Nonce authority", "Base", "Seed", "Prefund", "Prefunder", "Lockup",
    "Token address"]

/-- An item that user mode may leave out: the key of the signer, or one with such a title. -/
def SummaryItem.ExpertOnly (signer : Pubkey) (item : SummaryItem) : Prop :=
  (∃ key, item.value = .pubkey key ∧ key.val = signer) ∨ item.title ∈ expertTitles

/-- An effect that user mode may leave out. -/
def Effect.ExpertOnly (signer : Pubkey) (e : Effect) : Prop :=
  ∃ slot item, e = .put slot item ∧ slot ≠ .primary ∧ item.ExpertOnly signer

section

variable {signer : Pubkey} {user expert : PrintConfig}

theorem expertOnly_general {title : String} {value : SummaryValue}
    (h : SummaryItem.ExpertOnly signer ⟨title, value⟩) :
    ∀ e ∈ general title value, e.ExpertOnly signer := by
  intro e he
  obtain rfl := List.mem_singleton.mp he
  exact ⟨.general, _, rfl, by simp, h⟩

theorem expertOnly_title (title : String) (h : title ∈ expertTitles) (value : SummaryValue) :
    ∀ e ∈ general title value, e.ExpertOnly signer :=
  expertOnly_general (.inr h)

namespace PrintConfig.Reveals

variable (h : user.Reveals signer expert)
include h

theorem header_eq : expert.header = user.header := by rw [h.expert_eq]

theorem expertMode_eq : expert.expertMode = true := by rw [h.expert_eq]

theorem forceFullPrint_eq : expert.forceFullPrint = user.forceFullPrint := by rw [h.expert_eq]

theorem userInput_eq :
    expert.userInputIsAtaOrTokenAccount = user.userInputIsAtaOrTokenAccount := by rw [h.expert_eq]

/-- A part that asks for expert mode is put in. -/
theorem grows_ite {script : Script} (hscript : ∀ e ∈ script, e.ExpertOnly signer) :
    Grows (Effect.ExpertOnly signer) (if user.expertMode then script else [])
      (if expert.expertMode then script else []) := by
  rw [h.user_eq, h.expertMode_eq]
  exact .of_forall hscript

end PrintConfig.Reveals

/-! ## Print functions -/

@[gcongr] theorem grows_generalAuthority (h : user.Reveals signer expert) (title : String)
    (authority : Ptr Pubkey) :
    Grows (Effect.ExpertOnly signer) (generalAuthority user title authority)
      (generalAuthority expert title authority) := by
  refine .of_ite (fun _ => ?_) fun hhidden => expertOnly_general (.inl ⟨authority, rfl, ?_⟩)
  · rw [PrintConfig.showAuthority, h.expertMode_eq, Bool.true_or]
  · rw [PrintConfig.showAuthority, h.user_eq, Bool.false_or, Bool.not_eq_true', Bool.not_eq_false,
      pubkeysEqual, beq_iff_eq, h.signer_eq] at hhidden
    exact hhidden.symm

@[gcongr] theorem grows_seedItems (h : user.Reveals signer expert) (base : Ptr Pubkey)
    (seed : SizedString) :
    Grows (Effect.ExpertOnly signer) (seedItems user base seed) (seedItems expert base seed) :=
  h.grows_ite <| List.forall_mem_append.mpr
    ⟨expertOnly_title "Base" (by decide) _, expertOnly_title "Seed" (by decide) _⟩

@[gcongr] theorem grows_printSystemPrefundForSplit (h : user.Reveals signer expert)
    (transferInfo : SystemTransferInfo) :
    Grows (Effect.ExpertOnly signer) (printSystemPrefundForSplit transferInfo user)
      (printSystemPrefundForSplit transferInfo expert) :=
  h.grows_ite <| List.forall_mem_append.mpr
    ⟨expertOnly_title "Prefund" (by decide) _, expertOnly_title "Prefunder" (by decide) _⟩

@[gcongr] theorem grows_printSystemCreateAccountInfo (h : user.Reveals signer expert)
    (primaryTitle : Option String) (info : SystemCreateAccountInfo) (displayOwner : Bool) :
    Grows (Effect.ExpertOnly signer)
      (printSystemCreateAccountInfo primaryTitle info user displayOwner)
      (printSystemCreateAccountInfo primaryTitle info expert displayOwner) := by
  unfold printSystemCreateAccountInfo
  gcongr

@[gcongr] theorem grows_printSystemCreateAccountWithSeedInfo (h : user.Reveals signer expert)
    (primaryTitle : Option String) (info : SystemCreateAccountWithSeedInfo) (displayOwner : Bool) :
    Grows (Effect.ExpertOnly signer)
      (printSystemCreateAccountWithSeedInfo primaryTitle info user displayOwner)
      (printSystemCreateAccountWithSeedInfo primaryTitle info expert displayOwner) := by
  unfold printSystemCreateAccountWithSeedInfo
  gcongr

theorem grows_printSystemInfo (h : user.Reveals signer expert) (info : SystemInfo) :
    Grows (Effect.ExpertOnly signer) (printSystemInfo info user)
      (printSystemInfo info expert) := by
  cases info <;>
    simp only [printSystemInfo, printSystemTransferInfo, printSystemAdvanceNonceAccount,
      printSystemWithdrawNonceInfo, printSystemAuthorizeNonceInfo,
      printSystemAllocateWithSeedInfo] <;>
    gcongr

theorem grows_printSystemNoncedTransactionSentinel (h : user.Reveals signer expert)
    (nonceInfo : SystemAdvanceNonceInfo) :
    Grows (Effect.ExpertOnly signer) (printSystemNoncedTransactionSentinel nonceInfo user)
      (printSystemNoncedTransactionSentinel nonceInfo expert) := by
  refine h.grows_ite fun e he => ?_
  rcases List.mem_pair.mp he with rfl | rfl
  · exact ⟨_, _, rfl, by simp, .inr (by simp [expertTitles])⟩
  · exact ⟨_, _, rfl, by simp, .inr (by simp [expertTitles])⟩

@[gcongr] theorem grows_custodianItem (h : user.Reveals signer expert)
    (custodian : Option (Ptr Pubkey)) :
    Grows (Effect.ExpertOnly signer) (custodianItem user custodian)
      (custodianItem expert custodian) := by
  cases custodian with
  | none => exact .refl _
  | some custodian => exact grows_generalAuthority h _ _

@[gcongr] theorem grows_stakeLockupItems (h : user.Reveals signer expert)
    (lockup : Option StakeLockup) :
    Grows (Effect.ExpertOnly signer) (stakeLockupItems lockup user)
      (stakeLockupItems lockup expert) := by
  have hnone := h.grows_ite (expertOnly_title "Lockup" (by decide) (.string (.lit "None")))
  cases lockup with
  | none => exact hnone
  | some lockup =>
      by_cases hlocked : (lockup.unixTimestamp > 0 || lockup.epoch > 0) = true
      · simp only [stakeLockupItems, hlocked, if_true, Grows.refl]
      · simp only [stakeLockupItems, if_neg hlocked]
        exact hnone

@[gcongr] theorem grows_printStakeInitializeInfo (h : user.Reveals signer expert)
    (primaryTitle : Option String) (info : StakeInitializeInfo) :
    Grows (Effect.ExpertOnly signer) (printStakeInitializeInfo primaryTitle info user)
      (printStakeInitializeInfo primaryTitle info expert) := by
  unfold printStakeInitializeInfo
  gcongr

@[gcongr] theorem grows_printDelegateStakeInfo (h : user.Reveals signer expert) (sdk : Sdk)
    (primaryTitle : Option String) (info : StakeDelegateInfo) :
    Grows (Effect.ExpertOnly signer) (printDelegateStakeInfo sdk primaryTitle info user)
      (printDelegateStakeInfo sdk primaryTitle info expert) := by
  unfold printDelegateStakeInfo
  gcongr

@[gcongr] theorem grows_printStakeSplitInfo2 (h : user.Reveals signer expert)
    (info : StakeSplitInfo) :
    Grows (Effect.ExpertOnly signer) (printStakeSplitInfo2 info user)
      (printStakeSplitInfo2 info expert) :=
  grows_generalAuthority h _ _

theorem grows_printStakeInfo (h : user.Reveals signer expert) (sdk : Sdk) (info : StakeInfo) :
    Grows (Effect.ExpertOnly signer) (printStakeInfo sdk info user)
      (printStakeInfo sdk info expert) := by
  cases info <;>
    simp only [printStakeInfo, printStakeWithdrawInfo, printStakeAuthorizeInfo,
      printStakeDeactivateInfo, printStakeSetLockupInfo, printStakeSplitInfo,
      printStakeMergeInfo] <;>
    gcongr

theorem grows_printVoteInfo (h : user.Reveals signer expert) (info : VoteInfo) :
    Grows (Effect.ExpertOnly signer) (printVoteInfo info user) (printVoteInfo info expert) := by
  cases info <;>
    simp only [printVoteInfo, printVoteWithdrawInfo, printVoteAuthorizeInfo,
      printVoteUpdateValidatorIdInfo, printVoteUpdateCommissionInfo] <;>
    gcongr

@[gcongr] theorem grows_printSplTokenSign (h : user.Reveals signer expert) (sign : SplTokenSign) :
    Grows (Effect.ExpertOnly signer) (printSplTokenSign sign user)
      (printSplTokenSign sign expert) := by
  cases sign with
  | single signer => exact grows_generalAuthority h _ _
  | multi account signers => exact .refl _

theorem grows_printSplTokenTransferInfo (h : user.Reveals signer expert) (ctx : TokenContext)
    (info : SplTokenTransferInfo) (isToken2022Kind isPrimary : Bool) :
    Grows (Effect.ExpertOnly signer)
      (printSplTokenTransferInfo ctx info user isToken2022Kind isPrimary)
      (printSplTokenTransferInfo ctx info expert isToken2022Kind isPrimary) := by
  simp only [printSplTokenTransferInfo, h.forceFullPrint_eq, h.userInput_eq]
  gcongr

theorem grows_printSplTokenInfo (h : user.Reveals signer expert) (ctx : TokenContext)
    (info : SplTokenInfo) :
    Grows (Effect.ExpertOnly signer) (printSplTokenInfo ctx info user)
      (printSplTokenInfo ctx info expert) := by
  have hmint := fun mintAccount : Ptr Pubkey =>
    h.grows_ite (expertOnly_title "Token address" (by decide) (.pubkey mintAccount))
  rcases info with ⟨isToken2022Kind, warning, body⟩
  cases body with
  | freezeAccount info =>
      exact ((Grows.refl _).append (hmint info.mintAccount)).append (grows_printSplTokenSign h _)
  | thawAccount info =>
      exact ((Grows.refl _).append (hmint info.mintAccount)).append (grows_printSplTokenSign h _)
  | transferChecked info | transferCheckedWithFee info =>
      exact grows_printSplTokenTransferInfo h ctx info isToken2022Kind true
  | _ =>
      simp only [printSplTokenInfo, printSplTokenApproveInfo, printSplTokenRevokeInfo,
        printSplTokenSetAuthorityInfo, printSplTokenMintToInfo, printSplTokenBurnInfo,
        printSplTokenCloseAccountInfo]
      gcongr

/-- **Expert mode puts items into the script of a pattern.** -/
theorem grows_print (h : user.Reveals signer expert) (ctx : TokenContext) (pattern : Pattern) :
    Grows (Effect.ExpertOnly signer) (pattern.print user ctx) (pattern.print expert ctx) := by
  cases pattern with
  | system info => exact grows_printSystemInfo h info
  | stake info => exact grows_printStakeInfo h ctx.sdk info
  | vote info => exact grows_printVoteInfo h info
  | splToken info => exact grows_printSplTokenInfo h ctx info
  | stakeSplitV1_2 _ ss | stakeSplitV1_1 _ _ ss =>
      exact grows_printStakeInfo h ctx.sdk (.split ss)
  | stakeAuthorizeBoth staker withdrawer =>
      simp only [Pattern.print, printStakeAuthorizeBoth]
      split
      · exact .refl _
      · gcongr
  | voteAuthorizeBoth voter withdrawer =>
      simp only [Pattern.print, printVoteAuthorizeBoth]
      split
      · exact .refl _
      · gcongr
  | splAssociatedTokenAccountCreateWithTransfer create isToken2022Kind transfer =>
      -- what expert mode puts in does not end the prefix that is printed
      simp only [Pattern.print, printSplAssociatedTokenAccountCreateWithTransfer]
      refine (grows_printSplTokenTransferInfo h ctx transfer isToken2022Kind true).takeWhile ?_
      rintro e ⟨slot, item, rfl, -⟩
      rfl
  | _ =>
      simp only [Pattern.print, printCreateStakeAccount, printCreateStakeAccountWithSeed,
        printCreateStakeAccountAndDelegate, printCreateStakeAccountWithSeedAndDelegate,
        printStakeSplitWithSeed, printPrefundedSplit, printPrefundedSplitWithSeed,
        printStakeSplitInfo, printCreateNonceAccount, printCreateNonceAccountWithSeed,
        printCreateVoteAccount, printCreateVoteAccountWithSeed, printSplTokenCreateMint,
        printSplTokenCreateAccount, printSplTokenCreateMultisig]
      gcongr

/-- Expert mode puts items into the review of a message. -/
theorem grows_script (h : user.Reveals signer expert) (ctx : TokenContext) (l : Layout) :
    Grows (Effect.ExpertOnly signer) (l.script user ctx) (l.script expert ctx) := by
  have hnonce : Grows (Effect.ExpertOnly signer) (headItems user l.warning l.nonce)
      (headItems expert l.warning l.nonce) := by
    unfold headItems
    cases l.nonce with
    | none => exact .refl _
    | some nonceInfo => exact (Grows.refl _).append (grows_printSystemNoncedTransactionSentinel h _)
  exact (hnonce.append (grows_print h ctx l.pattern)).append (.refl _)

end

/-! ## Playing both scripts -/

/-- What a summary holds besides its items. -/
def TransactionSummary.bare (s : TransactionSummary) : TransactionSummary :=
  { TransactionSummary.reset with
    isToken2022Transfer := s.isToken2022Transfer
    feeWarning := s.feeWarning
    hookWarning := s.hookWarning
    isBlindSigning := s.isBlindSigning
    transactionType := s.transactionType }

namespace Script

variable {signer : Pubkey} {a b : Script} {s s' t t' : TransactionSummary}

/-- The items of a slot grow by items that only experts see. -/
theorem grows_items (h : Grows (Effect.ExpertOnly signer) a b) (slot : Slot) :
    Grows (SummaryItem.ExpertOnly signer) (items slot a) (items slot b) := by
  refine h.flatMap ?_
  rintro e ⟨slot', item, rfl, -, hitem⟩ item' hmem
  simp only [itemAt] at hmem
  split at hmem
  · obtain rfl := List.mem_singleton.mp hmem
    exact hitem
  · cases hmem

/-- The primary items are the same. -/
theorem items_primary_of_grows (h : Grows (Effect.ExpertOnly signer) a b) :
    items .primary a = items .primary b := by
  refine Grows.eq_of_forall_not (P := fun _ => False) (fun _ => id) (h.flatMap ?_)
  rintro e ⟨slot, item, rfl, hslot, -⟩ item' hmem
  rw [itemAt, if_neg hslot] at hmem
  cases hmem

theorem fail_mem_iff_of_grows (h : Grows (Effect.ExpertOnly signer) a b) :
    Effect.fail ∈ a ↔ Effect.fail ∈ b := by
  refine h.mem_iff ?_
  rintro ⟨slot, item, he, -⟩
  cases he

theorem bare_put {slot : Slot} {item : SummaryItem} (h : s.put slot item = some s') :
    s'.bare = s.bare := by
  cases slot <;> simp only [TransactionSummary.put] at h <;> split at h <;> cases h <;> rfl

/-- An effect does the same to what is not an item. -/
theorem bare_step {e : Effect} (hst : s.bare = t.bare) (hs : step s e = .ok s')
    (ht : step t e = .ok t') : s'.bare = t'.bare := by
  cases e with
  | put slot item | putChecked slot item =>
      rcases hput : s.put slot item with _ | s₁ <;> simp only [step, hput] at hs <;> cases hs
      rcases hput' : t.put slot item with _ | t₁ <;> simp only [step, hput'] at ht <;> cases ht
      rw [bare_put hput, bare_put hput', hst]
  | fail => cases hs
  | _ =>
      cases hs
      cases ht
      simp only [TransactionSummary.bare, TransactionSummary.mk.injEq] at hst ⊢
      simp [hst]

/-- **Scripts that differ in what only experts see leave the same flags.** -/
theorem bare_of_grows (h : Grows (Effect.ExpertOnly signer) a b) (hst : s.bare = t.bare)
    (ha : play a s = (.ok (), s')) (hb : play b t = (.ok (), t')) : s'.bare = t'.bare := by
  induction h generalizing s t with
  | nil => cases ha; cases hb; exact hst
  | @keep e a b _ ih =>
      rw [play] at ha hb
      rcases hs : step s e with stop | s₁ <;> rw [hs] at ha <;> [cases ha; skip]
      rcases ht : step t e with stop | t₁ <;> rw [ht] at hb <;> [cases hb; skip]
      exact ih (bare_step hst hs ht) ha hb
  | @add e a b he _ ih =>
      obtain ⟨slot, item, rfl, -⟩ := he
      rw [play] at hb
      rcases ht : step t (.put slot item) with stop | t₁ <;> rw [ht] at hb <;> [cases hb; skip]
      refine ih (hst.trans ?_) ha hb
      rcases hput : t.put slot item with _ | t₂ <;> simp only [step, hput] at ht <;> cases ht
      exact (bare_put hput).symm

end Script

/-! ## The two reviews of a message -/

section

variable {ctx : TokenContext} {messageBody : Parser} {signer : Pubkey} {user expert : PrintConfig}
  {parsed : List ParsedInstruction} {l : Layout} {s t : TransactionSummary}

/-- **When a message that has a layout is accepted**: its pattern is printed and the general items
fit. -/
theorem accepted_iff_of_layout {printConfig : PrintConfig}
    (hparsed : parseMessageBody ctx messageBody printConfig.header = (parsed, .ok ()))
    (hl : layout parsed = some l) :
    (processMessageBody ctx messageBody printConfig .reset).1 = .ok () ↔
      Effect.fail ∉ l.pattern.print printConfig ctx ∧
        l.warningSlots + (l.pattern.print printConfig ctx).generalCount + l.feeSlots
          ≤ numGeneralItems := by
  have hplay : (processMessageBody ctx messageBody printConfig .reset).1
      = (Script.play (parsed.flatMap (·.info.parseEffects) ++ l.script printConfig ctx) .reset).1 :=
    by simp only [processMessageBody, messageBodyScript, hparsed, printMessageBody_eq, hl]
  have hfail : Effect.fail ∉ parsed.flatMap (·.info.parseEffects) ++ l.script printConfig ctx ↔
      Effect.fail ∉ l.pattern.print printConfig ctx := by
    have hhead := fail_notMem_reviewHead printConfig parsed l.warning l.nonce
    rw [reviewHead_append]
    constructor
    · exact fun hnot hmem => hnot (List.mem_append_right _ (List.mem_append_left _ hmem))
    · intro hnot hmem
      rcases List.mem_append.mp hmem with hmem | hmem
      · exact hhead hmem
      · exact (List.mem_append.mp hmem).elim hnot l.unchecked_feeItems.fail_notMem
  rw [hplay, Script.play_ok_iff, hfail, ← @fits_script_iff printConfig ctx parsed l]
  rfl

/-- A pattern without room in expert mode fills a `NULL` item there: the patterns that look at
their items are printed the same in both modes. -/
theorem fillsNullItem_of_generalCount
    (hparsed : parseMessageBody ctx messageBody expert.header = (parsed, .ok ()))
    (hl : layout parsed = some l) (hfail : Effect.fail ∉ l.pattern.print expert ctx)
    (huser : l.warningSlots + (l.pattern.print user ctx).generalCount + l.feeSlots
      ≤ numGeneralItems)
    (hexpert : ¬l.warningSlots + (l.pattern.print expert ctx).generalCount + l.feeSlots
      ≤ numGeneralItems) :
    FillsNullItem ctx messageBody expert := by
  have hcrowded : l.pattern.isCrowded = true := by
    by_contra hnot
    obtain ⟨s, kinds, hs, -⟩ :=
      accepted_of_not_isCrowded hparsed hl hfail (Bool.not_eq_true _ ▸ hnot)
    exact hexpert ((accepted_iff_of_layout hparsed hl).mp (congrArg Prod.fst hs)).2
  have hunchecked : (l.pattern.print expert ctx).Unchecked := by
    refine unchecked_print hcrowded (fun index info hpattern => hexpert ?_)
      (fun create configure hpattern => hexpert ?_)
    · rw [hpattern] at huser ⊢
      exact huser
    · rw [hpattern] at huser ⊢
      exact huser
  simp only [FillsNullItem, messageBodyScript, hparsed, printMessageBody_eq, hl]
  refine (Script.play_nullItem_iff ?_).mpr fun hfits => hexpert (fits_script_iff.mp hfits)
  rw [reviewHead_append]
  simp only [Script.unchecked_append, unchecked_parseEffects, unchecked_headItems, hunchecked,
    l.unchecked_feeItems, and_self]

/-- **Expert mode refuses what user mode accepts for one reason only**, that it fills a `NULL`
item; and it accepts nothing else. -/
theorem accepted_expert_iff (h : user.Reveals signer expert) :
    (processMessageBody ctx messageBody expert .reset).1 = .ok () ↔
      (processMessageBody ctx messageBody user .reset).1 = .ok () ∧
        ¬FillsNullItem ctx messageBody expert := by
  constructor
  · intro hok
    obtain ⟨parsed, l, hparsed, hl, -⟩ := processMessageBody_ok_iff.mp hok
    obtain ⟨hfail, hcount⟩ := (accepted_iff_of_layout hparsed hl).mp hok
    have hgrows := grows_print h ctx l.pattern
    have hle : (l.pattern.print user ctx).generalCount
        ≤ (l.pattern.print expert ctx).generalCount :=
      (Script.grows_items hgrows .general).sublist.length_le
    refine ⟨(accepted_iff_of_layout (h.header_eq ▸ hparsed) hl).mpr
      ⟨fun hmem => hfail ((Script.fail_mem_iff_of_grows hgrows).mp hmem), by omega⟩,
      fun hnull => ?_⟩
    simp only [processMessageBody, hparsed] at hok
    rw [FillsNullItem, hok] at hnull
    cases hnull
  · rintro ⟨hok, hnull⟩
    obtain ⟨parsed, l, hparsed, hl, -⟩ := processMessageBody_ok_iff.mp hok
    obtain ⟨hfail, hcount⟩ := (accepted_iff_of_layout hparsed hl).mp hok
    have hparsed' := h.header_eq.symm ▸ hparsed
    have hfail' : Effect.fail ∉ l.pattern.print expert ctx := fun hmem =>
      hfail ((Script.fail_mem_iff_of_grows (grows_print h ctx l.pattern)).mpr hmem)
    refine (accepted_iff_of_layout hparsed' hl).mpr ⟨hfail', ?_⟩
    by_contra hexpert
    exact hnull (fillsNullItem_of_generalCount hparsed' hl hfail' hcount hexpert)

/-- The theorem on a message that pays from the signer's account. -/
theorem accepted_expert_iff_warned :
    (processMessageBody emptyContext warnedBody { warnedConfig with expertMode := true } .reset).1
        = .ok () ↔
      (processMessageBody emptyContext warnedBody warnedConfig .reset).1 = .ok () ∧
        ¬FillsNullItem emptyContext warnedBody { warnedConfig with expertMode := true } :=
  @accepted_expert_iff emptyContext warnedBody plainSigner _ _ ⟨rfl, rfl, rfl⟩

/-- **Expert mode adds items and changes nothing else**: the primary item and the flags are the
same, and the other items are those of user mode with items put in that only experts see. -/
theorem usedItems_grow (h : user.Reveals signer expert)
    (hs : processMessageBody ctx messageBody user .reset = (.ok (), s))
    (ht : processMessageBody ctx messageBody expert .reset = (.ok (), t)) :
    s.primary = t.primary ∧ s.bare = t.bare ∧
      Grows (SummaryItem.ExpertOnly signer) s.usedItems t.usedItems := by
  obtain ⟨parsed, l, hparsed, hl, -, hitems⟩ := processMessageBody_ok hs
  obtain ⟨parsed', l', hparsed', hl', -, hitems'⟩ := processMessageBody_ok ht
  obtain ⟨rfl, -⟩ := Prod.ext_iff.mp (hparsed.symm.trans (h.header_eq ▸ hparsed'))
  obtain rfl : l = l' := Option.some.inj (hl.symm.trans hl')
  have hgrows := grows_script h ctx l
  have hslot : ∀ slot, Grows (SummaryItem.ExpertOnly signer) (s.itemsOf slot) (t.itemsOf slot) :=
    fun slot => by
      rw [hitems slot, hitems' slot]
      exact (Grows.refl _).append (Script.grows_items hgrows slot)
  refine ⟨?_, ?_, ?_⟩
  · have hprimary : s.itemsOf .primary = t.itemsOf .primary := by
      rw [hitems, hitems', Script.items_primary_of_grows hgrows]
    rcases hs : s.primary with _ | item <;> rcases ht : t.primary with _ | item' <;>
      simp_all [TransactionSummary.itemsOf]
  · simp only [processMessageBody, messageBodyScript, hparsed, printMessageBody_eq, hl] at hs
    simp only [processMessageBody, messageBodyScript, hparsed', printMessageBody_eq, hl] at ht
    exact Script.bare_of_grows ((Grows.refl _).append hgrows) rfl hs ht
  · rw [TransactionSummary.usedItems_eq_itemsOf, TransactionSummary.usedItems_eq_itemsOf]
    exact ((((hslot _).append (hslot _)).append (hslot _)).append (hslot _)).append (hslot _)

/-- The review of that message in expert mode. -/
def warnedExpertReview : Result Unit × TransactionSummary :=
  processMessageBody emptyContext warnedBody { warnedConfig with expertMode := true } .reset

theorem warnedExpertReview_ok : warnedExpertReview.1 = .ok () := by decide

/-- The theorem on that message: experts see the sender too. -/
theorem usedItems_grow_warned :
    (warnedReview.2.primary = warnedExpertReview.2.primary ∧
      warnedReview.2.bare = warnedExpertReview.2.bare ∧
      Grows (SummaryItem.ExpertOnly plainSigner) warnedReview.2.usedItems
        warnedExpertReview.2.usedItems) ∧
      warnedReview.2.usedItems.length + 1 = warnedExpertReview.2.usedItems.length :=
  ⟨usedItems_grow ⟨rfl, rfl, rfl⟩ (Prod.ext warnedReview_ok rfl)
      (Prod.ext warnedExpertReview_ok rfl),
    by decide⟩

end

end AgencLedger
