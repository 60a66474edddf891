import AgencLedger.Review.Body

/-!
# Review/Authorities — the accounts that fund or authorise, and whether they are named

`print_config_show_authority` names an account unless it is the signer outside expert mode, and
each printer asks it about the accounts it takes up.  The patterns of several instructions do not
take up all of them: a prefunded split leaves out who prefunds it outside expert mode, a split
behind a creation the funder of the account, and two authorizations the authority of the first.
-/

namespace AgencLedger

/-! ## Authorities of an instruction -/

/-- The source of a transfer, the funder of an account, or the authority of a nonce. -/
def SystemInfo.authorities : SystemInfo → List (Ptr Pubkey)
  | .transfer info => [info.from]
  | .createAccount info => [info.from]
  | .createAccountWithSeed info => [info.from]
  | .advanceNonce info => [info.authority]
  | .withdrawNonce info => [info.authority]
  | .authorizeNonce info => [info.authority]
  | _ => []

/-- The authority over the stake, and the custodian of its lockup. -/
def StakeInfo.authorities : StakeInfo → List (Ptr Pubkey)
  | .delegateStake info => [info.authorizedPubkey]
  | .withdraw info => [info.authority]
  | .authorize info => info.authority :: info.custodian.toList
  | .authorizeChecked info => info.authority :: info.custodian.toList
  | .deactivate info => [info.authority]
  | .setLockup info => [info.custodian]
  | .setLockupChecked info => [info.custodian]
  | .split info => [info.authority]
  | .merge info => [info.authority]
  | _ => []

/-- The authority over the votes. -/
def VoteInfo.authorities : VoteInfo → List (Ptr Pubkey)
  | .withdraw info => [info.authority]
  | .authorize info => [info.authority]
  | .authorizeChecked info => [info.authority]
  | .updateValidatorId info => [info.authority]
  | .updateCommission info => [info.authority]
  | _ => []

/-- **The accounts that fund or authorise** a System, stake or vote instruction. -/
def InstructionInfo.authorities : InstructionInfo → List (Ptr Pubkey)
  | .system info => info.authorities
  | .stake info => info.authorities
  | .vote info => info.authorities
  | _ => []

/-! ## Authorities of a pattern -/

/-- **The pattern does not name the authorities of the instruction**: it prefunds a split outside
expert mode, creates the account of one, or is the first of two authorizations. -/
def Pattern.HidesAuthorities (printConfig : PrintConfig) : Pattern → InstructionInfo → Prop
  | .stakeSplitV1_3 .., .system (.transfer _) => printConfig.expertMode = false
  | .stakeSplitWithSeedV1_3 .., .system (.transfer _) => printConfig.expertMode = false
  | .stakeSplitV1_2 .., .system (.createAccount _) => True
  | .stakeSplitWithSeedV1_2 .., .system (.createAccountWithSeed _) => True
  | .stakeAuthorizeBoth staker _, .stake (.authorize info) => info = staker
  | .stakeAuthorizeBoth staker _, .stake (.authorizeChecked info) => info = staker
  | .voteAuthorizeBoth voter _, .vote (.authorize info) => info = voter
  | .voteAuthorizeBoth voter _, .vote (.authorizeChecked info) => info = voter
  | _, _ => False

/-- The authorities a pattern names, unless they are the signer. -/
def Pattern.authorities (printConfig : PrintConfig) : Pattern → List (Ptr Pubkey)
  | .system info => info.authorities
  | .stake info => info.authorities
  | .vote info => info.authorities
  | .createStakeAccount ca _ => [ca.from]
  | .createStakeAccountWithSeed cws _ => [cws.from]
  | .createNonceAccount ca _ => [ca.from]
  | .createNonceAccountWithSeed cws _ => [cws.from]
  | .createVoteAccount ca _ => [ca.from]
  | .createVoteAccountWithSeed cws _ => [cws.from]
  | .stakeAuthorizeBoth _ withdrawer => withdrawer.authority :: withdrawer.custodian.toList
  | .voteAuthorizeBoth _ withdrawer => [withdrawer.authority]
  | .stakeSplitWithSeedV1_1 _ ss => [ss.authority]
  | .stakeSplitV1_2 _ ss => [ss.authority]
  | .stakeSplitWithSeedV1_2 _ ss => [ss.authority]
  | .splTokenCreateMint ca _ => [ca.from]
  | .splTokenCreateAccount ca _ => [ca.from]
  | .splTokenCreateMultisig ca _ => [ca.from]
  | .createStakeAccountAndDelegate ca _ sd => [ca.from, sd.authorizedPubkey]
  | .createStakeAccountWithSeedAndDelegate cws _ sd => [cws.from, sd.authorizedPubkey]
  | .stakeSplitV1_1 _ _ ss => [ss.authority]
  | .stakeSplitWithSeedV1_3 prefund _ ss =>
      (if printConfig.expertMode then [prefund.from] else []) ++ [ss.authority]
  | .stakeSplitV1_3 prefund _ _ ss =>
      (if printConfig.expertMode then [prefund.from] else []) ++ [ss.authority]
  | _ => []

section

variable {printConfig : PrintConfig}

theorem mem_authorities_two {a b info : InstructionInfo} {pattern : Pattern}
    {authority : Ptr Pubkey} (h : recogniseTwo a b = some pattern) (hinfo : info ∈ [a, b])
    (hauthority : authority ∈ info.authorities)
    (hhides : ¬pattern.HidesAuthorities printConfig info) :
    authority ∈ pattern.authorities printConfig := by
  unfold recogniseTwo at h
  rcases List.mem_pair.mp hinfo with rfl | rfl <;> split at h <;> cases h <;>
    simp_all [InstructionInfo.authorities, SystemInfo.authorities, StakeInfo.authorities,
      VoteInfo.authorities, Pattern.authorities, Pattern.HidesAuthorities]

theorem mem_authorities_three {a b c info : InstructionInfo} {pattern : Pattern}
    {authority : Ptr Pubkey} (h : recogniseThree a b c = some pattern) (hinfo : info ∈ [a, b, c])
    (hauthority : authority ∈ info.authorities)
    (hhides : ¬pattern.HidesAuthorities printConfig info) :
    authority ∈ pattern.authorities printConfig := by
  unfold recogniseThree at h
  simp only [List.mem_cons, List.not_mem_nil, or_false] at hinfo
  rcases hinfo with rfl | rfl | rfl <;> split at h <;> cases h <;>
    simp_all [InstructionInfo.authorities, SystemInfo.authorities, StakeInfo.authorities,
      Pattern.authorities, Pattern.HidesAuthorities]

theorem mem_authorities_four {a b c d info : InstructionInfo} {pattern : Pattern}
    {authority : Ptr Pubkey} (h : recogniseFour a b c d = some pattern)
    (hinfo : info ∈ [a, b, c, d]) (hauthority : authority ∈ info.authorities)
    (hhides : ¬pattern.HidesAuthorities printConfig info) :
    authority ∈ pattern.authorities printConfig := by
  unfold recogniseFour at h
  simp only [List.mem_cons, List.not_mem_nil, or_false] at hinfo
  rcases hinfo with rfl | rfl | rfl | rfl <;> split at h <;> cases h <;>
    simp_all [InstructionInfo.authorities, SystemInfo.authorities, StakeInfo.authorities,
      Pattern.authorities, Pattern.HidesAuthorities]

/-- **A pattern keeps the authorities it does not hide.** -/
theorem mem_authorities {core : List InstructionInfo} {pattern : Pattern} {info : InstructionInfo}
    {authority : Ptr Pubkey} (h : recognise core = some pattern) (hinfo : info ∈ core)
    (hauthority : authority ∈ info.authorities)
    (hhides : ¬pattern.HidesAuthorities printConfig info) :
    authority ∈ pattern.authorities printConfig := by
  unfold recognise at h
  split at h
  · unfold recogniseOne at h
    obtain rfl := List.mem_singleton.mp hinfo
    split at h <;> cases h <;> exact hauthority
  · exact mem_authorities_two h hinfo hauthority hhides
  · exact mem_authorities_three h hinfo hauthority hhides
  · exact mem_authorities_four h hinfo hauthority hhides
  · cases h

/-! ## Naming an account -/

/-- The script has an item with the key. -/
def Script.Names (script : Script) (key : Ptr Pubkey) : Prop :=
  ∃ slot, ∃ item ∈ Script.items slot script, item.value = .pubkey key

namespace Script

variable {key : Ptr Pubkey}

@[simp] theorem names_append {a b : Script} : Names (a ++ b) key ↔ Names a key ∨ Names b key := by
  simp only [Names, items_append, List.mem_append]
  constructor
  · rintro ⟨slot, item, ha | hb, hvalue⟩
    · exact .inl ⟨slot, item, ha, hvalue⟩
    · exact .inr ⟨slot, item, hb, hvalue⟩
  · rintro (⟨slot, item, ha, hvalue⟩ | ⟨slot, item, hb, hvalue⟩)
    · exact ⟨slot, item, .inl ha, hvalue⟩
    · exact ⟨slot, item, .inr hb, hvalue⟩

@[simp] theorem names_general (title : String) : Names (general title (.pubkey key)) key :=
  ⟨.general, ⟨title, .pubkey key⟩, by simp, rfl⟩

end Script

/-- **`print_config_show_authority` lets every account be named but the signer.** -/
theorem names_generalAuthority {authority : Ptr Pubkey}
    (h : authority.val ≠ printConfig.signerPubkey.val) (title : String) :
    Script.Names (generalAuthority printConfig title authority) authority := by
  have hshow : printConfig.showAuthority authority = true := by
    simp [PrintConfig.showAuthority, pubkeysEqual, h.symm]
  rw [generalAuthority, if_pos hshow]
  exact Script.names_general title

/-- The items of an optional custodian. -/
theorem names_custodianItem {custodian : Option (Ptr Pubkey)} {authority : Ptr Pubkey}
    (h : authority.val ≠ printConfig.signerPubkey.val) (hmem : authority ∈ custodian) :
    Script.Names (custodianItem printConfig custodian) authority := by
  obtain rfl := Option.mem_def.mp hmem
  exact names_generalAuthority h "Custodian"

/-! ## The printers -/

section

variable {authority : Ptr Pubkey} (h : authority.val ≠ printConfig.signerPubkey.val)

include h

theorem names_printSystemInfo {info : SystemInfo} (hmem : authority ∈ info.authorities) :
    Script.Names (printSystemInfo info printConfig) authority := by
  cases info with
  | transfer info | createAccount info | createAccountWithSeed info | advanceNonce info
  | withdrawNonce info | authorizeNonce info =>
      obtain rfl := List.mem_singleton.mp hmem
      simp [printSystemInfo, printSystemTransferInfo, printSystemCreateAccountInfo,
        printSystemCreateAccountWithSeedInfo, printSystemAdvanceNonceAccount,
        printSystemWithdrawNonceInfo, printSystemAuthorizeNonceInfo, names_generalAuthority h]
  | _ => cases hmem

theorem names_printStakeAuthorizeInfo {info : StakeAuthorizeInfo}
    (hmem : authority ∈ info.authority :: info.custodian.toList) :
    Script.Names (printStakeAuthorizeInfo info printConfig) authority := by
  rw [printStakeAuthorizeInfo, Script.names_append, Script.names_append]
  rcases List.mem_cons.mp hmem with rfl | hcustodian
  · exact .inl (.inr (names_generalAuthority h _))
  · exact .inr (names_custodianItem h (Option.mem_toList.mp hcustodian))

theorem names_printStakeInfo (sdk : Sdk) {info : StakeInfo} (hmem : authority ∈ info.authorities) :
    Script.Names (printStakeInfo sdk info printConfig) authority := by
  cases info with
  | delegateStake info | withdraw info | deactivate info | setLockup info | setLockupChecked info
  | split info | merge info =>
      obtain rfl := List.mem_singleton.mp hmem
      simp [printStakeInfo, printDelegateStakeInfo, printStakeWithdrawInfo,
        printStakeDeactivateInfo, printStakeSetLockupInfo, printStakeSplitInfo,
        printStakeSplitInfo2, printStakeMergeInfo, names_generalAuthority h]
  | authorize info | authorizeChecked info => exact names_printStakeAuthorizeInfo h hmem
  | _ => cases hmem

theorem names_printVoteInfo {info : VoteInfo} (hmem : authority ∈ info.authorities) :
    Script.Names (printVoteInfo info printConfig) authority := by
  cases info with
  | withdraw info | authorize info | authorizeChecked info | updateValidatorId info
  | updateCommission info =>
      obtain rfl := List.mem_singleton.mp hmem
      simp [printVoteInfo, printVoteWithdrawInfo, printVoteAuthorizeInfo,
        printVoteUpdateValidatorIdInfo, printVoteUpdateCommissionInfo, names_generalAuthority h]
  | _ => cases hmem

theorem names_printSystemCreateAccountInfo (title : Option String) (displayOwner : Bool)
    {info : SystemCreateAccountInfo} (hfrom : authority = info.from) :
    Script.Names (printSystemCreateAccountInfo title info printConfig displayOwner) authority := by
  obtain rfl := hfrom
  simp [printSystemCreateAccountInfo, names_generalAuthority h]

theorem names_printSystemCreateAccountWithSeedInfo (title : Option String) (displayOwner : Bool)
    {info : SystemCreateAccountWithSeedInfo} (hfrom : authority = info.from) :
    Script.Names (printSystemCreateAccountWithSeedInfo title info printConfig displayOwner)
      authority := by
  obtain rfl := hfrom
  simp [printSystemCreateAccountWithSeedInfo, names_generalAuthority h]

theorem names_printDelegateStakeInfo (sdk : Sdk) (title : Option String) {info : StakeDelegateInfo}
    (hauthorized : authority = info.authorizedPubkey) :
    Script.Names (printDelegateStakeInfo sdk title info printConfig) authority := by
  obtain rfl := hauthorized
  simp [printDelegateStakeInfo, names_generalAuthority h]

theorem names_printStakeSplitInfo2 {info : StakeSplitInfo} (hsplit : authority = info.authority) :
    Script.Names (printStakeSplitInfo2 info printConfig) authority := by
  obtain rfl := hsplit
  exact names_generalAuthority h _

theorem names_printStakeSplitWithSeed {base : Ptr Pubkey} {seed : SizedString}
    {info : StakeSplitInfo} (hsplit : authority = info.authority) :
    Script.Names (printStakeSplitWithSeed printConfig base seed info) authority :=
  Script.names_append.mpr (.inr (names_printStakeSplitInfo2 h hsplit))

theorem names_printStakeSplitInfo {info : StakeSplitInfo} (hsplit : authority = info.authority) :
    Script.Names (printStakeSplitInfo info printConfig) authority :=
  Script.names_append.mpr (.inr (names_printStakeSplitInfo2 h hsplit))

theorem names_printStakeAuthorizeBoth {staker withdrawer : StakeAuthorizeInfo}
    (hfail : Effect.fail ∉ printStakeAuthorizeBoth printConfig staker withdrawer)
    (hmem : authority ∈ withdrawer.authority :: withdrawer.custodian.toList) :
    Script.Names (printStakeAuthorizeBoth printConfig staker withdrawer) authority := by
  unfold printStakeAuthorizeBoth at hfail ⊢
  split at hfail
  · exact absurd List.mem_cons_self hfail
  · rename_i hkinds
    rw [if_neg hkinds]
    rcases List.mem_cons.mp hmem with rfl | hcustodian
    · exact Script.names_append.mpr (.inr (names_generalAuthority h _))
    · rw [Option.mem_def.mp (Option.mem_toList.mp hcustodian)]
      simp

theorem names_printVoteAuthorizeBoth {voter withdrawer : VoteAuthorizeInfo}
    (hfail : Effect.fail ∉ printVoteAuthorizeBoth printConfig voter withdrawer)
    (hwithdrawer : authority = withdrawer.authority) :
    Script.Names (printVoteAuthorizeBoth printConfig voter withdrawer) authority := by
  unfold printVoteAuthorizeBoth at hfail ⊢
  split at hfail
  · exact absurd List.mem_cons_self hfail
  · rename_i hkinds
    obtain rfl := hwithdrawer
    rw [if_neg hkinds]
    exact Script.names_append.mpr (.inr (names_generalAuthority h _))

theorem names_printSystemPrefundForSplit {info : SystemTransferInfo}
    (hmem : authority ∈ if printConfig.expertMode then [info.from] else []) :
    Script.Names (printSystemPrefundForSplit info printConfig) authority := by
  unfold printSystemPrefundForSplit
  split at hmem
  · rename_i hexpert
    obtain rfl := List.mem_singleton.mp hmem
    rw [if_pos hexpert]
    exact Script.names_append.mpr (.inr (Script.names_general _))
  · cases hmem

/-- **A pattern names its authorities, but for the signer.** -/
theorem names_print (ctx : TokenContext) {pattern : Pattern}
    (hfail : Effect.fail ∉ pattern.print printConfig ctx)
    (hmem : authority ∈ pattern.authorities printConfig) :
    Script.Names (pattern.print printConfig ctx) authority := by
  cases pattern with
  | system info => exact names_printSystemInfo h hmem
  | stake info => exact names_printStakeInfo h ctx.sdk hmem
  | vote info => exact names_printVoteInfo h hmem
  | createStakeAccount ca _ | createNonceAccount ca _ | createVoteAccount ca _ =>
      have hca := names_printSystemCreateAccountInfo h none false (List.mem_singleton.mp hmem)
      simp [Pattern.print, printCreateStakeAccount, printCreateNonceAccount, printCreateVoteAccount,
        hca]
  | createStakeAccountWithSeed cws _ | createNonceAccountWithSeed cws _
  | createVoteAccountWithSeed cws _ =>
      have hcws := names_printSystemCreateAccountWithSeedInfo h none false
        (List.mem_singleton.mp hmem)
      simp [Pattern.print, printCreateStakeAccountWithSeed, printCreateNonceAccountWithSeed,
        printCreateVoteAccountWithSeed, hcws]
  | createStakeAccountAndDelegate ca _ sd =>
      rcases List.mem_pair.mp hmem with hca | hsd
      · have hca := names_printSystemCreateAccountInfo h none false hca
        simp [Pattern.print, printCreateStakeAccountAndDelegate, hca]
      · have hsd := names_printDelegateStakeInfo h ctx.sdk none hsd
        simp [Pattern.print, printCreateStakeAccountAndDelegate, hsd]
  | createStakeAccountWithSeedAndDelegate cws _ sd =>
      rcases List.mem_pair.mp hmem with hcws | hsd
      · have hcws := names_printSystemCreateAccountWithSeedInfo h none false hcws
        simp [Pattern.print, printCreateStakeAccountWithSeedAndDelegate, hcws]
      · have hsd := names_printDelegateStakeInfo h ctx.sdk none hsd
        simp [Pattern.print, printCreateStakeAccountWithSeedAndDelegate, hsd]
  | splTokenCreateMint ca _ | splTokenCreateAccount ca _ | splTokenCreateMultisig ca _ =>
      obtain rfl := List.mem_singleton.mp hmem
      simp [Pattern.print, printSplTokenCreateMint, printSplTokenCreateAccount,
        printSplTokenCreateMultisig, names_generalAuthority h]
  | stakeAuthorizeBoth staker withdrawer => exact names_printStakeAuthorizeBoth h hfail hmem
  | voteAuthorizeBoth voter withdrawer =>
      exact names_printVoteAuthorizeBoth h hfail (List.mem_singleton.mp hmem)
  | stakeSplitWithSeedV1_1 _ ss | stakeSplitWithSeedV1_2 _ ss =>
      exact names_printStakeSplitWithSeed h (List.mem_singleton.mp hmem)
  | stakeSplitV1_2 _ ss | stakeSplitV1_1 _ _ ss =>
      exact names_printStakeSplitInfo h (List.mem_singleton.mp hmem)
  | stakeSplitWithSeedV1_3 prefund aws ss =>
      rcases List.mem_append.mp hmem with hprefund | hsplit
      · exact Script.names_append.mpr (.inl (names_printSystemPrefundForSplit h hprefund))
      · exact Script.names_append.mpr
          (.inr (names_printStakeSplitWithSeed h (List.mem_singleton.mp hsplit)))
  | stakeSplitV1_3 prefund _ _ ss =>
      rcases List.mem_append.mp hmem with hprefund | hsplit
      · exact Script.names_append.mpr (.inl (names_printSystemPrefundForSplit h hprefund))
      · exact Script.names_append.mpr
          (.inr (names_printStakeSplitInfo h (List.mem_singleton.mp hsplit)))
  | _ => cases hmem

end

end

/-! ## Accepted messages -/

/-- The displayed instructions past a leading nonce advance and the compute budget in front. -/
def patternInstructions (parsed : List ParsedInstruction) : List InstructionInfo :=
  (preprocessComputeBudgetInstructions (splitNonce (displayInstructionInfo parsed)).2).1

/-- **The displayed instructions** are a leading nonce advance, the compute budget in front, and
those of the pattern. -/
theorem displayInstructionInfo_patternInstructions (parsed : List ParsedInstruction) :
    ∃ (nonce : Option SystemAdvanceNonceInfo) (budgets : List ComputeBudgetInfo),
      displayInstructionInfo parsed = (nonce.toList.map fun n => .system (.advanceNonce n))
        ++ budgets.map .computeBudget ++ patternInstructions parsed := by
  rcases hnonce : splitNonce (displayInstructionInfo parsed) with ⟨nonce, infos⟩
  rcases hbudget : preprocessComputeBudgetInstructions infos with ⟨core, feeInfo⟩
  obtain ⟨budgets, hinfos, -⟩ := preprocessComputeBudgetInstructions_spec hbudget
  refine ⟨nonce, budgets, ?_⟩
  rw [patternInstructions, hnonce, hbudget, splitNonce_eq hnonce, hinfos, List.append_assoc]

/-- They come from the parsed ones. -/
theorem exists_parsed_of_patternInstructions {parsed : List ParsedInstruction}
    {info : InstructionInfo} (h : info ∈ patternInstructions parsed) :
    ∃ q ∈ parsed, q.ignored = false ∧ q.info = info := by
  obtain ⟨nonce, budgets, hdisplay⟩ := displayInstructionInfo_patternInstructions parsed
  obtain ⟨q, hq, hignored, -, hinfo⟩ := mem_displayInstructionInfo.mp
    (hdisplay ▸ List.mem_append_right _ h)
  exact ⟨q, hq, hignored, hinfo⟩

theorem recognise_patternInstructions {parsed : List ParsedInstruction} {l : Layout}
    (h : layout parsed = some l) : recognise (patternInstructions parsed) = some l.pattern := by
  unfold layout at h
  simp only at h
  split at h
  · rename_i hpattern
    cases h
    exact hpattern
  · cases h

/-- **An accepted message names the accounts that fund or authorise its instructions**, where they
are not the signer, but for those of the first of two authorizations, of the creation in front of a
split, and, outside expert mode, of the transfer that prefunds a split. -/
theorem authorities_named {ctx : TokenContext} {messageBody : Parser} {printConfig : PrintConfig}
    {s : TransactionSummary}
    (h : processMessageBody ctx messageBody printConfig .reset = (.ok (), s))
    {parsed : List ParsedInstruction}
    (hparsed : parseMessageBody ctx messageBody printConfig.header = (parsed, .ok ()))
    {info : InstructionInfo} (hinfo : info ∈ patternInstructions parsed)
    (hhides : ∀ pattern, recognise (patternInstructions parsed) = some pattern →
      ¬pattern.HidesAuthorities printConfig info)
    {authority : Ptr Pubkey} (hauthority : authority ∈ info.authorities)
    (hsigner : authority.val ≠ printConfig.signerPubkey.val) :
    ∃ item ∈ s.usedItems, item.value = .pubkey authority := by
  obtain ⟨parsed', l, hparsed', hl, hfail, hitems⟩ := processMessageBody_ok h
  obtain ⟨rfl, -⟩ := Prod.ext_iff.mp (hparsed.symm.trans hparsed')
  have hpattern := recognise_patternInstructions hl
  simp only [Layout.script, List.mem_append, not_or] at hfail
  obtain ⟨slot, item, hitem, hvalue⟩ := names_print hsigner ctx hfail.1.2
    (mem_authorities hpattern hinfo hauthority (hhides l.pattern hpattern))
  refine ⟨item, TransactionSummary.mem_usedItems.mpr ⟨slot, ?_⟩, hvalue⟩
  rw [hitems slot, Layout.script, Script.items_append, Script.items_append]
  exact List.mem_append_right _ (List.mem_append_left _ (List.mem_append_right _ hitem))

/-! ## A sender that is named, and one that is not -/

theorem length_senderKey : (List.replicate 32 (2 : UInt8)).length = 32 := rfl

/-- The keys of a message whose second account is not the signer. -/
def senderKeys : List Pubkey :=
  [plainSigner, ⟨List.replicate 32 2, length_senderKey⟩, systemProgramId, stakeProgramId]

/-- The key of that account, where it stands in the message. -/
def senderKey : Ptr Pubkey := ⟨36, ⟨List.replicate 32 2, length_senderKey⟩⟩

/-- A message with those keys. -/
def senderBody (instructions : List (List UInt8)) : Parser := legacyBody senderKeys instructions

/-- Its default display. -/
def senderConfig (instructionsLength : ℕ) : PrintConfig :=
  plainConfig (legacyHeader senderKeys (by decide) instructionsLength) ⟨4, plainSigner⟩

/-- Its review. -/
def senderReview (instructions : List (List UInt8)) : Result Unit × TransactionSummary :=
  processMessageBody emptyContext (senderBody instructions)
    (senderConfig instructions.length) .reset

/-- What it is parsed to. -/
def senderParsed (instructions : List (List UInt8)) : List ParsedInstruction :=
  (parseMessageBody emptyContext (senderBody instructions)
    (senderConfig instructions.length).header).1

/-- A transfer of five lamports from that account to the signer. -/
def senderTransfer : List UInt8 := writeInstruction 2 [1, 0] [2, 0, 0, 0, 5, 0, 0, 0, 0, 0, 0, 0]

/-- What the transfer is parsed to. -/
def senderInfo : InstructionInfo := .system (.transfer ⟨senderKey, ⟨4, plainSigner⟩, 5⟩)

/-- The theorem on a transfer alone. -/
theorem authorities_named_senderTransfer :
    ∃ item ∈ (senderReview [senderTransfer]).2.usedItems, item.value = .pubkey senderKey := by
  have hreview : (senderReview [senderTransfer]).1 = .ok () := by decide
  have hparsed : (parseMessageBody emptyContext (senderBody [senderTransfer])
      (senderConfig 1).header).2 = .ok () := by
    decide
  have hrecognise : recognise (patternInstructions (senderParsed [senderTransfer]))
      = some (.system (.transfer ⟨senderKey, ⟨4, plainSigner⟩, 5⟩)) := by
    decide
  refine @authorities_named emptyContext (senderBody [senderTransfer]) (senderConfig 1)
    (senderReview [senderTransfer]).2 (by rw [← hreview]; rfl)
    (senderParsed [senderTransfer]) (by rw [← hparsed]; rfl) senderInfo (by decide)
    (fun pattern hpattern => ?_) senderKey (by decide) (by decide)
  obtain rfl := Option.some.inj (hrecognise.symm.trans hpattern)
  exact not_false

/-- A split of the signer's stake that the other account prefunds. -/
def senderSplit : List (List UInt8) :=
  [senderTransfer, writeInstruction 2 [0] [8, 0, 0, 0, 200, 0, 0, 0, 0, 0, 0, 0],
    writeInstruction 2 [0] ([1, 0, 0, 0] ++ stakeProgramId.data),
    writeInstruction 3 [0, 0, 0] [3, 0, 0, 0, 7, 0, 0, 0, 0, 0, 0, 0]]

/-- **In default display a prefunded split does not name the account that prefunds it**, though it
is not the signer. -/
theorem senderSplit_hides_sender :
    (senderReview senderSplit).1 = .ok () ∧
      senderInfo ∈ patternInstructions (senderParsed senderSplit) ∧
      senderKey ∈ senderInfo.authorities ∧ senderKey.val ≠ plainSigner ∧
      ¬∃ item ∈ (senderReview senderSplit).2.usedItems, item.value = .pubkey senderKey := by
  decide

end AgencLedger
