import AgencLedger.Program.Agenc
import AgencLedger.Program.AssociatedTokenAccount
import AgencLedger.Program.ComputeBudget
import AgencLedger.Program.SplToken
import AgencLedger.Program.Stake
import AgencLedger.Program.Vote

/-!
# Sol/TransactionPrinters — from a list of instructions to a review

A message is shown only when its displayed instructions, past a leading nonce advance and a prefix
of compute budget instructions, form one of the known patterns.  `recognise` tells which one,
`Pattern.print` is its printer.
-/

namespace AgencLedger

/-- `InstructionInfo`, by kind.  For AgenC it also holds the record's place in
`instruction_info`. -/
inductive InstructionInfo
  | unknown
  | system (info : SystemInfo)
  | stake (info : StakeInfo)
  | vote (info : VoteInfo)
  | splToken (info : SplTokenInfo)
  | splAssociatedTokenAccount (create : SplAssociatedTokenAccountCreateInfo)
  | splMemo
  | serumAssertOwner
  | computeBudget (info : ComputeBudgetInfo)
  | agenc (index : ℕ) (info : AgencInfo)
  deriving DecidableEq

/-! ## Patterns -/

/-- The instructions that are shown together, with what their printer reads of them. -/
inductive Pattern
  -- one instruction
  | system (info : SystemInfo)
  | stake (info : StakeInfo)
  | vote (info : VoteInfo)
  | splToken (info : SplTokenInfo)
  | splAssociatedTokenAccount (create : SplAssociatedTokenAccountCreateInfo)
  | agenc (index : ℕ) (info : AgencInfo)
  -- two
  | createStakeAccount (ca : SystemCreateAccountInfo) (si : StakeInitializeInfo)
  | createStakeAccountWithSeed (cws : SystemCreateAccountWithSeedInfo) (si : StakeInitializeInfo)
  | createNonceAccount (ca : SystemCreateAccountInfo) (ni : SystemInitializeNonceInfo)
  | createNonceAccountWithSeed (cws : SystemCreateAccountWithSeedInfo)
      (ni : SystemInitializeNonceInfo)
  | createVoteAccount (ca : SystemCreateAccountInfo) (vi : VoteInitializeInfo)
  | createVoteAccountWithSeed (cws : SystemCreateAccountWithSeedInfo) (vi : VoteInitializeInfo)
  | stakeAuthorizeBoth (staker withdrawer : StakeAuthorizeInfo)
  | voteAuthorizeBoth (voter withdrawer : VoteAuthorizeInfo)
  | stakeSplitWithSeedV1_1 (aws : SystemAllocateWithSeedInfo) (ss : StakeSplitInfo)
  | stakeSplitV1_2 (ca : SystemCreateAccountInfo) (ss : StakeSplitInfo)
  | stakeSplitWithSeedV1_2 (cws : SystemCreateAccountWithSeedInfo) (ss : StakeSplitInfo)
  | splTokenCreateMint (ca : SystemCreateAccountInfo) (im : SplTokenInitializeMintInfo)
  | splTokenCreateAccount (ca : SystemCreateAccountInfo) (ia : SplTokenInitializeAccountInfo)
  | splTokenCreateMultisig (ca : SystemCreateAccountInfo) (im : SplTokenInitializeMultisigInfo)
  | splAssociatedTokenAccountCreateWithTransfer (create : SplAssociatedTokenAccountCreateInfo)
      (isToken2022Kind : Bool) (transfer : SplTokenTransferInfo)
  | agencCreateTaskWithReview (create configure : AgencInfo)
  -- three
  | createStakeAccountAndDelegate (ca : SystemCreateAccountInfo) (si : StakeInitializeInfo)
      (sd : StakeDelegateInfo)
  | createStakeAccountWithSeedAndDelegate (cws : SystemCreateAccountWithSeedInfo)
      (si : StakeInitializeInfo) (sd : StakeDelegateInfo)
  | stakeSplitV1_1 (allocate : SystemAllocateInfo) (assign : SystemAssignInfo)
      (ss : StakeSplitInfo)
  | stakeSplitWithSeedV1_3 (prefund : SystemTransferInfo) (aws : SystemAllocateWithSeedInfo)
      (ss : StakeSplitInfo)
  -- four
  | stakeSplitV1_3 (prefund : SystemTransferInfo) (allocate : SystemAllocateInfo)
      (assign : SystemAssignInfo) (ss : StakeSplitInfo)
  deriving DecidableEq

/-- The pattern of one instruction: a `switch` over its kind. -/
def recogniseOne : InstructionInfo → Option Pattern
  | .system info => some (.system info)
  | .stake info => some (.stake info)
  | .vote info => some (.vote info)
  | .splToken info => some (.splToken info)
  | .splAssociatedTokenAccount create => some (.splAssociatedTokenAccount create)
  | .agenc index info => some (.agenc index info)
  | _ => none

/-- The pattern of two instructions.  The briefs exclude one another, so their order in the source
is of no account. -/
def recogniseTwo : InstructionInfo → InstructionInfo → Option Pattern
  | .system (.createAccount ca), .stake (.stakeInitialize si) => some (.createStakeAccount ca si)
  | .system (.createAccount ca), .stake (.initializeChecked si) => some (.createStakeAccount ca si)
  | .system (.createAccountWithSeed cws), .stake (.stakeInitialize si) =>
      some (.createStakeAccountWithSeed cws si)
  | .system (.createAccountWithSeed cws), .stake (.initializeChecked si) =>
      some (.createStakeAccountWithSeed cws si)
  | .system (.createAccount ca), .system (.initializeNonce ni) =>
      some (.createNonceAccount ca ni)
  | .system (.createAccountWithSeed cws), .system (.initializeNonce ni) =>
      some (.createNonceAccountWithSeed cws ni)
  | .system (.createAccount ca), .vote (.voteInitialize vi) => some (.createVoteAccount ca vi)
  | .system (.createAccountWithSeed cws), .vote (.voteInitialize vi) =>
      some (.createVoteAccountWithSeed cws vi)
  | .stake (.authorize staker), .stake (.authorize withdrawer) =>
      some (.stakeAuthorizeBoth staker withdrawer)
  | .stake (.authorizeChecked staker), .stake (.authorizeChecked withdrawer) =>
      some (.stakeAuthorizeBoth staker withdrawer)
  | .vote (.authorize voter), .vote (.authorize withdrawer) =>
      some (.voteAuthorizeBoth voter withdrawer)
  | .vote (.authorizeChecked voter), .vote (.authorizeChecked withdrawer) =>
      some (.voteAuthorizeBoth voter withdrawer)
  | .system (.allocateWithSeed aws), .stake (.split ss) => some (.stakeSplitWithSeedV1_1 aws ss)
  | .system (.createAccount ca), .stake (.split ss) => some (.stakeSplitV1_2 ca ss)
  | .system (.createAccountWithSeed cws), .stake (.split ss) =>
      some (.stakeSplitWithSeedV1_2 cws ss)
  | .system (.createAccount ca), .splToken ⟨_, _, .initializeMint im⟩ =>
      some (.splTokenCreateMint ca im)
  | .system (.createAccount ca), .splToken ⟨_, _, .initializeAccount ia⟩ =>
      some (.splTokenCreateAccount ca ia)
  | .system (.createAccount ca), .splToken ⟨_, _, .initializeAccount2 ia⟩ =>
      some (.splTokenCreateAccount ca ia)
  | .system (.createAccount ca), .splToken ⟨_, _, .initializeMultisig im⟩ =>
      some (.splTokenCreateMultisig ca im)
  | .splAssociatedTokenAccount create, .splToken ⟨token2022, _, .transferChecked transfer⟩ =>
      some (.splAssociatedTokenAccountCreateWithTransfer create token2022 transfer)
  | .splAssociatedTokenAccount create, .splToken ⟨token2022, _, .transferCheckedWithFee transfer⟩ =>
      some (.splAssociatedTokenAccountCreateWithTransfer create token2022 transfer)
  | .agenc _ ⟨id, .createTask task⟩, .agenc _ ⟨id', .configureTaskValidation configure⟩ =>
      some (.agencCreateTaskWithReview ⟨id, .createTask task⟩
        ⟨id', .configureTaskValidation configure⟩)
  | _, _ => none

/-- The pattern of three instructions. -/
def recogniseThree : InstructionInfo → InstructionInfo → InstructionInfo → Option Pattern
  | .system (.createAccount ca), .stake (.stakeInitialize si), .stake (.delegateStake sd) =>
      some (.createStakeAccountAndDelegate ca si sd)
  | .system (.createAccountWithSeed cws), .stake (.stakeInitialize si),
    .stake (.delegateStake sd) =>
      some (.createStakeAccountWithSeedAndDelegate cws si sd)
  | .system (.allocate allocate), .system (.assign assign), .stake (.split ss) =>
      some (.stakeSplitV1_1 allocate assign ss)
  | .system (.transfer prefund), .system (.allocateWithSeed aws), .stake (.split ss) =>
      some (.stakeSplitWithSeedV1_3 prefund aws ss)
  | _, _, _ => none

/-- The pattern of four instructions. -/
def recogniseFour : InstructionInfo → InstructionInfo → InstructionInfo → InstructionInfo →
    Option Pattern
  | .system (.transfer prefund), .system (.allocate allocate), .system (.assign assign),
      .stake (.split ss) => some (.stakeSplitV1_3 prefund allocate assign ss)
  | _, _, _, _ => none

/-- The two `switch`es of `print_transaction_nonce_processed`. -/
def recognise : List InstructionInfo → Option Pattern
  | [a] => recogniseOne a
  | [a, b] => recogniseTwo a b
  | [a, b, c] => recogniseThree a b c
  | [a, b, c, d] => recogniseFour a b c d
  | _ => none

/-! ## Printers -/

section

variable (printConfig : PrintConfig)

/-- `print_create_stake_account`. -/
def printCreateStakeAccount (ca : SystemCreateAccountInfo) (si : StakeInitializeInfo) : Script :=
  primary "Create stake acct" (.pubkey ca.to)
    ++ printSystemCreateAccountInfo none ca printConfig false
    ++ printStakeInitializeInfo none si printConfig

/-- `print_create_stake_account_with_seed`. -/
def printCreateStakeAccountWithSeed (cws : SystemCreateAccountWithSeedInfo)
    (si : StakeInitializeInfo) : Script :=
  primary "Create stake acct" (.pubkey cws.to)
    ++ printSystemCreateAccountWithSeedInfo none cws printConfig false
    ++ printStakeInitializeInfo none si printConfig

/-- `print_create_stake_account_and_delegate`. -/
def printCreateStakeAccountAndDelegate (sdk : Sdk) (ca : SystemCreateAccountInfo)
    (si : StakeInitializeInfo) (sd : StakeDelegateInfo) : Script :=
  primary "Delegated from" (.pubkey ca.to)
    ++ printSystemCreateAccountInfo none ca printConfig false
    ++ printStakeInitializeInfo none si printConfig
    ++ printDelegateStakeInfo sdk none sd printConfig
    ++ [.setTransactionType .solStaking]

/-- `print_create_stake_account_with_seed_and_delegate`. -/
def printCreateStakeAccountWithSeedAndDelegate (sdk : Sdk) (cws : SystemCreateAccountWithSeedInfo)
    (si : StakeInitializeInfo) (sd : StakeDelegateInfo) : Script :=
  primary "Delegated from" (.pubkey cws.to)
    ++ printSystemCreateAccountWithSeedInfo none cws printConfig false
    ++ printStakeInitializeInfo none si printConfig
    ++ printDelegateStakeInfo sdk none sd printConfig
    ++ [.setTransactionType .solStaking]

/-- `print_stake_split_with_seed`; base and seed come from the first instruction. -/
def printStakeSplitWithSeed (base : Ptr Pubkey) (seed : SizedString) (ss : StakeSplitInfo) :
    Script :=
  printStakeSplitInfo1 ss ++ seedItems printConfig base seed ++ printStakeSplitInfo2 ss printConfig

/-- `print_prefunded_split`. -/
def printPrefundedSplit (transferInfo : SystemTransferInfo) (ss : StakeSplitInfo) : Script :=
  printSystemPrefundForSplit transferInfo printConfig ++ printStakeSplitInfo ss printConfig

/-- `print_prefunded_split_with_seed`. -/
def printPrefundedSplitWithSeed (transferInfo : SystemTransferInfo)
    (aws : SystemAllocateWithSeedInfo) (ss : StakeSplitInfo) : Script :=
  printSystemPrefundForSplit transferInfo printConfig
    ++ printStakeSplitWithSeed printConfig aws.base aws.seed ss

/-- The new authorities of two authorizations: one item when both pointers are the same. -/
def newAuthorityItems (firstTitle : String) (first second : Ptr Pubkey) : Script :=
  if first.addr = second.addr then general "New authorities" (.pubkey first)
  else general firstTitle (.pubkey first) ++ general "New withdraw auth" (.pubkey second)

/-- `print_stake_authorize_both`. -/
def printStakeAuthorizeBoth (stakerInfo withdrawerInfo : StakeAuthorizeInfo) : Script :=
  if stakerInfo.authorize ≠ .staker || withdrawerInfo.authorize ≠ .withdrawer then [.fail]
  else
    primary "Set stake auth" (.pubkey stakerInfo.account)
      ++ newAuthorityItems "New stake auth" stakerInfo.newAuthority withdrawerInfo.newAuthority
      ++ (match withdrawerInfo.custodian with
          | some custodian => general "Custodian" (.pubkey custodian)
          | none => [])
      ++ generalAuthority printConfig "Authorized by" withdrawerInfo.authority

/-- `print_create_nonce_account`. -/
def printCreateNonceAccount (ca : SystemCreateAccountInfo) (ni : SystemInitializeNonceInfo) :
    Script :=
  primary "Create nonce acct" (.pubkey ca.to)
    ++ printSystemCreateAccountInfo none ca printConfig false
    ++ printSystemInitializeNonceInfo none ni

/-- `print_create_nonce_account_with_seed`. -/
def printCreateNonceAccountWithSeed (cws : SystemCreateAccountWithSeedInfo)
    (ni : SystemInitializeNonceInfo) : Script :=
  primary "Create nonce acct" (.pubkey cws.to)
    ++ printSystemCreateAccountWithSeedInfo none cws printConfig false
    ++ printSystemInitializeNonceInfo none ni

/-- `print_create_vote_account`. -/
def printCreateVoteAccount (ca : SystemCreateAccountInfo) (vi : VoteInitializeInfo) : Script :=
  primary "Create vote acct" (.pubkey ca.to)
    ++ printSystemCreateAccountInfo none ca printConfig false
    ++ printVoteInitializeInfo none vi

/-- `print_create_vote_account_with_seed`. -/
def printCreateVoteAccountWithSeed (cws : SystemCreateAccountWithSeedInfo)
    (vi : VoteInitializeInfo) : Script :=
  primary "Create vote acct" (.pubkey cws.to)
    ++ printSystemCreateAccountWithSeedInfo none cws printConfig false
    ++ printVoteInitializeInfo none vi

/-- `print_vote_authorize_both`. -/
def printVoteAuthorizeBoth (voterInfo withdrawerInfo : VoteAuthorizeInfo) : Script :=
  if voterInfo.authorize ≠ .voter || withdrawerInfo.authorize ≠ .withdrawer then [.fail]
  else
    primary "Set vote auth" (.pubkey voterInfo.account)
      ++ newAuthorityItems "New vote auth" voterInfo.newAuthority withdrawerInfo.newAuthority
      ++ generalAuthority printConfig "Authorized by" withdrawerInfo.authority

/-- `print_spl_token_create_mint`. -/
def printSplTokenCreateMint (ca : SystemCreateAccountInfo) (im : SplTokenInitializeMintInfo) :
    Script :=
  primary "Create token mint" (.pubkey im.mintAccount)
    ++ general "Mint authority" (.pubkey im.mintAuthority)
    ++ general "Mint decimals" (.u64 im.decimals.toUInt64)
    ++ (match im.freezeAuthority with
        | some authority => general "Freeze authority" (.pubkey authority)
        | none => [])
    ++ generalAuthority printConfig "Funded by" ca.from
    ++ general "Funded with" (.amount ca.lamports)

/-- `print_spl_token_create_account`. -/
def printSplTokenCreateAccount (ca : SystemCreateAccountInfo) (ia : SplTokenInitializeAccountInfo) :
    Script :=
  primary "Create token account" (.pubkey ia.tokenAccount)
    ++ general "For" (.pubkey ia.owner)
    ++ general "Token address" (.pubkey ia.mintAccount)
    ++ generalAuthority printConfig "Funded by" ca.from
    ++ general "Funded with" (.amount ca.lamports)

/-- `print_spl_token_create_multisig`. -/
def printSplTokenCreateMultisig (ca : SystemCreateAccountInfo)
    (im : SplTokenInitializeMultisigInfo) : Script :=
  primary "Create multisig" (.pubkey im.multisigAccount)
    ++ summaryItemSetMultisigMOfN im.m im.signers.count
    ++ generalAuthority printConfig "Funded by" ca.from
    ++ general "Funded with" (.amount ca.lamports)

/-- `print_spl_associated_token_account_create_with_transfer`: the creation is not shown, and
whether the transfer's printer fails is not looked at. -/
def printSplAssociatedTokenAccountCreateWithTransfer (ctx : TokenContext) (isToken2022Kind : Bool)
    (transfer : SplTokenTransferInfo) : Script :=
  (printSplTokenTransferInfo ctx transfer printConfig isToken2022Kind true).takeWhile (· ≠ .fail)

/-- The printer of a pattern. -/
def Pattern.print (ctx : TokenContext) : Pattern → Script
  | .system info => printSystemInfo info printConfig
  | .stake info => printStakeInfo ctx.sdk info printConfig
  | .vote info => printVoteInfo info printConfig
  | .splToken info => printSplTokenInfo ctx info printConfig
  | .splAssociatedTokenAccount create => printSplAssociatedTokenAccountInfo create
  | .agenc index info => printAgencInfo index info
  | .createStakeAccount ca si => printCreateStakeAccount printConfig ca si
  | .createStakeAccountWithSeed cws si => printCreateStakeAccountWithSeed printConfig cws si
  | .createNonceAccount ca ni => printCreateNonceAccount printConfig ca ni
  | .createNonceAccountWithSeed cws ni => printCreateNonceAccountWithSeed printConfig cws ni
  | .createVoteAccount ca vi => printCreateVoteAccount printConfig ca vi
  | .createVoteAccountWithSeed cws vi => printCreateVoteAccountWithSeed printConfig cws vi
  | .stakeAuthorizeBoth staker withdrawer => printStakeAuthorizeBoth printConfig staker withdrawer
  | .voteAuthorizeBoth voter withdrawer => printVoteAuthorizeBoth printConfig voter withdrawer
  | .stakeSplitWithSeedV1_1 aws ss => printStakeSplitWithSeed printConfig aws.base aws.seed ss
  -- the create is taken to be issued with zero lamports
  | .stakeSplitV1_2 _ ss => printStakeInfo ctx.sdk (.split ss) printConfig
  | .stakeSplitWithSeedV1_2 cws ss => printStakeSplitWithSeed printConfig cws.base cws.seed ss
  | .splTokenCreateMint ca im => printSplTokenCreateMint printConfig ca im
  | .splTokenCreateAccount ca ia => printSplTokenCreateAccount printConfig ca ia
  | .splTokenCreateMultisig ca im => printSplTokenCreateMultisig printConfig ca im
  | .splAssociatedTokenAccountCreateWithTransfer _ isToken2022Kind transfer =>
      printSplAssociatedTokenAccountCreateWithTransfer printConfig ctx isToken2022Kind transfer
  | .agencCreateTaskWithReview create configure =>
      printAgencCreateTaskWithReviewInfo create configure
  | .createStakeAccountAndDelegate ca si sd =>
      printCreateStakeAccountAndDelegate printConfig ctx.sdk ca si sd
  | .createStakeAccountWithSeedAndDelegate cws si sd =>
      printCreateStakeAccountWithSeedAndDelegate printConfig ctx.sdk cws si sd
  | .stakeSplitV1_1 _ _ ss => printStakeInfo ctx.sdk (.split ss) printConfig
  | .stakeSplitWithSeedV1_3 prefund aws ss => printPrefundedSplitWithSeed printConfig prefund aws ss
  | .stakeSplitV1_3 prefund _ _ ss => printPrefundedSplit printConfig prefund ss

end

/-- What the rent of a token account adds to the fee. -/
def Pattern.rent : Pattern → UInt64
  | .splAssociatedTokenAccountCreateWithTransfer .. => 2039280
  | _ => 0

/-- `print_spl_token_extension_warning`. -/
def printSplTokenExtensionWarning : Script :=
  general "Extension Warning" (.string (.lit "Unsupported extensions found"))
    ++ general "" (.string (.lit "Verify transaction before signing"))

/-! ## Compute budget instructions -/

/-- The compute budget record of an instruction. -/
def InstructionInfo.computeBudget? : InstructionInfo → Option ComputeBudgetInfo
  | .computeBudget info => some info
  | _ => none

/-- One pass of the loop of `preprocess_compute_budget_instructions`. -/
def ComputeBudgetFeeInfo.step (feeInfo : ComputeBudgetFeeInfo) (info : ComputeBudgetInfo) :
    ComputeBudgetFeeInfo :=
  let feeInfo := { feeInfo with signaturesCount := info.signaturesCount }
  match info.kind with
  | .changeUnitLimit units => { feeInfo with changeUnitLimit := some units }
  | .changeUnitPrice units => { feeInfo with changeUnitPrice := some units }
  | _ => feeInfo

/-- The loop of `preprocess_compute_budget_instructions`: it drops the compute budget instructions
in front. -/
def stripComputeBudget (feeInfo : ComputeBudgetFeeInfo) :
    List InstructionInfo → List InstructionInfo × ComputeBudgetFeeInfo
  | [] => ([], feeInfo)
  | info :: infos => match info.computeBudget? with
      | some budget => stripComputeBudget (feeInfo.step budget) infos
      | none => (info :: infos, feeInfo)

/-- `preprocess_compute_budget_instructions`. -/
def preprocessComputeBudgetInstructions (infos : List InstructionInfo) :
    List InstructionInfo × ComputeBudgetFeeInfo :=
  if infos.length > 1 then stripComputeBudget ⟨none, none, infos.length, 0⟩ infos
  else (infos, ⟨none, none, 0, 0⟩)

/-- The fee computed before the pattern is looked at, zero without a limit or a price. -/
def computeBudgetMaxFee (feeInfo : ComputeBudgetFeeInfo) : Result UInt64 :=
  if feeInfo.changeUnitLimit.isSome || feeInfo.changeUnitPrice.isSome then calculateMaxFee feeInfo
  else .ok 0

/-! ## Transactions -/

/-- `print_transaction_nonce_processed`. -/
def printTransactionNonceProcessed (ctx : TokenContext) (printConfig : PrintConfig)
    (infos : List InstructionInfo) : Script :=
  let (infos, feeInfo) := preprocessComputeBudgetInstructions infos
  match computeBudgetMaxFee feeInfo, recognise infos with
  | .ok maxFee, some pattern =>
      let maxFee := maxFee + pattern.rent
      pattern.print printConfig ctx
        ++ (if maxFee ≠ 0 then printComputeBudgetMaxFee maxFee else [])
  | _, _ => [.fail]

/-- `is_advance_nonce_account`. -/
def InstructionInfo.advanceNonce? : InstructionInfo → Option SystemAdvanceNonceInfo
  | .system (.advanceNonce info) => some info
  | _ => none

/-- A nonce advance in front of other instructions, and what remains. -/
def splitNonce : List InstructionInfo → Option SystemAdvanceNonceInfo × List InstructionInfo
  | [] => (none, [])
  | [info] => (none, [info])
  | info :: infos => match info.advanceNonce? with
      | some nonce => (some nonce, infos)
      | none => (none, info :: infos)

/-- `print_transaction`. -/
def printTransaction (ctx : TokenContext) (printConfig : PrintConfig)
    (infos : List InstructionInfo) : Script :=
  let (nonce, infos) := splitNonce infos
  (match nonce with
    | some nonceInfo => printSystemNoncedTransactionSentinel nonceInfo printConfig
    | none => [])
    ++ printTransactionNonceProcessed ctx printConfig infos

end AgencLedger
