import AgencLedger.Program.System
import AgencLedger.Sol.TokenContext

/-!
# Program/Stake — instructions of the Stake program

Checked and unchecked forms share their records and their printers, but patterns tell them apart,
so `StakeInfo` keeps one constructor each.  Three parsers set the transaction type of the summary
on success, before anything is printed: `StakeInfo.parseEffects`.
-/

namespace AgencLedger

/-! ## Parsed instructions -/

/-- `enum StakeInstructionKind`. -/
inductive StakeInstructionKind
  | stakeInitialize | authorize | delegate | split | withdraw | deactivate | setLockup | merge
  | authorizeWithSeed | initializeChecked | authorizeChecked | authorizeCheckedWithSeed
  | setLockupChecked
  deriving DecidableEq, Repr

/-- `StakeDelegateInfo`. -/
structure StakeDelegateInfo where
  stakePubkey : Ptr Pubkey
  votePubkey : Ptr Pubkey
  authorizedPubkey : Ptr Pubkey
  deriving DecidableEq

/-- The lockup of an initialisation, `StakeLockupHasAll`. -/
structure StakeLockup where
  unixTimestamp : Int64
  epoch : UInt64
  custodian : Ptr Pubkey
  deriving DecidableEq

/-- The lockup of `SetLockup`: each member may be absent. -/
structure StakeLockupArgs where
  unixTimestamp : Option Int64
  epoch : Option UInt64
  custodian : Option (Ptr Pubkey)
  deriving DecidableEq

/-- `StakeInitializeInfo`.  A checked initialisation has no lockup. -/
structure StakeInitializeInfo where
  account : Ptr Pubkey
  stakeAuthority : Ptr Pubkey
  withdrawAuthority : Ptr Pubkey
  lockup : Option StakeLockup
  deriving DecidableEq

/-- `StakeWithdrawInfo`. -/
structure StakeWithdrawInfo where
  account : Ptr Pubkey
  authority : Ptr Pubkey
  «to» : Ptr Pubkey
  lamports : UInt64
  deriving DecidableEq

/-- `enum StakeAuthorize`. -/
inductive StakeAuthorize
  | staker | withdrawer
  deriving DecidableEq, Repr

/-- `StakeAuthorizeInfo`. -/
structure StakeAuthorizeInfo where
  account : Ptr Pubkey
  authority : Ptr Pubkey
  newAuthority : Ptr Pubkey
  custodian : Option (Ptr Pubkey)
  authorize : StakeAuthorize
  deriving DecidableEq

/-- `StakeDeactivateInfo`. -/
structure StakeDeactivateInfo where
  account : Ptr Pubkey
  authority : Ptr Pubkey
  deriving DecidableEq

/-- `StakeSetLockupInfo`. -/
structure StakeSetLockupInfo where
  account : Ptr Pubkey
  custodian : Ptr Pubkey
  lockup : StakeLockupArgs
  deriving DecidableEq

/-- `StakeSplitInfo`. -/
structure StakeSplitInfo where
  account : Ptr Pubkey
  authority : Ptr Pubkey
  splitAccount : Ptr Pubkey
  lamports : UInt64
  deriving DecidableEq

/-- `StakeMergeInfo`. -/
structure StakeMergeInfo where
  destination : Ptr Pubkey
  source : Ptr Pubkey
  authority : Ptr Pubkey
  deriving DecidableEq

/-- `StakeInfo`, as the parser leaves it when it returns `0`. -/
inductive StakeInfo
  | delegateStake (info : StakeDelegateInfo)
  | stakeInitialize (info : StakeInitializeInfo)
  | initializeChecked (info : StakeInitializeInfo)
  | withdraw (info : StakeWithdrawInfo)
  | authorize (info : StakeAuthorizeInfo)
  | authorizeChecked (info : StakeAuthorizeInfo)
  | deactivate (info : StakeDeactivateInfo)
  | setLockup (info : StakeSetLockupInfo)
  | setLockupChecked (info : StakeSetLockupInfo)
  | split (info : StakeSplitInfo)
  | merge (info : StakeMergeInfo)
  deriving DecidableEq

/-- What the parser itself does to the summary. -/
def StakeInfo.parseEffects : StakeInfo → Script
  | .delegateStake _ => [.setTransactionType .solActivateStake]
  | .withdraw _ => [.setTransactionType .solWithdraw]
  | .deactivate _ => [.setTransactionType .solDeactivateStake]
  | _ => []

/-! ## Parsing -/

/-- `parse_stake_instruction_kind`. -/
def parseStakeInstructionKind : ParseM StakeInstructionKind := do
  let maybeKind ← parseU32
  match maybeKind.toNat with
  | 0 => return .stakeInitialize
  | 1 => return .authorize
  | 2 => return .delegate
  | 3 => return .split
  | 4 => return .withdraw
  | 5 => return .deactivate
  | 6 => return .setLockup
  | 7 => return .merge
  | 8 => return .authorizeWithSeed
  | 9 => return .initializeChecked
  | 10 => return .authorizeChecked
  | 11 => return .authorizeCheckedWithSeed
  | 12 => return .setLockupChecked
  | _ => throw .bail

/-- `parse_stake_authorize`. -/
def parseStakeAuthorize : ParseM StakeAuthorize := do
  let maybeAuthorize ← parseU32
  match maybeAuthorize.toNat with
  | 0 => return .staker
  | 1 => return .withdrawer
  | _ => throw .bail

/-- `parse_delegate_stake_instruction`. -/
def parseDelegateStakeInstruction : InstrM StakeDelegateInfo := do
  let stakePubkey ← nextAccount
  let votePubkey ← nextAccount
  skipAccount -- clock sysvar
  skipAccount -- stake history sysvar
  skipAccount -- stake config account
  let authorizedPubkey ← nextAccount
  return { stakePubkey, votePubkey, authorizedPubkey }

/-- `parse_stake_initialize_instruction`. -/
def parseStakeInitializeInstruction : InstrM StakeInitializeInfo := do
  let account ← nextAccount
  skipAccount -- rent sysvar
  let stakeAuthority ← parsePubkey
  let withdrawAuthority ← parsePubkey
  let unixTimestamp ← parseI64
  let epoch ← parseU64
  let custodian ← parsePubkey
  return { account, stakeAuthority, withdrawAuthority,
           lockup := some { unixTimestamp, epoch, custodian } }

/-- `parse_stake_initialize_checked_instruction`. -/
def parseStakeInitializeCheckedInstruction : InstrM StakeInitializeInfo := do
  let account ← nextAccount
  skipAccount -- rent sysvar
  let stakeAuthority ← nextAccount
  let withdrawAuthority ← nextAccount
  return { account, stakeAuthority, withdrawAuthority, lockup := none }

/-- `parse_stake_withdraw_instruction`. -/
def parseStakeWithdrawInstruction : InstrM StakeWithdrawInfo := do
  let account ← nextAccount
  let «to» ← nextAccount
  skipAccount -- clock sysvar
  skipAccount -- stake history sysvar
  let authority ← nextAccount
  let lamports ← parseU64
  return { account, authority, «to», lamports }

/-- An account whose absence is no error: the return code of the iterator is not looked at. -/
def nextAccountIfAny : InstrM (Option (Ptr Pubkey)) := do
  if (← remainingAccounts) = 0 then return none
  else return some (← nextAccount)

/-- `parse_stake_authorize_instruction`. -/
def parseStakeAuthorizeInstruction : InstrM StakeAuthorizeInfo := do
  let account ← nextAccount
  skipAccount -- clock sysvar
  let authority ← nextAccount
  let custodian ← nextAccountIfAny
  let newAuthority ← parsePubkey
  let authorize ← parseStakeAuthorize
  return { account, authority, newAuthority, custodian, authorize }

/-- `parse_stake_authorize_checked_instruction`. -/
def parseStakeAuthorizeCheckedInstruction : InstrM StakeAuthorizeInfo := do
  let account ← nextAccount
  skipAccount -- clock sysvar
  let authority ← nextAccount
  let newAuthority ← nextAccount
  let custodian ← nextAccountIfAny
  let authorize ← parseStakeAuthorize
  return { account, authority, newAuthority, custodian, authorize }

/-- `parse_stake_deactivate_instruction`. -/
def parseStakeDeactivateInstruction : InstrM StakeDeactivateInfo := do
  let account ← nextAccount
  skipAccount -- clock sysvar
  let authority ← nextAccount
  return { account, authority }

/-- An option tag and, behind `OptionSome`, a value. -/
def parseOptional {α : Type} (parse : ParseM α) : ParseM (Option α) := do
  let option ← parseOption
  if option then return some (← parse) else return none

/-- `parse_stake_lockupargs`. -/
def parseStakeLockupargs (parseCustodian : Bool) : ParseM StakeLockupArgs := do
  let unixTimestamp ← parseOptional parseI64
  let epoch ← parseOptional parseU64
  let custodian ← if parseCustodian then parseOptional parsePubkey else pure none
  return { unixTimestamp, epoch, custodian }

/-- `parse_stake_set_lockup_instruction`. -/
def parseStakeSetLockupInstruction : InstrM StakeSetLockupInfo := do
  let account ← nextAccount
  let custodian ← nextAccount
  let lockup ← parseStakeLockupargs true
  return { account, custodian, lockup }

/-- `parse_stake_set_lockup_checked_instruction`: the new custodian is an account. -/
def parseStakeSetLockupCheckedInstruction : InstrM StakeSetLockupInfo := do
  let account ← nextAccount
  let custodian ← nextAccount
  let lockup ← parseStakeLockupargs false
  let newCustodian ← nextAccountIfAny
  return { account, custodian, lockup := { lockup with custodian := newCustodian } }

/-- `parse_stake_split_instruction`. -/
def parseStakeSplitInstruction : InstrM StakeSplitInfo := do
  let account ← nextAccount
  let splitAccount ← nextAccount
  let authority ← nextAccount
  let lamports ← parseU64
  return { account, authority, splitAccount, lamports }

/-- `parse_stake_merge_instruction`. -/
def parseStakeMergeInstruction : InstrM StakeMergeInfo := do
  let destination ← nextAccount
  let source ← nextAccount
  skipAccount -- clock sysvar
  skipAccount -- stake history sysvar
  let authority ← nextAccount
  return { destination, source, authority }

/-- `parse_stake_instructions`. -/
def parseStakeInstructions : InstrM StakeInfo := do
  let kind ← parseStakeInstructionKind
  match kind with
  | .delegate => return .delegateStake (← parseDelegateStakeInstruction)
  | .stakeInitialize => return .stakeInitialize (← parseStakeInitializeInstruction)
  | .initializeChecked => return .initializeChecked (← parseStakeInitializeCheckedInstruction)
  | .withdraw => return .withdraw (← parseStakeWithdrawInstruction)
  | .authorize => return .authorize (← parseStakeAuthorizeInstruction)
  | .authorizeChecked => return .authorizeChecked (← parseStakeAuthorizeCheckedInstruction)
  | .deactivate => return .deactivate (← parseStakeDeactivateInstruction)
  | .setLockup => return .setLockup (← parseStakeSetLockupInstruction)
  | .setLockupChecked => return .setLockupChecked (← parseStakeSetLockupCheckedInstruction)
  | .split => return .split (← parseStakeSplitInstruction)
  | .merge => return .merge (← parseStakeMergeInstruction)
  | .authorizeWithSeed => throw .bail
  | .authorizeCheckedWithSeed => throw .bail

/-! ## Printing -/

/-- `_is_known_pubkey`. -/
def isKnownPubkey (sdk : Sdk) (candidatePubkey : Ptr Pubkey) (knownAsStr : String) : Bool :=
  match sdk.base58Decode knownAsStr.toList 32 with
  | some knownAsData => knownAsData.length == 32 && candidatePubkey.val.data == knownAsData
  | none => false

/-- `is_figment_pubkey`. -/
def isFigmentPubkey (sdk : Sdk) (candidatePubkey : Ptr Pubkey) : Bool :=
  isKnownPubkey sdk candidatePubkey "26pV97Ce83ZQ6Kz9XT4td8tdoUFPTng8Fb8gPyc53dJx"

/-- `is_chorus_one_pubkey`. -/
def isChorusOnePubkey (sdk : Sdk) (candidatePubkey : Ptr Pubkey) : Bool :=
  isKnownPubkey sdk candidatePubkey "CpfvLiiPALdzZTP3fUrALg2TXwEDSAknRh1sn5JCt9Sr"

/-- What names the vote account: the operator where it is a known one. -/
def voteAccountValue (sdk : Sdk) (votePubkey : Ptr Pubkey) : SummaryValue :=
  if isFigmentPubkey sdk votePubkey then .string (.lit "Ledger by Figment")
  else if isChorusOnePubkey sdk votePubkey then .string (.lit "Ledger by Chorus One")
  else .pubkey votePubkey

/-- `print_delegate_stake_info`. -/
def printDelegateStakeInfo (sdk : Sdk) (primaryTitle : Option String) (info : StakeDelegateInfo)
    (printConfig : PrintConfig) : Script :=
  primaryIfTitled primaryTitle (.pubkey info.stakePubkey)
    ++ generalAuthority printConfig "Authorized by" info.authorizedPubkey
    ++ general "Vote account" (voteAccountValue sdk info.votePubkey)

/-- `print_stake_withdraw_info`. -/
def printStakeWithdrawInfo (info : StakeWithdrawInfo) (printConfig : PrintConfig) : Script :=
  primary "Amount" (.amount info.lamports)
    ++ general "From stake account" (.pubkey info.account)
    ++ general "To" (.pubkey info.to)
    ++ generalAuthority printConfig "Authorized by" info.authority

/-- The title of the new authority. -/
def StakeAuthorize.title : StakeAuthorize → String
  | .staker => "New stake auth"
  | .withdrawer => "New withdraw auth"

/-- `info->custodian && print_config_show_authority(..)` and its item. -/
def custodianItem (printConfig : PrintConfig) (custodian : Option (Ptr Pubkey)) : Script :=
  match custodian with
  | some custodian => generalAuthority printConfig "Custodian" custodian
  | none => []

/-- `print_stake_authorize_info`. -/
def printStakeAuthorizeInfo (info : StakeAuthorizeInfo) (printConfig : PrintConfig) : Script :=
  primary "Set stake auth" (.pubkey info.account)
    ++ general info.authorize.title (.pubkey info.newAuthority)
    ++ generalAuthority printConfig "Authorized by" info.authority
    ++ custodianItem printConfig info.custodian

/-- `print_stake_deactivate_info`. -/
def printStakeDeactivateInfo (info : StakeDeactivateInfo) (printConfig : PrintConfig) : Script :=
  primary "Stake account" (.pubkey info.account)
    ++ generalAuthority printConfig "Authorized by" info.authority

/-- `print_stake_set_lockup_info`. -/
def printStakeSetLockupInfo (info : StakeSetLockupInfo) (printConfig : PrintConfig) : Script :=
  primary "Set lockup" (.pubkey info.account)
    ++ (match info.lockup.unixTimestamp with
        | some time => general "Time" (.timestamp time)
        | none => [])
    ++ (match info.lockup.epoch with
        | some epoch => general "Epoch" (.u64 epoch)
        | none => [])
    ++ (match info.lockup.custodian with
        | some custodian => general "New authority" (.pubkey custodian)
        | none => [])
    ++ generalAuthority printConfig "Authorized by" info.custodian

/-- `print_stake_split_info1`. -/
def printStakeSplitInfo1 (info : StakeSplitInfo) : Script :=
  primary "Split stake" (.amount info.lamports)
    ++ general "From" (.pubkey info.account)
    ++ general "To" (.pubkey info.splitAccount)

/-- `print_stake_split_info2`. -/
def printStakeSplitInfo2 (info : StakeSplitInfo) (printConfig : PrintConfig) : Script :=
  generalAuthority printConfig "Authorized by" info.authority

/-- `print_stake_split_info`. -/
def printStakeSplitInfo (info : StakeSplitInfo) (printConfig : PrintConfig) : Script :=
  printStakeSplitInfo1 info ++ printStakeSplitInfo2 info printConfig

/-- `print_stake_merge_info`. -/
def printStakeMergeInfo (info : StakeMergeInfo) (printConfig : PrintConfig) : Script :=
  primary "Merge" (.pubkey info.source)
    ++ general "Into" (.pubkey info.destination)
    ++ generalAuthority printConfig "Authorized by" info.authority

/-- The authorities of an initialisation, one item when they are the same. -/
def stakeAuthorityItems (info : StakeInitializeInfo) : Script :=
  if pubkeysEqual info.withdrawAuthority info.stakeAuthority then
    general "New authority" (.pubkey info.stakeAuthority)
  else
    general "New stake auth" (.pubkey info.stakeAuthority)
      ++ general "New withdraw auth" (.pubkey info.withdrawAuthority)

/-- The lockup of an initialisation.  Without a lockup the two fields are zero. -/
def stakeLockupItems (lockup : Option StakeLockup) (printConfig : PrintConfig) : Script :=
  match lockup with
  | some lockup =>
      if lockup.unixTimestamp > 0 || lockup.epoch > 0 then
        (if lockup.unixTimestamp > 0 then
            general "Lockup time" (.timestamp lockup.unixTimestamp) else [])
          ++ (if lockup.epoch > 0 then general "Lockup epoch" (.u64 lockup.epoch) else [])
          ++ general "Lockup authority" (.pubkey lockup.custodian)
      else if printConfig.expertMode then general "Lockup" (.string (.lit "None"))
      else []
  | none => if printConfig.expertMode then general "Lockup" (.string (.lit "None")) else []

/-- `print_stake_initialize_info`. -/
def printStakeInitializeInfo (primaryTitle : Option String) (info : StakeInitializeInfo)
    (printConfig : PrintConfig) : Script :=
  primaryIfTitled primaryTitle (.pubkey info.account)
    ++ stakeAuthorityItems info
    ++ stakeLockupItems info.lockup printConfig

/-- `print_stake_info`. -/
def printStakeInfo (sdk : Sdk) (info : StakeInfo) (printConfig : PrintConfig) : Script :=
  match info with
  | .delegateStake info => printDelegateStakeInfo sdk (some "Delegated from") info printConfig
  | .stakeInitialize info => printStakeInitializeInfo (some "Init stake acct") info printConfig
  | .initializeChecked info => printStakeInitializeInfo (some "Init stake acct") info printConfig
  | .withdraw info => printStakeWithdrawInfo info printConfig
  | .authorize info => printStakeAuthorizeInfo info printConfig
  | .authorizeChecked info => printStakeAuthorizeInfo info printConfig
  | .deactivate info => printStakeDeactivateInfo info printConfig
  | .setLockup info => printStakeSetLockupInfo info printConfig
  | .setLockupChecked info => printStakeSetLockupInfo info printConfig
  | .split info => printStakeSplitInfo info printConfig
  | .merge info => printStakeMergeInfo info printConfig

end AgencLedger
