import AgencLedger.Program.System

/-!
# Program/Vote — instructions of the Vote program

`VoteVote` and `VoteSwitchVote` are recognised and refused.
-/

namespace AgencLedger

/-! ## Parsed instructions -/

/-- `enum VoteInstructionKind`. -/
inductive VoteInstructionKind
  | voteInitialize | authorize | vote | withdraw | updateValidatorId | updateCommission | switchVote
  | authorizeChecked
  deriving DecidableEq, Repr

/-- `VoteInitData`. -/
structure VoteInitData where
  validatorId : Ptr Pubkey
  voteAuthority : Ptr Pubkey
  withdrawAuthority : Ptr Pubkey
  commission : UInt64
  deriving DecidableEq

/-- `VoteInitializeInfo`. -/
structure VoteInitializeInfo where
  account : Ptr Pubkey
  voteInit : VoteInitData
  deriving DecidableEq

/-- `VoteWithdrawInfo`. -/
structure VoteWithdrawInfo where
  account : Ptr Pubkey
  authority : Ptr Pubkey
  «to» : Ptr Pubkey
  lamports : UInt64
  deriving DecidableEq

/-- `enum VoteAuthorize`. -/
inductive VoteAuthorize
  | voter | withdrawer
  deriving DecidableEq, Repr

/-- `VoteAuthorizeInfo`. -/
structure VoteAuthorizeInfo where
  account : Ptr Pubkey
  authority : Ptr Pubkey
  newAuthority : Ptr Pubkey
  authorize : VoteAuthorize
  deriving DecidableEq

/-- `VoteUpdateValidatorIdInfo`. -/
structure VoteUpdateValidatorIdInfo where
  account : Ptr Pubkey
  authority : Ptr Pubkey
  newValidatorId : Ptr Pubkey
  deriving DecidableEq

/-- `VoteUpdateCommissionInfo`. -/
structure VoteUpdateCommissionInfo where
  account : Ptr Pubkey
  authority : Ptr Pubkey
  commission : UInt8
  deriving DecidableEq

/-- `VoteInfo`, as the parser leaves it when it returns `0`. -/
inductive VoteInfo
  | voteInitialize (info : VoteInitializeInfo)
  | withdraw (info : VoteWithdrawInfo)
  | authorize (info : VoteAuthorizeInfo)
  | authorizeChecked (info : VoteAuthorizeInfo)
  | updateValidatorId (info : VoteUpdateValidatorIdInfo)
  | updateCommission (info : VoteUpdateCommissionInfo)
  deriving DecidableEq

/-! ## Parsing -/

/-- `parse_vote_instruction_kind`. -/
def parseVoteInstructionKind : ParseM VoteInstructionKind := do
  let maybeKind ← parseU32
  match maybeKind.toNat with
  | 0 => return .voteInitialize
  | 1 => return .authorize
  | 2 => return .vote
  | 3 => return .withdraw
  | 4 => return .updateValidatorId
  | 5 => return .updateCommission
  | 6 => return .switchVote
  | 7 => return .authorizeChecked
  | _ => throw .bail

/-- `parse_vote_authorize`. -/
def parseVoteAuthorize : ParseM VoteAuthorize := do
  let maybeAuthorize ← parseU32
  match maybeAuthorize.toNat with
  | 0 => return .voter
  | 1 => return .withdrawer
  | _ => throw .bail

/-- `parse_vote_initialize_instruction`. -/
def parseVoteInitializeInstruction : InstrM VoteInitializeInfo := do
  let account ← nextAccount
  skipAccount -- rent sysvar
  skipAccount -- clock sysvar
  let validatorId ← parsePubkey
  let voteAuthority ← parsePubkey
  let withdrawAuthority ← parsePubkey
  let commission ← parseU8
  return { account, voteInit := { validatorId, voteAuthority, withdrawAuthority,
                                  commission := commission.toUInt64 } }

/-- `parse_vote_withdraw_instruction`. -/
def parseVoteWithdrawInstruction : InstrM VoteWithdrawInfo := do
  let account ← nextAccount
  let «to» ← nextAccount
  let authority ← nextAccount
  let lamports ← parseU64
  return { account, authority, «to», lamports }

/-- `parse_vote_authorize_instruction`. -/
def parseVoteAuthorizeInstruction : InstrM VoteAuthorizeInfo := do
  let account ← nextAccount
  skipAccount -- clock sysvar
  let authority ← nextAccount
  let newAuthority ← parsePubkey
  let authorize ← parseVoteAuthorize
  return { account, authority, newAuthority, authorize }

/-- `parse_vote_authorize_checked_instruction`. -/
def parseVoteAuthorizeCheckedInstruction : InstrM VoteAuthorizeInfo := do
  let account ← nextAccount
  skipAccount -- clock sysvar
  let authority ← nextAccount
  let newAuthority ← nextAccount
  let authorize ← parseVoteAuthorize
  return { account, authority, newAuthority, authorize }

/-- `parse_vote_update_validator_id_instruction`: the new identity is an account, or, in the old
format with its 36 bytes of data, a key in the data. -/
def parseVoteUpdateValidatorIdInstruction (dataLength : ℕ) : InstrM VoteUpdateValidatorIdInfo := do
  let account ← nextAccount
  if dataLength = 4 then
    let newValidatorId ← nextAccount
    let authority ← nextAccount
    return { account, authority, newValidatorId }
  else if dataLength = 4 + 32 then
    let newValidatorId ← parsePubkey
    skipAccount -- clock sysvar
    let authority ← nextAccount
    return { account, authority, newValidatorId }
  else throw .bail

/-- `parse_vote_update_commission_instruction`. -/
def parseVoteUpdateCommissionInstruction : InstrM VoteUpdateCommissionInfo := do
  let account ← nextAccount
  let authority ← nextAccount
  let commission ← parseU8
  return { account, authority, commission }

/-- `parse_vote_instructions`. -/
def parseVoteInstructions (dataLength : ℕ) : InstrM VoteInfo := do
  let kind ← parseVoteInstructionKind
  match kind with
  | .voteInitialize => return .voteInitialize (← parseVoteInitializeInstruction)
  | .withdraw => return .withdraw (← parseVoteWithdrawInstruction)
  | .authorize => return .authorize (← parseVoteAuthorizeInstruction)
  | .authorizeChecked => return .authorizeChecked (← parseVoteAuthorizeCheckedInstruction)
  | .updateValidatorId =>
      return .updateValidatorId (← parseVoteUpdateValidatorIdInstruction dataLength)
  | .updateCommission => return .updateCommission (← parseVoteUpdateCommissionInstruction)
  | .vote => throw .bail
  | .switchVote => throw .bail

/-! ## Printing -/

/-- `print_vote_withdraw_info`. -/
def printVoteWithdrawInfo (info : VoteWithdrawInfo) (printConfig : PrintConfig) : Script :=
  primary "Vote withdraw" (.amount info.lamports)
    ++ general "From" (.pubkey info.account)
    ++ general "To" (.pubkey info.to)
    ++ generalAuthority printConfig "Authorized by" info.authority

/-- The title of the new authority. -/
def VoteAuthorize.title : VoteAuthorize → String
  | .voter => "New vote auth"
  | .withdrawer => "New withdraw auth"

/-- `print_vote_authorize_info`. -/
def printVoteAuthorizeInfo (info : VoteAuthorizeInfo) (printConfig : PrintConfig) : Script :=
  primary "Set vote auth" (.pubkey info.account)
    ++ general info.authorize.title (.pubkey info.newAuthority)
    ++ generalAuthority printConfig "Authorized by" info.authority

/-- `print_vote_update_validator_id_info`. -/
def printVoteUpdateValidatorIdInfo (info : VoteUpdateValidatorIdInfo) (printConfig : PrintConfig) :
    Script :=
  primary "Update validator" (.pubkey info.account)
    ++ general "New validator ID" (.pubkey info.newValidatorId)
    ++ generalAuthority printConfig "Authorized by" info.authority

/-- `print_vote_update_commission_info`. -/
def printVoteUpdateCommissionInfo (info : VoteUpdateCommissionInfo) (printConfig : PrintConfig) :
    Script :=
  primary "Update commission" (.pubkey info.account)
    ++ general "Commission" (.u64 info.commission.toUInt64)
    ++ generalAuthority printConfig "Authorized by" info.authority

/-- `print_vote_initialize_info`. -/
def printVoteInitializeInfo (primaryTitle : Option String) (info : VoteInitializeInfo) : Script :=
  primaryIfTitled primaryTitle (.pubkey info.account)
    ++ general "Validator ID" (.pubkey info.voteInit.validatorId)
    ++ general "New vote auth" (.pubkey info.voteInit.voteAuthority)
    ++ general "New withdraw auth" (.pubkey info.voteInit.withdrawAuthority)
    ++ general "Commission" (.u64 info.voteInit.commission)

/-- `print_vote_info`. -/
def printVoteInfo (info : VoteInfo) (printConfig : PrintConfig) : Script :=
  match info with
  | .voteInitialize info => printVoteInitializeInfo (some "Init vote acct") info
  | .withdraw info => printVoteWithdrawInfo info printConfig
  | .authorize info => printVoteAuthorizeInfo info printConfig
  | .authorizeChecked info => printVoteAuthorizeInfo info printConfig
  | .updateValidatorId info => printVoteUpdateValidatorIdInfo info printConfig
  | .updateCommission info => printVoteUpdateCommissionInfo info printConfig

end AgencLedger
