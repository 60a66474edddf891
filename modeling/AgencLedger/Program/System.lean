import AgencLedger.Sol.Instruction

/-!
# Program/System — instructions of the System program

Parsing and printing of the eleven System instructions; `SystemAssignWithSeed` is recognised and
refused.
-/

namespace AgencLedger

/-! ## Parsed instructions -/

/-- `enum SystemInstructionKind`. -/
inductive SystemInstructionKind
  | createAccount | assign | transfer | createAccountWithSeed | advanceNonceAccount
  | withdrawNonceAccount | initializeNonceAccount | authorizeNonceAccount | allocate
  | allocateWithSeed | assignWithSeed
  deriving DecidableEq, Repr

/-- `SystemCreateAccountInfo`. -/
structure SystemCreateAccountInfo where
  «from» : Ptr Pubkey
  «to» : Ptr Pubkey
  lamports : UInt64
  space : UInt64
  owner : Ptr Pubkey
  deriving DecidableEq

/-- `SystemCreateAccountWithSeedInfo`. -/
structure SystemCreateAccountWithSeedInfo where
  «from» : Ptr Pubkey
  «to» : Ptr Pubkey
  base : Ptr Pubkey
  seed : SizedString
  lamports : UInt64
  space : UInt64
  owner : Ptr Pubkey
  deriving DecidableEq

/-- `SystemTransferInfo`. -/
structure SystemTransferInfo where
  «from» : Ptr Pubkey
  «to» : Ptr Pubkey
  lamports : UInt64
  deriving DecidableEq

/-- `SystemAdvanceNonceInfo`. -/
structure SystemAdvanceNonceInfo where
  account : Ptr Pubkey
  authority : Ptr Pubkey
  deriving DecidableEq

/-- `SystemInitializeNonceInfo`. -/
structure SystemInitializeNonceInfo where
  account : Ptr Pubkey
  authority : Ptr Pubkey
  deriving DecidableEq

/-- `SystemWithdrawNonceInfo`. -/
structure SystemWithdrawNonceInfo where
  account : Ptr Pubkey
  authority : Ptr Pubkey
  «to» : Ptr Pubkey
  lamports : UInt64
  deriving DecidableEq

/-- `SystemAuthorizeNonceInfo`. -/
structure SystemAuthorizeNonceInfo where
  account : Ptr Pubkey
  authority : Ptr Pubkey
  newAuthority : Ptr Pubkey
  deriving DecidableEq

/-- `SystemAllocateInfo`. -/
structure SystemAllocateInfo where
  account : Ptr Pubkey
  space : UInt64
  deriving DecidableEq

/-- `SystemAssignInfo`. -/
structure SystemAssignInfo where
  account : Ptr Pubkey
  programId : Ptr Pubkey
  deriving DecidableEq

/-- `SystemAllocateWithSeedInfo`. -/
structure SystemAllocateWithSeedInfo where
  account : Ptr Pubkey
  base : Ptr Pubkey
  seed : SizedString
  space : UInt64
  programId : Ptr Pubkey
  deriving DecidableEq

/-- `SystemInfo`, as the parser leaves it when it returns `0`. -/
inductive SystemInfo
  | transfer (info : SystemTransferInfo)
  | createAccount (info : SystemCreateAccountInfo)
  | createAccountWithSeed (info : SystemCreateAccountWithSeedInfo)
  | advanceNonce (info : SystemAdvanceNonceInfo)
  | initializeNonce (info : SystemInitializeNonceInfo)
  | withdrawNonce (info : SystemWithdrawNonceInfo)
  | authorizeNonce (info : SystemAuthorizeNonceInfo)
  | allocate (info : SystemAllocateInfo)
  | assign (info : SystemAssignInfo)
  | allocateWithSeed (info : SystemAllocateWithSeedInfo)
  deriving DecidableEq

/-! ## Parsing -/

/-- `parse_system_instruction_kind`. -/
def parseSystemInstructionKind : ParseM SystemInstructionKind := do
  let maybeKind ← parseU32
  match maybeKind.toNat with
  | 0 => return .createAccount
  | 1 => return .assign
  | 2 => return .transfer
  | 3 => return .createAccountWithSeed
  | 4 => return .advanceNonceAccount
  | 5 => return .withdrawNonceAccount
  | 6 => return .initializeNonceAccount
  | 7 => return .authorizeNonceAccount
  | 8 => return .allocate
  | 9 => return .allocateWithSeed
  | 10 => return .assignWithSeed
  | _ => throw .bail

/-- `parse_system_transfer_instruction`. -/
def parseSystemTransferInstruction : InstrM SystemTransferInfo := do
  let «from» ← nextAccount
  let «to» ← nextAccount
  let lamports ← parseU64
  return { «from», «to», lamports }

/-- `parse_system_create_account_instruction`. -/
def parseSystemCreateAccountInstruction : InstrM SystemCreateAccountInfo := do
  let «from» ← nextAccount
  let «to» ← nextAccount
  let lamports ← parseU64
  let space ← parseU64
  let owner ← parsePubkey
  return { «from», «to», lamports, space, owner }

/-- `parse_system_create_account_with_seed_instruction`. -/
def parseSystemCreateAccountWithSeedInstruction : InstrM SystemCreateAccountWithSeedInfo := do
  let «from» ← nextAccount
  let «to» ← nextAccount
  let base ← parsePubkey
  let seed ← parseSizedString
  let lamports ← parseU64
  let space ← parseU64
  let owner ← parsePubkey
  return { «from», «to», base, seed, lamports, space, owner }

/-- `parse_system_advance_nonce_account_instruction`. -/
def parseSystemAdvanceNonceAccountInstruction : InstrM SystemAdvanceNonceInfo := do
  let account ← nextAccount
  skipAccount -- recent blockhashes sysvar
  let authority ← nextAccount
  return { account, authority }

/-- `parse_system_initialize_nonce_account_instruction`. -/
def parseSystemInitializeNonceAccountInstruction : InstrM SystemInitializeNonceInfo := do
  let account ← nextAccount
  skipAccount -- recent blockhashes sysvar
  skipAccount -- rent sysvar
  let authority ← parsePubkey
  return { account, authority }

/-- `parse_system_withdraw_nonce_account_instruction`. -/
def parseSystemWithdrawNonceAccountInstruction : InstrM SystemWithdrawNonceInfo := do
  let account ← nextAccount
  let «to» ← nextAccount
  skipAccount -- recent blockhashes sysvar
  skipAccount -- rent sysvar
  let authority ← nextAccount
  let lamports ← parseU64
  return { account, authority, «to», lamports }

/-- `parse_system_authorize_nonce_account_instruction`. -/
def parseSystemAuthorizeNonceAccountInstruction : InstrM SystemAuthorizeNonceInfo := do
  let account ← nextAccount
  let authority ← nextAccount
  let newAuthority ← parsePubkey
  return { account, authority, newAuthority }

/-- `parse_system_allocate_instruction`. -/
def parseSystemAllocateInstruction : InstrM SystemAllocateInfo := do
  let account ← nextAccount
  let space ← parseU64
  return { account, space }

/-- `parse_system_assign_instruction`. -/
def parseSystemAssignInstruction : InstrM SystemAssignInfo := do
  let account ← nextAccount
  let programId ← parsePubkey
  return { account, programId }

/-- `parse_system_allocate_with_seed_instruction`. -/
def parseSystemAllocateWithSeedInstruction : InstrM SystemAllocateWithSeedInfo := do
  let account ← nextAccount
  skipAccount -- the base, parsed from the data
  let base ← parsePubkey
  let seed ← parseSizedString
  let space ← parseU64
  let programId ← parsePubkey
  return { account, base, seed, space, programId }

/-- `parse_system_instructions`. -/
def parseSystemInstructions : InstrM SystemInfo := do
  let kind ← parseSystemInstructionKind
  match kind with
  | .transfer => return .transfer (← parseSystemTransferInstruction)
  | .advanceNonceAccount => return .advanceNonce (← parseSystemAdvanceNonceAccountInstruction)
  | .createAccount => return .createAccount (← parseSystemCreateAccountInstruction)
  | .createAccountWithSeed =>
      return .createAccountWithSeed (← parseSystemCreateAccountWithSeedInstruction)
  | .initializeNonceAccount =>
      return .initializeNonce (← parseSystemInitializeNonceAccountInstruction)
  | .withdrawNonceAccount => return .withdrawNonce (← parseSystemWithdrawNonceAccountInstruction)
  | .authorizeNonceAccount =>
      return .authorizeNonce (← parseSystemAuthorizeNonceAccountInstruction)
  | .assign => return .assign (← parseSystemAssignInstruction)
  | .allocate => return .allocate (← parseSystemAllocateInstruction)
  | .allocateWithSeed => return .allocateWithSeed (← parseSystemAllocateWithSeedInstruction)
  | .assignWithSeed => throw .bail

/-! ## Printing -/

/-- `is_well_known_owner`. -/
def isWellKnownOwner (owner : Ptr Pubkey) : Bool :=
  owner.val == systemProgramId || owner.val == stakeProgramId || owner.val == voteProgramId ||
    owner.val == splTokenProgramId || owner.val == splToken2022ProgramId

/-- An item that names an authority, shown unless it is the signer outside expert mode. -/
def generalAuthority (printConfig : PrintConfig) (title : String) (authority : Ptr Pubkey) :
    Script :=
  if printConfig.showAuthority authority then general title (.pubkey authority) else []

/-- `if (primary_title != NULL)` and its primary item. -/
def primaryIfTitled (primaryTitle : Option String) (value : SummaryValue) : Script :=
  match primaryTitle with
  | some title => primary title value
  | none => []

/-- `print_system_transfer_info`. -/
def printSystemTransferInfo (info : SystemTransferInfo) (printConfig : PrintConfig) : Script :=
  primary "Amount" (.amount info.lamports)
    ++ generalAuthority printConfig "Sender" info.from
    ++ general "To" (.pubkey info.to)
    ++ [.setTransactionType .solTransfer]

/-- `print_system_prefund_for_split`: the transfer that prefunds a split shows in expert mode
only. -/
def printSystemPrefundForSplit (transferInfo : SystemTransferInfo) (printConfig : PrintConfig) :
    Script :=
  if printConfig.expertMode then
    general "Prefund" (.amount transferInfo.lamports)
      ++ general "Prefunder" (.pubkey transferInfo.from)
  else []

/-- `print_system_advance_nonce_account`. -/
def printSystemAdvanceNonceAccount (info : SystemAdvanceNonceInfo) (printConfig : PrintConfig) :
    Script :=
  primary "Advance nonce" (.pubkey info.account)
    ++ generalAuthority printConfig "Authorized by" info.authority

/-- `print_system_withdraw_nonce_info`. -/
def printSystemWithdrawNonceInfo (info : SystemWithdrawNonceInfo) (printConfig : PrintConfig) :
    Script :=
  primary "Nonce withdraw" (.amount info.lamports)
    ++ general "From" (.pubkey info.account)
    ++ general "To" (.pubkey info.to)
    ++ generalAuthority printConfig "Authorized by" info.authority

/-- `print_system_authorize_nonce_info`. -/
def printSystemAuthorizeNonceInfo (info : SystemAuthorizeNonceInfo) (printConfig : PrintConfig) :
    Script :=
  primary "Set nonce auth" (.pubkey info.account)
    ++ general "New authority" (.pubkey info.newAuthority)
    ++ generalAuthority printConfig "Authorized by" info.authority

/-- `print_system_allocate_info`. -/
def printSystemAllocateInfo (info : SystemAllocateInfo) : Script :=
  primary "Allocate acct" (.pubkey info.account) ++ general "Data size" (.u64 info.space)

/-- `print_system_assign_info`. -/
def printSystemAssignInfo (info : SystemAssignInfo) : Script :=
  primary "Assign acct" (.pubkey info.account) ++ general "To program" (.pubkey info.programId)

/-- The owner's two items, shared by the two ways to create an account. -/
def ownerItems (displayOwner : Bool) (space : UInt64) (owner : Ptr Pubkey) : Script :=
  if displayOwner && !isWellKnownOwner owner then
    general "Data size" (.u64 space) ++ general "Owner program" (.pubkey owner)
  else []

/-- Base and seed, in expert mode. -/
def seedItems (printConfig : PrintConfig) (base : Ptr Pubkey) (seed : SizedString) : Script :=
  if printConfig.expertMode then
    general "Base" (.pubkey base) ++ general "Seed" (.sizedString seed)
  else []

/-- `print_system_create_account_info`. -/
def printSystemCreateAccountInfo (primaryTitle : Option String) (info : SystemCreateAccountInfo)
    (printConfig : PrintConfig) (displayOwner : Bool) : Script :=
  primaryIfTitled primaryTitle (.pubkey info.to)
    ++ general "Deposit" (.amount info.lamports)
    ++ generalAuthority printConfig "From" info.from
    ++ ownerItems displayOwner info.space info.owner

/-- `print_system_create_account_with_seed_info`. -/
def printSystemCreateAccountWithSeedInfo (primaryTitle : Option String)
    (info : SystemCreateAccountWithSeedInfo) (printConfig : PrintConfig) (displayOwner : Bool) :
    Script :=
  primaryIfTitled primaryTitle (.pubkey info.to)
    ++ general "Deposit" (.amount info.lamports)
    ++ generalAuthority printConfig "From" info.from
    ++ ownerItems displayOwner info.space info.owner
    ++ seedItems printConfig info.base info.seed

/-- `print_system_initialize_nonce_info`. -/
def printSystemInitializeNonceInfo (primaryTitle : Option String)
    (info : SystemInitializeNonceInfo) : Script :=
  primaryIfTitled primaryTitle (.pubkey info.account)
    ++ general "New authority" (.pubkey info.authority)

/-- `print_system_allocate_with_seed_info`.  The title given only tells whether to set the
primary item. -/
def printSystemAllocateWithSeedInfo (primaryTitle : Option String)
    (info : SystemAllocateWithSeedInfo) (printConfig : PrintConfig) : Script :=
  (if primaryTitle.isSome then primary "Allocate acct" (.pubkey info.account) else [])
    ++ general "Data size" (.u64 info.space)
    ++ seedItems printConfig info.base info.seed

/-- `print_system_info`. -/
def printSystemInfo (info : SystemInfo) (printConfig : PrintConfig) : Script :=
  match info with
  | .transfer info => printSystemTransferInfo info printConfig
  | .advanceNonce info => printSystemAdvanceNonceAccount info printConfig
  | .createAccount info =>
      printSystemCreateAccountInfo (some "Create account") info printConfig true
  | .createAccountWithSeed info =>
      printSystemCreateAccountWithSeedInfo (some "Create account") info printConfig true
  | .initializeNonce info => printSystemInitializeNonceInfo (some "Init nonce acct") info
  | .withdrawNonce info => printSystemWithdrawNonceInfo info printConfig
  | .authorizeNonce info => printSystemAuthorizeNonceInfo info printConfig
  | .assign info => printSystemAssignInfo info
  | .allocate info => printSystemAllocateInfo info
  | .allocateWithSeed info =>
      printSystemAllocateWithSeedInfo (some "Allocate acct") info printConfig

/-- `print_system_nonced_transaction_sentinel`. -/
def printSystemNoncedTransactionSentinel (nonceInfo : SystemAdvanceNonceInfo)
    (printConfig : PrintConfig) : Script :=
  if printConfig.expertMode then
    [.put .nonceAccount ⟨"Nonce account", .pubkey nonceInfo.account⟩,
     .put .nonceAuthority ⟨"Nonce authority", .pubkey nonceInfo.authority⟩]
  else []

end AgencLedger
