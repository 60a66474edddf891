import AgencLedger.Program.System
import AgencLedger.Sol.TokenContext

/-!
# Program/SplToken — instructions of the token programs

The token program and Token-2022 share one parser.  Of the Token-2022 extensions only
`TransferCheckedWithFee` is parsed; the others are dropped from the display list, some of them with
a warning.  The deprecated unchecked instructions are refused.
-/

namespace AgencLedger

/-! ## Parsed instructions -/

/-- `Token_MAX_SIGNERS`. -/
def tokenMaxSigners : ℕ := 11

/-- `SplTokenMultisigners`. -/
structure SplTokenMultisigners where
  first : Ptr Pubkey
  count : UInt8
  deriving DecidableEq

/-- `SplTokenSign`. -/
inductive SplTokenSign
  | single (signer : Ptr Pubkey)
  | multi (account : Ptr Pubkey) (signers : SplTokenMultisigners)
  deriving DecidableEq

/-- The extension kinds of `SplTokenInstructionKind`. -/
inductive SplTokenExtensionKind
  | transferFeeExtension | confidentialTransferExtension | defaultAccountStateExtension
  | memoTransferExtension | interestBearingMintExtension | cpiGuardExtension
  | transferHookExtension | confidentialTransferFeeExtension | metadataPointerExtension
  | groupPointerExtension | groupMemberPointerExtension
  deriving DecidableEq, Repr

/-- `SplTokenInstructionKind`, without the deprecated instructions. -/
inductive SplTokenInstructionKind
  | initializeMint | initializeAccount | initializeMultisig | revoke | setAuthority
  | closeAccount | freezeAccount | thawAccount | transferChecked | approveChecked
  | mintToChecked | burnChecked | initializeAccount2 | syncNative
  | extension (kind : SplTokenExtensionKind)
  deriving DecidableEq, Repr

/-- `SplTokenInitializeMintInfo`. -/
structure SplTokenInitializeMintInfo where
  mintAccount : Ptr Pubkey
  mintAuthority : Ptr Pubkey
  freezeAuthority : Option (Ptr Pubkey)
  decimals : UInt8
  deriving DecidableEq

/-- `SplTokenInitializeAccountInfo`. -/
structure SplTokenInitializeAccountInfo where
  tokenAccount : Ptr Pubkey
  mintAccount : Ptr Pubkey
  owner : Ptr Pubkey
  deriving DecidableEq

/-- `SplTokenInitializeMultisigInfo`. -/
structure SplTokenInitializeMultisigInfo where
  multisigAccount : Ptr Pubkey
  signers : SplTokenMultisigners
  m : UInt8
  deriving DecidableEq

/-- `SplTokenTransferInfo`.  The fee is there exactly for `is_transfer_checked_with_fee`. -/
structure SplTokenTransferInfo where
  srcAccount : Ptr Pubkey
  destAccount : Ptr Pubkey
  mintAccount : Ptr Pubkey
  sign : SplTokenSign
  amount : UInt64
  decimals : UInt8
  transferCheckedWithFeeAmount : Option UInt64
  isTransferCheckedWithHook : Bool
  deriving DecidableEq

/-- `SplTokenApproveInfo`. -/
structure SplTokenApproveInfo where
  tokenAccount : Ptr Pubkey
  delegate : Ptr Pubkey
  mintAccount : Ptr Pubkey
  sign : SplTokenSign
  amount : UInt64
  decimals : UInt8
  deriving DecidableEq

/-- `SplTokenRevokeInfo`. -/
structure SplTokenRevokeInfo where
  tokenAccount : Ptr Pubkey
  sign : SplTokenSign
  deriving DecidableEq

/-- `Token_AuthorityType`. -/
inductive TokenAuthorityType
  | mintTokens | freezeAccount | accountOwner | closeAccount
  deriving DecidableEq, Repr

/-- `SplTokenSetAuthorityInfo`. -/
structure SplTokenSetAuthorityInfo where
  account : Ptr Pubkey
  newAuthority : Option (Ptr Pubkey)
  authorityType : TokenAuthorityType
  sign : SplTokenSign
  deriving DecidableEq

/-- `SplTokenMintToInfo`. -/
structure SplTokenMintToInfo where
  mintAccount : Ptr Pubkey
  tokenAccount : Ptr Pubkey
  sign : SplTokenSign
  amount : UInt64
  decimals : UInt8
  deriving DecidableEq

/-- `SplTokenBurnInfo`. -/
structure SplTokenBurnInfo where
  tokenAccount : Ptr Pubkey
  mintAccount : Ptr Pubkey
  sign : SplTokenSign
  amount : UInt64
  decimals : UInt8
  deriving DecidableEq

/-- `SplTokenCloseAccountInfo`. -/
structure SplTokenCloseAccountInfo where
  tokenAccount : Ptr Pubkey
  destAccount : Ptr Pubkey
  sign : SplTokenSign
  deriving DecidableEq

/-- `SplTokenFreezeAccountInfo`. -/
structure SplTokenFreezeAccountInfo where
  tokenAccount : Ptr Pubkey
  mintAccount : Ptr Pubkey
  sign : SplTokenSign
  deriving DecidableEq

/-- `SplTokenThawAccountInfo`. -/
structure SplTokenThawAccountInfo where
  tokenAccount : Ptr Pubkey
  mintAccount : Ptr Pubkey
  sign : SplTokenSign
  deriving DecidableEq

/-- `SplTokenSyncNativeInfo`. -/
structure SplTokenSyncNativeInfo where
  tokenAccount : Ptr Pubkey
  deriving DecidableEq

/-- The union of `SplTokenInfo`, by kind. -/
inductive SplTokenBody
  | initializeMint (info : SplTokenInitializeMintInfo)
  | initializeAccount (info : SplTokenInitializeAccountInfo)
  | initializeAccount2 (info : SplTokenInitializeAccountInfo)
  | initializeMultisig (info : SplTokenInitializeMultisigInfo)
  | transferChecked (info : SplTokenTransferInfo)
  /-- kind `TransferFeeExtension`, tag `TransferCheckedWithFee` -/
  | transferCheckedWithFee (info : SplTokenTransferInfo)
  | approveChecked (info : SplTokenApproveInfo)
  | revoke (info : SplTokenRevokeInfo)
  | setAuthority (info : SplTokenSetAuthorityInfo)
  | mintToChecked (info : SplTokenMintToInfo)
  | burnChecked (info : SplTokenBurnInfo)
  | closeAccount (info : SplTokenCloseAccountInfo)
  | freezeAccount (info : SplTokenFreezeAccountInfo)
  | thawAccount (info : SplTokenThawAccountInfo)
  | syncNative (info : SplTokenSyncNativeInfo)
  /-- an extension the parser does not look into -/
  | extension (kind : SplTokenExtensionKind)
  deriving DecidableEq

/-- `SplTokenInfo`, as the parser leaves it when it returns `0`. -/
structure SplTokenInfo where
  isToken2022Kind : Bool
  generateExtensionWarning : Bool
  body : SplTokenBody
  deriving DecidableEq

/-! ## Parsing -/

/-- `parse_spl_token_instruction_kind`. -/
def parseSplTokenInstructionKind : ParseM SplTokenInstructionKind := do
  let maybeKind ← parseU8
  match maybeKind.toNat with
  | 0 => return .initializeMint
  | 1 => return .initializeAccount
  | 2 => return .initializeMultisig
  | 5 => return .revoke
  | 6 => return .setAuthority
  | 9 => return .closeAccount
  | 10 => return .freezeAccount
  | 11 => return .thawAccount
  | 12 => return .transferChecked
  | 13 => return .approveChecked
  | 14 => return .mintToChecked
  | 15 => return .burnChecked
  | 16 => return .initializeAccount2
  | 17 => return .syncNative
  | 26 => return .extension .transferFeeExtension
  | 27 => return .extension .confidentialTransferExtension
  | 28 => return .extension .defaultAccountStateExtension
  | 30 => return .extension .memoTransferExtension
  | 33 => return .extension .interestBearingMintExtension
  | 34 => return .extension .cpiGuardExtension
  | 36 => return .extension .transferHookExtension
  | 37 => return .extension .confidentialTransferFeeExtension
  | 39 => return .extension .metadataPointerExtension
  | 40 => return .extension .groupPointerExtension
  | 41 => return .extension .groupMemberPointerExtension
  | _ => throw .bail -- deprecated (3, 4, 7, 8) or unknown

/-- `parse_initialize_mint_spl_token_instruction`. -/
def parseInitializeMintSplTokenInstruction : InstrM SplTokenInitializeMintInfo := do
  let decimals ← parseU8
  let mintAuthority ← parsePubkey
  let hasFreezeAuthority ← parseOption
  let freezeAuthority ← (if hasFreezeAuthority then do return some (← parsePubkey)
    else return none : ParseM (Option (Ptr Pubkey)))
  let mintAccount ← nextAccount
  skipAccount -- rent sysvar
  return { mintAccount, mintAuthority, freezeAuthority, decimals }

/-- `parse_initialize_account_spl_token_instruction`. -/
def parseInitializeAccountSplTokenInstruction (accountsLength : ℕ) (expectOwnerInAccounts : Bool) :
    InstrM SplTokenInitializeAccountInfo := do
  instrBailIf (expectOwnerInAccounts && accountsLength ≠ 4)
  let tokenAccount ← nextAccount
  let mintAccount ← nextAccount
  if expectOwnerInAccounts then
    let owner ← nextAccount
    skipAccount -- rent sysvar
    return { tokenAccount, mintAccount, owner }
  else
    skipAccount -- rent sysvar
    let owner ← parsePubkey
    return { tokenAccount, mintAccount, owner }

/-- `parse_spl_token_multisigners`. -/
def parseSplTokenMultisigners : InstrM SplTokenMultisigners := do
  let n ← remainingAccounts
  instrBailIf (n > tokenMaxSigners)
  let first ← nextAccount
  return { first, count := n.toUInt8 }

/-- `parse_initialize_multisig_spl_token_instruction`. -/
def parseInitializeMultisigSplTokenInstruction : InstrM SplTokenInitializeMultisigInfo := do
  let m ← parseU8
  instrBailIf (m.toNat > tokenMaxSigners)
  let multisigAccount ← nextAccount
  skipAccount -- rent sysvar
  let signers ← parseSplTokenMultisigners
  return { multisigAccount, signers, m }

/-- `parse_spl_token_sign`: a single trailing account is the signer, several are a multisig. -/
def parseSplTokenSign : InstrM SplTokenSign := do
  let n ← remainingAccounts
  instrBailIf (n = 0)
  if n = 1 then return .single (← nextAccount)
  else
    let account ← nextAccount
    let signers ← parseSplTokenMultisigners
    return .multi account signers

/-- The loop of `parse_spl_token2022_sign`: it skips the accounts that sign the message and counts
them.  The first argument bounds the passes by the accounts left. -/
def skipSigners (numRequiredSignatures : UInt8) : ℕ → UInt8 → InstrM UInt8
  | 0, signersCount => return signersCount
  | fuel + 1, signersCount => do
      match ← currentAccountIndex with
      | none => return signersCount
      | some index =>
          if index < numRequiredSignatures then
            skipAccount
            skipSigners numRequiredSignatures fuel (signersCount + 1)
          else return signersCount

/-- `parse_spl_token2022_sign`: whether the next account signs the message decides. -/
def parseSplToken2022Sign (header : MessageHeader) : InstrM SplTokenSign := do
  let numRequiredSignatures := header.pubkeysHeader.numRequiredSignatures
  match ← currentAccountIndex with
  | none => throw .bail
  | some index =>
      if index < numRequiredSignatures then return .single (← nextAccount)
      else
        let account ← nextAccount
        let first ← nextAccount
        let signersCount ← skipSigners numRequiredSignatures (← remainingAccounts) 1
        instrBailIf (signersCount.toNat > tokenMaxSigners)
        return .multi account { first, count := signersCount }

/-- `parse_spl_token_hook`: accounts behind the signers mean a transfer hook. -/
def parseSplTokenHook : InstrM Bool := do
  let n ← remainingAccounts
  return n ≠ 0

/-- `parse_transfer_spl_token_instruction`. -/
def parseTransferSplTokenInstruction (ctx : TokenContext) (header : MessageHeader)
    (isTransferCheckedWithFee isToken2022Kind : Bool) : InstrM SplTokenTransferInfo := do
  let amount ← parseU64
  let decimals ← parseU8
  let transferCheckedWithFeeAmount ← (if isTransferCheckedWithFee then do return some (← parseU64)
    else return none : ParseM (Option UInt64))
  let srcAccount ← nextAccount
  let mintAccount ← nextAccount
  let destAccount ← nextAccount
  let (sign, isTransferCheckedWithHook) ← (if isToken2022Kind then do
      let sign ← parseSplToken2022Sign header
      let hook ← parseSplTokenHook
      return (sign, hook)
    else do
      let sign ← parseSplTokenSign
      return (sign, false) : InstrM (SplTokenSign × Bool))
  instrBailIf (!checkAtaAgainstTrustedInfo ctx mintAccount.val destAccount.val isToken2022Kind)
  return { srcAccount, destAccount, mintAccount, sign, amount, decimals,
           transferCheckedWithFeeAmount, isTransferCheckedWithHook }

/-- `parse_approve_spl_token_instruction`. -/
def parseApproveSplTokenInstruction : InstrM SplTokenApproveInfo := do
  let amount ← parseU64
  let decimals ← parseU8
  let tokenAccount ← nextAccount
  let mintAccount ← nextAccount
  let delegate ← nextAccount
  let sign ← parseSplTokenSign
  return { tokenAccount, delegate, mintAccount, sign, amount, decimals }

/-- `parse_revoke_spl_token_instruction`. -/
def parseRevokeSplTokenInstruction : InstrM SplTokenRevokeInfo := do
  let tokenAccount ← nextAccount
  let sign ← parseSplTokenSign
  return { tokenAccount, sign }

/-- `parse_token_authority_type`. -/
def parseTokenAuthorityType : ParseM TokenAuthorityType := do
  let maybeType ← parseU8
  match maybeType.toNat with
  | 0 => return .mintTokens
  | 1 => return .freezeAccount
  | 2 => return .accountOwner
  | 3 => return .closeAccount
  | _ => throw .bail

/-- `stringify_token_authority_type`. -/
def stringifyTokenAuthorityType : TokenAuthorityType → CString
  | .mintTokens => .lit "Mint tokens"
  | .freezeAccount => .lit "Freeze account"
  | .accountOwner => .lit "Owner"
  | .closeAccount => .lit "Close acct"

/-- `parse_set_authority_spl_token_instruction`. -/
def parseSetAuthoritySplTokenInstruction : InstrM SplTokenSetAuthorityInfo := do
  let account ← nextAccount
  let authorityType ← parseTokenAuthorityType
  let hasNewAuthority ← parseOption
  let newAuthority ← (if hasNewAuthority then do return some (← parsePubkey)
    else return none : ParseM (Option (Ptr Pubkey)))
  let sign ← parseSplTokenSign
  return { account, newAuthority, authorityType, sign }

/-- `parse_mint_to_spl_token_instruction`. -/
def parseMintToSplTokenInstruction : InstrM SplTokenMintToInfo := do
  let amount ← parseU64
  let decimals ← parseU8
  let mintAccount ← nextAccount
  let tokenAccount ← nextAccount
  let sign ← parseSplTokenSign
  return { mintAccount, tokenAccount, sign, amount, decimals }

/-- `parse_burn_spl_token_instruction`. -/
def parseBurnSplTokenInstruction : InstrM SplTokenBurnInfo := do
  let amount ← parseU64
  let decimals ← parseU8
  let tokenAccount ← nextAccount
  let mintAccount ← nextAccount
  let sign ← parseSplTokenSign
  return { tokenAccount, mintAccount, sign, amount, decimals }

/-- `parse_close_account_spl_token_instruction`. -/
def parseCloseAccountSplTokenInstruction : InstrM SplTokenCloseAccountInfo := do
  let tokenAccount ← nextAccount
  let destAccount ← nextAccount
  let sign ← parseSplTokenSign
  return { tokenAccount, destAccount, sign }

/-- `parse_freeze_account_spl_token_instruction`. -/
def parseFreezeAccountSplTokenInstruction : InstrM SplTokenFreezeAccountInfo := do
  let tokenAccount ← nextAccount
  let mintAccount ← nextAccount
  let sign ← parseSplTokenSign
  return { tokenAccount, mintAccount, sign }

/-- `parse_thaw_account_spl_token_instruction`. -/
def parseThawAccountSplTokenInstruction : InstrM SplTokenThawAccountInfo := do
  let tokenAccount ← nextAccount
  let mintAccount ← nextAccount
  let sign ← parseSplTokenSign
  return { tokenAccount, mintAccount, sign }

/-- `parse_sync_native_spl_token_instruction`. -/
def parseSyncNativeSplTokenInstruction : InstrM SplTokenSyncNativeInfo := do
  let tokenAccount ← nextAccount
  return { tokenAccount }

/-- `parse_transfer_fee_instruction`: whether the tag is `TransferCheckedWithFee`. -/
def parseTransferFeeInstruction : ParseM Bool := do
  let maybeTag ← parseU8
  if maybeTag.toNat ≤ 5 then return maybeTag.toNat = 1 else throw .bail

/-- The extensions that call for a warning. -/
def SplTokenExtensionKind.warns : SplTokenExtensionKind → Bool
  | .transferFeeExtension => true
  | .confidentialTransferExtension => true
  | .memoTransferExtension => true
  | .transferHookExtension => true
  | .confidentialTransferFeeExtension => true
  | .defaultAccountStateExtension => false
  | .interestBearingMintExtension => false
  | .cpiGuardExtension => false
  | .metadataPointerExtension => false
  | .groupPointerExtension => false
  | .groupMemberPointerExtension => false

/-- `is_token2022_instruction`. -/
def isToken2022Instruction (instruction : Instruction) (header : MessageHeader) : Result Bool := do
  let programId ← programIdKey instruction header
  return programId.val == splToken2022ProgramId

/-- `parse_spl_token_instructions`, with `ignore_instruction_info`. -/
def parseSplTokenInstructions (ctx : TokenContext) (header : MessageHeader)
    (instruction : Instruction) : InstrM (SplTokenInfo × Bool) := do
  let kind ← parseSplTokenInstructionKind
  let isToken2022Kind ← (isToken2022Instruction instruction header : Result Bool)
  let shown := fun body : SplTokenBody =>
    (({ isToken2022Kind, generateExtensionWarning := false, body }, false) : SplTokenInfo × Bool)
  let ignored := fun kind : SplTokenExtensionKind =>
    (({ isToken2022Kind, generateExtensionWarning := kind.warns, body := .extension kind }, true) :
      SplTokenInfo × Bool)
  match kind with
  | .initializeMint =>
      return shown (.initializeMint (← parseInitializeMintSplTokenInstruction))
  | .initializeAccount =>
      return shown (.initializeAccount
        (← parseInitializeAccountSplTokenInstruction instruction.accounts.val.length true))
  | .initializeAccount2 =>
      return shown (.initializeAccount2
        (← parseInitializeAccountSplTokenInstruction instruction.accounts.val.length false))
  | .initializeMultisig =>
      return shown (.initializeMultisig (← parseInitializeMultisigSplTokenInstruction))
  | .revoke => return shown (.revoke (← parseRevokeSplTokenInstruction))
  | .setAuthority => return shown (.setAuthority (← parseSetAuthoritySplTokenInstruction))
  | .closeAccount => return shown (.closeAccount (← parseCloseAccountSplTokenInstruction))
  | .freezeAccount => return shown (.freezeAccount (← parseFreezeAccountSplTokenInstruction))
  | .thawAccount => return shown (.thawAccount (← parseThawAccountSplTokenInstruction))
  | .transferChecked =>
      return shown (.transferChecked
        (← parseTransferSplTokenInstruction ctx header false isToken2022Kind))
  | .approveChecked => return shown (.approveChecked (← parseApproveSplTokenInstruction))
  | .mintToChecked => return shown (.mintToChecked (← parseMintToSplTokenInstruction))
  | .burnChecked => return shown (.burnChecked (← parseBurnSplTokenInstruction))
  | .syncNative => return shown (.syncNative (← parseSyncNativeSplTokenInstruction))
  | .extension .transferFeeExtension => do
      instrBailIf (!isToken2022Kind)
      let transferCheckedWithFee ← parseTransferFeeInstruction
      if transferCheckedWithFee then
        return shown (.transferCheckedWithFee
          (← parseTransferSplTokenInstruction ctx header true isToken2022Kind))
      else return ignored .transferFeeExtension
  | .extension kind => return ignored kind

/-! ## What parsing promises -/

/-- What is known of a parsed instruction by its body. -/
def SplTokenInfo.Parsed (ctx : TokenContext) (info : SplTokenInfo) (ignored : Bool) : Prop :=
  match info.body with
  | .extension kind => ignored = true ∧ info.generateExtensionWarning = kind.warns
  | .transferChecked transfer => ignored = false ∧ info.generateExtensionWarning = false ∧
      transfer.transferCheckedWithFeeAmount.isSome = false ∧
      checkAtaAgainstTrustedInfo ctx transfer.mintAccount.val transfer.destAccount.val
        info.isToken2022Kind = true
  | .transferCheckedWithFee transfer => ignored = false ∧ info.generateExtensionWarning = false ∧
      info.isToken2022Kind = true ∧ transfer.transferCheckedWithFeeAmount.isSome = true ∧
      checkAtaAgainstTrustedInfo ctx transfer.mintAccount.val transfer.destAccount.val
        info.isToken2022Kind = true
  | _ => ignored = false ∧ info.generateExtensionWarning = false

theorem parseTransferSplTokenInstruction_ok {ctx : TokenContext} {header : MessageHeader}
    {withFee isToken2022Kind : Bool} {c c' : Cursor} {transfer : SplTokenTransferInfo}
    (h : parseTransferSplTokenInstruction ctx header withFee isToken2022Kind c
      = .ok (transfer, c')) :
    transfer.transferCheckedWithFeeAmount.isSome = withFee ∧
      checkAtaAgainstTrustedInfo ctx transfer.mintAccount.val transfer.destAccount.val
        isToken2022Kind = true := by
  obtain ⟨amount, c, -, h⟩ := (Result.step_seq_ok_iff _ _ _ _).mp h
  obtain ⟨decimals, c, -, h⟩ := (Result.step_seq_ok_iff _ _ _ _).mp h
  obtain ⟨fee, c₁, hfee, h⟩ := (Result.step_seq_ok_iff _ _ _ _).mp h
  obtain ⟨src, c, -, h⟩ := (Result.step_seq_ok_iff _ _ _ _).mp h
  obtain ⟨mint, c, -, h⟩ := (Result.step_seq_ok_iff _ _ _ _).mp h
  obtain ⟨dest, c, -, h⟩ := (Result.step_seq_ok_iff _ _ _ _).mp h
  obtain ⟨⟨sign, hook⟩, c, -, h⟩ := (Result.step_seq_ok_iff _ _ _ _).mp h
  obtain ⟨u, c, hcheck, h⟩ := (Result.step_seq_ok_iff _ _ _ _).mp h
  cases h
  refine ⟨?_, by simpa using (instrBailIf_ok_iff.mp hcheck).1⟩
  obtain ⟨p, hfee, -⟩ := InstrM.lift_ok_iff.mp hfee
  cases withFee with
  | false => cases hfee; rfl
  | true =>
      obtain ⟨value, p', -, hfee⟩ := (Result.step_seq_ok_iff _ _ _ _).mp hfee
      cases hfee
      rfl

/-- **What the parser of token instructions promises.** -/
theorem parseSplTokenInstructions_ok {ctx : TokenContext} {header : MessageHeader}
    {instruction : Instruction} {info : SplTokenInfo} {ignored : Bool}
    (h : (parseSplTokenInstructions ctx header instruction).parse header instruction
      = .ok (info, ignored)) :
    isToken2022Instruction instruction header = .ok info.isToken2022Kind ∧
      info.Parsed ctx ignored := by
  obtain ⟨c, h⟩ := InstrM.parse_ok_iff.mp h
  obtain ⟨kind, c₁, -, h⟩ := (Result.step_seq_ok_iff _ _ _ _).mp h
  obtain ⟨isToken2022Kind, c₂, hkind, h⟩ := (Result.step_seq_ok_iff _ _ _ _).mp h
  replace hkind := (InstrM.call_ok hkind).1
  cases kind with
  | extension kind =>
      cases kind with
      | transferFeeExtension =>
          obtain ⟨u, c₃, hbail, h⟩ := (Result.step_seq_ok_iff _ _ _ _).mp h
          obtain ⟨withFee, c₄, -, h⟩ := (Result.step_seq_ok_iff _ _ _ _).mp h
          cases withFee with
          | true =>
              obtain ⟨transfer, c₅, htransfer, h⟩ := (Result.step_seq_ok_iff _ _ _ _).mp h
              obtain ⟨hfee, hcheck⟩ := parseTransferSplTokenInstruction_ok htransfer
              cases h
              have h2022 : isToken2022Kind = true := by simpa using (instrBailIf_ok_iff.mp hbail).1
              exact ⟨hkind, rfl, rfl, h2022, hfee, hcheck⟩
          | false => cases h; exact ⟨hkind, rfl, rfl⟩
      | _ => cases h; exact ⟨hkind, rfl, rfl⟩
  | transferChecked =>
      obtain ⟨transfer, c₅, htransfer, h⟩ := (Result.step_seq_ok_iff _ _ _ _).mp h
      obtain ⟨hfee, hcheck⟩ := parseTransferSplTokenInstruction_ok htransfer
      cases h
      exact ⟨hkind, rfl, rfl, hfee, hcheck⟩
  | _ =>
      obtain ⟨body, c₃, -, h⟩ := (Result.step_seq_ok_iff _ _ _ _).mp h
      cases h
      exact ⟨hkind, rfl, rfl⟩

/-! ## Printing -/

/-- `print_spl_token_sign`.  The slot asked for first is not filled for a single signer that need
not show. -/
def printSplTokenSign (sign : SplTokenSign) (printConfig : PrintConfig) : Script :=
  match sign with
  | .single signer => generalAuthority printConfig "Owner" signer
  | .multi account signers =>
      general "Owner" (.pubkey account) ++ general "Signers" (.u64 signers.count.toUInt64)

/-- `print_spl_token_initialize_mint_info`. -/
def printSplTokenInitializeMintInfo (primaryTitle : Option String)
    (info : SplTokenInitializeMintInfo) : Script :=
  primaryIfTitled primaryTitle (.pubkey info.mintAccount)
    ++ general "Mint authority" (.pubkey info.mintAuthority)
    ++ general "Decimals" (.u64 info.decimals.toUInt64)
    ++ (match info.freezeAuthority with
        | some authority => general "Freeze authority" (.pubkey authority)
        | none => [])

/-- `print_spl_token_initialize_account_info`. -/
def printSplTokenInitializeAccountInfo (primaryTitle : Option String)
    (info : SplTokenInitializeAccountInfo) : Script :=
  primaryIfTitled primaryTitle (.pubkey info.tokenAccount)
    ++ general "Owner" (.pubkey info.owner)
    ++ general "Token address" (.pubkey info.mintAccount)

/-- `print_m_of_n_string`; `m` and `n` have at most two digits. -/
def printMOfNString (m n : UInt8) : Option CString :=
  if n.toNat > tokenMaxSigners ∨ m > n then none
  else
    let number := fun k : UInt8 => (if k > 9 then ['1'] else []) ++ [digitChar (k.toNat % 10)]
    some (.ofBuffer (number m ++ " of ".toList ++ number n))

/-- `summary_item_set_multisig_m_of_n`: no item where the string cannot be printed. -/
def summaryItemSetMultisigMOfN (m n : UInt8) : Script :=
  match printMOfNString m n with
  | some mOfN => general "Required signers" (.string mOfN)
  | none => []

/-- `print_spl_token_initialize_multisig_info`. -/
def printSplTokenInitializeMultisigInfo (primaryTitle : Option String)
    (info : SplTokenInitializeMultisigInfo) : Script :=
  primaryIfTitled primaryTitle (.pubkey info.multisigAccount)
    ++ summaryItemSetMultisigMOfN info.m info.signers.count

/-- The wallet item of a transfer; without trusted info the printer fails. -/
def transferToItem (ctx : TokenContext) : Script :=
  match getTransferToAddress ctx with
  | some toAddress => general "To" (.string toAddress)
  | none => [.fail]

/-- The fee item of a transfer: only a fee that is there and not zero shows. -/
def transferFeeItem (info : SplTokenTransferInfo) (symbol : CString) : Script :=
  match info.transferCheckedWithFeeAmount with
  | some fee =>
      if fee ≠ 0 then general "Token transfer fee" (.tokenAmount ⟨fee, symbol, info.decimals⟩)
      else []
  | none => []

/-- `print_spl_token_transfer_info`. -/
def printSplTokenTransferInfo (ctx : TokenContext) (info : SplTokenTransferInfo)
    (printConfig : PrintConfig) (isToken2022Kind : Bool) (isPrimary : Bool) : Script :=
  let symbol := getTokenSymbol ctx info.mintAccount.val isToken2022Kind
  let unknownMint := symbol == unknownSymbol
  let amount := SummaryValue.tokenAmount ⟨info.amount, symbol, info.decimals⟩
  (if isPrimary then primary "Amount" amount else general "Amount" amount)
    ++ (if printConfig.forceFullPrint || unknownMint then
          general "Token address" (.pubkey info.mintAccount)
        else [])
    ++ (if printConfig.forceFullPrint || !printConfig.userInputIsAtaOrTokenAccount then
          transferToItem ctx
        else [])
    ++ (if printConfig.forceFullPrint || printConfig.userInputIsAtaOrTokenAccount then
          general "To (token account)" (.pubkey info.destAccount)
        else [])
    ++ transferFeeItem info symbol
    ++ [.setTransactionType .splTransfer,
        .setTokenFeeWarning (isToken2022Kind && info.transferCheckedWithFeeAmount.isNone),
        .setTokenHookWarning (isToken2022Kind && info.isTransferCheckedWithHook),
        .setIsToken2022Transfer isToken2022Kind]
    ++ printSplTokenSign info.sign printConfig

/-- `print_spl_token_approve_info`. -/
def printSplTokenApproveInfo (ctx : TokenContext) (info : SplTokenApproveInfo)
    (printConfig : PrintConfig) (isToken2022Kind : Bool) : Script :=
  let symbol := getTokenSymbol ctx info.mintAccount.val isToken2022Kind
  primary "Approve delegate" (.pubkey info.delegate)
    ++ general "Allowance" (.tokenAmount ⟨info.amount, symbol, info.decimals⟩)
    ++ general "Token address" (.pubkey info.mintAccount)
    ++ general "From (token account)" (.pubkey info.tokenAccount)
    ++ printSplTokenSign info.sign printConfig

/-- `print_spl_token_revoke_info`. -/
def printSplTokenRevokeInfo (info : SplTokenRevokeInfo) (printConfig : PrintConfig) : Script :=
  primary "Revoke delegate" (.pubkey info.tokenAccount) ++ printSplTokenSign info.sign printConfig

/-- `print_spl_token_set_authority_info`. -/
def printSplTokenSetAuthorityInfo (info : SplTokenSetAuthorityInfo) (printConfig : PrintConfig) :
    Script :=
  primary (if info.newAuthority.isNone then "Clear authority" else "Set authority")
      (.pubkey info.account)
    ++ general "Type" (.string (stringifyTokenAuthorityType info.authorityType))
    ++ (match info.newAuthority with
        | some authority => general "Authority" (.pubkey authority)
        | none => [])
    ++ printSplTokenSign info.sign printConfig

/-- `print_spl_token_mint_to_info`. -/
def printSplTokenMintToInfo (ctx : TokenContext) (info : SplTokenMintToInfo)
    (printConfig : PrintConfig) (isToken2022Kind : Bool) : Script :=
  let symbol := getTokenSymbol ctx info.mintAccount.val isToken2022Kind
  primary "Mint tokens" (.tokenAmount ⟨info.amount, symbol, info.decimals⟩)
    ++ general "Token address" (.pubkey info.mintAccount)
    ++ general "To (token account)" (.pubkey info.tokenAccount)
    ++ printSplTokenSign info.sign printConfig

/-- `print_spl_token_burn_info`. -/
def printSplTokenBurnInfo (ctx : TokenContext) (info : SplTokenBurnInfo)
    (printConfig : PrintConfig) (isToken2022Kind : Bool) : Script :=
  let symbol := getTokenSymbol ctx info.mintAccount.val isToken2022Kind
  primary "Burn tokens" (.tokenAmount ⟨info.amount, symbol, info.decimals⟩)
    ++ general "Token address" (.pubkey info.mintAccount)
    ++ general "From (token account)" (.pubkey info.tokenAccount)
    ++ printSplTokenSign info.sign printConfig

/-- `print_spl_token_close_account_info`. -/
def printSplTokenCloseAccountInfo (info : SplTokenCloseAccountInfo) (printConfig : PrintConfig) :
    Script :=
  primary "Close token account" (.pubkey info.tokenAccount)
    ++ general "Withdraw to" (.pubkey info.destAccount)
    ++ printSplTokenSign info.sign printConfig

/-- `print_spl_token_freeze_account_info`. -/
def printSplTokenFreezeAccountInfo (info : SplTokenFreezeAccountInfo) (printConfig : PrintConfig) :
    Script :=
  primary "Freeze token account" (.pubkey info.tokenAccount)
    ++ (if printConfig.expertMode then general "Token address" (.pubkey info.mintAccount) else [])
    ++ printSplTokenSign info.sign printConfig

/-- `print_spl_token_thaw_account_info`. -/
def printSplTokenThawAccountInfo (info : SplTokenThawAccountInfo) (printConfig : PrintConfig) :
    Script :=
  primary "Thaw token account" (.pubkey info.tokenAccount)
    ++ (if printConfig.expertMode then general "Token address" (.pubkey info.mintAccount) else [])
    ++ printSplTokenSign info.sign printConfig

/-- `print_spl_token_sync_native_info`. -/
def printSplTokenSyncNativeInfo (info : SplTokenSyncNativeInfo) : Script :=
  primary "Sync native account" (.pubkey info.tokenAccount)

/-- `print_spl_token_info`. -/
def printSplTokenInfo (ctx : TokenContext) (info : SplTokenInfo) (printConfig : PrintConfig) :
    Script :=
  let isToken2022Kind := info.isToken2022Kind
  match info.body with
  | .initializeMint info => printSplTokenInitializeMintInfo (some "Init mint") info
  | .initializeAccount info => printSplTokenInitializeAccountInfo (some "Init acct") info
  | .initializeAccount2 info => printSplTokenInitializeAccountInfo (some "Init acct") info
  | .initializeMultisig info => printSplTokenInitializeMultisigInfo (some "Init multisig") info
  | .revoke info => printSplTokenRevokeInfo info printConfig
  | .setAuthority info => printSplTokenSetAuthorityInfo info printConfig
  | .closeAccount info => printSplTokenCloseAccountInfo info printConfig
  | .freezeAccount info => printSplTokenFreezeAccountInfo info printConfig
  | .thawAccount info => printSplTokenThawAccountInfo info printConfig
  | .transferChecked info => printSplTokenTransferInfo ctx info printConfig isToken2022Kind true
  | .approveChecked info => printSplTokenApproveInfo ctx info printConfig isToken2022Kind
  | .mintToChecked info => printSplTokenMintToInfo ctx info printConfig isToken2022Kind
  | .burnChecked info => printSplTokenBurnInfo ctx info printConfig isToken2022Kind
  | .syncNative info => printSplTokenSyncNativeInfo info
  | .transferCheckedWithFee info =>
      printSplTokenTransferInfo ctx info printConfig isToken2022Kind true
  -- an ignored `TransferFeeExtension` is not displayed, so its kind does not reach the printer
  | .extension _ => [.fail]

end AgencLedger
