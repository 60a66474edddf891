import AgencLedger.Program.InBounds

/-!
# Program/References — the references of every parsed instruction

The references of a record are those of its fields.  Each parser stays in the data of its
instruction and makes its record of keys of the header and of pieces of the data, all of which lie
in the message.
-/

namespace AgencLedger

open Input

section

variable {base : Ptr (List UInt8)} {keys : List (Ptr Pubkey)}

/-! ## System -/

instance : Refs SystemInstructionKind := ⟨fun _ => []⟩

instance : parseSystemInstructionKind.InBounds base keys := by
  unfold parseSystemInstructionKind
  refine inBounds_seq fun _ _ => ?_
  split
  all_goals
    first
      | exact Yields.throw
      | exact Yields.pure fun _ hr => nomatch hr

instance : Refs SystemTransferInfo := ⟨fun info => refs info.from ++ (refs info.to)⟩
instance : Refs SystemCreateAccountInfo :=
  ⟨fun info => refs info.from ++ (refs info.to ++ (refs info.owner))⟩
instance : Refs SystemCreateAccountWithSeedInfo :=
  ⟨fun info => refs info.from ++ (refs info.to ++ (refs info.base ++ (refs info.seed ++ (refs
    info.owner))))⟩
instance : Refs SystemAdvanceNonceInfo := ⟨fun info => refs info.account ++ (refs info.authority)⟩
instance : Refs SystemInitializeNonceInfo :=
  ⟨fun info => refs info.account ++ (refs info.authority)⟩
instance : Refs SystemWithdrawNonceInfo :=
  ⟨fun info => refs info.account ++ (refs info.authority ++ (refs info.to))⟩
instance : Refs SystemAuthorizeNonceInfo :=
  ⟨fun info => refs info.account ++ (refs info.authority ++ (refs info.newAuthority))⟩
instance : Refs SystemAllocateInfo := ⟨fun info => refs info.account⟩
instance : Refs SystemAssignInfo := ⟨fun info => refs info.account ++ (refs info.programId)⟩
instance : Refs SystemAllocateWithSeedInfo :=
  ⟨fun info => refs info.account ++ (refs info.base ++ (refs info.seed ++ (refs info.programId)))⟩

instance : Refs SystemInfo where
  refs
    | .transfer info => refs info
    | .createAccount info => refs info
    | .createAccountWithSeed info => refs info
    | .advanceNonce info => refs info
    | .initializeNonce info => refs info
    | .withdrawNonce info => refs info
    | .authorizeNonce info => refs info
    | .allocate info => refs info
    | .assign info => refs info
    | .allocateWithSeed info => refs info

instance : parseSystemTransferInstruction.InBounds base keys := by
  unfold parseSystemTransferInstruction
  repeat refine inBounds_seq fun _ _ => ?_
  refine Yields.pure ?_
  simp_all [AllAllowed, refs]

instance : parseSystemCreateAccountInstruction.InBounds base keys := by
  unfold parseSystemCreateAccountInstruction
  repeat refine inBounds_seq fun _ _ => ?_
  refine Yields.pure ?_
  simp_all [AllAllowed, refs]

instance : parseSystemCreateAccountWithSeedInstruction.InBounds base keys := by
  unfold parseSystemCreateAccountWithSeedInstruction
  repeat refine inBounds_seq fun _ _ => ?_
  refine Yields.pure ?_
  simp_all [AllAllowed, refs]

instance : parseSystemAdvanceNonceAccountInstruction.InBounds base keys := by
  unfold parseSystemAdvanceNonceAccountInstruction
  repeat refine inBounds_seq fun _ _ => ?_
  refine Yields.pure ?_
  simp_all [AllAllowed, refs]

instance : parseSystemInitializeNonceAccountInstruction.InBounds base keys := by
  unfold parseSystemInitializeNonceAccountInstruction
  repeat refine inBounds_seq fun _ _ => ?_
  refine Yields.pure ?_
  simp_all [AllAllowed, refs]

instance : parseSystemWithdrawNonceAccountInstruction.InBounds base keys := by
  unfold parseSystemWithdrawNonceAccountInstruction
  repeat refine inBounds_seq fun _ _ => ?_
  refine Yields.pure ?_
  simp_all [AllAllowed, refs]

instance : parseSystemAuthorizeNonceAccountInstruction.InBounds base keys := by
  unfold parseSystemAuthorizeNonceAccountInstruction
  repeat refine inBounds_seq fun _ _ => ?_
  refine Yields.pure ?_
  simp_all [AllAllowed, refs]

instance : parseSystemAllocateInstruction.InBounds base keys := by
  unfold parseSystemAllocateInstruction
  repeat refine inBounds_seq fun _ _ => ?_
  refine Yields.pure ?_
  simp_all [AllAllowed, refs]

instance : parseSystemAssignInstruction.InBounds base keys := by
  unfold parseSystemAssignInstruction
  repeat refine inBounds_seq fun _ _ => ?_
  refine Yields.pure ?_
  simp_all [AllAllowed, refs]

instance : parseSystemAllocateWithSeedInstruction.InBounds base keys := by
  unfold parseSystemAllocateWithSeedInstruction
  repeat refine inBounds_seq fun _ _ => ?_
  refine Yields.pure ?_
  simp_all [AllAllowed, refs]

instance : parseSystemInstructions.InBounds base keys := by
  unfold parseSystemInstructions
  refine inBounds_seq fun kind _ => ?_
  cases kind
  all_goals
    first
      | exact Yields.throw
      | exact inBounds_map fun _ => rfl


/-! ## Stake -/

instance : Refs StakeInstructionKind := ⟨fun _ => []⟩

instance : parseStakeInstructionKind.InBounds base keys := by
  unfold parseStakeInstructionKind
  refine inBounds_seq fun _ _ => ?_
  split
  all_goals
    first
      | exact Yields.throw
      | exact Yields.pure fun _ hr => nomatch hr

instance : Refs StakeAuthorize := ⟨fun _ => []⟩

instance : parseStakeAuthorize.InBounds base keys := by
  unfold parseStakeAuthorize
  refine inBounds_seq fun _ _ => ?_
  split
  all_goals
    first
      | exact Yields.throw
      | exact Yields.pure fun _ hr => nomatch hr

instance : Refs StakeDelegateInfo :=
  ⟨fun info => refs info.stakePubkey ++ (refs info.votePubkey ++ (refs info.authorizedPubkey))⟩
instance : Refs StakeLockup := ⟨fun info => refs info.custodian⟩
instance : Refs StakeLockupArgs := ⟨fun info => refs info.custodian⟩
instance : Refs StakeInitializeInfo :=
  ⟨fun info => refs info.account ++ (refs info.stakeAuthority ++ (refs info.withdrawAuthority ++
    (refs info.lockup)))⟩
instance : Refs StakeWithdrawInfo :=
  ⟨fun info => refs info.account ++ (refs info.authority ++ (refs info.to))⟩
instance : Refs StakeAuthorizeInfo :=
  ⟨fun info => refs info.account ++ (refs info.authority ++ (refs info.newAuthority ++ (refs
    info.custodian)))⟩
instance : Refs StakeDeactivateInfo := ⟨fun info => refs info.account ++ (refs info.authority)⟩
instance : Refs StakeSetLockupInfo :=
  ⟨fun info => refs info.account ++ (refs info.custodian ++ (refs info.lockup))⟩
instance : Refs StakeSplitInfo :=
  ⟨fun info => refs info.account ++ (refs info.authority ++ (refs info.splitAccount))⟩
instance : Refs StakeMergeInfo :=
  ⟨fun info => refs info.destination ++ (refs info.source ++ (refs info.authority))⟩

instance : Refs StakeInfo where
  refs
    | .delegateStake info => refs info
    | .stakeInitialize info => refs info
    | .initializeChecked info => refs info
    | .withdraw info => refs info
    | .authorize info => refs info
    | .authorizeChecked info => refs info
    | .deactivate info => refs info
    | .setLockup info => refs info
    | .setLockupChecked info => refs info
    | .split info => refs info
    | .merge info => refs info

instance : nextAccountIfAny.InBounds base keys := by
  unfold nextAccountIfAny
  refine inBounds_seq fun n _ => .ite (fun _ => .pure fun _ hr => (nomatch hr))
    fun _ => inBounds_seq fun key hkey => .pure ?_
  simpa [AllAllowed, refs] using hkey

instance : parseDelegateStakeInstruction.InBounds base keys := by
  unfold parseDelegateStakeInstruction
  repeat refine inBounds_seq fun _ _ => ?_
  refine Yields.pure ?_
  simp_all [AllAllowed, refs]

instance : parseStakeInitializeInstruction.InBounds base keys := by
  unfold parseStakeInitializeInstruction
  repeat refine inBounds_seq fun _ _ => ?_
  refine Yields.pure ?_
  simp_all [AllAllowed, refs]

instance : parseStakeInitializeCheckedInstruction.InBounds base keys := by
  unfold parseStakeInitializeCheckedInstruction
  repeat refine inBounds_seq fun _ _ => ?_
  refine Yields.pure ?_
  simp_all [AllAllowed, refs]

instance : parseStakeWithdrawInstruction.InBounds base keys := by
  unfold parseStakeWithdrawInstruction
  repeat refine inBounds_seq fun _ _ => ?_
  refine Yields.pure ?_
  simp_all [AllAllowed, refs]

instance : parseStakeAuthorizeInstruction.InBounds base keys := by
  unfold parseStakeAuthorizeInstruction
  repeat refine inBounds_seq fun _ _ => ?_
  refine Yields.pure ?_
  simp_all [AllAllowed, refs]

instance : parseStakeAuthorizeCheckedInstruction.InBounds base keys := by
  unfold parseStakeAuthorizeCheckedInstruction
  repeat refine inBounds_seq fun _ _ => ?_
  refine Yields.pure ?_
  simp_all [AllAllowed, refs]

instance : parseStakeDeactivateInstruction.InBounds base keys := by
  unfold parseStakeDeactivateInstruction
  repeat refine inBounds_seq fun _ _ => ?_
  refine Yields.pure ?_
  simp_all [AllAllowed, refs]

instance (parseCustodian : Bool) : (parseStakeLockupargs parseCustodian).InBounds base keys := by
  unfold parseStakeLockupargs
  refine inBounds_seq fun _ _ => inBounds_seq fun _ _ => ?_
  cases parseCustodian
  · exact .pure fun _ hr => nomatch hr
  · refine inBounds_seq fun custodian hcustodian => .pure ?_
    exact hcustodian

instance : parseStakeSetLockupInstruction.InBounds base keys := by
  unfold parseStakeSetLockupInstruction
  repeat refine inBounds_seq fun _ _ => ?_
  refine Yields.pure ?_
  simp_all [AllAllowed, refs]

instance : parseStakeSetLockupCheckedInstruction.InBounds base keys := by
  unfold parseStakeSetLockupCheckedInstruction
  repeat refine inBounds_seq fun _ _ => ?_
  refine Yields.pure ?_
  simp_all [AllAllowed, refs]

instance : parseStakeSplitInstruction.InBounds base keys := by
  unfold parseStakeSplitInstruction
  repeat refine inBounds_seq fun _ _ => ?_
  refine Yields.pure ?_
  simp_all [AllAllowed, refs]

instance : parseStakeMergeInstruction.InBounds base keys := by
  unfold parseStakeMergeInstruction
  repeat refine inBounds_seq fun _ _ => ?_
  refine Yields.pure ?_
  simp_all [AllAllowed, refs]

instance : parseStakeInstructions.InBounds base keys := by
  unfold parseStakeInstructions
  refine inBounds_seq fun kind _ => ?_
  cases kind
  all_goals
    first
      | exact Yields.throw
      | exact inBounds_map fun _ => rfl

/-! ## Vote -/

instance : Refs VoteInstructionKind := ⟨fun _ => []⟩

instance : parseVoteInstructionKind.InBounds base keys := by
  unfold parseVoteInstructionKind
  refine inBounds_seq fun _ _ => ?_
  split
  all_goals
    first
      | exact Yields.throw
      | exact Yields.pure fun _ hr => nomatch hr

instance : Refs VoteAuthorize := ⟨fun _ => []⟩

instance : parseVoteAuthorize.InBounds base keys := by
  unfold parseVoteAuthorize
  refine inBounds_seq fun _ _ => ?_
  split
  all_goals
    first
      | exact Yields.throw
      | exact Yields.pure fun _ hr => nomatch hr

instance : Refs VoteInitData :=
  ⟨fun info => refs info.validatorId ++ (refs info.voteAuthority ++ (refs
    info.withdrawAuthority))⟩
instance : Refs VoteInitializeInfo := ⟨fun info => refs info.account ++ (refs info.voteInit)⟩
instance : Refs VoteWithdrawInfo :=
  ⟨fun info => refs info.account ++ (refs info.authority ++ (refs info.to))⟩
instance : Refs VoteAuthorizeInfo :=
  ⟨fun info => refs info.account ++ (refs info.authority ++ (refs info.newAuthority))⟩
instance : Refs VoteUpdateValidatorIdInfo :=
  ⟨fun info => refs info.account ++ (refs info.authority ++ (refs info.newValidatorId))⟩
instance : Refs VoteUpdateCommissionInfo := ⟨fun info => refs info.account ++ (refs info.authority)⟩

instance : Refs VoteInfo where
  refs
    | .voteInitialize info => refs info
    | .withdraw info => refs info
    | .authorize info => refs info
    | .authorizeChecked info => refs info
    | .updateValidatorId info => refs info
    | .updateCommission info => refs info

instance : parseVoteInitializeInstruction.InBounds base keys := by
  unfold parseVoteInitializeInstruction
  repeat refine inBounds_seq fun _ _ => ?_
  refine Yields.pure ?_
  simp_all [AllAllowed, refs]

instance : parseVoteWithdrawInstruction.InBounds base keys := by
  unfold parseVoteWithdrawInstruction
  repeat refine inBounds_seq fun _ _ => ?_
  refine Yields.pure ?_
  simp_all [AllAllowed, refs]

instance : parseVoteAuthorizeInstruction.InBounds base keys := by
  unfold parseVoteAuthorizeInstruction
  repeat refine inBounds_seq fun _ _ => ?_
  refine Yields.pure ?_
  simp_all [AllAllowed, refs]

instance : parseVoteAuthorizeCheckedInstruction.InBounds base keys := by
  unfold parseVoteAuthorizeCheckedInstruction
  repeat refine inBounds_seq fun _ _ => ?_
  refine Yields.pure ?_
  simp_all [AllAllowed, refs]

instance : parseVoteUpdateCommissionInstruction.InBounds base keys := by
  unfold parseVoteUpdateCommissionInstruction
  repeat refine inBounds_seq fun _ _ => ?_
  refine Yields.pure ?_
  simp_all [AllAllowed, refs]

instance (dataLength : ℕ) :
    (parseVoteUpdateValidatorIdInstruction dataLength).InBounds base keys := by
  unfold parseVoteUpdateValidatorIdInstruction
  refine inBounds_seq fun _ _ => .ite (fun _ => ?_) fun _ => .ite (fun _ => ?_) fun _ => .throw
  all_goals
    repeat refine inBounds_seq fun _ _ => ?_
    refine Yields.pure ?_
    simp_all [AllAllowed, refs]

instance (dataLength : ℕ) : (parseVoteInstructions dataLength).InBounds base keys := by
  unfold parseVoteInstructions
  refine inBounds_seq fun kind _ => ?_
  cases kind
  all_goals
    first
      | exact Yields.throw
      | exact inBounds_map fun _ => rfl


/-! ## Compute budget and token accounts -/

/-- Its values are copied out of the data. -/
instance : Refs ComputeBudgetInfo := ⟨fun _ => []⟩

instance (header : MessageHeader) :
    (parseComputeBudgetInstructions header).InBounds base keys := by
  unfold parseComputeBudgetInstructions
  refine inBounds_seq fun _ _ => ?_
  dsimp only
  split
  all_goals
    first
      | exact Yields.throw
      | exact inBounds_map fun _ => rfl

instance : Refs Cursor := ⟨fun _ => []⟩

instance : (get : InstrM Cursor).InBounds base keys where
  ensures := .get fun _ hc => ⟨fun _ hr => (nomatch hr), hc⟩

instance : Refs SplAssociatedTokenAccountCreateInfo :=
  ⟨fun info => refs info.funder ++ (refs info.address ++ (refs info.owner ++ (refs info.mint)))⟩

instance : skipAccountIfAny.InBounds base keys := by
  unfold skipAccountIfAny
  exact inBounds_seq fun _ _ => .ite (fun _ => .pure fun _ hr => nomatch hr) fun _ => inferInstance

instance : parseCreateSplAssociatedTokenAccountInstruction.InBounds base keys := by
  unfold parseCreateSplAssociatedTokenAccountInstruction
  repeat refine inBounds_seq fun _ _ => ?_
  refine Yields.pure ?_
  simp_all [AllAllowed, refs]

instance (dataLength : ℕ) :
    (parseSplAssociatedTokenAccountInstructions dataLength).InBounds base keys := by
  unfold parseSplAssociatedTokenAccountInstructions
  refine .ite (fun _ => inferInstance) fun _ => ?_
  refine inBounds_seq fun _ _ => inBounds_seq fun _ _ => inBounds_seq fun _ _ => ?_
  split
  all_goals
    first
      | exact Yields.throw
      | infer_instance


/-! ## Tokens -/

instance : Refs SplTokenInstructionKind := ⟨fun _ => []⟩

instance : parseSplTokenInstructionKind.InBounds base keys := by
  unfold parseSplTokenInstructionKind
  refine inBounds_seq fun _ _ => ?_
  split
  all_goals
    first
      | exact Yields.throw
      | exact Yields.pure fun _ hr => nomatch hr

instance : Refs TokenAuthorityType := ⟨fun _ => []⟩

instance : parseTokenAuthorityType.InBounds base keys := by
  unfold parseTokenAuthorityType
  refine inBounds_seq fun _ _ => ?_
  split
  all_goals
    first
      | exact Yields.throw
      | exact Yields.pure fun _ hr => nomatch hr

instance : Refs SplTokenMultisigners := ⟨fun signers => refs signers.first⟩

instance : Refs SplTokenSign where
  refs
    | .single signer => refs signer
    | .multi account signers => refs account ++ refs signers

instance : Refs SplTokenInitializeMintInfo :=
  ⟨fun info => refs info.mintAccount ++ (refs info.mintAuthority ++ (refs
    info.freezeAuthority))⟩
instance : Refs SplTokenInitializeAccountInfo :=
  ⟨fun info => refs info.tokenAccount ++ (refs info.mintAccount ++ (refs info.owner))⟩
instance : Refs SplTokenInitializeMultisigInfo :=
  ⟨fun info => refs info.multisigAccount ++ (refs info.signers)⟩
instance : Refs SplTokenTransferInfo :=
  ⟨fun info => refs info.srcAccount ++ (refs info.destAccount ++ (refs info.mintAccount ++ (refs
    info.sign)))⟩
instance : Refs SplTokenApproveInfo :=
  ⟨fun info => refs info.tokenAccount ++ (refs info.delegate ++ (refs info.mintAccount ++ (refs
    info.sign)))⟩
instance : Refs SplTokenRevokeInfo := ⟨fun info => refs info.tokenAccount ++ (refs info.sign)⟩
instance : Refs SplTokenSetAuthorityInfo :=
  ⟨fun info => refs info.account ++ (refs info.newAuthority ++ (refs info.sign))⟩
instance : Refs SplTokenMintToInfo :=
  ⟨fun info => refs info.mintAccount ++ (refs info.tokenAccount ++ (refs info.sign))⟩
instance : Refs SplTokenBurnInfo :=
  ⟨fun info => refs info.tokenAccount ++ (refs info.mintAccount ++ (refs info.sign))⟩
instance : Refs SplTokenCloseAccountInfo :=
  ⟨fun info => refs info.tokenAccount ++ (refs info.destAccount ++ (refs info.sign))⟩
instance : Refs SplTokenFreezeAccountInfo :=
  ⟨fun info => refs info.tokenAccount ++ (refs info.mintAccount ++ (refs info.sign))⟩
instance : Refs SplTokenThawAccountInfo :=
  ⟨fun info => refs info.tokenAccount ++ (refs info.mintAccount ++ (refs info.sign))⟩
instance : Refs SplTokenSyncNativeInfo := ⟨fun info => refs info.tokenAccount⟩

instance : Refs SplTokenBody where
  refs
    | .initializeMint info => refs info
    | .initializeAccount info => refs info
    | .initializeAccount2 info => refs info
    | .initializeMultisig info => refs info
    | .transferChecked info => refs info
    | .transferCheckedWithFee info => refs info
    | .approveChecked info => refs info
    | .revoke info => refs info
    | .setAuthority info => refs info
    | .mintToChecked info => refs info
    | .burnChecked info => refs info
    | .closeAccount info => refs info
    | .freezeAccount info => refs info
    | .thawAccount info => refs info
    | .syncNative info => refs info
    | .extension _ => []

instance : Refs SplTokenInfo := ⟨fun info => refs info.body⟩

/-- An authority that may be missing. -/
instance {option : Bool} : (if option then do return some (← parsePubkey)
    else return none : ParseM (Option (Ptr Pubkey))).InBounds base keys := by
  refine .ite (fun _ => inBounds_seq fun key hkey => .pure ?_) fun _ => .pure fun _ hr => nomatch hr
  simpa [AllAllowed, refs] using hkey

/-- A fee that may be missing. -/
instance {withFee : Bool} : (if withFee then do return some (← parseU64)
    else return none : ParseM (Option UInt64)).InBounds base keys :=
  .ite (fun _ => inBounds_seq fun _ _ => .pure fun _ hr => nomatch hr)
    fun _ => .pure fun _ hr => nomatch hr

instance : parseInitializeMintSplTokenInstruction.InBounds base keys := by
  unfold parseInitializeMintSplTokenInstruction
  repeat refine inBounds_seq fun _ _ => ?_
  refine Yields.pure ?_
  simp_all [AllAllowed, refs]

instance (accountsLength : ℕ) (expectOwnerInAccounts : Bool) :
    (parseInitializeAccountSplTokenInstruction accountsLength
      expectOwnerInAccounts).InBounds base keys := by
  unfold parseInitializeAccountSplTokenInstruction
  refine inBounds_seq fun _ _ => inBounds_seq fun _ _ => inBounds_seq fun _ _ =>
    .ite (fun _ => ?_) fun _ => ?_
  all_goals
    repeat refine inBounds_seq fun _ _ => ?_
    refine Yields.pure ?_
    simp_all [AllAllowed, refs]

instance : parseSplTokenMultisigners.InBounds base keys := by
  unfold parseSplTokenMultisigners
  repeat refine inBounds_seq fun _ _ => ?_
  refine Yields.pure ?_
  simp_all [AllAllowed, refs]

instance : parseInitializeMultisigSplTokenInstruction.InBounds base keys := by
  unfold parseInitializeMultisigSplTokenInstruction
  repeat refine inBounds_seq fun _ _ => ?_
  refine Yields.pure ?_
  simp_all [AllAllowed, refs]

instance : parseSplTokenSign.InBounds base keys := by
  unfold parseSplTokenSign
  refine inBounds_seq fun _ _ => inBounds_seq fun _ _ => .ite (fun _ => inBounds_map fun _ => rfl)
    fun _ => inBounds_seq fun _ _ => inBounds_seq fun _ _ => .pure ?_
  simp_all [AllAllowed, refs]

/-- The loop over the signers, by induction on the accounts left. -/
instance inBounds_skipSigners (numRequiredSignatures : UInt8) (fuel : ℕ) (signersCount : UInt8) :
    (skipSigners numRequiredSignatures fuel signersCount).InBounds base keys := by
  induction fuel generalizing signersCount with
  | zero => exact .pure fun _ hr => nomatch hr
  | succ fuel ih =>
      unfold skipSigners
      refine inBounds_seq fun index _ => ?_
      rcases index with _ | index
      · exact .pure fun _ hr => nomatch hr
      · exact .ite (fun _ => inBounds_seq fun _ _ => ih _) fun _ => .pure fun _ hr => nomatch hr

instance (header : MessageHeader) : (parseSplToken2022Sign header).InBounds base keys := by
  unfold parseSplToken2022Sign
  refine inBounds_seq fun index _ => ?_
  rcases index with _ | index
  · exact .throw
  refine .ite (fun _ => inBounds_map fun _ => rfl) fun _ => ?_
  repeat refine inBounds_seq fun _ _ => ?_
  refine Yields.pure ?_
  simp_all [AllAllowed, refs]

instance : parseSplTokenHook.InBounds base keys := by
  unfold parseSplTokenHook
  exact inBounds_seq fun _ _ => .pure fun _ hr => nomatch hr

instance (ctx : TokenContext) (header : MessageHeader)
    (isTransferCheckedWithFee isToken2022Kind : Bool) :
    (parseTransferSplTokenInstruction ctx header isTransferCheckedWithFee
      isToken2022Kind).InBounds base keys := by
  have hsign : (if isToken2022Kind then do
        let sign ← parseSplToken2022Sign header
        let hook ← parseSplTokenHook
        return (sign, hook)
      else do
        let sign ← parseSplTokenSign
        return (sign, false) : InstrM (SplTokenSign × Bool)).InBounds base keys := by
    refine Yields.ite (fun _ => ?_) fun _ => ?_
    all_goals
      repeat refine inBounds_seq fun _ _ => ?_
      refine Yields.pure ?_
      simp_all [AllAllowed, refs]
  unfold parseTransferSplTokenInstruction
  repeat refine inBounds_seq fun _ _ => ?_
  refine Yields.pure ?_
  simp_all [AllAllowed, refs]

instance : parseApproveSplTokenInstruction.InBounds base keys := by
  unfold parseApproveSplTokenInstruction
  repeat refine inBounds_seq fun _ _ => ?_
  refine Yields.pure ?_
  simp_all [AllAllowed, refs]

instance : parseRevokeSplTokenInstruction.InBounds base keys := by
  unfold parseRevokeSplTokenInstruction
  repeat refine inBounds_seq fun _ _ => ?_
  refine Yields.pure ?_
  simp_all [AllAllowed, refs]

instance : parseSetAuthoritySplTokenInstruction.InBounds base keys := by
  unfold parseSetAuthoritySplTokenInstruction
  refine inBounds_seq fun account haccount => inBounds_seq fun _ _ => inBounds_seq fun _ _ =>
    inBounds_seq fun newAuthority hnewAuthority => inBounds_seq fun sign hsign => .pure ?_
  exact List.forall_mem_append.mpr
    ⟨haccount, List.forall_mem_append.mpr ⟨hnewAuthority, hsign⟩⟩

instance : parseMintToSplTokenInstruction.InBounds base keys := by
  unfold parseMintToSplTokenInstruction
  repeat refine inBounds_seq fun _ _ => ?_
  refine Yields.pure ?_
  simp_all [AllAllowed, refs]

instance : parseBurnSplTokenInstruction.InBounds base keys := by
  unfold parseBurnSplTokenInstruction
  repeat refine inBounds_seq fun _ _ => ?_
  refine Yields.pure ?_
  simp_all [AllAllowed, refs]

instance : parseCloseAccountSplTokenInstruction.InBounds base keys := by
  unfold parseCloseAccountSplTokenInstruction
  repeat refine inBounds_seq fun _ _ => ?_
  refine Yields.pure ?_
  simp_all [AllAllowed, refs]

instance : parseFreezeAccountSplTokenInstruction.InBounds base keys := by
  unfold parseFreezeAccountSplTokenInstruction
  repeat refine inBounds_seq fun _ _ => ?_
  refine Yields.pure ?_
  simp_all [AllAllowed, refs]

instance : parseThawAccountSplTokenInstruction.InBounds base keys := by
  unfold parseThawAccountSplTokenInstruction
  repeat refine inBounds_seq fun _ _ => ?_
  refine Yields.pure ?_
  simp_all [AllAllowed, refs]

instance : parseSyncNativeSplTokenInstruction.InBounds base keys := by
  unfold parseSyncNativeSplTokenInstruction
  repeat refine inBounds_seq fun _ _ => ?_
  refine Yields.pure ?_
  simp_all [AllAllowed, refs]

instance : parseTransferFeeInstruction.InBounds base keys := by
  unfold parseTransferFeeInstruction
  exact inBounds_seq fun _ _ => .ite (fun _ => .pure fun _ hr => nomatch hr) fun _ => .throw

instance (ctx : TokenContext) (header : MessageHeader) (instruction : Instruction) :
    (parseSplTokenInstructions ctx header instruction).InBounds base keys := by
  unfold parseSplTokenInstructions
  refine inBounds_seq fun kind _ =>
    @inBounds_seq _ _ _ _ _ _ _ _ _ _ inBounds_call fun isToken2022Kind _ => ?_
  dsimp only
  split
  case h_15 =>
    refine inBounds_seq fun _ _ => inBounds_seq fun _ _ => .ite (fun _ => ?_) fun _ => ?_
    · exact inBounds_map fun info => List.append_nil _
    · exact .pure fun _ hr => nomatch hr
  case h_16 => exact .pure fun _ hr => nomatch hr
  all_goals exact inBounds_map fun info => List.append_nil _

end

/-! ## AgenC -/

/-- A reference to an array of a fixed length. -/
def fixedRef (length : ℕ) (p : Ptr (List UInt8)) : Ref := ⟨p.addr, length, p.val⟩

instance : Refs AgencRegisterAgentInfo :=
  ⟨fun info => refs info.agent ++ (refs info.protocolConfig ++ (refs info.authority ++ (refs
    info.systemProgram ++ (refs info.agentId ++ (refs info.endpoint ++ (refs
    info.metadataUri))))))⟩

instance : Refs AgencCreateTaskInfo :=
  ⟨fun info => refs info.task ++ (refs info.escrow ++ (refs info.protocolConfig ++ (refs
    info.creatorAgent ++ (refs info.authorityRateLimit ++ (refs info.authority ++ (refs
    info.creator ++ (refs info.systemProgram ++ (refs info.taskId ++ ([fixedRef 64
    info.description] ++ (refs info.descriptionCommitment ++ (refs info.constraintHash ++ (refs
    info.rewardMint))))))))))))⟩

instance : Refs AgencConfigureTaskValidationInfo :=
  ⟨fun info => refs info.task ++ (refs info.taskValidationConfig ++ (refs
    info.taskAttestorConfig ++ (refs info.protocolConfig ++ (refs info.hireRecord ++ (refs
    info.creator ++ (refs info.systemProgram ++ (refs info.attestor)))))))⟩

instance : Refs AgencSetTaskJobSpecInfo :=
  ⟨fun info => refs info.protocolConfig ++ (refs info.task ++ (refs info.moderationConfig ++
    (refs info.taskModeration ++ (refs info.moderationAttestor ++ (refs info.moderationBlock ++
    (refs info.taskJobSpec ++ (refs info.creator ++ (refs info.systemProgram ++ (refs
    info.jobSpecHash ++ (refs info.jobSpecUri))))))))))⟩

instance : Refs AgencClaimTaskWithJobSpecInfo :=
  ⟨fun info => refs info.task ++ (refs info.taskJobSpec ++ (refs info.hireRecord ++ (refs
    info.legacyListing ++ (refs info.moderationBlock ++ (refs info.claim ++ (refs
    info.protocolConfig ++ (refs info.worker ++ (refs info.authority ++ (refs
    info.systemProgram)))))))))⟩

/-- The artifact hash is held by value. -/
instance : Refs AgencSubmitTaskResultInfo :=
  ⟨fun info => refs info.task ++ (refs info.claim ++ (refs info.taskValidationConfig ++ (refs
    info.taskSubmission ++ (refs info.protocolConfig ++ (refs info.worker ++ (refs info.authority
    ++ (refs info.systemProgram ++ (refs info.proofHash ++ (info.resultData.toList.map (fixedRef
    64))))))))))⟩

instance : Refs AgencAcceptTaskResultInfo :=
  ⟨fun info => refs info.task ++ (refs info.claim ++ (refs info.escrow ++ (refs
    info.taskValidationConfig ++ (refs info.taskSubmission ++ (refs info.worker ++ (refs
    info.protocolConfig ++ (refs info.treasury ++ (refs info.creator ++ (refs info.workerAuthority
    ++ (refs info.hireRecord ++ (refs info.operator ++ (refs info.referrer ++ (refs
    info.creatorCompletionBond ++ (refs info.workerCompletionBond ++ (refs
    info.systemProgram)))))))))))))))⟩

instance : Refs AgencRejectTaskResultInfo :=
  ⟨fun info => refs info.task ++ (refs info.claim ++ (refs info.taskValidationConfig ++ (refs
    info.taskSubmission ++ (refs info.worker ++ (refs info.protocolConfig ++ (refs info.creator ++
    (refs info.workerAuthority ++ (refs info.agentStats ++ (refs info.systemProgram ++ (refs
    info.workerCompletionBond ++ (refs info.rejectionHash)))))))))))⟩

instance : Refs AgencCancelTaskInfo :=
  ⟨fun info => refs info.task ++ (refs info.escrow ++ (refs info.authority ++ (refs
    info.protocolConfig ++ (refs info.systemProgram))))⟩

instance : Refs AgencExpireClaimInfo :=
  ⟨fun info => refs info.authority ++ (refs info.task ++ (refs info.escrow ++ (refs info.claim
    ++ (refs info.worker ++ (refs info.protocolConfig ++ (refs info.taskValidationConfig ++ (refs
    info.taskSubmission ++ (refs info.rentRecipient ++ (refs info.workerCompletionBond ++ (refs
    info.bondCreator ++ (refs info.agentStats ++ (refs info.treasury ++ (refs
    info.systemProgram)))))))))))))⟩

instance : Refs AgencBody where
  refs
    | .registerAgent info => refs info
    | .createTask info => refs info
    | .configureTaskValidation info => refs info
    | .setTaskJobSpec info => refs info
    | .claimTaskWithJobSpec info => refs info
    | .submitTaskResult info => refs info
    | .acceptTaskResult info => refs info
    | .rejectTaskResult info => refs info
    | .cancelTask info => refs info
    | .expireClaim info => refs info

instance : Refs AgencInfo := ⟨fun info => refs info.programId ++ refs info.body⟩

section

variable {base : Ptr (List UInt8)} {keys : List (Ptr Pubkey)}

instance : parseU16Le.InBounds base keys := inferInstanceAs (parseU16.InBounds base keys)

instance : parseHashRef.InBounds base keys := inferInstanceAs ((parseBlock 32).InBounds base keys)

/-- A value behind its option tag. -/
instance {α : Type} [Refs α] {parse : ParseM α} [parse.InBounds base keys] :
    (parseOptionalRef parse).InBounds base keys :=
  inferInstanceAs ((parseOptional parse).InBounds base keys)

instance : parseOptionalHashRef.InBounds base keys :=
  inferInstanceAs ((parseOptionalRef parseHashRef).InBounds base keys)

instance : parseOptionalPubkeyRef.InBounds base keys :=
  inferInstanceAs ((parseOptionalRef parsePubkey).InBounds base keys)

instance : parseOptionalBorshString.InBounds base keys :=
  inferInstanceAs ((parseOptionalRef parseBorshString).InBounds base keys)

/-- An array is as long as it should be. -/
theorem yields_parseFixedBytes (length : ℕ) :
    Yields (Parser.Within base) (fun p => (fixedRef length p).In base)
      (parseFixedBytes length) := by
  refine yields_of_accepts (accepts_bytes length) fun n p w hp hin => hin _ ?_
  obtain ⟨hlength, rfl⟩ := hp
  exact ⟨hlength, [], [], by simp [fixedRef], rfl⟩

theorem yields_parseOptionalResultData :
    Yields (Parser.Within base) (fun o => ∀ p ∈ o, (fixedRef 64 p).In base)
      parseOptionalResultData := by
  unfold parseOptionalResultData parseOptionalRef
  refine Yields.seq (Q := AllAllowed base []) fun option _ => .ite (fun _ => ?_) fun _ => .pure ?_
  · refine Yields.seq (h := yields_parseFixedBytes 64) fun p hp => .pure fun q hq => ?_
    obtain rfl := Option.mem_some.mp hq
    exact hp
  · intro p hp
    cases hp

/-- The first bytes of an array. -/
theorem Ref.In.take {length n : ℕ} {p : Ptr (List UInt8)} (h : (fixedRef length p).In base)
    (hn : n ≤ length) : Ref.In ⟨p.addr, n, (Block.ofBytes n p.val).data⟩ base := by
  obtain ⟨hlength, before, after, hsplit, haddr⟩ := h
  have hlength : p.val.length = length := hlength
  have hsplit : base.val = before ++ (p.val ++ after) := hsplit
  refine ⟨(Block.ofBytes n p.val).size, before, p.val.drop n ++ after, ?_, haddr⟩
  rw [Block.ofBytes_data (by omega), ← List.append_assoc (p.val.take n), List.take_append_drop,
    hsplit]

end

section

variable {base : Ptr (List UInt8)} {instruction : Instruction} {header : MessageHeader}

instance (accountIndex : ℕ) :
    (accountAt instruction header accountIndex).InBounds base header.pubkeys := by
  unfold accountAt
  split
  · exact .throw
  · split
    · exact .throw
    · rename_i key hkey
      exact .pure fun r hr => .inr ⟨key, List.mem_of_getElem? hkey, hr⟩

instance (accountIndex : ℕ) :
    (systemProgramAt instruction header accountIndex).InBounds base header.pubkeys := by
  unfold systemProgramAt
  exact inBounds_seq fun _ hkey => inBounds_seq fun _ _ => .pure hkey

instance (n : ℕ) : (accountsLengthIs instruction n).InBounds base header.pubkeys := by
  unfold accountsLengthIs
  infer_instance

instance : (parseRegisterAgent instruction header).InBounds base header.pubkeys := by
  unfold parseRegisterAgent
  repeat refine inBounds_seq fun _ _ => ?_
  refine Yields.pure ?_
  simp_all [AllAllowed, refs]

instance : (parseConfigureTaskValidation instruction header).InBounds base header.pubkeys := by
  unfold parseConfigureTaskValidation
  repeat refine inBounds_seq fun _ _ => ?_
  refine Yields.pure ?_
  simp_all [AllAllowed, refs]

instance : (parseSetTaskJobSpec instruction header).InBounds base header.pubkeys := by
  unfold parseSetTaskJobSpec
  repeat refine inBounds_seq fun _ _ => ?_
  refine Yields.pure ?_
  simp_all [AllAllowed, refs]

instance : (parseClaimTaskWithJobSpec instruction header).InBounds base header.pubkeys := by
  unfold parseClaimTaskWithJobSpec
  repeat refine inBounds_seq fun _ _ => ?_
  refine Yields.pure ?_
  simp_all [AllAllowed, refs]

instance : (parseAcceptTaskResult instruction header).InBounds base header.pubkeys := by
  unfold parseAcceptTaskResult
  repeat refine inBounds_seq fun _ _ => ?_
  refine Yields.pure ?_
  simp_all [AllAllowed, refs]

instance : (parseRejectTaskResult instruction header).InBounds base header.pubkeys := by
  unfold parseRejectTaskResult
  repeat refine inBounds_seq fun _ _ => ?_
  refine Yields.pure ?_
  simp_all [AllAllowed, refs]

instance : (parseExpireClaim instruction header).InBounds base header.pubkeys := by
  unfold parseExpireClaim
  repeat refine inBounds_seq fun _ _ => ?_
  refine Yields.pure ?_
  simp_all [AllAllowed, refs]

instance : (parseCancelTask instruction header).InBounds base header.pubkeys := by
  unfold parseCancelTask
  repeat refine inBounds_seq fun _ _ => ?_
  refine Yields.pure ?_
  simp_all [AllAllowed, refs]

instance : (parseCreateTask instruction header).InBounds base header.pubkeys := by
  unfold parseCreateTask
  iterate 11 refine inBounds_seq fun _ _ => ?_
  refine Yields.seq (h := yields_parseFixedBytes 64) fun description hdescription => ?_
  iterate 8 refine inBounds_seq fun _ _ => ?_
  refine Yields.pure ?_
  have hcommitment : Allowed base header.pubkeys
      ⟨description.addr, 32, (Block.ofBytes 32 description.val).data⟩ :=
    .inl (hdescription.take (by decide))
  have hdescription : Allowed base header.pubkeys (fixedRef 64 description) := .inl hdescription
  simp_all [AllAllowed, refs, or_imp]

instance : (parseSubmitTaskResult instruction header).InBounds base header.pubkeys := by
  unfold parseSubmitTaskResult
  iterate 10 refine inBounds_seq fun _ _ => ?_
  refine Yields.seq (h := yields_parseOptionalResultData) fun resultData hresultData => .pure ?_
  have hresultData : ∀ p ∈ resultData, Allowed base header.pubkeys (fixedRef 64 p) :=
    fun p hp => .inl (hresultData p hp)
  simp_all [AllAllowed, refs]

instance (discriminator : List UInt8) :
    (parseAgencBody instruction header discriminator).InBounds base header.pubkeys := by
  unfold parseAgencBody
  iterate 10 refine Yields.ite (fun _ => inBounds_map fun _ => rfl) fun _ => ?_
  exact .throw

/-- The program id is a key of the header, the body is read from the data. -/
theorem allAllowed_parseAgencInstructions {info : AgencInfo}
    (h : parseAgencInstructions instruction header = .ok info) :
    AllAllowed instruction.data header.pubkeys info := by
  obtain ⟨programId, hprogramId, h⟩ := (Result.seq_ok_iff _ _ _).mp h
  obtain ⟨_, -, h⟩ := (Result.seq_ok_iff _ _ _).mp h
  obtain ⟨⟨body, p⟩, hbody, h⟩ := (Result.seq_ok_iff _ _ _).mp h
  obtain ⟨_, -, h⟩ := (Result.seq_ok_iff _ _ _).mp h
  cases h
  have hparse : (parseFixedBytes 8 >>= fun discriminator =>
      parseAgencBody instruction header discriminator.val).InBounds instruction.data
        header.pubkeys :=
    Yields.seq (h := yields_parseFixedBytes 8) fun _ _ => inferInstance
  have hstart : Parser.Within instruction.data ⟨instruction.data.addr, instruction.data.val⟩ :=
    ⟨[], reads_nil.mpr rfl⟩
  intro r hr
  rcases List.mem_append.mp hr with hr | hr
  · exact .inr ⟨programId, readAt_mem hprogramId, hr⟩
  · exact (hparse.ensures _ _ _ hstart hbody).1 r hr

end

/-! ## Messages -/

section

variable {base : Ptr (List UInt8)} {keys : List (Ptr Pubkey)}

instance : Refs (List (Ptr Pubkey)) := ⟨fun keys => keys.flatMap refs⟩
instance {n : ℕ} : Refs {l : List (Ptr Pubkey) // l.length = n} := ⟨fun keys => refs keys.val⟩
instance : Refs PubkeysHeader := ⟨fun _ => []⟩
instance : Refs MessageHeader := ⟨fun header => refs header.pubkeys ++ refs header.blockhash⟩
instance : Refs Instruction :=
  ⟨fun instruction => refs instruction.accounts ++ refs instruction.data⟩

instance : parseLength.InBounds base keys := .of_plain accepts_parseLength fun _ => rfl

instance : parseBlockhash.InBounds base keys := inferInstanceAs ((parseBlock 32).InBounds base keys)

instance : parsePubkeysHeader.InBounds base keys := by
  unfold parsePubkeysHeader
  repeat refine inBounds_seq fun _ _ => ?_
  exact .pure fun _ hr => nomatch hr

instance : parseVersion.InBounds base keys where
  ensures := fun p version p' ⟨w, hw⟩ h => by
    obtain ⟨addr, _ | ⟨b, rest⟩⟩ := p
    · cases h
    refine ⟨fun _ hr => (nomatch hr), ?_⟩
    unfold parseVersion at h
    dsimp only at h
    split at h
    · cases h
      exact ⟨w ++ [b], reads_append.mpr ⟨_, hw, rfl, rfl⟩⟩
    · cases h
      exact ⟨w, hw⟩

/-- The keys of an array follow each other in its bytes. -/
instance (numPubkeys : ℕ) : (parsePubkeysWithLen numPubkeys).InBounds base keys := by
  refine .of_accepts (accepts_parsePubkeysWithLen numPubkeys) fun n keys w ⟨hlength, hkeys⟩ => ?_
  intro r hr
  obtain ⟨key, hkey, hr⟩ := List.mem_flatMap.mp hr
  obtain rfl := List.mem_singleton.mp hr
  rw [hkeys, pubkeyArray] at hkey
  obtain ⟨i, hi, rfl⟩ := List.mem_map.mp hkey
  have hi := List.mem_range.mp hi
  have hblock : (Block.ofBytes 32 (w.drop (32 * i))).data = (w.drop (32 * i)).take 32 :=
    Block.ofBytes_data (by rw [List.length_drop]; omega)
  refine ⟨(Block.ofBytes 32 _).size, w.take (32 * i), (w.drop (32 * i)).drop 32, ?_, ?_⟩
  · rw [hblock, List.take_append_drop, List.take_append_drop]
  · rw [List.length_take, Nat.min_eq_left (by omega)]

instance : parseMessageHeader.InBounds base keys := by
  unfold parseMessageHeader
  refine inBounds_seq fun version _ => ?_
  obtain ⟨versioned, version⟩ := version
  dsimp only
  iterate 4 refine inBounds_seq fun _ _ => ?_
  refine inBounds_seq fun pubkeys hpubkeys => inBounds_seq fun blockhash hblockhash =>
    inBounds_seq fun _ _ => .pure ?_
  exact List.forall_mem_append.mpr ⟨hpubkeys, hblockhash⟩

instance : parseData.InBounds base keys := by
  refine .of_accepts accepts_parseData fun n data w ⟨length, u, v, hw, _, hdata⟩ r hr => ?_
  obtain rfl := List.mem_singleton.mp hr
  obtain ⟨_, rfl⟩ := hdata
  exact ⟨rfl, u, [], by simpa using hw, rfl⟩

instance : parseInstruction.InBounds base keys := by
  unfold parseInstruction
  repeat refine inBounds_seq fun _ _ => ?_
  refine Yields.pure ?_
  simp_all [AllAllowed, refs]

end

/-! ## Every program -/

/-- The message as a piece of memory. -/
def messageBytes (message : List UInt8) : Ptr (List UInt8) := ⟨0, message⟩

/-- **A call of a parser stays in bounds**: nothing but a return code ends it early, no access to a
key, to the data or to the accounts that is not there, and all it hands out lies in the message. -/
structure CallInBounds {α : Type} [Refs α] (message : List UInt8) (call : Result α) : Prop where
  stops : ∀ {stop}, call = .error stop → stop = .bail
  refs : ∀ {info}, call = .ok info → ∀ r ∈ refs info, r.In (messageBytes message)

/-- What lies in a piece of the message lies in the message. -/
theorem Ref.In.trans {r : Ref} {data base : Ptr (List UInt8)} (hr : r.In data)
    (hdata : Ref.In ⟨data.addr, data.val.length, data.val⟩ base) : r.In base := by
  obtain ⟨hlength, before, after, hsplit, haddr⟩ := hr
  obtain ⟨-, before', after', hsplit', haddr'⟩ := hdata
  have hsplit' : base.val = before' ++ (data.val ++ after') := hsplit'
  have haddr' : data.addr = base.addr + before'.length := haddr'
  refine ⟨hlength, before' ++ before, after ++ after', ?_, ?_⟩
  · rw [hsplit', hsplit]
    simp only [List.append_assoc]
  · rw [haddr, haddr', List.length_append, Nat.add_assoc]

section

variable {message : List UInt8} {header : MessageHeader} {instruction : Instruction}

/-- The header and the instruction were parsed from the message. -/
structure ParsedFrom (message : List UInt8) (header : MessageHeader) (instruction : Instruction) :
    Prop where
  pubkeys : ∀ r ∈ refs header.pubkeys, r.In (messageBytes message)
  data : Ref.In ⟨instruction.data.addr, instruction.data.val.length, instruction.data.val⟩
    (messageBytes message)

theorem parsedFrom {rest start after : Parser}
    (hheader : parseMessageHeader ⟨0, message⟩ = .ok (header, rest))
    (hstart : start.Within (messageBytes message))
    (hinstruction : parseInstruction start = .ok (instruction, after)) :
    ParsedFrom message header instruction := by
  have hbegin : Parser.Within (messageBytes message) ⟨0, message⟩ := ⟨[], reads_nil.mpr rfl⟩
  have hin : ∀ {r : Ref}, Allowed (messageBytes message) [] r → r.In (messageBytes message) := by
    rintro r (hr | ⟨_, hkey, -⟩)
    · exact hr
    · cases hkey
  have hkeys : ParseM.InBounds (messageBytes message) [] parseMessageHeader := inferInstance
  have hdata : ParseM.InBounds (messageBytes message) [] parseInstruction := inferInstance
  refine ⟨fun r hr => hin ?_, hin ?_⟩
  · exact (hkeys.ensures _ _ _ hbegin hheader).1 r (List.mem_append_left _ hr)
  · refine (hdata.ensures _ _ _ hstart hinstruction).1 _ ?_
    exact List.mem_append_right _ (List.mem_singleton.mpr rfl)

/-- References into the data and to keys of the header lie in the message. -/
theorem ParsedFrom.refs_in {α : Type} [Refs α] (h : ParsedFrom message header instruction) {a : α}
    (ha : AllAllowed instruction.data header.pubkeys a) :
    ∀ r ∈ refs a, r.In (messageBytes message) := by
  intro r hr
  rcases ha r hr with hdata | ⟨key, hkey, hr⟩
  · exact hdata.trans h.data
  · exact h.pubkeys r (List.mem_flatMap.mpr ⟨key, hkey, hr⟩)

/-- **A parser all of whose steps stay in bounds does so as a call.** -/
theorem ParsedFrom.callInBounds {α : Type} [Refs α] {step : InstrM α} [hfaultless : step.Faultless]
    [hstep : step.InBounds instruction.data header.pubkeys]
    (h : ParsedFrom message header instruction)
    (hvalid : instructionValidate instruction header = true) :
    CallInBounds message (step.parse header instruction) where
  stops := fun {stop} herror => by
    rcases Result.seq_error_iff.mp herror with hs | ⟨_, -, hs⟩
    · exact hfaultless.error (valid_init hvalid) hs
    · cases hs
  refs := fun {info} hok => by
    obtain ⟨c, hc⟩ := InstrM.parse_ok_iff.mp hok
    refine h.refs_in (hstep.ensures _ _ _ ⟨⟨[], reads_nil.mpr rfl⟩, rfl⟩ hc).1

/-- **The parsers of the programs stay in bounds**, on every instruction of every message that
passes `instruction_validate`. -/
theorem programParsers_inBounds {rest start after : Parser} (ctx : TokenContext)
    (hheader : parseMessageHeader ⟨0, message⟩ = .ok (header, rest))
    (hstart : start.Within (messageBytes message))
    (hinstruction : parseInstruction start = .ok (instruction, after))
    (hvalid : instructionValidate instruction header = true) :
    CallInBounds message (parseSystemInstructions.parse header instruction) ∧
    CallInBounds message (parseStakeInstructions.parse header instruction) ∧
    CallInBounds message
      ((parseVoteInstructions instruction.data.val.length).parse header instruction) ∧
    CallInBounds message
      ((parseSplTokenInstructions ctx header instruction).parse header instruction) ∧
    CallInBounds message
      ((parseSplAssociatedTokenAccountInstructions instruction.data.val.length).parse header
        instruction) ∧
    CallInBounds message ((parseComputeBudgetInstructions header).parse header instruction) ∧
    CallInBounds message (parseAgencInstructions instruction header) := by
  have h := parsedFrom hheader hstart hinstruction
  obtain ⟨key, -, hkey⟩ := readAt_of_lt (instructionValidate_iff.mp hvalid).1
  have htoken : isToken2022Instruction instruction header
      = .ok (key.val == splToken2022ProgramId) := by
    rw [isToken2022Instruction, programIdKey, hkey]
    rfl
  have := faultless_parseSplTokenInstructions ctx htoken
  refine ⟨h.callInBounds hvalid, h.callInBounds hvalid, h.callInBounds hvalid,
    h.callInBounds hvalid, h.callInBounds hvalid, h.callInBounds hvalid, ?_⟩
  exact ⟨stop_of_parseAgencInstructions hkey,
    fun hinfo => h.refs_in (allAllowed_parseAgencInstructions hinfo)⟩

end

/-- A transfer of five lamports from the signer to itself. -/
def selfTransferBytes : List UInt8 :=
  writeInstruction 1 [0, 0] [2, 0, 0, 0, 5, 0, 0, 0, 0, 0, 0, 0]

/-- The message with the transfer. -/
def selfTransferMessage : List UInt8 :=
  legacyMessage [plainSigner, systemProgramId] [selfTransferBytes]

/-- Its header as it is parsed. -/
def selfTransferHeader : MessageHeader :=
  legacyHeader [plainSigner, systemProgramId] (by decide) 1

/-- Its instruction as it is parsed. -/
def selfTransfer : Instruction :=
  ⟨1, ⟨103, [0, 0]⟩, ⟨106, [2, 0, 0, 0, 5, 0, 0, 0, 0, 0, 0, 0]⟩⟩

theorem parse_selfTransferMessage :
    parseMessageHeader ⟨0, selfTransferMessage⟩
      = .ok (selfTransferHeader, legacyBody [plainSigner, systemProgramId] [selfTransferBytes]) ∧
    parseInstruction (legacyBody [plainSigner, systemProgramId] [selfTransferBytes])
      = .ok (selfTransfer, ⟨118, []⟩) := by
  decide +kernel

/-- The parsers on the transfer, which is one for the System program's. -/
theorem programParsers_inBounds_hi :
    (∃ info, parseSystemInstructions.parse selfTransferHeader selfTransfer = .ok info) ∧
    CallInBounds selfTransferMessage
      (parseSystemInstructions.parse selfTransferHeader selfTransfer) :=
  ⟨⟨_, rfl⟩, (programParsers_inBounds emptyContext parse_selfTransferMessage.1
    ⟨selfTransferMessage.take 101, rfl, rfl⟩ parse_selfTransferMessage.2 (by decide)).1⟩

end AgencLedger
