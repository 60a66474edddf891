import AgencLedger.Sol.Message

/-!
# Program/Faultless — a program's parser fails by its return code only

`instruction_validate` bounds the indices of an instruction by the keys of the header.  From there
on no parser of a program reads past an array: it returns `0` or another code, and
`process_message_body` goes on with the next instruction.
-/

namespace AgencLedger

/-- A step that fails only with a return code. -/
abbrev Faultless {σ α : Type} (P : σ → Prop) (step : StateT σ Result α) : Prop :=
  FailsOnly P Stop.bail step

/-! ## Reading the data -/

/-- A parsing step that fails only with a return code, wherever it starts. -/
abbrev ParseM.Faultless {α : Type} (step : ParseM α) : Prop :=
  AgencLedger.Faultless (fun _ => True) step

instance (num : ℕ) : (checkBufferLength num).Faultless where
  error := fun _ h => by
    unfold checkBufferLength at h
    split at h <;> cases h
    rfl
  ok := fun _ _ => trivial

/-- Moving on does not fail once the length has been checked. -/
instance (num : ℕ) : (checkBufferLength num >>= fun _ => advance num).Faultless where
  error := fun {p e} _ h => by
    rcases hcheck : checkBufferLength num p with e' | ⟨u, p'⟩
    · rw [step_seq_of_error hcheck] at h
      cases h
      unfold checkBufferLength at hcheck
      split at hcheck <;> cases hcheck
      rfl
    · rw [step_seq_of_ok hcheck] at h
      unfold checkBufferLength at hcheck
      split at hcheck
      · cases hcheck
      · rename_i hlength
        cases hcheck
        have hok := advance_ok_iff.mpr ⟨Nat.not_lt.mp hlength, rfl⟩
        cases hok.symm.trans h
  ok := fun _ _ => trivial

instance (num : ℕ) {α : Type} {next : Ptr (List UInt8) → ParseM α}
    [hnext : ∀ bytes, (next bytes).Faultless] :
    (checkBufferLength num >>= fun _ => advance num >>= next).Faultless := by
  have hassoc : (checkBufferLength num >>= fun _ => advance num >>= next)
      = (checkBufferLength num >>= fun _ => advance num) >>= next := (bind_assoc _ _ _).symm
  rw [hassoc]
  exact FailsOnly.seq

instance (c : Bool) : (parseBailIf c).Faultless where
  error := fun _ h => by
    unfold parseBailIf at h
    split at h <;> cases h
    rfl
  ok := fun _ _ => trivial

instance : parseU8.Faultless where
  error := fun _ h => by
    unfold parseU8 at h
    split at h <;> cases h
    rfl
  ok := fun _ _ => trivial

instance : parseU16.Faultless := by
  unfold parseU16
  infer_instance

instance : parseU32.Faultless := by
  unfold parseU32
  infer_instance

instance : parseU64.Faultless := by
  unfold parseU64
  infer_instance

instance : parseI64.Faultless := by
  unfold parseI64
  infer_instance

instance : parseLength.Faultless := by
  unfold parseLength
  infer_instance

instance : parseOption.Faultless := by
  unfold parseOption
  infer_instance

instance : parseSizedString.Faultless := by
  unfold parseSizedString
  infer_instance

instance (n : ℕ) : (parseBlock n).Faultless := by
  unfold parseBlock
  infer_instance

instance : parsePubkey.Faultless := inferInstanceAs (parseBlock 32).Faultless

instance : parseData.Faultless := by
  unfold parseData
  infer_instance

instance : parseInstruction.Faultless := by
  unfold parseInstruction
  infer_instance

/-! ## Walking the accounts -/

/-- The iterator stays among the accounts, and each of them is one of the keys. -/
structure Cursor.Valid (c : Cursor) : Prop where
  length : c.it.length.toNat ≤ c.it.accounts.length
  accounts : ∀ index ∈ c.it.accounts, index.toNat < c.it.messageHeaderPubkeys.length

/-- A step of a program's parser that fails only with a return code, on the accounts of a valid
instruction. -/
abbrev InstrM.Faultless {α : Type} (step : InstrM α) : Prop :=
  AgencLedger.Faultless Cursor.Valid step

theorem Result.seq_error_iff {α β : Type} {call : Result α} {next : α → Result β} {stop : Stop} :
    (call >>= next) = .error stop ↔
      call = .error stop ∨ ∃ a, call = .ok a ∧ next a = .error stop := by
  cases call with
  | error s => simp [bind, Except.bind]
  | ok a => simp [bind, Except.bind]

theorem Result.step_seq_error_iff {σ α β : Type} {step : StateT σ Result α}
    {next : α → StateT σ Result β} {s : σ} {stop : Stop} :
    (step >>= next) s = .error stop ↔
      step s = .error stop ∨ ∃ a s', step s = .ok (a, s') ∧ next a s' = .error stop := by
  refine (@Result.seq_error_iff _ _ (step s) (fun q => next q.1 q.2) stop).trans ?_
  exact or_congr_right ⟨fun ⟨q, hs, hn⟩ => ⟨q.1, q.2, hs, hn⟩, fun ⟨a, s', hs, hn⟩ => ⟨_, hs, hn⟩⟩

theorem bailIf_eq_error {c : Bool} {stop : Stop} (h : bailIf c = .error stop) : stop = .bail := by
  unfold bailIf at h
  split at h <;> cases h
  rfl

theorem readAt_of_lt {α : Type} {l : List α} {i : ℕ} (h : i < l.length) :
    ∃ a ∈ l, readAt l i = .ok a :=
  ⟨l[i], List.getElem_mem h, readAt_eq_ok.mpr (List.getElem?_eq_getElem h)⟩

/-- The account under the iterator is there, and so is its key. -/
theorem Cursor.Valid.current {c : Cursor} (hc : c.Valid) (h : c.it.current < c.it.length.toNat) :
    ∃ index key, readAt c.it.accounts c.it.current = .ok index ∧
      readAt c.it.messageHeaderPubkeys index.toNat = .ok key := by
  obtain ⟨index, hmem, hindex⟩ := readAt_of_lt (h.trans_le hc.length)
  obtain ⟨key, -, hkey⟩ := readAt_of_lt (hc.accounts index hmem)
  exact ⟨index, key, hindex, hkey⟩

/-- Reading the data does not move the iterator. -/
instance {α : Type} {step : ParseM α} [hstep : step.Faultless] :
    (liftM step : InstrM α).Faultless where
  error := fun {c e} _ h => by
    rcases hs : step c.parser with e' | ⟨a, p⟩
    · have herror : (liftM step : InstrM α) c = .error e' := by
        change (step c.parser >>= _) = _
        rw [hs]
        rfl
      rw [herror] at h
      cases h
      exact hstep.error trivial hs
    · have hok : (liftM step : InstrM α) c = .ok (a, { c with parser := p }) := by
        change (step c.parser >>= _) = _
        rw [hs]
        rfl
      rw [hok] at h
      cases h
  ok := fun {c a c'} hc h => by
    obtain ⟨p, -, rfl⟩ := InstrM.lift_ok_iff.mp h
    exact ⟨hc.length, hc.accounts⟩

instance : nextAccount.Faultless where
  error := fun {c e} hc h => by
    unfold nextAccount at h
    split at h
    · obtain ⟨index, key, hindex, hkey⟩ := hc.current ‹_›
      rw [hindex] at h
      simp only [bind, Except.bind, hkey] at h
      cases h
    · cases h
      rfl
  ok := fun {c a c'} hc h => by
    unfold nextAccount at h
    split at h
    · obtain ⟨index, key, hindex, hkey⟩ := hc.current ‹_›
      rw [hindex] at h
      simp only [bind, Except.bind, hkey] at h
      cases h
      exact ⟨hc.length, hc.accounts⟩
    · cases h

instance : skipAccount.Faultless where
  error := fun {c e} _ h => by
    unfold skipAccount at h
    split at h <;> cases h
    rfl
  ok := fun {c a c'} hc h => by
    unfold skipAccount at h
    split at h <;> cases h
    exact ⟨hc.length, hc.accounts⟩

instance : remainingAccounts.Faultless where
  error := fun _ h => nomatch h
  ok := fun hc h => by
    cases h
    exact hc

instance : currentAccountIndex.Faultless where
  error := fun {c e} hc h => by
    unfold currentAccountIndex at h
    split at h
    · cases h
    · have hlt : c.it.current < c.it.length.toNat := by
        rename_i hremaining
        rw [InstructionAccountsIterator.remaining] at hremaining
        omega
      obtain ⟨index, -, hindex, -⟩ := hc.current hlt
      rw [hindex] at h
      cases h
  ok := fun {c a c'} hc h => by
    unfold currentAccountIndex at h
    split at h
    · cases h
      exact hc
    · obtain ⟨index, -, h⟩ := (Result.seq_ok_iff _ _ _).mp h
      cases h
      exact hc

instance (b : Bool) : (instrBailIf b).Faultless where
  error := fun _ h => by
    unfold instrBailIf at h
    split at h <;> cases h
    rfl
  ok := fun hc h => by
    obtain ⟨-, hc'⟩ := instrBailIf_ok_iff.mp h
    cases hc'
    exact hc

/-! ## System, stake and vote -/

instance : parseSystemInstructionKind.Faultless := by
  unfold parseSystemInstructionKind
  refine FailsOnly.bind inferInstance fun _ => ?_
  split <;> infer_instance

instance : parseSystemTransferInstruction.Faultless := by
  unfold parseSystemTransferInstruction
  infer_instance

instance : parseSystemCreateAccountInstruction.Faultless := by
  unfold parseSystemCreateAccountInstruction
  infer_instance

instance : parseSystemCreateAccountWithSeedInstruction.Faultless := by
  unfold parseSystemCreateAccountWithSeedInstruction
  infer_instance

instance : parseSystemAdvanceNonceAccountInstruction.Faultless := by
  unfold parseSystemAdvanceNonceAccountInstruction
  infer_instance

instance : parseSystemInitializeNonceAccountInstruction.Faultless := by
  unfold parseSystemInitializeNonceAccountInstruction
  infer_instance

instance : parseSystemWithdrawNonceAccountInstruction.Faultless := by
  unfold parseSystemWithdrawNonceAccountInstruction
  infer_instance

instance : parseSystemAuthorizeNonceAccountInstruction.Faultless := by
  unfold parseSystemAuthorizeNonceAccountInstruction
  infer_instance

instance : parseSystemAllocateInstruction.Faultless := by
  unfold parseSystemAllocateInstruction
  infer_instance

instance : parseSystemAssignInstruction.Faultless := by
  unfold parseSystemAssignInstruction
  infer_instance

instance : parseSystemAllocateWithSeedInstruction.Faultless := by
  unfold parseSystemAllocateWithSeedInstruction
  infer_instance

instance : parseSystemInstructions.Faultless := by
  unfold parseSystemInstructions
  refine FailsOnly.bind inferInstance fun kind => ?_
  cases kind <;> infer_instance

instance : parseStakeInstructionKind.Faultless := by
  unfold parseStakeInstructionKind
  refine FailsOnly.bind inferInstance fun _ => ?_
  split <;> infer_instance

instance : parseStakeAuthorize.Faultless := by
  unfold parseStakeAuthorize
  refine FailsOnly.bind inferInstance fun _ => ?_
  split <;> infer_instance

instance {α : Type} {parse : ParseM α} [parse.Faultless] : (parseOptional parse).Faultless := by
  unfold parseOptional
  infer_instance

instance (parseCustodian : Bool) : (parseStakeLockupargs parseCustodian).Faultless := by
  unfold parseStakeLockupargs
  infer_instance

instance : nextAccountIfAny.Faultless := by
  unfold nextAccountIfAny
  infer_instance

instance : parseDelegateStakeInstruction.Faultless := by
  unfold parseDelegateStakeInstruction
  infer_instance

instance : parseStakeInitializeInstruction.Faultless := by
  unfold parseStakeInitializeInstruction
  infer_instance

instance : parseStakeInitializeCheckedInstruction.Faultless := by
  unfold parseStakeInitializeCheckedInstruction
  infer_instance

instance : parseStakeWithdrawInstruction.Faultless := by
  unfold parseStakeWithdrawInstruction
  infer_instance

instance : parseStakeAuthorizeInstruction.Faultless := by
  unfold parseStakeAuthorizeInstruction
  infer_instance

instance : parseStakeAuthorizeCheckedInstruction.Faultless := by
  unfold parseStakeAuthorizeCheckedInstruction
  infer_instance

instance : parseStakeDeactivateInstruction.Faultless := by
  unfold parseStakeDeactivateInstruction
  infer_instance

instance : parseStakeSetLockupInstruction.Faultless := by
  unfold parseStakeSetLockupInstruction
  infer_instance

instance : parseStakeSetLockupCheckedInstruction.Faultless := by
  unfold parseStakeSetLockupCheckedInstruction
  infer_instance

instance : parseStakeSplitInstruction.Faultless := by
  unfold parseStakeSplitInstruction
  infer_instance

instance : parseStakeMergeInstruction.Faultless := by
  unfold parseStakeMergeInstruction
  infer_instance

instance : parseStakeInstructions.Faultless := by
  unfold parseStakeInstructions
  refine FailsOnly.bind inferInstance fun _ => ?_
  split <;> infer_instance

instance : parseVoteInstructionKind.Faultless := by
  unfold parseVoteInstructionKind
  refine FailsOnly.bind inferInstance fun _ => ?_
  split <;> infer_instance

instance : parseVoteAuthorize.Faultless := by
  unfold parseVoteAuthorize
  refine FailsOnly.bind inferInstance fun _ => ?_
  split <;> infer_instance

instance : parseVoteInitializeInstruction.Faultless := by
  unfold parseVoteInitializeInstruction
  infer_instance

instance : parseVoteWithdrawInstruction.Faultless := by
  unfold parseVoteWithdrawInstruction
  infer_instance

instance : parseVoteAuthorizeInstruction.Faultless := by
  unfold parseVoteAuthorizeInstruction
  infer_instance

instance : parseVoteAuthorizeCheckedInstruction.Faultless := by
  unfold parseVoteAuthorizeCheckedInstruction
  infer_instance

instance : parseVoteUpdateCommissionInstruction.Faultless := by
  unfold parseVoteUpdateCommissionInstruction
  infer_instance

instance (dataLength : ℕ) : (parseVoteUpdateValidatorIdInstruction dataLength).Faultless := by
  unfold parseVoteUpdateValidatorIdInstruction
  infer_instance

instance (dataLength : ℕ) : (parseVoteInstructions dataLength).Faultless := by
  unfold parseVoteInstructions
  refine FailsOnly.bind inferInstance fun _ => ?_
  split <;> infer_instance

/-! ## Compute budget and token accounts -/

instance (header : MessageHeader) : (parseComputeBudgetInstructions header).Faultless := by
  unfold parseComputeBudgetInstructions
  refine FailsOnly.bind inferInstance fun _ => ?_
  split <;> infer_instance

instance : skipAccountIfAny.Faultless := by
  unfold skipAccountIfAny
  infer_instance

instance : parseCreateSplAssociatedTokenAccountInstruction.Faultless := by
  unfold parseCreateSplAssociatedTokenAccountInstruction
  infer_instance

instance (dataLength : ℕ) : (parseSplAssociatedTokenAccountInstructions dataLength).Faultless := by
  unfold parseSplAssociatedTokenAccountInstructions
  split
  · infer_instance
  · refine FailsOnly.bind inferInstance fun _ => FailsOnly.bind inferInstance fun _ =>
      FailsOnly.bind inferInstance fun _ => ?_
    split <;> infer_instance

/-! ## Tokens -/

instance : parseSplTokenInstructionKind.Faultless := by
  unfold parseSplTokenInstructionKind
  refine FailsOnly.bind inferInstance fun _ => ?_
  split <;> infer_instance

instance : parseTokenAuthorityType.Faultless := by
  unfold parseTokenAuthorityType
  refine FailsOnly.bind inferInstance fun _ => ?_
  split <;> infer_instance

instance : parseTransferFeeInstruction.Faultless := by
  unfold parseTransferFeeInstruction
  infer_instance

instance : parseInitializeMintSplTokenInstruction.Faultless := by
  unfold parseInitializeMintSplTokenInstruction
  infer_instance

instance (accountsLength : ℕ) (expectOwnerInAccounts : Bool) :
    (parseInitializeAccountSplTokenInstruction accountsLength expectOwnerInAccounts).Faultless := by
  unfold parseInitializeAccountSplTokenInstruction
  infer_instance

instance : parseSplTokenMultisigners.Faultless := by
  unfold parseSplTokenMultisigners
  infer_instance

instance : parseInitializeMultisigSplTokenInstruction.Faultless := by
  unfold parseInitializeMultisigSplTokenInstruction
  infer_instance

instance : parseSplTokenSign.Faultless := by
  unfold parseSplTokenSign
  infer_instance

/-- The loop over the signers, by induction on the accounts left. -/
instance faultless_skipSigners (numRequiredSignatures : UInt8) (fuel : ℕ) (signersCount : UInt8) :
    (skipSigners numRequiredSignatures fuel signersCount).Faultless := by
  induction fuel generalizing signersCount with
  | zero => exact FailsOnly.pure signersCount
  | succ fuel ih =>
      unfold skipSigners
      refine FailsOnly.bind inferInstance fun index => ?_
      cases index <;> infer_instance

instance (header : MessageHeader) : (parseSplToken2022Sign header).Faultless := by
  unfold parseSplToken2022Sign
  refine FailsOnly.bind inferInstance fun index => ?_
  cases index <;> infer_instance

instance : parseSplTokenHook.Faultless := by
  unfold parseSplTokenHook
  infer_instance

instance (ctx : TokenContext) (header : MessageHeader)
    (isTransferCheckedWithFee isToken2022Kind : Bool) :
    (parseTransferSplTokenInstruction ctx header isTransferCheckedWithFee
      isToken2022Kind).Faultless := by
  unfold parseTransferSplTokenInstruction
  infer_instance

instance : parseApproveSplTokenInstruction.Faultless := by
  unfold parseApproveSplTokenInstruction
  infer_instance

instance : parseRevokeSplTokenInstruction.Faultless := by
  unfold parseRevokeSplTokenInstruction
  infer_instance

instance : parseSetAuthoritySplTokenInstruction.Faultless := by
  unfold parseSetAuthoritySplTokenInstruction
  infer_instance

instance : parseMintToSplTokenInstruction.Faultless := by
  unfold parseMintToSplTokenInstruction
  infer_instance

instance : parseBurnSplTokenInstruction.Faultless := by
  unfold parseBurnSplTokenInstruction
  infer_instance

instance : parseCloseAccountSplTokenInstruction.Faultless := by
  unfold parseCloseAccountSplTokenInstruction
  infer_instance

instance : parseFreezeAccountSplTokenInstruction.Faultless := by
  unfold parseFreezeAccountSplTokenInstruction
  infer_instance

instance : parseThawAccountSplTokenInstruction.Faultless := by
  unfold parseThawAccountSplTokenInstruction
  infer_instance

instance : parseSyncNativeSplTokenInstruction.Faultless := by
  unfold parseSyncNativeSplTokenInstruction
  infer_instance

/-- A call that returns is a step that does. -/
theorem faultless_call {α : Type} {call : Result α} {a : α} (h : call = .ok a) :
    (liftM (liftM call : ParseM α) : InstrM α).Faultless := by
  rw [h]
  exact FailsOnly.pure a

theorem faultless_parseSplTokenInstructions (ctx : TokenContext) {header : MessageHeader}
    {instruction : Instruction} {isToken2022Kind : Bool}
    (h : isToken2022Instruction instruction header = .ok isToken2022Kind) :
    (parseSplTokenInstructions ctx header instruction).Faultless := by
  unfold parseSplTokenInstructions
  refine FailsOnly.bind inferInstance fun kind => FailsOnly.bind (faultless_call h) fun _ => ?_
  split <;> infer_instance

/-! ## AgenC -/

instance (length : ℕ) : (parseFixedBytes length).Faultless := by
  unfold parseFixedBytes
  infer_instance

instance {α : Type} {parse : ParseM α} [parse.Faultless] : (parseOptionalRef parse).Faultless := by
  unfold parseOptionalRef
  infer_instance

instance : parseHashRef.Faultless := inferInstanceAs (parseBlock 32).Faultless

instance : parseU16Le.Faultless := inferInstanceAs parseU16.Faultless

instance : parseBorshString.Faultless := by
  unfold parseBorshString
  infer_instance

instance : parseOptionalHashRef.Faultless :=
  inferInstanceAs (parseOptionalRef parseHashRef).Faultless

instance : parseOptionalPubkeyRef.Faultless :=
  inferInstanceAs (parseOptionalRef parsePubkey).Faultless

instance : parseOptionalResultData.Faultless :=
  inferInstanceAs (parseOptionalRef (parseFixedBytes 64)).Faultless

instance : parseOptionalBorshString.Faultless :=
  inferInstanceAs (parseOptionalRef parseBorshString).Faultless

section

variable (instruction : Instruction) (header : MessageHeader)

instance (accountIndex : ℕ) : (accountAt instruction header accountIndex).Faultless := by
  unfold accountAt
  split
  · infer_instance
  · split <;> infer_instance

instance (accountIndex : ℕ) : (systemProgramAt instruction header accountIndex).Faultless := by
  unfold systemProgramAt
  infer_instance

instance (n : ℕ) : (accountsLengthIs instruction n).Faultless := by
  unfold accountsLengthIs
  infer_instance

instance : (parseRegisterAgent instruction header).Faultless := by
  unfold parseRegisterAgent
  infer_instance

instance : (parseCreateTask instruction header).Faultless := by
  unfold parseCreateTask
  dsimp only
  refine FailsOnly.bind inferInstance fun _ => ?_
  infer_instance

instance : (parseConfigureTaskValidation instruction header).Faultless := by
  unfold parseConfigureTaskValidation
  infer_instance

instance : (parseSetTaskJobSpec instruction header).Faultless := by
  unfold parseSetTaskJobSpec
  infer_instance

instance : (parseClaimTaskWithJobSpec instruction header).Faultless := by
  unfold parseClaimTaskWithJobSpec
  infer_instance

instance : (parseSubmitTaskResult instruction header).Faultless := by
  unfold parseSubmitTaskResult
  infer_instance

instance : (parseAcceptTaskResult instruction header).Faultless := by
  unfold parseAcceptTaskResult
  infer_instance

instance : (parseRejectTaskResult instruction header).Faultless := by
  unfold parseRejectTaskResult
  infer_instance

instance : (parseCancelTask instruction header).Faultless := by
  unfold parseCancelTask
  dsimp only
  refine FailsOnly.bind inferInstance fun _ => ?_
  infer_instance

instance : (parseExpireClaim instruction header).Faultless := by
  unfold parseExpireClaim
  infer_instance

instance (discriminator : List UInt8) :
    (parseAgencBody instruction header discriminator).Faultless := by
  unfold parseAgencBody
  infer_instance

end

/-! ## Every program -/

/-- What `instruction_validate` checks. -/
theorem instructionValidate_iff {instruction : Instruction} {header : MessageHeader} :
    instructionValidate instruction header = true ↔
      instruction.programIdIndex.toNat < header.pubkeys.length ∧
        ∀ index ∈ instruction.accounts.val, index.toNat < header.pubkeys.length := by
  simp [instructionValidate, header.size]

section

variable {instruction : Instruction} {header : MessageHeader}

/-- The iterator of a valid instruction is valid: its length is that of the accounts modulo 256. -/
theorem valid_init (h : instructionValidate instruction header = true) :
    (Cursor.init header instruction).Valid where
  length := by
    change (instruction.accounts.val.length.toUInt8).toNat ≤ instruction.accounts.val.length
    rw [Nat.toUInt8_eq, UInt8.toNat_ofNat']
    exact Nat.mod_le _ _
  accounts := (instructionValidate_iff.mp h).2

/-- A parser that fails with a return code only leaves the instruction known or unknown. -/
theorem known_of_faultless {α : Type} {step : InstrM α} [hstep : step.Faultless]
    (h : instructionValidate instruction header = true) (info : α → InstructionInfo × Bool) :
    ∃ r, known (step.parse header instruction) info = .ok r := by
  rcases hs : step (.init header instruction) with e | ⟨a, c⟩
  · obtain rfl := hstep.error (valid_init h) hs
    exact ⟨(.unknown, false), by rw [InstrM.parse, hs]; rfl⟩
  · exact ⟨info a, by rw [InstrM.parse, hs]; rfl⟩

/-- The AgenC parser fails with a return code only once the program is there. -/
theorem stop_of_parseAgencInstructions {key : Ptr Pubkey} {stop : Stop}
    (hkey : programIdKey instruction header = .ok key)
    (h : parseAgencInstructions instruction header = .error stop) : stop = .bail := by
  unfold parseAgencInstructions at h
  rw [hkey] at h
  rcases Result.seq_error_iff.mp h with hc | ⟨_, -, h⟩
  · cases hc
  rcases Result.seq_error_iff.mp h with hc | ⟨_, -, h⟩
  · exact bailIf_eq_error hc
  rcases Result.seq_error_iff.mp h with hc | ⟨⟨body, p⟩, -, h⟩
  · have hparse : (parseFixedBytes 8 >>= fun discriminator =>
        parseAgencBody instruction header discriminator.val).Faultless := inferInstance
    exact hparse.error trivial hc
  rcases Result.seq_error_iff.mp h with hc | ⟨_, -, h⟩
  · exact bailIf_eq_error hc
  · cases h

/-- **The `switch` over the program of a valid instruction always goes on.** -/
theorem exists_parseInstructionInfo (ctx : TokenContext) (index : ℕ)
    (h : instructionValidate instruction header = true) :
    ∃ r, parseInstructionInfo ctx header index instruction = .ok r := by
  obtain ⟨key, -, hkey⟩ := readAt_of_lt (instructionValidate_iff.mp h).1
  have hprogram : instructionProgramId instruction header = .ok (programIdOf key.val) := by
    rw [instructionProgramId, programIdKey, hkey]
    rfl
  have htoken : isToken2022Instruction instruction header
      = .ok (key.val == splToken2022ProgramId) := by
    rw [isToken2022Instruction, programIdKey, hkey]
    rfl
  unfold parseInstructionInfo
  simp only [hprogram, bind, Except.bind]
  cases programIdOf key.val with
  | unknown | serumAssertOwner | splMemo => exact ⟨_, rfl⟩
  | splToken =>
      have := faultless_parseSplTokenInstructions ctx htoken
      exact known_of_faultless h _
  | agenc =>
      rcases hs : parseAgencInstructions instruction header with stop | info
      · obtain rfl := stop_of_parseAgencInstructions hkey hs
        exact ⟨_, rfl⟩
      · exact ⟨_, rfl⟩
  | _ => exact known_of_faultless h _

end

end AgencLedger
