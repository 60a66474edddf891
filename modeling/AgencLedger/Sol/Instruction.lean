import AgencLedger.Library.Ensures
import AgencLedger.Sol.Script

/-!
# Sol/Instruction — programs, accounts and the display configuration

Which program an instruction calls is decided by the key its index points to.  The accounts of an
instruction are indices into the keys of the header, and the parsers walk them with an iterator
whose length is a byte.
-/

namespace AgencLedger

/-! ## Program ids -/

/-- `system_program_id`. -/
def systemProgramId : Pubkey :=
  ⟨List.replicate 32 0, rfl⟩

/-- `stake_program_id`. -/
def stakeProgramId : Pubkey :=
  ⟨[0x06, 0xa1, 0xd8, 0x17, 0x91, 0x37, 0x54, 0x2a, 0x98, 0x34, 0x37, 0xbd, 0xfe, 0x2a, 0x7a, 0xb2,
    0x55, 0x7f, 0x53, 0x5c, 0x8a, 0x78, 0x72, 0x2b, 0x68, 0xa4, 0x9d, 0xc0, 0x00, 0x00, 0x00, 0x00],
      rfl⟩

/-- `vote_program_id`. -/
def voteProgramId : Pubkey :=
  ⟨[0x07, 0x61, 0x48, 0x1d, 0x35, 0x74, 0x74, 0xbb, 0x7c, 0x4d, 0x76, 0x24, 0xeb, 0xd3, 0xbd, 0xb3,
    0xd8, 0x35, 0x5e, 0x73, 0xd1, 0x10, 0x43, 0xfc, 0x0d, 0xa3, 0x53, 0x80, 0x00, 0x00, 0x00, 0x00],
      rfl⟩

/-- `spl_token_program_id`. -/
def splTokenProgramId : Pubkey :=
  ⟨[0x06, 0xdd, 0xf6, 0xe1, 0xd7, 0x65, 0xa1, 0x93, 0xd9, 0xcb, 0xe1, 0x46, 0xce, 0xeb, 0x79, 0xac,
    0x1c, 0xb4, 0x85, 0xed, 0x5f, 0x5b, 0x37, 0x91, 0x3a, 0x8c, 0xf5, 0x85, 0x7e, 0xff, 0x00, 0xa9],
      rfl⟩

/-- `spl_token2022_program_id`. -/
def splToken2022ProgramId : Pubkey :=
  ⟨[0x06, 0xdd, 0xf6, 0xe1, 0xee, 0x75, 0x8f, 0xde, 0x18, 0x42, 0x5d, 0xbc, 0xe4, 0x6c, 0xcd, 0xda,
    0xb6, 0x1a, 0xfc, 0x4d, 0x83, 0xb9, 0x0d, 0x27, 0xfe, 0xbd, 0xf9, 0x28, 0xd8, 0xa1, 0x8b, 0xfc],
      rfl⟩

/-- `spl_associated_token_account_program_id`. -/
def splAssociatedTokenAccountProgramId : Pubkey :=
  ⟨[0x8c, 0x97, 0x25, 0x8f, 0x4e, 0x24, 0x89, 0xf1, 0xbb, 0x3d, 0x10, 0x29, 0x14, 0x8e, 0x0d, 0x83,
    0x0b, 0x5a, 0x13, 0x99, 0xda, 0xff, 0x10, 0x84, 0x04, 0x8e, 0x7b, 0xd8, 0xdb, 0xe9, 0xf8, 0x59],
      rfl⟩

/-- `PROGRAM_ID_SERUM_ASSERT_OWNER_PHANTOM`. -/
def serumAssertOwnerPhantomProgramId : Pubkey :=
  ⟨[0xbb, 0xda, 0x27, 0xbc, 0x25, 0x19, 0xcb, 0xbe, 0xd7, 0xd4, 0x6f, 0x6b, 0x19, 0x77, 0x2f, 0xe7,
    0x1d, 0x72, 0xf3, 0x79, 0x94, 0x6c, 0x56, 0x9e, 0x7d, 0x85, 0x0e, 0xca, 0x3c, 0x71, 0x1d, 0x31],
      rfl⟩

/-- `PROGRAM_ID_SERUM_ASSERT_OWNER`. -/
def serumAssertOwnerProgramId : Pubkey :=
  ⟨[0x31, 0xca, 0xdc, 0xe2, 0xaa, 0x36, 0xec, 0x04, 0x60, 0x46, 0x83, 0xea, 0xa6, 0xf1, 0x36, 0x2c,
    0x32, 0x9e, 0x11, 0x91, 0x04, 0x28, 0x42, 0xa0, 0x4e, 0x09, 0xb8, 0x2b, 0x75, 0x9f, 0xb3, 0x24],
      rfl⟩

/-- `spl_memo_program_id`. -/
def splMemoProgramId : Pubkey :=
  ⟨[0x05, 0x4a, 0x53, 0x5a, 0x99, 0x29, 0x21, 0x06, 0x4d, 0x24, 0xe8, 0x71, 0x60, 0xda, 0x38, 0x7c,
    0x7c, 0x35, 0xb5, 0xdd, 0xbc, 0x92, 0xbb, 0x81, 0xe4, 0x1f, 0xa8, 0x40, 0x41, 0x05, 0x44, 0x8d],
      rfl⟩

/-- `compute_budget_program_id`. -/
def computeBudgetProgramId : Pubkey :=
  ⟨[0x03, 0x06, 0x46, 0x6f, 0xe5, 0x21, 0x17, 0x32, 0xff, 0xec, 0xad, 0xba, 0x72, 0xc3, 0x9b, 0xe7,
    0xbc, 0x8c, 0xe5, 0xbb, 0xc5, 0xf7, 0x12, 0x6b, 0x2c, 0x43, 0x9b, 0x3a, 0x40, 0x00, 0x00, 0x00],
      rfl⟩

/-- `agenc_artifact_program_id`. -/
def agencArtifactProgramId : Pubkey :=
  ⟨[242, 79, 6, 99, 64, 38, 134, 189, 153, 254, 99, 205, 191, 250, 117, 81,
    77, 182, 210, 40, 135, 198, 34, 170, 239, 78, 246, 219, 237, 68, 245, 232], rfl⟩

/-- `agenc_mainnet_preset_program_id`. -/
def agencMainnetPresetProgramId : Pubkey :=
  ⟨[242, 79, 6, 99, 64, 38, 134, 189, 153, 254, 99, 205, 191, 250, 117, 81,
    77, 182, 210, 40, 135, 198, 34, 170, 239, 78, 246, 219, 237, 68, 245, 232], rfl⟩

/-- `is_serum_assert_owner_program_id`. -/
def isSerumAssertOwnerProgramId (programId : Pubkey) : Bool :=
  programId == serumAssertOwnerPhantomProgramId || programId == serumAssertOwnerProgramId

/-- `is_agenc_program_id`. -/
def isAgencProgramId (programId : Pubkey) : Bool :=
  programId == agencArtifactProgramId || programId == agencMainnetPresetProgramId

/-- `enum ProgramId`. -/
inductive ProgramId
  | unknown | stake | system | vote | splToken | splAssociatedTokenAccount | splMemo
  | serumAssertOwner | computeBudget | agenc
  deriving DecidableEq, Repr

/-- The comparisons of `instruction_program_id`. -/
def programIdOf (programId : Pubkey) : ProgramId :=
  if programId = systemProgramId then .system
  else if programId = stakeProgramId then .stake
  else if programId = voteProgramId then .vote
  else if programId = splTokenProgramId then .splToken
  -- Token-2022 is treated as the token program
  else if programId = splToken2022ProgramId then .splToken
  else if programId = splAssociatedTokenAccountProgramId then .splAssociatedTokenAccount
  else if isSerumAssertOwnerProgramId programId then .serumAssertOwner
  else if programId = splMemoProgramId then .splMemo
  else if programId = computeBudgetProgramId then .computeBudget
  else if isAgencProgramId programId then .agenc
  else .unknown

/-- `&header->pubkeys[instruction->program_id_index]`. -/
def programIdKey (instruction : Instruction) (header : MessageHeader) : Result (Ptr Pubkey) :=
  readAt header.pubkeys instruction.programIdIndex.toNat

/-- `instruction_program_id`. -/
def instructionProgramId (instruction : Instruction) (header : MessageHeader) :
    Result ProgramId := do
  let programId ← programIdKey instruction header
  return programIdOf programId.val

/-- `instruction_validate`: every index is one of a key of the header. -/
def instructionValidate (instruction : Instruction) (header : MessageHeader) : Bool :=
  instruction.programIdIndex.toNat < header.pubkeysHeader.pubkeysLength.toNat &&
    instruction.accounts.val.all fun index =>
      index.toNat < header.pubkeysHeader.pubkeysLength.toNat

/-- `get_account_from_ins`: `NULL` for an index past the accounts. -/
def getAccountFromIns (instruction : Instruction) (header : MessageHeader) (accountIndex : UInt8) :
    Result (Option (Ptr Pubkey)) :=
  match instruction.accounts.val[accountIndex.toNat]? with
  | none => .ok none
  | some index => do
      let key ← readAt header.pubkeys index.toNat
      return some key

/-! ## Walking the accounts -/

/-- `InstructionAccountsIterator`.  `length` is a byte, whatever `accounts_length` was. -/
structure InstructionAccountsIterator where
  messageHeaderPubkeys : List (Ptr Pubkey)
  length : UInt8
  accounts : List UInt8
  current : ℕ

/-- `instruction_accounts_iterator_init`. -/
def InstructionAccountsIterator.init (header : MessageHeader) (instruction : Instruction) :
    InstructionAccountsIterator where
  messageHeaderPubkeys := header.pubkeys
  length := instruction.accounts.val.length.toUInt8
  accounts := instruction.accounts.val
  current := 0

/-- `instruction_accounts_iterator_remaining`. -/
def InstructionAccountsIterator.remaining (it : InstructionAccountsIterator) : ℕ :=
  it.length.toNat - it.current

/-- What a program's parser works on: a parser over the data, an iterator over the accounts. -/
structure Cursor where
  parser : Parser
  it : InstructionAccountsIterator

/-- A step of a program's parser. -/
abbrev InstrM := StateT Cursor Result

/-- The cursor at the start of an instruction. -/
def Cursor.init (header : MessageHeader) (instruction : Instruction) : Cursor :=
  ⟨⟨instruction.data.addr, instruction.data.val⟩, .init header instruction⟩

instance : MonadLift ParseM InstrM where
  monadLift step := fun c => do
    let (a, parser) ← step c.parser
    return (a, { c with parser })

/-- `instruction_accounts_iterator_next`. -/
def nextAccount : InstrM (Ptr Pubkey) := fun c =>
  if c.it.current < c.it.length.toNat then do
    let index ← readAt c.it.accounts c.it.current
    let key ← readAt c.it.messageHeaderPubkeys index.toNat
    return (key, { c with it := { c.it with current := c.it.current + 1 } })
  else .error .bail

/-- `instruction_accounts_iterator_next(it, NULL)`. -/
def skipAccount : InstrM Unit := fun c =>
  if c.it.current < c.it.length.toNat then
    .ok ((), { c with it := { c.it with current := c.it.current + 1 } })
  else .error .bail

/-- `instruction_accounts_iterator_get_current_account_index`: `-1` at the end. -/
def currentAccountIndex : InstrM (Option UInt8) := fun c =>
  if c.it.remaining = 0 then .ok (none, c)
  else do
    let index ← readAt c.it.accounts c.it.current
    return (some index, c)

/-- `instruction_accounts_iterator_remaining`. -/
def remainingAccounts : InstrM ℕ := fun c => .ok (c.it.remaining, c)

/-- `BAIL_IF` in a program's parser. -/
def instrBailIf (c : Bool) : InstrM Unit := fun s => if c then .error .bail else .ok ((), s)

/-- A program's parser on an instruction. -/
def InstrM.parse {α : Type} (step : InstrM α) (header : MessageHeader) (instruction : Instruction) :
    Result α := do
  let (a, _) ← step (.init header instruction)
  return a

@[simp] theorem instrBailIf_ok_iff {c : Bool} {s : Cursor} {r : Unit × Cursor} :
    instrBailIf c s = .ok r ↔ c = false ∧ r = ((), s) := by
  cases c <;> simp [instrBailIf, eq_comm]

/-- A parsing step among the steps of a program's parser leaves the accounts alone. -/
theorem InstrM.lift_ok_iff {α : Type} {step : ParseM α} {c : Cursor} {r : α × Cursor} :
    (liftM step : InstrM α) c = .ok r ↔
      ∃ p, step c.parser = .ok (r.1, p) ∧ r.2 = { c with parser := p } := by
  refine (Result.seq_ok_iff (step c.parser) (fun q => .ok (q.1, { c with parser := q.2 })) r).trans
    ?_
  constructor
  · rintro ⟨⟨a, p⟩, hstep, hr⟩
    cases hr
    exact ⟨p, hstep, rfl⟩
  · rintro ⟨p, hstep, hr⟩
    exact ⟨(r.1, p), hstep, congrArg _ (Prod.ext rfl hr.symm)⟩

/-- A call among the steps of a program's parser leaves the cursor alone. -/
theorem InstrM.call_ok {α : Type} {call : Result α} {c c' : Cursor} {a : α}
    (h : (liftM (liftM call : ParseM α) : InstrM α) c = .ok (a, c')) : call = .ok a ∧ c' = c := by
  obtain ⟨p, hcall, hc⟩ := InstrM.lift_ok_iff.mp h
  obtain ⟨hcall, hp⟩ := Result.step_lift_ok_iff.mp hcall
  cases hp
  exact ⟨hcall, hc⟩

theorem InstrM.parse_ok_iff {α : Type} {step : InstrM α} {header : MessageHeader}
    {instruction : Instruction} {a : α} :
    step.parse header instruction = .ok a ↔ ∃ c, step (.init header instruction) = .ok (a, c) := by
  unfold InstrM.parse
  rw [Result.seq_ok_iff]
  constructor
  · rintro ⟨⟨b, c⟩, hstep, hb⟩
    cases hb
    exact ⟨c, hstep⟩
  · rintro ⟨c, hstep⟩
    exact ⟨(a, c), hstep, rfl⟩

/-! ## Accounts by position -/

/-- The key that the account at a position of an instruction points to. -/
def instructionAccount (header : MessageHeader) (instruction : Instruction) (i : ℕ) :
    Option (Ptr Pubkey) :=
  (instruction.accounts.val[i]?).bind fun index => header.pubkeys[index.toNat]?

/-- The next account a program's parser reads is the one at the given position. -/
structure Cursor.At (header : MessageHeader) (instruction : Instruction) (i : ℕ) (c : Cursor) :
    Prop where
  messageHeaderPubkeys : c.it.messageHeaderPubkeys = header.pubkeys
  accounts : c.it.accounts = instruction.accounts.val
  current : c.it.current = i

section

variable {header : MessageHeader} {instruction : Instruction} {i : ℕ}

theorem Cursor.at_init : (Cursor.init header instruction).At header instruction 0 :=
  ⟨rfl, rfl, rfl⟩

/-- **The iterator hands out the accounts in their order.** -/
theorem nextAccount_ensures (i : ℕ) :
    Ensures (Cursor.At header instruction i) nextAccount fun p c =>
      instructionAccount header instruction i = some p ∧ c.At header instruction (i + 1) := by
  intro c p c' hat h
  unfold nextAccount at h
  split at h
  · obtain ⟨index, hindex, h⟩ := (Result.seq_ok_iff _ _ _).mp h
    obtain ⟨key, hkey, h⟩ := (Result.seq_ok_iff _ _ _).mp h
    cases h
    rw [readAt_eq_ok, hat.accounts, hat.current] at hindex
    rw [readAt_eq_ok, hat.messageHeaderPubkeys] at hkey
    exact ⟨by rw [instructionAccount, hindex]; exact hkey, hat.1, hat.2, by simp [hat.current]⟩
  · cases h

theorem skipAccount_ensures (i : ℕ) :
    Ensures (Cursor.At header instruction i) skipAccount fun _ c =>
      c.At header instruction (i + 1) := by
  intro c u c' hat h
  unfold skipAccount at h
  split at h <;> cases h
  exact ⟨hat.1, hat.2, by simp [hat.current]⟩

theorem instrBailIf_ensures {b : Bool} :
    Ensures (Cursor.At header instruction i) (instrBailIf b) fun _ c =>
      c.At header instruction i := by
  intro c u c' hat h
  obtain ⟨-, hc⟩ := instrBailIf_ok_iff.mp h
  cases hc
  exact hat

/-- Reading the data leaves the iterator where it is. -/
theorem lift_ensures {α : Type} {step : ParseM α} :
    Ensures (Cursor.At header instruction i) (liftM step : InstrM α) fun _ c =>
      c.At header instruction i := by
  intro c a c' hat h
  obtain ⟨p, -, hc⟩ := InstrM.lift_ok_iff.mp h
  cases hc
  exact ⟨hat.1, hat.2, hat.3⟩

/-- A parser that starts with an account hands it on to the rest. -/
theorem first_account {α : Type} {next : Ptr Pubkey → InstrM α} {f : α → Ptr Pubkey}
    (hnext : ∀ p, Ensures (fun _ => True) (next p) fun a _ => f a = p) :
    Ensures (Cursor.At header instruction 0) (nextAccount >>= next) fun a _ =>
      instructionAccount header instruction 0 = some (f a) :=
  (nextAccount_ensures 0).seq fun p => .of_and fun hp c a c' _ h => by
    rw [hp, hnext p c a c' trivial h]

/-- A parser that starts with two accounts hands the second on to the rest. -/
theorem second_account {α : Type} {next : Ptr Pubkey → Ptr Pubkey → InstrM α} {f : α → Ptr Pubkey}
    (hnext : ∀ p q, Ensures (fun _ => True) (next p q) fun a _ => f a = q) :
    Ensures (Cursor.At header instruction 0)
      (nextAccount >>= fun p => nextAccount >>= fun q => next p q) fun a _ =>
      instructionAccount header instruction 1 = some (f a) :=
  (nextAccount_ensures 0).seq fun p => .of_and fun _ =>
    (nextAccount_ensures 1).seq fun q => .of_and fun hq c a c' _ h => by
      rw [hq, hnext p q c a c' trivial h]

end

/-! ## Display configuration -/

/-- `PrintConfig`. -/
structure PrintConfig where
  header : MessageHeader
  expertMode : Bool
  forceFullPrint : Bool
  userInputIsAtaOrTokenAccount : Bool
  signerPubkey : Ptr Pubkey

/-- `print_config_show_authority`. -/
def PrintConfig.showAuthority (printConfig : PrintConfig) (authority : Ptr Pubkey) : Bool :=
  printConfig.expertMode || !pubkeysEqual printConfig.signerPubkey authority

end AgencLedger
