import AgencLedger.Review.Body

/-!
# Review/Subjects — the one account a pattern of several instructions is about

Patterns of several instructions are recognised by the kinds of their instructions alone.  Their
printers name one account, taken from one of the instructions, and never compare it with the
accounts the others act on.
-/

namespace AgencLedger

/-! ## The account an instruction acts on -/

/-- The account a System instruction creates, prefunds or prepares, where a pattern takes it up. -/
def SystemInfo.subject? : SystemInfo → Option (Ptr Pubkey)
  | .transfer info => some info.to
  | .createAccount info => some info.to
  | .createAccountWithSeed info => some info.to
  | .initializeNonce info => some info.account
  | .assign info => some info.account
  | .allocate info => some info.account
  | .allocateWithSeed info => some info.account
  | _ => none

/-- The account a stake instruction initialises, delegates, splits into or authorises. -/
def StakeInfo.subject? : StakeInfo → Option (Ptr Pubkey)
  | .delegateStake info => some info.stakePubkey
  | .stakeInitialize info => some info.account
  | .initializeChecked info => some info.account
  | .authorize info => some info.account
  | .authorizeChecked info => some info.account
  | .split info => some info.splitAccount
  | _ => none

/-- The account a vote instruction initialises or authorises. -/
def VoteInfo.subject? : VoteInfo → Option (Ptr Pubkey)
  | .voteInitialize info => some info.account
  | .authorize info => some info.account
  | .authorizeChecked info => some info.account
  | _ => none

/-- The account a token instruction initialises or pays. -/
def SplTokenBody.subject? : SplTokenBody → Option (Ptr Pubkey)
  | .initializeMint info => some info.mintAccount
  | .initializeAccount info => some info.tokenAccount
  | .initializeAccount2 info => some info.tokenAccount
  | .initializeMultisig info => some info.multisigAccount
  | .transferChecked info => some info.destAccount
  | .transferCheckedWithFee info => some info.destAccount
  | _ => none

/-- The account an instruction acts on, where a pattern of several instructions takes it up. -/
def InstructionInfo.subject? : InstructionInfo → Option (Ptr Pubkey)
  | .system info => info.subject?
  | .stake info => info.subject?
  | .vote info => info.subject?
  | .splToken info => info.body.subject?
  | .splAssociatedTokenAccount create => some create.address
  | _ => none

/-! ## Where it stands in the message -/

/-- The position of that account among the accounts of a System instruction. -/
def SystemInstructionKind.subjectPosition : SystemInstructionKind → Option ℕ
  | .createAccount => some 1
  | .createAccountWithSeed => some 1
  | .transfer => some 1
  | .initializeNonceAccount => some 0
  | .assign => some 0
  | .allocate => some 0
  | .allocateWithSeed => some 0
  | _ => none

/-- The same for a stake instruction. -/
def StakeInstructionKind.subjectPosition : StakeInstructionKind → Option ℕ
  | .split => some 1
  | .stakeInitialize => some 0
  | .initializeChecked => some 0
  | .authorize => some 0
  | .authorizeChecked => some 0
  | .delegate => some 0
  | _ => none

/-- The same for a vote instruction. -/
def VoteInstructionKind.subjectPosition : VoteInstructionKind → Option ℕ
  | .voteInitialize => some 0
  | .authorize => some 0
  | .authorizeChecked => some 0
  | _ => none

/-- The same for a token instruction; of the extensions only `TransferCheckedWithFee` counts. -/
def SplTokenInstructionKind.parseSubjectPosition : SplTokenInstructionKind → ParseM (Option ℕ)
  | .initializeMint => return some 0
  | .initializeAccount => return some 0
  | .initializeAccount2 => return some 0
  | .initializeMultisig => return some 0
  | .transferChecked => return some 2
  | .extension .transferFeeExtension => do
      if ← parseTransferFeeInstruction then return some 2 else return none
  | _ => return none

/-- The same, from the data of a token instruction. -/
def parseSplTokenSubjectPosition : ParseM (Option ℕ) := do
  let kind ← parseSplTokenInstructionKind
  kind.parseSubjectPosition

/-- What a parsing step reads at the start of an instruction's data. -/
def Instruction.read {α : Type} (instruction : Instruction) (step : ParseM α) : Option α :=
  match step ⟨instruction.data.addr, instruction.data.val⟩ with
  | .ok (a, _) => some a
  | .error _ => none

/-- The position of the account an instruction acts on, from its program and its kind. -/
def subjectPosition (header : MessageHeader) (instruction : Instruction) : Option ℕ :=
  match instructionProgramId instruction header with
  | .ok .system => (instruction.read parseSystemInstructionKind).bind (·.subjectPosition)
  | .ok .stake => (instruction.read parseStakeInstructionKind).bind (·.subjectPosition)
  | .ok .vote => (instruction.read parseVoteInstructionKind).bind (·.subjectPosition)
  | .ok .splToken => (instruction.read parseSplTokenSubjectPosition).join
  | .ok .splAssociatedTokenAccount => some 1
  | _ => none

/-- The account of the message that an instruction acts on. -/
def subjectAccount (header : MessageHeader) (instruction : Instruction) : Option (Ptr Pubkey) :=
  (subjectPosition header instruction).bind (instructionAccount header instruction)

theorem Instruction.read_eq {α : Type} {instruction : Instruction} {step : ParseM α} {a : α}
    {p : Parser} (h : step ⟨instruction.data.addr, instruction.data.val⟩ = .ok (a, p)) :
    instruction.read step = some a := by
  rw [Instruction.read, h]

/-! ## The parsers read it there -/

section

variable {header : MessageHeader} {instruction : Instruction}

/-- A parser that reads a kind first reads the rest from the first account on. -/
theorem kind_ensures {α β : Type} {kind : ParseM α} {next : α → InstrM β} {Q : α → β → Prop}
    (hnext : ∀ k, Ensures (Cursor.At header instruction 0) (next k) fun b _ => Q k b) {b : β}
    (h : ((liftM kind : InstrM α) >>= next).parse header instruction = .ok b) :
    ∃ k, instruction.read kind = some k ∧ Q k b := by
  obtain ⟨c, h⟩ := InstrM.parse_ok_iff.mp h
  obtain ⟨k, c₁, hkind, h⟩ := (Result.step_seq_ok_iff _ _ _ _).mp h
  have hat := lift_ensures _ _ _ Cursor.at_init hkind
  obtain ⟨p, hkind, -⟩ := InstrM.lift_ok_iff.mp hkind
  exact ⟨k, Instruction.read_eq hkind, hnext k _ _ _ hat h⟩

theorem parseSystemTransferInstruction_subject :
    Ensures (Cursor.At header instruction 0) parseSystemTransferInstruction fun info _ =>
      instructionAccount header instruction 1 = some info.to :=
  second_account fun _ _ => .seq .any fun _ => .pure fun _ _ => rfl

theorem parseSystemCreateAccountInstruction_subject :
    Ensures (Cursor.At header instruction 0) parseSystemCreateAccountInstruction fun info _ =>
      instructionAccount header instruction 1 = some info.to :=
  second_account fun _ _ => .seq .any fun _ => .seq .any fun _ => .seq .any fun _ => .pure fun _
    _ => rfl

theorem parseSystemCreateAccountWithSeedInstruction_subject :
    Ensures (Cursor.At header instruction 0) parseSystemCreateAccountWithSeedInstruction
      fun info _ =>
      instructionAccount header instruction 1 = some info.to :=
  second_account fun _ _ => .seq .any fun _ => .seq .any fun _ => .seq .any fun _ => .seq .any
    fun _ => .seq .any fun _ => .pure fun _ _ => rfl

theorem parseSystemInitializeNonceAccountInstruction_subject :
    Ensures (Cursor.At header instruction 0) parseSystemInitializeNonceAccountInstruction
      fun info _ =>
      instructionAccount header instruction 0 = some info.account :=
  first_account fun _ => .seq .any fun _ => .seq .any fun _ => .seq .any fun _ => .pure fun _ _
    => rfl

theorem parseSystemAllocateInstruction_subject :
    Ensures (Cursor.At header instruction 0) parseSystemAllocateInstruction fun info _ =>
      instructionAccount header instruction 0 = some info.account :=
  first_account fun _ => .seq .any fun _ => .pure fun _ _ => rfl

theorem parseSystemAssignInstruction_subject :
    Ensures (Cursor.At header instruction 0) parseSystemAssignInstruction fun info _ =>
      instructionAccount header instruction 0 = some info.account :=
  first_account fun _ => .seq .any fun _ => .pure fun _ _ => rfl

theorem parseSystemAllocateWithSeedInstruction_subject :
    Ensures (Cursor.At header instruction 0) parseSystemAllocateWithSeedInstruction fun info _ =>
      instructionAccount header instruction 0 = some info.account :=
  first_account fun _ => .seq .any fun _ => .seq .any fun _ => .seq .any fun _ => .seq .any fun _
    => .seq .any fun _ => .pure fun _ _ => rfl

theorem parseSystemInstructions_subject {info : SystemInfo}
    (h : parseSystemInstructions.parse header instruction = .ok info) :
    ∃ kind, instruction.read parseSystemInstructionKind = some kind ∧
      kind.subjectPosition.bind (instructionAccount header instruction) = info.subject? := by
  refine kind_ensures (Q := fun kind info => kind.subjectPosition.bind
    (instructionAccount header instruction) = info.subject?) (fun kind => ?_) h
  cases kind with
  | transfer => exact parseSystemTransferInstruction_subject.seq fun _ => .pure fun _ h => h
  | createAccount =>
      exact parseSystemCreateAccountInstruction_subject.seq fun _ => .pure fun _ h => h
  | createAccountWithSeed =>
      exact parseSystemCreateAccountWithSeedInstruction_subject.seq fun _ => .pure fun _ h => h
  | initializeNonceAccount =>
      exact parseSystemInitializeNonceAccountInstruction_subject.seq fun _ => .pure fun _ h => h
  | assign => exact parseSystemAssignInstruction_subject.seq fun _ => .pure fun _ h => h
  | allocate => exact parseSystemAllocateInstruction_subject.seq fun _ => .pure fun _ h => h
  | allocateWithSeed =>
      exact parseSystemAllocateWithSeedInstruction_subject.seq fun _ => .pure fun _ h => h
  | assignWithSeed => exact .throw
  | _ => exact .seq .any fun _ => .pure fun _ _ => rfl

theorem parseStakeInitializeInstruction_subject :
    Ensures (Cursor.At header instruction 0) parseStakeInitializeInstruction fun info _ =>
      instructionAccount header instruction 0 = some info.account :=
  first_account fun _ => .seq .any fun _ => .seq .any fun _ => .seq .any fun _ => .seq .any fun _
    => .seq .any fun _ => .seq .any fun _ => .pure fun _ _ => rfl

theorem parseStakeInitializeCheckedInstruction_subject :
    Ensures (Cursor.At header instruction 0) parseStakeInitializeCheckedInstruction fun info _ =>
      instructionAccount header instruction 0 = some info.account :=
  first_account fun _ => .seq .any fun _ => .seq .any fun _ => .seq .any fun _ => .pure fun _ _
    => rfl

theorem parseDelegateStakeInstruction_subject :
    Ensures (Cursor.At header instruction 0) parseDelegateStakeInstruction fun info _ =>
      instructionAccount header instruction 0 = some info.stakePubkey :=
  first_account fun _ => .seq .any fun _ => .seq .any fun _ => .seq .any fun _ => .seq .any fun _
    => .seq .any fun _ => .pure fun _ _ => rfl

theorem parseStakeAuthorizeInstruction_subject :
    Ensures (Cursor.At header instruction 0) parseStakeAuthorizeInstruction fun info _ =>
      instructionAccount header instruction 0 = some info.account :=
  first_account fun _ => .seq .any fun _ => .seq .any fun _ => .seq .any fun _ => .seq .any fun _
    => .seq .any fun _ => .pure fun _ _ => rfl

theorem parseStakeAuthorizeCheckedInstruction_subject :
    Ensures (Cursor.At header instruction 0) parseStakeAuthorizeCheckedInstruction fun info _ =>
      instructionAccount header instruction 0 = some info.account :=
  first_account fun _ => .seq .any fun _ => .seq .any fun _ => .seq .any fun _ => .seq .any fun _
    => .seq .any fun _ => .pure fun _ _ => rfl

theorem parseStakeSplitInstruction_subject :
    Ensures (Cursor.At header instruction 0) parseStakeSplitInstruction fun info _ =>
      instructionAccount header instruction 1 = some info.splitAccount :=
  second_account fun _ _ => .seq .any fun _ => .seq .any fun _ => .pure fun _ _ => rfl

theorem parseStakeInstructions_subject {info : StakeInfo}
    (h : parseStakeInstructions.parse header instruction = .ok info) :
    ∃ kind, instruction.read parseStakeInstructionKind = some kind ∧
      kind.subjectPosition.bind (instructionAccount header instruction) = info.subject? := by
  refine kind_ensures (Q := fun kind info => kind.subjectPosition.bind
    (instructionAccount header instruction) = info.subject?) (fun kind => ?_) h
  cases kind with
  | stakeInitialize => exact parseStakeInitializeInstruction_subject.seq fun _ => .pure fun _ h => h
  | initializeChecked =>
      exact parseStakeInitializeCheckedInstruction_subject.seq fun _ => .pure fun _ h => h
  | delegate => exact parseDelegateStakeInstruction_subject.seq fun _ => .pure fun _ h => h
  | authorize => exact parseStakeAuthorizeInstruction_subject.seq fun _ => .pure fun _ h => h
  | authorizeChecked =>
      exact parseStakeAuthorizeCheckedInstruction_subject.seq fun _ => .pure fun _ h => h
  | split => exact parseStakeSplitInstruction_subject.seq fun _ => .pure fun _ h => h
  | authorizeWithSeed | authorizeCheckedWithSeed => exact .throw
  | _ => exact .seq .any fun _ => .pure fun _ _ => rfl

theorem parseVoteInitializeInstruction_subject :
    Ensures (Cursor.At header instruction 0) parseVoteInitializeInstruction fun info _ =>
      instructionAccount header instruction 0 = some info.account :=
  first_account fun _ => .seq .any fun _ => .seq .any fun _ => .seq .any fun _ => .seq .any fun _
    => .seq .any fun _ => .seq .any fun _ => .pure fun _ _ => rfl

theorem parseVoteAuthorizeInstruction_subject :
    Ensures (Cursor.At header instruction 0) parseVoteAuthorizeInstruction fun info _ =>
      instructionAccount header instruction 0 = some info.account :=
  first_account fun _ => .seq .any fun _ => .seq .any fun _ => .seq .any fun _ => .seq .any fun _
    => .pure fun _ _ => rfl

theorem parseVoteAuthorizeCheckedInstruction_subject :
    Ensures (Cursor.At header instruction 0) parseVoteAuthorizeCheckedInstruction fun info _ =>
      instructionAccount header instruction 0 = some info.account :=
  first_account fun _ => .seq .any fun _ => .seq .any fun _ => .seq .any fun _ => .seq .any fun _
    => .pure fun _ _ => rfl

theorem parseVoteInstructions_subject {dataLength : ℕ} {info : VoteInfo}
    (h : (parseVoteInstructions dataLength).parse header instruction = .ok info) :
    ∃ kind, instruction.read parseVoteInstructionKind = some kind ∧
      kind.subjectPosition.bind (instructionAccount header instruction) = info.subject? := by
  refine kind_ensures (Q := fun kind info => kind.subjectPosition.bind
    (instructionAccount header instruction) = info.subject?) (fun kind => ?_) h
  cases kind with
  | voteInitialize => exact parseVoteInitializeInstruction_subject.seq fun _ => .pure fun _ h => h
  | authorize => exact parseVoteAuthorizeInstruction_subject.seq fun _ => .pure fun _ h => h
  | authorizeChecked =>
      exact parseVoteAuthorizeCheckedInstruction_subject.seq fun _ => .pure fun _ h => h
  | vote | switchVote => exact .throw
  | _ => exact .seq .any fun _ => .pure fun _ _ => rfl

theorem parseCreateSplAssociatedTokenAccountInstruction_subject :
    Ensures (Cursor.At header instruction 0) parseCreateSplAssociatedTokenAccountInstruction
      fun create _ => instructionAccount header instruction 1 = some create.address :=
  second_account fun _ _ => .seq .any fun _ => .seq .any fun _ => .seq .any fun _ =>
    .seq .any fun _ => .seq .any fun _ => .pure fun _ _ => rfl

theorem parseSplAssociatedTokenAccountInstructions_subject {dataLength : ℕ} :
    Ensures (Cursor.At header instruction 0) (parseSplAssociatedTokenAccountInstructions dataLength)
      fun create _ => instructionAccount header instruction 1 = some create.address := by
  unfold parseSplAssociatedTokenAccountInstructions
  split
  · exact parseCreateSplAssociatedTokenAccountInstruction_subject
  · refine lift_ensures.seq fun kind => (Ensures.get fun c hat => hat).seq fun c =>
      instrBailIf_ensures.seq fun _ => ?_
    split
    · exact parseCreateSplAssociatedTokenAccountInstruction_subject
    · exact parseCreateSplAssociatedTokenAccountInstruction_subject
    · exact .throw

theorem parseInitializeMintSplTokenInstruction_subject :
    Ensures (Cursor.At header instruction 0) parseInitializeMintSplTokenInstruction fun info _ =>
      instructionAccount header instruction 0 = some info.mintAccount :=
  lift_ensures.seq fun _ => lift_ensures.seq fun _ => lift_ensures.seq fun _ =>
    lift_ensures.seq fun _ => first_account fun _ => .seq .any fun _ => .pure fun _ _ => rfl

theorem parseInitializeAccountSplTokenInstruction_subject {accountsLength : ℕ}
    {expectOwnerInAccounts : Bool} :
    Ensures (Cursor.At header instruction 0)
      (parseInitializeAccountSplTokenInstruction accountsLength expectOwnerInAccounts)
      fun info _ => instructionAccount header instruction 0 = some info.tokenAccount :=
  instrBailIf_ensures.seq fun _ => first_account fun _ => .seq .any fun _ => by
    split
    · exact .seq .any fun _ => .seq .any fun _ => .pure fun _ _ => rfl
    · exact .seq .any fun _ => .seq .any fun _ => .pure fun _ _ => rfl

theorem parseInitializeMultisigSplTokenInstruction_subject :
    Ensures (Cursor.At header instruction 0) parseInitializeMultisigSplTokenInstruction
      fun info _ => instructionAccount header instruction 0 = some info.multisigAccount :=
  lift_ensures.seq fun _ => instrBailIf_ensures.seq fun _ => first_account fun _ =>
    .seq .any fun _ => .seq .any fun _ => .pure fun _ _ => rfl

theorem parseTransferSplTokenInstruction_subject {ctx : TokenContext}
    {isTransferCheckedWithFee isToken2022Kind : Bool} :
    Ensures (Cursor.At header instruction 0)
      (parseTransferSplTokenInstruction ctx header isTransferCheckedWithFee isToken2022Kind)
      fun info _ => instructionAccount header instruction 2 = some info.destAccount :=
  lift_ensures.seq fun _ => lift_ensures.seq fun _ => lift_ensures.seq fun _ =>
    (nextAccount_ensures 0).seq fun _ => .of_and fun _ =>
    (nextAccount_ensures 1).seq fun _ => .of_and fun _ =>
    (nextAccount_ensures 2).seq fun _ => .of_and fun hdest =>
    .seq .any fun _ => .seq .any fun _ => .pure fun _ _ => hdest

theorem parseSplTokenInstructions_subject {ctx : TokenContext} {info : SplTokenInfo}
    {ignored : Bool} (h : (parseSplTokenInstructions ctx header instruction).parse header
      instruction = .ok (info, ignored)) :
    ∃ position, instruction.read parseSplTokenSubjectPosition = some position ∧
      position.bind (instructionAccount header instruction) = info.body.subject? := by
  obtain ⟨c, h⟩ := InstrM.parse_ok_iff.mp h
  obtain ⟨kind, c₁, hkind, h⟩ := (Result.step_seq_ok_iff _ _ _ _).mp h
  obtain ⟨isToken2022Kind, c₂, h2022, h⟩ := (Result.step_seq_ok_iff _ _ _ _).mp h
  have hat : c₁.At header instruction 0 := lift_ensures _ _ _ Cursor.at_init hkind
  obtain ⟨p, hkind, hc₁⟩ := InstrM.lift_ok_iff.mp hkind
  obtain ⟨-, hc₂⟩ := InstrM.call_ok h2022
  rw [← hc₂] at hat hc₁
  have hparser : c₂.parser = p := congrArg Cursor.parser hc₁
  have hread : ∀ position p', kind.parseSubjectPosition p = .ok (position, p') →
      instruction.read parseSplTokenSubjectPosition = some position := fun position p' hposition =>
    Instruction.read_eq ((Result.step_seq_ok_iff _ _ _ _).mpr ⟨kind, p, hkind, hposition⟩)
  cases kind with
  | initializeMint =>
      obtain ⟨body, c₃, hbody, h⟩ := (Result.step_seq_ok_iff _ _ _ _).mp h
      cases h
      exact ⟨some 0, hread _ _ rfl, parseInitializeMintSplTokenInstruction_subject _ _ _ hat hbody⟩
  | initializeAccount | initializeAccount2 =>
      obtain ⟨body, c₃, hbody, h⟩ := (Result.step_seq_ok_iff _ _ _ _).mp h
      cases h
      exact ⟨some 0, hread _ _ rfl,
        parseInitializeAccountSplTokenInstruction_subject _ _ _ hat hbody⟩
  | initializeMultisig =>
      obtain ⟨body, c₃, hbody, h⟩ := (Result.step_seq_ok_iff _ _ _ _).mp h
      cases h
      exact ⟨some 0, hread _ _ rfl,
        parseInitializeMultisigSplTokenInstruction_subject _ _ _ hat hbody⟩
  | transferChecked =>
      obtain ⟨body, c₃, hbody, h⟩ := (Result.step_seq_ok_iff _ _ _ _).mp h
      cases h
      exact ⟨some 2, hread _ _ rfl, parseTransferSplTokenInstruction_subject _ _ _ hat hbody⟩
  | extension kind =>
      cases kind with
      | transferFeeExtension =>
          obtain ⟨u, c₃, hbail, h⟩ := (Result.step_seq_ok_iff _ _ _ _).mp h
          obtain ⟨withFee, c₄, htag, h⟩ := (Result.step_seq_ok_iff _ _ _ _).mp h
          obtain ⟨-, hc₃⟩ := instrBailIf_ok_iff.mp hbail
          obtain rfl : c₃ = c₂ := (Prod.ext_iff.mp hc₃).2
          replace hat := lift_ensures _ _ _ hat htag
          obtain ⟨p', htag, -⟩ := InstrM.lift_ok_iff.mp htag
          rw [hparser] at htag
          replace hread := fun position => hread position p'
            ∘ (Result.step_seq_ok_iff _ _ _ _).mpr ∘ fun h => ⟨withFee, p', htag, h⟩
          cases withFee with
          | true =>
              obtain ⟨body, c₃, hbody, h⟩ := (Result.step_seq_ok_iff _ _ _ _).mp h
              cases h
              exact ⟨some 2, hread _ rfl,
                parseTransferSplTokenInstruction_subject _ _ _ hat hbody⟩
          | false => cases h; exact ⟨none, hread _ rfl, rfl⟩
      | _ => cases h; exact ⟨none, hread _ _ rfl, rfl⟩
  | _ =>
      obtain ⟨body, c₃, -, h⟩ := (Result.step_seq_ok_iff _ _ _ _).mp h
      cases h
      exact ⟨none, hread _ _ rfl, rfl⟩

/-- **A record acts on the account that stands at its instruction's position.** -/
theorem subjectAccount_of_parsedFrom {ctx : TokenContext} {index : ℕ} {ignored : Bool}
    {info : InstructionInfo} (hfrom : info.ParsedFrom ctx header index instruction ignored)
    (hne : info ≠ .unknown) : subjectAccount header instruction = info.subject? := by
  unfold subjectAccount subjectPosition
  cases info with
  | unknown => exact absurd rfl hne
  | system info =>
      obtain ⟨kind, hkind, hsubject⟩ := parseSystemInstructions_subject hfrom.2.2
      simp only [hfrom.1, hkind, Option.bind_some]
      exact hsubject
  | stake info =>
      obtain ⟨kind, hkind, hsubject⟩ := parseStakeInstructions_subject hfrom.2.2
      simp only [hfrom.1, hkind, Option.bind_some]
      exact hsubject
  | vote info =>
      obtain ⟨kind, hkind, hsubject⟩ := parseVoteInstructions_subject hfrom.2.2
      simp only [hfrom.1, hkind, Option.bind_some]
      exact hsubject
  | splToken info =>
      obtain ⟨position, hposition, hsubject⟩ := parseSplTokenInstructions_subject hfrom.2
      simp only [hfrom.1, hposition, Option.join_some]
      exact hsubject
  | splAssociatedTokenAccount create =>
      obtain ⟨c, hcreate⟩ := InstrM.parse_ok_iff.mp hfrom.2.2
      have haddress := parseSplAssociatedTokenAccountInstructions_subject _ _ _
        Cursor.at_init hcreate
      simp only [hfrom.1, Option.bind_some]
      exact haddress
  | _ => simp only [hfrom.1]; rfl

end

/-! ## What a pattern is about -/

/-- The account a review names, with the title of its item, and the other accounts the pattern's
instructions act on. -/
structure Subject where
  title : String
  account : Ptr Pubkey
  others : List (Ptr Pubkey)
  deriving DecidableEq

/-- What a pattern of several instructions is about; the AgenC pair checks its accounts itself. -/
def Pattern.subject? (printConfig : PrintConfig) : Pattern → Option Subject
  | .createStakeAccount ca si => some ⟨"Create stake acct", ca.to, [si.account]⟩
  | .createStakeAccountWithSeed cws si => some ⟨"Create stake acct", cws.to, [si.account]⟩
  | .createNonceAccount ca ni => some ⟨"Create nonce acct", ca.to, [ni.account]⟩
  | .createNonceAccountWithSeed cws ni => some ⟨"Create nonce acct", cws.to, [ni.account]⟩
  | .createVoteAccount ca vi => some ⟨"Create vote acct", ca.to, [vi.account]⟩
  | .createVoteAccountWithSeed cws vi => some ⟨"Create vote acct", cws.to, [vi.account]⟩
  | .stakeAuthorizeBoth staker withdrawer =>
      some ⟨"Set stake auth", staker.account, [withdrawer.account]⟩
  | .voteAuthorizeBoth voter withdrawer =>
      some ⟨"Set vote auth", voter.account, [withdrawer.account]⟩
  | .stakeSplitWithSeedV1_1 aws ss => some ⟨"To", ss.splitAccount, [aws.account]⟩
  | .stakeSplitV1_2 ca ss => some ⟨"To", ss.splitAccount, [ca.to]⟩
  | .stakeSplitWithSeedV1_2 cws ss => some ⟨"To", ss.splitAccount, [cws.to]⟩
  | .splTokenCreateMint ca im => some ⟨"Create token mint", im.mintAccount, [ca.to]⟩
  | .splTokenCreateAccount ca ia => some ⟨"Create token account", ia.tokenAccount, [ca.to]⟩
  | .splTokenCreateMultisig ca im => some ⟨"Create multisig", im.multisigAccount, [ca.to]⟩
  | .splAssociatedTokenAccountCreateWithTransfer create _ transfer =>
      some ⟨if printConfig.forceFullPrint || !printConfig.userInputIsAtaOrTokenAccount then "To"
        else "To (token account)", transfer.destAccount, [create.address]⟩
  | .createStakeAccountAndDelegate ca si sd =>
      some ⟨"Delegated from", ca.to, [si.account, sd.stakePubkey]⟩
  | .createStakeAccountWithSeedAndDelegate cws si sd =>
      some ⟨"Delegated from", cws.to, [si.account, sd.stakePubkey]⟩
  | .stakeSplitV1_1 allocate assign ss =>
      some ⟨"To", ss.splitAccount, [allocate.account, assign.account]⟩
  | .stakeSplitWithSeedV1_3 prefund aws ss =>
      some ⟨"To", ss.splitAccount, [prefund.to, aws.account]⟩
  | .stakeSplitV1_3 prefund allocate assign ss =>
      some ⟨"To", ss.splitAccount, [prefund.to, allocate.account, assign.account]⟩
  | _ => none

/-- **The accounts of a pattern are those of the instructions it is recognised from.** -/
theorem mem_subject_iff {core : List InstructionInfo} {pattern : Pattern}
    {printConfig : PrintConfig} {subject : Subject} (hcore : recognise core = some pattern)
    (hsubject : pattern.subject? printConfig = some subject) {account : Ptr Pubkey} :
    account ∈ subject.account :: subject.others ↔ ∃ info ∈ core, info.subject? = some account := by
  unfold recognise at hcore
  split at hcore
  · unfold recogniseOne at hcore
    split at hcore <;> cases hcore <;> cases hsubject
  · unfold recogniseTwo at hcore
    split at hcore <;> cases hcore <;> cases hsubject <;>
      simp [InstructionInfo.subject?, SystemInfo.subject?, StakeInfo.subject?, VoteInfo.subject?,
        SplTokenBody.subject?, eq_comm, or_comm]
  · unfold recogniseThree at hcore
    split at hcore <;> cases hcore <;> cases hsubject <;>
      simp [InstructionInfo.subject?, SystemInfo.subject?, StakeInfo.subject?, eq_comm, or_comm,
        or_left_comm]
  · unfold recogniseFour at hcore
    split at hcore <;> cases hcore
    cases hsubject
    simp [InstructionInfo.subject?, SystemInfo.subject?, StakeInfo.subject?, eq_comm, or_comm,
        or_left_comm]
  · cases hcore

/-! ## The review names it -/

/-- The account of a subject is named under its title: by its key or, where it is the token account
of the trusted info, by its owner. -/
def Subject.NamedIn (ctx : TokenContext) (s : TransactionSummary) (subject : Subject) : Prop :=
  ∃ item ∈ s.usedItems, item.title = subject.title ∧
    (item.value = .pubkey subject.account ∨
      ∃ info, ctx.trustedInfo = some info ∧ info.tokenAddress = subject.account.val ∧
        item.value = .string info.encodedOwnerAddress)

/-- With trusted info to show, the printer of a transfer does not bail out. -/
theorem fail_notMem_printSplTokenTransferInfo {ctx : TokenContext} {printConfig : PrintConfig}
    {transfer : SplTokenTransferInfo} {isToken2022Kind isPrimary : Bool} {toAddress : CString}
    (hto : getTransferToAddress ctx = some toAddress) :
    Effect.fail ∉ printSplTokenTransferInfo ctx transfer printConfig isToken2022Kind isPrimary := by
  have hamount : Effect.fail ∉ transferFeeItem transfer
      (getTokenSymbol ctx transfer.mintAccount.val isToken2022Kind) := by
    unfold transferFeeItem
    split
    · split <;> simp [general]
    · simp
  have hsign : Effect.fail ∉ printSplTokenSign transfer.sign printConfig := by
    unfold printSplTokenSign generalAuthority
    split
    · split <;> simp [general]
    · simp [general]
  simp only [printSplTokenTransferInfo, transferToItem, hto, List.mem_append, not_or]
  refine ⟨⟨⟨⟨⟨⟨?_, ?_⟩, ?_⟩, ?_⟩, hamount⟩, by simp⟩, hsign⟩ <;> split <;> simp [primary, general]

theorem printSplAssociatedTokenAccountCreateWithTransfer_eq {ctx : TokenContext}
    {printConfig : PrintConfig} {transfer : SplTokenTransferInfo} {isToken2022Kind : Bool}
    {toAddress : CString} (hto : getTransferToAddress ctx = some toAddress) :
    printSplAssociatedTokenAccountCreateWithTransfer printConfig ctx isToken2022Kind transfer
      = printSplTokenTransferInfo ctx transfer printConfig isToken2022Kind true := by
  refine List.takeWhile_eq_self_iff.mpr fun e he => ?_
  simp only [decide_eq_true_eq]
  rintro rfl
  exact fail_notMem_printSplTokenTransferInfo hto he

section

variable {ctx : TokenContext} {messageBody : Parser} {printConfig : PrintConfig}
  {parsed : List ParsedInstruction} {l : Layout} {subject : Subject}

/-- **The printer of a pattern names its subject.** -/
theorem item_mem_print
    (hparsed : parseMessageBody ctx messageBody printConfig.header = (parsed, .ok ()))
    (hl : layout parsed = some l) (hsubject : l.pattern.subject? printConfig = some subject)
    (hfail : Effect.fail ∉ l.pattern.print printConfig ctx) :
    ∃ slot, ∃ item ∈ Script.items slot (l.pattern.print printConfig ctx),
      item.title = subject.title ∧ (item.value = .pubkey subject.account ∨
        ∃ info, ctx.trustedInfo = some info ∧ info.tokenAddress = subject.account.val ∧
          item.value = .string info.encodedOwnerAddress) := by
  cases hpattern : l.pattern <;> rw [hpattern] at hsubject hfail <;> cases hsubject
  case splAssociatedTokenAccountCreateWithTransfer create isToken2022Kind transfer =>
    obtain ⟨info, hinfo, rfl, hbody⟩ := parsed_transfer_of_layout hparsed hl
      (by rw [hpattern]; rfl)
    obtain ⟨trusted, htrusted, -, -, hdest, -, hto⟩ :=
      getTransferToAddress_of_check (hinfo.check hbody)
    simp only [Pattern.print, printSplAssociatedTokenAccountCreateWithTransfer_eq hto,
      printSplTokenTransferInfo, transferToItem, hto]
    cases hshown : printConfig.forceFullPrint || !printConfig.userInputIsAtaOrTokenAccount with
    | true =>
        exact ⟨.general, ⟨"To", .string trusted.encodedOwnerAddress⟩, by simp, rfl,
          .inr ⟨trusted, htrusted, hdest, rfl⟩⟩
    | false =>
        have huser : printConfig.userInputIsAtaOrTokenAccount = true := by
          simpa using (Bool.or_eq_false_iff.mp hshown).2
        exact ⟨.general, ⟨"To (token account)", .pubkey transfer.destAccount⟩, by simp [huser], rfl,
          .inl rfl⟩
  case stakeAuthorizeBoth staker withdrawer =>
    refine ⟨.primary, ⟨"Set stake auth", .pubkey staker.account⟩, ?_, rfl, .inl rfl⟩
    simp only [Pattern.print, printStakeAuthorizeBoth] at hfail ⊢
    split at hfail
    · simp at hfail
    · rename_i hkinds
      rw [if_neg hkinds]
      simp
  case voteAuthorizeBoth voter withdrawer =>
    refine ⟨.primary, ⟨"Set vote auth", .pubkey voter.account⟩, ?_, rfl, .inl rfl⟩
    simp only [Pattern.print, printVoteAuthorizeBoth] at hfail ⊢
    split at hfail
    · simp at hfail
    · rename_i hkinds
      rw [if_neg hkinds]
      simp
  case stakeSplitWithSeedV1_1 | stakeSplitV1_2 | stakeSplitWithSeedV1_2 | stakeSplitV1_1
      | stakeSplitWithSeedV1_3 | stakeSplitV1_3 =>
    refine ⟨.general, ⟨"To", .pubkey _⟩, ?_, rfl, .inl rfl⟩
    simp [Pattern.print, printStakeInfo, printStakeSplitWithSeed, printStakeSplitInfo,
      printStakeSplitInfo1, printPrefundedSplit, printPrefundedSplitWithSeed]
  all_goals
    refine ⟨.primary, ⟨_, .pubkey _⟩, ?_, rfl, .inl rfl⟩
    simp [Pattern.print, printCreateStakeAccount, printCreateStakeAccountWithSeed,
      printCreateNonceAccount, printCreateNonceAccountWithSeed, printCreateVoteAccount,
      printCreateVoteAccountWithSeed, printSplTokenCreateMint, printSplTokenCreateAccount,
      printSplTokenCreateMultisig, printCreateStakeAccountAndDelegate,
      printCreateStakeAccountWithSeedAndDelegate]

theorem isDisplayed_of_subject {info : InstructionInfo} {account : Ptr Pubkey}
    (h : info.subject? = some account) : info.isDisplayed = true := by
  cases info with
  | serumAssertOwner | splMemo => cases h
  | _ => rfl

/-- An instruction that acts on an account is not dropped from the display list. -/
theorem ignored_eq_false_of_subject {header : MessageHeader} {index : ℕ} {instruction : Instruction}
    {ignored : Bool} {info : InstructionInfo} {account : Ptr Pubkey}
    (hfrom : info.ParsedFrom ctx header index instruction ignored)
    (h : info.subject? = some account) : ignored = false := by
  cases info with
  | splToken info =>
      have hinfo := (parseSplTokenInstructions_ok hfrom.2).2
      unfold SplTokenInfo.Parsed at hinfo
      split at hinfo
      · rename_i kind hbody
        rw [InstructionInfo.subject?, hbody] at h
        cases h
      all_goals exact hinfo.1
  | unknown | serumAssertOwner | splMemo | computeBudget _ | agenc _ _ => cases h
  | _ => exact hfrom.2.1

/-- **The accounts of a pattern are those that the instructions of the message act on.** -/
theorem mem_subject_iff_subjectAccount
    (hparsed : parseMessageBody ctx messageBody printConfig.header = (parsed, .ok ()))
    (hl : layout parsed = some l) (hsubject : l.pattern.subject? printConfig = some subject)
    {account : Ptr Pubkey} :
    account ∈ subject.account :: subject.others ↔
      ∃ instruction ∈ bodyInstructions printConfig.header printConfig.header.instructionsLength
        messageBody, subjectAccount printConfig.header instruction = some account := by
  obtain ⟨core, hcore, hdisplayed, hall⟩ := core_of_layout hl
  rw [mem_subject_iff hcore hsubject]
  constructor
  · rintro ⟨info, hinfo, haccount⟩
    obtain ⟨q, hq, -, rfl⟩ := hdisplayed info hinfo
    have hmem : q ∈ (parseMessageBody ctx messageBody printConfig.header).1 := by rwa [hparsed]
    obtain ⟨-, -, index, hfrom⟩ := parsedFrom_of_mem hmem
    refine ⟨q.instruction, ?_, ?_⟩
    · rw [← map_instruction_parseMessageBody hparsed]
      exact List.mem_map_of_mem hq
    · rw [subjectAccount_of_parsedFrom hfrom (info_ne_unknown hparsed hq), haccount]
  · rintro ⟨instruction, hins, haccount⟩
    obtain ⟨q, hq, rfl, hne, index, hfrom⟩ := exists_parsed_of_mem hparsed hins
    rw [subjectAccount_of_parsedFrom hfrom hne] at haccount
    -- neither the nonce nor the fee's instructions act on an account of a pattern
    rcases hall q hq (ignored_eq_false_of_subject hfrom haccount)
      (isDisplayed_of_subject haccount) with hmem | ⟨nonce, hnonce⟩ | ⟨budget, hbudget⟩
    · exact ⟨q.info, hmem, haccount⟩
    · rw [hnonce] at haccount
      cases haccount
    · rw [hbudget] at haccount
      cases haccount

/-- Any two instructions of the message that act on an account act on accounts with the same
key. -/
def ActOnOneAccount (header : MessageHeader) (messageBody : Parser) : Prop :=
  ∀ instruction ∈ bodyInstructions header header.instructionsLength messageBody,
    ∀ instruction' ∈ bodyInstructions header header.instructionsLength messageBody,
      ∀ account account', subjectAccount header instruction = some account →
        subjectAccount header instruction' = some account' → account.val = account'.val

/-- The summary names the subject, and every instruction of the pattern acts on it. -/
def Subject.Sole (ctx : TokenContext) (s : TransactionSummary) (subject : Subject) : Prop :=
  subject.NamedIn ctx s ∧ ∀ account ∈ subject.others, account.val = subject.account.val

/-- **A pattern of several instructions acts on the account its review names** exactly when the
message has its instructions act on one account. -/
theorem sole_iff {s : TransactionSummary}
    (h : processMessageBody ctx messageBody printConfig .reset = (.ok (), s))
    (hparsed : parseMessageBody ctx messageBody printConfig.header = (parsed, .ok ()))
    (hl : layout parsed = some l) (hsubject : l.pattern.subject? printConfig = some subject) :
    subject.Sole ctx s ↔ ActOnOneAccount printConfig.header messageBody := by
  have hmem := @mem_subject_iff_subjectAccount _ _ _ _ _ _ hparsed hl hsubject
  constructor
  · rintro ⟨-, hothers⟩ instruction hins instruction' hins' account account' haccount haccount'
    have hsame : ∀ p ∈ subject.account :: subject.others, p.val = subject.account.val := by
      simpa using hothers
    rw [hsame account (hmem.mpr ⟨instruction, hins, haccount⟩),
      hsame account' (hmem.mpr ⟨instruction', hins', haccount'⟩)]
  · intro hone
    refine ⟨?_, fun account haccount => ?_⟩
    · obtain ⟨parsed', l', hparsed', hl', hfail, hitems⟩ := processMessageBody_ok h
      obtain ⟨rfl, -⟩ := Prod.ext_iff.mp (hparsed.symm.trans hparsed')
      obtain rfl : l = l' := Option.some.inj (hl.symm.trans hl')
      simp only [Layout.script, List.mem_append, not_or] at hfail
      obtain ⟨slot, item, hitem, hnamed⟩ := item_mem_print hparsed hl hsubject hfail.1.2
      refine ⟨item, TransactionSummary.mem_usedItems.mpr ⟨slot, ?_⟩, hnamed⟩
      rw [hitems slot, Layout.script, Script.items_append, Script.items_append]
      exact List.mem_append_right _ (List.mem_append_left _ (List.mem_append_right _ hitem))
    · obtain ⟨instruction, hins, hins'⟩ := hmem.mp (List.mem_cons_of_mem _ haccount)
      obtain ⟨instruction', hins₂, hins₂'⟩ := hmem.mp List.mem_cons_self
      exact hone instruction hins instruction' hins₂ account subject.account hins' hins₂'

end

/-! ## A created account, and another one that is initialised -/

theorem length_createFirstKey : (List.replicate 32 (2 : UInt8)).length = 32 := rfl

theorem length_createSecondKey : (List.replicate 32 (3 : UInt8)).length = 32 := rfl

/-- The keys of a message that creates a stake account: two accounts after the signer. -/
def createKeys : List Pubkey :=
  [plainSigner, ⟨List.replicate 32 2, length_createFirstKey⟩,
    ⟨List.replicate 32 3, length_createSecondKey⟩, systemProgramId, stakeProgramId]

/-- The creation of the first account, with five lamports. -/
def createFirst : List UInt8 :=
  writeInstruction 3 [0, 1] ([0, 0, 0, 0] ++ [5, 0, 0, 0, 0, 0, 0, 0] ++ [200, 0, 0, 0, 0, 0, 0, 0]
    ++ stakeProgramId.data)

/-- The initialisation of an account, with the signer as its authorities and no lockup. -/
def initialiseStake (account : UInt8) : List UInt8 :=
  writeInstruction 4 [account, 0] ([0, 0, 0, 0] ++ plainSigner.data ++ plainSigner.data
    ++ List.replicate 16 0 ++ List.replicate 32 0)

/-- The body of a message that creates the first account and initialises the given one. -/
def createBody (account : UInt8) : Parser :=
  legacyBody createKeys [createFirst, initialiseStake account]

/-- Its default display. -/
def createConfig : PrintConfig :=
  plainConfig (legacyHeader createKeys (by decide) 2) ⟨4, plainSigner⟩

/-- Its review. -/
def createReview (account : UInt8) : Result Unit × TransactionSummary :=
  processMessageBody emptyContext (createBody account) createConfig .reset

/-- What the message is parsed to. -/
def createParsed (account : UInt8) : List ParsedInstruction :=
  (parseMessageBody emptyContext (createBody account) createConfig.header).1

/-- The layout of its review. -/
def createLayout : Option Layout := layout (createParsed 1)

theorem createReview_ok : (createReview 1).1 = .ok () := by decide +kernel

/-- The theorem on a message that initialises the account it creates. -/
theorem sole_createFirst : ∃ l subject, createLayout = some l ∧
    l.pattern.subject? createConfig = some subject ∧
    (subject.Sole emptyContext (createReview 1).2 ↔
      ActOnOneAccount createConfig.header (createBody 1)) := by
  have hlayout : createLayout.isSome = true := by decide +kernel
  obtain ⟨l, hl⟩ := Option.isSome_iff_exists.mp hlayout
  have hsubject : (createLayout.bind fun l => l.pattern.subject? createConfig).isSome = true := by
    decide +kernel
  rw [hl] at hsubject
  obtain ⟨subject, hsubject⟩ := Option.isSome_iff_exists.mp hsubject
  have hok : (parseMessageBody emptyContext (createBody 1) createConfig.header).2 = .ok () := by
    decide +kernel
  have hreview : createReview 1 = (.ok (), (createReview 1).2) := by rw [← createReview_ok]
  exact ⟨l, subject, hl, hsubject, sole_iff hreview (by rw [createParsed, ← hok]) hl hsubject⟩

/-- What a review of such a message is about. -/
def createSubject (account : UInt8) : Option Subject :=
  (layout (createParsed account)).bind fun l => l.pattern.subject? createConfig

/-- **The message that creates one account and initialises another is accepted**: the review names
the account that is created, and the one that is initialised nowhere. -/
theorem initialiseStake_not_sole :
    (createReview 2).1 = .ok () ∧
      (∃ subject, createSubject 2 = some subject ∧
        ¬subject.Sole emptyContext (createReview 2).2) ∧
      ∀ item ∈ (createReview 2).2.usedItems,
        item.value ≠ .pubkey ⟨68, ⟨List.replicate 32 3, rfl⟩⟩ := by
  refine ⟨by decide +kernel, ?_, by decide +kernel⟩
  have hsubject : createSubject 2 = some ⟨"Create stake acct", ⟨36, ⟨List.replicate 32 2, rfl⟩⟩,
    [⟨68, ⟨List.replicate 32 3, rfl⟩⟩]⟩ := by decide +kernel
  refine ⟨_, hsubject, fun hsole => ?_⟩
  exact absurd (hsole.2 _ (List.mem_singleton_self _)) (by decide)

end AgencLedger
