import AgencLedger.Program.ComputeBudget
import AgencLedger.Program.WireFormat

/-!
# Program/NativeFormats — how System, Stake and Vote instructions are written

The kind is the first field, an integer of four bytes.  The parsers give back exactly the records of
the tables below: the same fields and accounts never make two records, and no record is made of
others.
-/

namespace AgencLedger

/-! ## System -/

/-- The kind of a record. -/
def SystemInfo.kind : SystemInfo → SystemInstructionKind
  | transfer _ => .transfer
  | createAccount _ => .createAccount
  | createAccountWithSeed _ => .createAccountWithSeed
  | advanceNonce _ => .advanceNonceAccount
  | initializeNonce _ => .initializeNonceAccount
  | withdrawNonce _ => .withdrawNonceAccount
  | authorizeNonce _ => .authorizeNonceAccount
  | allocate _ => .allocate
  | assign _ => .assign
  | allocateWithSeed _ => .allocateWithSeed

/-- The number of a kind. -/
def SystemInstructionKind.code : SystemInstructionKind → ℕ
  | createAccount => 0
  | assign => 1
  | transfer => 2
  | createAccountWithSeed => 3
  | advanceNonceAccount => 4
  | withdrawNonceAccount => 5
  | initializeNonceAccount => 6
  | authorizeNonceAccount => 7
  | allocate => 8
  | allocateWithSeed => 9
  | assignWithSeed => 10

/-- The fields behind the kind. -/
def SystemInfo.fields : SystemInfo → List WireField
  | transfer info => [.integer 8 info.lamports.toNat]
  | createAccount info =>
      [.integer 8 info.lamports.toNat, .integer 8 info.space.toNat, .key info.owner]
  | createAccountWithSeed info =>
      [.key info.base, .string info.seed, .integer 8 info.lamports.toNat,
        .integer 8 info.space.toNat, .key info.owner]
  | advanceNonce _ => []
  | initializeNonce info => [.key info.authority]
  | withdrawNonce info => [.integer 8 info.lamports.toNat]
  | authorizeNonce info => [.key info.newAuthority]
  | allocate info => [.integer 8 info.space.toNat]
  | assign info => [.key info.programId]
  | allocateWithSeed info =>
      [.key info.base, .string info.seed, .integer 8 info.space.toNat, .key info.programId]

/-- The accounts; the sysvars are skipped. -/
def SystemInfo.accounts : SystemInfo → List AccountUse
  | transfer info => [.key info.from, .key info.to]
  | createAccount info => [.key info.from, .key info.to]
  | createAccountWithSeed info => [.key info.from, .key info.to]
  | advanceNonce info => [.key info.account, .skipped, .key info.authority]
  | initializeNonce info => [.key info.account, .skipped, .skipped]
  | withdrawNonce info => [.key info.account, .key info.to, .skipped, .skipped, .key info.authority]
  | authorizeNonce info => [.key info.account, .key info.authority]
  | allocate info => [.key info.account]
  | assign info => [.key info.account]
  | allocateWithSeed info => [.key info.account, .skipped]

theorem acceptsField_parseSystemInstructionKind :
    AcceptsField parseSystemInstructionKind fun kind => .integer 4 kind.code := by
  refine acceptsField_code accepts_parseU32 (fun kind => ⟨.ofNat kind.code, ?_⟩) fun code => ?_
  · cases kind <;> rfl
  generalize code.toNat = n
  split
  case h_12 =>
    refine (Accepts.throw _).congr fun _ kind _ => iff_of_false id ?_
    rintro ⟨rfl, -⟩
    cases kind <;> contradiction
  all_goals
    refine (Accepts.pure _).congr fun _ kind _ => and_congr_left fun _ => ?_
    cases kind <;> decide

section

variable {header : MessageHeader} {instruction : Instruction}
  (hvalid : instructionValidate instruction header = true)
include hvalid

open SystemTransferInfo in
theorem formats_parseSystemTransferInstruction :
    Formats header instruction parseSystemTransferInstruction (fun _ => True)
      (fun info => (SystemInfo.transfer info).fields)
      fun info => (SystemInfo.transfer info).accounts := by
  unfold parseSystemTransferInstruction
  refine .account hvalid «from» fun _ => ?_
  refine .account hvalid «to» fun _ => ?_
  refine .read lamports acceptsField_parseU64 fun _ => ?_
  exact .pure fun info => by cases info; simp [and_assoc]

open SystemCreateAccountInfo in
theorem formats_parseSystemCreateAccountInstruction :
    Formats header instruction parseSystemCreateAccountInstruction (fun _ => True)
      (fun info => (SystemInfo.createAccount info).fields)
      fun info => (SystemInfo.createAccount info).accounts := by
  unfold parseSystemCreateAccountInstruction
  refine .account hvalid «from» fun _ => ?_
  refine .account hvalid «to» fun _ => ?_
  refine .read lamports acceptsField_parseU64 fun _ => ?_
  refine .read space acceptsField_parseU64 fun _ => ?_
  refine .read owner acceptsField_parsePubkey fun _ => ?_
  exact .pure fun info => by cases info; simp [and_assoc]

open SystemCreateAccountWithSeedInfo in
theorem formats_parseSystemCreateAccountWithSeedInstruction :
    Formats header instruction parseSystemCreateAccountWithSeedInstruction (fun _ => True)
      (fun info => (SystemInfo.createAccountWithSeed info).fields)
      fun info => (SystemInfo.createAccountWithSeed info).accounts := by
  unfold parseSystemCreateAccountWithSeedInstruction
  refine .account hvalid «from» fun _ => ?_
  refine .account hvalid «to» fun _ => ?_
  refine .read base acceptsField_parsePubkey fun _ => ?_
  refine .read seed acceptsField_parseSizedString fun _ => ?_
  refine .read lamports acceptsField_parseU64 fun _ => ?_
  refine .read space acceptsField_parseU64 fun _ => ?_
  refine .read owner acceptsField_parsePubkey fun _ => ?_
  exact .pure fun info => by cases info; simp [and_assoc]

open SystemAdvanceNonceInfo in
theorem formats_parseSystemAdvanceNonceAccountInstruction :
    Formats header instruction parseSystemAdvanceNonceAccountInstruction (fun _ => True)
      (fun info => (SystemInfo.advanceNonce info).fields)
      fun info => (SystemInfo.advanceNonce info).accounts := by
  unfold parseSystemAdvanceNonceAccountInstruction
  refine .account hvalid account fun _ => .skip hvalid ?_
  refine .account hvalid authority fun _ => ?_
  exact .pure fun info => by cases info; simp

open SystemInitializeNonceInfo in
theorem formats_parseSystemInitializeNonceAccountInstruction :
    Formats header instruction parseSystemInitializeNonceAccountInstruction (fun _ => True)
      (fun info => (SystemInfo.initializeNonce info).fields)
      fun info => (SystemInfo.initializeNonce info).accounts := by
  unfold parseSystemInitializeNonceAccountInstruction
  refine .account hvalid account fun _ => .skip hvalid (.skip hvalid ?_)
  refine .read authority acceptsField_parsePubkey fun _ => ?_
  exact .pure fun info => by cases info; simp

open SystemWithdrawNonceInfo in
theorem formats_parseSystemWithdrawNonceAccountInstruction :
    Formats header instruction parseSystemWithdrawNonceAccountInstruction (fun _ => True)
      (fun info => (SystemInfo.withdrawNonce info).fields)
      fun info => (SystemInfo.withdrawNonce info).accounts := by
  unfold parseSystemWithdrawNonceAccountInstruction
  refine .account hvalid account fun _ => ?_
  refine .account hvalid «to» fun _ => .skip hvalid (.skip hvalid ?_)
  refine .account hvalid authority fun _ => ?_
  refine .read lamports acceptsField_parseU64 fun _ => ?_
  exact .pure fun info => by cases info; simp; tauto

open SystemAuthorizeNonceInfo in
theorem formats_parseSystemAuthorizeNonceAccountInstruction :
    Formats header instruction parseSystemAuthorizeNonceAccountInstruction (fun _ => True)
      (fun info => (SystemInfo.authorizeNonce info).fields)
      fun info => (SystemInfo.authorizeNonce info).accounts := by
  unfold parseSystemAuthorizeNonceAccountInstruction
  refine .account hvalid account fun _ => ?_
  refine .account hvalid authority fun _ => ?_
  refine .read newAuthority acceptsField_parsePubkey fun _ => ?_
  exact .pure fun info => by cases info; simp [and_assoc]

open SystemAllocateInfo in
theorem formats_parseSystemAllocateInstruction :
    Formats header instruction parseSystemAllocateInstruction (fun _ => True)
      (fun info => (SystemInfo.allocate info).fields)
      fun info => (SystemInfo.allocate info).accounts := by
  unfold parseSystemAllocateInstruction
  refine .account hvalid account fun _ => ?_
  refine .read space acceptsField_parseU64 fun _ => ?_
  exact .pure fun info => by cases info; simp

open SystemAssignInfo in
theorem formats_parseSystemAssignInstruction :
    Formats header instruction parseSystemAssignInstruction (fun _ => True)
      (fun info => (SystemInfo.assign info).fields)
      fun info => (SystemInfo.assign info).accounts := by
  unfold parseSystemAssignInstruction
  refine .account hvalid account fun _ => ?_
  refine .read programId acceptsField_parsePubkey fun _ => ?_
  exact .pure fun info => by cases info; simp

open SystemAllocateWithSeedInfo in
theorem formats_parseSystemAllocateWithSeedInstruction :
    Formats header instruction parseSystemAllocateWithSeedInstruction (fun _ => True)
      (fun info => (SystemInfo.allocateWithSeed info).fields)
      fun info => (SystemInfo.allocateWithSeed info).accounts := by
  unfold parseSystemAllocateWithSeedInstruction
  refine .account hvalid account fun _ => .skip hvalid ?_
  refine .read base acceptsField_parsePubkey fun _ => ?_
  refine .read seed acceptsField_parseSizedString fun _ => ?_
  refine .read space acceptsField_parseU64 fun _ => ?_
  refine .read programId acceptsField_parsePubkey fun _ => ?_
  exact .pure fun info => by cases info; simp [and_assoc]

theorem formats_parseSystemInstructions :
    Formats header instruction parseSystemInstructions (fun _ => True)
      (fun info => .integer 4 info.kind.code :: info.fields) SystemInfo.accounts := by
  unfold parseSystemInstructions
  refine .read SystemInfo.kind acceptsField_parseSystemInstructionKind fun kind => ?_
  cases kind with
  | transfer =>
      exact .map (formats_parseSystemTransferInstruction hvalid) fun info => by
        cases info <;> simp [SystemInfo.kind]
  | advanceNonceAccount =>
      exact .map (formats_parseSystemAdvanceNonceAccountInstruction hvalid) fun info => by
        cases info <;> simp [SystemInfo.kind]
  | createAccount =>
      exact .map (formats_parseSystemCreateAccountInstruction hvalid) fun info => by
        cases info <;> simp [SystemInfo.kind]
  | createAccountWithSeed =>
      exact .map (formats_parseSystemCreateAccountWithSeedInstruction hvalid) fun info => by
        cases info <;> simp [SystemInfo.kind]
  | initializeNonceAccount =>
      exact .map (formats_parseSystemInitializeNonceAccountInstruction hvalid) fun info => by
        cases info <;> simp [SystemInfo.kind]
  | withdrawNonceAccount =>
      exact .map (formats_parseSystemWithdrawNonceAccountInstruction hvalid) fun info => by
        cases info <;> simp [SystemInfo.kind]
  | authorizeNonceAccount =>
      exact .map (formats_parseSystemAuthorizeNonceAccountInstruction hvalid) fun info => by
        cases info <;> simp [SystemInfo.kind]
  | assign =>
      exact .map (formats_parseSystemAssignInstruction hvalid) fun info => by
        cases info <;> simp [SystemInfo.kind]
  | allocate =>
      exact .map (formats_parseSystemAllocateInstruction hvalid) fun info => by
        cases info <;> simp [SystemInfo.kind]
  | allocateWithSeed =>
      exact .map (formats_parseSystemAllocateWithSeedInstruction hvalid) fun info => by
        cases info <;> simp [SystemInfo.kind]
  | assignWithSeed => exact .throw _ fun info => by cases info <;> simp [SystemInfo.kind]

/-- **What the parser of the System program accepts**: the instructions that are written as a
record, which it gives back. -/
theorem parseSystemInstructions_iff {info : SystemInfo} :
    parseSystemInstructions.parse header instruction = .ok info ↔
      WrittenAs header instruction (.integer 4 info.kind.code :: info.fields) info.accounts :=
  (formats_parseSystemInstructions hvalid).parse_iff.trans (and_iff_right trivial)

end

/-- A transfer of five lamports, and one more byte. -/
theorem parseSystemInstructions_iff_transfer :
    parseSystemInstructions.parse (oneProgramHeader systemProgramId)
      (oneProgramInstruction 2 [2, 0, 0, 0, 5, 0, 0, 0, 0, 0, 0, 0, 9])
        = .ok (.transfer ⟨plainKey, plainKey, 5⟩) :=
  (parseSystemInstructions_iff (by decide)).mpr
    { data := ⟨leBytes 4 2 ++ leBytes 8 5, [9], rfl, leBytes 4 2, leBytes 8 5, rfl, rfl,
        leBytes 8 5, [], rfl, rfl, rfl⟩
      accounts := ⟨2, 1, ⟨rfl, rfl⟩, 2, ⟨rfl, rfl⟩, rfl⟩ }

/-! ## Stake -/

/-- The kind of a record. -/
def StakeInfo.kind : StakeInfo → StakeInstructionKind
  | delegateStake _ => .delegate
  | stakeInitialize _ => .stakeInitialize
  | initializeChecked _ => .initializeChecked
  | withdraw _ => .withdraw
  | authorize _ => .authorize
  | authorizeChecked _ => .authorizeChecked
  | deactivate _ => .deactivate
  | setLockup _ => .setLockup
  | setLockupChecked _ => .setLockupChecked
  | split _ => .split
  | merge _ => .merge

/-- The number of a kind. -/
def StakeInstructionKind.code : StakeInstructionKind → ℕ
  | stakeInitialize => 0
  | authorize => 1
  | delegate => 2
  | split => 3
  | withdraw => 4
  | deactivate => 5
  | setLockup => 6
  | merge => 7
  | authorizeWithSeed => 8
  | initializeChecked => 9
  | authorizeChecked => 10
  | authorizeCheckedWithSeed => 11
  | setLockupChecked => 12

/-- The number of an authority. -/
def StakeAuthorize.code : StakeAuthorize → ℕ
  | staker => 0
  | withdrawer => 1

/-- The lockup of an initialisation. -/
def StakeLockup.fields (lockup : StakeLockup) : List WireField :=
  [.integer 8 lockup.unixTimestamp.toUInt64.toNat, .integer 8 lockup.epoch.toNat,
    .key lockup.custodian]

/-- The lockup of an initialisation that has one. -/
def StakeInitializeInfo.someLockup (info : StakeInitializeInfo) : StakeLockup :=
  info.lockup.getD ⟨0, 0, info.account⟩

/-- An initialisation has a lockup, unless it is checked. -/
def StakeInfo.Possible : StakeInfo → Prop
  | stakeInitialize info => info.lockup.isSome
  | initializeChecked info => info.lockup = none
  | _ => True

/-- The fields behind the kind. -/
def StakeInfo.fields : StakeInfo → List WireField
  | delegateStake _ => []
  | stakeInitialize info =>
      .key info.stakeAuthority :: .key info.withdrawAuthority ::
        info.lockup.elim [] StakeLockup.fields
  | initializeChecked _ => []
  | withdraw info => [.integer 8 info.lamports.toNat]
  | authorize info => [.key info.newAuthority, .integer 4 info.authorize.code]
  | authorizeChecked info => [.integer 4 info.authorize.code]
  | deactivate _ => []
  | setLockup info =>
      [optionFields (.integer 8 ·.toUInt64.toNat) info.lockup.unixTimestamp,
        optionFields (.integer 8 ·.toNat) info.lockup.epoch,
        optionFields .key info.lockup.custodian].flatten
  | setLockupChecked info =>
      [optionFields (.integer 8 ·.toUInt64.toNat) info.lockup.unixTimestamp,
        optionFields (.integer 8 ·.toNat) info.lockup.epoch].flatten
  | split info => [.integer 8 info.lamports.toNat]
  | merge _ => []

/-- The accounts; the sysvars and the config account are skipped. -/
def StakeInfo.accounts : StakeInfo → List AccountUse
  | delegateStake info =>
      [.key info.stakePubkey, .key info.votePubkey, .skipped, .skipped, .skipped,
        .key info.authorizedPubkey]
  | stakeInitialize info => [.key info.account, .skipped]
  | initializeChecked info =>
      [.key info.account, .skipped, .key info.stakeAuthority, .key info.withdrawAuthority]
  | withdraw info => [.key info.account, .key info.to, .skipped, .skipped, .key info.authority]
  | authorize info => [.key info.account, .skipped, .key info.authority, .ifAny info.custodian]
  | authorizeChecked info =>
      [.key info.account, .skipped, .key info.authority, .key info.newAuthority,
        .ifAny info.custodian]
  | deactivate info => [.key info.account, .skipped, .key info.authority]
  | setLockup info => [.key info.account, .key info.custodian]
  | setLockupChecked info => [.key info.account, .key info.custodian, .ifAny info.lockup.custodian]
  | split info => [.key info.account, .key info.splitAccount, .key info.authority]
  | merge info =>
      [.key info.destination, .key info.source, .skipped, .skipped, .key info.authority]

theorem acceptsField_parseStakeInstructionKind :
    AcceptsField parseStakeInstructionKind fun kind => .integer 4 kind.code := by
  refine acceptsField_code accepts_parseU32 (fun kind => ⟨.ofNat kind.code, ?_⟩) fun code => ?_
  · cases kind <;> rfl
  generalize code.toNat = n
  split
  case h_14 =>
    refine (Accepts.throw _).congr fun _ kind _ => iff_of_false id ?_
    rintro ⟨rfl, -⟩
    cases kind <;> contradiction
  all_goals
    refine (Accepts.pure _).congr fun _ kind _ => and_congr_left fun _ => ?_
    cases kind <;> decide

theorem acceptsField_parseStakeAuthorize :
    AcceptsField parseStakeAuthorize fun authorize => .integer 4 authorize.code := by
  refine acceptsField_code accepts_parseU32 (fun authorize => ⟨.ofNat authorize.code, ?_⟩)
    fun code => ?_
  · cases authorize <;> rfl
  generalize code.toNat = n
  split
  case h_3 =>
    refine (Accepts.throw _).congr fun _ authorize _ => iff_of_false id ?_
    rintro ⟨rfl, -⟩
    cases authorize <;> contradiction
  all_goals
    refine (Accepts.pure _).congr fun _ authorize _ => and_congr_left fun _ => ?_
    cases authorize <;> decide

section

variable {header : MessageHeader} {instruction : Instruction}
  (hvalid : instructionValidate instruction header = true)
include hvalid

open StakeDelegateInfo in
theorem formats_parseDelegateStakeInstruction :
    Formats header instruction parseDelegateStakeInstruction (fun _ => True)
      (fun info => (StakeInfo.delegateStake info).fields)
      fun info => (StakeInfo.delegateStake info).accounts := by
  unfold parseDelegateStakeInstruction
  refine .account hvalid stakePubkey fun _ => ?_
  refine .account hvalid votePubkey fun _ => .skip hvalid (.skip hvalid (.skip hvalid ?_))
  refine .account hvalid authorizedPubkey fun _ => ?_
  exact .pure fun info => by cases info; simp [and_assoc]

open StakeInitializeInfo in
theorem formats_parseStakeInitializeInstruction :
    Formats header instruction parseStakeInitializeInstruction (fun info => info.lockup.isSome)
      (fun info => (StakeInfo.stakeInitialize info).fields)
      fun info => (StakeInfo.stakeInitialize info).accounts := by
  unfold parseStakeInitializeInstruction
  refine .account hvalid account fun _ => .skip hvalid ?_
  refine .read stakeAuthority acceptsField_parsePubkey fun _ => ?_
  refine .read withdrawAuthority acceptsField_parsePubkey fun _ => ?_
  refine .congr (?_ : Formats _ _ _ _ (someLockup · |>.fields) _) (fun _ => Iff.rfl)
    (fun info hinfo => ?_) fun _ _ => rfl
  · refine .read (someLockup · |>.unixTimestamp) acceptsField_parseI64 fun _ => ?_
    refine .read (someLockup · |>.epoch) acceptsField_parseU64 fun _ => ?_
    refine .read (someLockup · |>.custodian) acceptsField_parsePubkey fun _ => ?_
    exact .pure fun info => by
      rcases info with ⟨_, _, _, _ | ⟨_, _, _⟩⟩ <;> simp [someLockup, and_assoc]
  · obtain ⟨lockup, hlockup⟩ := Option.isSome_iff_exists.mp hinfo.1.1.1
    rw [someLockup, hlockup]
    rfl

open StakeInitializeInfo in
theorem formats_parseStakeInitializeCheckedInstruction :
    Formats header instruction parseStakeInitializeCheckedInstruction
      (fun info => info.lockup = none) (fun info => (StakeInfo.initializeChecked info).fields)
      fun info => (StakeInfo.initializeChecked info).accounts := by
  unfold parseStakeInitializeCheckedInstruction
  refine .account hvalid account fun _ => .skip hvalid ?_
  refine .account hvalid stakeAuthority fun _ => ?_
  refine .account hvalid withdrawAuthority fun _ => ?_
  exact .pure fun info => by cases info; simp; tauto

open StakeWithdrawInfo in
theorem formats_parseStakeWithdrawInstruction :
    Formats header instruction parseStakeWithdrawInstruction (fun _ => True)
      (fun info => (StakeInfo.withdraw info).fields)
      fun info => (StakeInfo.withdraw info).accounts := by
  unfold parseStakeWithdrawInstruction
  refine .account hvalid account fun _ => ?_
  refine .account hvalid «to» fun _ => .skip hvalid (.skip hvalid ?_)
  refine .account hvalid authority fun _ => ?_
  refine .read lamports acceptsField_parseU64 fun _ => ?_
  exact .pure fun info => by cases info; simp; tauto

open StakeAuthorizeInfo in
theorem formats_parseStakeAuthorizeInstruction :
    Formats header instruction parseStakeAuthorizeInstruction (fun _ => True)
      (fun info => (StakeInfo.authorize info).fields)
      fun info => (StakeInfo.authorize info).accounts := by
  unfold parseStakeAuthorizeInstruction
  refine .account hvalid account fun _ => .skip hvalid ?_
  refine .account hvalid authority fun _ => ?_
  refine .accountIfAny hvalid custodian fun _ => ?_
  refine .read newAuthority acceptsField_parsePubkey fun _ => ?_
  refine .read authorize acceptsField_parseStakeAuthorize fun _ => ?_
  exact .pure fun info => by cases info; simp; tauto

open StakeAuthorizeInfo in
theorem formats_parseStakeAuthorizeCheckedInstruction :
    Formats header instruction parseStakeAuthorizeCheckedInstruction (fun _ => True)
      (fun info => (StakeInfo.authorizeChecked info).fields)
      fun info => (StakeInfo.authorizeChecked info).accounts := by
  unfold parseStakeAuthorizeCheckedInstruction
  refine .account hvalid account fun _ => .skip hvalid ?_
  refine .account hvalid authority fun _ => ?_
  refine .account hvalid newAuthority fun _ => ?_
  refine .accountIfAny hvalid custodian fun _ => ?_
  refine .read authorize acceptsField_parseStakeAuthorize fun _ => ?_
  exact .pure fun info => by cases info; simp [and_assoc]

open StakeDeactivateInfo in
theorem formats_parseStakeDeactivateInstruction :
    Formats header instruction parseStakeDeactivateInstruction (fun _ => True)
      (fun info => (StakeInfo.deactivate info).fields)
      fun info => (StakeInfo.deactivate info).accounts := by
  unfold parseStakeDeactivateInstruction
  refine .account hvalid account fun _ => .skip hvalid ?_
  refine .account hvalid authority fun _ => ?_
  exact .pure fun info => by cases info; simp

open StakeSetLockupInfo in
theorem formats_parseStakeSetLockupInstruction :
    Formats header instruction parseStakeSetLockupInstruction (fun _ => True)
      (fun info => (StakeInfo.setLockup info).fields)
      fun info => (StakeInfo.setLockup info).accounts := by
  unfold parseStakeSetLockupInstruction parseStakeLockupargs
  simp only [if_true, InstrM.lift_bind, InstrM.lift_pure, bind_assoc, pure_bind]
  refine .account hvalid account fun _ => ?_
  refine .account hvalid custodian fun _ => ?_
  refine .readAll (lockup · |>.unixTimestamp) (acceptsFields_parseOptional acceptsField_parseI64)
    fun _ => ?_
  refine .readAll (lockup · |>.epoch) (acceptsFields_parseOptional acceptsField_parseU64)
    fun _ => ?_
  refine .readAll (lockup · |>.custodian) (acceptsFields_parseOptional acceptsField_parsePubkey)
    fun _ => ?_
  exact .pure fun info => by
    rcases info with ⟨_, _, ⟨_, _, _⟩⟩
    simp [and_assoc]

open StakeSetLockupInfo in
theorem formats_parseStakeSetLockupCheckedInstruction :
    Formats header instruction parseStakeSetLockupCheckedInstruction (fun _ => True)
      (fun info => (StakeInfo.setLockupChecked info).fields)
      fun info => (StakeInfo.setLockupChecked info).accounts := by
  unfold parseStakeSetLockupCheckedInstruction parseStakeLockupargs
  simp only [Bool.false_eq_true, if_false, InstrM.lift_bind, InstrM.lift_pure, bind_assoc,
    pure_bind]
  refine .account hvalid account fun _ => ?_
  refine .account hvalid custodian fun _ => ?_
  refine .readAll (lockup · |>.unixTimestamp) (acceptsFields_parseOptional acceptsField_parseI64)
    fun _ => ?_
  refine .readAll (lockup · |>.epoch) (acceptsFields_parseOptional acceptsField_parseU64)
    fun _ => ?_
  refine .accountIfAny hvalid (lockup · |>.custodian) fun _ => ?_
  exact .pure fun info => by
    rcases info with ⟨_, _, ⟨_, _, _⟩⟩
    simp [and_assoc]

open StakeSplitInfo in
theorem formats_parseStakeSplitInstruction :
    Formats header instruction parseStakeSplitInstruction (fun _ => True)
      (fun info => (StakeInfo.split info).fields)
      fun info => (StakeInfo.split info).accounts := by
  unfold parseStakeSplitInstruction
  refine .account hvalid account fun _ => ?_
  refine .account hvalid splitAccount fun _ => ?_
  refine .account hvalid authority fun _ => ?_
  refine .read lamports acceptsField_parseU64 fun _ => ?_
  exact .pure fun info => by cases info; simp; tauto

open StakeMergeInfo in
theorem formats_parseStakeMergeInstruction :
    Formats header instruction parseStakeMergeInstruction (fun _ => True)
      (fun info => (StakeInfo.merge info).fields)
      fun info => (StakeInfo.merge info).accounts := by
  unfold parseStakeMergeInstruction
  refine .account hvalid destination fun _ => ?_
  refine .account hvalid source fun _ => .skip hvalid (.skip hvalid ?_)
  refine .account hvalid authority fun _ => ?_
  exact .pure fun info => by cases info; simp [and_assoc]

theorem formats_parseStakeInstructions :
    Formats header instruction parseStakeInstructions StakeInfo.Possible
      (fun info => .integer 4 info.kind.code :: info.fields) StakeInfo.accounts := by
  unfold parseStakeInstructions
  refine .read StakeInfo.kind acceptsField_parseStakeInstructionKind fun kind => ?_
  cases kind with
  | delegate =>
      exact .map (formats_parseDelegateStakeInstruction hvalid) fun info => by
        cases info <;> simp [StakeInfo.kind, StakeInfo.Possible]
  | stakeInitialize =>
      exact .map (formats_parseStakeInitializeInstruction hvalid) fun info => by
        cases info <;> simp [StakeInfo.kind, StakeInfo.Possible]
  | initializeChecked =>
      exact .map (formats_parseStakeInitializeCheckedInstruction hvalid) fun info => by
        cases info <;> simp [StakeInfo.kind, StakeInfo.Possible]
  | withdraw =>
      exact .map (formats_parseStakeWithdrawInstruction hvalid) fun info => by
        cases info <;> simp [StakeInfo.kind, StakeInfo.Possible]
  | authorize =>
      exact .map (formats_parseStakeAuthorizeInstruction hvalid) fun info => by
        cases info <;> simp [StakeInfo.kind, StakeInfo.Possible]
  | authorizeChecked =>
      exact .map (formats_parseStakeAuthorizeCheckedInstruction hvalid) fun info => by
        cases info <;> simp [StakeInfo.kind, StakeInfo.Possible]
  | deactivate =>
      exact .map (formats_parseStakeDeactivateInstruction hvalid) fun info => by
        cases info <;> simp [StakeInfo.kind, StakeInfo.Possible]
  | setLockup =>
      exact .map (formats_parseStakeSetLockupInstruction hvalid) fun info => by
        cases info <;> simp [StakeInfo.kind, StakeInfo.Possible]
  | setLockupChecked =>
      exact .map (formats_parseStakeSetLockupCheckedInstruction hvalid) fun info => by
        cases info <;> simp [StakeInfo.kind, StakeInfo.Possible]
  | split =>
      exact .map (formats_parseStakeSplitInstruction hvalid) fun info => by
        cases info <;> simp [StakeInfo.kind, StakeInfo.Possible]
  | merge =>
      exact .map (formats_parseStakeMergeInstruction hvalid) fun info => by
        cases info <;> simp [StakeInfo.kind, StakeInfo.Possible]
  | authorizeWithSeed => exact .throw _ fun info => by cases info <;> simp [StakeInfo.kind]
  | authorizeCheckedWithSeed =>
      exact .throw _ fun info => by cases info <;> simp [StakeInfo.kind]

/-- **What the parser of the Stake program accepts.** -/
theorem parseStakeInstructions_iff {info : StakeInfo} :
    parseStakeInstructions.parse header instruction = .ok info ↔
      info.Possible ∧
        WrittenAs header instruction (.integer 4 info.kind.code :: info.fields) info.accounts :=
  (formats_parseStakeInstructions hvalid).parse_iff

end

/-- A lockup whose epoch alone is set, without a new custodian. -/
theorem parseStakeInstructions_iff_lockup :
    parseStakeInstructions.parse (oneProgramHeader stakeProgramId)
      (oneProgramInstruction 2 [12, 0, 0, 0, 0, 1, 7, 0, 0, 0, 0, 0, 0, 0])
        = .ok (.setLockupChecked ⟨plainKey, plainKey, ⟨none, some 7, none⟩⟩) :=
  (parseStakeInstructions_iff (by decide)).mpr ⟨trivial,
    { data := ⟨leBytes 4 12 ++ [0, 1] ++ leBytes 8 7, [], rfl, leBytes 4 12,
        [0, 1] ++ leBytes 8 7, rfl, rfl, [0], [1] ++ leBytes 8 7, rfl, rfl, [1], leBytes 8 7, rfl,
        rfl, leBytes 8 7, [], rfl, rfl, rfl⟩
      accounts := ⟨2, 1, ⟨rfl, rfl⟩, 2, ⟨rfl, rfl⟩, 2, ⟨rfl, rfl⟩, rfl⟩ }⟩

/-! ## Vote -/

/-- The kind of a record. -/
def VoteInfo.kind : VoteInfo → VoteInstructionKind
  | voteInitialize _ => .voteInitialize
  | withdraw _ => .withdraw
  | authorize _ => .authorize
  | authorizeChecked _ => .authorizeChecked
  | updateValidatorId _ => .updateValidatorId
  | updateCommission _ => .updateCommission

/-- The number of a kind. -/
def VoteInstructionKind.code : VoteInstructionKind → ℕ
  | voteInitialize => 0
  | authorize => 1
  | vote => 2
  | withdraw => 3
  | updateValidatorId => 4
  | updateCommission => 5
  | switchVote => 6
  | authorizeChecked => 7

/-- The number of an authority. -/
def VoteAuthorize.code : VoteAuthorize → ℕ
  | voter => 0
  | withdrawer => 1

/-- A commission is a byte; a validator's identity has a format without and one with a key in the
data. -/
def VoteInfo.Possible (dataLength : ℕ) : VoteInfo → Prop
  | voteInitialize info => info.voteInit.commission.toNat < 256
  | updateValidatorId _ => dataLength = 4 ∨ dataLength = 4 + 32
  | _ => True

/-- The fields behind the kind. -/
def VoteInfo.fields (dataLength : ℕ) : VoteInfo → List WireField
  | voteInitialize info =>
      [.key info.voteInit.validatorId, .key info.voteInit.voteAuthority,
        .key info.voteInit.withdrawAuthority, .integer 1 info.voteInit.commission.toUInt8.toNat]
  | withdraw info => [.integer 8 info.lamports.toNat]
  | authorize info => [.key info.newAuthority, .integer 4 info.authorize.code]
  | authorizeChecked info => [.integer 4 info.authorize.code]
  | updateValidatorId info => if dataLength = 4 then [] else [.key info.newValidatorId]
  | updateCommission info => [.integer 1 info.commission.toNat]

/-- The accounts; the sysvars are skipped. -/
def VoteInfo.accounts (dataLength : ℕ) : VoteInfo → List AccountUse
  | voteInitialize info => [.key info.account, .skipped, .skipped]
  | withdraw info => [.key info.account, .key info.to, .key info.authority]
  | authorize info => [.key info.account, .skipped, .key info.authority]
  | authorizeChecked info =>
      [.key info.account, .skipped, .key info.authority, .key info.newAuthority]
  | updateValidatorId info => .key info.account ::
      if dataLength = 4 then [.key info.newValidatorId, .key info.authority]
      else [.skipped, .key info.authority]
  | updateCommission info => [.key info.account, .key info.authority]

theorem acceptsField_parseVoteInstructionKind :
    AcceptsField parseVoteInstructionKind fun kind => .integer 4 kind.code := by
  refine acceptsField_code accepts_parseU32 (fun kind => ⟨.ofNat kind.code, ?_⟩) fun code => ?_
  · cases kind <;> rfl
  generalize code.toNat = n
  split
  case h_9 =>
    refine (Accepts.throw _).congr fun _ kind _ => iff_of_false id ?_
    rintro ⟨rfl, -⟩
    cases kind <;> contradiction
  all_goals
    refine (Accepts.pure _).congr fun _ kind _ => and_congr_left fun _ => ?_
    cases kind <;> decide

theorem acceptsField_parseVoteAuthorize :
    AcceptsField parseVoteAuthorize fun authorize => .integer 4 authorize.code := by
  refine acceptsField_code accepts_parseU32 (fun authorize => ⟨.ofNat authorize.code, ?_⟩)
    fun code => ?_
  · cases authorize <;> rfl
  generalize code.toNat = n
  split
  case h_3 =>
    refine (Accepts.throw _).congr fun _ authorize _ => iff_of_false id ?_
    rintro ⟨rfl, -⟩
    cases authorize <;> contradiction
  all_goals
    refine (Accepts.pure _).congr fun _ authorize _ => and_congr_left fun _ => ?_
    cases authorize <;> decide

section

variable {header : MessageHeader} {instruction : Instruction}
  (hvalid : instructionValidate instruction header = true)
include hvalid

open VoteInitializeInfo in
theorem formats_parseVoteInitializeInstruction (dataLength : ℕ) :
    Formats header instruction parseVoteInitializeInstruction
      (fun info => info.voteInit.commission.toNat < 256)
      (fun info => (VoteInfo.voteInitialize info).fields dataLength)
      fun info => (VoteInfo.voteInitialize info).accounts dataLength := by
  unfold parseVoteInitializeInstruction
  refine .account hvalid account fun _ => .skip hvalid (.skip hvalid ?_)
  refine .read (voteInit · |>.validatorId) acceptsField_parsePubkey fun _ => ?_
  refine .read (voteInit · |>.voteAuthority) acceptsField_parsePubkey fun _ => ?_
  refine .read (voteInit · |>.withdrawAuthority) acceptsField_parsePubkey fun _ => ?_
  refine .read (voteInit · |>.commission.toUInt8) acceptsField_parseU8 fun commission => ?_
  refine .pure fun info => ?_
  rcases info with ⟨_, ⟨_, _, _, commission'⟩⟩
  have hcommission : commission'.toNat < 256 ∧ commission'.toUInt8 = commission ↔
      commission' = commission.toUInt64 := by
    rw [← UInt64.toNat_inj, ← UInt8.toNat_inj, UInt8.toNat_toUInt64, UInt64.toNat_toUInt8]
    have := commission.toNat_lt
    omega
  simp [← hcommission]
  tauto

open VoteWithdrawInfo in
theorem formats_parseVoteWithdrawInstruction (dataLength : ℕ) :
    Formats header instruction parseVoteWithdrawInstruction (fun _ => True)
      (fun info => (VoteInfo.withdraw info).fields dataLength)
      fun info => (VoteInfo.withdraw info).accounts dataLength := by
  unfold parseVoteWithdrawInstruction
  refine .account hvalid account fun _ => ?_
  refine .account hvalid «to» fun _ => ?_
  refine .account hvalid authority fun _ => ?_
  refine .read lamports acceptsField_parseU64 fun _ => ?_
  exact .pure fun info => by cases info; simp; tauto

open VoteAuthorizeInfo in
theorem formats_parseVoteAuthorizeInstruction (dataLength : ℕ) :
    Formats header instruction parseVoteAuthorizeInstruction (fun _ => True)
      (fun info => (VoteInfo.authorize info).fields dataLength)
      fun info => (VoteInfo.authorize info).accounts dataLength := by
  unfold parseVoteAuthorizeInstruction
  refine .account hvalid account fun _ => .skip hvalid ?_
  refine .account hvalid authority fun _ => ?_
  refine .read newAuthority acceptsField_parsePubkey fun _ => ?_
  refine .read authorize acceptsField_parseVoteAuthorize fun _ => ?_
  exact .pure fun info => by cases info; simp [and_assoc]

open VoteAuthorizeInfo in
theorem formats_parseVoteAuthorizeCheckedInstruction (dataLength : ℕ) :
    Formats header instruction parseVoteAuthorizeCheckedInstruction (fun _ => True)
      (fun info => (VoteInfo.authorizeChecked info).fields dataLength)
      fun info => (VoteInfo.authorizeChecked info).accounts dataLength := by
  unfold parseVoteAuthorizeCheckedInstruction
  refine .account hvalid account fun _ => .skip hvalid ?_
  refine .account hvalid authority fun _ => ?_
  refine .account hvalid newAuthority fun _ => ?_
  refine .read authorize acceptsField_parseVoteAuthorize fun _ => ?_
  exact .pure fun info => by cases info; simp [and_assoc]

open VoteUpdateValidatorIdInfo in
theorem formats_parseVoteUpdateValidatorIdInstruction (dataLength : ℕ) :
    Formats header instruction (parseVoteUpdateValidatorIdInstruction dataLength)
      (fun _ => dataLength = 4 ∨ dataLength = 4 + 32)
      (fun info => (VoteInfo.updateValidatorId info).fields dataLength)
      fun info => (VoteInfo.updateValidatorId info).accounts dataLength := by
  unfold parseVoteUpdateValidatorIdInstruction VoteInfo.fields VoteInfo.accounts
  refine .account hvalid account fun _ => ?_
  by_cases hold : dataLength = 4
  · simp only [hold, if_true]
    refine .account hvalid newValidatorId fun _ => ?_
    refine .account hvalid authority fun _ => ?_
    exact .pure fun info => by cases info; simp; tauto
  · by_cases hnew : dataLength = 4 + 32
    · simp only [if_neg hold, if_pos hnew]
      refine .read newValidatorId acceptsField_parsePubkey fun _ => .skip hvalid ?_
      refine .account hvalid authority fun _ => ?_
      exact .pure fun info => by cases info; simp [hnew]; tauto
    · simp only [if_neg hold, if_neg hnew]
      exact .throw _ fun _ hinfo => hinfo.1.elim hold hnew

open VoteUpdateCommissionInfo in
theorem formats_parseVoteUpdateCommissionInstruction (dataLength : ℕ) :
    Formats header instruction parseVoteUpdateCommissionInstruction (fun _ => True)
      (fun info => (VoteInfo.updateCommission info).fields dataLength)
      fun info => (VoteInfo.updateCommission info).accounts dataLength := by
  unfold parseVoteUpdateCommissionInstruction
  refine .account hvalid account fun _ => ?_
  refine .account hvalid authority fun _ => ?_
  refine .read commission acceptsField_parseU8 fun _ => ?_
  exact .pure fun info => by cases info; simp [and_assoc]

theorem formats_parseVoteInstructions (dataLength : ℕ) :
    Formats header instruction (parseVoteInstructions dataLength) (VoteInfo.Possible dataLength)
      (fun info => .integer 4 info.kind.code :: info.fields dataLength)
      (VoteInfo.accounts dataLength) := by
  unfold parseVoteInstructions
  refine .read VoteInfo.kind acceptsField_parseVoteInstructionKind fun kind => ?_
  cases kind with
  | voteInitialize =>
      exact .map (formats_parseVoteInitializeInstruction hvalid dataLength) fun info => by
        cases info <;> simp [VoteInfo.kind, VoteInfo.Possible]
  | withdraw =>
      exact .map (formats_parseVoteWithdrawInstruction hvalid dataLength) fun info => by
        cases info <;> simp [VoteInfo.kind, VoteInfo.Possible]
  | authorize =>
      exact .map (formats_parseVoteAuthorizeInstruction hvalid dataLength) fun info => by
        cases info <;> simp [VoteInfo.kind, VoteInfo.Possible]
  | authorizeChecked =>
      exact .map (formats_parseVoteAuthorizeCheckedInstruction hvalid dataLength) fun info => by
        cases info <;> simp [VoteInfo.kind, VoteInfo.Possible]
  | updateValidatorId =>
      exact .map (formats_parseVoteUpdateValidatorIdInstruction hvalid dataLength) fun info => by
        cases info <;> simp [VoteInfo.kind, VoteInfo.Possible]
  | updateCommission =>
      exact .map (formats_parseVoteUpdateCommissionInstruction hvalid dataLength) fun info => by
        cases info <;> simp [VoteInfo.kind, VoteInfo.Possible]
  | vote => exact .throw _ fun info => by cases info <;> simp [VoteInfo.kind]
  | switchVote => exact .throw _ fun info => by cases info <;> simp [VoteInfo.kind]

/-- **What the parser of the Vote program accepts**; the length of the data tells the two formats of
a validator's identity. -/
theorem parseVoteInstructions_iff {info : VoteInfo} :
    (parseVoteInstructions instruction.data.val.length).parse header instruction = .ok info ↔
      info.Possible instruction.data.val.length ∧
        WrittenAs header instruction
          (.integer 4 info.kind.code :: info.fields instruction.data.val.length)
          (info.accounts instruction.data.val.length) :=
  (formats_parseVoteInstructions hvalid instruction.data.val.length).parse_iff

end

/-- An identity among the accounts. -/
theorem parseVoteInstructions_iff_identity :
    (parseVoteInstructions 4).parse (oneProgramHeader voteProgramId)
      (oneProgramInstruction 3 [4, 0, 0, 0])
        = .ok (.updateValidatorId ⟨plainKey, plainKey, plainKey⟩) :=
  (@parseVoteInstructions_iff (oneProgramHeader voteProgramId)
    (oneProgramInstruction 3 [4, 0, 0, 0]) (by decide) _).mpr ⟨.inl rfl,
      { data := ⟨leBytes 4 4, [], rfl, leBytes 4 4, [], rfl, rfl, rfl⟩
        accounts := ⟨3, 1, ⟨rfl, rfl⟩, 2, ⟨rfl, rfl⟩, 3, ⟨rfl, rfl⟩, rfl⟩ }⟩

/-! ## Associated token accounts -/

/-- The accounts of a creation; the programs and the rent sysvar are skipped. -/
def SplAssociatedTokenAccountCreateInfo.accounts (create : SplAssociatedTokenAccountCreateInfo) :
    List AccountUse :=
  [.key create.funder, .key create.address, .key create.owner, .key create.mint, .skipped, .skipped,
    .skippedIfAny]

section

variable {header : MessageHeader} {instruction : Instruction}
  (hvalid : instructionValidate instruction header = true)
include hvalid

open SplAssociatedTokenAccountCreateInfo in
theorem formats_parseCreateSplAssociatedTokenAccountInstruction :
    Formats header instruction parseCreateSplAssociatedTokenAccountInstruction (fun _ => True)
      (fun _ => []) accounts := by
  unfold parseCreateSplAssociatedTokenAccountInstruction
  refine .account hvalid funder fun _ => ?_
  refine .account hvalid address fun _ => ?_
  refine .account hvalid owner fun _ => ?_
  refine .account hvalid mint fun _ => .skip hvalid (.skip hvalid (.skipIfAny hvalid ?_))
  exact .pure fun create => by cases create; simp [and_assoc]

/-- **What the parser of the associated token account program accepts**: no data at all, or a tag
and nothing else. -/
theorem parseSplAssociatedTokenAccountInstructions_iff
    {create : SplAssociatedTokenAccountCreateInfo} :
    (parseSplAssociatedTokenAccountInstructions instruction.data.val.length).parse header
        instruction = .ok create ↔
      instruction.data.val ∈ [[], [0], [1]] ∧
        ∃ i, AccountsAt header instruction 0 create.accounts i := by
  have hcreate : ∀ parser, (∃ c, parseCreateSplAssociatedTokenAccountInstruction
      (.place header instruction parser 0) = .ok (create, c)) ↔
      ∃ i, AccountsAt header instruction 0 create.accounts i := fun parser => by
    simp only [Formats.accounts_iff.mp
      (formats_parseCreateSplAssociatedTokenAccountInstruction hvalid), true_and]
    constructor
    · rintro ⟨_, i, -, hi⟩
      exact ⟨i, hi⟩
    · rintro ⟨i, hi⟩
      exact ⟨_, i, rfl, hi⟩
  rw [InstrM.parse_ok_iff, Cursor.place_init]
  unfold parseSplAssociatedTokenAccountInstructions
  rcases instruction.data.val with _ | ⟨kind, _ | ⟨byte, rest⟩⟩
  · rw [List.length_nil, if_pos rfl, hcreate]
    simp
  · have hread : (liftM parseU8 : InstrM UInt8)
        (.place header instruction ⟨instruction.data.addr, [kind]⟩ 0)
          = .ok (kind, .place header instruction ⟨instruction.data.addr + 1, []⟩ 0) := rfl
    rw [List.length_singleton, if_neg Nat.one_ne_zero, step_seq_of_ok hread]
    rcases hkind : kind.toNat with _ | _ | n
    · obtain rfl : kind = 0 := UInt8.toNat_inj.mp hkind
      exact (hcreate ⟨instruction.data.addr + 1, []⟩).trans (by simp)
    · obtain rfl : kind = 1 := UInt8.toNat_inj.mp hkind
      exact (hcreate ⟨instruction.data.addr + 1, []⟩).trans (by simp)
    · refine iff_of_false (fun ⟨c, h⟩ => by cases h) fun ⟨hmem, _⟩ => ?_
      obtain rfl | rfl : kind = 0 ∨ kind = 1 := by simpa using hmem
      · cases hkind
      · cases hkind
  · have hread : (liftM parseU8 : InstrM UInt8)
        (.place header instruction ⟨instruction.data.addr, kind :: byte :: rest⟩ 0)
          = .ok (kind, .place header instruction ⟨instruction.data.addr + 1, byte :: rest⟩ 0) := rfl
    rw [List.length_cons, if_neg (Nat.succ_ne_zero _), step_seq_of_ok hread]
    refine iff_of_false (fun ⟨c, h⟩ => by cases h) (by simp)

end

/-! ## The compute budget -/

/-- The number of a kind. -/
def ComputeBudgetKind.code : ComputeBudgetKind → ℕ
  | requestHeapFrame _ => 1
  | changeUnitLimit _ => 2
  | changeUnitPrice _ => 3
  | setLoadedAccountsDataSizeLimit _ => 4

/-- The field behind it. -/
def ComputeBudgetKind.field : ComputeBudgetKind → WireField
  | requestHeapFrame bytes => .integer 4 bytes.toNat
  | changeUnitLimit units => .integer 4 units.toNat
  | changeUnitPrice units => .integer 8 units.toNat
  | setLoadedAccountsDataSizeLimit units => .integer 4 units.toNat

theorem formats_parseComputeBudgetInstructions {header : MessageHeader}
    {instruction : Instruction} :
    Formats header instruction (parseComputeBudgetInstructions header)
      (fun info => info.signaturesCount = header.pubkeysHeader.numRequiredSignatures.toNat)
      (fun info => [.integer 1 info.kind.code, info.kind.field]) fun _ => [] := by
  unfold parseComputeBudgetInstructions
  refine .congr (?_ : Formats _ _ _ _ (fun info : ComputeBudgetInfo =>
    [.integer 1 (UInt8.ofNat info.kind.code).toNat, info.kind.field]) _) (fun _ => Iff.rfl)
    (fun info _ => ?_) fun _ _ => rfl
  · refine .read (fun info : ComputeBudgetInfo => UInt8.ofNat info.kind.code)
      acceptsField_parseU8 fun code => ?_
    split
    case h_5 =>
      refine .throw _ fun info h => ?_
      obtain ⟨_, rfl⟩ := h
      rcases info with ⟨_ | _ | _ | _, _⟩ <;> contradiction
    case h_1 hcode =>
      obtain rfl : code = 1 := UInt8.toNat_inj.mp hcode
      refine .map (.of_fields acceptsField_parseU32.acceptsFields) fun info => ?_
      rcases info with ⟨_ | _ | _ | _, _⟩ <;> simp [ComputeBudgetKind.code]
    case h_2 hcode =>
      obtain rfl : code = 2 := UInt8.toNat_inj.mp hcode
      refine .map (.of_fields acceptsField_parseU32.acceptsFields) fun info => ?_
      rcases info with ⟨_ | _ | _ | _, _⟩ <;> simp [ComputeBudgetKind.code]
    case h_3 hcode =>
      obtain rfl : code = 3 := UInt8.toNat_inj.mp hcode
      refine .map (.of_fields acceptsField_parseU64.acceptsFields) fun info => ?_
      rcases info with ⟨_ | _ | _ | _, _⟩ <;> simp [ComputeBudgetKind.code]
    case h_4 hcode =>
      obtain rfl : code = 4 := UInt8.toNat_inj.mp hcode
      refine .map (.of_fields acceptsField_parseU32.acceptsFields) fun info => ?_
      rcases info with ⟨_ | _ | _ | _, _⟩ <;> simp [ComputeBudgetKind.code]
  · cases hkind : info.kind <;> rfl

end AgencLedger
