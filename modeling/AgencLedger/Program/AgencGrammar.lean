import AgencLedger.Program.Faultless
import AgencLedger.Sol.Grammar

/-!
# Program/AgencGrammar — the instructions that the parser of the AgenC program accepts

The data of an instruction is a discriminator and the Borsh encoding of its fields, with nothing
behind it; its accounts are as many as the kind has, with the System program at its place.  The
parser accepts these instructions and no others, and gives back the fields and the accounts.
-/

namespace AgencLedger

open Input

/-! ## Borsh -/

/-- A string that a length of four bytes can announce. -/
structure BorshString where
  bytes : List UInt8
  length_lt : bytes.length < 2 ^ 32

/-- The length and the string. -/
def BorshString.encode (string : BorshString) : List UInt8 :=
  leBytes 4 string.bytes.length ++ string.bytes

/-- A tag, and a value behind the tag 1. -/
def borshOption {α : Type} (encode : α → List UInt8) : Option α → List UInt8
  | none => [0]
  | some a => 1 :: encode a

/-- The parsed string refers to these bytes, and has their length. -/
structure SizedString.Represents (s : SizedString) (string : BorshString) : Prop where
  bytes : s.string.val = string.bytes
  length : s.length.toNat = string.bytes.length

section

theorem decodes_integer {α : Type} {step : ParseM α} {n : ℕ} {toNat : α → ℕ}
    (h : Accepts step (integerBytes n toNat)) :
    Decodes step Eq (fun v => leBytes n (toNat v)) fun _ => True :=
  .of_accepts h (fun _ a _ hg => ⟨a, rfl, trivial, hg⟩) fun _ b _ => ⟨b, rfl, rfl⟩

theorem decodes_parseBlock (num : ℕ) :
    Decodes (parseBlock num) (fun p b => p.val = b) (·.data) fun _ => True :=
  .of_accepts (accepts_parseBlock num)
    (fun _ p _ hg => ⟨p.val, rfl, trivial, hg.2.symm⟩) fun n b _ => ⟨⟨n, b⟩, rfl, rfl, rfl⟩

theorem decodes_parseFixedBytes (length : ℕ) :
    Decodes (parseFixedBytes length) (fun p b => p.val = b.data) (fun b : Block length => b.data)
      fun _ => True :=
  .of_accepts (accepts_bytes length)
    (fun _ p w ⟨hlength, hp⟩ => ⟨⟨w, hlength⟩, by rw [hp], trivial, rfl⟩)
    fun n b _ => ⟨⟨n, b.data⟩, rfl, b.size, rfl⟩

theorem decodes_parseBorshString :
    Decodes parseBorshString SizedString.Represents BorshString.encode fun _ => True := by
  have hassoc : parseBorshString = parseU32 >>= fun length =>
      (checkBufferLength length.toNat >>= fun _ => advance length.toNat) >>= fun string =>
        pure ⟨length.toUInt64, string⟩ := by
    simp only [bind_assoc]
    rfl
  rw [hassoc]
  refine .of_accepts (accepts_parseU32.seq fun length =>
    (accepts_bytes length.toNat).seq fun string => .pure _) ?_ ?_
  · rintro n s w ⟨length, u, v, rfl, hu, hv⟩
    obtain ⟨string, rfl, hlength, rfl⟩ := (Grammar.seq_pure _ _).mp hv
    refine ⟨⟨v, hlength ▸ length.toNat_lt⟩, ⟨rfl, ?_⟩, trivial, ?_⟩
    · rw [UInt32.toNat_toUInt64, hlength]
    · change u ++ v = leBytes 4 v.length ++ v
      rw [hlength, ← hu]
  · intro n string _
    have hlength : (UInt32.ofNat string.bytes.length).toNat = string.bytes.length :=
      UInt32.toNat_ofNat_of_lt' string.length_lt
    refine ⟨⟨(UInt32.ofNat string.bytes.length).toUInt64, ⟨n + 4, string.bytes⟩⟩, ⟨rfl, ?_⟩, ?_⟩
    · rw [UInt32.toNat_toUInt64, hlength]
    · refine ⟨UInt32.ofNat string.bytes.length, leBytes 4 string.bytes.length,
        string.bytes, rfl, ?_,
        ?_⟩
      · rw [integerBytes, hlength]
      · refine (Grammar.seq_pure _ _).mpr ⟨_, rfl, hlength.symm, ?_⟩
        rw [length_leBytes]

theorem decodes_parseOption :
    Decodes parseOption Eq (fun some => [if some then 1 else 0]) fun _ => True :=
  .of_accepts accepts_parseOption (fun _ a _ hg => ⟨a, rfl, trivial, hg⟩) fun _ b _ => ⟨b, rfl, rfl⟩

theorem decodes_parseOptionalRef {α β : Type} {step : ParseM α} {rel : α → β → Prop}
    {encode : β → List UInt8} (h : Decodes step rel encode fun _ => True) :
    Decodes (parseOptionalRef step) (Option.Rel rel) (borshOption encode) fun _ => True where
  read := fun {s a s'} hstep => by
    obtain ⟨some, s₁, hoption, hstep⟩ := (Result.step_seq_ok_iff _ _ _ _).mp hstep
    obtain ⟨_, rfl, -, hread⟩ := decodes_parseOption.read hoption
    rcases some with _ | _
    · cases hstep
      exact ⟨none, .none, trivial, hread⟩
    · obtain ⟨v, s₂, hv, hstep⟩ := (Result.step_seq_ok_iff _ _ _ _).mp hstep
      cases hstep
      obtain ⟨b, hrel, -, hread'⟩ := h.read hv
      exact ⟨some b, .some hrel, trivial, reads_append.mpr ⟨s₁, hread, hread'⟩⟩
  write := fun {s b l} _ hl => by
    rcases b with _ | v
    · obtain ⟨_, s₁, hoption, rfl, hrest⟩ := decodes_parseOption.write
        (b := false) (l := l) trivial hl
      exact ⟨none, s₁, (Result.step_seq_ok_iff _ _ _ _).mpr ⟨_, s₁, hoption, rfl⟩, .none, hrest⟩
    · obtain ⟨_, s₁, hoption, rfl, hrest⟩ := decodes_parseOption.write
        (b := true) (l := encode v ++ l) trivial hl
      obtain ⟨a, s₂, ha, hrel, hrest⟩ := h.write trivial hrest
      refine ⟨some a, s₂, (Result.step_seq_ok_iff _ _ _ _).mpr ⟨_, s₁, hoption, ?_⟩, .some hrel,
        hrest⟩
      exact (Result.step_seq_ok_iff _ _ _ _).mpr ⟨a, s₂, ha, rfl⟩

end

/-! ## The kinds -/

/-- What the data of a registered agent holds. -/
structure AgencRegisterAgentFields where
  agentId : Hash
  capabilities : UInt64
  endpoint : BorshString
  metadataUri : Option BorshString
  stakeAmount : UInt64

/-- What the data of a created task holds: the description is a digest and zeros. -/
structure AgencCreateTaskFields where
  taskId : Hash
  requiredCapabilities : UInt64
  description : Block 64
  rewardAmount : UInt64
  maxWorkers : UInt8
  deadline : Int64
  taskType : UInt8
  constraintHash : Option Hash
  minReputation : UInt16
  rewardMint : Option Pubkey
  zeros : ∀ b ∈ description.data.drop 32, b = 0

/-- What the data of a validation config holds. -/
structure AgencConfigureTaskValidationFields where
  mode : UInt8
  reviewWindowSecs : Int64
  validatorQuorum : UInt8
  attestor : Option Pubkey

/-- What the data of a job spec holds. -/
structure AgencSetTaskJobSpecFields where
  jobSpecHash : Hash
  jobSpecUri : BorshString

/-- What the data of a submitted result holds. -/
structure AgencSubmitTaskResultFields where
  proofHash : Hash
  resultData : Option (Block 64)

/-- The fields of an instruction, by kind; four kinds have accounts only. -/
inductive AgencFields
  | registerAgent (fields : AgencRegisterAgentFields)
  | createTask (fields : AgencCreateTaskFields)
  | configureTaskValidation (fields : AgencConfigureTaskValidationFields)
  | setTaskJobSpec (fields : AgencSetTaskJobSpecFields)
  | claimTaskWithJobSpec
  | submitTaskResult (fields : AgencSubmitTaskResultFields)
  | acceptTaskResult
  | rejectTaskResult (rejectionHash : Hash)
  | cancelTask
  | expireClaim

/-! ### Encodings -/

def AgencRegisterAgentFields.encode (fields : AgencRegisterAgentFields) : List UInt8 :=
  [fields.agentId.data, leBytes 8 fields.capabilities.toNat, fields.endpoint.encode,
    borshOption BorshString.encode fields.metadataUri, leBytes 8 fields.stakeAmount.toNat].flatten

def AgencCreateTaskFields.encode (fields : AgencCreateTaskFields) : List UInt8 :=
  [fields.taskId.data, leBytes 8 fields.requiredCapabilities.toNat, fields.description.data,
    leBytes 8 fields.rewardAmount.toNat, leBytes 1 fields.maxWorkers.toNat,
    leBytes 8 fields.deadline.toUInt64.toNat, leBytes 1 fields.taskType.toNat,
    borshOption (·.data) fields.constraintHash, leBytes 2 fields.minReputation.toNat,
    borshOption (·.data) fields.rewardMint].flatten

def AgencConfigureTaskValidationFields.encode (fields : AgencConfigureTaskValidationFields) :
    List UInt8 :=
  [leBytes 1 fields.mode.toNat, leBytes 8 fields.reviewWindowSecs.toUInt64.toNat,
    leBytes 1 fields.validatorQuorum.toNat, borshOption (·.data) fields.attestor].flatten

def AgencSetTaskJobSpecFields.encode (fields : AgencSetTaskJobSpecFields) : List UInt8 :=
  [fields.jobSpecHash.data, fields.jobSpecUri.encode].flatten

def AgencSubmitTaskResultFields.encode (fields : AgencSubmitTaskResultFields) : List UInt8 :=
  [fields.proofHash.data, borshOption (·.data) fields.resultData].flatten

namespace AgencFields

/-- **The Borsh encoding of the fields.** -/
def encode : AgencFields → List UInt8
  | registerAgent fields => fields.encode
  | createTask fields => fields.encode
  | configureTaskValidation fields => fields.encode
  | setTaskJobSpec fields => fields.encode
  | submitTaskResult fields => fields.encode
  | rejectTaskResult rejectionHash => rejectionHash.data
  | claimTaskWithJobSpec | acceptTaskResult | cancelTask | expireClaim => []

/-- The eight bytes in front of them. -/
def discriminator : AgencFields → List UInt8
  | registerAgent _ => [0x87, 0x9d, 0x42, 0xc3, 0x02, 0x71, 0xaf, 0x1e]
  | createTask _ => [0xc2, 0x50, 0x06, 0xb4, 0xe8, 0x7f, 0x30, 0xab]
  | configureTaskValidation _ => [0x0b, 0x4f, 0x13, 0xbc, 0x0d, 0x20, 0xf4, 0x5a]
  | setTaskJobSpec _ => [0x86, 0x66, 0x66, 0x56, 0x1f, 0xa4, 0xca, 0xc1]
  | claimTaskWithJobSpec => [0xe6, 0x28, 0x6b, 0x6d, 0xd0, 0xe4, 0xaf, 0x1f]
  | submitTaskResult _ => [0x27, 0x6c, 0x4a, 0x04, 0x42, 0x7d, 0x9d, 0x07]
  | acceptTaskResult => [0x59, 0xe6, 0x33, 0x19, 0x00, 0xdb, 0x05, 0x89]
  | rejectTaskResult _ => [0x90, 0x07, 0x3a, 0xe8, 0x9d, 0xa7, 0x55, 0xd6]
  | cancelTask => [0x45, 0xe4, 0x86, 0xbb, 0x86, 0x69, 0xee, 0x30]
  | expireClaim => [0xb0, 0x4e, 0xf1, 0x1d, 0x9f, 0x51, 0x1a, 0x06]

/-- How many accounts the kind has. -/
def accountsLengths : AgencFields → List ℕ
  | registerAgent _ => [4]
  | createTask _ => [13]
  | configureTaskValidation _ => [7]
  | setTaskJobSpec _ => [9]
  | claimTaskWithJobSpec => [10]
  | submitTaskResult _ => [8]
  | acceptTaskResult => [21]
  | rejectTaskResult _ => [11]
  | cancelTask => [15, 18]
  | expireClaim => [14]

/-- Where the System program stands among them. -/
def systemProgramIndex : AgencFields → ℕ
  | registerAgent _ => 3
  | createTask _ => 7
  | configureTaskValidation _ => 6
  | setTaskJobSpec _ => 8
  | claimTaskWithJobSpec => 9
  | submitTaskResult _ => 7
  | acceptTaskResult => 20
  | rejectTaskResult _ => 9
  | cancelTask => 4
  | expireClaim => 13

theorem length_discriminator (f : AgencFields) : f.discriminator.length = 8 := by
  cases f <;> rfl

/-- The discriminator as it stands in the data. -/
def discriminatorBlock (f : AgencFields) : Block 8 := ⟨f.discriminator, f.length_discriminator⟩

end AgencFields

/-! ### Parsed records -/

section

variable (account : ℕ → Option (Ptr Pubkey))

/-- The keys are those of the accounts at these positions. -/
def AreAccounts (keys : List (Ptr Pubkey)) (positions : List ℕ) : Prop :=
  keys.map some = positions.map account

structure AgencRegisterAgentInfo.Represents (info : AgencRegisterAgentInfo)
    (fields : AgencRegisterAgentFields) : Prop where
  accounts : AreAccounts account
    [info.agent, info.protocolConfig, info.authority, info.systemProgram] [0, 1, 2, 3]
  agentId : info.agentId.val = fields.agentId
  capabilities : info.capabilities = fields.capabilities
  endpoint : info.endpoint.Represents fields.endpoint
  metadataUri : Option.Rel SizedString.Represents info.metadataUri fields.metadataUri
  stakeAmount : info.stakeAmount = fields.stakeAmount

structure AgencCreateTaskInfo.Represents (info : AgencCreateTaskInfo)
    (fields : AgencCreateTaskFields) : Prop where
  accounts : AreAccounts account
    [info.task, info.escrow, info.protocolConfig, info.creatorAgent, info.authorityRateLimit,
      info.authority, info.creator, info.systemProgram] [0, 1, 2, 3, 4, 5, 6, 7]
  taskId : info.taskId.val = fields.taskId
  requiredCapabilities : info.requiredCapabilities = fields.requiredCapabilities
  description : info.description.val = fields.description.data
  descriptionCommitment : info.descriptionCommitment.val.data = fields.description.data.take 32
  rewardAmount : info.rewardAmount = fields.rewardAmount
  maxWorkers : info.maxWorkers = fields.maxWorkers
  deadline : info.deadline = fields.deadline
  taskType : info.taskType = fields.taskType
  constraintHash : Option.Rel (fun p b => p.val = b) info.constraintHash fields.constraintHash
  minReputation : info.minReputation = fields.minReputation
  rewardMint : Option.Rel (fun p b => p.val = b) info.rewardMint fields.rewardMint

structure AgencConfigureTaskValidationInfo.Represents (info : AgencConfigureTaskValidationInfo)
    (fields : AgencConfigureTaskValidationFields) : Prop where
  accounts : AreAccounts account
    [info.task, info.taskValidationConfig, info.taskAttestorConfig, info.protocolConfig,
      info.hireRecord, info.creator, info.systemProgram] [0, 1, 2, 3, 4, 5, 6]
  mode : info.mode = fields.mode
  reviewWindowSecs : info.reviewWindowSecs = fields.reviewWindowSecs
  validatorQuorum : info.validatorQuorum = fields.validatorQuorum
  attestor : Option.Rel (fun p b => p.val = b) info.attestor fields.attestor

structure AgencSetTaskJobSpecInfo.Represents (info : AgencSetTaskJobSpecInfo)
    (fields : AgencSetTaskJobSpecFields) : Prop where
  accounts : AreAccounts account
    [info.protocolConfig, info.task, info.moderationConfig, info.taskModeration,
      info.moderationAttestor, info.moderationBlock, info.taskJobSpec, info.creator,
      info.systemProgram] [0, 1, 2, 3, 4, 5, 6, 7, 8]
  jobSpecHash : info.jobSpecHash.val = fields.jobSpecHash
  jobSpecUri : info.jobSpecUri.Represents fields.jobSpecUri

structure AgencSubmitTaskResultInfo.Represents (info : AgencSubmitTaskResultInfo)
    (fields : AgencSubmitTaskResultFields) : Prop where
  accounts : AreAccounts account
    [info.task, info.claim, info.taskValidationConfig, info.taskSubmission, info.protocolConfig,
      info.worker, info.authority, info.systemProgram] [0, 1, 2, 3, 4, 5, 6, 7]
  proofHash : info.proofHash.val = fields.proofHash
  resultData : Option.Rel (fun p b => p.val = b.data) info.resultData fields.resultData
  artifactHash : info.artifactHash =
    fields.resultData.bind fun resultData => decodeArtifactResultHash resultData.data

structure AgencRejectTaskResultInfo.Represents (info : AgencRejectTaskResultInfo)
    (rejectionHash : Hash) : Prop where
  accounts : AreAccounts account
    [info.task, info.claim, info.taskValidationConfig, info.taskSubmission, info.worker,
      info.protocolConfig, info.creator, info.workerAuthority, info.agentStats,
      info.systemProgram, info.workerCompletionBond] [0, 1, 2, 3, 4, 5, 6, 7, 8, 9, 10]
  rejectionHash : info.rejectionHash.val = rejectionHash

/-- **The parsed record is that of the fields**, with the keys of the accounts at their places. -/
def AgencBody.Represents (accountsLength : ℕ) : AgencBody → AgencFields → Prop
  | registerAgent info, .registerAgent fields => info.Represents account fields
  | createTask info, .createTask fields => info.Represents account fields
  | configureTaskValidation info, .configureTaskValidation fields => info.Represents account fields
  | setTaskJobSpec info, .setTaskJobSpec fields => info.Represents account fields
  | claimTaskWithJobSpec info, .claimTaskWithJobSpec => AreAccounts account
      [info.task, info.taskJobSpec, info.hireRecord, info.legacyListing, info.moderationBlock,
        info.claim, info.protocolConfig, info.worker, info.authority, info.systemProgram]
      [0, 1, 2, 3, 4, 5, 6, 7, 8, 9]
  | submitTaskResult info, .submitTaskResult fields => info.Represents account fields
  | acceptTaskResult info, .acceptTaskResult => AreAccounts account
      [info.task, info.claim, info.escrow, info.taskValidationConfig, info.taskSubmission,
        info.worker, info.protocolConfig, info.treasury, info.creator, info.workerAuthority,
        info.hireRecord, info.operator, info.referrer, info.creatorCompletionBond,
        info.workerCompletionBond, info.systemProgram]
      [0, 1, 2, 3, 4, 5, 6, 7, 8, 9, 10, 11, 12, 13, 14, 20]
  | rejectTaskResult info, .rejectTaskResult rejectionHash => info.Represents account rejectionHash
  | cancelTask info, .cancelTask => AreAccounts account
      [info.task, info.escrow, info.authority, info.protocolConfig, info.systemProgram]
      [0, 1, 2, 3, 4] ∧ info.workerAccountCount = (accountsLength - 15) / 3
  | expireClaim info, .expireClaim => AreAccounts account
      [info.authority, info.task, info.escrow, info.claim, info.worker, info.protocolConfig,
        info.taskValidationConfig, info.taskSubmission, info.rentRecipient,
        info.workerCompletionBond, info.bondCreator, info.agentStats, info.treasury,
        info.systemProgram] [0, 1, 2, 3, 4, 5, 6, 7, 8, 9, 10, 11, 12, 13]
  | _, _ => False

end

/-! ## Accounts -/

section

variable {instruction : Instruction} {header : MessageHeader}

/-- The key of an account, wherever there is one. -/
def accountKey (instruction : Instruction) (header : MessageHeader) (i : ℕ) : Ptr Pubkey :=
  (instructionAccount header instruction i).getD ⟨0, Block.zero 32⟩

theorem instructionAccount_of_lt (hvalid : instructionValidate instruction header = true) {i : ℕ}
    (h : i < instruction.accounts.val.length) :
    instructionAccount header instruction i = some (accountKey instruction header i) := by
  have hkey := (instructionValidate_iff.mp hvalid).2 _ (List.getElem_mem h)
  rw [accountKey, instructionAccount, List.getElem?_eq_getElem h, Option.bind_some,
    List.getElem?_eq_getElem hkey, Option.getD_some]

theorem accountAt_of_lt (hvalid : instructionValidate instruction header = true) {i : ℕ}
    (h : i < instruction.accounts.val.length) :
    accountAt instruction header i = pure (accountKey instruction header i) := by
  have hkey := (instructionValidate_iff.mp hvalid).2 _ (List.getElem_mem h)
  rw [accountKey, instructionAccount, accountAt, List.getElem?_eq_getElem h, Option.bind_some,
    List.getElem?_eq_getElem hkey, Option.getD_some]
  dsimp only
  rw [List.getElem?_eq_getElem hkey]

theorem parseBailIf_true : parseBailIf true = throw .bail := rfl

theorem parseBailIf_false : parseBailIf false = pure () := rfl

theorem ParseM.throw_bind {α β : Type} (stop : Stop) (next : α → ParseM β) :
    (throw stop : ParseM α) >>= next = throw stop := rfl

theorem systemProgramAt_of_lt (hvalid : instructionValidate instruction header = true) {i : ℕ}
    (h : i < instruction.accounts.val.length) :
    systemProgramAt instruction header i =
      if (accountKey instruction header i).val = systemProgramId then
        pure (accountKey instruction header i) else throw .bail := by
  rw [systemProgramAt, accountAt_of_lt hvalid h, pure_bind]
  split
  · rw [decide_eq_false (not_not_intro ‹_›), parseBailIf_false, pure_bind]
  · rw [decide_eq_true ‹_›, parseBailIf_true, ParseM.throw_bind]

theorem areAccounts_map (hvalid : instructionValidate instruction header = true)
    {keys : List (Ptr Pubkey)} {positions : List ℕ}
    (hkeys : keys = positions.map (accountKey instruction header))
    (h : ∀ i ∈ positions, i < instruction.accounts.val.length) :
    AreAccounts (instructionAccount header instruction) keys positions := by
  rw [hkeys, AreAccounts, List.map_map]
  exact List.map_congr_left fun i hi => (instructionAccount_of_lt hvalid (h i hi)).symm

/-- The accounts are as the kind of the fields has them. -/
def AgencFields.AccountsFit (fields : AgencFields) (instruction : Instruction)
    (header : MessageHeader) : Prop :=
  instruction.accounts.val.length ∈ fields.accountsLengths ∧
    (instructionAccount header instruction fields.systemProgramIndex).map (·.val)
      = some systemProgramId

theorem accountsLengthIs_of_eq {n : ℕ} (h : instruction.accounts.val.length = n) :
    accountsLengthIs instruction n = pure () := by
  rw [accountsLengthIs, decide_eq_false (not_not_intro h), parseBailIf_false]

theorem accountsLengthIs_of_ne {n : ℕ} (h : instruction.accounts.val.length ≠ n) :
    accountsLengthIs instruction n = throw .bail := by
  rw [accountsLengthIs, decide_eq_true h, parseBailIf_true]

/-- A parser that refuses other accounts, and decodes the data where they fit. -/
theorem decodes_of_accounts {α β : Type} {step : ParseM α} {rel : α → β → Prop}
    {enc : β → List UInt8} {fit : Prop} {k : ℕ} (hlength : ¬fit → step = throw .bail)
    (hsystem : fit → (accountKey instruction header k).val ≠ systemProgramId →
      step = throw .bail)
    (hfit : fit → (accountKey instruction header k).val = systemProgramId →
      Decodes step rel enc fun _ => True) :
    Decodes step rel enc fun _ =>
      fit ∧ (accountKey instruction header k).val = systemProgramId := by
  by_cases hn : fit
  · by_cases hk : (accountKey instruction header k).val = systemProgramId
    · exact (hfit hn hk).congr (fun _ _ => rfl) fun _ =>
        ⟨fun _ => ⟨hn, hk⟩, fun _ => trivial⟩
    · rw [hsystem hn hk]
      exact .throw _ fun _ h => hk h.2
  · rw [hlength hn]
    exact .throw _ fun _ h => hn h.1

/-! ## Bodies -/

section

variable (hvalid : instructionValidate instruction header = true)
include hvalid

open AgencRegisterAgentFields in
theorem decodes_parseRegisterAgent :
    Decodes (parseRegisterAgent instruction header)
      (AgencRegisterAgentInfo.Represents (instructionAccount header instruction))
      AgencRegisterAgentFields.encode fun _ => instruction.accounts.val.length = 4 ∧
        (accountKey instruction header 3).val = systemProgramId := by
  unfold parseRegisterAgent
  refine decodes_of_accounts (fun hn => ?_) (fun hn hk => ?_) fun hn hk => ?_
  · simp only [accountsLengthIs_of_ne hn, ParseM.throw_bind]
  · simp (disch := omega) only [accountsLengthIs_of_eq hn, accountAt_of_lt hvalid,
      systemProgramAt_of_lt hvalid, if_neg hk, pure_bind, ParseM.throw_bind]
  simp (disch := omega) only [accountsLengthIs_of_eq hn, accountAt_of_lt hvalid,
    systemProgramAt_of_lt hvalid, if_pos hk, pure_bind]
  refine (decodes_parseBlock 32).seq agentId (fun _ _ => trivial) fun _ _ hagentId _ => ?_
  refine (decodes_integer accepts_parseU64).seq capabilities (fun _ _ => trivial)
    fun _ _ hcapabilities _ => ?_
  refine decodes_parseBorshString.seq endpoint (fun _ _ => trivial) fun _ _ hendpoint _ => ?_
  refine (decodes_parseOptionalRef decodes_parseBorshString).seq metadataUri
    (fun _ _ => trivial) fun _ _ hmetadataUri _ => ?_
  refine (decodes_integer accepts_parseU64).seq stakeAmount (fun _ _ => trivial)
    fun _ _ hstakeAmount _ => ?_
  refine .pure (b := ⟨_, _, _, _, _⟩) ⟨⟨⟨⟨⟨trivial, rfl⟩, rfl⟩, rfl⟩, rfl⟩, rfl⟩
    ⟨areAccounts_map hvalid rfl (by simp [hn]), hagentId, hcapabilities, hendpoint, hmetadataUri,
      hstakeAmount⟩ ?_
  rintro ⟨_, _, _, _, _⟩ ⟨⟨⟨⟨⟨-, rfl⟩, rfl⟩, rfl⟩, rfl⟩, rfl⟩
  rfl

open AgencCreateTaskFields in
theorem decodes_parseCreateTask :
    Decodes (parseCreateTask instruction header)
      (AgencCreateTaskInfo.Represents (instructionAccount header instruction))
      AgencCreateTaskFields.encode fun _ => instruction.accounts.val.length = 13 ∧
        (accountKey instruction header 7).val = systemProgramId := by
  unfold parseCreateTask
  refine decodes_of_accounts (fun hn => ?_) (fun hn hk => ?_) fun hn hk => ?_
  · simp only [accountsLengthIs_of_ne hn, ParseM.throw_bind]
  · simp (disch := omega) only [accountsLengthIs_of_eq hn, accountAt_of_lt hvalid,
      systemProgramAt_of_lt hvalid, if_neg hk, pure_bind, ParseM.throw_bind]
  simp (disch := omega) only [accountsLengthIs_of_eq hn, accountAt_of_lt hvalid,
    systemProgramAt_of_lt hvalid, if_pos hk, pure_bind]
  refine (decodes_parseBlock 32).seq taskId (fun _ _ => trivial) fun _ _ htaskId _ => ?_
  refine (decodes_integer accepts_parseU64).seq requiredCapabilities (fun _ _ => trivial)
    fun _ _ hrequiredCapabilities _ => ?_
  refine (decodes_parseFixedBytes 64).seq description (fun _ _ => trivial)
    fun p b hdescription _ => ?_
  -- a description with something behind the digest is refused, and is that of no fields
  by_cases hzeros : ∀ byte ∈ b.data.drop 32, byte = 0
  swap
  · have hbail : (p.val.drop 32).any (fun b => decide (b ≠ 0)) = true := by
      rw [hdescription]
      simpa using hzeros
    rw [hbail, parseBailIf_true, ParseM.throw_bind]
    refine .throw _ fun fields hfields => hzeros ?_
    rw [← hfields.2]
    exact fields.zeros
  have hpass : (p.val.drop 32).any (fun b => decide (b ≠ 0)) = false := by
    rw [hdescription]
    simpa using hzeros
  rw [hpass, parseBailIf_false, pure_bind]
  refine (decodes_integer accepts_parseU64).seq rewardAmount (fun _ _ => trivial)
    fun _ _ hrewardAmount _ => ?_
  refine (decodes_integer accepts_parseU8).seq maxWorkers (fun _ _ => trivial)
    fun _ _ hmaxWorkers _ => ?_
  refine (decodes_integer accepts_parseI64).seq deadline (fun _ _ => trivial)
    fun _ _ hdeadline _ => ?_
  refine (decodes_integer accepts_parseU8).seq taskType (fun _ _ => trivial)
    fun _ _ htaskType _ => ?_
  refine (decodes_parseOptionalRef (decodes_parseBlock 32)).seq constraintHash
    (fun _ _ => trivial) fun _ _ hconstraintHash _ => ?_
  refine (decodes_integer accepts_parseU16).seq minReputation (fun _ _ => trivial)
    fun _ _ hminReputation _ => ?_
  refine (decodes_parseOptionalRef (decodes_parseBlock 32)).seq rewardMint
    (fun _ _ => trivial) fun _ _ hrewardMint _ => ?_
  refine .pure (b := ⟨_, _, _, _, _, _, _, _, _, _, hzeros⟩)
    ⟨⟨⟨⟨⟨⟨⟨⟨⟨⟨trivial, rfl⟩, rfl⟩, rfl⟩, rfl⟩, rfl⟩, rfl⟩, rfl⟩, rfl⟩, rfl⟩, rfl⟩
    ⟨areAccounts_map hvalid rfl (by simp [hn]), htaskId, hrequiredCapabilities, hdescription, ?_,
      hrewardAmount, hmaxWorkers, hdeadline, htaskType, hconstraintHash, hminReputation,
      hrewardMint⟩ ?_
  · rw [Block.ofBytes_data (by rw [hdescription, b.size]; decide), hdescription]
  · rintro ⟨_, _, _, _, _, _, _, _, _, _, _⟩
      ⟨⟨⟨⟨⟨⟨⟨⟨⟨⟨-, rfl⟩, rfl⟩, rfl⟩, rfl⟩, rfl⟩, rfl⟩, rfl⟩, rfl⟩, rfl⟩, rfl⟩
    rfl

open AgencConfigureTaskValidationFields in
theorem decodes_parseConfigureTaskValidation :
    Decodes (parseConfigureTaskValidation instruction header)
      (AgencConfigureTaskValidationInfo.Represents (instructionAccount header instruction))
      AgencConfigureTaskValidationFields.encode fun _ => instruction.accounts.val.length = 7 ∧
        (accountKey instruction header 6).val = systemProgramId := by
  unfold parseConfigureTaskValidation
  refine decodes_of_accounts (fun hn => ?_) (fun hn hk => ?_) fun hn hk => ?_
  · simp only [accountsLengthIs_of_ne hn, ParseM.throw_bind]
  · simp (disch := omega) only [accountsLengthIs_of_eq hn, accountAt_of_lt hvalid,
      systemProgramAt_of_lt hvalid, if_neg hk, pure_bind, ParseM.throw_bind]
  simp (disch := omega) only [accountsLengthIs_of_eq hn, accountAt_of_lt hvalid,
    systemProgramAt_of_lt hvalid, if_pos hk, pure_bind]
  refine (decodes_integer accepts_parseU8).seq mode (fun _ _ => trivial) fun _ _ hmode _ => ?_
  refine (decodes_integer accepts_parseI64).seq reviewWindowSecs (fun _ _ => trivial)
    fun _ _ hreviewWindowSecs _ => ?_
  refine (decodes_integer accepts_parseU8).seq validatorQuorum (fun _ _ => trivial)
    fun _ _ hvalidatorQuorum _ => ?_
  refine (decodes_parseOptionalRef (decodes_parseBlock 32)).seq attestor (fun _ _ => trivial)
    fun _ _ hattestor _ => ?_
  refine .pure (b := ⟨_, _, _, _⟩) ⟨⟨⟨⟨trivial, rfl⟩, rfl⟩, rfl⟩, rfl⟩
    ⟨areAccounts_map hvalid rfl (by simp [hn]), hmode, hreviewWindowSecs, hvalidatorQuorum,
      hattestor⟩ ?_
  rintro ⟨_, _, _, _⟩ ⟨⟨⟨⟨-, rfl⟩, rfl⟩, rfl⟩, rfl⟩
  rfl

open AgencSetTaskJobSpecFields in
theorem decodes_parseSetTaskJobSpec :
    Decodes (parseSetTaskJobSpec instruction header)
      (AgencSetTaskJobSpecInfo.Represents (instructionAccount header instruction))
      AgencSetTaskJobSpecFields.encode fun _ => instruction.accounts.val.length = 9 ∧
        (accountKey instruction header 8).val = systemProgramId := by
  unfold parseSetTaskJobSpec
  refine decodes_of_accounts (fun hn => ?_) (fun hn hk => ?_) fun hn hk => ?_
  · simp only [accountsLengthIs_of_ne hn, ParseM.throw_bind]
  · simp (disch := omega) only [accountsLengthIs_of_eq hn, accountAt_of_lt hvalid,
      systemProgramAt_of_lt hvalid, if_neg hk, pure_bind, ParseM.throw_bind]
  simp (disch := omega) only [accountsLengthIs_of_eq hn, accountAt_of_lt hvalid,
    systemProgramAt_of_lt hvalid, if_pos hk, pure_bind]
  refine (decodes_parseBlock 32).seq jobSpecHash (fun _ _ => trivial)
    fun _ _ hjobSpecHash _ => ?_
  refine decodes_parseBorshString.seq jobSpecUri (fun _ _ => trivial) fun _ _ hjobSpecUri _ => ?_
  refine .pure (b := ⟨_, _⟩) ⟨⟨trivial, rfl⟩, rfl⟩
    ⟨areAccounts_map hvalid rfl (by simp [hn]), hjobSpecHash, hjobSpecUri⟩ ?_
  rintro ⟨_, _⟩ ⟨⟨-, rfl⟩, rfl⟩
  rfl

open AgencSubmitTaskResultFields in
theorem decodes_parseSubmitTaskResult :
    Decodes (parseSubmitTaskResult instruction header)
      (AgencSubmitTaskResultInfo.Represents (instructionAccount header instruction))
      AgencSubmitTaskResultFields.encode fun _ => instruction.accounts.val.length = 8 ∧
        (accountKey instruction header 7).val = systemProgramId := by
  unfold parseSubmitTaskResult
  refine decodes_of_accounts (fun hn => ?_) (fun hn hk => ?_) fun hn hk => ?_
  · simp only [accountsLengthIs_of_ne hn, ParseM.throw_bind]
  · simp (disch := omega) only [accountsLengthIs_of_eq hn, accountAt_of_lt hvalid,
      systemProgramAt_of_lt hvalid, if_neg hk, pure_bind, ParseM.throw_bind]
  simp (disch := omega) only [accountsLengthIs_of_eq hn, accountAt_of_lt hvalid,
    systemProgramAt_of_lt hvalid, if_pos hk, pure_bind]
  refine (decodes_parseBlock 32).seq proofHash (fun _ _ => trivial) fun _ _ hproofHash _ => ?_
  refine (decodes_parseOptionalRef (decodes_parseFixedBytes 64)).seq resultData
    (fun _ _ => trivial) fun _ _ hresultData _ => ?_
  refine .pure (b := ⟨_, _⟩) ⟨⟨trivial, rfl⟩, rfl⟩
    ⟨areAccounts_map hvalid rfl (by simp [hn]), hproofHash, hresultData, ?_⟩ ?_
  · rcases hresultData with hval | _
    · simp only [Option.bind_some, hval]
    · rfl
  · rintro ⟨_, _⟩ ⟨⟨-, rfl⟩, rfl⟩
    rfl

theorem decodes_parseRejectTaskResult :
    Decodes (parseRejectTaskResult instruction header)
      (AgencRejectTaskResultInfo.Represents (instructionAccount header instruction))
      (·.data) fun _ => instruction.accounts.val.length = 11 ∧
        (accountKey instruction header 9).val = systemProgramId := by
  unfold parseRejectTaskResult
  refine decodes_of_accounts (fun hn => ?_) (fun hn hk => ?_) fun hn hk => ?_
  · simp only [accountsLengthIs_of_ne hn, ParseM.throw_bind]
  · simp (disch := omega) only [accountsLengthIs_of_eq hn, accountAt_of_lt hvalid,
      systemProgramAt_of_lt hvalid, if_neg hk, pure_bind, ParseM.throw_bind]
  simp (disch := omega) only [accountsLengthIs_of_eq hn, accountAt_of_lt hvalid,
    systemProgramAt_of_lt hvalid, if_pos hk, pure_bind]
  have hsame : ∀ b : Hash, (id b).data = b.data := fun _ => rfl
  exact (decodes_parseBlock 32).map (fun _ _ hrejectionHash =>
    ⟨areAccounts_map hvalid rfl (by simp [hn]), hrejectionHash⟩) hsame
    fun b => ⟨fun _ => ⟨b, rfl, trivial⟩, fun _ => trivial⟩

theorem decodes_parseClaimTaskWithJobSpec :
    Decodes (parseClaimTaskWithJobSpec instruction header) (fun info (_ : Unit) =>
      (AgencBody.claimTaskWithJobSpec info).Represents (instructionAccount header instruction)
        instruction.accounts.val.length .claimTaskWithJobSpec)
      (fun _ => []) fun _ => instruction.accounts.val.length = 10 ∧
        (accountKey instruction header 9).val = systemProgramId := by
  unfold parseClaimTaskWithJobSpec
  refine decodes_of_accounts (fun hn => ?_) (fun hn hk => ?_) fun hn hk => ?_
  · simp only [accountsLengthIs_of_ne hn, ParseM.throw_bind]
  · simp (disch := omega) only [accountsLengthIs_of_eq hn, accountAt_of_lt hvalid,
      systemProgramAt_of_lt hvalid, if_neg hk, pure_bind, ParseM.throw_bind]
  simp (disch := omega) only [accountsLengthIs_of_eq hn, accountAt_of_lt hvalid,
    systemProgramAt_of_lt hvalid, if_pos hk, pure_bind]
  exact .pure (b := ()) trivial (areAccounts_map hvalid rfl (by simp [hn])) fun _ _ => rfl

theorem decodes_parseAcceptTaskResult :
    Decodes (parseAcceptTaskResult instruction header) (fun info (_ : Unit) =>
      (AgencBody.acceptTaskResult info).Represents (instructionAccount header instruction)
        instruction.accounts.val.length .acceptTaskResult)
      (fun _ => []) fun _ => instruction.accounts.val.length = 21 ∧
        (accountKey instruction header 20).val = systemProgramId := by
  unfold parseAcceptTaskResult
  refine decodes_of_accounts (fun hn => ?_) (fun hn hk => ?_) fun hn hk => ?_
  · simp only [accountsLengthIs_of_ne hn, ParseM.throw_bind]
  · simp (disch := omega) only [accountsLengthIs_of_eq hn, accountAt_of_lt hvalid,
      systemProgramAt_of_lt hvalid, if_neg hk, pure_bind, ParseM.throw_bind]
  simp (disch := omega) only [accountsLengthIs_of_eq hn, accountAt_of_lt hvalid,
    systemProgramAt_of_lt hvalid, if_pos hk, pure_bind]
  exact .pure (b := ()) trivial (areAccounts_map hvalid rfl (by simp [hn])) fun _ _ => rfl

theorem decodes_parseExpireClaim :
    Decodes (parseExpireClaim instruction header) (fun info (_ : Unit) =>
      (AgencBody.expireClaim info).Represents (instructionAccount header instruction)
        instruction.accounts.val.length .expireClaim)
      (fun _ => []) fun _ => instruction.accounts.val.length = 14 ∧
        (accountKey instruction header 13).val = systemProgramId := by
  unfold parseExpireClaim
  refine decodes_of_accounts (fun hn => ?_) (fun hn hk => ?_) fun hn hk => ?_
  · simp only [accountsLengthIs_of_ne hn, ParseM.throw_bind]
  · simp (disch := omega) only [accountsLengthIs_of_eq hn, accountAt_of_lt hvalid,
      systemProgramAt_of_lt hvalid, if_neg hk, pure_bind, ParseM.throw_bind]
  simp (disch := omega) only [accountsLengthIs_of_eq hn, accountAt_of_lt hvalid,
    systemProgramAt_of_lt hvalid, if_pos hk, pure_bind]
  exact .pure (b := ()) trivial (areAccounts_map hvalid rfl (by simp [hn])) fun _ _ => rfl

/-- Fifteen accounts, or a worker's three behind them. -/
theorem decodes_parseCancelTask :
    Decodes (parseCancelTask instruction header) (fun info (_ : Unit) =>
      (AgencBody.cancelTask info).Represents (instructionAccount header instruction)
        instruction.accounts.val.length .cancelTask)
      (fun _ => []) fun _ => (instruction.accounts.val.length = 15 ∨
        instruction.accounts.val.length = 18) ∧
        (accountKey instruction header 4).val = systemProgramId := by
  unfold parseCancelTask
  dsimp only
  refine decodes_of_accounts (fun hn => ?_) (fun hn hk => ?_) fun hn hk => ?_
  · by_cases hlow : instruction.accounts.val.length < 15
    · rw [decide_eq_true hlow, parseBailIf_true, ParseM.throw_bind]
    by_cases hhigh : instruction.accounts.val.length > 15 + 3
    · rw [decide_eq_false hlow, parseBailIf_false, pure_bind, decide_eq_true hhigh,
        parseBailIf_true, ParseM.throw_bind]
    have hmod : (instruction.accounts.val.length - 15) % 3 ≠ 0 := by omega
    rw [decide_eq_false hlow, parseBailIf_false, pure_bind, decide_eq_false hhigh,
      parseBailIf_false, pure_bind, decide_eq_true hmod, parseBailIf_true, ParseM.throw_bind]
  all_goals
    have hlow : decide (instruction.accounts.val.length < 15) = false :=
      decide_eq_false (by omega)
    have hhigh : decide (instruction.accounts.val.length > 15 + 3) = false :=
      decide_eq_false (by omega)
    have hmod : decide ((instruction.accounts.val.length - 15) % 3 ≠ 0) = false :=
      decide_eq_false (by omega)
    rw [hlow, hhigh, hmod]
  · simp (disch := omega) only [parseBailIf_false, accountAt_of_lt hvalid,
      systemProgramAt_of_lt hvalid, if_neg hk, pure_bind, ParseM.throw_bind]
  · simp (disch := omega) only [parseBailIf_false, accountAt_of_lt hvalid,
      systemProgramAt_of_lt hvalid, if_pos hk, pure_bind]
    refine .pure (b := ()) trivial ⟨areAccounts_map hvalid rfl fun i hi => ?_, rfl⟩ fun _ _ => rfl
    simp only [List.mem_cons, List.not_mem_nil, or_false] at hi
    omega

/-! ## The discriminator -/

/-- The accounts fit, told by the keys that are read of them. -/
theorem accountsFit_iff (fields : AgencFields) :
    fields.AccountsFit instruction header ↔
      instruction.accounts.val.length ∈ fields.accountsLengths ∧
        (accountKey instruction header fields.systemProgramIndex).val = systemProgramId := by
  refine and_congr_right fun h => ?_
  have hlt : fields.systemProgramIndex < instruction.accounts.val.length := by
    cases fields <;>
      simp only [AgencFields.accountsLengths, AgencFields.systemProgramIndex, List.mem_cons,
        List.not_mem_nil, or_false] at h ⊢ <;> omega
  rw [instructionAccount_of_lt hvalid hlt, Option.map_some, Option.some_inj]

/-- A kind of body, behind its discriminator. -/
theorem decodes_kind {α β : Type} {step : ParseM α} {rel : α → β → Prop} {enc : β → List UInt8}
    {fit : Prop} {discriminator : List UInt8} (h : Decodes step rel enc fun _ => fit)
    (body : α → AgencBody) (fields : β → AgencFields)
    (hrel : ∀ a b, rel a b → (body a).Represents (instructionAccount header instruction)
      instruction.accounts.val.length (fields b))
    (henc : ∀ b, (fields b).encode = enc b)
    (hfit : ∀ b, instruction.accounts.val.length ∈ (fields b).accountsLengths ∧
      (accountKey instruction header (fields b).systemProgramIndex).val = systemProgramId ↔ fit)
    (hdiscriminator : ∀ f : AgencFields, f.discriminator = discriminator ↔ ∃ b, fields b = f) :
    Decodes (step >>= fun a => pure (body a))
      (AgencBody.Represents (instructionAccount header instruction)
        instruction.accounts.val.length) AgencFields.encode
      fun f => f.AccountsFit instruction header ∧ f.discriminator = discriminator := by
  refine h.map hrel henc fun f => ?_
  rw [hdiscriminator f]
  constructor
  · rintro ⟨haccounts, b, rfl⟩
    exact ⟨b, rfl, (hfit b).mp ((accountsFit_iff hvalid _).mp haccounts)⟩
  · rintro ⟨b, rfl, hok⟩
    exact ⟨(accountsFit_iff hvalid _).mpr ((hfit b).mpr hok), b, rfl⟩

/-- **The body behind a discriminator**: the fields of that kind, on accounts that fit. -/
theorem decodes_parseAgencBody (discriminator : List UInt8) :
    Decodes (parseAgencBody instruction header discriminator)
      (AgencBody.Represents (instructionAccount header instruction)
        instruction.accounts.val.length) AgencFields.encode
      fun f => f.AccountsFit instruction header ∧ f.discriminator = discriminator := by
  unfold parseAgencBody
  split
  · subst discriminator
    exact decodes_kind hvalid (decodes_parseRegisterAgent hvalid) .registerAgent .registerAgent
      (fun _ _ h => h) (fun _ => rfl) (fun _ => and_congr_left' List.mem_singleton) fun f => by
        cases f <;> simp [AgencFields.discriminator]
  split
  · subst discriminator
    exact decodes_kind hvalid (decodes_parseCreateTask hvalid) .createTask .createTask
      (fun _ _ h => h) (fun _ => rfl) (fun _ => and_congr_left' List.mem_singleton) fun f => by
        cases f <;> simp [AgencFields.discriminator]
  split
  · subst discriminator
    exact decodes_kind hvalid (decodes_parseConfigureTaskValidation hvalid)
      .configureTaskValidation .configureTaskValidation
      (fun _ _ h => h) (fun _ => rfl) (fun _ => and_congr_left' List.mem_singleton) fun f => by
        cases f <;> simp [AgencFields.discriminator]
  split
  · subst discriminator
    exact decodes_kind hvalid (decodes_parseSetTaskJobSpec hvalid) .setTaskJobSpec .setTaskJobSpec
      (fun _ _ h => h) (fun _ => rfl) (fun _ => and_congr_left' List.mem_singleton) fun f => by
        cases f <;> simp [AgencFields.discriminator]
  split
  · subst discriminator
    exact decodes_kind hvalid (decodes_parseClaimTaskWithJobSpec hvalid) .claimTaskWithJobSpec
      (fun _ => .claimTaskWithJobSpec)
      (fun _ _ h => h) (fun _ => rfl) (fun _ => and_congr_left' List.mem_singleton) fun f => by
        cases f <;> simp [AgencFields.discriminator]
  split
  · subst discriminator
    exact decodes_kind hvalid (decodes_parseSubmitTaskResult hvalid) .submitTaskResult
      .submitTaskResult
      (fun _ _ h => h) (fun _ => rfl) (fun _ => and_congr_left' List.mem_singleton) fun f => by
        cases f <;> simp [AgencFields.discriminator]
  split
  · subst discriminator
    exact decodes_kind hvalid (decodes_parseAcceptTaskResult hvalid) .acceptTaskResult
      (fun _ => .acceptTaskResult)
      (fun _ _ h => h) (fun _ => rfl) (fun _ => and_congr_left' List.mem_singleton) fun f => by
        cases f <;> simp [AgencFields.discriminator]
  split
  · subst discriminator
    exact decodes_kind hvalid (decodes_parseRejectTaskResult hvalid) .rejectTaskResult
      .rejectTaskResult
      (fun _ _ h => h) (fun _ => rfl) (fun _ => and_congr_left' List.mem_singleton) fun f => by
        cases f <;> simp [AgencFields.discriminator]
  split
  · subst discriminator
    exact decodes_kind hvalid (decodes_parseCancelTask hvalid) .cancelTask (fun _ => .cancelTask)
      (fun _ _ h => h) (fun _ => rfl) (fun _ => and_congr_left' List.mem_pair) fun f => by
        cases f <;> simp [AgencFields.discriminator]
  split
  · subst discriminator
    exact decodes_kind hvalid (decodes_parseExpireClaim hvalid) .expireClaim (fun _ => .expireClaim)
      (fun _ _ h => h) (fun _ => rfl) (fun _ => and_congr_left' List.mem_singleton) fun f => by
        cases f <;> simp [AgencFields.discriminator]
  refine .throw _ fun f ⟨_, h⟩ => ?_
  cases f <;> exact absurd h.symm ‹_›

/-- **The data of an instruction**: a discriminator, and the fields of its kind behind it. -/
theorem decodes_parseAgencData :
    Decodes (do
        let discriminator ← parseFixedBytes 8
        parseAgencBody instruction header discriminator.val : ParseM AgencBody)
      (AgencBody.Represents (instructionAccount header instruction)
        instruction.accounts.val.length) (fun f => f.discriminator ++ f.encode)
      fun f => f.AccountsFit instruction header := by
  refine (decodes_parseFixedBytes 8).seq AgencFields.discriminatorBlock (fun _ _ => trivial)
    fun p b hp _ => (decodes_parseAgencBody hvalid p.val).congr (fun _ _ => rfl) fun f => ?_
  refine and_congr_right fun _ => ?_
  rw [hp]
  exact (Block.ext_iff (a := f.discriminatorBlock)).symm

/-- The instruction is that of the fields: in its data, with nothing behind them, and in the number
of its accounts and the place of the System program. -/
structure AgencFields.Encoded (f : AgencFields) (instruction : Instruction)
    (header : MessageHeader) : Prop where
  data : instruction.data.val = f.discriminator ++ f.encode
  accounts : f.AccountsFit instruction header

omit hvalid in
/-- The parser returns `0` when it does so on the data, and leaves nothing of it. -/
theorem parseAgencInstructions_ok_iff {info : AgencInfo} :
    parseAgencInstructions instruction header = .ok info ↔
      programIdKey instruction header = .ok info.programId ∧
      isAgencProgramId info.programId.val = true ∧
      ∃ p, (parseFixedBytes 8 >>= fun discriminator =>
        parseAgencBody instruction header discriminator.val)
          ⟨instruction.data.addr, instruction.data.val⟩ = .ok (info.body, p) ∧ p.buffer = [] := by
  constructor
  · intro h
    obtain ⟨programId, hprogram, h⟩ := (Result.seq_ok_iff _ _ _).mp h
    obtain ⟨_, hagenc, h⟩ := (Result.seq_ok_iff _ _ _).mp h
    obtain ⟨⟨body, p⟩, hp, h⟩ := (Result.seq_ok_iff _ _ _).mp h
    obtain ⟨_, hempty, h⟩ := (Result.seq_ok_iff _ _ _).mp h
    cases h
    refine ⟨hprogram, by simpa using bailIf_eq_ok.mp hagenc, p, hp, ?_⟩
    exact List.eq_nil_of_length_eq_zero (by simpa [parserIsEmpty] using bailIf_eq_ok.mp hempty)
  · rintro ⟨hprogram, hagenc, p, hp, hempty⟩
    refine (Result.seq_ok_iff _ _ _).mpr ⟨info.programId, hprogram, ?_⟩
    refine (Result.seq_ok_iff _ _ _).mpr ⟨(), bailIf_eq_ok.mpr (by rw [hagenc]; rfl), ?_⟩
    refine (Result.seq_ok_iff _ _ _).mpr ⟨(info.body, p), hp, ?_⟩
    exact (Result.seq_ok_iff _ _ _).mpr
      ⟨(), bailIf_eq_ok.mpr (by rw [parserIsEmpty, hempty]; rfl), rfl⟩

/-- **The parser of the AgenC program accepts exactly the encoded instructions** of the program,
and returns the fields that are encoded and the keys of the accounts. -/
theorem parseAgencInstructions_iff :
    ((∃ info, parseAgencInstructions instruction header = .ok info) ↔
      (∃ programId, header.pubkeys[instruction.programIdIndex.toNat]? = some programId ∧
        isAgencProgramId programId.val = true) ∧
      ∃ f : AgencFields, f.Encoded instruction header) ∧
    ∀ info (f : AgencFields), parseAgencInstructions instruction header = .ok info →
      f.Encoded instruction header →
        header.pubkeys[instruction.programIdIndex.toNat]? = some info.programId ∧
        info.body.Represents (instructionAccount header instruction)
          instruction.accounts.val.length f := by
  have hdata := decodes_parseAgencData hvalid
  refine ⟨⟨?_, ?_⟩, ?_⟩
  · rintro ⟨info, hinfo⟩
    obtain ⟨hprogram, hagenc, p, hp, hempty⟩ := parseAgencInstructions_ok_iff.mp hinfo
    obtain ⟨f, -, hfit, hf⟩ := hdata.whole_read hp hempty
    exact ⟨⟨info.programId, readAt_eq_ok.mp hprogram, hagenc⟩, f, hf, hfit⟩
  · rintro ⟨⟨programId, hprogram, hagenc⟩, f, hf⟩
    obtain ⟨body, p, hp, -, hempty⟩ := hdata.whole_write (n := instruction.data.addr) hf.accounts
    refine ⟨⟨programId, body⟩, parseAgencInstructions_ok_iff.mpr
      ⟨readAt_eq_ok.mpr hprogram, hagenc, p, ?_, hempty⟩⟩
    rw [hf.data]
    exact hp
  · intro info f hinfo hf
    obtain ⟨hprogram, -, p, hp, -⟩ := parseAgencInstructions_ok_iff.mp hinfo
    obtain ⟨body, p', hp', hrepresents, -⟩ :=
      hdata.whole_write (n := instruction.data.addr) hf.accounts
    rw [hf.data] at hp
    cases hp.symm.trans hp'
    exact ⟨readAt_eq_ok.mp hprogram, hrepresents⟩

end

end

theorem length_rejectKeys :
    [plainSigner, agencArtifactProgramId, systemProgramId].length < 128 := by
  decide

/-- The keys of a message that rejects a result. -/
def rejectHeader : MessageHeader :=
  legacyHeader [plainSigner, agencArtifactProgramId, systemProgramId] length_rejectKeys 1

/-- A rejection with the zero hash. -/
def rejectInstruction : Instruction where
  programIdIndex := 1
  accounts := ⟨0, [0, 0, 0, 0, 0, 0, 0, 0, 0, 2, 0]⟩
  data := ⟨0, (AgencFields.rejectTaskResult (Block.zero 32)).discriminator ++ List.replicate 32 0⟩

/-- The rejection is accepted. -/
theorem parseAgencInstructions_iff_rejection :
    ∃ info, parseAgencInstructions rejectInstruction rejectHeader = .ok info :=
  (parseAgencInstructions_iff (by decide)).1.mpr
    ⟨⟨⟨36, agencArtifactProgramId⟩, rfl, by decide⟩, .rejectTaskResult (Block.zero 32), rfl,
      by decide, rfl⟩

end AgencLedger
