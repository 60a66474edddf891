import AgencLedger.Program.System

/-!
# Program/Agenc — instructions of the AgenC program

Ten instructions, told apart by their eight-byte discriminators.  The parsers read the accounts by
index, demand an exact number of them and leave no data behind.  Unlike the other printers these
look at the item before they fill it, so a summary without room makes them fail.

A submitted result that names an artifact is decoded into the parsed record itself, and the item
shows it from there.
-/

namespace AgencLedger

/-! ## Parsed instructions -/

/-- `AgencRegisterAgentInfo`.  `metadataUri` is there when `has_metadata_uri`. -/
structure AgencRegisterAgentInfo where
  agent : Ptr Pubkey
  protocolConfig : Ptr Pubkey
  authority : Ptr Pubkey
  systemProgram : Ptr Pubkey
  agentId : Ptr Hash
  capabilities : UInt64
  endpoint : SizedString
  metadataUri : Option SizedString
  stakeAmount : UInt64
  deriving DecidableEq

/-- `AgencCreateTaskInfo`.  `description_commitment` is the first half of `description`. -/
structure AgencCreateTaskInfo where
  task : Ptr Pubkey
  escrow : Ptr Pubkey
  protocolConfig : Ptr Pubkey
  creatorAgent : Ptr Pubkey
  authorityRateLimit : Ptr Pubkey
  authority : Ptr Pubkey
  creator : Ptr Pubkey
  systemProgram : Ptr Pubkey
  taskId : Ptr Hash
  requiredCapabilities : UInt64
  description : Ptr (List UInt8)
  descriptionCommitment : Ptr Hash
  rewardAmount : UInt64
  maxWorkers : UInt8
  deadline : Int64
  taskType : UInt8
  constraintHash : Option (Ptr Hash)
  minReputation : UInt16
  rewardMint : Option (Ptr Pubkey)
  deriving DecidableEq

/-- `AgencConfigureTaskValidationInfo`. -/
structure AgencConfigureTaskValidationInfo where
  task : Ptr Pubkey
  taskValidationConfig : Ptr Pubkey
  taskAttestorConfig : Ptr Pubkey
  protocolConfig : Ptr Pubkey
  hireRecord : Ptr Pubkey
  creator : Ptr Pubkey
  systemProgram : Ptr Pubkey
  mode : UInt8
  reviewWindowSecs : Int64
  validatorQuorum : UInt8
  attestor : Option (Ptr Pubkey)
  deriving DecidableEq

/-- `AgencSetTaskJobSpecInfo`. -/
structure AgencSetTaskJobSpecInfo where
  protocolConfig : Ptr Pubkey
  task : Ptr Pubkey
  moderationConfig : Ptr Pubkey
  taskModeration : Ptr Pubkey
  moderationAttestor : Ptr Pubkey
  moderationBlock : Ptr Pubkey
  taskJobSpec : Ptr Pubkey
  creator : Ptr Pubkey
  systemProgram : Ptr Pubkey
  jobSpecHash : Ptr Hash
  jobSpecUri : SizedString
  deriving DecidableEq

/-- `AgencClaimTaskWithJobSpecInfo`. -/
structure AgencClaimTaskWithJobSpecInfo where
  task : Ptr Pubkey
  taskJobSpec : Ptr Pubkey
  hireRecord : Ptr Pubkey
  legacyListing : Ptr Pubkey
  moderationBlock : Ptr Pubkey
  claim : Ptr Pubkey
  protocolConfig : Ptr Pubkey
  worker : Ptr Pubkey
  authority : Ptr Pubkey
  systemProgram : Ptr Pubkey
  deriving DecidableEq

/-- `AgencSubmitTaskResultInfo`.  `artifactHash` is held by value, and there when
`has_artifact_hash`. -/
structure AgencSubmitTaskResultInfo where
  task : Ptr Pubkey
  claim : Ptr Pubkey
  taskValidationConfig : Ptr Pubkey
  taskSubmission : Ptr Pubkey
  protocolConfig : Ptr Pubkey
  worker : Ptr Pubkey
  authority : Ptr Pubkey
  systemProgram : Ptr Pubkey
  proofHash : Ptr Hash
  resultData : Option (Ptr (List UInt8))
  artifactHash : Option Hash
  deriving DecidableEq

/-- `AgencAcceptTaskResultInfo`. -/
structure AgencAcceptTaskResultInfo where
  task : Ptr Pubkey
  claim : Ptr Pubkey
  escrow : Ptr Pubkey
  taskValidationConfig : Ptr Pubkey
  taskSubmission : Ptr Pubkey
  worker : Ptr Pubkey
  protocolConfig : Ptr Pubkey
  treasury : Ptr Pubkey
  creator : Ptr Pubkey
  workerAuthority : Ptr Pubkey
  hireRecord : Ptr Pubkey
  operator : Ptr Pubkey
  referrer : Ptr Pubkey
  creatorCompletionBond : Ptr Pubkey
  workerCompletionBond : Ptr Pubkey
  systemProgram : Ptr Pubkey
  deriving DecidableEq

/-- `AgencRejectTaskResultInfo`. -/
structure AgencRejectTaskResultInfo where
  task : Ptr Pubkey
  claim : Ptr Pubkey
  taskValidationConfig : Ptr Pubkey
  taskSubmission : Ptr Pubkey
  worker : Ptr Pubkey
  protocolConfig : Ptr Pubkey
  creator : Ptr Pubkey
  workerAuthority : Ptr Pubkey
  agentStats : Ptr Pubkey
  systemProgram : Ptr Pubkey
  workerCompletionBond : Ptr Pubkey
  rejectionHash : Ptr Hash
  deriving DecidableEq

/-- `AgencCancelTaskInfo`. -/
structure AgencCancelTaskInfo where
  task : Ptr Pubkey
  escrow : Ptr Pubkey
  authority : Ptr Pubkey
  protocolConfig : Ptr Pubkey
  systemProgram : Ptr Pubkey
  workerAccountCount : ℕ
  deriving DecidableEq

/-- `AgencExpireClaimInfo`. -/
structure AgencExpireClaimInfo where
  authority : Ptr Pubkey
  task : Ptr Pubkey
  escrow : Ptr Pubkey
  claim : Ptr Pubkey
  worker : Ptr Pubkey
  protocolConfig : Ptr Pubkey
  taskValidationConfig : Ptr Pubkey
  taskSubmission : Ptr Pubkey
  rentRecipient : Ptr Pubkey
  workerCompletionBond : Ptr Pubkey
  bondCreator : Ptr Pubkey
  agentStats : Ptr Pubkey
  treasury : Ptr Pubkey
  systemProgram : Ptr Pubkey
  deriving DecidableEq

/-- The union of `AgencInfo`, by kind. -/
inductive AgencBody
  | registerAgent (info : AgencRegisterAgentInfo)
  | createTask (info : AgencCreateTaskInfo)
  | configureTaskValidation (info : AgencConfigureTaskValidationInfo)
  | setTaskJobSpec (info : AgencSetTaskJobSpecInfo)
  | claimTaskWithJobSpec (info : AgencClaimTaskWithJobSpecInfo)
  | submitTaskResult (info : AgencSubmitTaskResultInfo)
  | acceptTaskResult (info : AgencAcceptTaskResultInfo)
  | rejectTaskResult (info : AgencRejectTaskResultInfo)
  | cancelTask (info : AgencCancelTaskInfo)
  | expireClaim (info : AgencExpireClaimInfo)
  deriving DecidableEq

/-- `AgencInfo`, as the parser leaves it when it returns `0`. -/
structure AgencInfo where
  programId : Ptr Pubkey
  body : AgencBody
  deriving DecidableEq

/-! ## Artifact hashes -/

/-- `base64url_value`: `-1` is `none`. -/
def base64urlValue (character : UInt8) : Option UInt32 :=
  if 65 ≤ character ∧ character ≤ 90 then some (character - 65).toUInt32
  else if 97 ≤ character ∧ character ≤ 122 then some ((character - 97).toUInt32 + 26)
  else if 48 ≤ character ∧ character ≤ 57 then some ((character - 48).toUInt32 + 52)
  else if character = 45 then some 62
  else if character = 95 then some 63
  else none

/-- The loop of `decode_artifact_result_hash` over the text: six bits a character, a byte out as
soon as eight are there.  Fewer than eight bits stay behind, so the inner loop runs at most once. -/
def decodeBase64url : List UInt8 → UInt32 → ℕ → List UInt8 → Option (List UInt8 × UInt32)
  | [], accumulator, _, output => some (output, accumulator)
  | character :: text, accumulator, bits, output =>
      match base64urlValue character with
      | none => none
      | some value =>
          let accumulator := accumulator <<< 6 ||| value
          let bits := bits + 6
          if bits ≥ 8 then
            let bits := bits - 8
            if output.length ≥ 32 then none
            else
              decodeBase64url text (accumulator &&& ((1 <<< bits.toUInt32) - 1)) bits
                (output ++ [(accumulator >>> bits.toUInt32).toUInt8])
          else decodeBase64url text accumulator bits output

/-- `AGENC_ARTIFACT_RESULT_PREFIX`, `"artifact:sha256:"`. -/
def agencArtifactResultPrefix : List UInt8 :=
  "artifact:sha256:".toList.map fun c => c.toNat.toUInt8

/-- `decode_artifact_result_hash`. -/
def decodeArtifactResultHash (resultData : List UInt8) : Option Hash :=
  if resultData.take 16 ≠ agencArtifactResultPrefix then none
  else
    let text := resultData.takeWhile (· ≠ 0)
    if text.length ≠ 16 + 43 then none
    else
      match decodeBase64url (text.drop 16) 0 0 [] with
      | none => none
      | some (output, accumulator) =>
          if h : output.length = 32 then
            if accumulator = 0 then some ⟨output, h⟩ else none
          else none

/-! ## Parsing -/

/-- `parse_u16_le`. -/
def parseU16Le : ParseM UInt16 := parseU16

/-- `parse_fixed_bytes`. -/
def parseFixedBytes (length : ℕ) : ParseM (Ptr (List UInt8)) := do
  checkBufferLength length
  advance length

/-- `parse_hash_ref`. -/
def parseHashRef : ParseM (Ptr Hash) := parseBlock 32

/-- `parse_option` and, behind `OptionSome`, a value. -/
def parseOptionalRef {α : Type} (parse : ParseM α) : ParseM (Option α) := do
  let option ← parseOption
  if option then return some (← parse) else return none

/-- `parse_optional_hash_ref`. -/
def parseOptionalHashRef : ParseM (Option (Ptr Hash)) := parseOptionalRef parseHashRef

/-- `parse_optional_pubkey_ref`. -/
def parseOptionalPubkeyRef : ParseM (Option (Ptr Pubkey)) := parseOptionalRef parsePubkey

/-- `parse_optional_result_data`. -/
def parseOptionalResultData : ParseM (Option (Ptr (List UInt8))) :=
  parseOptionalRef (parseFixedBytes 64)

/-- `parse_borsh_string`. -/
def parseBorshString : ParseM SizedString := do
  let length ← parseU32
  checkBufferLength length.toNat
  let string ← advance length.toNat
  return ⟨length.toUInt64, string⟩

/-- `parse_optional_borsh_string`. -/
def parseOptionalBorshString : ParseM (Option SizedString) := parseOptionalRef parseBorshString

section

variable (instruction : Instruction) (header : MessageHeader)

/-- `account_at`. -/
def accountAt (accountIndex : ℕ) : ParseM (Ptr Pubkey) := do
  match instruction.accounts.val[accountIndex]? with
  | none => throw .bail
  | some pubkeyIndex =>
      match header.pubkeys[pubkeyIndex.toNat]? with
      | none => throw .bail
      | some account => return account

/-- `account_at` and `validate_system_program`. -/
def systemProgramAt (accountIndex : ℕ) : ParseM (Ptr Pubkey) := do
  let systemProgram ← accountAt instruction header accountIndex
  parseBailIf (systemProgram.val ≠ systemProgramId)
  return systemProgram

/-- `BAIL_IF(instruction->accounts_length != n)`. -/
def accountsLengthIs (n : ℕ) : ParseM Unit :=
  parseBailIf (instruction.accounts.val.length ≠ n)

/-- `parse_register_agent`. -/
def parseRegisterAgent : ParseM AgencRegisterAgentInfo := do
  accountsLengthIs instruction 4
  let agent ← accountAt instruction header 0
  let protocolConfig ← accountAt instruction header 1
  let authority ← accountAt instruction header 2
  let systemProgram ← systemProgramAt instruction header 3
  let agentId ← parseHashRef
  let capabilities ← parseU64
  let endpoint ← parseBorshString
  let metadataUri ← parseOptionalBorshString
  let stakeAmount ← parseU64
  return { agent, protocolConfig, authority, systemProgram, agentId, capabilities, endpoint,
           metadataUri, stakeAmount }

/-- `parse_create_task`: a description that is not a digest and zeros is refused. -/
def parseCreateTask : ParseM AgencCreateTaskInfo := do
  accountsLengthIs instruction 13
  let task ← accountAt instruction header 0
  let escrow ← accountAt instruction header 1
  let protocolConfig ← accountAt instruction header 2
  let creatorAgent ← accountAt instruction header 3
  let authorityRateLimit ← accountAt instruction header 4
  let authority ← accountAt instruction header 5
  let creator ← accountAt instruction header 6
  let systemProgram ← systemProgramAt instruction header 7
  let taskId ← parseHashRef
  let requiredCapabilities ← parseU64
  let description ← parseFixedBytes 64
  parseBailIf ((description.val.drop 32).any (· ≠ 0))
  let descriptionCommitment : Ptr Hash := ⟨description.addr, Block.ofBytes 32 description.val⟩
  let rewardAmount ← parseU64
  let maxWorkers ← parseU8
  let deadline ← parseI64
  let taskType ← parseU8
  let constraintHash ← parseOptionalHashRef
  let minReputation ← parseU16Le
  let rewardMint ← parseOptionalPubkeyRef
  return { task, escrow, protocolConfig, creatorAgent, authorityRateLimit, authority, creator,
           systemProgram, taskId, requiredCapabilities, description, descriptionCommitment,
           rewardAmount, maxWorkers, deadline, taskType, constraintHash, minReputation,
           rewardMint }

/-- `parse_configure_task_validation`. -/
def parseConfigureTaskValidation : ParseM AgencConfigureTaskValidationInfo := do
  accountsLengthIs instruction 7
  let task ← accountAt instruction header 0
  let taskValidationConfig ← accountAt instruction header 1
  let taskAttestorConfig ← accountAt instruction header 2
  let protocolConfig ← accountAt instruction header 3
  let hireRecord ← accountAt instruction header 4
  let creator ← accountAt instruction header 5
  let systemProgram ← systemProgramAt instruction header 6
  let mode ← parseU8
  let reviewWindowSecs ← parseI64
  let validatorQuorum ← parseU8
  let attestor ← parseOptionalPubkeyRef
  return { task, taskValidationConfig, taskAttestorConfig, protocolConfig, hireRecord, creator,
           systemProgram, mode, reviewWindowSecs, validatorQuorum, attestor }

/-- `parse_set_task_job_spec`. -/
def parseSetTaskJobSpec : ParseM AgencSetTaskJobSpecInfo := do
  accountsLengthIs instruction 9
  let protocolConfig ← accountAt instruction header 0
  let task ← accountAt instruction header 1
  let moderationConfig ← accountAt instruction header 2
  let taskModeration ← accountAt instruction header 3
  let moderationAttestor ← accountAt instruction header 4
  let moderationBlock ← accountAt instruction header 5
  let taskJobSpec ← accountAt instruction header 6
  let creator ← accountAt instruction header 7
  let systemProgram ← systemProgramAt instruction header 8
  let jobSpecHash ← parseHashRef
  let jobSpecUri ← parseBorshString
  return { protocolConfig, task, moderationConfig, taskModeration, moderationAttestor,
           moderationBlock, taskJobSpec, creator, systemProgram, jobSpecHash, jobSpecUri }

/-- `parse_claim_task_with_job_spec`. -/
def parseClaimTaskWithJobSpec : ParseM AgencClaimTaskWithJobSpecInfo := do
  accountsLengthIs instruction 10
  let task ← accountAt instruction header 0
  let taskJobSpec ← accountAt instruction header 1
  let hireRecord ← accountAt instruction header 2
  let legacyListing ← accountAt instruction header 3
  let moderationBlock ← accountAt instruction header 4
  let claim ← accountAt instruction header 5
  let protocolConfig ← accountAt instruction header 6
  let worker ← accountAt instruction header 7
  let authority ← accountAt instruction header 8
  let systemProgram ← systemProgramAt instruction header 9
  return { task, taskJobSpec, hireRecord, legacyListing, moderationBlock, claim, protocolConfig,
           worker, authority, systemProgram }

/-- `parse_submit_task_result`. -/
def parseSubmitTaskResult : ParseM AgencSubmitTaskResultInfo := do
  accountsLengthIs instruction 8
  let task ← accountAt instruction header 0
  let claim ← accountAt instruction header 1
  let taskValidationConfig ← accountAt instruction header 2
  let taskSubmission ← accountAt instruction header 3
  let protocolConfig ← accountAt instruction header 4
  let worker ← accountAt instruction header 5
  let authority ← accountAt instruction header 6
  let systemProgram ← systemProgramAt instruction header 7
  let proofHash ← parseHashRef
  let resultData ← parseOptionalResultData
  return { task, claim, taskValidationConfig, taskSubmission, protocolConfig, worker, authority,
           systemProgram, proofHash, resultData,
           artifactHash := resultData.bind fun resultData =>
             decodeArtifactResultHash resultData.val }

/-- `parse_accept_task_result`: the System program is the last of the 21 accounts. -/
def parseAcceptTaskResult : ParseM AgencAcceptTaskResultInfo := do
  accountsLengthIs instruction 21
  let task ← accountAt instruction header 0
  let claim ← accountAt instruction header 1
  let escrow ← accountAt instruction header 2
  let taskValidationConfig ← accountAt instruction header 3
  let taskSubmission ← accountAt instruction header 4
  let worker ← accountAt instruction header 5
  let protocolConfig ← accountAt instruction header 6
  let treasury ← accountAt instruction header 7
  let creator ← accountAt instruction header 8
  let workerAuthority ← accountAt instruction header 9
  let hireRecord ← accountAt instruction header 10
  let operator ← accountAt instruction header 11
  let referrer ← accountAt instruction header 12
  let creatorCompletionBond ← accountAt instruction header 13
  let workerCompletionBond ← accountAt instruction header 14
  let systemProgram ← systemProgramAt instruction header 20
  return { task, claim, escrow, taskValidationConfig, taskSubmission, worker, protocolConfig,
           treasury, creator, workerAuthority, hireRecord, operator, referrer,
           creatorCompletionBond, workerCompletionBond, systemProgram }

/-- `parse_reject_task_result`. -/
def parseRejectTaskResult : ParseM AgencRejectTaskResultInfo := do
  accountsLengthIs instruction 11
  let task ← accountAt instruction header 0
  let claim ← accountAt instruction header 1
  let taskValidationConfig ← accountAt instruction header 2
  let taskSubmission ← accountAt instruction header 3
  let worker ← accountAt instruction header 4
  let protocolConfig ← accountAt instruction header 5
  let creator ← accountAt instruction header 6
  let workerAuthority ← accountAt instruction header 7
  let agentStats ← accountAt instruction header 8
  let workerCompletionBond ← accountAt instruction header 10
  let systemProgram ← systemProgramAt instruction header 9
  let rejectionHash ← parseHashRef
  return { task, claim, taskValidationConfig, taskSubmission, worker, protocolConfig, creator,
           workerAuthority, agentStats, systemProgram, workerCompletionBond, rejectionHash }

/-- `parse_cancel_task`: at most one worker triple behind the fifteen base accounts. -/
def parseCancelTask : ParseM AgencCancelTaskInfo := do
  let accountsLength := instruction.accounts.val.length
  parseBailIf (accountsLength < 15)
  parseBailIf (accountsLength > 15 + 3)
  parseBailIf ((accountsLength - 15) % 3 ≠ 0)
  let task ← accountAt instruction header 0
  let escrow ← accountAt instruction header 1
  let authority ← accountAt instruction header 2
  let protocolConfig ← accountAt instruction header 3
  let systemProgram ← systemProgramAt instruction header 4
  return { task, escrow, authority, protocolConfig, systemProgram,
           workerAccountCount := (accountsLength - 15) / 3 }

/-- `parse_expire_claim`. -/
def parseExpireClaim : ParseM AgencExpireClaimInfo := do
  accountsLengthIs instruction 14
  let authority ← accountAt instruction header 0
  let task ← accountAt instruction header 1
  let escrow ← accountAt instruction header 2
  let claim ← accountAt instruction header 3
  let worker ← accountAt instruction header 4
  let protocolConfig ← accountAt instruction header 5
  let taskValidationConfig ← accountAt instruction header 6
  let taskSubmission ← accountAt instruction header 7
  let rentRecipient ← accountAt instruction header 8
  let workerCompletionBond ← accountAt instruction header 9
  let bondCreator ← accountAt instruction header 10
  let agentStats ← accountAt instruction header 11
  let treasury ← accountAt instruction header 12
  let systemProgram ← systemProgramAt instruction header 13
  return { authority, task, escrow, claim, worker, protocolConfig, taskValidationConfig,
           taskSubmission, rentRecipient, workerCompletionBond, bondCreator, agentStats, treasury,
           systemProgram }

/-- The body behind a discriminator. -/
def parseAgencBody (discriminator : List UInt8) : ParseM AgencBody :=
  if discriminator = [0x87, 0x9d, 0x42, 0xc3, 0x02, 0x71, 0xaf, 0x1e] then
    return .registerAgent (← parseRegisterAgent instruction header)
  else if discriminator = [0xc2, 0x50, 0x06, 0xb4, 0xe8, 0x7f, 0x30, 0xab] then
    return .createTask (← parseCreateTask instruction header)
  else if discriminator = [0x0b, 0x4f, 0x13, 0xbc, 0x0d, 0x20, 0xf4, 0x5a] then
    return .configureTaskValidation (← parseConfigureTaskValidation instruction header)
  else if discriminator = [0x86, 0x66, 0x66, 0x56, 0x1f, 0xa4, 0xca, 0xc1] then
    return .setTaskJobSpec (← parseSetTaskJobSpec instruction header)
  else if discriminator = [0xe6, 0x28, 0x6b, 0x6d, 0xd0, 0xe4, 0xaf, 0x1f] then
    return .claimTaskWithJobSpec (← parseClaimTaskWithJobSpec instruction header)
  else if discriminator = [0x27, 0x6c, 0x4a, 0x04, 0x42, 0x7d, 0x9d, 0x07] then
    return .submitTaskResult (← parseSubmitTaskResult instruction header)
  else if discriminator = [0x59, 0xe6, 0x33, 0x19, 0x00, 0xdb, 0x05, 0x89] then
    return .acceptTaskResult (← parseAcceptTaskResult instruction header)
  else if discriminator = [0x90, 0x07, 0x3a, 0xe8, 0x9d, 0xa7, 0x55, 0xd6] then
    return .rejectTaskResult (← parseRejectTaskResult instruction header)
  else if discriminator = [0x45, 0xe4, 0x86, 0xbb, 0x86, 0x69, 0xee, 0x30] then
    return .cancelTask (← parseCancelTask instruction header)
  else if discriminator = [0xb0, 0x4e, 0xf1, 0x1d, 0x9f, 0x51, 0x1a, 0x06] then
    return .expireClaim (← parseExpireClaim instruction header)
  else throw .bail

/-- `parse_agenc_instructions`. -/
def parseAgencInstructions : Result AgencInfo := do
  let programId ← programIdKey instruction header
  bailIf (!isAgencProgramId programId.val)
  let parse : ParseM AgencBody := do
    let discriminator ← parseFixedBytes 8
    parseAgencBody instruction header discriminator.val
  let (body, parser) ← parse ⟨instruction.data.addr, instruction.data.val⟩
  bailIf (!parserIsEmpty parser)
  return ⟨programId, body⟩

end

/-! ## Printing -/

/-- `set_primary_action`. -/
def setPrimaryAction (action : CString) : Script :=
  [.putChecked .primary ⟨"AgenC action", .string action⟩, .setTransactionType .agencAction]

/-- `set_general_pubkey`, `set_general_hash` and the other setters of a general item. -/
def setGeneral (title : String) (value : SummaryValue) : Script :=
  [.putChecked .general ⟨title, value⟩]

/-- `print_create_task_fields`. -/
def printCreateTaskFields (programId : Ptr Pubkey) (info : AgencCreateTaskInfo) : Script :=
  (match info.rewardMint with
    | some rewardMint =>
        setGeneral "Reward (token base units)" (.u64 info.rewardAmount)
          ++ setGeneral "Token mint" (.pubkey rewardMint)
    | none => setGeneral "Reward" (.amount info.rewardAmount))
    ++ setGeneral "Task" (.pubkey info.task)
    ++ setGeneral "Creator" (.pubkey info.creator)
    ++ setGeneral "Content hash" (.hash (.message info.descriptionCommitment))
    ++ setGeneral "Deadline" (.timestamp info.deadline)
    ++ setGeneral "Max workers" (.u64 info.maxWorkers.toUInt64)
    ++ (if info.taskType ≠ 0 then setGeneral "Task type" (.u64 info.taskType.toUInt64) else [])
    ++ setGeneral "Min reputation" (.u64 info.minReputation.toUInt64)
    ++ setGeneral "Program" (.pubkey programId)

/-- `print_agenc_create_task_info`. -/
def printAgencCreateTaskInfo (programId : Ptr Pubkey) (info : AgencCreateTaskInfo) : Script :=
  setPrimaryAction (.lit "Create task") ++ printCreateTaskFields programId info

/-- `print_agenc_register_agent_info`. -/
def printAgencRegisterAgentInfo (programId : Ptr Pubkey) (info : AgencRegisterAgentInfo) :
    Script :=
  setPrimaryAction (.lit "Register agent")
    ++ setGeneral "Stake" (.amount info.stakeAmount)
    ++ setGeneral "Agent" (.pubkey info.agent)
    ++ setGeneral "Authority" (.pubkey info.authority)
    ++ setGeneral "Capabilities" (.u64 info.capabilities)
    ++ setGeneral "Endpoint" (.sizedString info.endpoint)
    ++ (match info.metadataUri with
        | some metadataUri => setGeneral "Metadata URI" (.sizedString metadataUri)
        | none => [])
    ++ setGeneral "Program" (.pubkey programId)

/-- `print_agenc_create_task_with_review_info`: the pair must agree and ask for the standard
review. -/
def printAgencCreateTaskWithReviewInfo (createInfo configureInfo : AgencInfo) : Script :=
  match createInfo.body, configureInfo.body with
  | .createTask createTask, .configureTaskValidation configure =>
      if !pubkeysEqual createTask.task configure.task
          || !pubkeysEqual createTask.creator configure.creator
          || configure.mode ≠ 1 || configure.validatorQuorum ≠ 0
          || configure.attestor.isSome then [.fail]
      else
        setPrimaryAction (.lit "Create task")
          ++ printCreateTaskFields createInfo.programId createTask
          ++ setGeneral "Review window" (.i64 configure.reviewWindowSecs)
  | _, _ => [.fail]

/-- `print_agenc_configure_task_validation_info`. -/
def printAgencConfigureTaskValidationInfo (programId : Ptr Pubkey)
    (info : AgencConfigureTaskValidationInfo) : Script :=
  setPrimaryAction (.lit "Configure review")
    ++ setGeneral "Task" (.pubkey info.task)
    ++ setGeneral "Mode" (.u64 info.mode.toUInt64)
    ++ setGeneral "Review window" (.i64 info.reviewWindowSecs)
    ++ setGeneral "Validator quorum" (.u64 info.validatorQuorum.toUInt64)
    ++ (match info.attestor with
        | some attestor => setGeneral "Attestor" (.pubkey attestor)
        | none => [])
    ++ setGeneral "Program" (.pubkey programId)

/-- `print_agenc_set_task_job_spec_info`. -/
def printAgencSetTaskJobSpecInfo (programId : Ptr Pubkey) (info : AgencSetTaskJobSpecInfo) :
    Script :=
  setPrimaryAction (.lit "Attach job spec")
    ++ setGeneral "Job spec hash" (.hash (.message info.jobSpecHash))
    ++ setGeneral "Task" (.pubkey info.task)
    ++ setGeneral "Creator" (.pubkey info.creator)
    ++ setGeneral "Job spec URI" (.sizedString info.jobSpecUri)
    ++ setGeneral "Program" (.pubkey programId)

/-- `print_agenc_claim_task_with_job_spec_info`. -/
def printAgencClaimTaskWithJobSpecInfo (programId : Ptr Pubkey)
    (info : AgencClaimTaskWithJobSpecInfo) : Script :=
  setPrimaryAction (.lit "Claim task")
    ++ setGeneral "Task" (.pubkey info.task)
    ++ setGeneral "Worker" (.pubkey info.worker)
    ++ setGeneral "Authority" (.pubkey info.authority)
    ++ setGeneral "Claim" (.pubkey info.claim)
    ++ setGeneral "Program" (.pubkey programId)

/-- `print_agenc_submit_task_result_info`.  `index` is the record's place in `instruction_info`:
the artifact hash is handed over by reference to it. -/
def printAgencSubmitTaskResultInfo (index : ℕ) (programId : Ptr Pubkey)
    (info : AgencSubmitTaskResultInfo) : Script :=
  setPrimaryAction (.lit "Submit result")
    ++ setGeneral "Proof hash" (.hash (.message info.proofHash))
    ++ setGeneral "Task" (.pubkey info.task)
    ++ setGeneral "Worker" (.pubkey info.worker)
    ++ setGeneral "Submission" (.pubkey info.taskSubmission)
    ++ (if info.artifactHash.isSome then setGeneral "Artifact SHA-256" (.hash (.record index))
        else
          setGeneral "Result data"
            (.string (if info.resultData.isSome then .lit "included" else .lit "none")))
    ++ setGeneral "Program" (.pubkey programId)

/-- `print_agenc_accept_task_result_info`. -/
def printAgencAcceptTaskResultInfo (programId : Ptr Pubkey) (info : AgencAcceptTaskResultInfo) :
    Script :=
  setPrimaryAction (.lit "Accept result")
    ++ setGeneral "Reward" (.string (.lit "not in tx"))
    ++ setGeneral "Task" (.pubkey info.task)
    ++ setGeneral "Worker" (.pubkey info.worker)
    ++ setGeneral "Worker auth" (.pubkey info.workerAuthority)
    ++ setGeneral "Creator" (.pubkey info.creator)
    ++ setGeneral "Treasury" (.pubkey info.treasury)
    ++ setGeneral "Program" (.pubkey programId)

/-- `print_agenc_reject_task_result_info`. -/
def printAgencRejectTaskResultInfo (programId : Ptr Pubkey) (info : AgencRejectTaskResultInfo) :
    Script :=
  setPrimaryAction (.lit "Reject result")
    ++ setGeneral "Rejection hash" (.hash (.message info.rejectionHash))
    ++ setGeneral "Task" (.pubkey info.task)
    ++ setGeneral "Worker" (.pubkey info.worker)
    ++ setGeneral "Worker auth" (.pubkey info.workerAuthority)
    ++ setGeneral "Creator" (.pubkey info.creator)
    ++ setGeneral "Submission" (.pubkey info.taskSubmission)
    ++ setGeneral "Program" (.pubkey programId)

/-- `print_agenc_cancel_task_info`. -/
def printAgencCancelTaskInfo (programId : Ptr Pubkey) (info : AgencCancelTaskInfo) : Script :=
  setPrimaryAction (.lit "Cancel task")
    ++ setGeneral "Refund" (.string (.lit "not in tx"))
    ++ setGeneral "Task" (.pubkey info.task)
    ++ setGeneral "Authority" (.pubkey info.authority)
    ++ setGeneral "Escrow" (.pubkey info.escrow)
    ++ setGeneral "Worker claims" (.u64 info.workerAccountCount.toUInt64)
    ++ setGeneral "Program" (.pubkey programId)

/-- `print_agenc_expire_claim_info`; the two accounts tested against `NULL` are always there. -/
def printAgencExpireClaimInfo (programId : Ptr Pubkey) (info : AgencExpireClaimInfo) : Script :=
  setPrimaryAction (.lit "Expire claim")
    ++ setGeneral "Task" (.pubkey info.task)
    ++ setGeneral "Claim" (.pubkey info.claim)
    ++ setGeneral "Worker" (.pubkey info.worker)
    ++ setGeneral "Authority" (.pubkey info.authority)
    ++ setGeneral "Rent recipient" (.pubkey info.rentRecipient)
    ++ setGeneral "Validation" (.pubkey info.taskValidationConfig)
    ++ setGeneral "Submission" (.pubkey info.taskSubmission)
    ++ setGeneral "Program" (.pubkey programId)

/-- `print_agenc_info`. -/
def printAgencInfo (index : ℕ) (info : AgencInfo) : Script :=
  match info.body with
  | .registerAgent body => printAgencRegisterAgentInfo info.programId body
  | .createTask body => printAgencCreateTaskInfo info.programId body
  | .configureTaskValidation body => printAgencConfigureTaskValidationInfo info.programId body
  | .setTaskJobSpec body => printAgencSetTaskJobSpecInfo info.programId body
  | .claimTaskWithJobSpec body => printAgencClaimTaskWithJobSpecInfo info.programId body
  | .submitTaskResult body => printAgencSubmitTaskResultInfo index info.programId body
  | .acceptTaskResult body => printAgencAcceptTaskResultInfo info.programId body
  | .rejectTaskResult body => printAgencRejectTaskResultInfo info.programId body
  | .cancelTask body => printAgencCancelTaskInfo info.programId body
  | .expireClaim body => printAgencExpireClaimInfo info.programId body

end AgencLedger
