import AgencLedger.Sol.TransactionPrinters

/-!
# Sol/Message — the walk over a message body

`process_message_body` parses every instruction of the body, keeps those that are displayed, and
prints them into the summary.  Parsing may itself touch the summary, and the call may stop with
part of its work done, so the model returns the summary it leaves in every case.
-/

namespace AgencLedger

/-- `MAX_INSTRUCTIONS`. -/
def maxInstructions : ℕ := 6

/-! ## Instructions of a body -/

/-- An instruction of the body with the record `process_message_body` keeps of it. -/
structure ParsedInstruction where
  instruction : Instruction
  info : InstructionInfo
  /-- `ignore_instruction_info` -/
  ignored : Bool
  deriving DecidableEq

/-- `parse_validate_and_debug_instruction_accounts`.  The debug loop counts the accounts in a byte:
it never ends on 256 of them. -/
def parseValidateAndDebugInstructionAccounts (header : MessageHeader) : ParseM Instruction := do
  let instruction ← parseInstruction
  parseBailIf (!instructionValidate instruction header)
  if instruction.accounts.val.length > 255 then throw .diverges
  return instruction

/-- `info->kind = program_id` when the program's parser returned `0`; else the kind stays
`ProgramIdUnknown`. -/
def known {α : Type} (parsed : Result α) (info : α → InstructionInfo × Bool) :
    Result (InstructionInfo × Bool) :=
  match parsed with
  | .ok a => .ok (info a)
  | .error .bail => .ok (.unknown, false)
  | .error stop => .error stop

/-- The `switch` over the program of an instruction, with `ignore_instruction_info`.  `index` is the
record's place in `instruction_info`. -/
def parseInstructionInfo (ctx : TokenContext) (header : MessageHeader) (index : ℕ)
    (instruction : Instruction) : Result (InstructionInfo × Bool) := do
  match ← instructionProgramId instruction header with
  | .serumAssertOwner => return (.serumAssertOwner, false)
  | .splAssociatedTokenAccount =>
      known ((parseSplAssociatedTokenAccountInstructions instruction.data.val.length).parse header
        instruction) fun create => (.splAssociatedTokenAccount create, false)
  | .splMemo => return (.splMemo, false)
  | .splToken =>
      known ((parseSplTokenInstructions ctx header instruction).parse header instruction)
        fun (info, ignored) => (.splToken info, ignored)
  | .system =>
      known (parseSystemInstructions.parse header instruction) fun info => (.system info, false)
  | .stake =>
      known (parseStakeInstructions.parse header instruction) fun info => (.stake info, false)
  | .vote =>
      known ((parseVoteInstructions instruction.data.val.length).parse header instruction)
        fun info => (.vote info, false)
  | .computeBudget =>
      known ((parseComputeBudgetInstructions header).parse header instruction)
        fun info => (.computeBudget info, false)
  | .agenc =>
      known (parseAgencInstructions instruction header) fun info => (.agenc index info, false)
  | .unknown => return (.unknown, false)

/-- One pass of the loop of `process_message_body`. -/
def parseBodyInstruction (ctx : TokenContext) (header : MessageHeader) (index : ℕ) :
    ParseM ParsedInstruction := do
  let instruction ← parseValidateAndDebugInstructionAccounts header
  let (info, ignored) ← (parseInstructionInfo ctx header index instruction :
    Result (InstructionInfo × Bool))
  return { instruction, info, ignored }

/-- The loop of `process_message_body`: the instructions parsed, and where the parser is after the
last one or why it stopped. -/
def parseBodyInstructions (ctx : TokenContext) (header : MessageHeader) :
    ℕ → ℕ → Parser → List ParsedInstruction × Result Parser
  | 0, _, p => ([], .ok p)
  | n + 1, index, p =>
      match parseBodyInstruction ctx header index p with
      | .ok (parsed, p') =>
          let rest := parseBodyInstructions ctx header n (index + 1) p'
          (parsed :: rest.1, rest.2)
      | .error stop => ([], .error stop)

/-! ## Which instructions are displayed -/

/-- The kinds that are displayed. -/
def InstructionInfo.isDisplayed : InstructionInfo → Bool
  | .serumAssertOwner => false
  | .splMemo => false
  | _ => true

/-- `display_instruction_info`.  There are never more than `MAX_INSTRUCTIONS` to register. -/
def displayInstructionInfo (parsed : List ParsedInstruction) : List InstructionInfo :=
  (parsed.filter fun p => !p.ignored && p.info.isDisplayed).map (·.info)

/-- What parsing an instruction does to the summary. -/
def InstructionInfo.parseEffects : InstructionInfo → Script
  | .stake info => info.parseEffects
  | _ => []

/-- What an instruction adds to `generate_extension_warning`. -/
def InstructionInfo.generateExtensionWarning : InstructionInfo → Bool
  | .splToken info => info.generateExtensionWarning
  | _ => false

/-- `generate_extension_warning`. -/
def generateExtensionWarning (parsed : List ParsedInstruction) : Bool :=
  parsed.any fun p => p.info.generateExtensionWarning

/-! ## The body -/

/-- What the body holds past its instructions: an empty list of lookup tables in a versioned
message, and nothing else. -/
def parseBodyEnd (header : MessageHeader) : ParseM Unit := do
  if header.versioned then
    let accountTablesLength ← parseLength
    parseBailIf (accountTablesLength > 0)
  let p ← get
  parseBailIf (!parserIsEmpty p)

/-- The parsing part of `process_message_body`, up to the first item: all instructions parsed so
far, and whether printing starts. -/
def parseMessageBody (ctx : TokenContext) (messageBody : Parser) (header : MessageHeader) :
    List ParsedInstruction × Result Unit :=
  if header.instructionsLength = 0 ∨ header.instructionsLength > maxInstructions then
    ([], .error .bail)
  else
    let (parsed, rest) := parseBodyInstructions ctx header header.instructionsLength 0 messageBody
    (parsed, do
      let p ← rest
      let _ ← parseBodyEnd header p
      bailIf (parsed.any fun q => q.info = .unknown))

/-- The printing part of `process_message_body`. -/
def printMessageBody (ctx : TokenContext) (printConfig : PrintConfig)
    (parsed : List ParsedInstruction) : Script :=
  (if generateExtensionWarning parsed then printSplTokenExtensionWarning else [])
    ++ printTransaction ctx printConfig (displayInstructionInfo parsed)

/-- Everything `process_message_body` does to the summary. -/
def messageBodyScript (ctx : TokenContext) (messageBody : Parser) (printConfig : PrintConfig) :
    Script :=
  let (parsed, r) := parseMessageBody ctx messageBody printConfig.header
  parsed.flatMap (·.info.parseEffects) ++
    match r with
    | .ok () => printMessageBody ctx printConfig parsed
    | .error _ => []

/-- **`process_message_body`.** -/
def processMessageBody (ctx : TokenContext) (messageBody : Parser) (printConfig : PrintConfig)
    (s : TransactionSummary) : Result Unit × TransactionSummary :=
  let played := Script.play (messageBodyScript ctx messageBody printConfig) s
  match (parseMessageBody ctx messageBody printConfig.header).2 with
  | .ok () => played
  | .error stop => (.error stop, played.2)

/-! ## Writing messages

The concrete messages of this development are written with these. -/

/-- A token context that knows nothing. -/
def emptyContext : TokenContext :=
  ⟨⟨fun _ => none, fun _ => false, fun _ _ => none⟩, [], none, none⟩

/-- The default display, for the given signer. -/
def plainConfig (header : MessageHeader) (signerPubkey : Ptr Pubkey) : PrintConfig :=
  ⟨header, false, false, false, signerPubkey⟩

/-- The signer of the concrete messages. -/
def plainSigner : Pubkey := ⟨List.replicate 32 1, rfl⟩

/-- An instruction with fewer than 128 accounts and bytes of data. -/
def writeInstruction (program : UInt8) (accounts data : List UInt8) : List UInt8 :=
  [program, accounts.length.toUInt8] ++ accounts ++ [data.length.toUInt8] ++ data

/-- The body of a legacy message with the given keys in front. -/
def legacyBody (keys : List Pubkey) (instructions : List (List UInt8)) : Parser :=
  ⟨4 + 32 * keys.length + 33, instructions.flatten⟩

/-- A legacy message whose one signer is the first of its keys, with the zero blockhash. -/
def legacyMessage (keys : List Pubkey) (instructions : List (List UInt8)) : List UInt8 :=
  [1, 0, 0, keys.length.toUInt8] ++ keys.flatMap (·.data) ++ List.replicate 32 0
    ++ [instructions.length.toUInt8] ++ instructions.flatten

/-- The header of such a message. -/
def legacyHeader (keys : List Pubkey) (h : keys.length < 128) (instructionsLength : ℕ) :
    MessageHeader where
  versioned := false
  version := 0
  pubkeysHeader := ⟨1, 0, 0, keys.length.toUInt16⟩
  pubkeys := keys.mapIdx fun i key => ⟨4 + 32 * i, key⟩
  blockhash := ⟨4 + 32 * keys.length, Block.zero 32⟩
  instructionsLength
  size := by simp; omega

end AgencLedger
