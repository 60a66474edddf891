import AgencLedger.App.State

/-!
# App/Descriptor — instruction descriptors: received, saved, and checked against a message

In a cross-chain swap the app is told what each instruction of the message must look like.  The
descriptors come one to an APDU, signed, for the template that Exchange named; the message is then
walked with them, one descriptor to an instruction.
-/

namespace AgencLedger

/-! ## The store -/

/-- `calloc` of the store. -/
def SavedDescriptors.zero : SavedDescriptors where
  readCount := 0
  isMainNet := false
  templateId := 0
  descriptors := []
  size := Nat.zero_le _

/-- `save_instruction_descriptor`. -/
def saveInstructionDescriptor (isMainNet : Bool) (templateId : UInt64)
    (descriptor : InstructionDescriptor) (saved : SavedDescriptors) : Option SavedDescriptors :=
  if h : saved.descriptors.length < maxDiscriminatorNumber then
    let entry : SavedDescriptor := ⟨isMainNet, templateId, descriptor⟩
    let append : SavedDescriptors := { saved with
      descriptors := saved.descriptors ++ [entry], size := by simpa using h }
    if saved.descriptors.length > 0 then
      if isMainNet ≠ saved.isMainNet then none
      else if templateId ≠ saved.templateId then none
      else some append
    else some { append with isMainNet, templateId }
  else none

/-- `get_next_descriptor`. -/
def getNextDescriptor (saved : SavedDescriptors) :
    Option (InstructionDescriptor × SavedDescriptors) :=
  (saved.descriptors[saved.readCount]?).map fun entry =>
    (entry.descriptor, { saved with readCount := saved.readCount + 1 })

/-! ## Receiving a descriptor -/

/-- `tlv_out_t`, without the running hash. -/
structure TlvOut where
  structureType : UInt8
  version : UInt8
  isMainNet : Bool
  templateId : UInt64
  ins : InstructionDescriptor
  signature : List UInt8
  deriving DecidableEq

/-- `{0}`. -/
def TlvOut.zero : TlvOut where
  structureType := 0
  version := 0
  isMainNet := false
  templateId := 0
  ins :=
    { programId := Block.zero 32, discriminator := [], amountSize := 0, amountOffset := 0,
      amountRulesBigEndian := false, amountRulesNegativeOffset := false,
      assetAccountIndex := none, assetAtaIndex := none, recipientAccountIndex := none,
      recipientAtaIndex := none, cappedAmountBps := none, cappedAmountTokenIndex := none }
  signature := []

/-- The handlers of `INSTRUCTION_DESCRIPTOR_TLV_TAGS`. -/
def handleDescriptorTag (tlv : TlvSdk) (out : TlvOut) (item : TlvItem) : Option TlvOut :=
  let ins := out.ins
  match item.tag with
  | 0x01 => do return { out with structureType := ← tlv.getU8 item.value }
  | 0x02 => do return { out with version := ← tlv.getU8 item.value }
  | 0x23 => do
      let chainId ← tlv.getU32 item.value
      if chainId ≠ 900 ∧ chainId ≠ 901 then none else return { out with isMainNet := chainId = 900 }
  | 0x90 => do return { out with templateId := ← tlv.getU64 item.value }
  | 0x91 => do
      let bytes ← tlvBuffer item.value 32 32
      return { out with ins := { ins with programId := Block.ofBytes 32 bytes } }
  | 0x92 => do
      let bytes ← tlvBuffer item.value 0 8
      return { out with ins := { ins with discriminator := bytes } }
  | 0x93 => do return { out with ins := { ins with amountSize := ← tlv.getU8 item.value } }
  | 0x94 => do return { out with ins := { ins with amountOffset := ← tlv.getU8 item.value } }
  | 0x95 => do
      let amountRules ← tlv.getU8 item.value
      let bigEndian : Bool := amountRules &&& 1 = 1
      let negativeOffset : Bool := amountRules &&& 2 = 2
      return { out with ins := { ins with
        amountRulesBigEndian := bigEndian, amountRulesNegativeOffset := negativeOffset } }
  | 0x96 => do return { out with ins := { ins with assetAccountIndex := ← tlv.getU8 item.value } }
  | 0x97 => do return { out with ins := { ins with assetAtaIndex := ← tlv.getU8 item.value } }
  | 0x98 => do
      return { out with ins := { ins with recipientAccountIndex := ← tlv.getU8 item.value } }
  | 0x99 => do return { out with ins := { ins with recipientAtaIndex := ← tlv.getU8 item.value } }
  | 0x9a => do return { out with ins := { ins with cappedAmountBps := ← tlv.getU16 item.value } }
  | 0x9b => do
      return { out with ins := { ins with cappedAmountTokenIndex := ← tlv.getU8 item.value } }
  | 0x15 => do
      let signature ← tlvBuffer item.value tlv.derSignatureSize.1 tlv.derSignatureSize.2
      return { out with signature }
  | _ => none

/-- `parse_instruction_descriptor`, with the tags received. -/
def parseInstructionDescriptor (tlv : TlvSdk) (payload : List UInt8) :
    Option (List TlvItem × TlvOut) := do
  let items ← tlv.instructionDescriptor payload
  let out ← items.foldlM (handleDescriptorTag tlv) TlvOut.zero
  return (items, out)

/-- `TLV_CHECK_RECEIVED_TAGS`. -/
def tlvCheckReceivedTags (items : List TlvItem) (tags : List ℕ) : Bool :=
  tags.all fun tag => items.any fun item => item.tag = tag

/-- The checks of `handle_provide_instruction_descriptor_internal` on a parsed payload, in order:
the error the first failed one sends. -/
def checkDescriptor (env : Env) (swap : SwapValidated) (items : List TlvItem) (out : TlvOut) :
    Except Outcome Unit := do
  let received := tlvCheckReceivedTags items
  if !received [0x01] then throw (.swapError .descriptorMissingStructType)
  if out.structureType ≠ 0x0a then throw (.swapError .descriptorUnexpectedStructType)
  if !received [0x02, 0x23, 0x90, 0x91, 0x92, 0x15] then throw (.swapError .descriptorMissingFields)
  if out.version = 0 ∨ out.version > 1 then throw (.swapError .descriptorUnsupportedVersion)
  if received [0x9b] && !received [0x9a] then throw (.swapError .descriptorInvalidCappedFields)
  if received [0x9a] && out.ins.amountSize = 0 then
    throw (.swapError .descriptorInvalidCappedFields)
  if !checkTemplateId swap out.templateId then throw (.swapError .templateIdMismatch)
  -- the hash covers every item but the signature
  let hashed := (items.filter fun item => item.tag ≠ 0x15).flatMap (·.raw)
  match env.sdk.sha256 hashed with
  | none => throw .exit
  | some hash =>
      if !env.tlv.checkSignatureWithPki hash out.signature then
        throw (.swapError .descriptorSignatureFailed)

/-- `handle_provide_instruction_descriptor`; `memory` tells whether the store can be allocated. -/
def handleProvideInstructionDescriptor (env : Env) (memory : Bool) (app : App) : Outcome × App :=
  if !app.calledFromSwap then app.sendSw .solanaInvalidInstructionDescriptor
  else
    match parseInstructionDescriptor env.tlv app.command.message with
    | none => (.swapError .descriptorParseFailed, app)
    | some (items, out) =>
        match checkDescriptor env app.swap items out with
        | .error outcome => (outcome, app)
        | .ok () =>
            match app.savedDescriptors, memory with
            | none, false => (.swapError .descriptorSaveFailed, app)
            | _, _ =>
                let saved := app.savedDescriptors.getD SavedDescriptors.zero
                match saveInstructionDescriptor out.isMainNet out.templateId out.ins saved with
                | none => (.swapError .descriptorSaveFailed, app)
                | some saved => ({ app with savedDescriptors := some saved } : App).sendSw .success

/-! ## Checking an instruction -/

/-- `safe_mul_bps_div10000`. -/
def safeMulBpsDiv10000 (a : UInt64) (b : UInt16) : Option UInt64 :=
  let prodLo := (a &&& 0xffffffff) * b.toUInt64
  let prodHi := (a >>> 32) * b.toUInt64
  let qHi := prodHi / 10000
  let rHi := prodHi % 10000
  if qHi > 0xffffffff then none
  else
    let hiPart := qHi <<< 32
    let loPart := ((rHi <<< 32) + prodLo) / 10000
    if loPart > 0xffffffffffffffff - hiPart then none else some (hiPart + loPart)

/-- `read_amount_using_descriptor`. -/
def readAmountUsingDescriptor (instruction : Instruction) (descriptor : InstructionDescriptor) :
    Option UInt64 :=
  let data := instruction.data.val
  let amountOffset := descriptor.amountOffset.toNat
  let amountSize := descriptor.amountSize.toNat
  if descriptor.amountRulesNegativeOffset && decide (amountOffset > data.length) then none
  else
    let offset := if descriptor.amountRulesNegativeOffset then data.length - amountOffset
      else amountOffset
    if offset + amountSize > data.length then none
    else if amountSize > 8 then none
    else
      let amount := (data.drop offset).take amountSize
      some (u8be (if descriptor.amountRulesBigEndian then amount else amount.reverse))

/-- The amount check of `validate_instruction_using_descriptor`. -/
def checkDescriptorAmount (swap : SwapValidated) (instruction : Instruction)
    (descriptor : InstructionDescriptor) : Bool :=
  descriptor.amountSize = 0 ||
    match readAmountUsingDescriptor instruction descriptor with
    | none => false
    | some amountValue =>
        match descriptor.cappedAmountBps with
        | none => checkSwapAmountRaw swap amountValue
        | some bps =>
            match getSwapAmountRaw swap with
            | none => false
            | some swapAmount =>
                match safeMulBpsDiv10000 swapAmount bps with
                | none => false
                | some cap => amountValue ≤ cap

/-- An account the descriptor points to must be there and pass a check; without an index there is
nothing to check. -/
def checkDescriptorAccount (header : MessageHeader) (instruction : Instruction)
    (index : Option UInt8) (check : Pubkey → Bool) : Result Bool :=
  match index with
  | none => .ok true
  | some index => do
      match ← getAccountFromIns instruction header index with
      | none => return false
      | some account => return check account.val

/-- `validate_instruction_using_descriptor`, with the store as it leaves it when it returns `0`. -/
def validateInstructionUsingDescriptor (env : Env) (app : App) (saved : SavedDescriptors)
    (header : MessageHeader) (instruction : Instruction) : Result SavedDescriptors := do
  let some (mint, isToken2022Kind) :=
      (getSwapTicker app.swap).bind (getTokenMintAddress (app.tokenContext env))
    | throw .bail
  let some recipient := getSwapRecipient app.swap env.sdk
    | throw .bail
  let some (descriptor, saved) := getNextDescriptor saved
    | throw .bail
  let programId ← programIdKey instruction header
  bailIf (programId.val ≠ descriptor.programId)
  bailIf (instruction.data.val.take descriptor.discriminator.length ≠ descriptor.discriminator)
  bailIf (!checkDescriptorAmount app.swap instruction descriptor)
  let account := checkDescriptorAccount header instruction
  let validateAta := fun owner ata =>
    validateAssociatedTokenAddress env.sdk owner mint ata isToken2022Kind
  bailIf (!(← account descriptor.cappedAmountTokenIndex (· = mint)))
  bailIf (!(← account descriptor.assetAccountIndex (· = mint)))
  bailIf (!(← account descriptor.assetAtaIndex fun ata =>
    match env.getPublicKey app.command.derivationPath with
    | none => false
    | some signer => validateAta signer ata))
  bailIf (!(← account descriptor.recipientAccountIndex (· = recipient)))
  bailIf (!(← account descriptor.recipientAtaIndex (validateAta recipient)))
  return saved

/-! ## Walking a message -/

/-- The loop of `process_message_body_with_descriptor`. -/
def walkWithDescriptors (env : Env) (app : App) (header : MessageHeader) :
    ℕ → SavedDescriptors → Parser → Result (SavedDescriptors × Parser)
  | 0, saved, p => .ok (saved, p)
  | n + 1, saved, p => do
      let (instruction, p) ← parseValidateAndDebugInstructionAccounts header p
      let saved ← validateInstructionUsingDescriptor env app saved header instruction
      walkWithDescriptors env app header n saved p

/-- `process_message_body_with_descriptor`. -/
def processMessageBodyWithDescriptor (env : Env) (app : App) (messageBody : Parser)
    (header : MessageHeader) : Result Unit := do
  bailIf (header.instructionsLength = 0)
  let some saved := app.savedDescriptors
    | throw .bail
  bailIf (saved.descriptors.length ≠ header.instructionsLength)
  let (_, p) ← walkWithDescriptors env app header header.instructionsLength saved messageBody
  bailIf (!parserIsEmpty p)

end AgencLedger
