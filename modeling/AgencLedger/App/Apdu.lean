import AgencLedger.Sol.TokenContext

/-!
# App/Apdu — assembling commands

A command comes in one APDU or in several.  `apdu_handle_message` checks the header, reads the
derivation path off the first chunk and appends the rest to the message of the command in progress.

Only `G_command` outlives the call.  Where the call fails the caller clears the command, so the
model returns no command then.
-/

namespace AgencLedger

/-! ## Status words -/

/-- The values of `ApduReply` the app sends. -/
inductive ApduReply
  | sdkInvalidParameter | sdkException | sdkNotSupported
  | noApduReceived | userRefusal
  | solanaInvalidMessage | solanaInvalidMessageHeader | solanaInvalidMessageFormat
  | solanaInvalidMessageSize | solanaInvalidDerivationPath | solanaSummaryFinalizeFailed
  | solanaInvalidInstructionDescriptor | solanaInvalidTrustedInfo | solanaInvalidDynamicToken
  | solanaDelayedPreviewNotFound | solanaDelayedHashMismatch | solanaDelayedLengthMismatch
  | solanaDelayedDerivationMismatch
  | unimplementedInstruction | success
  deriving DecidableEq, Repr

/-! ## Commands -/

/-- `InstructionCode`. -/
inductive InstructionCode
  | deprecatedGetAppConfiguration | deprecatedGetPubkey | deprecatedSignMessage
  | getAppConfiguration | getPubkey | signMessage | signOffchainMessage | signMessagePreview
  | signMessageDelayed | trustedInfoProvideInstructionDescriptor | trustedInfoGetChallenge
  | trustedInfoProvideInfo | trustedInfoProvideDynamicDescriptor
  deriving DecidableEq, Repr

/-- The code behind an instruction byte. -/
def InstructionCode.ofByte (ins : UInt8) : Option InstructionCode :=
  match ins.toNat with
  | 0x01 => some .deprecatedGetAppConfiguration
  | 0x02 => some .deprecatedGetPubkey
  | 0x03 => some .deprecatedSignMessage
  | 0x04 => some .getAppConfiguration
  | 0x05 => some .getPubkey
  | 0x06 => some .signMessage
  | 0x07 => some .signOffchainMessage
  | 0x08 => some .signMessagePreview
  | 0x09 => some .signMessageDelayed
  | 0x16 => some .trustedInfoProvideInstructionDescriptor
  | 0x20 => some .trustedInfoGetChallenge
  | 0x21 => some .trustedInfoProvideInfo
  | 0x22 => some .trustedInfoProvideDynamicDescriptor
  | _ => none

/-- `ApduState`. -/
inductive ApduState
  | uninitialized | payloadInProgress | payloadComplete
  deriving DecidableEq, Repr

/-- `apdu_command_t`.  The message is kept with its length, the path likewise; the `NUL` behind a
complete message is implied. -/
structure Command where
  state : ApduState
  /-- `none` for the zero of a cleared command -/
  instruction : Option InstructionCode
  numDerivationPaths : UInt8
  derivationPath : List UInt32
  nonConfirm : Bool
  isPreviewMode : Bool
  deprecatedHost : Bool
  userInputIsAtaOrTokenAccount : Bool
  messageHash : Hash
  message : List UInt8
  /-- the offset of `message_text_start` in the message -/
  messageTextStart : Option ℕ
  deriving DecidableEq

/-- `MEMCLEAR(G_command)`. -/
def Command.clear : Command where
  state := .uninitialized
  instruction := none
  numDerivationPaths := 0
  derivationPath := []
  nonConfirm := false
  isPreviewMode := false
  deprecatedHost := false
  userInputIsAtaOrTokenAccount := false
  messageHash := Block.zero 32
  message := []
  messageTextStart := none

/-! ## The header -/

/-- `ApduHeader`; `data` is `NULL` when the length byte says so. -/
structure ApduHeader where
  instruction : InstructionCode
  p1 : UInt8
  p2 : UInt8
  data : Option (List UInt8)
  deprecatedHost : Bool
  deriving DecidableEq

/-- `U2BE`. -/
def u2be (a b : UInt8) : ℕ := a.toNat * 256 + b.toNat

/-- The three instructions of the deprecated exchange format. -/
def InstructionCode.isDeprecated : InstructionCode → Bool
  | .deprecatedGetAppConfiguration => true
  | .deprecatedGetPubkey => true
  | .deprecatedSignMessage => true
  | _ => false

/-- `parse_apdu_header`. -/
def parseApduHeader (apdu : List UInt8) : Except ApduReply ApduHeader := do
  if apdu.length ≤ 1 then throw .solanaInvalidMessageSize
  if apdu.getD 0 0 ≠ 0xE0 then throw .solanaInvalidMessageHeader
  let some instruction := InstructionCode.ofByte (apdu.getD 1 0)
    | throw .unimplementedInstruction
  let deprecatedHost := instruction.isDeprecated
  let dataOffset := if deprecatedHost then 6 else 5
  let maxLen := if deprecatedHost then 65535 else 255 + 5
  if apdu.length < dataOffset then throw .solanaInvalidMessageSize
  if apdu.length > maxLen then throw .solanaInvalidMessageSize
  let dataLength := if deprecatedHost then u2be (apdu.getD 4 0) (apdu.getD 5 0)
    else (apdu.getD 4 0).toNat
  if apdu.length ≠ dataLength + dataOffset then throw .solanaInvalidMessageSize
  return { instruction, p1 := apdu.getD 2 0, p2 := apdu.getD 3 0,
           data := if dataLength > 0 then some (apdu.drop dataOffset) else none, deprecatedHost }

/-- `P2_EXTEND`. -/
def p2Extend : UInt8 := 1

/-- `P2_MORE`. -/
def p2More : UInt8 := 2

/-- `P2_IS_ATA_OR_TOKEN_ACCOUNT`. -/
def p2IsAtaOrTokenAccount : UInt8 := 8

/-- `split_allowed_for_instruction`. -/
def splitAllowedForInstruction : InstructionCode → Bool
  | .deprecatedSignMessage => true
  | .signMessage => true
  | .signOffchainMessage => true
  | .signMessagePreview => true
  | .signMessageDelayed => true
  | .trustedInfoProvideInfo => true
  | .trustedInfoProvideDynamicDescriptor => true
  | _ => false

/-- `instruction_with_derivation_path_in_first_apdu`. -/
def instructionWithDerivationPathInFirstApdu : InstructionCode → Bool
  | .trustedInfoProvideInfo => false
  | .trustedInfoProvideDynamicDescriptor => false
  | .trustedInfoProvideInstructionDescriptor => false
  | _ => true

/-- `instruction_without_payload`. -/
def instructionWithoutPayload : InstructionCode → Bool
  | .deprecatedGetAppConfiguration => true
  | .getAppConfiguration => true
  | .trustedInfoGetChallenge => true
  | _ => false

/-- `instruction_with_only_derivation_path_in_payload`. -/
def instructionWithOnlyDerivationPathInPayload : InstructionCode → Bool
  | .deprecatedGetPubkey => true
  | .getPubkey => true
  | _ => false

/-! ## Derivation paths -/

/-- The big-endian words of a path. -/
def pathWords : ℕ → List UInt8 → List UInt32
  | n + 1, a :: b :: c :: d :: data =>
      (a.toUInt32 <<< 24 ||| b.toUInt32 <<< 16 ||| c.toUInt32 <<< 8 ||| d.toUInt32)
        :: pathWords n data
  | _, _ => []

/-- `read_derivation_path`: at most five levels, starting with `m/44'/501'`. -/
def readDerivationPath (data : Option (List UInt8)) : Except ApduReply (List UInt32) :=
  match data with
  | none => throw .sdkInvalidParameter
  | some [] => throw .solanaInvalidMessageSize
  | some (len :: data) => do
      if len.toNat < 1 ∨ len.toNat > 5 then throw .solanaInvalidMessage
      if 4 * len.toNat > data.length then throw .solanaInvalidMessageSize
      let path := pathWords len.toNat data
      if path.take 2 ≠ [0x80000000 ||| 44, 0x80000000 ||| 501] then
        throw .solanaInvalidDerivationPath
      return path

/-! ## Messages -/

/-- `ROUND_TO_NEXT`. -/
def roundToNext (x next : ℕ) : ℕ := if x = 0 then 0 else ((x - 1) / next + 1) * next

/-- `PACKET_DATA_SIZE`. -/
def packetDataSize : ℕ := 15 * 1024 - 40 - 8

/-- `MAX_MESSAGE_LENGTH`; `USB_SEGMENT_SIZE` is the system's. -/
def maxMessageLength (usbSegmentSize : ℕ) : ℕ :=
  roundToNext (packetDataSize + (1 + 5 * 4)) usbSegmentSize

/-- The command a first chunk starts. -/
def Command.start (header : ApduHeader) (state : ApduState) : Command :=
  { Command.clear with
    state, instruction := some header.instruction, nonConfirm := header.p1 = 0,
    deprecatedHost := header.deprecatedHost }

/-- The checks on a further chunk. -/
def checkExtension (header : ApduHeader) (command : Command) : Except ApduReply Unit := do
  if command.state ≠ .payloadInProgress then throw .solanaInvalidMessage
  if command.instruction ≠ some header.instruction then throw .solanaInvalidMessage
  if command.nonConfirm ≠ (header.p1 = 0 : Bool) then throw .solanaInvalidMessage
  if command.deprecatedHost ≠ header.deprecatedHost then throw .solanaInvalidMessage

/-- The derivation path in front of the data of a first chunk, and what follows it. -/
def takeDerivationPath (header : ApduHeader) :
    Except ApduReply (List UInt32 × List UInt8) := do
  let data ← if !header.deprecatedHost && header.instruction ≠ .getPubkey then
      match header.data with
      | none => throw .solanaInvalidMessageSize
      | some [] => throw .solanaInvalidMessageSize
      | some (numDerivationPaths :: data) => do
          if numDerivationPaths ≠ 1 then throw .solanaInvalidMessage
          pure (some data)
    else pure header.data
  let path ← readDerivationPath data
  return (path, (data.getD []).drop (1 + path.length * 4))

/-- The `u16` length in front of a deprecated message. -/
def dropLengthPrefix (data : Option (List UInt8)) : Except ApduReply (Option (List UInt8)) :=
  match data with
  | some (a :: b :: rest) => do
      if rest.length ≠ u2be a b then throw .solanaInvalidMessageSize
      return some rest
  | _ => throw .solanaInvalidMessageSize

/-- Appending the data to the message, with room for the `NUL`. -/
def appendData (maxLength : ℕ) (instruction : InstructionCode) (data : Option (List UInt8))
    (command : Command) : Except ApduReply Command :=
  match data with
  | some data => do
      if command.message.length + data.length ≥ maxLength then throw .solanaInvalidMessageSize
      return { command with message := command.message ++ data }
  | none => do
      if !instructionWithoutPayload instruction
          && !instructionWithOnlyDerivationPathInPayload instruction then
        throw .solanaInvalidMessageSize
      return command

/-- `apdu_handle_message`. -/
def apduHandleMessage (maxLength : ℕ) (apdu : List UInt8) (command : Command) :
    Except ApduReply Command := do
  let header ← parseApduHeader apdu
  if instructionWithoutPayload header.instruction then
    return Command.start header .payloadComplete
  let firstDataChunk :=
    header.p2 &&& p2Extend = 0 || !splitAllowedForInstruction header.instruction
  let command ← if firstDataChunk then pure (Command.start header .payloadInProgress) else do
    checkExtension header command
    pure command
  let (command, data) ← if instructionWithDerivationPathInFirstApdu header.instruction then
      if firstDataChunk then do
        let (path, data) ← takeDerivationPath header
        pure ({ command with numDerivationPaths := 1, derivationPath := path }, some data)
      else do
        if command.numDerivationPaths ≠ 1 then throw .solanaInvalidMessage
        pure (command, header.data)
    else pure (command, header.data)
  let data ← if header.instruction = .deprecatedSignMessage then dropLengthPrefix data
    else pure data
  let command ← appendData maxLength header.instruction data command
  if header.p2 &&& p2More = 0 then
    return { command with
      state := .payloadComplete
      userInputIsAtaOrTokenAccount := header.p2 &&& p2IsAtaOrTokenAccount ≠ 0 }
  return command

end AgencLedger
