import AgencLedger.App.Swap
import AgencLedger.Sol.Message

/-!
# App/State — the app's globals, and what a handler may do

`App` gathers the globals that outlive an APDU.  A handler takes the globals and gives back the new
ones with an `Outcome`: it answered, it put up a screen and will answer later, or it never returned.

Two fields are there for the statements only: which commands were approved on a review, and what was
signed.
-/

namespace AgencLedger

/-! ## The system -/

/-- An item of a TLV payload. -/
structure TlvItem where
  tag : ℕ
  value : List UInt8
  raw : List UInt8
  deriving DecidableEq

/-- `tlv_trusted_name_out_t`, where the use case succeeds. -/
structure TrustedName where
  sourceContractReceived : Bool
  challengeReceived : Bool
  challenge : UInt32
  isContextAddress : Bool
  isDynamicResolver : Bool
  address : List UInt8
  trustedName : List UInt8
  sourceContract : List UInt8
  deriving DecidableEq

/-- `tlv_dynamic_descriptor_out_t`, where the use case succeeds. -/
structure DynamicDescriptor where
  tuid : List UInt8
  coinType : UInt32
  ticker : CString
  magnitude : UInt8
  deriving DecidableEq

/-- The system's TLV library. -/
structure TlvSdk where
  /-- the items of an instruction descriptor, with their tags known and unique -/
  instructionDescriptor : List UInt8 → Option (List TlvItem)
  /-- the items of a token's unique id, likewise -/
  tuid : List UInt8 → Option (List TlvItem)
  getU8 : List UInt8 → Option UInt8
  getU16 : List UInt8 → Option UInt16
  getU32 : List UInt8 → Option UInt32
  getU64 : List UInt8 → Option UInt64
  /-- `tlv_use_case_trusted_name` -/
  trustedName : List UInt8 → Option TrustedName
  /-- `tlv_use_case_dynamic_descriptor` -/
  dynamicDescriptor : List UInt8 → Option DynamicDescriptor
  /-- `DER_SIGNATURE_MIN_SIZE`, `DER_SIGNATURE_MAX_SIZE` -/
  derSignatureSize : ℕ × ℕ
  /-- `check_signature_with_pki` -/
  checkSignatureWithPki : Hash → List UInt8 → Bool

/-- `get_buffer_from_tlv_data`. -/
def tlvBuffer (value : List UInt8) (minSize maxSize : ℕ) : Option (List UInt8) :=
  if minSize ≤ value.length ∧ value.length ≤ maxSize then some value else none

/-- Everything the app calls that is not its own code. -/
structure Env where
  sdk : Sdk
  swapSdk : SwapSdk
  tlv : TlvSdk
  tokenRegistry : List TokenInfo
  usbSegmentSize : ℕ
  /-- `get_public_key` -/
  getPublicKey : List UInt32 → Option Pubkey
  /-- `bip32_derive_with_seed_eddsa_sign_hash_256` -/
  sign : List UInt32 → List UInt8 → Option (Block 64)
  /-- SHA-512 of a message -/
  sha512 : List UInt8 → Option (Block 64)
  /-- `cx_rng_u32`, by the number of the draw -/
  rng : ℕ → UInt32

/-- The environment of the concrete runs: the given system functions, one key, Exchange's formats
as the system reads them, and a TLV library that has nothing to read. -/
def Env.plain (sdk : Sdk) (signer : Pubkey) : Env where
  sdk
  swapSdk :=
    { parseConfig := fun config =>
        match config with
        | [] => none
        | tickerLength :: rest =>
            (rest[tickerLength.toNat]?).map fun decimals =>
              (CString.ofBuffer ((rest.take tickerLength.toNat).map charOfByte), decimals)
      strToU64 := fun bytes => if bytes.length ≤ 8 then some (u8be bytes) else none
      maxPrintableAmountSize := 50
      one_lt_maxPrintableAmountSize := by decide }
  tlv :=
    { instructionDescriptor := fun _ => none
      tuid := fun _ => none
      getU8 := fun bytes => bytes.head?
      getU16 := fun bytes => some (u8be bytes).toUInt16
      getU32 := fun bytes => some (u8be bytes).toUInt32
      getU64 := fun bytes => some (u8be bytes)
      trustedName := fun _ => none
      dynamicDescriptor := fun _ => none
      derSignatureSize := (70, 72)
      checkSignatureWithPki := fun _ _ => true }
  tokenRegistry := []
  usbSegmentSize := 64
  getPublicKey := fun _ => some signer
  sign := fun _ _ => some (Block.zero 64)
  sha512 := fun _ => some (Block.zero 64)
  rng := fun _ => 0

/-- An address as the bytes of its characters. -/
def bytesOfAddress (address : String) : List UInt8 :=
  address.toList.map fun c => c.toNat.toUInt8

/-- An environment in which a payload of one byte names the wallet as the owner of a token
account. -/
def Env.naming (account mint : String) : Env :=
  let env := Env.plain walletSdk plainSigner
  { env with
    tlv := { env.tlv with
      trustedName := fun payload => if payload = [7] then
        some ⟨true, true, 0, true, true,
          bytesOfAddress "LbUiWL3xVV8hTFYBVdbTNrpDo41NKS6o3LHHuDzjfcY", bytesOfAddress account,
          bytesOfAddress mint⟩ else none } }

/-! ## Globals -/

/-- `instruction_descriptor_t`.  An index, or the cap, is there when its `_received` flag is set. -/
structure InstructionDescriptor where
  programId : Pubkey
  discriminator : List UInt8
  amountSize : UInt8
  amountOffset : UInt8
  amountRulesBigEndian : Bool
  amountRulesNegativeOffset : Bool
  assetAccountIndex : Option UInt8
  assetAtaIndex : Option UInt8
  recipientAccountIndex : Option UInt8
  recipientAtaIndex : Option UInt8
  cappedAmountBps : Option UInt16
  cappedAmountTokenIndex : Option UInt8
  deriving DecidableEq

/-- `MAX_DISCRIMINATOR_NUMBER`. -/
def maxDiscriminatorNumber : ℕ := 15

/-- A descriptor in the store, with the network and the template its payload named. -/
structure SavedDescriptor where
  isMainNet : Bool
  templateId : UInt64
  descriptor : InstructionDescriptor
  deriving DecidableEq

/-- `saved_descriptors_t`; `saved_count` is the length of the list. -/
structure SavedDescriptors where
  readCount : ℕ
  isMainNet : Bool
  templateId : UInt64
  descriptors : List SavedDescriptor
  size : descriptors.length ≤ maxDiscriminatorNumber
  deriving DecidableEq

/-- `preview_state_t`, initialized. -/
structure PreviewState where
  messageHashWithZeroBlockhash : Block 64
  messageLength : ℕ
  derivationPath : List UInt32
  deriving DecidableEq

/-- `AppSettings`. -/
structure AppSettings where
  allowBlindSign : Bool
  longPubkeys : Bool
  expertMode : Bool
  deriving DecidableEq

/-- What an approval uses of a command. -/
structure CommandData where
  message : List UInt8
  derivationPath : List UInt32
  isPreviewMode : Bool
  deriving DecidableEq

/-- The data an approval would use now. -/
def Command.data (command : Command) : CommandData :=
  ⟨command.message, command.derivationPath, command.isPreviewMode⟩

/-- What is on the screen. -/
inductive Screen
  | idle
  /-- a review that ends in `review_choice`, with the command it was built from -/
  | review (reviewed : CommandData)
  | address
  /-- a page with nothing to sign: a status, a warning, a spinner -/
  | page
  deriving DecidableEq

/-- A run of `review_choice(true)`: what was reviewed and what was used. -/
structure Approval where
  reviewed : CommandData
  used : CommandData
  deriving DecidableEq

/-- The globals of the app. -/
structure App where
  command : Command
  calledFromSwap : Bool
  swapResponseReady : Bool
  settings : AppSettings
  summary : TransactionSummary
  buffers : DisplayBuffers
  trustedInfo : Option TrustedInfo
  dynamicTokenInfo : Option DynamicTokenInfo
  savedDescriptors : Option SavedDescriptors
  swap : SwapValidated
  previewState : Option PreviewState
  challenge : UInt32
  draws : ℕ
  publicKey : Pubkey
  screen : Screen
  running : Bool
  /-- every `review_choice(true)` so far -/
  approvals : List Approval
  /-- every call of `set_result_sign_message` so far: path and message -/
  signed : List (List UInt32 × List UInt8)
  deriving DecidableEq

/-- What the token parsers and printers see of the app. -/
def App.tokenContext (app : App) (env : Env) : TokenContext where
  sdk := env.sdk
  tokenRegistry := env.tokenRegistry
  trustedInfo := app.trustedInfo
  dynamicTokenInfo := app.dynamicTokenInfo

/-! ## Outcomes -/

/-- `swap_error_application_specific_code_t`. -/
inductive SwapErrorCode
  | generic | templateIdMismatch | descriptorParseFailed | descriptorMissingStructType
  | descriptorUnexpectedStructType | descriptorMissingFields | descriptorUnsupportedVersion
  | descriptorSignatureFailed | descriptorSaveFailed | invalidSwapProtocol
  | crosschainInStandardCheck | transferCheckedWithFeesRequired | transferHookRefused
  | descriptorInfoMissing | ataValidationFailed | duplicateAmount | unexpectedTokenContext
  | previewNotSupported | descriptorProcessingFailed | blindSigningRefused
  | descriptorInvalidCappedFields
  deriving DecidableEq, Repr

/-- How a handler ends. -/
inductive Outcome
  /-- `io_send_sw` -/
  | status (sw : ApduReply)
  /-- `io_send_response_pointer` -/
  | response (data : List UInt8)
  /-- nothing was sent: a screen will answer -/
  | pending
  /-- `swap_finalize` was reached; it signs, answers and leaves the app -/
  | swapFinalize (data : Option (Block 64))
  /-- `send_swap_error_*`, which does not return -/
  | swapError (code : SwapErrorCode)
  /-- `os_sched_exit` or a failed assertion of the system -/
  | exit
  /-- no defined next state -/
  | stopped (stop : Stop)
  deriving DecidableEq

/-- Whether the app goes on after an outcome. -/
def Outcome.returns : Outcome → Bool
  | .status _ => true
  | .response _ => true
  | .pending => true
  | _ => false

namespace App

variable (app : App)

/-- `io_send_sw`. -/
def sendSw (sw : ApduReply) : Outcome × App := (.status sw, app)

/-- `reset_saved_descriptors`. -/
def resetSavedDescriptors : App := { app with savedDescriptors := none }

/-- `reset_trusted_info`. -/
def resetTrustedInfo : App := { app with trustedInfo := none }

/-- `reset_dynamic_token_info`. -/
def resetDynamicTokenInfo : App := { app with dynamicTokenInfo := none }

/-- `clear_preview_state`. -/
def clearPreviewState : App := { app with previewState := none }

/-- `set_result_sign_message`. -/
def setResultSignMessage (env : Env) : Option (Block 64) × App :=
  (env.sign app.command.derivationPath app.command.message,
    { app with signed := app.signed ++ [(app.command.derivationPath, app.command.message)] })

/-- `roll_challenge`. -/
def rollChallenge (env : Env) : App :=
  { app with challenge := env.rng app.draws, draws := app.draws + 1 }

end App

end AgencLedger
