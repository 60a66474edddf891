import AgencLedger.App.SignMessage

/-!
# App/OffchainMessage — signing an off-chain message

The text of a message is shown as it is when it is ASCII; UTF-8 beyond that needs blind signing.
-/

namespace AgencLedger

/-! ## Text -/

/-- `is_data_ascii`: printable characters and line feeds. -/
def isDataAscii (data : List UInt8) : Bool :=
  data.all fun b => !((b < 0x20 && b ≠ 0x0A) || b > 0x7e)

/-- `10xxxxxx`. -/
def isContinuation (b : UInt8) : Bool := b &&& 0xc0 = 0x80

/-- `is_data_utf8`; the first argument bounds the passes by the length of the data. -/
def isDataUtf8Loop : ℕ → List UInt8 → Bool
  | _, [] => true
  | 0, _ => false
  | fuel + 1, a :: data =>
      if a < 0x80 then isDataUtf8Loop fuel data
      else if a &&& 0xe0 = 0xc0 then
        match data with
        | b :: data =>
            if !isContinuation b || a &&& 0xfe = 0xc0 then false else isDataUtf8Loop fuel data
        | _ => false
      else if a &&& 0xf0 = 0xe0 then
        match data with
        | b :: c :: data =>
            if !isContinuation b || !isContinuation c
                || (a = 0xe0 && b &&& 0xe0 = 0x80) -- overlong
                || (a = 0xed && b &&& 0xe0 = 0xa0) -- surrogate
                || (a = 0xef && b = 0xbf && c &&& 0xfe = 0xbe) -- U+FFFE or U+FFFF
            then false else isDataUtf8Loop fuel data
        | _ => false
      else if a &&& 0xf8 = 0xf0 then
        match data with
        | b :: c :: d :: data =>
            if !isContinuation b || !isContinuation c || !isContinuation d
                || (a = 0xf0 && b &&& 0xf0 = 0x80) -- overlong
                || (a = 0xf4 && b > 0x8f) || a > 0xf4 -- above U+10FFFF
            then false else isDataUtf8Loop fuel data
        | _ => false
      else false

/-- `is_data_utf8`. -/
def isDataUtf8 (data : List UInt8) : Bool := isDataUtf8Loop data.length data

/-! ## Items -/

/-- A setter on a slot that is not looked at. -/
def putItem (s : TransactionSummary) (slot : Slot) (title : String) (value : SummaryValue) :
    Result TransactionSummary :=
  match s.put slot ⟨title, value⟩ with
  | some s => .ok s
  | none => .error .nullItem

/-- `ui_application_domain`. -/
def uiApplicationDomain (header : OffchainMessageHeader) (s : TransactionSummary) :
    Result TransactionSummary :=
  match header.applicationDomain with
  | none => .ok s
  | some domain =>
      if domain.val = Block.zero 32 then
        putItem s .general "Application" (.string (.lit "Domain not provided"))
      else putItem s .general "Application" (.applicationDomain domain)

/-- `prepare_primary_items`, with whether it set a primary item. -/
def preparePrimaryItems (expertMode isAscii : Bool) (messageHash : Hash)
    (header : OffchainMessageHeader) (signer : Ptr Pubkey) (s : TransactionSummary) :
    Result (TransactionSummary × Bool) :=
  if expertMode then do
    let s ← putItem s s.primaryOrGeneral "Signer" (.pubkey signer)
    let s ← if header.signers.length > 1 then
        putItem s .general "Other signers" (.u64 header.signers.length.toUInt64)
      else .ok s
    let s ← uiApplicationDomain header s
    let s ← putItem s .general "Version" (.u64 header.version.toUInt64)
    let s ← if header.version = 0 then putItem s .general "Format" (.u64 header.format.toUInt64)
      else .ok s
    let s ← putItem s .general "Size" (.u64 header.length.toUInt64)
    let s ← putItem s .general "Hash" (.hash (.global messageHash))
    return (s, true)
  else if !isAscii then do
    let s ← putItem s s.primaryOrGeneral "Hash" (.hash (.global messageHash))
    return (s, true)
  else .ok (s, false)

/-! ## The handler -/

/-- The checks of `handle_sign_offchain_message` on the header and the content behind it. -/
def checkOffchainHeader (header : OffchainMessageHeader) (content : List UInt8) :
    Except ApduReply Unit := do
  if header.version > 1 ∨ header.length = 0 ∨ header.length.toNat ≠ content.length
      ∨ header.signers.length = 0 then throw .solanaInvalidMessageHeader
  if header.version = 0 ∧ header.format > 1 then throw .solanaInvalidMessageHeader

/-- `setup_offchain_signing_ui`. -/
def setupOffchainSigningUi (header : OffchainMessageHeader) (isAscii : Bool) (signer : Ptr Pubkey)
    (app : App) : Outcome × App :=
  match preparePrimaryItems app.settings.expertMode isAscii app.command.messageHash header signer
      .reset with
  | .error stop => (.stopped stop, app)
  | .ok (summary, hasPrimaryItem) =>
      let app := { app with summary, buffers := .reset }
      if hasPrimaryItem && summary.primary.isNone then app.sendSw .solanaSummaryFinalizeFailed
      else app.startReview

/-- `handle_sign_offchain_message`. -/
def handleSignOffchainMessage (env : Env) (app : App) : Outcome × App :=
  if app.command.nonConfirm then app.sendSw .sdkNotSupported
  else if app.command.message.length > packetDataSize then app.sendSw .solanaInvalidMessageSize
  else
    match parseOffchainMessageHeader ⟨0, app.command.message⟩ with
    | .error .bail => app.sendSw .solanaInvalidMessageHeader
    | .error stop => (.stopped stop, app)
    | .ok (header, p) =>
        let app := { app with command := { app.command with
          messageTextStart := some (offchainMessageHeaderLength header) } }
        match checkOffchainHeader header p.buffer with
        | .error sw => app.sendSw sw
        | .ok () =>
            match env.getPublicKey app.command.derivationPath with
            | none => app.sendSw .sdkException
            | some publicKey =>
                match (getPubkeyIndex publicKey header.signers).bind (header.signers[·]?) with
                | none => app.sendSw .solanaInvalidMessageHeader
                | some signer =>
                    let isAscii := isDataAscii p.buffer
                    if !(isAscii || isDataUtf8 p.buffer) then
                      app.sendSw .solanaInvalidMessageFormat
                    else if header.version = 0 && !isAscii && header.format = 0 then
                      app.sendSw .solanaInvalidMessageFormat
                    else if !isAscii && !app.settings.allowBlindSign then
                      { app with screen := .page }.sendSw .sdkNotSupported
                    else
                      let messageHash := if !isAscii || app.settings.expertMode then
                          (env.sdk.sha256 p.buffer).getD app.command.messageHash
                        else app.command.messageHash
                      setupOffchainSigningUi header isAscii signer
                        { app with command := { app.command with messageHash } }

end AgencLedger
