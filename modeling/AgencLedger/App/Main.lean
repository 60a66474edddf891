import AgencLedger.App.OffchainMessage
import AgencLedger.App.Preview
import AgencLedger.App.Provide
import AgencLedger.Library.Run

/-!
# App/Main — the main loop: APDUs in, and the user's choices

The main loop hands one APDU after the other to `handle_apdu`, also while a screen waits for the
user; the user may answer the screen between any two of them.  An `Event` is one or the other, and
`App.step` is what it does.
-/

namespace AgencLedger

/-- `MAJOR_VERSION`, `MINOR_VERSION` and `PATCH_VERSION` of the build. -/
def appVersion : List UInt8 := [1, 16, 0]

/-- `handle_get_pubkey`. -/
def handleGetPubkey (env : Env) (app : App) : Outcome × App :=
  match env.getPublicKey app.command.derivationPath with
  | none => app.sendSw .sdkException
  | some publicKey =>
      let app := { app with publicKey }
      if app.command.nonConfirm then (.response publicKey.data, app)
      else (.pending, { app with screen := .address })

/-- The `switch` of `handle_apdu` over a complete command. -/
def dispatch (env : Env) (frame : ℕ → Hash) (memory : Bool) (app : App) :
    InstructionCode → Outcome × App
  | .deprecatedGetAppConfiguration | .getAppConfiguration =>
      (.response ([if app.settings.allowBlindSign then 1 else 0,
        if app.settings.longPubkeys then 0 else 1] ++ appVersion), app)
  | .deprecatedGetPubkey | .getPubkey => handleGetPubkey env app
  | .deprecatedSignMessage | .signMessage => handleSignMessageParseMessage env frame app
  | .signMessagePreview =>
      if app.calledFromSwap then app.sendSw .sdkNotSupported
      else
        handleSignMessageParseMessage env frame
          { app with command := { app.command with isPreviewMode := true } }
  | .signMessageDelayed => handleSignMessageDelayed env app
  | .signOffchainMessage => handleSignOffchainMessage env app
  | .trustedInfoProvideInstructionDescriptor => handleProvideInstructionDescriptor env memory app
  | .trustedInfoGetChallenge => handleGetChallenge app
  | .trustedInfoProvideInfo => handleProvideTrustedInfo env memory app
  | .trustedInfoProvideDynamicDescriptor => handleProvideDynamicDescriptor env memory app

/-- `handle_apdu`, from the command `apdu_handle_message` leaves. -/
def handleCommand (env : Env) (frame : ℕ → Hash) (memory : Bool) (app : App) : Outcome × App :=
  match app.command.state, app.command.instruction with
  | .payloadInProgress, _ => app.sendSw .success
  | _, none => app.sendSw .unimplementedInstruction
  | _, some instruction =>
      let app := if instruction = .signMessageDelayed then app else app.clearPreviewState
      dispatch env frame memory app instruction

/-- `handle_apdu`, on the bytes of an APDU that is not empty. -/
def handleApdu (env : Env) (frame : ℕ → Hash) (memory : Bool) (apdu : List UInt8) (app : App) :
    Outcome × App :=
  match apduHandleMessage (maxMessageLength env.usbSegmentSize) apdu app.command with
  | .error sw => { app with command := .clear }.sendSw sw
  | .ok command => handleCommand env frame memory { app with command }

/-! ## Events -/

/-- What can happen to the app.  `memory` tells whether an allocation succeeds, `frame` what the
stack holds past the frames in use. -/
inductive Event
  | apdu (bytes : List UInt8) (memory : Bool) (frame : ℕ → Hash)
  | choice (confirm memory : Bool)
  /-- the user changes the settings -/
  | setSettings (settings : AppSettings)

/-- The answer of the user to the screen. -/
def App.choose (env : Env) (app : App) (confirm memory : Bool) : Outcome × App :=
  match app.screen with
  | .review reviewed => reviewChoice env memory confirm reviewed app
  | .address =>
      let app := { app with screen := .page }
      if confirm then (.response app.publicKey.data, app) else app.sendSw .userRefusal
  | _ => (.pending, { app with screen := .idle })

/-- What an event does, and what the app answers. -/
def App.react (env : Env) (app : App) : Event → Outcome × App
  | .apdu bytes memory frame =>
      if bytes.isEmpty then app.sendSw .noApduReceived
      else handleApdu env frame memory bytes app
  | .choice confirm memory => app.choose env confirm memory
  | .setSettings settings => (.pending, { app with settings })

/-- **One step of the app.**  An app that was left does nothing any more. -/
def App.step (env : Env) (app : App) (event : Event) : App :=
  if app.running then
    let (outcome, app) := app.react env event
    { app with running := outcome.returns }
  else app

/-- `app_main`, up to the loop: the globals are zero but for what Exchange has saved. -/
def App.start (env : Env) (calledFromSwap : Bool) (swap : SwapValidated) (settings : AppSettings) :
    App :=
  { command := .clear
    calledFromSwap
    swapResponseReady := false
    settings
    summary := .reset
    buffers := .reset
    trustedInfo := none
    dynamicTokenInfo := none
    savedDescriptors := none
    swap
    previewState := none
    challenge := env.rng 0
    draws := 1
    publicKey := Block.zero 32
    screen := .idle
    running := true
    approvals := []
    signed := [] }

/-- The app as Exchange starts it: only with parameters that were saved. -/
def App.startFromExchange (env : Env) (params : CreateTransactionParameters)
    (settings : AppSettings) : Option App :=
  (swapCopyTransactionParameters env.swapSdk params).map fun swap =>
    App.start env true swap settings

/-- The app of a concrete run, started from the dashboard: with a complete command to sign a message
and blind signing on. -/
def App.plain (env : Env) (message : List UInt8) : App :=
  { App.start env false .zero ⟨true, false, false⟩ with
    command := { Command.clear with
      state := .payloadComplete, instruction := some .signMessage, numDerivationPaths := 1
      derivationPath := [0x8000002c, 0x800001f5], message } }

/-- An APDU of the current exchange format, complete, with its confirmation byte. -/
def writeApdu (ins p1 : UInt8) (data : List UInt8) : List UInt8 :=
  [0xE0, ins, p1, 0, data.length.toUInt8] ++ data

/-- The path `m/44'/501'` as a chunk has it. -/
def plainPath : List UInt8 := [2, 0x80, 0, 0, 44, 0x80, 0, 1, 0xF5]

/-- An APDU that comes with a stack of zeros and memory to allocate. -/
def Event.plain (bytes : List UInt8) : Event := .apdu bytes true fun _ => Block.zero 32

end AgencLedger
