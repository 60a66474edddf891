import AgencLedger.App.SignMessage

/-!
# App/Preview — preview now, sign later

A preview is reviewed like a transaction, but its approval stores a fingerprint of the message with
the blockhash zeroed.  A delayed command whose message has that fingerprint is then signed without
another review.
-/

namespace AgencLedger

/-- `hash_message_with_zeroed_blockhash`. -/
def hashMessageWithZeroedBlockhash (env : Env) (message : List UInt8) : Option (Block 64) :=
  match parseMessageHeader ⟨0, message⟩ with
  | .error _ => none
  | .ok (header, _) =>
      let beforeLen := header.blockhash.addr
      env.sha512 (message.take beforeLen ++ List.replicate 32 0 ++ message.drop (beforeLen + 32))

/-- `store_preview_fingerprint`; `memory` tells whether the state can be allocated. -/
def storePreviewFingerprint (env : Env) (memory : Bool) (app : App) : Bool × App :=
  if !memory then (false, app)
  else
    match hashMessageWithZeroedBlockhash env app.command.message with
    | none => (false, app.clearPreviewState)
    | some messageHashWithZeroBlockhash =>
        (true, { app with previewState := some {
          messageHashWithZeroBlockhash, messageLength := app.command.message.length,
          derivationPath := app.command.derivationPath } })

/-- `verify_delayed_message_matches_preview`. -/
def verifyDelayedMessageMatchesPreview (env : Env) (command : Command) (preview : PreviewState) :
    ApduReply :=
  if command.message.length ≠ preview.messageLength then .solanaDelayedLengthMismatch
  else if command.derivationPath ≠ preview.derivationPath then .solanaDelayedDerivationMismatch
  else
    match hashMessageWithZeroedBlockhash env command.message with
    | none => .solanaInvalidMessage
    | some computedHash =>
        if computedHash ≠ preview.messageHashWithZeroBlockhash then .solanaDelayedHashMismatch
        else .success

/-- `handle_sign_message_delayed_internal`. -/
def handleSignMessageDelayedInternal (env : Env) (app : App) : Outcome × App :=
  match app.previewState with
  | none => app.sendSw .solanaDelayedPreviewNotFound
  | some preview =>
      if app.calledFromSwap then app.sendSw .sdkNotSupported
      else
        match verifyDelayedMessageMatchesPreview env app.command preview with
        | .success =>
            let (signature, app) := app.setResultSignMessage env
            let app := { app with screen := .page }
            match signature with
            | none => app.sendSw .sdkException
            | some signature => (.response signature.data, app)
        | sw => { app with screen := .page }.sendSw sw

/-- `handle_sign_message_delayed`. -/
def handleSignMessageDelayed (env : Env) (app : App) : Outcome × App :=
  let (outcome, app) := handleSignMessageDelayedInternal env app
  (outcome, app.clearPreviewState)

/-- **`review_choice`.** -/
def reviewChoice (env : Env) (memory confirm : Bool) (reviewed : CommandData) (app : App) :
    Outcome × App :=
  let app := app.resetTrustedInfo.resetDynamicTokenInfo
  let app := { app with screen := .page }
  if confirm then
    let app := { app with approvals := app.approvals ++ [⟨reviewed, app.command.data⟩] }
    if app.command.isPreviewMode then
      let (stored, app) := storePreviewFingerprint env memory app
      app.sendSw (if stored then .success else .solanaInvalidMessage)
    else
      let (signature, app) := app.setResultSignMessage env
      match signature with
      | none => app.sendSw .sdkException
      | some signature => (.response signature.data, app)
  else app.sendSw .userRefusal

end AgencLedger
