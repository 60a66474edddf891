import AgencLedger.App.State

/-!
# App/Provide — trusted information about a transfer and about a token

Both come as TLV payloads that the system's library reads and whose signature it checks.  A refused
payload leaves no information at all.
-/

namespace AgencLedger

/-- `copy_and_decode_pubkey`: the address in base58, and decoded. -/
def copyAndDecodePubkey (sdk : Sdk) (encodedAddress : List UInt8) : Option (CString × Pubkey) :=
  if encodedAddress.length ≥ 45 ∨ encodedAddress.length = 0 then none
  else
    let outEncodedAddress := CString.ofBuffer (encodedAddress.map charOfByte)
    match sdk.base58Decode outEncodedAddress.chars 32 with
    | some decoded =>
        if h : decoded.length = 32 then some (outEncodedAddress, ⟨decoded, h⟩) else none
    | none => none

/-- `handle_provide_trusted_info_internal`. -/
def handleProvideTrustedInfoInternal (env : Env) (app : App) : Option TrustedInfo := do
  let out ← env.tlv.trustedName app.command.message
  if !out.sourceContractReceived || !out.challengeReceived then none
  else if out.challenge ≠ app.challenge then none
  else if !out.isContextAddress then none
  else if !out.isDynamicResolver then none
  else
    let (encodedOwnerAddress, ownerAddress) ← copyAndDecodePubkey env.sdk out.address
    let (encodedTokenAddress, tokenAddress) ← copyAndDecodePubkey env.sdk out.trustedName
    let (encodedMintAddress, mintAddress) ← copyAndDecodePubkey env.sdk out.sourceContract
    return { received := true, encodedOwnerAddress, ownerAddress, encodedTokenAddress, tokenAddress,
             encodedMintAddress, mintAddress }

/-- `handle_provide_trusted_info`. -/
def handleProvideTrustedInfo (env : Env) (memory : Bool) (app : App) : Outcome × App :=
  let info := if app.trustedInfo.isNone && !memory then none
    else handleProvideTrustedInfoInternal env app
  let app := { app with trustedInfo := info }.rollChallenge env
  match info with
  | some _ => app.sendSw .success
  | none => app.sendSw .solanaInvalidTrustedInfo

/-- The values of a token's unique id. -/
structure TlvTuidData where
  tokenType : UInt8
  encodedMintAddress : List UInt8
  extensions : List UInt8
  deriving DecidableEq

/-- The handlers of `TUID_TLV_TAGS`; there are 29 extension codes. -/
def handleTuidTag (tlv : TlvSdk) (out : TlvTuidData) (item : TlvItem) : Option TlvTuidData :=
  match item.tag with
  | 0x10 => do return { out with tokenType := ← tlv.getU8 item.value }
  | 0x11 => do return { out with encodedMintAddress := ← tlvBuffer item.value 1 44 }
  | 0x12 => do return { out with extensions := ← tlvBuffer item.value 0 29 }
  | _ => none

/-- `handle_provide_dynamic_descriptor_internal`.  An unknown extension is no error. -/
def handleProvideDynamicDescriptorInternal (env : Env) (app : App) : Option DynamicTokenInfo := do
  let out ← env.tlv.dynamicDescriptor app.command.message
  let items ← env.tlv.tuid out.tuid
  let tuid ← items.foldlM (handleTuidTag env.tlv) ⟨0, [], []⟩
  if out.coinType ≠ 501 ∧ out.coinType ≠ 0x80000000 ||| 501 then none
  else if !(([0x10, 0x11, 0x12] : List ℕ).all fun tag =>
      items.any fun item => item.tag = tag) then none
  else if tuid.tokenType ≠ 0 ∧ tuid.tokenType ≠ 1 then none
  else
    let (encodedMintAddress, mintAddress) ← copyAndDecodePubkey env.sdk tuid.encodedMintAddress
    return { received := true, ticker := out.ticker, magnitude := out.magnitude,
             isToken2022Kind := tuid.tokenType = 1, encodedMintAddress, mintAddress }

/-- `handle_provide_dynamic_descriptor`. -/
def handleProvideDynamicDescriptor (env : Env) (memory : Bool) (app : App) : Outcome × App :=
  let info := if app.dynamicTokenInfo.isNone && !memory then none
    else handleProvideDynamicDescriptorInternal env app
  let app := { app with dynamicTokenInfo := info }
  match info with
  | some _ => app.sendSw .success
  | none => app.sendSw .solanaInvalidDynamicToken

/-- `handle_get_challenge`, big endian. -/
def handleGetChallenge (app : App) : Outcome × App :=
  (.response ([(24 : UInt32), 16, 8, 0].map fun shift => (app.challenge >>> shift).toUInt8), app)

end AgencLedger
