import AgencLedger.Sol.Instruction

/-!
# Sol/TokenContext — trusted and dynamic token information, and the token account check

What earlier commands have told the app about tokens: the trusted info of one transfer and the
dynamic info of one token, next to the table built into the app.  The parsers and printers of token
instructions read it.

Hashing, the curve test and base58 decoding are services of the device's operating system; they are
the fields of `Sdk`.
-/

namespace AgencLedger

/-- The operating system's services that the parsers and printers call. -/
structure Sdk where
  /-- `cx_hash`, SHA-256; `none` where a call fails -/
  sha256 : List UInt8 → Option Hash
  /-- `is_on_curve`: the compressed point lies on Ed25519 -/
  isOnCurve : Block 32 → Bool
  /-- `base58_decode` into a buffer of the given size; `none` where it fails -/
  base58Decode : List Char → ℕ → Option (List UInt8)

/-- `trusted_info_t`. -/
structure TrustedInfo where
  received : Bool
  encodedOwnerAddress : CString
  ownerAddress : Pubkey
  encodedTokenAddress : CString
  tokenAddress : Pubkey
  encodedMintAddress : CString
  mintAddress : Pubkey
  deriving DecidableEq

/-- `dynamic_token_info_t`. -/
structure DynamicTokenInfo where
  received : Bool
  ticker : CString
  magnitude : UInt8
  isToken2022Kind : Bool
  encodedMintAddress : CString
  mintAddress : Pubkey
  deriving DecidableEq

/-- `TokenInfo`, a row of the built-in table. -/
structure TokenInfo where
  mintAddress : Pubkey
  symbol : CString
  deriving DecidableEq

/-- What the token parsers and printers read beside the message: the system's services, the
built-in table, and the two globals. -/
structure TokenContext where
  sdk : Sdk
  /-- `TOKEN_REGISTRY` -/
  tokenRegistry : List TokenInfo
  /-- `g_trusted_info` -/
  trustedInfo : Option TrustedInfo
  /-- `g_dynamic_token_info` -/
  dynamicTokenInfo : Option DynamicTokenInfo

/-! ## Token accounts -/

/-- `"ProgramDerivedAddress"`. -/
def programDerivedAddress : List UInt8 :=
  "ProgramDerivedAddress".toList.map fun c => c.toNat.toUInt8

/-- `derivate_ata_candidate`. -/
def derivateAtaCandidate (sdk : Sdk) (ownerAccount mintAccount : Pubkey) (nonce : UInt8)
    (isToken2022 : Bool) : Option Hash :=
  sdk.sha256 (ownerAccount.data
    ++ (if isToken2022 then splToken2022ProgramId else splTokenProgramId).data
    ++ mintAccount.data ++ [nonce] ++ splAssociatedTokenAccountProgramId.data
    ++ programDerivedAddress)

/-- The loop of `validate_associated_token_address`, with `n` nonces left to try. -/
def validateAtaLoop (sdk : Sdk) (ownerAccount mintAccount providedAta : Pubkey)
    (isToken2022 : Bool) : ℕ → Bool
  | 0 => false
  | nonce + 1 =>
      match derivateAtaCandidate sdk ownerAccount mintAccount nonce.toUInt8 isToken2022 with
      | none => false
      | some derivedAta =>
          if derivedAta = providedAta then !sdk.isOnCurve derivedAta
          else validateAtaLoop sdk ownerAccount mintAccount providedAta isToken2022 nonce

/-- `validate_associated_token_address`. -/
def validateAssociatedTokenAddress (sdk : Sdk) (ownerAccount mintAccount providedAta : Pubkey)
    (isToken2022 : Bool) : Bool :=
  validateAtaLoop sdk ownerAccount mintAccount providedAta isToken2022 256

/-- `check_ata_against_trusted_info`. -/
def checkAtaAgainstTrustedInfo (ctx : TokenContext) (mintAccount destAccount : Pubkey)
    (isToken2022 : Bool) : Bool :=
  match ctx.trustedInfo with
  | none => false
  | some info =>
      info.received && info.mintAddress == mintAccount && info.tokenAddress == destAccount &&
        validateAssociatedTokenAddress ctx.sdk info.ownerAddress mintAccount destAccount
          isToken2022

/-- `get_transfer_to_address`. -/
def getTransferToAddress (ctx : TokenContext) : Option CString :=
  match ctx.trustedInfo with
  | none => none
  | some info => if info.received then some info.encodedOwnerAddress else none

/-! ## Token symbols -/

/-- `get_dynamic_token_symbol`. -/
def getDynamicTokenSymbol (ctx : TokenContext) (mintAddress : Pubkey) (isToken2022Kind : Bool) :
    Option CString :=
  match ctx.dynamicTokenInfo with
  | none => none
  | some info =>
      if info.received && info.mintAddress == mintAddress && isToken2022Kind == info.isToken2022Kind
      then some info.ticker
      else none

/-- `"???"`, the symbol of a token the app does not know. -/
def unknownSymbol : CString := .lit "???"

/-- `get_hardcoded_token_symbol`. -/
def getHardcodedTokenSymbol (ctx : TokenContext) (mintAddress : Pubkey) : CString :=
  match ctx.tokenRegistry.find? (·.mintAddress = mintAddress) with
  | some info => info.symbol
  | none => unknownSymbol

/-- `get_token_symbol`. -/
def getTokenSymbol (ctx : TokenContext) (mintAddress : Pubkey) (isToken2022Kind : Bool) : CString :=
  (getDynamicTokenSymbol ctx mintAddress isToken2022Kind).getD
    (getHardcodedTokenSymbol ctx mintAddress)

/-- `get_dynamic_token_mint_address`, with the token's kind. -/
def getDynamicTokenMintAddress (ctx : TokenContext) (symbol : CString) : Option (Pubkey × Bool) :=
  match ctx.dynamicTokenInfo with
  | none => none
  | some info =>
      if info.received && symbol == info.ticker then some (info.mintAddress, info.isToken2022Kind)
      else none

/-- `get_hardcoded_token_mint_address`: no Token-2022 token is built in. -/
def getHardcodedTokenMintAddress (ctx : TokenContext) (ticker : CString) : Option (Pubkey × Bool) :=
  (ctx.tokenRegistry.find? (·.symbol = ticker)).map fun info => (info.mintAddress, false)

/-- `get_token_mint_address`. -/
def getTokenMintAddress (ctx : TokenContext) (symbol : CString) : Option (Pubkey × Bool) :=
  match getDynamicTokenMintAddress ctx symbol with
  | some mint => some mint
  | none => getHardcodedTokenMintAddress ctx symbol

/-- **A transfer that passes the check has trusted info to show.** -/
theorem getTransferToAddress_of_check {ctx : TokenContext} {mint dest : Pubkey} {t : Bool}
    (h : checkAtaAgainstTrustedInfo ctx mint dest t = true) :
    ∃ info, ctx.trustedInfo = some info ∧ info.received = true ∧ info.mintAddress = mint ∧
      info.tokenAddress = dest ∧
      validateAssociatedTokenAddress ctx.sdk info.ownerAddress mint dest t = true ∧
      getTransferToAddress ctx = some info.encodedOwnerAddress := by
  unfold checkAtaAgainstTrustedInfo at h
  cases hinfo : ctx.trustedInfo with
  | none => simp [hinfo] at h
  | some info =>
      simp only [hinfo, Bool.and_eq_true, beq_iff_eq] at h
      obtain ⟨⟨⟨hrec, hmint⟩, hdest⟩, hvalid⟩ := h
      exact ⟨info, rfl, hrec, hmint, hdest, hvalid, by simp [getTransferToAddress, hinfo, hrec]⟩

/-! ## A wallet and its token accounts -/

/-- The key of a wallet. -/
def walletKey : Pubkey := ⟨List.replicate 32 5, rfl⟩

theorem length_sourceAccount : (List.replicate 32 (2 : UInt8)).length = 32 := rfl

/-- Another token account. -/
def sourceAccount : Pubkey := ⟨List.replicate 32 2, length_sourceAccount⟩

/-- The mint of USDC. -/
def usdcMint : Pubkey :=
  ⟨[198, 250, 122, 243, 190, 219, 173, 58, 61, 101, 243, 106, 171, 201, 116, 49, 177, 187, 228,
    194, 210, 246, 224, 228, 124, 166, 2, 3, 69, 47, 93, 97], rfl⟩

/-- A mint of Token-2022. -/
def token2022Mint : Pubkey :=
  ⟨[23, 146, 72, 59, 108, 138, 42, 135, 183, 71, 29, 129, 79, 149, 145, 249, 57, 92, 132, 10,
    156, 227, 217, 244, 213, 186, 125, 58, 75, 138, 116, 158], rfl⟩

/-- The wallet's account of USDC, with the nonce 255. -/
def usdcAccount : Pubkey :=
  ⟨[130, 69, 206, 132, 95, 112, 141, 0, 39, 94, 126, 109, 242, 119, 104, 238, 149, 193, 156, 102,
    223, 34, 99, 135, 175, 91, 249, 124, 203, 149, 86, 163], rfl⟩

/-- Its account of the Token-2022 mint, with the same nonce. -/
def token2022Account : Pubkey :=
  ⟨[46, 133, 148, 73, 124, 119, 58, 142, 23, 254, 181, 188, 166, 40, 141, 216, 208, 203, 198, 66,
    81, 199, 144, 176, 179, 14, 25, 104, 58, 90, 190, 12], rfl⟩

/-- The addresses of the wallet, of its accounts, of their mints and of the System program. -/
def walletAddresses : List (List Char × Pubkey) :=
  [("LbUiWL3xVV8hTFYBVdbTNrpDo41NKS6o3LHHuDzjfcY".toList, walletKey),
    ("9mXjp24PXrRbfBJL6eQySAHjkvTF9XedbS3Mre8XTS5g".toList, usdcAccount),
    ("EPjFWdd5AufqSSqeM2qN1xzybapC8G4wEGGkZwyTDt1v".toList, usdcMint),
    ("48btkZZQEcWRRtvhu48DLmG34SnANuudDEYK6HzhdSdZ".toList, token2022Account),
    ("2b1kV6DkPAnxd5ixfnxCpjxmKwqjjaYmCZfHsFu24GXo".toList, token2022Mint),
    ("11111111111111111111111111111111".toList, systemProgramId)]

/-- A system that knows the two accounts, both off the curve, and the addresses. -/
def walletSdk : Sdk where
  sha256 message :=
    if message = walletKey.data ++ splTokenProgramId.data ++ usdcMint.data ++ [255]
        ++ splAssociatedTokenAccountProgramId.data ++ programDerivedAddress then some usdcAccount
    else if message = walletKey.data ++ splToken2022ProgramId.data ++ token2022Mint.data ++ [255]
        ++ splAssociatedTokenAccountProgramId.data ++ programDerivedAddress then
      some token2022Account
    else none
  isOnCurve _ := false
  base58Decode text _ := (walletAddresses.lookup text).map (·.data)

example : validateAssociatedTokenAddress walletSdk walletKey usdcMint usdcAccount false = true ∧
    validateAssociatedTokenAddress walletSdk walletKey token2022Mint token2022Account true
      = true := by
  decide +kernel

end AgencLedger
