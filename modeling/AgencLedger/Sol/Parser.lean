import AgencLedger.Sol.Memory
import Mathlib.Algebra.Group.Nat.Defs

/-!
# Sol/Parser — reading the message: integers, compact lengths, headers, instructions

A `Parser` is a buffer with its length.  The model also keeps the offset of the buffer in the
message, so that what a parser hands out by reference is a `Ptr`.
-/

namespace AgencLedger

/-- `Parser`: the bytes left, and where in the message they start. -/
structure Parser where
  addr : ℕ
  buffer : List UInt8
  deriving DecidableEq

/-- A parsing step: it moves the parser on, or stops. -/
abbrev ParseM := StateT Parser Result

/-! ## Moving on -/

/-- `check_buffer_length`. -/
def checkBufferLength (num : ℕ) : ParseM Unit := fun p =>
  if p.buffer.length < num then .error .bail else .ok ((), p)

/-- `advance`, handing out the bytes it passes and where they stand.  It does not look at the length
itself: past the end of the buffer the parser would read outside it. -/
def advance (num : ℕ) : ParseM (Ptr (List UInt8)) := fun p =>
  if p.buffer.length < num then .error .outOfBounds
  else .ok (⟨p.addr, p.buffer.take num⟩, ⟨p.addr + num, p.buffer.drop num⟩)

theorem advance_ok_iff {num : ℕ} {p : Parser} {r : Ptr (List UInt8) × Parser} :
    advance num p = .ok r ↔ num ≤ p.buffer.length ∧
      r = (⟨p.addr, p.buffer.take num⟩, ⟨p.addr + num, p.buffer.drop num⟩) := by
  rw [advance]
  split
  · exact iff_of_false (fun h => nomatch h) fun h => absurd h.1 (by omega)
  · rw [Except.ok.injEq, and_iff_right (by omega), eq_comm]

/-- `BAIL_IF` on a value already parsed. -/
def parseBailIf (c : Bool) : ParseM Unit := fun p => if c then .error .bail else .ok ((), p)

@[simp] theorem parseBailIf_ok_iff {c : Bool} {p : Parser} {r : Unit × Parser} :
    parseBailIf c p = .ok r ↔ c = false ∧ r = ((), p) := by
  cases c <;> simp [parseBailIf, eq_comm]

/-- `parser_is_empty`. -/
def parserIsEmpty (p : Parser) : Bool := p.buffer.length == 0

/-! ## Integers -/

/-- `parse_u8`. -/
def parseU8 : ParseM UInt8 := fun p =>
  match p.buffer with
  | [] => .error .bail
  | b :: rest => .ok (b, ⟨p.addr + 1, rest⟩)

/-- `parse_u16`, little endian. -/
def parseU16 : ParseM UInt16 := do
  let lower ← parseU8
  let upper ← parseU8
  return lower.toUInt16 + upper.toUInt16 <<< 8

/-- `parse_u32`. -/
def parseU32 : ParseM UInt32 := do
  let lower ← parseU16
  let upper ← parseU16
  return lower.toUInt32 + upper.toUInt32 <<< 16

/-- `parse_u64`. -/
def parseU64 : ParseM UInt64 := do
  checkBufferLength 8
  let lower ← parseU32
  let upper ← parseU32
  return lower.toUInt64 + upper.toUInt64 <<< 32

/-- `parse_i64`: the same bytes, read as a signed number. -/
def parseI64 : ParseM Int64 := do
  let value ← parseU64
  return value.toInt64

/-- `parse_length`: the compact length, seven bits a byte, at most three bytes. -/
def parseLength : ParseM ℕ := do
  let b ← parseU8
  let value := (b &&& 0x7f).toNat
  if b &&& 0x80 = 0 then return value
  let b ← parseU8
  let value := (b &&& 0x7f).toNat <<< 7 ||| value
  if b &&& 0x80 = 0 then return value
  let b ← parseU8
  return (b &&& 0x7f).toNat <<< 14 ||| value

/-- `parse_option`: `OptionNone` is `0`, `OptionSome` is `1`, any other byte fails. -/
def parseOption : ParseM Bool := do
  let maybeOption ← parseU8
  if maybeOption = 0 then return false
  if maybeOption = 1 then return true
  throw .bail

/-! ## Strings, keys and hashes -/

/-- `SizedString`: a length and a pointer to that many bytes of the message. -/
structure SizedString where
  length : UInt64
  string : Ptr (List UInt8)
  deriving DecidableEq

/-- `SIZE_MAX` on the 32-bit devices. -/
def sizeMax : ℕ := 2 ^ 32 - 1

/-- `parse_sized_string`. -/
def parseSizedString : ParseM SizedString := do
  let length ← parseU64
  parseBailIf (length.toNat > sizeMax)
  checkBufferLength length.toNat
  let string ← advance length.toNat
  return ⟨length, string⟩

/-- A block of `n` bytes, by reference. -/
def parseBlock (n : ℕ) : ParseM (Ptr (Block n)) := do
  checkBufferLength n
  let bytes ← advance n
  return ⟨bytes.addr, Block.ofBytes n bytes.val⟩

/-- `parse_pubkey`. -/
def parsePubkey : ParseM (Ptr Pubkey) := parseBlock 32

/-- `parse_hash`. -/
def parseHash : ParseM (Ptr Hash) := parseBlock 32

/-- `parse_blockhash`. -/
def parseBlockhash : ParseM (Ptr Blockhash) := parseHash

/-- The array of `n` keys that starts at a pointer. -/
def pubkeyArray (n : ℕ) (bytes : Ptr (List UInt8)) : List (Ptr Pubkey) :=
  (List.range n).map fun i =>
    ⟨bytes.addr + 32 * i, Block.ofBytes 32 (bytes.val.drop (32 * i))⟩

@[simp] theorem length_pubkeyArray (n : ℕ) (bytes : Ptr (List UInt8)) :
    (pubkeyArray n bytes).length = n := by
  simp [pubkeyArray]

/-- `parse_pubkeys_with_len`. -/
def parsePubkeysWithLen (numPubkeys : ℕ) :
    ParseM {l : List (Ptr Pubkey) // l.length = numPubkeys} :=
  do
    checkBufferLength (numPubkeys * 32)
    let bytes ← advance (numPubkeys * 32)
    return ⟨pubkeyArray numPubkeys bytes, length_pubkeyArray numPubkeys bytes⟩

/-! ## Message headers -/

/-- `PubkeysHeader`. -/
structure PubkeysHeader where
  numRequiredSignatures : UInt8
  numReadonlySignedAccounts : UInt8
  numReadonlyUnsignedAccounts : UInt8
  pubkeysLength : UInt16
  deriving DecidableEq

/-- `MessageHeader`.  `pubkeys` is an array of as many keys as the header announces. -/
structure MessageHeader where
  versioned : Bool
  version : UInt8
  pubkeysHeader : PubkeysHeader
  pubkeys : List (Ptr Pubkey)
  blockhash : Ptr Blockhash
  instructionsLength : ℕ
  size : pubkeys.length = pubkeysHeader.pubkeysLength.toNat
  deriving DecidableEq

/-- `parse_pubkeys_header`. -/
def parsePubkeysHeader : ParseM PubkeysHeader := do
  let numRequiredSignatures ← parseU8
  let numReadonlySignedAccounts ← parseU8
  let numReadonlyUnsignedAccounts ← parseU8
  let pubkeysLength ← parseLength
  parseBailIf (pubkeysLength > 65535)
  return ⟨numRequiredSignatures, numReadonlySignedAccounts, numReadonlyUnsignedAccounts,
    pubkeysLength.toUInt16⟩

/-- `parse_version`: the top bit of the first byte tells a versioned message. -/
def parseVersion : ParseM (Bool × UInt8) := fun p =>
  match p.buffer with
  | [] => .error .bail
  | b :: rest =>
      if b &&& 0x80 ≠ 0 then .ok ((true, b &&& 0x7f), ⟨p.addr + 1, rest⟩)
      else .ok ((false, 0), p)

/-- `parse_message_header`. -/
def parseMessageHeader : ParseM MessageHeader := do
  let (versioned, version) ← parseVersion
  let h ← parsePubkeysHeader
  parseBailIf (h.numRequiredSignatures.toNat > h.pubkeysLength.toNat)
  parseBailIf (h.numReadonlySignedAccounts > h.numRequiredSignatures)
  parseBailIf (h.numReadonlyUnsignedAccounts.toNat >
    h.pubkeysLength.toNat - h.numRequiredSignatures.toNat)
  let pubkeys ← parsePubkeysWithLen h.pubkeysLength.toNat
  let blockhash ← parseBlockhash
  let instructionsLength ← parseLength
  return { versioned, version, pubkeysHeader := h, pubkeys := pubkeys.val, blockhash,
           instructionsLength, size := pubkeys.property }

/-! ## Off-chain message headers -/

/-- `offchain_message_signing_domain`: `0xff` and `solana offchain`. -/
def offchainMessageSigningDomain : List UInt8 :=
  [0xff, 0x73, 0x6f, 0x6c, 0x61, 0x6e, 0x61, 0x20, 0x6f, 0x66, 0x66, 0x63, 0x68, 0x61, 0x69, 0x6e]

/-- `OffchainMessageHeader`.  `applicationDomain` is `NULL` and `format` unused from version 1. -/
structure OffchainMessageHeader where
  version : UInt8
  applicationDomain : Option (Ptr (Block 32))
  format : UInt8
  signers : List (Ptr Pubkey)
  length : UInt16

/-- `offchain_message_header_length`. -/
def offchainMessageHeaderLength (header : OffchainMessageHeader) : ℕ :=
  let baseLength := 16 + 1 + 1 + 32 * header.signers.length + 2
  if header.version = 0 then baseLength + 32 + 1 else baseLength

/-- `memcmp(a, b, 32) < 0`, on equally long byte lists. -/
def bytesLess : List UInt8 → List UInt8 → Bool
  | a :: as, b :: bs => a < b || (a == b && bytesLess as bs)
  | _, _ => false

/-- The signers of a version 1 message come in strictly ascending order. -/
def signersAscending : List (Ptr Pubkey) → Bool
  | a :: b :: rest => bytesLess a.val.data b.val.data && signersAscending (b :: rest)
  | _ => true

/-- `parse_offchain_message_header`. -/
def parseOffchainMessageHeader : ParseM OffchainMessageHeader := do
  checkBufferLength 16
  let domain ← advance 16
  parseBailIf (domain.val ≠ offchainMessageSigningDomain)
  let version ← parseU8
  let (applicationDomain, format) ← (do
    if version = 0 then
      let applicationDomain ← parseBlock 32
      let format ← parseU8
      return (some applicationDomain, format)
    else return (none, 0) : ParseM (Option (Ptr (Block 32)) × UInt8))
  let signersLength ← parseU8
  let signers ← parsePubkeysWithLen signersLength.toNat
  parseBailIf (version ≥ 1 && !signersAscending signers.val)
  let length ← parseU16
  return { version, applicationDomain, format, signers := signers.val, length }

/-! ## Instructions -/

/-- `Instruction`: the program's index, the accounts' indices and the data, by reference. -/
structure Instruction where
  programIdIndex : UInt8
  accounts : Ptr (List UInt8)
  data : Ptr (List UInt8)
  deriving DecidableEq

/-- `parse_data`. -/
def parseData : ParseM (Ptr (List UInt8)) := do
  let dataLength ← parseLength
  checkBufferLength dataLength
  advance dataLength

/-- `parse_instruction`. -/
def parseInstruction : ParseM Instruction := do
  let programIdIndex ← parseU8
  let accounts ← parseData
  let data ← parseData
  return ⟨programIdIndex, accounts, data⟩

end AgencLedger
