import AgencLedger.Sol.Grammar

/-!
# Sol/RoundTrip — writing a message and parsing it back

A `Message` is a well-formed message by value; `serialise` writes it in the format of the chain,
with compact lengths.  Parsing the header and then one instruction for each that it declares gives
the message back, and leaves exactly the bytes that follow it.
-/

namespace AgencLedger

open Input

/-! ## Messages by value -/

/-- The largest value of a compact length. -/
def compactMax : ℕ := 65535

/-- An instruction by value. -/
structure InstructionValue where
  programIdIndex : UInt8
  accounts : List UInt8
  data : List UInt8
  accounts_le : accounts.length ≤ compactMax
  data_le : data.length ≤ compactMax

/-- A well-formed message by value.  The first byte of a legacy message, which has no version, is
its signature count: the top bit of it is clear. -/
structure Message where
  version : Option (Fin 128)
  numRequiredSignatures : UInt8
  numReadonlySignedAccounts : UInt8
  numReadonlyUnsignedAccounts : UInt8
  pubkeys : List Pubkey
  blockhash : Blockhash
  instructions : List InstructionValue
  legacy : version = none → numRequiredSignatures.toNat < 128
  pubkeys_le : pubkeys.length ≤ compactMax
  signatures_le : numRequiredSignatures.toNat ≤ pubkeys.length
  readonlySigned_le : numReadonlySignedAccounts ≤ numRequiredSignatures
  readonlyUnsigned_le :
    numReadonlyUnsignedAccounts.toNat ≤ pubkeys.length - numRequiredSignatures.toNat
  instructions_le : instructions.length ≤ compactMax

/-! ## Writing -/

/-- A number in the compact format: seven bits a byte, the top bit set on all but the last. -/
def compactU16 (n : ℕ) : List UInt8 :=
  if n < 128 then [n.toUInt8]
  else if n < 16384 then [(n % 128 + 128).toUInt8, (n / 128).toUInt8]
  else [(n % 128 + 128).toUInt8, (n / 128 % 128 + 128).toUInt8, (n / 16384).toUInt8]

/-- Bytes behind their length. -/
def writeData (data : List UInt8) : List UInt8 := compactU16 data.length ++ data

def InstructionValue.serialise (i : InstructionValue) : List UInt8 :=
  [i.programIdIndex] ++ (writeData i.accounts ++ writeData i.data)

/-- The version byte, with its top bit set. -/
def Message.versionBytes (m : Message) : List UInt8 :=
  match m.version with
  | none => []
  | some v => [(v.val + 128).toUInt8]

/-- The three counts and the number of keys. -/
def Message.countBytes (m : Message) : List UInt8 :=
  [m.numRequiredSignatures] ++ ([m.numReadonlySignedAccounts] ++
    ([m.numReadonlyUnsignedAccounts] ++ compactU16 m.pubkeys.length))

/-- The message from its counts to its number of instructions. -/
def Message.headerBytes (m : Message) : List UInt8 :=
  m.countBytes ++ (m.pubkeys.flatMap (·.data) ++
    (m.blockhash.data ++ compactU16 m.instructions.length))

def Message.serialise (m : Message) : List UInt8 :=
  m.versionBytes ++ (m.headerBytes ++ m.instructions.flatMap (·.serialise))

example : compactU16 127 = [0x7f] ∧ compactU16 128 = [0x80, 0x01] ∧ compactU16 16383
    = [0xff, 0x7f] ∧
    compactU16 16384 = [0x80, 0x80, 0x01] := by decide

/-! ## Compact lengths -/

/-- The low seven bits and the top bit of a byte below 256. -/
theorem toUInt8_bits : ∀ n < 256, (n.toUInt8 &&& 0x7f).toNat = n % 128 ∧
    (n.toUInt8 &&& 0x80 = 0 ↔ n < 128) := by
  decide +kernel

theorem shiftLeft_or {k low : ℕ} (h : low < 2 ^ k) (high : ℕ) :
    high <<< k ||| low = 2 ^ k * high + low := by
  rw [← Nat.shiftLeft_add_eq_or_of_lt h, Nat.shiftLeft_eq, Nat.mul_comm]

/-- **The compact format is one of a length.** -/
theorem compactLength_compactU16 {n : ℕ} (hn : n ≤ compactMax) (pos : ℕ) :
    compactLength pos n (compactU16 n) := by
  rw [compactMax] at hn
  rw [compactU16]
  split
  · obtain ⟨hlow, htop⟩ := toUInt8_bits n (by omega)
    exact .inl ⟨_, rfl, htop.mpr ‹_›, by rw [hlow]; omega⟩
  split
  · obtain ⟨hlow, htop⟩ := toUInt8_bits (n % 128 + 128) (by omega)
    obtain ⟨hlow', htop'⟩ := toUInt8_bits (n / 128) (by omega)
    refine .inr (.inl ⟨_, _, rfl, fun h => ?_, htop'.mpr (by omega), ?_⟩)
    · exact absurd (htop.mp h) (by omega)
    · rw [hlow, hlow', shiftLeft_or (by omega)]
      omega
  · obtain ⟨hlow, htop⟩ := toUInt8_bits (n % 128 + 128) (by omega)
    obtain ⟨hlow', htop'⟩ := toUInt8_bits (n / 128 % 128 + 128) (by omega)
    obtain ⟨hlow'', -⟩ := toUInt8_bits (n / 16384) (by omega)
    refine .inr (.inr ⟨_, _, _, rfl, fun h => ?_, fun h => ?_, ?_⟩)
    · exact absurd (htop.mp h) (by omega)
    · exact absurd (htop'.mp h) (by omega)
    · have hjoin := @shiftLeft_or 7 (n % 128) (by omega) (n / 128 % 128)
      rw [hlow, hlow', hlow'', Nat.add_mod_right, Nat.add_mod_right, Nat.mod_mod,
        Nat.mod_mod, hjoin,
        shiftLeft_or (by omega)]
      omega

/-! ## Parsing what was written -/

section

variable {a : ℕ} {tail : List UInt8}

/-- A parser that accepts a word reads it off any input that starts with it. -/
theorem Accepts.parse {α : Type} {step : ParseM α} {g : Grammar UInt8 α} (h : Accepts step g)
    {value : α} {w : List UInt8} (hw : g a value w) :
    step ⟨a, w ++ tail⟩ = .ok (value, ⟨a + w.length, tail⟩) :=
  (h _ _ _).mpr ⟨w, ⟨rfl, rfl⟩, hw⟩

theorem dataAt_writeData {data : List UInt8} (h : data.length ≤ compactMax) (pos : ℕ) :
    ∃ start, dataAt pos ⟨start, data⟩ (writeData data) :=
  ⟨_, _, _, _, rfl, compactLength_compactU16 h pos, rfl, rfl⟩

/-- What an instruction of the message is, by value. -/
def InstructionValue.Matches (i : InstructionValue) (instruction : Instruction) : Prop :=
  instruction.programIdIndex = i.programIdIndex ∧ instruction.accounts.val = i.accounts ∧
    instruction.data.val = i.data

theorem instructionAt_serialise (i : InstructionValue) (pos : ℕ) :
    ∃ instruction, instructionAt pos instruction i.serialise ∧ i.Matches instruction := by
  obtain ⟨accounts, haccounts⟩ := dataAt_writeData i.accounts_le (pos + 1)
  obtain ⟨data, hdata⟩ := dataAt_writeData i.data_le (pos + 1 + (writeData i.accounts).length)
  refine ⟨⟨i.programIdIndex, ⟨accounts, i.accounts⟩, ⟨data, i.data⟩⟩, ?_, rfl, rfl, rfl⟩
  refine ⟨i.programIdIndex, _, _, rfl, (leBytes_one_toNat _).symm, _, _, _, rfl, haccounts, ?_⟩
  exact (Grammar.seq_pure _ _).mpr ⟨_, rfl, hdata⟩

/-- `parse_instruction`, once for each declared instruction. -/
def parseInstructions : ℕ → ParseM (List Instruction)
  | 0 => pure []
  | n + 1 => do
      let instruction ← parseInstruction
      let instructions ← parseInstructions n
      return instruction :: instructions

theorem accepts_parseInstructions : ∀ n, Accepts (parseInstructions n) fun pos instructions w =>
    instructions.length = n ∧ instructionsAt pos instructions w
  | 0 => (Accepts.pure _).congr fun pos instructions w => by
      rw [List.length_eq_zero_iff]
      exact and_congr_right fun h => by rw [h, instructionsAt]
  | n + 1 => by
      refine (accepts_parseInstruction.seq fun i =>
        (accepts_parseInstructions n).seq fun is => .pure _).congr fun pos instructions w => ?_
      constructor
      · rintro ⟨i, u, v, rfl, hi, his⟩
        obtain ⟨is, rfl, hlength, his⟩ := (Grammar.seq_pure _ _).mp his
        exact ⟨by rw [List.length_cons, hlength], u, v, rfl, hi, his⟩
      · rintro ⟨hlength, his⟩
        obtain ⟨i, is, rfl⟩ := List.exists_cons_of_length_eq_add_one hlength
        obtain ⟨u, v, rfl, hi, his⟩ := his
        exact ⟨i, u, v, rfl, hi, (Grammar.seq_pure _ _).mpr ⟨is, rfl, by simpa using hlength, his⟩⟩

theorem instructionsAt_serialise (is : List InstructionValue) (pos : ℕ) :
    ∃ instructions, instructionsAt pos instructions (is.flatMap (·.serialise)) ∧
      List.Forall₂ InstructionValue.Matches is instructions := by
  induction is generalizing pos with
  | nil => exact ⟨[], rfl, .nil⟩
  | cons i is ih =>
      obtain ⟨instruction, hi, hmatch⟩ := instructionAt_serialise i pos
      obtain ⟨instructions, his, hmatches⟩ := ih (pos + i.serialise.length)
      exact ⟨instruction :: instructions, ⟨_, _, rfl, hi, his⟩, .cons hmatch hmatches⟩

end

/-! ## The header -/

theorem accepts_parseBailIf (c : Bool) : Accepts (parseBailIf c) (.check (c = false)) := by
  intro p u p'
  rw [parseBailIf_ok_iff]
  constructor
  · rintro ⟨hc, h⟩
    cases h
    exact ⟨[], reads_nil.mpr rfl, hc, rfl⟩
  · rintro ⟨w, hreads, hc, rfl⟩
    rw [reads_nil.mp hreads]
    exact ⟨hc, rfl⟩

/-- The three counts and the number of keys. -/
def pubkeysHeaderAt : Grammar UInt8 PubkeysHeader :=
  (integerBytes 1 UInt8.toNat).seq fun numRequiredSignatures =>
    (integerBytes 1 UInt8.toNat).seq fun numReadonlySignedAccounts =>
      (integerBytes 1 UInt8.toNat).seq fun numReadonlyUnsignedAccounts =>
        compactLength.seq fun pubkeysLength =>
          (Grammar.check (decide (pubkeysLength > 65535) = false)).seq fun _ : Unit =>
            .pure ⟨numRequiredSignatures, numReadonlySignedAccounts, numReadonlyUnsignedAccounts,
              pubkeysLength.toUInt16⟩

theorem accepts_parsePubkeysHeader : Accepts parsePubkeysHeader pubkeysHeaderAt :=
  accepts_parseU8.seq fun _ => accepts_parseU8.seq fun _ => accepts_parseU8.seq fun _ =>
    accepts_parseLength.seq fun _ => (accepts_parseBailIf _).seq fun _ => .pure _

theorem PubkeysHeader.size_keys (h : PubkeysHeader)
    (keys : {l : List (Ptr Pubkey) // l.length = h.pubkeysLength.toNat}) :
    keys.val.length = h.pubkeysLength.toNat :=
  keys.property

/-- `parse_message_header` behind `parse_version`. -/
def parseHeaderRest (v : Bool × UInt8) : ParseM MessageHeader := do
  let h ← parsePubkeysHeader
  parseBailIf (h.numRequiredSignatures.toNat > h.pubkeysLength.toNat)
  parseBailIf (h.numReadonlySignedAccounts > h.numRequiredSignatures)
  parseBailIf (h.numReadonlyUnsignedAccounts.toNat >
    h.pubkeysLength.toNat - h.numRequiredSignatures.toNat)
  let pubkeys ← parsePubkeysWithLen h.pubkeysLength.toNat
  let blockhash ← parseBlockhash
  let instructionsLength ← parseLength
  return { versioned := v.1, version := v.2, pubkeysHeader := h, pubkeys := pubkeys.val, blockhash,
           instructionsLength, size := h.size_keys pubkeys }

theorem parseMessageHeader_eq : parseMessageHeader = parseVersion >>= parseHeaderRest := rfl

/-- What stands behind the version: the counts, which must agree, the keys, the blockhash and the
number of instructions. -/
def headerRestAt (v : Bool × UInt8) : Grammar UInt8 MessageHeader :=
  pubkeysHeaderAt.seq fun h =>
    (Grammar.check (decide (h.numRequiredSignatures.toNat > h.pubkeysLength.toNat) = false)).seq
      fun _ : Unit =>
    (Grammar.check (decide (h.numReadonlySignedAccounts > h.numRequiredSignatures) = false)).seq
      fun _ : Unit =>
    (Grammar.check (decide (h.numReadonlyUnsignedAccounts.toNat >
      h.pubkeysLength.toNat - h.numRequiredSignatures.toNat) = false)).seq fun _ : Unit =>
    (pubkeysAt h.pubkeysLength.toNat).seq fun pubkeys =>
    (blockAt 32).seq fun blockhash => compactLength.seq fun instructionsLength =>
    .pure ⟨v.1, v.2, h, pubkeys.val, blockhash, instructionsLength, h.size_keys pubkeys⟩

theorem accepts_parseHeaderRest (v : Bool × UInt8) :
    Accepts (parseHeaderRest v) (headerRestAt v) :=
  accepts_parsePubkeysHeader.seq fun _ => (accepts_parseBailIf _).seq fun _ =>
    (accepts_parseBailIf _).seq fun _ => (accepts_parseBailIf _).seq fun _ =>
    (accepts_parsePubkeysWithLen _).seq fun _ => (accepts_parseBlock 32).seq fun _ =>
    accepts_parseLength.seq fun _ => .pure _

/-- The keys of an array are those written into it. -/
theorem pubkeyArray_val (keys : List Pubkey) (start : ℕ) :
    (pubkeyArray keys.length ⟨start, keys.flatMap (·.data)⟩).map (·.val) = keys := by
  rw [pubkeyArray, List.map_map]
  induction keys with
  | nil => rfl
  | cons key keys ih =>
      rw [List.length_cons, List.range_succ_eq_map, List.map_cons, List.map_map, List.flatMap_cons]
      refine congrArg₂ List.cons ?_ (Eq.trans (List.map_congr_left fun i _ => ?_) ih)
      · refine Block.ext ?_
        simp only [Function.comp, Nat.mul_zero, List.drop_zero]
        rw [Block.ofBytes_data (by simp [key.size])]
        exact List.take_left' key.size
      · simp only [Function.comp, Nat.succ_eq_add_one, Nat.mul_add, Nat.mul_one]
        rw [Nat.add_comm (32 * i) 32, ← List.drop_drop, List.drop_left' key.size]

theorem length_keyBytes (keys : List Pubkey) :
    (keys.flatMap (·.data)).length = keys.length * 32 := by
  induction keys with
  | nil => rfl
  | cons key keys ih =>
      rw [List.flatMap_cons, List.length_append, ih, key.size, List.length_cons, Nat.succ_mul,
        Nat.add_comm]

namespace Message

variable (m : Message)

/-- The version as the parser hands it out. -/
def versionPair : Bool × UInt8 :=
  match m.version with
  | none => (false, 0)
  | some v => (true, v.val.toUInt8)

/-- What the message is, by value. -/
structure Matches (header : MessageHeader) (instructions : List Instruction) : Prop where
  versioned : header.versioned = m.version.isSome
  version : header.version.toNat = (m.version.map Fin.val).getD 0
  numRequiredSignatures : header.pubkeysHeader.numRequiredSignatures = m.numRequiredSignatures
  numReadonlySignedAccounts :
    header.pubkeysHeader.numReadonlySignedAccounts = m.numReadonlySignedAccounts
  numReadonlyUnsignedAccounts :
    header.pubkeysHeader.numReadonlyUnsignedAccounts = m.numReadonlyUnsignedAccounts
  pubkeysLength : header.pubkeysHeader.pubkeysLength.toNat = m.pubkeys.length
  pubkeys : header.pubkeys.map (·.val) = m.pubkeys
  blockhash : header.blockhash.val = m.blockhash
  instructionsLength : header.instructionsLength = m.instructions.length
  instructions : List.Forall₂ InstructionValue.Matches m.instructions instructions

/-- The counts as the parser hands them out. -/
def pubkeysHeader : PubkeysHeader :=
  ⟨m.numRequiredSignatures, m.numReadonlySignedAccounts, m.numReadonlyUnsignedAccounts,
    m.pubkeys.length.toUInt16⟩

theorem toNat_pubkeysLength : m.pubkeysHeader.pubkeysLength.toNat = m.pubkeys.length := by
  have hle := m.pubkeys_le
  rw [compactMax] at hle
  exact Nat.mod_eq_of_lt (by omega)

theorem pubkeysHeaderAt_countBytes (pos : ℕ) :
    pubkeysHeaderAt pos m.pubkeysHeader m.countBytes := by
  have hle := m.pubkeys_le
  refine ⟨_, _, _, rfl, (leBytes_one_toNat _).symm, _, _, _, rfl, (leBytes_one_toNat _).symm,
    _, _, _, rfl, (leBytes_one_toNat _).symm, _, _, [], (List.append_nil _).symm,
    compactLength_compactU16 hle _, ?_⟩
  exact ⟨(), [], [], rfl, ⟨decide_eq_false (Nat.not_lt.mpr hle), rfl⟩, rfl, rfl⟩

/-- The keys by reference, as the parser hands them out. -/
def pubkeysFrom (start : ℕ) : List (Ptr Pubkey) :=
  pubkeyArray m.pubkeys.length ⟨start, m.pubkeys.flatMap (·.data)⟩

/-- The header of the message, as the parser hands it out at a position. -/
def parsedHeader (v : Bool × UInt8) (pos : ℕ) : MessageHeader where
  versioned := v.1
  version := v.2
  pubkeysHeader := m.pubkeysHeader
  pubkeys := m.pubkeysFrom (pos + m.countBytes.length)
  blockhash := ⟨pos + m.countBytes.length + (m.pubkeys.flatMap (·.data)).length, m.blockhash⟩
  instructionsLength := m.instructions.length
  size := by rw [pubkeysFrom, length_pubkeyArray, toNat_pubkeysLength]

/-- **The header of a written message is accepted**, with everything that was written. -/
theorem headerRestAt_headerBytes (v : Bool × UInt8) (pos : ℕ) :
    headerRestAt v pos (m.parsedHeader v pos) m.headerBytes := by
  have hnum := m.toNat_pubkeysLength
  refine ⟨m.pubkeysHeader, m.countBytes, _, rfl, m.pubkeysHeaderAt_countBytes pos, ?_⟩
  refine (Grammar.check_seq _ _).mpr ⟨decide_eq_false ?_, (Grammar.check_seq _ _).mpr
    ⟨decide_eq_false (UInt8.not_lt.mpr m.readonlySigned_le), (Grammar.check_seq _ _).mpr
      ⟨decide_eq_false ?_, ?_⟩⟩⟩
  · rw [hnum]
    exact Nat.not_lt.mpr m.signatures_le
  · rw [hnum]
    exact Nat.not_lt.mpr m.readonlyUnsigned_le
  refine ⟨⟨m.pubkeysFrom (pos + m.countBytes.length), (m.parsedHeader v pos).size⟩,
    m.pubkeys.flatMap (·.data), _, rfl, ⟨?_, ?_⟩, ?_⟩
  · rw [hnum, length_keyBytes]
  · exact congrArg (pubkeyArray · _) hnum.symm
  refine ⟨(m.parsedHeader v pos).blockhash, m.blockhash.data, _, rfl, ⟨rfl, rfl⟩, ?_⟩
  exact (Grammar.seq_pure _ _).mpr ⟨m.instructions.length, rfl,
    compactLength_compactU16 m.instructions_le _⟩

/-- The version byte tells whether the message is versioned, and is not read again. -/
theorem parseVersion_serialise (pos : ℕ) (tail : List UInt8) :
    parseVersion ⟨pos, m.versionBytes ++ (m.headerBytes ++ tail)⟩ =
      .ok (m.versionPair, ⟨pos + m.versionBytes.length, m.headerBytes ++ tail⟩) := by
  rw [versionBytes, versionPair]
  rcases hversion : m.version with _ | v
  · have hlow := m.legacy hversion
    obtain ⟨-, htop⟩ := toUInt8_bits m.numRequiredSignatures.toNat (by omega)
    rw [Nat.toUInt8_eq, UInt8.ofNat_toNat] at htop
    have hclear : ¬m.numRequiredSignatures &&& 0x80 ≠ 0 := not_not_intro (htop.mpr hlow)
    exact if_neg hclear
  · obtain ⟨hlow, htop⟩ := toUInt8_bits (v.val + 128) (by omega)
    have hset : (v.val + 128).toUInt8 &&& 0x80 ≠ 0 := fun h => absurd (htop.mp h) (by omega)
    have hmask : (v.val + 128).toUInt8 &&& 0x7f = v.val.toUInt8 := by
      refine UInt8.toNat_inj.mp ?_
      rw [hlow, Nat.toUInt8_eq, UInt8.toNat_ofNat_of_lt' (by omega : v.val < 256)]
      omega
    refine (if_pos hset).trans ?_
    rw [hmask]
    rfl

/-- **Writing a message and parsing it gives the message back**: its header, one instruction for
each that it declares, and the bytes that follow it. -/
theorem parse_serialise (addr : ℕ) (tail : List UInt8) :
    ∃ header p instructions, parseMessageHeader ⟨addr, m.serialise ++ tail⟩ = .ok (header, p) ∧
      parseInstructions header.instructionsLength p =
        .ok (instructions, ⟨addr + m.serialise.length, tail⟩) ∧
      m.Matches header instructions := by
  let start := addr + m.versionBytes.length
  obtain ⟨instructions, his, hmatches⟩ :=
    instructionsAt_serialise m.instructions (start + m.headerBytes.length)
  refine ⟨m.parsedHeader m.versionPair start, ⟨start + m.headerBytes.length,
    m.instructions.flatMap (·.serialise) ++ tail⟩, instructions, ?_, ?_, ?_⟩
  · rw [parseMessageHeader_eq, Result.step_seq_ok_iff, serialise, List.append_assoc,
      List.append_assoc]
    exact ⟨_, _, m.parseVersion_serialise addr _,
      (accepts_parseHeaderRest _).parse (m.headerRestAt_headerBytes _ _)⟩
  · have hlength : instructions.length = m.instructions.length := hmatches.length_eq.symm
    refine ((accepts_parseInstructions _).parse ⟨hlength, his⟩).trans ?_
    rw [serialise, List.length_append, List.length_append]
    simp only [start, Nat.add_assoc]
  · refine ⟨?_, ?_, rfl, rfl, rfl, m.toNat_pubkeysLength, pubkeyArray_val _ _, rfl, rfl, hmatches⟩
    · rw [parsedHeader, versionPair]
      rcases m.version with _ | v <;> rfl
    · rw [parsedHeader, versionPair]
      rcases m.version with _ | v
      · rfl
      · exact UInt8.toNat_ofNat_of_lt' (by omega : v.val < 256)

end Message

end AgencLedger
