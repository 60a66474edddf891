import AgencLedger.App.Offchain
import AgencLedger.App.StringUtils
import AgencLedger.App.SwapSession

/-!
# App/OffchainGrammar — which bytes are an off-chain message

The parser reads the header, the handler checks what is left of it: the counts, the key of the
device among the signers, the text.  Together they accept the bytes of well-formed off-chain
messages, and nothing else.
-/

namespace AgencLedger

open Input

/-! ## Off-chain messages by value -/

/-- What the version of an off-chain message brings into its header. -/
inductive OffchainVersion
  | v0 (applicationDomain : Block 32) (format : UInt8)
  | v1
  deriving DecidableEq

/-- An off-chain message by value. -/
structure OffchainMessage where
  version : OffchainVersion
  signers : List Pubkey
  content : List UInt8
  deriving DecidableEq

def OffchainVersion.serialise : OffchainVersion → List UInt8
  | .v0 applicationDomain format => [0] ++ (applicationDomain.data ++ [format])
  | .v1 => [1]

/-- The header: the signing domain, the version, the signers behind their number, the length. -/
def OffchainMessage.headerBytes (m : OffchainMessage) : List UInt8 :=
  offchainMessageSigningDomain ++ (m.version.serialise ++ ([m.signers.length.toUInt8] ++
    (m.signers.flatMap (·.data) ++ leBytes 2 m.content.length)))

def OffchainMessage.serialise (m : OffchainMessage) : List UInt8 := m.headerBytes ++ m.content

/-- Restricted ASCII: a printable character or a line feed. -/
def RestrictedAscii (b : UInt8) : Prop := 0x20 ≤ b ∧ b ≤ 0x7e ∨ b = 0x0a

/-- The UTF-8 encoding of a text. -/
def IsUtf8 (data : List UInt8) : Prop := ∃ cs : List Char, data = cs.flatMap String.utf8EncodeChar

/-- The UTF-8 encoding of a text without U+FFFE and U+FFFF. -/
def IsAcceptedUtf8 (data : List UInt8) : Prop :=
  ∃ cs : List Char, (∀ c ∈ cs, acceptedChar c) ∧ data = cs.flatMap String.utf8EncodeChar

/-- **A well-formed off-chain message** for a signer, with a content of the given kind. -/
structure OffchainMessage.WellFormed (isText : List UInt8 → Prop) (key : Pubkey)
    (m : OffchainMessage) : Prop where
  format_le : ∀ applicationDomain format, m.version = .v0 applicationDomain format → format ≤ 1
  signers_pos : 1 ≤ m.signers.length
  signers_lt : m.signers.length < 256
  ascending : m.version = .v1 → m.signers.Pairwise fun a b => a.data < b.data
  signer : key ∈ m.signers
  content_pos : 0 < m.content.length
  content_lt : m.content.length < 65536
  text : isText m.content
  ascii : ∀ applicationDomain, m.version = .v0 applicationDomain 0 →
    ∀ b ∈ m.content, RestrictedAscii b

/-! ## The order of the signers -/

/-- The loop compares byte by byte. -/
theorem bytesLess_iff {a b : List UInt8} (h : a.length = b.length) :
    bytesLess a b = true ↔ a < b := by
  induction a generalizing b with
  | nil =>
      obtain rfl : b = [] := List.length_eq_zero_iff.mp h.symm
      exact iff_of_false Bool.false_ne_true (List.not_lt_nil _)
  | cons x a ih =>
      rcases b with _ | ⟨y, b⟩
      · cases h
      · rw [bytesLess, Bool.or_eq_true, Bool.and_eq_true, decide_eq_true_iff, beq_iff_eq,
          ih (Nat.succ.inj h), List.cons_lt_cons_iff]

theorem Pubkey.data_lt_trans {a b c : Pubkey} (hab : a.data < b.data) (hbc : b.data < c.data) :
    a.data < c.data :=
  List.lt_trans hab hbc

/-- **Neighbours in order are all in order.** -/
theorem signersAscending_iff (keys : List (Ptr Pubkey)) :
    signersAscending keys = true ↔
      (keys.map (·.val)).Pairwise fun a b : Pubkey => a.data < b.data := by
  induction keys with
  | nil => exact iff_of_true rfl List.Pairwise.nil
  | cons a keys ih =>
      rcases keys with _ | ⟨b, keys⟩
      · exact iff_of_true rfl (List.pairwise_singleton _ _)
      · rw [signersAscending, Bool.and_eq_true, ih,
          bytesLess_iff (a.val.size.trans b.val.size.symm), List.map_cons, List.map_cons,
          List.pairwise_cons (a := a.val)]
        constructor
        · rintro ⟨hab, hrest⟩
          refine ⟨fun c hc => ?_, hrest⟩
          rcases List.mem_cons.mp hc with rfl | hmem
          · exact hab
          · exact Pubkey.data_lt_trans hab ((List.pairwise_cons.mp hrest).1 c hmem)
        · rintro ⟨hall, hrest⟩
          exact ⟨hall b.val (List.mem_cons_self ..), hrest⟩

/-- Signers in strict order are distinct. -/
theorem nodup_of_ascending {keys : List Pubkey}
    (h : keys.Pairwise fun a b => a.data < b.data) : keys.Nodup := by
  refine h.imp ?_
  rintro a b hlt rfl
  exact List.lt_irrefl _ hlt

/-! ## The header -/

/-- An array of keys is the bytes of its keys. -/
theorem flatMap_pubkeyArray (n start : ℕ) {w : List UInt8} (h : w.length = n * 32) :
    ((pubkeyArray n ⟨start, w⟩).map (·.val)).flatMap (·.data) = w := by
  obtain ⟨keys, rfl, rfl⟩ : ∃ keys : List Pubkey, keys.length = n ∧ keys.flatMap (·.data) = w := by
    induction n generalizing w with
    | zero => exact ⟨[], rfl, (List.length_eq_zero_iff.mp (by omega)).symm⟩
    | succ n ih =>
        obtain ⟨keys, hkeys, hflat⟩ := @ih (w.drop 32) (by rw [List.length_drop]; omega)
        refine ⟨Block.ofBytes 32 w :: keys, by rw [List.length_cons, hkeys], ?_⟩
        rw [List.flatMap_cons, hflat, Block.ofBytes_data (by omega), List.take_append_drop]
  rw [pubkeyArray_val]

theorem integerBytes_one_iff (n : ℕ) (b : UInt8) (w : List UInt8) :
    integerBytes 1 UInt8.toNat n b w ↔ w = [b] := by
  rw [integerBytes, leBytes_one_toNat]

/-- What the parser hands out for a version. -/
def OffchainVersion.Matches (version : OffchainVersion) (header : OffchainMessageHeader) : Prop :=
  match version with
  | .v0 applicationDomain format => header.version = 0 ∧
      header.applicationDomain.map (·.val) = some applicationDomain ∧ header.format = format
  | .v1 => header.version = 1 ∧ header.applicationDomain = none

/-- What the parser hands out for the header of a message. -/
structure OffchainMessage.Matches (m : OffchainMessage)
    (header : OffchainMessageHeader) : Prop where
  version : m.version.Matches header
  signers : header.signers.map (·.val) = m.signers
  length : header.length.toNat = m.content.length

/-- **What is read is the header of a message.** -/
theorem matches_of_offchainHeaderAt {n : ℕ} {header : OffchainMessageHeader}
    {w content : List UInt8}
    (h : offchainHeaderAt n header w) (hversion : header.version ≤ 1)
    (hlength : header.length.toNat = content.length) :
    ∃ m : OffchainMessage, m.content = content ∧ w = m.headerBytes ∧ m.Matches header ∧
      m.signers.length < 256 ∧
      (m.version = .v1 → m.signers.Pairwise fun a b => a.data < b.data) := by
  obtain ⟨domain, w₁, r₁, rfl, ⟨hsize, hdomain⟩, h⟩ := h
  obtain ⟨hcheck, version, w₂, r₂, rfl, hw₂, v, w₃, r₃, rfl, hv, h⟩ :=
    (Grammar.check_seq _ _).mp h
  obtain ⟨signersLength, w₄, r₄, rfl, hw₄, signers, w₅, r₅, rfl, ⟨hkeys, hval⟩, h⟩ := h
  obtain ⟨hascending, h⟩ := (Grammar.check_seq _ _).mp h
  obtain ⟨length, rfl, hw₆⟩ := (Grammar.seq_pure _ _).mp h
  obtain rfl : w₁ = offchainMessageSigningDomain := by
    rw [hdomain] at hcheck
    exact not_not.mp (of_decide_eq_false hcheck)
  have hone₂ := (integerBytes_one_iff _ _ _).mp hw₂
  have hone₄ := (integerBytes_one_iff _ _ _).mp hw₄
  have hw₅ : (signers.val.map (·.val)).flatMap (·.data) = w₅ := by
    rw [hval]
    exact flatMap_pubkeyArray _ _ hkeys
  have hcount : (signers.val.map (·.val)).length.toUInt8 = signersLength := by
    rw [List.length_map, signers.property, Nat.toUInt8_eq, UInt8.ofNat_toNat]
  have hlt : (signers.val.map (·.val)).length < 256 := by
    rw [List.length_map, signers.property]
    exact signersLength.toNat_lt
  have hend : r₅ = leBytes 2 content.length := by
    rw [← hlength]
    exact hw₆
  by_cases hzero : version = 0
  · rw [if_pos hzero] at hv
    obtain ⟨domain, u, u', rfl, ⟨-, rfl⟩, hpair⟩ := hv
    obtain ⟨format, rfl, hformat⟩ := (Grammar.seq_pure _ _).mp hpair
    have hu' := (integerBytes_one_iff _ _ _).mp hformat
    refine ⟨⟨.v0 domain.val format, signers.val.map (·.val), content⟩, rfl, ?_, ?_, hlt, ?_⟩
    · rw [OffchainMessage.headerBytes, hone₂, hone₄, ← hw₅, hcount, hend, hu', hzero]
      rfl
    · exact ⟨⟨hzero, rfl, rfl⟩, rfl, hlength⟩
    · intro h
      cases h
  · rw [if_neg hzero] at hv
    obtain ⟨rfl, rfl⟩ := hv
    have hle : version.toNat ≤ 1 := UInt8.le_iff_toNat_le.mp hversion
    have hone : version = 1 := by
      have hne : version.toNat ≠ 0 := fun h => hzero (UInt8.toNat_inj.mp h)
      exact UInt8.toNat_inj.mp (Nat.le_antisymm hle (Nat.pos_of_ne_zero hne))
    refine ⟨⟨.v1, signers.val.map (·.val), content⟩, rfl, ?_, ?_, hlt, fun _ => ?_⟩
    · rw [OffchainMessage.headerBytes, hone₂, hone₄, ← hw₅, hcount, hend, hone]
      rfl
    · exact ⟨⟨hone, rfl⟩, rfl, hlength⟩
    · rw [← signersAscending_iff]
      rw [hone] at hascending
      simpa using hascending

/-- A version is read, with what it brings. -/
theorem exists_versionAt (version : OffchainVersion) (pos : ℕ) :
    ∃ (first : UInt8) (v : Option (Ptr (Block 32)) × UInt8) (w : List UInt8),
      version.serialise = [first] ++ w ∧
      (∀ signers length, version.Matches ⟨first, v.1, v.2, signers, length⟩) ∧
      (if first = 0 then
        (blockAt 32).seq (fun applicationDomain => (integerBytes 1 UInt8.toNat).seq fun format =>
          .pure (some applicationDomain, format)) pos v w
      else Grammar.pure (none, 0) pos v w) := by
  rcases version with ⟨applicationDomain, format⟩ | _
  · refine ⟨0, (some ⟨pos, applicationDomain⟩, format), _, rfl, fun _ _ => ⟨rfl, rfl, rfl⟩, ?_⟩
    rw [if_pos rfl]
    refine ⟨⟨pos, applicationDomain⟩, _, _, rfl, ⟨rfl, rfl⟩, ?_⟩
    exact (Grammar.seq_pure _ _).mpr ⟨format, rfl, (integerBytes_one_iff _ _ _).mpr rfl⟩
  · refine ⟨1, (none, 0), [], rfl, fun _ _ => ⟨rfl, rfl⟩, ?_⟩
    rw [if_neg (by decide)]
    exact ⟨rfl, rfl⟩

/-- **The header of a message is read**, with everything that was written. -/
theorem exists_offchainHeaderAt {m : OffchainMessage} (pos : ℕ)
    (hsigners : m.signers.length < 256) (hcontent : m.content.length < 65536)
    (hascending : m.version = .v1 → m.signers.Pairwise fun a b => a.data < b.data) :
    ∃ header, offchainHeaderAt pos header m.headerBytes ∧ m.Matches header := by
  obtain ⟨first, v, w, hw, hmatches, hv⟩ := exists_versionAt m.version (pos + 16 + 1)
  have hcount : m.signers.length.toUInt8.toNat = m.signers.length := Nat.mod_eq_of_lt hsigners
  let start := pos + 16 + 1 + w.length + 1
  let keys := pubkeyArray m.signers.length ⟨start, m.signers.flatMap (·.data)⟩
  have hkeys : keys.map (·.val) = m.signers := pubkeyArray_val _ _
  have hascend : (decide (first ≥ 1) && !signersAscending keys) = false := by
    rw [Bool.and_eq_false_iff, Bool.not_eq_false', signersAscending_iff, hkeys]
    rcases hversion : m.version with ⟨applicationDomain, format⟩ | _
    · rw [hversion] at hmatches
      obtain rfl : first = 0 := (hmatches [] 0).1
      exact .inl rfl
    · exact .inr (hascending hversion)
  refine ⟨⟨first, v.1, v.2, keys, m.content.length.toUInt16⟩, ?_,
    hmatches _ _, hkeys, Nat.mod_eq_of_lt hcontent⟩
  rw [OffchainMessage.headerBytes, hw, List.append_assoc]
  refine ⟨⟨pos, offchainMessageSigningDomain⟩, _, _, rfl, ⟨rfl, rfl⟩, ?_⟩
  refine (Grammar.check_seq _ _).mpr ⟨decide_eq_false (not_not_intro rfl), ?_⟩
  refine ⟨first, _, _, rfl, (integerBytes_one_iff _ _ _).mpr rfl, v, w, _, rfl, hv, ?_⟩
  refine ⟨m.signers.length.toUInt8, _, _, rfl, (integerBytes_one_iff _ _ _).mpr rfl, ?_⟩
  refine ⟨⟨keys, by rw [length_pubkeyArray, hcount]⟩, _, _, rfl, ⟨?_, ?_⟩, ?_⟩
  · rw [length_keyBytes, hcount]
  · exact congrArg (pubkeyArray · _) hcount.symm
  refine (Grammar.check_seq _ _).mpr ⟨hascend, (Grammar.seq_pure _ _).mpr ⟨_, rfl, ?_⟩⟩
  exact congrArg (leBytes 2) (Nat.mod_eq_of_lt hcontent).symm

/-! ## The checks -/

theorem isDataAscii_iff (data : List UInt8) :
    isDataAscii data = true ↔ ∀ b ∈ data, RestrictedAscii b := by
  rw [isDataAscii, List.all_eq_true]
  refine forall₂_congr fun b _ => ?_
  rw [RestrictedAscii, Bool.not_eq_true', Bool.or_eq_false_iff, Bool.and_eq_false_iff,
    decide_eq_false_iff_not, decide_eq_false_iff_not, decide_eq_false_iff_not, UInt8.not_lt,
    not_not, gt_iff_lt, UInt8.not_lt]
  constructor
  · rintro ⟨hlow | rfl, hhigh⟩
    · exact .inl ⟨hlow, hhigh⟩
    · exact .inr rfl
  · rintro (⟨hlow, hhigh⟩ | rfl)
    · exact ⟨.inl hlow, hhigh⟩
    · exact ⟨.inr rfl, by decide⟩

theorem isDataUtf8_iff (data : List UInt8) : isDataUtf8 data = true ↔ IsAcceptedUtf8 data :=
  isDataUtf8Loop_iff le_rfl

/-- The checks on the fields of a header. -/
theorem checkOffchainHeader_iff (header : OffchainMessageHeader) (content : List UInt8) :
    checkOffchainHeader header content = .ok () ↔
      (header.version ≤ 1 ∧ header.length ≠ 0 ∧ header.length.toNat = content.length ∧
        header.signers.length ≠ 0) ∧ (header.version = 0 → header.format ≤ 1) := by
  unfold checkOffchainHeader
  by_cases hcounts : header.version > 1 ∨ header.length = 0 ∨
    header.length.toNat ≠ content.length ∨ header.signers.length = 0
  · rw [if_pos hcounts]
    refine iff_of_false (fun h => nomatch h) ?_
    rintro ⟨⟨hversion, hlength, hcontent, hsigners⟩, -⟩
    rcases hcounts with hversion' | hlength' | hcontent' | hsigners'
    · exact absurd hversion (UInt8.not_le.mpr hversion')
    · exact hlength hlength'
    · exact hcontent' hcontent
    · exact hsigners hsigners'
  · rw [if_neg hcounts]
    simp only [not_or, gt_iff_lt, UInt8.not_lt, ne_eq, not_not] at hcounts
    rw [and_iff_right hcounts]
    by_cases hformat : header.version = 0 ∧ header.format > 1
    · rw [if_pos hformat]
      exact iff_of_false (fun h => nomatch h) fun h =>
        absurd (h hformat.1) (UInt8.not_le.mpr hformat.2)
    · rw [if_neg hformat]
      exact iff_of_true rfl fun hversion => UInt8.not_lt.mp fun hlt => hformat ⟨hversion, hlt⟩

theorem eq_of_checkOffchainHeader {header : OffchainMessageHeader} {content : List UInt8}
    {sw : ApduReply} (h : checkOffchainHeader header content = .error sw) :
    sw = .solanaInvalidMessageHeader := by
  simp only [checkOffchainHeader, throw_bind] at h
  split at h
  · cases h
    rfl
  split at h
  · cases h
    rfl
  · cases h

/-- A key that is found is the one that was looked for. -/
theorem eq_of_getPubkeyIndex {key : Pubkey} {keys : List (Ptr Pubkey)} {signer : Ptr Pubkey}
    (h : (getPubkeyIndex key keys).bind (keys[·]?) = some signer) :
    signer.val = key ∧ signer ∈ keys := by
  obtain ⟨i, hindex, hget⟩ := Option.bind_eq_some_iff.mp h
  obtain ⟨hi, hkey, -⟩ := List.findIdx?_eq_some_iff_getElem.mp hindex
  obtain ⟨-, rfl⟩ := List.getElem?_eq_some_iff.mp hget
  exact ⟨of_decide_eq_true hkey, List.getElem_mem hi⟩

theorem exists_getPubkeyIndex {key : Pubkey} {keys : List (Ptr Pubkey)}
    (h : key ∈ keys.map (·.val)) :
    ∃ signer, (getPubkeyIndex key keys).bind (keys[·]?) = some signer := by
  obtain ⟨ptr, hmem, rfl⟩ := List.mem_map.mp h
  rcases hindex : getPubkeyIndex ptr.val keys with _ | i
  · have hnone := List.findIdx?_eq_none_iff.mp hindex ptr hmem
    exact absurd rfl (of_decide_eq_false hnone)
  · obtain ⟨hi, -, -⟩ := List.findIdx?_eq_some_iff_getElem.mp hindex
    exact ⟨keys[i], List.getElem?_eq_getElem hi⟩

/-! ## The handler -/

/-- **The format checks of a command**, which the header, the signer and the text pass. -/
structure Command.Formatted (env : Env) (command : Command) (header : OffchainMessageHeader)
    (p : Parser) (signer : Ptr Pubkey) : Prop where
  parse : parseOffchainMessageHeader ⟨0, command.message⟩ = .ok (header, p)
  check : checkOffchainHeader header p.buffer = .ok ()
  signer : ∃ publicKey, env.getPublicKey command.derivationPath = some publicKey ∧
    (getPubkeyIndex publicKey header.signers).bind (header.signers[·]?) = some signer
  text : isDataAscii p.buffer = true ∨
    isDataUtf8 p.buffer = true ∧ ¬(header.version = 0 ∧ header.format = 0)

theorem OffchainMessage.Matches.version_eq {m : OffchainMessage} {header : OffchainMessageHeader}
    (h : m.Matches header) :
    (∃ applicationDomain, m.version = .v0 applicationDomain header.format) ∧ header.version = 0 ∨
      m.version = .v1 ∧ header.version = 1 := by
  have hmatches := h.version
  rcases hversion : m.version with ⟨applicationDomain, format⟩ | _
  · rw [hversion] at hmatches
    obtain ⟨hzero, -, rfl⟩ := hmatches
    exact .inl ⟨⟨applicationDomain, rfl⟩, hzero⟩
  · rw [hversion] at hmatches
    exact .inr ⟨rfl, hmatches.1⟩

/-- What the checks ask of a message whose header was read. -/
theorem wellFormed_iff {m : OffchainMessage} {header : OffchainMessageHeader}
    (hmatches : m.Matches header) (hlt : m.signers.length < 256)
    (hascending : m.version = .v1 → m.signers.Pairwise fun a b => a.data < b.data) (key : Pubkey) :
    m.WellFormed IsAcceptedUtf8 key ↔ checkOffchainHeader header m.content = .ok () ∧
      (∃ signer, (getPubkeyIndex key header.signers).bind (header.signers[·]?) = some signer) ∧
      (isDataAscii m.content = true ∨
        isDataUtf8 m.content = true ∧ ¬(header.version = 0 ∧ header.format = 0)) := by
  have hcount : header.signers.length = m.signers.length := by
    rw [← hmatches.signers, List.length_map]
  have hpos : header.length ≠ 0 ↔ 0 < m.content.length := by
    rw [← hmatches.length, Nat.pos_iff_ne_zero, ne_eq, ne_eq, ← UInt16.toNat_inj, UInt16.toNat_zero]
  have hascii : isDataAscii m.content = true → isDataUtf8 m.content = true :=
    isDataUtf8Loop_of_isDataAscii le_rfl
  rw [checkOffchainHeader_iff, hpos, hcount]
  constructor
  · intro h
    refine ⟨⟨⟨?_, h.content_pos, hmatches.length, Nat.ne_of_gt h.signers_pos⟩, ?_⟩, ?_, ?_⟩
    · rcases hmatches.version_eq with ⟨-, hzero⟩ | ⟨-, hone⟩
      · rw [hzero]
        decide
      · rw [hone]
        decide
    · intro hzero
      rcases hmatches.version_eq with ⟨⟨applicationDomain, hversion⟩, -⟩ | ⟨-, hone⟩
      · exact h.format_le _ _ hversion
      · rw [hzero] at hone
        cases hone
    · exact exists_getPubkeyIndex (hmatches.signers ▸ h.signer)
    · rw [isDataAscii_iff, isDataUtf8_iff]
      by_cases hv0 : header.version = 0 ∧ header.format = 0
      · rcases hmatches.version_eq with ⟨⟨applicationDomain, hversion⟩, -⟩ | ⟨-, hone⟩
        · exact .inl (h.ascii applicationDomain (hv0.2 ▸ hversion))
        · rw [hv0.1] at hone
          cases hone
      · exact .inr ⟨h.text, hv0⟩
  · rintro ⟨⟨⟨-, hcontent, -, hsigners⟩, hformat⟩, ⟨signer, hsigner⟩, htext⟩
    obtain ⟨rfl, hmem⟩ := eq_of_getPubkeyIndex hsigner
    refine ⟨fun applicationDomain format hversion => ?_, Nat.pos_of_ne_zero hsigners, hlt,
      hascending, hmatches.signers ▸ List.mem_map_of_mem hmem, hcontent,
      hmatches.length ▸ header.length.toNat_lt, ?_, fun applicationDomain hversion => ?_⟩
    · rcases hmatches.version_eq with ⟨⟨_, hversion'⟩, hzero⟩ | ⟨hone, -⟩
      · rw [hversion] at hversion'
        cases hversion'
        exact hformat hzero
      · rw [hversion] at hone
        cases hone
    · exact (isDataUtf8_iff _).mp (htext.elim hascii (·.1))
    · rw [← isDataAscii_iff]
      refine htext.resolve_right fun h => h.2 ?_
      rcases hmatches.version_eq with ⟨⟨_, hversion'⟩, hzero⟩ | ⟨hone, -⟩
      · rw [hversion] at hversion'
        exact ⟨hzero, (OffchainVersion.v0.inj hversion').2.symm⟩
      · rw [hversion] at hone
        cases hone

/-- **A command that passes the checks has the header of a well-formed message.** -/
theorem Command.Formatted.exists_message {env : Env} {command : Command}
    {header : OffchainMessageHeader} {p : Parser} {signer : Ptr Pubkey}
    (h : command.Formatted env header p signer) :
    ∃ m : OffchainMessage, env.getPublicKey command.derivationPath = some signer.val ∧
      m.WellFormed IsAcceptedUtf8 signer.val ∧ command.message = m.serialise ∧
      m.Matches header ∧ m.content = p.buffer := by
  obtain ⟨key, hkey, hsigner⟩ := h.signer
  obtain ⟨w, ⟨hbuffer, -⟩, hw⟩ := (accepts_parseOffchainMessageHeader _ _ _).mp h.parse
  obtain ⟨⟨hversion, -, hcontent, -⟩, -⟩ := (checkOffchainHeader_iff _ _).mp h.check
  obtain ⟨m, hm, rfl, hmatches, hlt, hascending⟩ :=
    matches_of_offchainHeaderAt hw hversion hcontent
  obtain ⟨rfl, -⟩ := eq_of_getPubkeyIndex hsigner
  refine ⟨m, hkey, (wellFormed_iff hmatches hlt hascending _).mpr ?_, ?_, hmatches, hm⟩
  · rw [hm]
    exact ⟨h.check, ⟨signer, hsigner⟩, h.text⟩
  · rw [OffchainMessage.serialise, hm]
    exact hbuffer

/-- **A well-formed message passes the checks**, and is what was read. -/
theorem OffchainMessage.WellFormed.exists_formatted {env : Env} {command : Command}
    {m : OffchainMessage} {key : Pubkey} (h : m.WellFormed IsAcceptedUtf8 key)
    (hkey : env.getPublicKey command.derivationPath = some key)
    (hmessage : command.message = m.serialise) :
    ∃ header p signer, command.Formatted env header p signer ∧ m.Matches header ∧
      p.buffer = m.content ∧ signer.val = key := by
  obtain ⟨header, hheader, hmatches⟩ :=
    exists_offchainHeaderAt 0 h.signers_lt h.content_lt h.ascending
  obtain ⟨hcheck, ⟨signer, hsigner⟩, htext⟩ :=
    (wellFormed_iff hmatches h.signers_lt h.ascending key).mp h
  refine ⟨header, ⟨0 + m.headerBytes.length, m.content⟩, signer,
    ⟨?_, hcheck, ⟨key, hkey, hsigner⟩, htext⟩, hmatches, rfl, (eq_of_getPubkeyIndex hsigner).1⟩
  rw [hmessage]
  exact accepts_parseOffchainMessageHeader.parse hheader

section

variable {env : Env} {app : App}

/-- The app with the start of the text. -/
def App.withText (app : App) (header : OffchainMessageHeader) : App :=
  { app with command := { app.command with
      messageTextStart := some (offchainMessageHeaderLength header) } }

/-- The app with the hash of the content, if it is shown. -/
def App.withContentHash (env : Env) (app : App) (content : List UInt8) : App :=
  { app with command := { app.command with
      messageHash := if !isDataAscii content || app.settings.expertMode then
          (env.sdk.sha256 content).getD app.command.messageHash
        else app.command.messageHash } }

/-- **What follows the checks**: the review, or the refusal to sign blindly. -/
theorem handleSignOffchainMessage_of_formatted {header : OffchainMessageHeader} {p : Parser}
    {signer : Ptr Pubkey} (hconfirm : app.command.nonConfirm = false)
    (hsize : app.command.message.length ≤ packetDataSize)
    (h : app.command.Formatted env header p signer) :
    handleSignOffchainMessage env app =
      if !isDataAscii p.buffer && !app.settings.allowBlindSign then
        { app.withText header with screen := .page }.sendSw .sdkNotSupported
      else setupOffchainSigningUi header (isDataAscii p.buffer) signer
        ((app.withText header).withContentHash env p.buffer) := by
  obtain ⟨publicKey, hkey, hsigner⟩ := h.signer
  have hutf8 : ¬(!(isDataAscii p.buffer || isDataUtf8 p.buffer)) = true := by
    rcases h.text with hascii | ⟨hutf8, -⟩
    · simp [hascii]
    · simp [hutf8]
  have hformat : ¬(decide (header.version = 0) && !isDataAscii p.buffer
      && decide (header.format = 0)) = true := by
    rcases h.text with hascii | ⟨-, hv0⟩
    · simp [hascii]
    · simp only [Bool.and_eq_true, decide_eq_true_iff]
      exact fun hboth => hv0 ⟨hboth.1.1, hboth.2⟩
  rw [handleSignOffchainMessage, if_neg (by rw [hconfirm]; exact Bool.false_ne_true),
    if_neg (Nat.not_lt.mpr hsize), h.parse]
  simp only [h.check, hkey, hsigner]
  rw [if_neg hutf8, if_neg hformat]
  rfl

/-- **The handler gets past the format checks**: the message is put up for review, or refused
because it would have to be signed blindly. -/
def App.PassesFormatChecks (env : Env) (app : App) : Prop :=
  (handleSignOffchainMessage env app).1 = .pending ∨
    (handleSignOffchainMessage env app).1 = .status .sdkNotSupported ∧
      (handleSignOffchainMessage env app).2.screen = .page

theorem passesFormatChecks_iff (hconfirm : app.command.nonConfirm = false)
    (hsize : app.command.message.length ≤ packetDataSize) :
    app.PassesFormatChecks env ↔ ∃ header p signer, app.command.Formatted env header p signer := by
  constructor
  · intro h
    -- a status word of another kind is a refusal of the format
    have hrefused : ∀ (sw : ApduReply) (app' : App), sw ≠ .sdkNotSupported →
        ¬((app'.sendSw sw).1 = .pending ∨
          (app'.sendSw sw).1 = .status .sdkNotSupported ∧ (app'.sendSw sw).2.screen = .page) := by
      rintro sw app' hsw (hpending | ⟨hstatus, -⟩)
      · cases hpending
      · exact hsw (Outcome.status.inj hstatus)
    rw [App.PassesFormatChecks, handleSignOffchainMessage,
      if_neg (by rw [hconfirm]; exact Bool.false_ne_true), if_neg (Nat.not_lt.mpr hsize)] at h
    rcases hparse : parseOffchainMessageHeader ⟨0, app.command.message⟩ with stop | ⟨header, p⟩
    · rw [hparse] at h
      rcases stop with _ | _
      all_goals
        rcases h with hpending | ⟨hstatus, -⟩
        · cases hpending
        · cases hstatus
    simp only [hparse] at h
    rcases hcheck : checkOffchainHeader header p.buffer with sw | ⟨⟩
    · rw [hcheck] at h
      obtain rfl := eq_of_checkOffchainHeader hcheck
      exact absurd h (hrefused _ _ (by decide))
    simp only [hcheck] at h
    rcases hkey : env.getPublicKey app.command.derivationPath with _ | publicKey
    · rw [hkey] at h
      exact absurd h (hrefused _ _ (by decide))
    simp only [hkey] at h
    rcases hsigner : (getPubkeyIndex publicKey header.signers).bind (header.signers[·]?)
      with _ | signer
    · rw [hsigner] at h
      exact absurd h (hrefused _ _ (by decide))
    simp only [hsigner] at h
    refine ⟨header, p, signer, hparse, hcheck, ⟨publicKey, hkey, hsigner⟩, ?_⟩
    split at h
    · exact absurd h (hrefused _ _ (by decide))
    split at h
    · exact absurd h (hrefused _ _ (by decide))
    rename_i hutf8 hformat
    simp only [Bool.not_eq_true, Bool.not_eq_false', Bool.or_eq_true] at hutf8
    rcases hascii : isDataAscii p.buffer with _ | _
    · refine .inr ⟨hutf8.resolve_left (by rw [hascii]; exact Bool.false_ne_true), fun hv0 => ?_⟩
      refine hformat ?_
      rw [hascii, decide_eq_true hv0.1, decide_eq_true hv0.2]
      rfl
    · exact .inl rfl
  · rintro ⟨header, p, signer, h⟩
    rw [App.PassesFormatChecks, handleSignOffchainMessage_of_formatted hconfirm hsize h]
    split
    · exact .inr ⟨rfl, rfl⟩
    · obtain ⟨summary, hreview⟩ := @setupOffchainSigningUi_spec
        ((app.withText header).withContentHash env p.buffer) header (isDataAscii p.buffer) signer
      rw [hreview]
      exact .inl rfl

end

/-- **The grammar of off-chain messages.**  A command gets past the format checks exactly when its
bytes are those of a well-formed message with the key of the device among its signers; the signers
of a version 1 message are distinct. -/
theorem passesFormatChecks_iff_wellFormed (env : Env) (app : App)
    (hconfirm : app.command.nonConfirm = false)
    (hsize : app.command.message.length ≤ packetDataSize) :
    (app.PassesFormatChecks env ↔
      ∃ (key : Pubkey) (m : OffchainMessage),
        env.getPublicKey app.command.derivationPath = some key ∧
        m.WellFormed IsAcceptedUtf8 key ∧ app.command.message = m.serialise) ∧
    ∀ (key : Pubkey) (m : OffchainMessage), m.WellFormed IsAcceptedUtf8 key → m.version = .v1 →
      m.signers.Nodup := by
  refine ⟨(passesFormatChecks_iff hconfirm hsize).trans ⟨?_, ?_⟩, ?_⟩
  · rintro ⟨header, p, signer, h⟩
    obtain ⟨m, hkey, hm, hmessage, -, -⟩ := h.exists_message
    exact ⟨signer.val, m, hkey, hm, hmessage⟩
  · rintro ⟨key, m, hkey, hm, hmessage⟩
    obtain ⟨header, p, signer, h, -⟩ := hm.exists_formatted hkey hmessage
    exact ⟨header, p, signer, h⟩
  · intro key m hm hversion
    exact nodup_of_ascending (hm.ascending hversion)

/-- The app with a message to sign. -/
def offchainApp (message : List UInt8) : App :=
  { dashboardApp with command := { Command.clear with
      state := .payloadComplete, instruction := some .signOffchainMessage, numDerivationPaths := 1
      derivationPath := [0x8000002c, 0x800001f5], message } }

theorem wellFormed_v1 {isText : List UInt8 → Prop} {content : List UInt8}
    (hpos : 0 < content.length)
    (hlt : content.length < 65536) (htext : isText content) :
    (OffchainMessage.mk .v1 [plainSigner] content).WellFormed isText plainSigner where
  format_le := fun _ _ h => nomatch h
  signers_pos := Nat.le_refl 1
  signers_lt := Nat.lt_of_sub_pos (Nat.succ_pos 254)
  ascending := fun _ => List.pairwise_singleton _ _
  signer := List.mem_singleton_self _
  content_pos := hpos
  content_lt := hlt
  text := htext
  ascii := fun _ h => nomatch h

/-- The theorem on the text `hi`. -/
theorem passesFormatChecks_iff_wellFormed_hi :
    (offchainApp (OffchainMessage.mk .v1 [plainSigner] [104, 105]).serialise).PassesFormatChecks
      signingEnv := by
  exact (passesFormatChecks_iff_wellFormed signingEnv _ rfl (by decide)).1.mpr
    ⟨plainSigner, _, rfl,
      wellFormed_v1 (by decide) (by decide) ((isDataUtf8_iff _).mp (by decide)), rfl⟩

/-- A version 1 message whose text is the one character U+FFFE. -/
def noncharacterMessage : OffchainMessage := ⟨.v1, [plainSigner], [0xef, 0xbf, 0xbe]⟩

/-- **Not all UTF-8 is accepted**: U+FFFE is refused. -/
theorem noncharacterMessage_not_passes :
    ¬∀ (env : Env) (app : App), app.command.nonConfirm = false →
      app.command.message.length ≤ packetDataSize →
      (app.PassesFormatChecks env ↔
        ∃ (key : Pubkey) (m : OffchainMessage),
          env.getPublicKey app.command.derivationPath = some key ∧
          m.WellFormed IsUtf8 key ∧ app.command.message = m.serialise) := by
  intro h
  have hpasses := (h signingEnv (offchainApp noncharacterMessage.serialise) rfl (by decide)).mpr
    ⟨plainSigner, noncharacterMessage, rfl,
      wellFormed_v1 (by decide) (by decide) ⟨[Char.ofNat 0xfffe], by decide⟩, rfl⟩
  have hstatus : (handleSignOffchainMessage signingEnv
    (offchainApp noncharacterMessage.serialise)).1
      = .status .solanaInvalidMessageFormat := by decide
  rw [App.PassesFormatChecks, hstatus] at hpasses
  rcases hpasses with hpending | ⟨hpage, -⟩
  · cases hpending
  · cases hpage

end AgencLedger
