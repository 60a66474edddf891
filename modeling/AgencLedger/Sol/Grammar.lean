import AgencLedger.Library.Grammar
import AgencLedger.Sol.Parser
import Mathlib.Data.UInt
import Mathlib.Tactic.Ring

/-!
# Sol/Grammar — what the parsing steps accept

Each step of `Sol/Parser` accepts exactly a grammar: the little-endian bytes of an integer, a block
of a fixed length, a compact length in front of its data.
-/

namespace AgencLedger

open Input

instance : Input Parser UInt8 where
  equiv := ⟨fun p => (p.addr, p.buffer), fun q => ⟨q.1, q.2⟩, fun _ => rfl, fun _ => rfl⟩

theorem Parser.reads_iff {p p' : Parser} {w : List UInt8} :
    Reads p w p' ↔ p.buffer = w ++ p'.buffer ∧ p'.addr = p.addr + w.length :=
  Iff.rfl

/-! ## Little-endian integers -/

/-- The `n` bytes of a number, the lowest one first. -/
def leBytes : ℕ → ℕ → List UInt8
  | 0, _ => []
  | n + 1, v => (v % 256).toUInt8 :: leBytes n (v / 256)

@[simp] theorem length_leBytes (n v : ℕ) : (leBytes n v).length = n := by
  induction n generalizing v with
  | zero => rfl
  | succ n ih => rw [leBytes, List.length_cons, ih]

/-- **The bytes of a number in two halves.** -/
theorem leBytes_add (m n : ℕ) {low : ℕ} (hlow : low < 256 ^ m) (high : ℕ) :
    leBytes (m + n) (low + 256 ^ m * high) = leBytes m low ++ leBytes n high := by
  induction m generalizing low with
  | zero =>
      obtain rfl : low = 0 := by simpa using hlow
      simp [leBytes]
  | succ m ih =>
      have hdiv : (low + 256 ^ (m + 1) * high) / 256 = low / 256 + 256 ^ m * high := by
        rw [pow_succ', mul_assoc, Nat.add_mul_div_left _ _ (by decide)]
      have hmod : (low + 256 ^ (m + 1) * high) % 256 = low % 256 := by
        rw [pow_succ', mul_assoc, Nat.add_mul_mod_self_left]
      have hsmall : low / 256 < 256 ^ m := by
        rw [pow_succ'] at hlow
        exact Nat.div_lt_of_lt_mul hlow
      rw [Nat.add_right_comm m 1 n, leBytes, hdiv, hmod, ih hsmall]
      rfl

theorem leBytes_one_toNat (b : UInt8) : leBytes 1 b.toNat = [b] := by
  have h : b.toNat % 256 = b.toNat := Nat.mod_eq_of_lt b.toNat_lt
  simp [leBytes, h]

/-- The bytes of an integer. -/
def integerBytes {α : Type} (n : ℕ) (toNat : α → ℕ) : Grammar UInt8 α := fun _ v w =>
  w = leBytes n (toNat v)

theorem accepts_parseU8 : Accepts parseU8 (integerBytes 1 UInt8.toNat) := by
  intro p b p'
  simp only [integerBytes, leBytes_one_toNat, exists_eq_right, Parser.reads_iff]
  unfold parseU8
  split
  · rename_i h
    simp [h]
  · rename_i b' rest h
    rw [h]
    constructor
    · intro hok
      cases hok
      exact ⟨rfl, rfl⟩
    · rintro ⟨hbuf, haddr⟩
      obtain ⟨rfl, rfl⟩ : b' = b ∧ rest = p'.buffer := by simpa using hbuf
      cases p'
      cases haddr
      rfl

/-- Two halves of an integer, the lower one first. -/
theorem accepts_halves {α β : Type} {step : ParseM α} {m : ℕ} {toNat : α → ℕ} {toNat' : β → ℕ}
    {join : α → α → β} (h : Accepts step (integerBytes m toNat))
    (hlt : ∀ a, toNat a < 256 ^ m) (hofNat : ∀ n < 256 ^ m, ∃ a, toNat a = n)
    (hjoin : ∀ a b, toNat' (join a b) = toNat a + 256 ^ m * toNat b)
    (hinj : Function.Injective toNat') (hlt' : ∀ v, toNat' v < 256 ^ (m + m)) :
    Accepts (do let lower ← step; let upper ← step; pure (join lower upper))
      (integerBytes (m + m) toNat') := by
  have hsplit : ∀ v, ∃ a b, v = join a b := fun v => by
    have hpos : 0 < 256 ^ m := Nat.pow_pos (by decide)
    obtain ⟨a, ha⟩ := hofNat (toNat' v % 256 ^ m) (Nat.mod_lt _ hpos)
    obtain ⟨b, hb⟩ := hofNat (toNat' v / 256 ^ m) (Nat.div_lt_of_lt_mul (by
      rw [← Nat.pow_add]
      exact hlt' v))
    exact ⟨a, b, hinj (by rw [hjoin, ha, hb, Nat.mod_add_div])⟩
  refine (h.seq fun a => h.seq fun b => .pure (join a b)).congr fun n v w => ?_
  constructor
  · rintro ⟨a, u, v', rfl, hu, hv⟩
    obtain ⟨b, rfl, hb⟩ := (Grammar.seq_pure _ _).mp hv
    rw [integerBytes] at hu hb
    rw [integerBytes, hjoin, leBytes_add m m (hlt a), hu, hb]
  · intro hw
    obtain ⟨a, b, rfl⟩ := hsplit v
    rw [integerBytes, hjoin, leBytes_add m m (hlt a)] at hw
    exact ⟨a, _, _, hw, rfl, (Grammar.seq_pure _ _).mpr ⟨b, rfl, rfl⟩⟩

theorem accepts_parseU16 : Accepts parseU16 (integerBytes 2 UInt16.toNat) :=
  accepts_halves accepts_parseU8 (fun a => a.toNat_lt)
    (fun n hn => ⟨UInt8.ofNat n, UInt8.toNat_ofNat_of_lt' hn⟩)
    (fun a b => by
      have ha := a.toNat_lt
      have hb := b.toNat_lt
      have hshift : (2 : ℕ) ^ ((UInt16.toNat 8) % 16) = 256 := rfl
      rw [UInt16.toNat_add, UInt16.toNat_shiftLeft, UInt8.toNat_toUInt16,
        UInt8.toNat_toUInt16, Nat.shiftLeft_eq, hshift]
      omega)
    (fun _ _ => UInt16.toNat_inj.mp) fun v => v.toNat_lt

theorem accepts_parseU32 : Accepts parseU32 (integerBytes 4 UInt32.toNat) :=
  accepts_halves accepts_parseU16 (fun a => a.toNat_lt)
    (fun n hn => ⟨UInt16.ofNat n, UInt16.toNat_ofNat_of_lt' hn⟩)
    (fun a b => by
      have ha := a.toNat_lt
      have hb := b.toNat_lt
      have hshift : (2 : ℕ) ^ ((UInt32.toNat 16) % 32) = 65536 := rfl
      rw [UInt32.toNat_add, UInt32.toNat_shiftLeft, UInt16.toNat_toUInt32,
        UInt16.toNat_toUInt32, Nat.shiftLeft_eq, hshift]
      omega)
    (fun _ _ => UInt32.toNat_inj.mp) fun v => v.toNat_lt

/-- Looking at the length first changes nothing for a step that reads that many bytes. -/
theorem accepts_checkBufferLength {α : Type} {num : ℕ} {step : ParseM α} {g : Grammar UInt8 α}
    (h : Accepts step g) (hg : ∀ n a w, g n a w → num ≤ w.length) :
    Accepts (checkBufferLength num >>= fun _ => step) g := by
  intro p a p'
  rw [Result.step_seq_ok_iff, ← h p a p']
  constructor
  · rintro ⟨u, q, hcheck, hstep⟩
    unfold checkBufferLength at hcheck
    split at hcheck
    · cases hcheck
    · cases hcheck
      exact hstep
  · intro hstep
    obtain ⟨w, ⟨hrest, -⟩, hw⟩ := (h p a p').mp hstep
    refine ⟨(), p, ?_, hstep⟩
    have hlen : p.buffer.length = w.length + p'.buffer.length := by
      rw [← List.length_append]
      exact congrArg List.length hrest
    have := hg _ _ _ hw
    rw [checkBufferLength, if_neg (by omega)]

theorem accepts_parseU64 : Accepts parseU64 (integerBytes 8 UInt64.toNat) :=
  accepts_checkBufferLength
    (accepts_halves accepts_parseU32 (fun a => a.toNat_lt)
      (fun n hn => ⟨UInt32.ofNat n, UInt32.toNat_ofNat_of_lt' hn⟩)
      (fun a b => by
        have ha := a.toNat_lt
        have hb := b.toNat_lt
        have hshift : (2 : ℕ) ^ ((UInt64.toNat 32) % 64) = 4294967296 := rfl
        rw [UInt64.toNat_add, UInt64.toNat_shiftLeft, UInt32.toNat_toUInt64,
          UInt32.toNat_toUInt64, Nat.shiftLeft_eq, hshift]
        omega)
      (fun _ _ => UInt64.toNat_inj.mp) fun v => v.toNat_lt)
    fun n a w hw => by rw [hw, length_leBytes]

theorem accepts_parseI64 : Accepts parseI64 (integerBytes 8 fun v => v.toUInt64.toNat) := by
  refine (accepts_parseU64.seq fun v => .pure v.toInt64).congr fun n v w => ?_
  rw [Grammar.seq_pure]
  constructor
  · rintro ⟨a, rfl, hw⟩
    simpa [integerBytes] using hw
  · intro hw
    exact ⟨v.toUInt64, by simp, hw⟩

/-! ## Blocks -/

/-- A block of `num` bytes, by reference. -/
def bytesAt (num : ℕ) : Grammar UInt8 (Ptr (List UInt8)) := fun n bytes w =>
  w.length = num ∧ bytes = ⟨n, w⟩

theorem accepts_bytes (num : ℕ) :
    Accepts (checkBufferLength num >>= fun _ => advance num) (bytesAt num) := by
  intro p bytes p'
  rw [Result.step_seq_ok_iff]
  constructor
  · rintro ⟨u, q, hcheck, hstep⟩
    unfold checkBufferLength at hcheck
    split at hcheck
    · cases hcheck
    · cases hcheck
      obtain ⟨-, hr⟩ := advance_ok_iff.mp hstep
      cases hr
      have hlen : (p.buffer.take num).length = num := List.length_take_of_le (by omega)
      exact ⟨p.buffer.take num, ⟨(List.take_append_drop num p.buffer).symm, by rw [hlen]; rfl⟩,
        hlen, rfl⟩
  · rintro ⟨w, ⟨hbuffer, haddr⟩, rfl, rfl⟩
    have hbuffer : p.buffer = w ++ p'.buffer := hbuffer
    have haddr : p'.addr = p.addr + w.length := haddr
    have hle : w.length ≤ p.buffer.length := by
      rw [hbuffer, List.length_append]
      omega
    refine ⟨(), p, by rw [checkBufferLength, if_neg (Nat.not_lt.mpr hle)], ?_⟩
    refine advance_ok_iff.mpr ⟨hle, ?_⟩
    cases p'
    simp only at hbuffer haddr
    simp only [hbuffer, haddr, List.take_left', List.drop_left']
    rfl

/-- The same block with its length in its type. -/
def blockAt (num : ℕ) : Grammar UInt8 (Ptr (Block num)) := fun n block w =>
  block.addr = n ∧ block.val.data = w

theorem accepts_parseBlock (num : ℕ) : Accepts (parseBlock num) (blockAt num) := by
  have hassoc : parseBlock num = (checkBufferLength num >>= fun _ => advance num) >>=
      fun bytes => pure ⟨bytes.addr, Block.ofBytes num bytes.val⟩ := by
    simp only [bind_assoc]
    rfl
  rw [hassoc]
  refine ((accepts_bytes num).seq fun bytes => .pure _).congr fun n block w => ?_
  rw [Grammar.seq_pure]
  constructor
  · rintro ⟨bytes, rfl, rfl, rfl⟩
    refine ⟨rfl, ?_⟩
    rw [Block.ofBytes_data (le_refl _), List.take_length]
  · rintro ⟨rfl, rfl⟩
    exact ⟨⟨block.addr, block.val.data⟩, by rw [Block.ofBytes_self], block.val.size, rfl⟩

/-- An array of `num` keys, by reference. -/
def pubkeysAt (num : ℕ) : Grammar UInt8 {l : List (Ptr Pubkey) // l.length = num} := fun n keys w =>
  w.length = num * 32 ∧ keys.val = pubkeyArray num ⟨n, w⟩

theorem accepts_parsePubkeysWithLen (num : ℕ) :
    Accepts (parsePubkeysWithLen num) (pubkeysAt num) := by
  have hassoc : parsePubkeysWithLen num = (checkBufferLength (num * 32) >>= fun _ =>
      advance (num * 32)) >>= fun bytes =>
        pure ⟨pubkeyArray num bytes, length_pubkeyArray num bytes⟩ := by
    simp only [bind_assoc]
    rfl
  rw [hassoc]
  refine ((accepts_bytes (num * 32)).seq fun bytes => .pure _).congr fun n keys w => ?_
  rw [Grammar.seq_pure]
  constructor
  · rintro ⟨bytes, rfl, hlen, rfl⟩
    exact ⟨hlen, rfl⟩
  · rintro ⟨hlen, hkeys⟩
    exact ⟨⟨n, w⟩, Subtype.ext hkeys, hlen, rfl⟩

/-! ## Options and lengths -/

theorem accepts_parseOption :
    Accepts parseOption fun _ some w => w = [if some then 1 else 0] := by
  refine (accepts_parseU8.seq fun b => Accepts.ite (fun _ => .pure false) fun _ =>
    Accepts.ite (fun _ => .pure true) fun _ => .throw Stop.bail).congr fun n some w => ?_
  constructor
  · rintro ⟨b, u, v, rfl, hu, hv⟩
    rw [integerBytes, leBytes_one_toNat] at hu
    split at hv
    · obtain ⟨rfl, rfl⟩ := hv
      rw [hu, ‹b = 0›]
      rfl
    · split at hv
      · obtain ⟨rfl, rfl⟩ := hv
        rw [hu, ‹b = 1›]
        rfl
      · exact hv.elim
  · rintro rfl
    refine ⟨if some then 1 else 0, _, [], (List.append_nil _).symm, ?_, ?_⟩
    · rw [integerBytes, leBytes_one_toNat]
    · cases some
      · exact ⟨rfl, rfl⟩
      · exact ⟨rfl, rfl⟩

/-- A length in seven bits a byte: `value` in one, two or three bytes. -/
def compactLength : Grammar UInt8 ℕ := fun _ value w =>
  (∃ a, w = [a] ∧ a &&& 0x80 = 0 ∧ value = (a &&& 0x7f).toNat) ∨
  (∃ a b, w = [a, b] ∧ a &&& 0x80 ≠ 0 ∧ b &&& 0x80 = 0 ∧
    value = (b &&& 0x7f).toNat <<< 7 ||| (a &&& 0x7f).toNat) ∨
  (∃ a b c, w = [a, b, c] ∧ a &&& 0x80 ≠ 0 ∧ b &&& 0x80 ≠ 0 ∧
    value = (c &&& 0x7f).toNat <<< 14 ||| ((b &&& 0x7f).toNat <<< 7 ||| (a &&& 0x7f).toNat))

theorem accepts_parseLength : Accepts parseLength compactLength := by
  refine (accepts_parseU8.seq fun a => Accepts.ite (fun _ => .pure _) fun _ =>
    accepts_parseU8.seq fun b => Accepts.ite (fun _ => .pure _) fun _ =>
    accepts_parseU8.seq fun c => .pure _).congr fun n value w => ?_
  simp only [compactLength, Grammar.seq, Grammar.pure, integerBytes, leBytes_one_toNat]
  constructor
  · rintro ⟨a, u, v, rfl, rfl, hv⟩
    split at hv
    · obtain ⟨rfl, rfl⟩ := hv
      exact .inl ⟨a, rfl, ‹_›, rfl⟩
    · obtain ⟨b, u, v, rfl, rfl, hv⟩ := hv
      split at hv
      · obtain ⟨rfl, rfl⟩ := hv
        exact .inr (.inl ⟨a, b, rfl, ‹_›, ‹_›, rfl⟩)
      · obtain ⟨c, u, v, rfl, rfl, rfl, rfl⟩ := hv
        exact .inr (.inr ⟨a, b, c, rfl, ‹_›, ‹_›, rfl⟩)
  · rintro (⟨a, rfl, ha, rfl⟩ | ⟨a, b, rfl, ha, hb, rfl⟩ | ⟨a, b, c, rfl, ha, hb, rfl⟩)
    · exact ⟨a, [a], [], rfl, rfl, by rw [if_pos ha]; exact ⟨rfl, rfl⟩⟩
    · refine ⟨a, [a], [b], rfl, rfl, ?_⟩
      rw [if_neg ha]
      exact ⟨b, [b], [], rfl, rfl, by rw [if_pos hb]; exact ⟨rfl, rfl⟩⟩
    · refine ⟨a, [a], [b, c], rfl, rfl, ?_⟩
      rw [if_neg ha]
      refine ⟨b, [b], [c], rfl, rfl, ?_⟩
      rw [if_neg hb]
      exact ⟨c, [c], [], rfl, rfl, rfl, rfl⟩

/-! ## Instructions -/

/-- Bytes behind their length. -/
def dataAt : Grammar UInt8 (Ptr (List UInt8)) := compactLength.seq bytesAt

theorem accepts_parseData : Accepts parseData dataAt :=
  accepts_parseLength.seq accepts_bytes

/-- The index of the program, those of the accounts, the data. -/
def instructionAt : Grammar UInt8 Instruction :=
  (integerBytes 1 UInt8.toNat).seq fun programIdIndex => dataAt.seq fun accounts =>
    dataAt.seq fun data => .pure ⟨programIdIndex, accounts, data⟩

theorem accepts_parseInstruction : Accepts parseInstruction instructionAt :=
  accepts_parseU8.seq fun _ => accepts_parseData.seq fun _ => accepts_parseData.seq fun _ => .pure _

/-- Instructions one after the other. -/
def instructionsAt : Grammar UInt8 (List Instruction)
  | _, [], w => w = []
  | n, instruction :: instructions, w => ∃ u v, w = u ++ v ∧ instructionAt n instruction u ∧
      instructionsAt (n + u.length) instructions v

end AgencLedger
