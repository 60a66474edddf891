import AgencLedger.Library.Digits
import Mathlib.Data.Nat.Digits.Lemmas
import AgencLedger.Sol.Memory

/-!
# Sol/Base58 — `encode_base58` and the canonical base58 numeral

`encode_base58` divides the input by 58 again and again, one pass over `tmp` for each digit, and
writes the digits backwards into a 64-byte buffer through a byte-sized index `j`.  The model keeps
`buffer[j ..]` as a list, so that `--j` is a cons; a write at an index outside the buffer stops
with `outOfBounds`.

The main result is `encodeBase58_eq`: for inputs of at most 32 bytes the passes stay inside the
buffers and produce the **canonical numeral** — a `1` for each leading zero byte, then
the value in base 58 without leading zero digits.
-/

namespace AgencLedger

open Positional

/-! ## The code -/

/-- `BASE58_ALPHABET`. -/
def base58Alphabet : List Char :=
  "123456789ABCDEFGHJKLMNPQRSTUVWXYZabcdefghijkmnopqrstuvwxyz".toList

/-- `BASE58_ALPHABET[i]`; the remainders that index it are below 58. -/
def base58Char (i : ℕ) : Char := base58Alphabet.getD i '1'

/-- The inner loop of `encode_base58`: `tmp[start_at ..]` divided by 58 in place, with the
remainder. -/
def base58Pass : ℕ → List ℕ → List ℕ × ℕ
  | remainder, [] => ([], remainder)
  | remainder, digit256 :: tmp =>
      let tmpDiv := (remainder * 256 + digit256) % 65536
      let rest := base58Pass (tmpDiv % 58) tmp
      (tmpDiv / 58 % 256 :: rest.1, rest.2)

/-- `if (tmp[start_at] == 0) ++start_at`. -/
def base58Advance : List ℕ → List ℕ
  | 0 :: tmp => tmp
  | tmp => tmp

/-- The outer loop: `tmp` is `tmp[start_at ..]` and `buffer` is `buffer[j ..]`.  At `j = 0` the
byte-sized index wraps to 255. -/
def base58Digits : ℕ → List ℕ → List Char → Result (List Char)
  | _, [], buffer => .ok buffer
  | 0, _ :: _, _ => .error .outOfBounds
  | j + 1, t :: tmp, buffer =>
      if 64 ≤ j then .error .outOfBounds
      else
        let pass := base58Pass 0 (t :: tmp)
        base58Digits j (base58Advance pass.1) (base58Char pass.2 :: buffer)

/-- `while (zero_count-- > 0) buffer[--j] = BASE58_ALPHABET[0]`. -/
def base58Zeros : ℕ → ℕ → List Char → Result (List Char)
  | 0, _, buffer => .ok buffer
  | _ + 1, 0, _ => .error .outOfBounds
  | zeroCount + 1, j + 1, buffer =>
      if 64 ≤ j then .error .outOfBounds else base58Zeros zeroCount j ('1' :: buffer)

/-- `encode_base58`: the characters written before the terminating `NUL`. -/
def encodeBase58 (input : List UInt8) (maxOutLen : ℕ) : Result (List Char) := do
  bailIf (input.length > 64)
  let bytes := input.map UInt8.toNat
  let tmp := bytes.dropWhile (· = 0)
  let zeroCount := bytes.length - tmp.length
  let digits ← base58Digits (2 * bytes.length) tmp []
  let digits := digits.dropWhile (· = '1')
  let text ← base58Zeros zeroCount (2 * bytes.length - digits.length) digits
  bailIf (maxOutLen < text.length + 1)
  return text

/-! ## The canonical numeral -/

/-- **The canonical base58 numeral** of a byte string. -/
def base58Numeral (input : List UInt8) : List Char :=
  let bytes := input.map UInt8.toNat
  List.replicate (bytes.length - (bytes.dropWhile (· = 0)).length) '1' ++
    ((Nat.digits 58 (value 256 bytes)).reverse.map base58Char)

/-! ## One pass -/

/-- The casts of the inner loop lose nothing: a pass is a long division by 58. -/
theorem base58Pass_eq {r : ℕ} (hr : r < 58) {tmp : List ℕ} (htmp : ∀ a ∈ tmp, a < 256) :
    base58Pass r tmp = longDiv 256 58 r tmp := by
  induction tmp generalizing r with
  | nil => rfl
  | cons a tmp ih =>
      have ha : a < 256 := htmp a List.mem_cons_self
      have hdiv : (r * 256 + a) % 65536 = r * 256 + a := Nat.mod_eq_of_lt (by omega)
      have hq : (r * 256 + a) / 58 % 256 = (r * 256 + a) / 58 := Nat.mod_eq_of_lt (by omega)
      have hrest := ih (r := (r * 256 + a) % 58) (Nat.mod_lt _ (by omega)) fun b hb =>
        htmp b (List.mem_cons_of_mem a hb)
      simp only [base58Pass, longDiv, hdiv, hq, hrest]

theorem base58Advance_mem {tmp : List ℕ} : ∀ a ∈ base58Advance tmp, a ∈ tmp := by
  rcases tmp with _ | ⟨_ | t, tmp⟩
  · simp [base58Advance]
  · exact fun a ha => List.mem_cons_of_mem 0 ha
  · exact fun a ha => ha

theorem value_base58Advance (tmp : List ℕ) : value 256 (base58Advance tmp) = value 256 tmp := by
  rcases tmp with _ | ⟨_ | t, tmp⟩ <;> simp [base58Advance]

/-- A small value leaves its first place empty. -/
theorem length_base58Advance {t : ℕ} {tmp : List ℕ} (h : value 256 (t :: tmp) < 256 ^ tmp.length) :
    base58Advance (t :: tmp) = tmp := by
  rcases t with _ | t
  · rfl
  · rw [value_cons] at h
    have : 256 ^ tmp.length ≤ (t + 1) * 256 ^ tmp.length := Nat.le_mul_of_pos_left _ (by omega)
    omega

theorem length_base58Advance_le (tmp : List ℕ) : (base58Advance tmp).length ≤ tmp.length := by
  rcases tmp with _ | ⟨_ | t, tmp⟩ <;> simp [base58Advance]

/-! ## All passes -/

/-- How many passes `m` bytes of value `v` can take: two for each byte, one less when the value is
below `58 · 256^(m-1)`. -/
def PassesFit (j m v : ℕ) : Prop :=
  2 * m ≤ j ∨ 2 * m ≤ j + 1 ∧ 0 < m ∧ v < 58 * 256 ^ (m - 1)

/-- One pass uses up one place of the buffer and keeps the rest sufficient. -/
theorem PassesFit.step {j t : ℕ} {tmp : List ℕ}
    (hfit : PassesFit (j + 1) (tmp.length + 1) (value 256 (t :: tmp)))
    (htmp : ∀ a ∈ t :: tmp, a < 256) :
    PassesFit j (base58Advance (longDiv 256 58 0 (t :: tmp)).1).length
      (value 256 (longDiv 256 58 0 (t :: tmp)).1) := by
  obtain ⟨hv, -⟩ := longDiv_zero (B := 256) (d := 58) (by omega) (t :: tmp)
  obtain ⟨q, quot, hq⟩ : ∃ q quot, (longDiv 256 58 0 (t :: tmp)).1 = q :: quot := ⟨_, _, rfl⟩
  have hlen : quot.length = tmp.length := by
    have := length_longDiv (B := 256) (d := 58) 0 (t :: tmp)
    rw [hq] at this
    simpa using this
  have hlt : value 256 (t :: tmp) < 256 ^ (tmp.length + 1) := value_lt (by omega) htmp
  rw [hq] at hv ⊢
  by_cases hsmall : value 256 (q :: quot) < 256 ^ quot.length
  · rw [length_base58Advance hsmall]
    left
    rcases hfit with h | ⟨h, -, -⟩ <;> omega
  · have hbig : 58 * 256 ^ tmp.length ≤ value 256 (t :: tmp) := by
      rw [hv, Nat.not_lt, Nat.le_div_iff_mul_le (by omega), hlen] at hsmall
      linarith
    have hle := length_base58Advance_le (q :: quot)
    rw [List.length_cons, hlen] at hle
    have hfit' : 2 * (tmp.length + 1) ≤ j + 1 := by
      rcases hfit with h | ⟨-, -, h⟩
      · exact h
      · rw [Nat.add_sub_cancel] at h
        omega
    have hvlt : value 256 (q :: quot) < 58 * 256 ^ tmp.length := by
      rw [hv]
      refine Nat.div_lt_of_lt_mul (hlt.trans_le ?_)
      rw [pow_succ, Nat.mul_comm, ← Nat.mul_assoc]
      exact Nat.mul_le_mul_right _ (by omega)
    rcases Nat.lt_or_ge (base58Advance (q :: quot)).length (tmp.length + 1) with hshort | hlong
    · left
      omega
    · right
      refine ⟨by omega, by omega, ?_⟩
      rwa [show (base58Advance (q :: quot)).length - 1 = tmp.length by omega]

/-- **The outer loop stays inside the buffer and writes the base58 digits of the value.** -/
theorem base58Digits_eq {j : ℕ} {tmp : List ℕ} (htmp : ∀ a ∈ tmp, a < 256) (hj : j ≤ 64)
    (hfit : PassesFit j tmp.length (value 256 tmp)) (buffer : List Char) :
    ∃ digits : List ℕ, base58Digits j tmp buffer = .ok (digits.map base58Char ++ buffer) ∧
      (∀ a ∈ digits, a < 58) ∧ value 58 digits = value 256 tmp ∧ digits.length ≤ j := by
  induction j generalizing tmp buffer with
  | zero =>
      rcases tmp with _ | ⟨t, tmp⟩
      · exact ⟨[], rfl, by simp, by simp, by simp⟩
      · rcases hfit with h | ⟨h, -, -⟩ <;> simp at h
        omega
  | succ j ih =>
      rcases tmp with _ | ⟨t, tmp⟩
      · exact ⟨[], rfl, by simp, by simp, by simp⟩
      · have hpass := base58Pass_eq (r := 0) (by omega) htmp
        obtain ⟨hv, hrem⟩ := longDiv_zero (B := 256) (d := 58) (by omega) (t :: tmp)
        have hmem : ∀ a ∈ base58Advance (longDiv 256 58 0 (t :: tmp)).1, a < 256 := fun a ha =>
          longDiv_digit_lt (by omega) (by omega) htmp a (base58Advance_mem a ha)
        have hfit' := PassesFit.step hfit htmp
        rw [← value_base58Advance] at hfit'
        obtain ⟨digits, hok, hlt, hval, hlen⟩ := ih hmem (by omega) hfit'
          (base58Char (longDiv 256 58 0 (t :: tmp)).2 :: buffer)
        refine ⟨digits ++ [(longDiv 256 58 0 (t :: tmp)).2], ?_, ?_, ?_, ?_⟩
        · simp only [base58Digits, if_neg (show ¬64 ≤ j by omega), hpass, hok, List.map_append,
            List.map_cons, List.map_nil, List.append_assoc, List.cons_append, List.nil_append]
        · intro a ha
          rcases List.mem_append.mp ha with h | h
          · exact hlt a h
          · rw [List.mem_singleton.mp h, hrem]
            exact Nat.mod_lt _ (by omega)
        · rw [value_concat, hval, value_base58Advance, hv, hrem, Nat.mul_comm]
          exact Nat.div_add_mod _ 58
        · simpa using hlen

theorem base58Zeros_eq {zeroCount j : ℕ} (hj : j ≤ 64) (hz : zeroCount ≤ j) (buffer : List Char) :
    base58Zeros zeroCount j buffer = .ok (List.replicate zeroCount '1' ++ buffer) := by
  induction zeroCount generalizing j buffer with
  | zero => rfl
  | succ z ih =>
      obtain ⟨j, rfl⟩ : ∃ k, j = k + 1 := ⟨j - 1, by omega⟩
      rw [base58Zeros, if_neg (by omega), ih (by omega) (by omega), List.replicate_succ',
        List.append_assoc, List.singleton_append]

/-! ## The whole encoding -/

theorem base58Char_eq_one {a : ℕ} (ha : a < 58) : base58Char a = '1' ↔ a = 0 := by
  revert a
  decide

theorem dropWhile_base58Char {digits : List ℕ} (hlt : ∀ a ∈ digits, a < 58) :
    (digits.map base58Char).dropWhile (· = '1')
      = (digits.dropWhile (· = 0)).map base58Char := by
  induction digits with
  | nil => rfl
  | cons a l ih =>
      have ha := base58Char_eq_one (hlt a List.mem_cons_self)
      by_cases h0 : a = 0
      · rw [List.map_cons, List.dropWhile_cons_of_pos (by simpa using ha.mpr h0),
          List.dropWhile_cons_of_pos (by simpa using h0)]
        exact ih fun b hb => hlt b (List.mem_cons_of_mem a hb)
      · rw [List.map_cons, List.dropWhile_cons_of_neg (by simpa using mt ha.mp h0),
          List.dropWhile_cons_of_neg (by simpa using h0), List.map_cons]

/-- The bytes of an input, as digits. -/
theorem bytes_lt (input : List UInt8) : ∀ a ∈ input.map UInt8.toNat, a < 256 := by
  intro a ha
  obtain ⟨b, -, rfl⟩ := List.mem_map.mp ha
  exact b.toNat_lt

/-- The value of `n` bytes, `z` of them leading zeros, has at most `k` base58 digits. -/
theorem length_digits_le {bytes : List ℕ} (hb : ∀ a ∈ bytes, a < 256) {k : ℕ}
    (hk : 256 ^ (bytes.dropWhile (· = 0)).length ≤ 58 ^ k) :
    (Nat.digits 58 (value 256 bytes)).length ≤ k := by
  rw [Nat.digits_length_le_iff (by omega), ← value_dropWhile_zero]
  exact (value_lt (by omega) fun a ha => hb a ((List.dropWhile_suffix _).subset ha)).trans_le hk

/-- **What the outer loop writes for an input** of up to 32 bytes: behind `1`s, the digits of its
value, with room in front of them for its leading zeros. -/
theorem exists_base58Digits {input : List UInt8} (hlen : input.length ≤ 32) :
    ∃ digits, base58Digits (2 * input.length) ((input.map UInt8.toNat).dropWhile (· = 0)) []
        = .ok digits ∧ digits.length ≤ 2 * input.length ∧
      digits.dropWhile (· = '1')
        = (Nat.digits 58 (value 256 (input.map UInt8.toNat))).reverse.map base58Char ∧
      input.length - ((input.map UInt8.toNat).dropWhile (· = 0)).length
          + (digits.dropWhile (· = '1')).length ≤ 2 * input.length := by
  set bytes := input.map UInt8.toNat with hbytes
  have hb : ∀ a ∈ bytes, a < 256 := bytes_lt input
  have hbl : bytes.length = input.length := List.length_map _
  have htl : (bytes.dropWhile (· = 0)).length ≤ bytes.length := (List.dropWhile_suffix _).length_le
  have htmp : ∀ a ∈ bytes.dropWhile (· = 0), a < 256 := fun a ha =>
    hb a ((List.dropWhile_suffix _).subset ha)
  obtain ⟨digits, hok, hlt, hval, hj⟩ := base58Digits_eq htmp (j := 2 * input.length) (by omega)
    (Or.inl (by omega)) []
  have hnum : digits.dropWhile (· = 0) = (Nat.digits 58 (value 256 bytes)).reverse := by
    rw [dropWhile_zero_eq_digits (by omega) hlt, hval, value_dropWhile_zero]
  have hdl : (Nat.digits 58 (value 256 bytes)).length ≤ 2 * (bytes.dropWhile (· = 0)).length :=
    length_digits_le hb (by rw [pow_mul]; exact Nat.pow_le_pow_left (by omega) _)
  rw [List.append_nil] at hok
  refine ⟨digits.map base58Char, hok, by rwa [List.length_map], ?_, ?_⟩
  · rw [dropWhile_base58Char hlt, hnum]
  · rw [dropWhile_base58Char hlt, hnum, List.length_map, List.length_reverse]
    omega

/-- **`encode_base58` is canonical base58**: up to 32 bytes it succeeds exactly when the numeral
and its terminator fit. -/
theorem encodeBase58_eq {input : List UInt8} (hlen : input.length ≤ 32) (maxOutLen : ℕ) :
    encodeBase58 input maxOutLen
      = if (base58Numeral input).length < maxOutLen then .ok (base58Numeral input)
        else .error .bail := by
  obtain ⟨digits, hok, -, hdigits, hroom⟩ := exists_base58Digits hlen
  have hzeros : base58Zeros (input.length - ((input.map UInt8.toNat).dropWhile (· = 0)).length)
      (2 * input.length - (digits.dropWhile (· = '1')).length) (digits.dropWhile (· = '1'))
      = .ok _ := base58Zeros_eq (by omega) (by omega) _
  have htext : base58Numeral input
      = List.replicate (input.length - ((input.map UInt8.toNat).dropWhile (· = 0)).length) '1'
        ++ digits.dropWhile (· = '1') := by
    rw [hdigits, base58Numeral, List.length_map]
  unfold encodeBase58
  simp only [bailIf, decide_eq_true_eq, if_neg (show ¬input.length > 64 by omega),
    List.length_map, hok, hzeros, ← htext, bind, Except.bind, pure, Except.pure]
  by_cases hfits : (base58Numeral input).length < maxOutLen
  · rw [if_neg (by omega), if_pos hfits]
  · rw [if_pos (by omega), if_neg hfits]

/-- Up to 32 bytes have at most 44 base58 characters. -/
theorem length_base58Numeral_le_of_le {input : List UInt8} (hlen : input.length ≤ 32) :
    (base58Numeral input).length ≤ 44 := by
  set bytes := input.map UInt8.toNat with hbytes
  have hbl : bytes.length ≤ 32 := by rwa [hbytes, List.length_map]
  have htl : (bytes.dropWhile (· = 0)).length ≤ bytes.length := (List.dropWhile_suffix _).length_le
  set m := (bytes.dropWhile (· = 0)).length with hm
  have hpow : 256 ^ m ≤ 58 ^ (44 - (32 - m)) := by
    have hm32 : m ≤ 32 := by omega
    clear_value m
    interval_cases m <;> norm_num
  have hdl := length_digits_le (bytes_lt input) (k := 44 - (32 - m)) hpow
  simp only [base58Numeral, ← hbytes, ← hm, List.length_append, List.length_replicate,
    List.length_map, List.length_reverse] at hdl ⊢
  omega

/-- A 32-byte key or hash has at most 44 base58 characters. -/
theorem length_base58Numeral_le {input : List UInt8} (hlen : input.length = 32) :
    (base58Numeral input).length ≤ 44 :=
  length_base58Numeral_le_of_le hlen.le

/-- **A key or a hash always fits the text buffer.** -/
theorem encodeBase58_block (b : Block 32) {maxOutLen : ℕ} (h : 44 < maxOutLen) :
    encodeBase58 b.data maxOutLen = .ok (base58Numeral b.data) := by
  have hlen := length_base58Numeral_le b.size
  rw [encodeBase58_eq (Nat.le_of_eq b.size), if_pos (by omega)]

/-! ## Different inputs -/

/-- The numeral's places: a zero for each leading zero byte, then the digits of the value. -/
def base58Places (input : List UInt8) : List ℕ :=
  let bytes := input.map UInt8.toNat
  List.replicate (bytes.length - (bytes.dropWhile (· = 0)).length) 0
    ++ (Nat.digits 58 (value 256 bytes)).reverse

theorem base58Numeral_eq_map (input : List UInt8) :
    base58Numeral input = (base58Places input).map base58Char := by
  rw [base58Places, List.map_append, List.map_replicate]
  rfl

theorem base58Places_lt (input : List UInt8) : ∀ a ∈ base58Places input, a < 58 := by
  intro a ha
  rcases List.mem_append.mp ha with h | h
  · rw [(List.mem_replicate.mp h).2]
    omega
  · exact Nat.digits_lt_base (by omega) (List.mem_reverse.mp h)

theorem value_base58Places (input : List UInt8) :
    value 58 (base58Places input) = value 256 (input.map UInt8.toNat) := by
  rw [base58Places, value_replicate_zero_append, value, List.reverse_reverse, Nat.ofDigits_digits]

/-- The characters of a numeral give its places back: the alphabet has no letter twice. -/
theorem map_idxOf_base58Numeral (input : List UInt8) :
    (base58Numeral input).map base58Alphabet.idxOf = base58Places input := by
  have hidx : ∀ a < 58, base58Alphabet.idxOf (base58Char a) = a := by decide
  rw [base58Numeral_eq_map, List.map_map]
  exact (List.map_congr_left fun a ha => hidx a (base58Places_lt input a ha)).trans (List.map_id _)

/-- **Different inputs of one length have different numerals.** -/
theorem eq_of_base58Numeral_eq {input input' : List UInt8} (hlength : input.length = input'.length)
    (h : base58Numeral input = base58Numeral input') : input = input' := by
  have hplaces : base58Places input = base58Places input' := by
    rw [← map_idxOf_base58Numeral, h, map_idxOf_base58Numeral]
  have hvalue : value 256 (input.map UInt8.toNat) = value 256 (input'.map UInt8.toNat) := by
    rw [← value_base58Places, hplaces, value_base58Places]
  have hbytes := eq_of_value_eq (by omega)
    (by rw [List.length_map, List.length_map, hlength]) (bytes_lt input) (bytes_lt input') hvalue
  exact List.map_injective_iff.mpr (fun a b => UInt8.toNat_inj.mp) hbytes

/-- The outer loop comes to its end inside the buffer. -/
theorem base58Digits_ends {input : List UInt8} (hlen : input.length ≤ 32) :
    ∃ digits, base58Digits (2 * input.length) ((input.map UInt8.toNat).dropWhile (· = 0)) []
      = .ok digits := by
  have hlt : ∀ a ∈ (input.map UInt8.toNat).dropWhile (· = 0), a < 256 := fun a ha =>
    bytes_lt input a ((List.dropWhile_suffix _).subset ha)
  have hle : ((input.map UInt8.toNat).dropWhile (· = 0)).length ≤ input.length :=
    (List.dropWhile_suffix _).length_le.trans_eq (List.length_map _)
  obtain ⟨digits, hok, -⟩ := base58Digits_eq hlt (j := 2 * input.length) (by omega)
    (.inl (by omega)) []
  exact ⟨_, hok⟩

/-- **`encode_base58` on up to 32 bytes**: it stays inside its buffers and comes to an end, it
returns the canonical numeral exactly if there is room for it, at most 45 characters with the
terminator, and it takes different inputs of one length to different texts. -/
theorem encodeBase58_canonical (input : List UInt8) (hlen : input.length ≤ 32) (maxOutLen : ℕ) :
    (∃ digits, base58Digits (2 * input.length) ((input.map UInt8.toNat).dropWhile (· = 0)) []
        = .ok digits) ∧
      encodeBase58 input maxOutLen ≠ .error .outOfBounds ∧
      ((∃ text, encodeBase58 input maxOutLen = .ok text) ↔
        (base58Numeral input).length + 1 ≤ maxOutLen) ∧
      (∀ text, encodeBase58 input maxOutLen = .ok text → text = base58Numeral input) ∧
      (base58Numeral input).length ≤ 44 ∧
      ∀ input' : List UInt8, input'.length = input.length → input' ≠ input →
        ∀ maxOutLen' text text', encodeBase58 input maxOutLen = .ok text →
          encodeBase58 input' maxOutLen' = .ok text' → text' ≠ text := by
  have htext : ∀ {input : List UInt8}, input.length ≤ 32 → ∀ {maxOutLen text},
      encodeBase58 input maxOutLen = .ok text → text = base58Numeral input :=
    fun {input} hlen {maxOutLen text} h => by
      rw [encodeBase58_eq hlen] at h
      split at h
      · exact (Except.ok.inj h).symm
      · cases h
  refine ⟨base58Digits_ends hlen, ?_, ?_, fun text =>
    htext hlen, length_base58Numeral_le_of_le hlen,
    ?_⟩
  · rw [encodeBase58_eq hlen]
    split
    · intro h
      cases h
    · intro h
      cases h
  · rw [encodeBase58_eq hlen]
    split
    · rename_i hfits
      exact iff_of_true ⟨_, rfl⟩ hfits
    · rename_i hfull
      exact iff_of_false (fun ⟨text, h⟩ => by cases h) fun h => hfull h
  · intro input' hlength hne maxOutLen' text text' hok hok' heq
    rw [htext hlen hok, htext (hlength.trans_le hlen) hok'] at heq
    exact hne (eq_of_base58Numeral_eq hlength heq)

/-- The theorem on two bytes. -/
theorem encodeBase58_canonical_pair :
    (∃ digits, base58Digits (2 * 2)
        ((([0, 58] : List UInt8).map UInt8.toNat).dropWhile (· = 0)) [] = .ok digits) ∧
      encodeBase58 [0, 58] 45 ≠ .error .outOfBounds ∧
      ((∃ text, encodeBase58 [0, 58] 45 = .ok text) ↔ (base58Numeral [0, 58]).length + 1 ≤ 45) ∧
      (∀ text, encodeBase58 [0, 58] 45 = .ok text → text = base58Numeral [0, 58]) ∧
      (base58Numeral [0, 58]).length ≤ 44 ∧
      ∀ input' : List UInt8, input'.length = 2 → input' ≠ [0, 58] →
        ∀ maxOutLen' text text', encodeBase58 [0, 58] 45 = .ok text →
          encodeBase58 input' maxOutLen' = .ok text' → text' ≠ text :=
  encodeBase58_canonical [0, 58] (by decide) 45

end AgencLedger
