import AgencLedger.App.OffchainMessage
import AgencLedger.Library.Utf8

/-!
# App/StringUtils — what `is_data_utf8` accepts, and what it reads

`is_data_utf8` accepts the UTF-8 encodings of texts without the two characters U+FFFE and U+FFFF,
and nothing else.  The look-ahead of its tests is guarded by the length, so no test reads behind the
data.
-/

namespace AgencLedger

/-! ## Masks -/

/-- A mask of the high bits of a byte clears the others. -/
theorem and_highBits {b s : ℕ} (hb : b < 256) :
    b &&& (2 ^ (8 - s) - 1) * 2 ^ s = b / 2 ^ s * 2 ^ s := by
  refine Nat.eq_of_testBit_eq fun i => ?_
  rw [Nat.testBit_and, Nat.testBit_mul_two_pow, Nat.testBit_mul_two_pow, Nat.testBit_div_two_pow,
    Nat.testBit_two_pow_sub_one]
  by_cases hs : s ≤ i
  · rw [Nat.sub_add_cancel hs]
    by_cases hi : i < 8
    · simp [hs, show i - s < 8 - s by omega]
    · have hlarge : b < 2 ^ i :=
        hb.trans_le (show 2 ^ 8 ≤ 2 ^ i from Nat.pow_le_pow_right Nat.two_pos (by omega))
      simp [Nat.testBit_lt_two_pow hlarge]
  · simp [hs]

/-- A masked comparison of the high bits asks for a range. -/
theorem and_eq_iff {s : ℕ} {mask value : UInt8} (hmask : mask.toNat = (2 ^ (8 - s) - 1) * 2 ^ s)
    (hvalue : 2 ^ s ∣ value.toNat) (b : UInt8) :
    b &&& mask = value ↔ value.toNat ≤ b.toNat ∧ b.toNat < value.toNat + 2 ^ s := by
  obtain ⟨v, hv⟩ := hvalue
  have hpos : 0 < 2 ^ s := Nat.two_pow_pos s
  rw [← UInt8.toNat_inj, UInt8.toNat_and, hmask, and_highBits b.toNat_lt, hv, Nat.mul_comm (2 ^ s),
    Nat.mul_left_inj hpos.ne', Nat.div_eq_iff hpos]
  omega

theorem isContinuation_iff (b : UInt8) :
    isContinuation b = true ↔ 0x80 ≤ b.toNat ∧ b.toNat < 0xc0 := by
  rw [isContinuation, decide_eq_true_iff]
  exact @and_eq_iff 6 0xc0 0x80 rfl ⟨2, rfl⟩ b

theorem lead_two_iff (b : UInt8) : b &&& 0xe0 = 0xc0 ↔ 0xc0 ≤ b.toNat ∧ b.toNat < 0xe0 :=
  @and_eq_iff 5 0xe0 0xc0 rfl ⟨6, rfl⟩ b

theorem lead_three_iff (b : UInt8) : b &&& 0xf0 = 0xe0 ↔ 0xe0 ≤ b.toNat ∧ b.toNat < 0xf0 :=
  @and_eq_iff 4 0xf0 0xe0 rfl ⟨14, rfl⟩ b

theorem lead_four_iff (b : UInt8) : b &&& 0xf8 = 0xf0 ↔ 0xf0 ≤ b.toNat ∧ b.toNat < 0xf8 :=
  @and_eq_iff 3 0xf8 0xf0 rfl ⟨30, rfl⟩ b

theorem overlong_two_iff (b : UInt8) : b &&& 0xfe = 0xc0 ↔ 0xc0 ≤ b.toNat ∧ b.toNat < 0xc2 :=
  @and_eq_iff 1 0xfe 0xc0 rfl ⟨96, rfl⟩ b

theorem overlong_three_iff (b : UInt8) : b &&& 0xe0 = 0x80 ↔ 0x80 ≤ b.toNat ∧ b.toNat < 0xa0 :=
  @and_eq_iff 5 0xe0 0x80 rfl ⟨4, rfl⟩ b

theorem overlong_four_iff (b : UInt8) : b &&& 0xf0 = 0x80 ↔ 0x80 ≤ b.toNat ∧ b.toNat < 0x90 :=
  @and_eq_iff 4 0xf0 0x80 rfl ⟨8, rfl⟩ b

theorem surrogate_iff (b : UInt8) : b &&& 0xe0 = 0xa0 ↔ 0xa0 ≤ b.toNat ∧ b.toNat < 0xc0 :=
  @and_eq_iff 5 0xe0 0xa0 rfl ⟨5, rfl⟩ b

theorem noncharacter_iff (b : UInt8) : b &&& 0xfe = 0xbe ↔ 0xbe ≤ b.toNat ∧ b.toNat < 0xc0 :=
  @and_eq_iff 1 0xfe 0xbe rfl ⟨95, rfl⟩ b

/-! ## One pass of the loop -/

section

variable {fuel : ℕ} {a : UInt8} {data : List UInt8}

theorem isDataUtf8Loop_one (ha : a.toNat < 0x80) :
    isDataUtf8Loop (fuel + 1) (a :: data) = isDataUtf8Loop fuel data := by
  conv_lhs => unfold isDataUtf8Loop
  exact if_pos (UInt8.lt_iff_toNat_lt.mpr ha)

theorem not_lt_of_lead (ha : 0x80 ≤ a.toNat) : ¬a < 0x80 := fun h =>
  absurd (UInt8.lt_iff_toNat_lt.mp h) (Nat.not_lt.mpr ha)

/-- A byte that leads no character. -/
theorem isDataUtf8Loop_none (ha : 0x80 ≤ a.toNat) (hlead : a.toNat < 0xc0 ∨ 0xf8 ≤ a.toNat) :
    isDataUtf8Loop (fuel + 1) (a :: data) = false := by
  conv_lhs => unfold isDataUtf8Loop
  rw [if_neg (not_lt_of_lead ha), if_neg (by rw [lead_two_iff]; omega),
    if_neg (by rw [lead_three_iff]; omega), if_neg (by rw [lead_four_iff]; omega)]

theorem isDataUtf8Loop_two_iff (ha : 0xc0 ≤ a.toNat) (ha' : a.toNat < 0xe0) :
    isDataUtf8Loop (fuel + 1) (a :: data) = true ↔
      ∃ b rest, data = b :: rest ∧ (0x80 ≤ b.toNat ∧ b.toNat < 0xc0) ∧ 0xc2 ≤ a.toNat ∧
        isDataUtf8Loop fuel rest = true := by
  conv_lhs => unfold isDataUtf8Loop
  rw [if_neg (not_lt_of_lead (by omega)), if_pos ((lead_two_iff a).mpr ⟨ha, ha'⟩)]
  rcases data with _ | ⟨b, rest⟩
  · simp
  · have htest : (!isContinuation b || decide (a &&& 0xfe = 0xc0)) = true ↔
        ¬((0x80 ≤ b.toNat ∧ b.toNat < 0xc0) ∧ 0xc2 ≤ a.toNat) := by
      rw [Bool.or_eq_true, Bool.not_eq_true', ← Bool.not_eq_true, isContinuation_iff,
        decide_eq_true_iff, overlong_two_iff]
      omega
    simp only [htest, List.cons.injEq]
    split_ifs with h
    · constructor
      · intro hrest
        exact ⟨b, rest, ⟨rfl, rfl⟩, h.1, h.2, hrest⟩
      · rintro ⟨b', rest', ⟨rfl, rfl⟩, -, -, hrest⟩
        exact hrest
    · refine iff_of_false not_false ?_
      rintro ⟨b', rest', ⟨rfl, rfl⟩, hb, hle, -⟩
      exact h ⟨hb, hle⟩

theorem isDataUtf8Loop_three_iff (ha : 0xe0 ≤ a.toNat) (ha' : a.toNat < 0xf0) :
    isDataUtf8Loop (fuel + 1) (a :: data) = true ↔
      ∃ b c rest, data = b :: c :: rest ∧ ((0x80 ≤ b.toNat ∧ b.toNat < 0xc0) ∧
        (0x80 ≤ c.toNat ∧ c.toNat < 0xc0) ∧ (a.toNat = 0xe0 → 0xa0 ≤ b.toNat) ∧
        (a.toNat = 0xed → b.toNat < 0xa0) ∧
        (a.toNat = 0xef → b.toNat = 0xbf → c.toNat < 0xbe)) ∧
        isDataUtf8Loop fuel rest = true := by
  conv_lhs => unfold isDataUtf8Loop
  rw [if_neg (not_lt_of_lead (by omega)), if_neg (by rw [lead_two_iff]; omega),
    if_pos ((lead_three_iff a).mpr ⟨ha, ha'⟩)]
  rcases data with _ | ⟨b, _ | ⟨c, rest⟩⟩
  · simp
  · simp
  · have htest : (!isContinuation b || !isContinuation c
        || (decide (a = 0xe0) && decide (b &&& 0xe0 = 0x80))
        || (decide (a = 0xed) && decide (b &&& 0xe0 = 0xa0))
        || (decide (a = 0xef) && decide (b = 0xbf) && decide (c &&& 0xfe = 0xbe))) = true ↔
        ¬((0x80 ≤ b.toNat ∧ b.toNat < 0xc0) ∧ (0x80 ≤ c.toNat ∧ c.toNat < 0xc0) ∧
          (a.toNat = 0xe0 → 0xa0 ≤ b.toNat) ∧ (a.toNat = 0xed → b.toNat < 0xa0) ∧
          (a.toNat = 0xef → b.toNat = 0xbf → c.toNat < 0xbe)) := by
      simp only [Bool.or_eq_true, Bool.and_eq_true, Bool.not_eq_true', ← Bool.not_eq_true,
        isContinuation_iff, decide_eq_true_iff, overlong_three_iff, surrogate_iff,
        noncharacter_iff]
      simp only [← UInt8.toNat_inj, UInt8.reduceToNat]
      omega
    simp only [htest, List.cons.injEq]
    split_ifs with h
    · constructor
      · intro hrest
        exact ⟨b, c, rest, ⟨rfl, rfl, rfl⟩, h, hrest⟩
      · rintro ⟨b', c', rest', ⟨rfl, rfl, rfl⟩, -, hrest⟩
        exact hrest
    · refine iff_of_false not_false ?_
      rintro ⟨b', c', rest', ⟨rfl, rfl, rfl⟩, hbytes, -⟩
      exact h hbytes

theorem isDataUtf8Loop_four_iff (ha : 0xf0 ≤ a.toNat) (ha' : a.toNat < 0xf8) :
    isDataUtf8Loop (fuel + 1) (a :: data) = true ↔
      ∃ b c d rest, data = b :: c :: d :: rest ∧ ((0x80 ≤ b.toNat ∧ b.toNat < 0xc0) ∧
        (0x80 ≤ c.toNat ∧ c.toNat < 0xc0) ∧ (0x80 ≤ d.toNat ∧ d.toNat < 0xc0) ∧
        (a.toNat = 0xf0 → 0x90 ≤ b.toNat) ∧ (a.toNat = 0xf4 → b.toNat ≤ 0x8f) ∧
        a.toNat ≤ 0xf4) ∧ isDataUtf8Loop fuel rest = true := by
  conv_lhs => unfold isDataUtf8Loop
  rw [if_neg (not_lt_of_lead (by omega)), if_neg (by rw [lead_two_iff]; omega),
    if_neg (by rw [lead_three_iff]; omega), if_pos ((lead_four_iff a).mpr ⟨ha, ha'⟩)]
  rcases data with _ | ⟨b, _ | ⟨c, _ | ⟨d, rest⟩⟩⟩
  · simp
  · simp
  · simp
  · have htest : (!isContinuation b || !isContinuation c || !isContinuation d
        || (decide (a = 0xf0) && decide (b &&& 0xf0 = 0x80))
        || (decide (a = 0xf4) && decide (b > 0x8f)) || decide (a > 0xf4)) = true ↔
        ¬((0x80 ≤ b.toNat ∧ b.toNat < 0xc0) ∧ (0x80 ≤ c.toNat ∧ c.toNat < 0xc0) ∧
          (0x80 ≤ d.toNat ∧ d.toNat < 0xc0) ∧ (a.toNat = 0xf0 → 0x90 ≤ b.toNat) ∧
          (a.toNat = 0xf4 → b.toNat ≤ 0x8f) ∧ a.toNat ≤ 0xf4) := by
      simp only [Bool.or_eq_true, Bool.and_eq_true, Bool.not_eq_true', ← Bool.not_eq_true,
        isContinuation_iff, decide_eq_true_iff, overlong_four_iff]
      simp only [gt_iff_lt, UInt8.lt_iff_toNat_lt, ← UInt8.toNat_inj, UInt8.reduceToNat]
      omega
    simp only [htest, List.cons.injEq]
    split_ifs with h
    · constructor
      · intro hrest
        exact ⟨b, c, d, rest, ⟨rfl, rfl, rfl, rfl⟩, h, hrest⟩
      · rintro ⟨b', c', d', rest', ⟨rfl, rfl, rfl, rfl⟩, -, hrest⟩
        exact hrest
    · refine iff_of_false not_false ?_
      rintro ⟨b', c', d', rest', ⟨rfl, rfl, rfl, rfl⟩, hbytes, -⟩
      exact h hbytes

/-! ## One character -/

/-- The characters that may stand in accepted data: all but two. -/
def acceptedChar (c : Char) : Prop := c.toNat ≠ 0xFFFE ∧ c.toNat ≠ 0xFFFF

/-- An encoding of an accepted scalar value at the front of the data is one of a character. -/
theorem exists_accepted {v : ℕ} {bytes rest : List UInt8} (hv : Utf8Encodes v bytes)
    (hscalar : v < 0xd800 ∨ 0xdfff < v ∧ v < 0x110000) (hfffe : v ≠ 0xFFFE) (hffff : v ≠ 0xFFFF)
    (hrest : isDataUtf8Loop fuel rest = true) :
    ∃ c rest', acceptedChar c ∧ bytes ++ rest = String.utf8EncodeChar c ++ rest' ∧
      isDataUtf8Loop fuel rest' = true := by
  obtain ⟨c, rfl, rfl⟩ := hv.exists_char hscalar
  exact ⟨c, rest, ⟨hfffe, hffff⟩, rfl, hrest⟩

/-- **A pass that goes on** has found the encoding of an accepted character. -/
theorem exists_char_of_isDataUtf8Loop (h : isDataUtf8Loop (fuel + 1) (a :: data) = true) :
    ∃ c rest, acceptedChar c ∧ a :: data = String.utf8EncodeChar c ++ rest ∧
      isDataUtf8Loop fuel rest = true := by
  by_cases h₁ : a.toNat < 0x80
  · rw [isDataUtf8Loop_one h₁] at h
    exact exists_accepted (.one h₁ rfl) (by omega) (by omega) (by omega) h
  by_cases hnone : a.toNat < 0xc0 ∨ 0xf8 ≤ a.toNat
  · rw [isDataUtf8Loop_none (by omega) hnone] at h
    cases h
  by_cases h₂ : a.toNat < 0xe0
  · obtain ⟨b, rest, rfl, hb, hle, hrest⟩ := (isDataUtf8Loop_two_iff (by omega) h₂).mp h
    have hv : Utf8Encodes ((a.toNat - 0xc0) * 64 + (b.toNat - 0x80)) [a, b] :=
      .two (by omega) (by omega) (by omega) (by omega)
    exact exists_accepted hv (by omega) (by omega) (by omega) hrest
  by_cases h₃ : a.toNat < 0xf0
  · obtain ⟨b, c, rest, rfl, ⟨hb, hc, hoverlong, hsurrogate, hnonchar⟩, hrest⟩ :=
      (isDataUtf8Loop_three_iff (by omega) h₃).mp h
    have hv : Utf8Encodes ((a.toNat - 0xe0) * 4096 + (b.toNat - 0x80) * 64 + (c.toNat - 0x80))
        [a, b, c] :=
      .three (by omega) (by omega) (by omega) (by omega) (by omega)
    exact exists_accepted hv (by omega) (by omega) (by omega) hrest
  · obtain ⟨b, c, d, rest, rfl, ⟨hb, hc, hd, hoverlong, hlimit, hle⟩, hrest⟩ :=
      (isDataUtf8Loop_four_iff (by omega) (by omega)).mp h
    have hv : Utf8Encodes ((a.toNat - 0xf0) * 262144 + (b.toNat - 0x80) * 4096
        + (c.toNat - 0x80) * 64 + (d.toNat - 0x80)) [a, b, c, d] :=
      .four (by omega) (by omega) (by omega) (by omega) (by omega) (by omega)
    exact exists_accepted hv (by omega) (by omega) (by omega) hrest

/-- **The loop passes over the encoding of an accepted character.** -/
theorem isDataUtf8Loop_encode {c : Char} (hc : acceptedChar c) {rest : List UInt8}
    (hrest : isDataUtf8Loop fuel rest = true) :
    isDataUtf8Loop (fuel + 1) (String.utf8EncodeChar c ++ rest) = true := by
  obtain ⟨hfffe, hffff⟩ := hc
  have hscalar : c.toNat < 0xd800 ∨ 0xdfff < c.toNat ∧ c.toNat < 0x110000 := c.valid
  have hencodes := utf8Encodes_utf8EncodeChar c
  generalize String.utf8EncodeChar c = bytes at hencodes ⊢
  rcases hencodes with ⟨hv, ha⟩ | ⟨hle, hlt, ha, hb⟩ | ⟨hle, hlt, ha, hb, hc⟩ |
    ⟨hle, hlt, ha, hb, hc, hd⟩
  · rw [List.singleton_append, isDataUtf8Loop_one (by omega), hrest]
  · refine (isDataUtf8Loop_two_iff (by omega) (by omega)).mpr ⟨_, rest, rfl, ?_, ?_, hrest⟩
    · omega
    · omega
  · refine (isDataUtf8Loop_three_iff (by omega) (by omega)).mpr ⟨_, _, rest, rfl, ?_, hrest⟩
    omega
  · refine (isDataUtf8Loop_four_iff (by omega) (by omega)).mpr ⟨_, _, _, rest, rfl, ?_, hrest⟩
    omega

end

/-! ## The loop -/

/-- **`is_data_utf8` accepts the encodings of texts of accepted characters.** -/
theorem isDataUtf8Loop_iff {fuel : ℕ} {data : List UInt8} (hfuel : data.length ≤ fuel) :
    isDataUtf8Loop fuel data = true ↔
      ∃ cs : List Char, (∀ c ∈ cs, acceptedChar c) ∧ data = cs.flatMap String.utf8EncodeChar := by
  induction fuel generalizing data with
  | zero =>
      obtain rfl : data = [] := List.length_eq_zero_iff.mp (by omega)
      exact iff_of_true rfl ⟨[], by simp, rfl⟩
  | succ fuel ih =>
      rcases data with _ | ⟨a, data⟩
      · exact iff_of_true rfl ⟨[], by simp, rfl⟩
      constructor
      · intro h
        obtain ⟨c, rest, hc, hsplit, hrest⟩ := exists_char_of_isDataUtf8Loop h
        have hlength := congrArg List.length hsplit
        rw [List.length_cons, List.length_append] at hlength
        have hpos := List.length_pos_iff.mpr (utf8Encodes_utf8EncodeChar c).ne_nil
        rw [List.length_cons] at hfuel
        obtain ⟨cs, hcs, rfl⟩ := (ih (by omega)).mp hrest
        refine ⟨c :: cs, ?_, hsplit⟩
        exact List.forall_mem_cons.mpr ⟨hc, hcs⟩
      · rintro ⟨cs, hcs, hdata⟩
        rcases cs with _ | ⟨c, cs⟩
        · cases hdata
        · obtain ⟨hc, hcs⟩ := List.forall_mem_cons.mp hcs
          rw [List.flatMap_cons] at hdata
          have hlength := congrArg List.length hdata
          rw [List.length_append] at hlength
          have hpos := List.length_pos_iff.mpr (utf8Encodes_utf8EncodeChar c).ne_nil
          rw [hdata]
          exact isDataUtf8Loop_encode hc ((ih (by omega)).mpr ⟨cs, hcs, rfl⟩)

/-! ## The reads

`isDataUtf8` looks at the list of the bytes that are left.  Here is the same function by the indices
it reads: `&&` and `||` look at their right operand only where the left one does not decide, and a
read behind the data faults. -/

section

variable (data : List UInt8)

/-- `(data[i] & mask) == value`. -/
def masksTo (i : ℕ) (mask value : UInt8) : Result Bool := do
  return (← readAt data i) &&& mask = value

/-- `data[i] == value`. -/
def holds (i : ℕ) (value : UInt8) : Result Bool := do
  return (← readAt data i) = value

/-- `(data[i] & 0xc0) != 0x80`. -/
def noContinuation (i : ℕ) : Result Bool := do
  return !isContinuation (← readAt data i)

/-- The condition under which the branch of two bytes refuses. -/
def refusesTwo (i : ℕ) : Result Bool :=
  pure (i + 1 ≥ data.length) <||> noContinuation data (i + 1) <||>
    masksTo data i 0xfe 0xc0 -- overlong

/-- The condition under which the branch of three bytes refuses. -/
def refusesThree (i : ℕ) : Result Bool :=
  pure (i + 2 ≥ data.length) <||> noContinuation data (i + 1) <||> noContinuation data (i + 2) <||>
    (holds data i 0xe0 <&&> masksTo data (i + 1) 0xe0 0x80) <||> -- overlong
    (holds data i 0xed <&&> masksTo data (i + 1) 0xe0 0xa0) <||> -- surrogate
    (holds data i 0xef <&&> holds data (i + 1) 0xbf <&&> masksTo data (i + 2) 0xfe 0xbe)

/-- The condition under which the branch of four bytes refuses. -/
def refusesFour (i : ℕ) : Result Bool :=
  pure (i + 3 ≥ data.length) <||> noContinuation data (i + 1) <||> noContinuation data (i + 2) <||>
    noContinuation data (i + 3) <||>
    (holds data i 0xf0 <&&> masksTo data (i + 1) 0xf0 0x80) <||> -- overlong
    (holds data i 0xf4 <&&> (do return (← readAt data (i + 1)) > 0x8f)) <||>
    (do return (← readAt data i) > 0xf4)

/-- The loop of `is_data_utf8` from an index on; the first argument bounds the passes. -/
def isDataUtf8From : ℕ → ℕ → Result Bool
  | 0, i => return !(i < data.length)
  | fuel + 1, i =>
      if i < data.length then do
        if (← readAt data i) < 0x80 then isDataUtf8From fuel (i + 1)
        else if ← masksTo data i 0xe0 0xc0 then
          if ← refusesTwo data i then return false else isDataUtf8From fuel (i + 2)
        else if ← masksTo data i 0xf0 0xe0 then
          if ← refusesThree data i then return false else isDataUtf8From fuel (i + 3)
        else if ← masksTo data i 0xf8 0xf0 then
          if ← refusesFour data i then return false else isDataUtf8From fuel (i + 4)
        else return false
      else return true

/-- `is_data_utf8`, with its reads. -/
def isDataUtf8Reading : Result Bool := isDataUtf8From data data.length 0

end

section

variable {data : List UInt8} {i : ℕ} {a : UInt8} {rest : List UInt8}

/-- Reading a byte of those that are left. -/
theorem readAt_of_drop {left : List UInt8} (hdrop : data.drop i = left) {k : ℕ} {b : UInt8}
    (hk : left[k]? = some b) : readAt data (i + k) = .ok b := by
  rw [readAt_eq_ok, ← List.getElem?_drop, hdrop, hk]

theorem length_of_drop (hdrop : data.drop i = a :: rest) : data.length = i + rest.length + 1 := by
  have hlength := congrArg List.length hdrop
  rw [List.length_drop, List.length_cons] at hlength
  omega

/-- C's `||` and `&&` on values that are there. -/
theorem orElse_ok (x y : Bool) : ((.ok x : Result Bool) <||> .ok y) = .ok (x || y) := by
  cases x <;> rfl

theorem andThen_ok (x y : Bool) : ((.ok x : Result Bool) <&&> .ok y) = .ok (x && y) := by
  cases x <;> rfl

theorem masksTo_ok {b : UInt8} (h : readAt data i = .ok b) (mask value : UInt8) :
    masksTo data i mask value = .ok (b &&& mask = value) := by
  rw [masksTo, h]
  rfl

theorem holds_ok {b : UInt8} (h : readAt data i = .ok b) (value : UInt8) :
    holds data i value = .ok (b = value) := by
  rw [holds, h]
  rfl

theorem noContinuation_ok {b : UInt8} (h : readAt data i = .ok b) :
    noContinuation data i = .ok (!isContinuation b) := by
  rw [noContinuation, h]
  rfl

/-- The guard on the length, where it refuses. -/
theorem guard_short {k : ℕ} (h : data.length ≤ i + k) (tests : Result Bool) :
    ((pure (i + k ≥ data.length) : Result Bool) <||> tests) = .ok true := by
  rw [show (pure (decide (i + k ≥ data.length)) : Result Bool) = .ok true from
    congrArg Except.ok (decide_eq_true h)]
  rfl

/-- The guard on the length, where it lets pass. -/
theorem guard_long {k : ℕ} (h : i + k < data.length) (tests : Result Bool) :
    ((pure (i + k ≥ data.length) : Result Bool) <||> tests) = tests := by
  rw [show (pure (decide (i + k ≥ data.length)) : Result Bool) = .ok false from
    congrArg Except.ok (decide_eq_false (by omega))]
  rfl

theorem refusesTwo_eq {b : UInt8} (hdrop : data.drop i = a :: b :: rest) :
    refusesTwo data i = .ok (!isContinuation b || a &&& 0xfe = 0xc0) := by
  have hlength := length_of_drop hdrop
  rw [List.length_cons] at hlength
  have ha : readAt data i = .ok a := @readAt_of_drop _ _ _ hdrop 0 a rfl
  rw [refusesTwo, guard_long (by omega), noContinuation_ok (readAt_of_drop hdrop rfl),
    masksTo_ok ha, orElse_ok]

theorem refusesThree_eq {b c : UInt8} (hdrop : data.drop i = a :: b :: c :: rest) :
    refusesThree data i = .ok (!isContinuation b || !isContinuation c
      || (a = 0xe0 && b &&& 0xe0 = 0x80) || (a = 0xed && b &&& 0xe0 = 0xa0)
      || (a = 0xef && b = 0xbf && c &&& 0xfe = 0xbe)) := by
  have hlength := length_of_drop hdrop
  rw [List.length_cons, List.length_cons] at hlength
  have ha : readAt data i = .ok a := @readAt_of_drop _ _ _ hdrop 0 a rfl
  have hb : readAt data (i + 1) = .ok b := readAt_of_drop hdrop rfl
  have hc : readAt data (i + 2) = .ok c := readAt_of_drop hdrop rfl
  rw [refusesThree, guard_long (by omega)]
  simp only [noContinuation_ok hb, noContinuation_ok hc, holds_ok ha, holds_ok hb, masksTo_ok hb,
    masksTo_ok hc, orElse_ok, andThen_ok, Bool.or_assoc, Bool.and_assoc]

theorem refusesFour_eq {b c d : UInt8} (hdrop : data.drop i = a :: b :: c :: d :: rest) :
    refusesFour data i = .ok (!isContinuation b || !isContinuation c || !isContinuation d
      || (a = 0xf0 && b &&& 0xf0 = 0x80) || (a = 0xf4 && b > 0x8f) || a > 0xf4) := by
  have hlength := length_of_drop hdrop
  rw [List.length_cons, List.length_cons, List.length_cons] at hlength
  have ha : readAt data i = .ok a := @readAt_of_drop _ _ _ hdrop 0 a rfl
  have hb : readAt data (i + 1) = .ok b := readAt_of_drop hdrop rfl
  have hc : readAt data (i + 2) = .ok c := readAt_of_drop hdrop rfl
  have hd : readAt data (i + 3) = .ok d := readAt_of_drop hdrop rfl
  have hbig : (do return (← readAt data (i + 1)) > 0x8f : Result Bool) = .ok (b > 0x8f) := by
    rw [hb]
    rfl
  have hlead : (do return (← readAt data i) > 0xf4 : Result Bool) = .ok (a > 0xf4) := by
    rw [ha]
    rfl
  rw [refusesFour, guard_long (by omega), hbig, hlead]
  simp only [noContinuation_ok hb, noContinuation_ok hc, noContinuation_ok hd, holds_ok ha,
    masksTo_ok hb, orElse_ok, andThen_ok, Bool.or_assoc]

theorem ok_bind {α β : Type} (x : α) (f : α → Result β) : ((.ok x : Result α) >>= f) = f x := rfl

/-- **The loop by indices is the loop over what is left**: no read faults. -/
theorem isDataUtf8From_eq (fuel i : ℕ) :
    isDataUtf8From data fuel i = .ok (isDataUtf8Loop fuel (data.drop i)) := by
  induction fuel generalizing i with
  | zero =>
      rw [isDataUtf8From]
      rcases hdrop : data.drop i with _ | ⟨a, rest⟩
      · rw [List.drop_eq_nil_iff] at hdrop
        rw [decide_eq_false (by omega : ¬i < data.length)]
        rfl
      · have hlength := length_of_drop hdrop
        rw [decide_eq_true (by omega : i < data.length)]
        rfl
  | succ fuel ih =>
      rw [isDataUtf8From]
      rcases hdrop : data.drop i with _ | ⟨a, rest⟩
      · rw [List.drop_eq_nil_iff] at hdrop
        rw [if_neg (by omega)]
        rfl
      have hlength := length_of_drop hdrop
      have ha : readAt data i = .ok a := @readAt_of_drop _ _ _ hdrop 0 a rfl
      have hrest : ∀ k, data.drop (i + (k + 1)) = rest.drop k := by
        intro k
        rw [← List.drop_drop, hdrop, List.drop_succ_cons]
      rw [if_pos (by omega), ha, masksTo_ok ha, masksTo_ok ha, masksTo_ok ha]
      conv_rhs => unfold isDataUtf8Loop
      simp only [ok_bind, decide_eq_true_iff]
      split_ifs with h₁ h₂ h₃ h₄
      · rw [ih, hrest 0]
        rfl
      · rcases rest with _ | ⟨b, rest⟩
        · rw [refusesTwo, guard_short (by rw [hlength]; rfl)]
          rfl
        · rw [refusesTwo_eq hdrop]
          simp only [ok_bind]
          split_ifs
          · rfl
          · rw [ih, hrest 1]
            rfl
      · rcases rest with _ | ⟨b, _ | ⟨c, rest⟩⟩
        · rw [refusesThree, guard_short (by rw [hlength, List.length_nil]; omega)]
          rfl
        · rw [refusesThree, guard_short (by rw [hlength, List.length_singleton])]
          rfl
        · rw [refusesThree_eq hdrop]
          simp only [ok_bind]
          split_ifs
          · rfl
          · rw [ih, hrest 2]
            rfl
      · rcases rest with _ | ⟨b, _ | ⟨c, _ | ⟨d, rest⟩⟩⟩
        · rw [refusesFour, guard_short (by rw [hlength, List.length_nil]; omega)]
          rfl
        · rw [refusesFour, guard_short (by rw [hlength, List.length_singleton]; omega)]
          rfl
        · rw [refusesFour, guard_short (by rw [hlength]; rfl)]
          rfl
        · rw [refusesFour_eq hdrop]
          simp only [ok_bind]
          split_ifs
          · rfl
          · rw [ih, hrest 3]
            rfl
      · rfl

/-- **No read is behind the data**, and the reads make the function of the list. -/
theorem isDataUtf8Reading_eq (data : List UInt8) :
    isDataUtf8Reading data = .ok (isDataUtf8 data) := isDataUtf8From_eq data.length 0

/-- An ASCII byte is the encoding of itself. -/
theorem isDataUtf8Loop_of_isDataAscii {fuel : ℕ} (hfuel : data.length ≤ fuel)
    (h : isDataAscii data = true) : isDataUtf8Loop fuel data = true := by
  induction data generalizing fuel with
  | nil =>
      rcases fuel with _ | fuel <;> rfl
  | cons a data ih =>
      obtain ⟨fuel, rfl⟩ : ∃ m, fuel = m + 1 := Nat.exists_eq_succ_of_ne_zero (by
        rw [List.length_cons] at hfuel
        omega)
      rw [List.length_cons] at hfuel
      rw [isDataAscii, List.all_cons, Bool.and_eq_true] at h
      obtain ⟨ha, hdata⟩ := h
      have hlt : a.toNat < 0x80 := by
        rw [Bool.not_eq_true', Bool.or_eq_false_iff] at ha
        have hle : ¬0x7e < a.toNat := fun h =>
          of_decide_eq_false ha.2 (UInt8.lt_iff_toNat_lt.mpr h)
        omega
      rw [isDataUtf8Loop_one hlt]
      exact ih (by omega) hdata

end

/-- **What `is_data_utf8` accepts**: the UTF-8 encodings of texts without U+FFFE and U+FFFF.  It
reads nothing behind the data, and accepts all that `is_data_ascii` does. -/
theorem isDataUtf8Reading_iff (data : List UInt8) :
    (isDataUtf8Reading data = .ok true ↔ ∃ cs : List Char,
      (∀ c ∈ cs, c.toNat ≠ 0xFFFE ∧ c.toNat ≠ 0xFFFF) ∧
        data = cs.flatMap String.utf8EncodeChar) ∧
    (∃ accepted, isDataUtf8Reading data = .ok accepted) ∧
    (isDataAscii data = true → isDataUtf8Reading data = .ok true) := by
  rw [isDataUtf8Reading_eq]
  refine ⟨?_, ⟨_, rfl⟩, ?_⟩
  · rw [Except.ok.injEq, isDataUtf8]
    exact isDataUtf8Loop_iff le_rfl
  · intro h
    exact congrArg Except.ok (isDataUtf8Loop_of_isDataAscii le_rfl h)

end AgencLedger
