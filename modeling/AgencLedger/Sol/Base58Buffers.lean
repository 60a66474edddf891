import AgencLedger.Sol.Base58

/-!
# Sol/Base58Buffers — the two arrays of `encode_base58`

`Sol/Base58` keeps the parts of `tmp` and `buffer` in use as lists.  Here they are the 64 cells that
the call finds on its stack, every access goes through its index, and `j` is a byte.  Where the
writes stay inside the cells the two agree; the guard admits inputs for which they do not.
-/

namespace AgencLedger

/-! ## Cells -/

/-- An array write. -/
def storeAt {α : Type} (l : List α) (i : ℕ) (a : α) : Result (List α) :=
  if i < l.length then .ok (l.set i a) else .error .outOfBounds

/-- `memmove` out of an array. -/
def copyFrom {α : Type} (l : List α) (i n : ℕ) : Result (List α) :=
  if i + n ≤ l.length then .ok ((l.drop i).take n) else .error .outOfBounds

section

variable {α : Type} {front back : List α} {i : ℕ}

theorem readAt_append (a : α) (h : front.length = i) : readAt (front ++ a :: back) i = .ok a := by
  rw [readAt_eq_ok, List.getElem?_append_right (Nat.le_of_eq h), h, Nat.sub_self,
    List.getElem?_cons_zero]

theorem storeAt_append (a b : α) (h : front.length = i) :
    storeAt (front ++ a :: back) i b = .ok (front ++ b :: back) := by
  have hlt : i < (front ++ a :: back).length := by
    rw [List.length_append, List.length_cons]
    omega
  rw [storeAt, if_pos hlt, List.set_append_right _ _ (Nat.le_of_eq h), h, Nat.sub_self,
    List.set_cons_zero]

theorem storeAt_of_le {l : List α} {a : α} (h : l.length ≤ i) :
    storeAt l i a = .error .outOfBounds :=
  if_neg (Nat.not_lt.mpr h)

theorem copyFrom_append {mid : List α} (h : front.length = i) :
    copyFrom (front ++ mid ++ back) i mid.length = .ok mid := by
  have hle : i + mid.length ≤ (front ++ mid ++ back).length := by
    rw [List.length_append, List.length_append]
    omega
  rw [copyFrom, if_pos hle, List.append_assoc, List.drop_left' h, List.take_left' rfl]

end

/-! ## The code -/

/-- The arrays as the call finds them on its stack. -/
structure Base58Stack where
  tmp : List UInt8
  buffer : List Char
  tmp_size : tmp.length = 64
  buffer_size : buffer.length = 64

/-- The locals of the outer loop. -/
structure Base58Locals where
  tmp : List UInt8
  buffer : List Char
  j : UInt8
  startAt : ℕ

/-- `while ((zero_count < length) && (tmp[zero_count] == 0))`, with `n` cells left. -/
def countZeros (tmp : List UInt8) : ℕ → ℕ → Result ℕ
  | 0, zeroCount => .ok zeroCount
  | n + 1, zeroCount => do
      let first ← readAt tmp zeroCount
      if first = 0 then countZeros tmp n (zeroCount + 1) else .ok zeroCount

/-- The inner loop, with `n` cells left. -/
def divideTmp : ℕ → ℕ → UInt16 → List UInt8 → Result (List UInt8 × UInt16)
  | 0, _, remainder, tmp => .ok (tmp, remainder)
  | n + 1, divLoop, remainder, tmp => do
      let digit256 ← readAt tmp divLoop
      let tmpDiv := remainder * 256 + digit256.toUInt16
      let tmp ← storeAt tmp divLoop (tmpDiv / 58).toUInt8
      divideTmp n (divLoop + 1) (tmpDiv % 58) tmp

/-- The outer loop. -/
def divideLoop (length : ℕ) : ℕ → Base58Locals → Result Base58Locals
  | 0, _ => .error .diverges
  | fuel + 1, locals =>
      if locals.startAt < length then do
        let (tmp, remainder) ←
          divideTmp (length - locals.startAt) locals.startAt 0 locals.tmp
        let first ← readAt tmp locals.startAt
        let digit ← readAt base58Alphabet remainder.toNat
        let j := locals.j - 1
        let buffer ← storeAt locals.buffer j.toNat digit
        divideLoop length fuel
          ⟨tmp, buffer, j, if first = 0 then locals.startAt + 1 else locals.startAt⟩
      else .ok locals

/-- `while ((j < (2 * length)) && (buffer[j] == BASE58_ALPHABET[0]))`, with `n` cells left. -/
def skipOnes (buffer : List Char) : ℕ → UInt8 → Result UInt8
  | 0, j => .ok j
  | n + 1, j => do
      let digit ← readAt buffer j.toNat
      if digit = '1' then skipOnes buffer n (j + 1) else .ok j

/-- `while (zero_count-- > 0)`. -/
def prependOnes : ℕ → UInt8 → List Char → Result (UInt8 × List Char)
  | 0, j, buffer => .ok (j, buffer)
  | zeroCount + 1, j, buffer => do
      let buffer ← storeAt buffer (j - 1).toNat '1'
      prependOnes zeroCount (j - 1) buffer

/-- `encode_base58` on its arrays. -/
def encodeBase58InBuffers (stack : Base58Stack) (input : List UInt8) (maxOutLen : ℕ) :
    Result (List Char) := do
  bailIf (input.length > 64)
  let length := input.length
  let tmp := input ++ stack.tmp.drop length
  let zeroCount ← countZeros tmp length 0
  let locals ← divideLoop length (2 * length + 1)
    ⟨tmp, stack.buffer, (2 * length).toUInt8, zeroCount⟩
  let j ← skipOnes locals.buffer (2 * length - locals.j.toNat) locals.j
  let (j, buffer) ← prependOnes zeroCount j locals.buffer
  bailIf (maxOutLen < 2 * length - j.toNat + 1)
  copyFrom buffer j.toNat (2 * length - j.toNat)

/-! ## The loops over `tmp` -/

theorem countZeros_eq {front : List UInt8} (mid back : List UInt8) {i : ℕ}
    (h : front.length = i) :
    countZeros (front ++ mid ++ back) mid.length i
      = .ok (i + (mid.length - (mid.dropWhile (· = 0)).length)) := by
  induction mid generalizing front i with
  | nil => rfl
  | cons a mid ih =>
      have hle : (mid.dropWhile (· = 0)).length ≤ mid.length := (List.dropWhile_suffix _).length_le
      rw [List.length_cons, countZeros, List.append_assoc, List.cons_append, readAt_append a h]
      by_cases ha : a = 0
      · have hnext : (front ++ [a]).length = i + 1 := by
          rw [List.length_append, List.length_singleton, h]
        have hrest := ih hnext
        rw [List.append_assoc, List.append_assoc, List.singleton_append] at hrest
        rw [List.dropWhile_cons_of_pos (by simpa using ha)]
        simp only [bind, Except.bind, if_pos ha, hrest]
        congr 1
        omega
      · rw [List.dropWhile_cons_of_neg (by simpa using ha), List.length_cons, Nat.sub_self]
        simp only [bind, Except.bind, if_neg ha, Nat.add_zero]

/-- **One pass over `tmp`** is the long division by 58, in the cells of its digits. -/
theorem divideTmp_eq {front : List UInt8} (mid back : List UInt8) {i : ℕ} {r : UInt16}
    (h : front.length = i) (hr : r.toNat < 58) :
    ∃ quot r', divideTmp mid.length i r (front ++ mid ++ back) = .ok (front ++ quot ++ back, r') ∧
      base58Pass r.toNat (mid.map UInt8.toNat) = (quot.map UInt8.toNat, r'.toNat) ∧
      quot.length = mid.length ∧ r'.toNat < 58 := by
  induction mid generalizing front i r with
  | nil => exact ⟨[], r, rfl, rfl, rfl, hr⟩
  | cons a mid ih =>
      have hdiv : (r * 256 + a.toUInt16).toNat = (r.toNat * 256 + a.toNat) % 65536 := by
        rw [UInt16.toNat_add, UInt16.toNat_mul, UInt8.toNat_toUInt16, Nat.mod_add_mod]
        rfl
      obtain ⟨tmpDiv, htmpDiv⟩ : ∃ t, t = r * 256 + a.toUInt16 := ⟨_, rfl⟩
      rw [← htmpDiv] at hdiv
      have hmod : (tmpDiv % 58).toNat = tmpDiv.toNat % 58 := UInt16.toNat_mod _ _
      have hquot : (tmpDiv / 58).toUInt8.toNat = tmpDiv.toNat / 58 % 256 := by
        rw [UInt16.toNat_toUInt8, UInt16.toNat_div]
        rfl
      have hnext : (front ++ [(tmpDiv / 58).toUInt8]).length = i + 1 := by
        rw [List.length_append, List.length_singleton, h]
      have hr' : (tmpDiv % 58).toNat < 58 := by
        rw [hmod]
        exact Nat.mod_lt _ (by omega)
      obtain ⟨quot, r', hok, hpass, hlength, hlt⟩ := ih hnext hr'
      refine ⟨(tmpDiv / 58).toUInt8 :: quot, r', ?_, ?_, congrArg (· + 1) hlength, hlt⟩
      · simp only [List.append_assoc, List.cons_append] at hok ⊢
        rw [List.length_cons, divideTmp, readAt_append a h]
        simp only [bind, Except.bind, ← htmpDiv, storeAt_append a _ h]
        exact hok
      · rw [hmod, hdiv] at hpass
        simp only [List.map_cons, base58Pass, hpass, hquot, hdiv]

/-! ## The loops over `buffer` -/

theorem readAt_base58Alphabet {r : ℕ} (h : r < 58) :
    readAt base58Alphabet r = .ok (base58Char r) := by
  have hlength : base58Alphabet.length = 58 := by decide
  rw [readAt_eq_ok, base58Char, List.getD_eq_getElem?_getD,
    List.getElem?_eq_getElem (hlength ▸ h), Option.getD_some]

/-- A byte index that is not zero goes down by one. -/
theorem toNat_sub_one {j : UInt8} {n : ℕ} (h : j.toNat = n + 1) : (j - 1).toNat = n := by
  rw [UInt8.toNat_sub_of_le _ _
    (UInt8.le_iff_toNat_le.mpr (by rw [h]; exact Nat.le_add_left 1 n)), h]
  rfl

/-- The first cell is left behind once it is zero. -/
theorem base58Advance_map (q : UInt8) (quot : List UInt8) :
    base58Advance ((q :: quot).map UInt8.toNat)
      = (if q = 0 then quot else q :: quot).map UInt8.toNat := by
  by_cases hq : q = 0
  · subst hq
    rfl
  · rw [if_neg hq, List.map_cons]
    rcases hn : q.toNat with _ | n
    · exact absurd (UInt8.toNat_inj.mp hn) hq
    · rfl

/-- **One pass of the outer loop**: a division, and a digit in the cell in front of `j`. -/
theorem divideLoop_pass {length startAt n : ℕ} {j : UInt8} {a : UInt8} {front mid : List UInt8}
    {before : List Char} (fuel : ℕ) (back : List UInt8) (c : Char) (after : List Char)
    (hfront : front.length = startAt) (hmid : startAt + (a :: mid).length = length)
    (hbefore : before.length = n) (hj : j.toNat = n + 1) :
    ∃ q quot r, divideLoop length (fuel + 1)
        ⟨front ++ a :: mid ++ back, before ++ c :: after, j, startAt⟩
        = divideLoop length fuel
          ⟨front ++ q :: quot ++ back, before ++ base58Char r :: after, j - 1,
            if q = 0 then startAt + 1 else startAt⟩ ∧
      base58Pass 0 ((a :: mid).map UInt8.toNat) = ((q :: quot).map UInt8.toNat, r) ∧
      quot.length = mid.length := by
  obtain ⟨quot, r', hok, hpass, hlength, hlt⟩ :=
    divideTmp_eq (r := 0) (a :: mid) back hfront (by decide)
  obtain ⟨q, quot, rfl⟩ : ∃ q rest, quot = q :: rest :=
    List.exists_cons_of_length_eq_add_one hlength
  refine ⟨q, quot, r'.toNat, ?_, hpass, Nat.succ.inj hlength⟩
  have hstart : startAt < length := by
    rw [List.length_cons] at hmid
    omega
  rw [divideLoop, if_pos hstart, show length - startAt = (a :: mid).length by omega]
  simp only [hok, bind, Except.bind]
  simp only [List.append_assoc, List.cons_append, readAt_append q hfront,
    readAt_base58Alphabet hlt, storeAt_append c _ (hbefore.trans (toNat_sub_one hj).symm)]

/-- **The outer loop** writes the digits into the cells in front of `j`. -/
theorem divideLoop_eq {length fuel startAt : ℕ} {j : UInt8} {front mid back : List UInt8}
    {before written after digits : List Char} (hfront : front.length = startAt)
    (hmid : startAt + mid.length = length) (hbefore : before.length = j.toNat)
    (hfuel : j.toNat < fuel)
    (h : base58Digits j.toNat (mid.map UInt8.toNat) written = .ok digits) :
    ∃ locals before', divideLoop length fuel
        ⟨front ++ mid ++ back, before ++ (written ++ after), j, startAt⟩ = .ok locals ∧
      locals.buffer = before' ++ (digits ++ after) ∧ before'.length = locals.j.toNat ∧
      before'.length + digits.length = before.length + written.length := by
  induction fuel generalizing startAt j front mid before written with
  | zero => omega
  | succ fuel ih =>
      rcases mid with _ | ⟨a, mid⟩
      · obtain rfl : written = digits := by
          rw [List.map_nil, base58Digits] at h
          exact Except.ok.inj h
        have hend : ¬startAt < length := by
          rw [List.length_nil] at hmid
          omega
        rw [divideLoop, if_neg hend]
        exact ⟨_, before, rfl, rfl, hbefore, rfl⟩
      · rcases hj : j.toNat with _ | n
        · rw [hj, List.map_cons, base58Digits] at h
          cases h
        · obtain rfl | ⟨before, c, rfl⟩ := List.eq_nil_or_concat' before
          · rw [List.length_nil] at hbefore
            omega
          · have hcell : before.length = n := by
              rw [List.length_append, List.length_singleton] at hbefore
              omega
            obtain ⟨q, quot, r, hstep, hpass, hlength⟩ :=
              divideLoop_pass fuel back c (written ++ after) hfront hmid hcell hj
            have hj' := toNat_sub_one hj
            rw [hj, List.map_cons, base58Digits] at h
            split at h
            · cases h
            · simp only [← List.map_cons, hpass, base58Advance_map] at h
              rw [← hj'] at h hcell
              rw [List.length_cons] at hmid
              rw [List.append_assoc before, List.singleton_append, hstep, List.length_append,
                List.length_singleton]
              by_cases hq : q = 0
              · rw [if_pos hq] at h ⊢
                have hnext : (front ++ [q]).length = startAt + 1 := by
                  rw [List.length_append, List.length_singleton, hfront]
                obtain ⟨locals, before', hok, hbuffer, hcell', hcount⟩ :=
                  ih hnext (by omega) hcell (by omega) h
                rw [List.append_assoc front, List.singleton_append] at hok
                rw [List.length_cons] at hcount
                exact ⟨locals, before', hok, hbuffer, hcell', by omega⟩
              · rw [if_neg hq] at h ⊢
                obtain ⟨locals, before', hok, hbuffer, hcell', hcount⟩ :=
                  ih hfront (by rw [List.length_cons]; omega) hcell (by omega) h
                rw [List.length_cons] at hcount
                exact ⟨locals, before', hok, hbuffer, hcell', by omega⟩

theorem skipOnes_eq {before digits after : List Char} {j : UInt8} (h : before.length = j.toNat)
    (hbyte : j.toNat + digits.length < 256) :
    ∃ j', skipOnes (before ++ (digits ++ after)) digits.length j = .ok j' ∧
      j'.toNat = j.toNat + (digits.length - (digits.dropWhile (· = '1')).length) := by
  induction digits generalizing before j with
  | nil => exact ⟨j, rfl, rfl⟩
  | cons c digits ih =>
      have hle : (digits.dropWhile (· = '1')).length ≤ digits.length :=
        (List.dropWhile_suffix _).length_le
      rw [List.length_cons] at hbyte ⊢
      rw [skipOnes, List.cons_append, readAt_append c h]
      by_cases hc : c = '1'
      · have hj : (j + 1).toNat = j.toNat + 1 := by
          rw [UInt8.toNat_add, UInt8.toNat_one, Nat.mod_eq_of_lt (by omega)]
        have hnext : (before ++ [c]).length = (j + 1).toNat := by
          rw [List.length_append, List.length_singleton, h, hj]
        obtain ⟨j', hok, hval⟩ := ih hnext (by omega)
        rw [List.append_assoc, List.singleton_append] at hok
        refine ⟨j', ?_, ?_⟩
        · simp only [bind, Except.bind, if_pos hc, hok]
        · rw [List.dropWhile_cons_of_pos (by simpa using hc)]
          omega
      · refine ⟨j, ?_, ?_⟩
        · simp only [bind, Except.bind, if_neg hc]
        · rw [List.dropWhile_cons_of_neg (by simpa using hc), List.length_cons]
          omega

theorem prependOnes_eq {zeroCount : ℕ} {before : List Char} {j : UInt8} (after : List Char)
    (h : before.length = j.toNat) (hroom : zeroCount ≤ j.toNat) :
    ∃ j' before', prependOnes zeroCount j (before ++ after)
        = .ok (j', before' ++ (List.replicate zeroCount '1' ++ after)) ∧
      before'.length = j'.toNat ∧ j'.toNat + zeroCount = j.toNat := by
  induction zeroCount generalizing before j after with
  | zero => exact ⟨j, before, rfl, h, rfl⟩
  | succ zeroCount ih =>
      obtain ⟨n, hj⟩ : ∃ n, j.toNat = n + 1 := ⟨j.toNat - 1, by omega⟩
      have hj' := toNat_sub_one hj
      obtain rfl | ⟨before, c, rfl⟩ := List.eq_nil_or_concat' before
      · rw [List.length_nil] at h
        omega
      · have hcell : before.length = (j - 1).toNat := by
          rw [List.length_append, List.length_singleton] at h
          omega
        obtain ⟨j'', before', hok, hcell', hval⟩ := ih ('1' :: after) hcell (by omega)
        refine ⟨j'', before', ?_, hcell', by omega⟩
        rw [prependOnes, List.append_assoc, List.singleton_append, storeAt_append c _ hcell]
        simp only [bind, Except.bind, hok, List.replicate_succ', List.append_assoc,
          List.singleton_append]

/-! ## The whole encoding -/

/-- The bytes behind the leading zeros, as digits. -/
theorem dropWhile_map_toNat (input : List UInt8) :
    (input.map UInt8.toNat).dropWhile (· = 0) = (input.dropWhile (· = 0)).map UInt8.toNat := by
  have hzero : ((decide <| · = 0) ∘ UInt8.toNat : UInt8 → Bool) = (decide <| · = 0) := by
    funext b
    exact decide_eq_decide.mpr (UInt8.toNat_inj (b := 0))
  rw [List.dropWhile_map, hzero]

section

variable (stack : Base58Stack) {input : List UInt8} (maxOutLen : ℕ)

/-- The leading zeros of an input are counted in `tmp`. -/
theorem countZeros_input :
    countZeros (input ++ stack.tmp.drop input.length) input.length 0
      = .ok (input.takeWhile (· = 0)).length := by
  have hcount : countZeros (input ++ stack.tmp.drop input.length) input.length 0 = _ :=
    @countZeros_eq [] input (stack.tmp.drop input.length) 0 rfl
  have hsplit := congrArg List.length (List.takeWhile_append_dropWhile (p := (· = 0)) (l := input))
  rw [List.length_append] at hsplit
  rw [hcount]
  congr 1
  omega

/-- **Up to 32 bytes the arrays are not left**, and the text is the same. -/
theorem encodeBase58InBuffers_eq (hlen : input.length ≤ 32) :
    encodeBase58InBuffers stack input maxOutLen = encodeBase58 input maxOutLen := by
  obtain ⟨digits, hok, hfits, hdigits, hroom⟩ := exists_base58Digits hlen
  have hzeros := congrArg List.length (List.takeWhile_append_dropWhile (p := (· = 0)) (l := input))
  rw [List.length_append] at hzeros
  have hones := congrArg List.length
    (List.takeWhile_append_dropWhile (p := (· = '1')) (l := digits))
  rw [List.length_append] at hones
  have hbyte : (2 * input.length).toUInt8.toNat = 2 * input.length :=
    UInt8.toNat_ofNat_of_lt' (Nat.lt_of_le_of_lt (Nat.mul_le_mul_left 2 hlen) (by decide))
  have htake : (stack.buffer.take (2 * input.length)).length = 2 * input.length :=
    List.length_take_of_le (by rw [stack.buffer_size]; omega)
  rw [dropWhile_map_toNat] at hok hroom
  rw [List.length_map] at hroom
  -- the digits, from the end of the cells on
  obtain ⟨locals, before, hloop, hbuffer, hcell, hcount⟩ := @divideLoop_eq input.length
    (2 * input.length + 1) _ (2 * input.length).toUInt8 (input.takeWhile (· = 0))
    (input.dropWhile (· = 0)) (stack.tmp.drop input.length) (stack.buffer.take (2 * input.length))
    [] (stack.buffer.drop (2 * input.length)) digits rfl hzeros (htake.trans hbyte.symm) (by omega)
    (by rw [hbyte]; exact hok)
  rw [List.takeWhile_append_dropWhile, List.nil_append, List.take_append_drop] at hloop
  rw [htake, List.length_nil] at hcount
  -- then without the ones in front
  obtain ⟨j, hskip, hj⟩ := @skipOnes_eq before digits (stack.buffer.drop (2 * input.length))
    locals.j hcell (by omega)
  rw [← hbuffer, show digits.length = 2 * input.length - locals.j.toNat by omega] at hskip
  -- and with a one for each leading zero
  have hbefore : (before ++ digits.takeWhile (· = '1')).length = j.toNat := by
    rw [List.length_append]
    omega
  obtain ⟨j', before', hprepend, hcell', hj'⟩ :=
    @prependOnes_eq (input.takeWhile (· = 0)).length _ _
      (digits.dropWhile (· = '1') ++ stack.buffer.drop (2 * input.length)) hbefore (by omega)
  rw [List.append_assoc, ← List.append_assoc (digits.takeWhile _), List.takeWhile_append_dropWhile,
    ← hbuffer] at hprepend
  have htext : base58Numeral input
      = List.replicate (input.takeWhile (· = 0)).length '1' ++ digits.dropWhile (· = '1') := by
    rw [hdigits, base58Numeral, dropWhile_map_toNat, List.length_map, List.length_map]
    congr 2
    omega
  have hlength : (base58Numeral input).length = 2 * input.length - j'.toNat := by
    rw [htext, List.length_append, List.length_replicate]
    omega
  have hcopy : copyFrom (before' ++ (List.replicate (input.takeWhile (· = 0)).length '1' ++
      (digits.dropWhile (· = '1') ++ stack.buffer.drop (2 * input.length)))) j'.toNat
      (2 * input.length - j'.toNat) = .ok (base58Numeral input) := by
    rw [← List.append_assoc (List.replicate _ _), ← htext, ← List.append_assoc, ← hlength]
    exact copyFrom_append hcell'
  rw [encodeBase58_eq hlen]
  unfold encodeBase58InBuffers
  simp only [bailIf, decide_eq_true_eq, if_neg (show ¬input.length > 64 by omega),
    countZeros_input stack, hloop, hskip, hprepend, bind, Except.bind, ← hlength]
  by_cases hfits : (base58Numeral input).length < maxOutLen
  · rw [if_neg (by omega), if_pos hfits]
    simp only [hlength, hcopy]
  · rw [if_pos (by omega), if_neg hfits]

/-- **Beyond 32 bytes the first write is outside the buffer.** -/
theorem encodeBase58InBuffers_of_long (hlen : 32 < input.length) (hguard : input.length ≤ 64) :
    encodeBase58InBuffers stack input maxOutLen = .error .outOfBounds := by
  have hbyte : (2 * input.length).toUInt8.toNat = 2 * input.length :=
    UInt8.toNat_ofNat_of_lt' (Nat.lt_of_le_of_lt (Nat.mul_le_mul_left 2 hguard) (by decide))
  have hfirst : ((2 * input.length).toUInt8 - 1).toNat = 2 * input.length - 1 :=
    toNat_sub_one (by omega)
  have houtside : ∀ a, storeAt stack.buffer ((2 * input.length).toUInt8 - 1).toNat a
      = .error .outOfBounds := fun a => storeAt_of_le (by rw [stack.buffer_size, hfirst]; omega)
  have hzeros := congrArg List.length (List.takeWhile_append_dropWhile (p := (· = 0)) (l := input))
  rw [List.length_append] at hzeros
  unfold encodeBase58InBuffers
  simp only [bailIf, decide_eq_true_eq, if_neg (show ¬input.length > 64 by omega),
    countZeros_input stack, bind, Except.bind]
  rcases hmid : input.dropWhile (· = 0) with _ | ⟨a, mid⟩
  · -- the first one is outside
    rw [hmid, List.length_nil] at hzeros
    have hend : ¬(input.takeWhile (· = 0)).length < input.length := by omega
    obtain ⟨zeroCount, hz⟩ : ∃ z, (input.takeWhile (· = 0)).length = z + 1 :=
      ⟨input.length - 1, by omega⟩
    rw [divideLoop, if_neg hend]
    simp only [hbyte, Nat.sub_self, skipOnes, hz, prependOnes, houtside, bind, Except.bind]
  · -- the first digit is outside
    rw [hmid, List.length_cons] at hzeros
    have hstart : (input.takeWhile (· = 0)).length < input.length := by omega
    have hinput : input ++ stack.tmp.drop input.length
        = input.takeWhile (· = 0) ++ a :: mid ++ stack.tmp.drop input.length := by
      rw [← hmid, List.takeWhile_append_dropWhile]
    obtain ⟨quot, r, hok, -, hlength, hlt⟩ :=
      @divideTmp_eq (input.takeWhile (· = 0)) (a :: mid) (stack.tmp.drop input.length) _ 0 rfl
        (by decide)
    obtain ⟨q, quot, rfl⟩ : ∃ q rest, quot = q :: rest :=
      List.exists_cons_of_length_eq_add_one hlength
    rw [divideLoop, if_pos hstart, hinput, show input.length - (input.takeWhile (· = 0)).length
      = (a :: mid).length by rw [List.length_cons]; omega]
    simp only [hok, bind, Except.bind]
    simp only [List.append_assoc, List.cons_append, readAt_append q rfl, readAt_base58Alphabet hlt,
      houtside]

end

/-- **The arrays of `encode_base58` are not left** exactly for the inputs of up to 32 bytes and
those that its guard refuses.  An index that wraps is 255, and outside. -/
theorem encodeBase58InBuffers_inBounds_iff (stack : Base58Stack) (input : List UInt8)
    (maxOutLen : ℕ) :
    encodeBase58InBuffers stack input maxOutLen ≠ .error .outOfBounds ↔
      input.length ≤ 32 ∨ 64 < input.length := by
  constructor
  · intro h
    by_contra hlen
    rw [not_or, Nat.not_le, Nat.not_lt] at hlen
    exact h (encodeBase58InBuffers_of_long stack maxOutLen hlen.1 hlen.2)
  · rintro (hlen | hlen) h
    · rw [encodeBase58InBuffers_eq stack maxOutLen hlen, encodeBase58_eq hlen] at h
      split at h <;> cases h
    · rw [encodeBase58InBuffers, bailIf, if_pos (decide_eq_true hlen)] at h
      cases h

/-- A stack of zeros and ones. -/
def zeroStack : Base58Stack where
  tmp := List.replicate 64 0
  buffer := List.replicate 64 '1'
  tmp_size := List.length_replicate
  buffer_size := List.length_replicate

/-- **Thirty-three zero bytes pass the guard**, and the first `1` is written outside. -/
theorem thirtyThreeZeros_outOfBounds :
    ¬∀ (stack : Base58Stack) (input : List UInt8) (maxOutLen : ℕ), input.length ≤ 64 →
      encodeBase58InBuffers stack input maxOutLen ≠ .error .outOfBounds :=
  fun h => h zeroStack (List.replicate 33 0) 67 (by decide)
    (encodeBase58InBuffers_of_long zeroStack 67 (by decide) (by decide))

end AgencLedger
