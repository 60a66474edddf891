import AgencLedger.Library.Digits
import AgencLedger.Library.Ensures
import AgencLedger.Program.Agenc
import AgencLedger.Sol.Base58
import AgencLedger.Sol.Message

/-!
# Program/ArtifactHash — the text that names an artifact, and what it pins down

A result that names an artifact holds `artifact:sha256:` and the hash in base64url, 43 characters
without padding.  The hash has 256 bits and 43 characters have 258: the text is the hash, shifted by
two, in base 64.  `decode_artifact_result_hash` accepts exactly these texts, if a zero byte follows.
What stands behind that byte is not looked at.
-/

namespace AgencLedger

open Positional

/-! ## The encoding -/

/-- The base64url alphabet. -/
def base64urlAlphabet : List UInt8 :=
  "ABCDEFGHIJKLMNOPQRSTUVWXYZabcdefghijklmnopqrstuvwxyz0123456789-_".toList.map
    fun c => c.toNat.toUInt8

/-- A character of the alphabet. -/
def base64urlChar (i : ℕ) : UInt8 := base64urlAlphabet.getD i 0

/-- **The unpadded base64url encoding of a hash**: its bits and two zero bits, six bits a
character. -/
def base64urlEncode (hash : Hash) : List UInt8 :=
  (places 64 43 (value 256 (hash.data.map UInt8.toNat) * 2 ^ 2)).map base64urlChar

theorem length_base64urlEncode (hash : Hash) : (base64urlEncode hash).length = 43 := by
  rw [base64urlEncode, List.length_map, length_places]

/-- A character stands for its place in the alphabet. -/
theorem base64urlValue_char {i : ℕ} (h : i < 64) :
    base64urlValue (base64urlChar i) = some i.toUInt32 :=
  (by decide +kernel : ∀ i < 64, base64urlValue (base64urlChar i) = some i.toUInt32) i h

theorem base64urlChar_ne_zero {i : ℕ} (h : i < 64) : base64urlChar i ≠ 0 :=
  (by decide +kernel : ∀ i < 64, base64urlChar i ≠ 0) i h

/-- Only the characters of the alphabet stand for a value. -/
theorem eq_char_of_base64urlValue {character : UInt8} {v : UInt32}
    (h : base64urlValue character = some v) :
    v.toNat < 64 ∧ character = base64urlChar v.toNat := by
  have hall : ∀ n < 256, (base64urlValue (UInt8.ofNat n)).all
      (fun v => v.toNat < 64 && UInt8.ofNat n == base64urlChar v.toNat) = true := by decide +kernel
  have hcharacter := hall character.toNat character.toNat_lt
  rw [UInt8.ofNat_toNat, h] at hcharacter
  simpa using hcharacter

theorem zero_notMem_base64urlEncode (hash : Hash) : 0 ∉ base64urlEncode hash := by
  intro h
  obtain ⟨i, hi, hzero⟩ := List.mem_map.mp h
  exact base64urlChar_ne_zero (places_lt (by omega) _ _ i hi) hzero

/-- The bits of a hash and two more fit 43 characters. -/
theorem value_hash_lt (hash : Hash) : value 256 (hash.data.map UInt8.toNat) * 2 ^ 2 < 64 ^ 43 := by
  have hlt := value_lt (B := 256) (by omega) (bytes_lt hash.data)
  rw [List.length_map, hash.size] at hlt
  calc value 256 (hash.data.map UInt8.toNat) * 2 ^ 2 < 256 ^ 32 * 2 ^ 2 :=
        Nat.mul_lt_mul_of_pos_right hlt (by omega)
    _ = 64 ^ 43 := by norm_num

/-! ## The loop -/

/-- What a number of bits and a pair of accumulator and output stand for. -/
def bitsValue (output : List UInt8) (accumulator : UInt32) (bits : ℕ) : ℕ :=
  value 256 (output.map UInt8.toNat) * 2 ^ bits + accumulator.toNat

/-- Six bits more in the accumulator. -/
theorem toNat_shiftIn {accumulator v : UInt32} {bits : ℕ} (hbits : bits < 8)
    (hacc : accumulator.toNat < 2 ^ bits) (hv : v.toNat < 64) :
    (accumulator <<< 6 ||| v).toNat = accumulator.toNat * 64 + v.toNat := by
  have hlt : accumulator.toNat < 256 := hacc.trans_le (Nat.pow_le_pow_right (by omega) hbits.le)
  rw [UInt32.toNat_or, UInt32.toNat_shiftLeft]
  change accumulator.toNat <<< 6 % 2 ^ 32 ||| v.toNat = _
  rw [Nat.mod_eq_of_lt (by rw [Nat.shiftLeft_eq]; omega),
    ← Nat.shiftLeft_add_eq_or_of_lt (by omega),
    Nat.shiftLeft_eq]

/-- A byte taken out of the accumulator, and what stays behind. -/
theorem toNat_shiftOut {accumulator : UInt32} {bits : ℕ} (hbits : bits < 8)
    (hacc : accumulator.toNat < 2 ^ (bits + 8)) :
    (accumulator >>> bits.toUInt32).toUInt8.toNat = accumulator.toNat / 2 ^ bits ∧
      (accumulator &&& ((1 <<< bits.toUInt32) - 1)).toNat = accumulator.toNat % 2 ^ bits := by
  have hshift : bits.toUInt32.toNat % 32 = bits := by
    rw [Nat.toUInt32_eq, UInt32.toNat_ofNat_of_lt' (by change bits < 2 ^ 32; omega),
      Nat.mod_eq_of_lt (by omega)]
  have hbyte : accumulator.toNat / 2 ^ bits < 256 := by
    rw [pow_add] at hacc
    exact Nat.div_lt_of_lt_mul hacc
  have hpow : 2 ^ bits < 2 ^ 32 := Nat.pow_lt_pow_right (by omega) (by omega)
  have hone : (1 <<< bits.toUInt32 : UInt32).toNat = 2 ^ bits := by
    rw [UInt32.toNat_shiftLeft, hshift, UInt32.toNat_one, Nat.shiftLeft_eq, Nat.one_mul,
      Nat.mod_eq_of_lt hpow]
  have hmask : ((1 <<< bits.toUInt32 : UInt32) - 1).toNat = 2 ^ bits - 1 := by
    rw [UInt32.toNat_sub_of_le _ _ (by rw [UInt32.le_iff_toNat_le, hone]; exact Nat.one_le_two_pow),
      hone, UInt32.toNat_one]
  constructor
  · rw [UInt32.toNat_toUInt8, UInt32.toNat_shiftRight, hshift, Nat.shiftRight_eq_div_pow,
      Nat.mod_eq_of_lt hbyte]
  · rw [UInt32.toNat_and, hmask, Nat.and_two_pow_sub_one_eq_mod]

/-- A byte moved to the output stands for the same. -/
theorem bitsValue_push {output : List UInt8} {accumulator : UInt32} {bits : ℕ} (hbits : bits < 8)
    (hacc : accumulator.toNat < 2 ^ (bits + 8)) :
    bitsValue (output ++ [(accumulator >>> bits.toUInt32).toUInt8])
        (accumulator &&& ((1 <<< bits.toUInt32) - 1)) bits
      = bitsValue output accumulator (bits + 8) := by
  obtain ⟨hbyte, hrest⟩ := toNat_shiftOut hbits hacc
  rw [bitsValue, bitsValue, List.map_append, List.map_singleton, value_concat, hbyte, hrest,
    Nat.add_mul, Nat.add_assoc, Nat.div_add_mod', pow_add, Nat.mul_assoc, Nat.mul_comm 256]
  rfl

/-- Six bits more stand for their value behind what there was. -/
theorem bitsValue_shiftIn {output : List UInt8} {accumulator v : UInt32} {bits : ℕ}
    (h : (accumulator <<< 6 ||| v).toNat = accumulator.toNat * 64 + v.toNat) :
    bitsValue output (accumulator <<< 6 ||| v) (bits + 6)
      = bitsValue output accumulator bits * 64 + v.toNat := by
  rw [bitsValue, bitsValue, h, pow_add]
  ring

/-- **The loop over a text of the alphabet** does not run out of output: what it leaves stands for
the text's value. -/
theorem decodeBase64url_eq {text : List UInt8} {vs : List UInt32}
    (hvs : text.map base64urlValue = vs.map some) {accumulator : UInt32} {bits : ℕ}
    {output : List UInt8} (hbits : bits < 8) (hacc : accumulator.toNat < 2 ^ bits)
    (hroom : 8 * output.length + bits + 6 * text.length < 264) :
    ∃ output' accumulator' bits', decodeBase64url text accumulator bits output
        = some (output', accumulator') ∧
      bits' < 8 ∧ accumulator'.toNat < 2 ^ bits' ∧
      8 * output'.length + bits' = 8 * output.length + bits + 6 * text.length ∧
      bitsValue output' accumulator' bits'
        = bitsValue output accumulator bits * 64 ^ text.length
          + value 64 (vs.map UInt32.toNat) := by
  induction text generalizing vs accumulator bits output with
  | nil =>
      obtain rfl : vs = [] := List.map_eq_nil_iff.mp hvs.symm
      exact ⟨output, accumulator, bits, rfl, hbits, hacc, by simp, by simp⟩
  | cons character text ih =>
      obtain ⟨v, vs, rfl⟩ : ∃ v vs', vs = v :: vs' := by
        rcases vs with _ | ⟨v, vs⟩
        · cases hvs
        · exact ⟨v, vs, rfl⟩
      obtain ⟨hv, hvs⟩ := List.cons.inj hvs
      obtain ⟨hlt, -⟩ := eq_char_of_base64urlValue hv
      have hin := toNat_shiftIn hbits hacc hlt
      have hinlt : (accumulator <<< 6 ||| v).toNat < 2 ^ (bits + 6) := by
        rw [hin, pow_add]
        omega
      have hlength : (vs.map UInt32.toNat).length = text.length := by
        rw [List.length_map, ← List.length_map (f := some), ← hvs, List.length_map]
      have hvalue : ∀ n, n = bitsValue output accumulator bits * 64 + v.toNat →
          n * 64 ^ text.length + value 64 (vs.map UInt32.toNat)
            = bitsValue output accumulator bits * 64 ^ (character :: text).length
              + value 64 ((v :: vs).map UInt32.toNat) := by
        rintro n rfl
        rw [List.map_cons, value_cons, hlength, List.length_cons, pow_succ]
        ring
      rw [List.length_cons] at hroom
      rw [decodeBase64url, hv]
      simp only
      by_cases hbyte : bits + 6 ≥ 8
      · -- a byte comes out
        obtain ⟨b, hb⟩ : ∃ b, bits + 6 = b + 8 := ⟨bits - 2, by omega⟩
        have hb8 : b < 8 := by omega
        rw [if_pos hbyte, if_neg (by omega), hb, Nat.add_sub_cancel]
        rw [hb] at hinlt
        obtain ⟨output', accumulator', bits', hok, hbits', hacc', hlen, hval⟩ := @ih vs hvs
          ((accumulator <<< 6 ||| v) &&& ((1 <<< b.toUInt32) - 1)) b
          (output ++ [((accumulator <<< 6 ||| v) >>> b.toUInt32).toUInt8]) hb8
          (by rw [(toNat_shiftOut hb8 hinlt).2]; exact Nat.mod_lt _ (by positivity))
          (by rw [List.length_append, List.length_singleton]; omega)
        refine ⟨output', accumulator', bits', hok, hbits', hacc', ?_, hval.trans (hvalue _ ?_)⟩
        · rw [hlen, List.length_append, List.length_singleton, List.length_cons]
          omega
        · rw [bitsValue_push hb8 hinlt, ← hb, bitsValue_shiftIn hin]
      · rw [if_neg hbyte]
        obtain ⟨output', accumulator', bits', hok, hbits', hacc', hlen, hval⟩ := @ih vs hvs
          _ _ output (Nat.lt_of_not_le hbyte) hinlt (by omega)
        refine ⟨output', accumulator', bits', hok, hbits', hacc', ?_, hval.trans (hvalue _ ?_)⟩
        · rw [hlen, List.length_cons]
          omega
        · rw [bitsValue_shiftIn hin]

/-- The loop goes through only for a text of the alphabet. -/
theorem exists_values_of_decodeBase64url {text : List UInt8} {accumulator : UInt32} {bits : ℕ}
    {output : List UInt8} {result : List UInt8 × UInt32}
    (h : decodeBase64url text accumulator bits output = some result) :
    ∃ vs : List UInt32, text.map base64urlValue = vs.map some := by
  induction text generalizing accumulator bits output with
  | nil => exact ⟨[], rfl⟩
  | cons character text ih =>
      rw [decodeBase64url] at h
      rcases hv : base64urlValue character with _ | v
      · rw [hv] at h
        cases h
      · rw [hv] at h
        simp only at h
        have hrest : ∃ vs : List UInt32, text.map base64urlValue = vs.map some := by
          split at h
          · split at h
            · cases h
            · exact ih h
          · exact ih h
        obtain ⟨vs, hvs⟩ := hrest
        exact ⟨v :: vs, by rw [List.map_cons, List.map_cons, hv, hvs]⟩

/-! ## The text -/

/-- A text of 43 characters decodes to a hash, with nothing left over, exactly if it encodes it. -/
theorem decodeBase64url_eq_some_iff {text : List UInt8} (hlength : text.length = 43) (hash : Hash) :
    decodeBase64url text 0 0 [] = some (hash.data, 0) ↔ text = base64urlEncode hash := by
  constructor
  · intro h
    obtain ⟨vs, hvs⟩ := exists_values_of_decodeBase64url h
    obtain ⟨output, accumulator, bits, hok, hbits, hacc, hlen, hval⟩ :=
      @decodeBase64url_eq _ _ hvs 0 0 [] (by omega) (by decide) (by simp [hlength])
    obtain ⟨rfl, rfl⟩ := Prod.mk.inj (Option.some.inj (h.symm.trans hok))
    have hbits : bits = 2 := by
      rw [hash.size, hlength, List.length_nil] at hlen
      omega
    have hvlength : (vs.map UInt32.toNat).length = 43 := by
      rw [List.length_map, ← List.length_map (f := some), ← hvs, List.length_map, hlength]
    have hvlt : ∀ a ∈ vs.map UInt32.toNat, a < 64 := by
      intro a ha
      obtain ⟨v, hv, rfl⟩ := List.mem_map.mp ha
      have hmem : some v ∈ text.map base64urlValue := hvs ▸ List.mem_map.mpr ⟨v, hv, rfl⟩
      obtain ⟨character, -, hcharacter⟩ := List.mem_map.mp hmem
      exact (eq_char_of_base64urlValue hcharacter).1
    have hvalue : value 64 (vs.map UInt32.toNat)
        = value 256 (hash.data.map UInt8.toNat) * 2 ^ 2 := by
      rw [hbits, bitsValue, bitsValue, List.map_nil, value_nil, UInt32.toNat_zero, Nat.zero_mul,
        Nat.add_zero, Nat.zero_mul, Nat.zero_add] at hval
      exact hval.symm
    have htext : text = (vs.map UInt32.toNat).map base64urlChar := by
      have hchars : ∀ {text : List UInt8} {vs : List UInt32},
          text.map base64urlValue = vs.map some →
            text = (vs.map UInt32.toNat).map base64urlChar := by
        intro text
        induction text with
        | nil =>
            intro vs h
            obtain rfl : vs = [] := List.map_eq_nil_iff.mp h.symm
            rfl
        | cons character text ih =>
            intro vs h
            rcases vs with _ | ⟨v, vs⟩
            · cases h
            · obtain ⟨hv, hrest⟩ := List.cons.inj h
              exact congrArg₂ List.cons (eq_char_of_base64urlValue hv).2 (ih hrest)
      exact hchars hvs
    have hplaces := places_value (B := 64) (by omega) hvlt
    rw [hvlength, hvalue] at hplaces
    rw [htext, base64urlEncode, hplaces]
  · intro htext
    have hlt := places_lt (B := 64) (by omega) 43 (value 256 (hash.data.map UInt8.toNat) * 2 ^ 2)
    have hvs : text.map base64urlValue
        = ((places 64 43 (value 256 (hash.data.map UInt8.toNat) * 2 ^ 2)).map
          Nat.toUInt32).map some := by
      rw [htext, base64urlEncode, List.map_map, List.map_map]
      exact List.map_congr_left fun i hi => base64urlValue_char (hlt i hi)
    obtain ⟨output, accumulator, bits, hok, hbits, hacc, hlen, hval⟩ :=
      @decodeBase64url_eq _ _ hvs 0 0 [] (by omega) (by decide) (by simp [hlength])
    rw [hlength, List.length_nil] at hlen
    obtain rfl : bits = 2 := by omega
    have hsize : (output.map UInt8.toNat).length = (hash.data.map UInt8.toNat).length := by
      rw [List.length_map, List.length_map, hash.size]
      omega
    have hback : ((places 64 43 (value 256 (hash.data.map UInt8.toNat) * 2 ^ 2)).map
        Nat.toUInt32).map UInt32.toNat
          = places 64 43 (value 256 (hash.data.map UInt8.toNat) * 2 ^ 2) := by
      rw [List.map_map]
      refine (List.map_congr_left fun i hi => ?_).trans (List.map_id _)
      exact UInt32.toNat_ofNat_of_lt' ((hlt i hi).trans (by decide))
    rw [hback, value_places, Nat.mod_eq_of_lt (value_hash_lt hash), bitsValue, bitsValue,
      List.map_nil,
      value_nil, UInt32.toNat_zero, Nat.zero_mul, Nat.add_zero, Nat.zero_mul, Nat.zero_add] at hval
    have hacc0 : accumulator.toNat = 0 := by omega
    have hvalue : value 256 (output.map UInt8.toNat) = value 256 (hash.data.map UInt8.toNat) := by
      omega
    have hbytes := eq_of_value_eq (by omega) hsize (bytes_lt output) (bytes_lt hash.data) hvalue
    have houtput : output = hash.data :=
      List.map_injective_iff.mpr (fun a b => UInt8.toNat_inj.mp) hbytes
    rw [hok, houtput, UInt32.toNat_inj.mp (hacc0.trans UInt32.toNat_zero.symm)]

/-! ## The result data -/

theorem length_agencArtifactResultPrefix : agencArtifactResultPrefix.length = 16 := by decide

theorem zero_notMem_agencArtifactResultPrefix : 0 ∉ agencArtifactResultPrefix := by decide

/-- Where the text of a buffer ends, a zero follows. -/
theorem getElem?_length_takeWhile {bytes : List UInt8}
    (h : (bytes.takeWhile (· ≠ 0)).length < bytes.length) :
    bytes[(bytes.takeWhile (· ≠ 0)).length]? = some 0 := by
  have hsplit := List.takeWhile_append_dropWhile (p := fun b : UInt8 => decide (b ≠ 0)) (l := bytes)
  have hne : bytes.dropWhile (fun b => decide (b ≠ 0)) ≠ [] := fun hnil => by
    rw [hnil, List.append_nil] at hsplit
    rw [hsplit] at h
    omega
  obtain ⟨b, rest, hrest⟩ := List.exists_cons_of_ne_nil hne
  have hb := List.head_dropWhile_not (fun b : UInt8 => decide (b ≠ 0)) hne
  simp only [hrest, List.head_cons, decide_eq_false_iff_not, not_not] at hb
  nth_rewrite 1 [← hsplit]
  rw [List.getElem?_append_right le_rfl, Nat.sub_self, hrest, hb]
  rfl

/-- A text and a zero give the text back. -/
theorem takeWhile_append_zero {text rest : List UInt8} (h : 0 ∉ text) :
    (text ++ 0 :: rest).takeWhile (· ≠ 0) = text := by
  rw [List.takeWhile_append_of_pos fun b hb => by simpa using ne_of_mem_of_not_mem hb h]
  simp

/-- Decoding in its own words: the text behind the prefix decodes with nothing left over. -/
theorem decodeArtifactResultHash_eq_some {resultData : List UInt8} {hash : Hash} :
    decodeArtifactResultHash resultData = some hash ↔
      resultData.take 16 = agencArtifactResultPrefix ∧
        (resultData.takeWhile (· ≠ 0)).length = 59 ∧
        decodeBase64url ((resultData.takeWhile (· ≠ 0)).drop 16) 0 0 [] = some (hash.data, 0) := by
  unfold decodeArtifactResultHash
  by_cases hmagic : resultData.take 16 = agencArtifactResultPrefix
  · rw [if_neg (not_not.mpr hmagic), and_iff_right hmagic]
    by_cases hlen : (resultData.takeWhile (· ≠ 0)).length = 59
    · rw [and_iff_right hlen]
      refine Iff.trans (Eq.congr_left (if_neg (not_not.mpr hlen))) ?_
      generalize decodeBase64url ((resultData.takeWhile (· ≠ 0)).drop 16) 0 0 [] = decoded
      rcases decoded with _ | ⟨output, rest⟩
      · simp
      · simp only [Option.some.injEq, Prod.mk.injEq]
        constructor
        · intro h
          split at h
          · split at h
            · obtain rfl := Option.some.inj h
              exact ⟨rfl, ‹rest = 0›⟩
            · cases h
          · cases h
        · rintro ⟨rfl, rfl⟩
          rw [dif_pos hash.size]
          exact if_pos rfl
    · refine Iff.trans (Eq.congr_left (if_pos hlen)) ?_
      exact iff_of_false (fun h => by cases h) fun h => hlen h.1
  · rw [if_pos hmagic]
    exact iff_of_false (fun h => by cases h) fun h => hmagic h.1

/-- **Which result data names which artifact.** -/
theorem decodeArtifactResultHash_iff {resultData : List UInt8} (hlength : resultData.length = 64)
    (hash : Hash) :
    decodeArtifactResultHash resultData = some hash ↔
      resultData.take 59 = agencArtifactResultPrefix ++ base64urlEncode hash ∧
        resultData[59]? = some 0 := by
  rw [decodeArtifactResultHash_eq_some]
  constructor
  · rintro ⟨hmagic, hlen, hdecode⟩
    have htext : resultData.takeWhile (· ≠ 0) = resultData.take 59 := by
      rw [← hlen]
      exact List.prefix_iff_eq_take.mp (List.takeWhile_prefix _)
    have hzero := @getElem?_length_takeWhile resultData (by omega)
    rw [hlen] at hzero
    refine ⟨?_, hzero⟩
    rw [decodeBase64url_eq_some_iff (by rw [List.length_drop, hlen])] at hdecode
    have hsplit := List.take_append_drop 16 (resultData.take 59)
    rw [List.take_take] at hsplit
    rw [← hdecode, ← hmagic, htext]
    exact hsplit.symm
  · rintro ⟨htake, hzero⟩
    obtain ⟨hlt, hget⟩ := List.getElem?_eq_some_iff.mp hzero
    have hnotMem : 0 ∉ agencArtifactResultPrefix ++ base64urlEncode hash := fun h =>
      (List.mem_append.mp h).elim zero_notMem_agencArtifactResultPrefix
        (zero_notMem_base64urlEncode hash)
    have hsplit : resultData = (agencArtifactResultPrefix ++ base64urlEncode hash)
        ++ 0 :: resultData.drop 60 := by
      rw [← htake, ← hget, ← List.drop_eq_getElem_cons hlt, List.take_append_drop]
    have htext : resultData.takeWhile (· ≠ 0)
        = agencArtifactResultPrefix ++ base64urlEncode hash := by
      rw [hsplit, takeWhile_append_zero hnotMem]
    rw [htext, List.drop_left' length_agencArtifactResultPrefix,
      decodeBase64url_eq_some_iff (length_base64urlEncode hash), List.length_append,
      length_agencArtifactResultPrefix, length_base64urlEncode]
    refine ⟨?_, rfl, rfl⟩
    rw [hsplit, List.append_assoc, List.take_left' length_agencArtifactResultPrefix]

/-- The result data that names an artifact: the prefix, the encoding, a zero and four bytes more. -/
def artifactResultData (hash : Hash) (rest : List UInt8) : List UInt8 :=
  agencArtifactResultPrefix ++ base64urlEncode hash ++ 0 :: rest

/-- **Artifact hashes are decoded canonically**: a hash comes from its encoding between the prefix
and a zero, and from nothing else; decoding undoes encoding, and different texts decode to different
hashes. -/
theorem decodeArtifactResultHash_canonical (resultData : List UInt8)
    (hlength : resultData.length = 64) :
    (∀ hash, decodeArtifactResultHash resultData = some hash ↔
      resultData.take 59 = agencArtifactResultPrefix ++ base64urlEncode hash ∧
        resultData[59]? = some 0) ∧
      (∀ hash rest, rest.length = 4 →
        decodeArtifactResultHash (artifactResultData hash rest) = some hash) ∧
      ∀ text text' rest rest' : List UInt8, text.length = 43 → text'.length = 43 →
        rest.length = 4 → rest'.length = 4 → ∀ hash,
          decodeArtifactResultHash (agencArtifactResultPrefix ++ text ++ 0 :: rest) = some hash →
          decodeArtifactResultHash (agencArtifactResultPrefix ++ text' ++ 0 :: rest') = some hash →
          text = text' := by
  have hdata : ∀ {text rest : List UInt8}, text.length = 43 → rest.length = 4 →
      (agencArtifactResultPrefix ++ text ++ 0 :: rest).length = 64 ∧
        (agencArtifactResultPrefix ++ text ++ 0 :: rest).take 59
          = agencArtifactResultPrefix ++ text ∧
        (agencArtifactResultPrefix ++ text ++ 0 :: rest)[59]? = some 0 := by
    intro text rest htext hrest
    have hlen : (agencArtifactResultPrefix ++ text).length = 59 := by
      rw [List.length_append, htext, length_agencArtifactResultPrefix]
    refine ⟨?_, List.take_left' hlen, ?_⟩
    · rw [List.length_append, hlen, List.length_cons, hrest]
    · rw [List.getElem?_append_right hlen.le, hlen]
      rfl
  have hunique : ∀ {text rest : List UInt8} {hash : Hash}, text.length = 43 → rest.length = 4 →
      decodeArtifactResultHash (agencArtifactResultPrefix ++ text ++ 0 :: rest) = some hash →
      text = base64urlEncode hash := by
    intro text rest hash htext hrest h
    obtain ⟨hlen, htake, -⟩ := hdata htext hrest
    rw [decodeArtifactResultHash_iff hlen, htake] at h
    exact List.append_cancel_left h.1
  refine ⟨decodeArtifactResultHash_iff hlength, fun hash rest hrest => ?_, ?_⟩
  · obtain ⟨hlen, htake, hzero⟩ := hdata (length_base64urlEncode hash) hrest
    exact (decodeArtifactResultHash_iff hlen hash).mpr ⟨htake, hzero⟩
  · intro text text' rest rest' htext htext' hrest hrest' hash h h'
    rw [hunique htext hrest h, hunique htext' hrest' h']

/-- The theorem on the result data of the zero hash. -/
theorem decodeArtifactResultHash_canonical_zero :
    (∀ hash, decodeArtifactResultHash (artifactResultData (Block.zero 32) [0, 0, 0, 0])
        = some hash ↔
      (artifactResultData (Block.zero 32) [0, 0, 0, 0]).take 59
          = agencArtifactResultPrefix ++ base64urlEncode hash ∧
        (artifactResultData (Block.zero 32) [0, 0, 0, 0])[59]? = some 0) ∧
      (∀ hash rest, rest.length = 4 →
        decodeArtifactResultHash (artifactResultData hash rest) = some hash) ∧
      ∀ text text' rest rest' : List UInt8, text.length = 43 → text'.length = 43 →
        rest.length = 4 → rest'.length = 4 → ∀ hash,
          decodeArtifactResultHash (agencArtifactResultPrefix ++ text ++ 0 :: rest) = some hash →
          decodeArtifactResultHash (agencArtifactResultPrefix ++ text' ++ 0 :: rest') = some hash →
          text = text' :=
  decodeArtifactResultHash_canonical _ (by decide)

/-! ## Submitted results -/

/-- A result as it is read: 64 bytes, if there are any, and the artifact that they name. -/
structure AgencSubmitTaskResultInfo.Read (info : AgencSubmitTaskResultInfo) : Prop where
  artifactHash : info.artifactHash
    = info.resultData.bind fun resultData => decodeArtifactResultHash resultData.val
  length : ∀ resultData, info.resultData = some resultData → resultData.val.length = 64

section

variable {instruction instruction' : Instruction} {header header' : MessageHeader}

theorem ensures_parseOptionalResultData :
    Ensures (fun _ => True) parseOptionalResultData fun resultData _ =>
      ∀ data, resultData = some data → data.val.length = 64 := by
  have hfixed : Ensures (fun _ => True) (parseFixedBytes 64)
      fun data _ => data.val.length = 64 := by
    intro p data p' _ h
    obtain ⟨u, p₁, -, h⟩ := (Result.step_seq_ok_iff _ _ _ _).mp h
    obtain ⟨hle, hr⟩ := advance_ok_iff.mp h
    cases hr
    exact List.length_take_of_le hle
  refine Ensures.any.seq fun option => ?_
  cases option with
  | false =>
      refine .pure fun _ _ data h => ?_
      cases h
  | true =>
      refine hfixed.seq fun data => .pure fun _ hlength data' h => ?_
      obtain rfl := Option.some.inj h
      exact hlength

theorem ensures_parseSubmitTaskResult :
    Ensures (fun _ => True) (parseSubmitTaskResult instruction header) fun info _ => info.Read := by
  refine Ensures.any.seq fun _ => ?_
  refine Ensures.any.seq fun _ => ?_
  refine Ensures.any.seq fun _ => ?_
  refine Ensures.any.seq fun _ => ?_
  refine Ensures.any.seq fun _ => ?_
  refine Ensures.any.seq fun _ => ?_
  refine Ensures.any.seq fun _ => ?_
  refine Ensures.any.seq fun _ => ?_
  refine Ensures.any.seq fun _ => ?_
  refine Ensures.any.seq fun _ => ?_
  exact ensures_parseOptionalResultData.seq fun _ => .pure fun _ hlength => ⟨rfl, hlength⟩

theorem ensures_parseAgencBody (discriminator : List UInt8) :
    Ensures (fun _ => True) (parseAgencBody instruction header discriminator) fun body _ =>
      ∀ info, body = .submitTaskResult info → info.Read := by
  have hother : ∀ {α : Type} {parse : ParseM α} {body : α → AgencBody},
      (∀ a info, body a ≠ .submitTaskResult info) →
      Ensures (fun _ => True) (do return body (← parse)) fun body _ =>
        ∀ info, body = .submitTaskResult info → info.Read := fun hne =>
    Ensures.any.seq fun a => .pure fun _ _ info h => absurd h (hne a info)
  unfold parseAgencBody
  split
  · exact hother fun _ _ h => by cases h
  split
  · exact hother fun _ _ h => by cases h
  split
  · exact hother fun _ _ h => by cases h
  split
  · exact hother fun _ _ h => by cases h
  split
  · exact hother fun _ _ h => by cases h
  split
  · refine ensures_parseSubmitTaskResult.seq fun info => .pure fun _ hread info' h => ?_
    cases h
    exact hread
  split
  · exact hother fun _ _ h => by cases h
  split
  · exact hother fun _ _ h => by cases h
  split
  · exact hother fun _ _ h => by cases h
  split
  · exact hother fun _ _ h => by cases h
  · exact .throw

/-- An accepted result is read. -/
theorem read_of_parseAgencInstructions {programId : Ptr Pubkey} {info : AgencSubmitTaskResultInfo}
    (h : parseAgencInstructions instruction header = .ok ⟨programId, .submitTaskResult info⟩) :
    info.Read := by
  unfold parseAgencInstructions at h
  obtain ⟨key, -, h⟩ := (Result.seq_ok_iff _ _ _).mp h
  obtain ⟨u, -, h⟩ := (Result.seq_ok_iff _ _ _).mp h
  obtain ⟨⟨body, p⟩, hbody, h⟩ := (Result.seq_ok_iff _ _ _).mp h
  obtain ⟨u', -, h⟩ := (Result.seq_ok_iff _ _ _).mp h
  cases h
  have hparse : Ensures (fun _ => True) (parseFixedBytes 8 >>= fun discriminator =>
      parseAgencBody instruction header discriminator.val) fun body _ =>
        ∀ info, body = .submitTaskResult info → info.Read :=
    Ensures.any.seq fun discriminator => ensures_parseAgencBody discriminator.val
  exact hparse _ _ _ trivial hbody info rfl

/-! ## Results that name artifacts -/

/-- **Results that name artifacts are equal** exactly if the artifacts are, and the four bytes
behind the texts, which nothing looks at. -/
theorem AgencSubmitTaskResultInfo.Read.eq_iff {info info' : AgencSubmitTaskResultInfo}
    (h : info.Read) (h' : info'.Read) (hsome : info.artifactHash.isSome = true)
    (hsome' : info'.artifactHash.isSome = true) :
    ∃ resultData resultData', info.resultData = some resultData ∧
      info'.resultData = some resultData' ∧
      (resultData.val = resultData'.val ↔ info.artifactHash = info'.artifactHash ∧
        resultData.val.drop 60 = resultData'.val.drop 60) := by
  obtain ⟨hash, hhash⟩ := Option.isSome_iff_exists.mp hsome
  obtain ⟨hash', hhash'⟩ := Option.isSome_iff_exists.mp hsome'
  obtain ⟨resultData, hdata, hdecode⟩ :=
    Option.bind_eq_some_iff.mp (h.artifactHash.symm.trans hhash)
  obtain ⟨resultData', hdata', hdecode'⟩ :=
    Option.bind_eq_some_iff.mp (h'.artifactHash.symm.trans hhash')
  refine ⟨resultData, resultData', hdata, hdata', fun heq => ⟨?_, by rw [heq]⟩, ?_⟩
  · rw [hhash, hhash', ← hdecode, heq, hdecode']
  rintro ⟨hsame, htail⟩
  obtain rfl : hash = hash' := Option.some.inj (hhash.symm.trans (hsame.trans hhash'))
  have hlength := h.length resultData hdata
  have hlength' := h'.length resultData' hdata'
  obtain ⟨htake, hzero⟩ := (decodeArtifactResultHash_iff hlength hash).mp hdecode
  obtain ⟨htake', hzero'⟩ := (decodeArtifactResultHash_iff hlength' hash).mp hdecode'
  have hsplit : ∀ {bytes : List UInt8}, bytes[59]? = some 0 →
      bytes = bytes.take 59 ++ 0 :: bytes.drop 60 := by
    intro bytes hbytes
    obtain ⟨hlt, hget⟩ := List.getElem?_eq_some_iff.mp hbytes
    rw [← hget, ← List.drop_eq_getElem_cons hlt, List.take_append_drop]
  rw [hsplit hzero, hsplit hzero', htake, htake', htail]

end

end AgencLedger
