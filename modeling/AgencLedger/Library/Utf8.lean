import Mathlib.Data.List.Basic
import Mathlib.Tactic.Common

/-!
# Library/Utf8 — the UTF-8 encoding of a character, by its bytes

`String.utf8EncodeChar` encodes a character, which is a Unicode scalar value, in one to four bytes.
Here its bytes are related to the character by arithmetic only, so that a validator that tests bytes
by ranges or by masks can be compared with it.
-/

/-- **The bytes that encode a number**, in the one of the four forms that its size calls for. -/
inductive Utf8Encodes (v : ℕ) : List UInt8 → Prop
  | one {a : UInt8} (hv : v < 0x80) (ha : a.toNat = v) : Utf8Encodes v [a]
  | two {a b : UInt8} (hle : 0x80 ≤ v) (hlt : v < 0x800) (ha : a.toNat = 0xc0 + v / 64)
      (hb : b.toNat = 0x80 + v % 64) : Utf8Encodes v [a, b]
  | three {a b c : UInt8} (hle : 0x800 ≤ v) (hlt : v < 0x10000) (ha : a.toNat = 0xe0 + v / 4096)
      (hb : b.toNat = 0x80 + v / 64 % 64) (hc : c.toNat = 0x80 + v % 64) : Utf8Encodes v [a, b, c]
  | four {a b c d : UInt8} (hle : 0x10000 ≤ v) (hlt : v < 0x110000)
      (ha : a.toNat = 0xf0 + v / 262144) (hb : b.toNat = 0x80 + v / 4096 % 64)
      (hc : c.toNat = 0x80 + v / 64 % 64) (hd : d.toNat = 0x80 + v % 64) :
      Utf8Encodes v [a, b, c, d]

namespace Utf8Encodes

/-- A number has one encoding. -/
theorem unique {v : ℕ} {bytes bytes' : List UInt8} (h : Utf8Encodes v bytes)
    (h' : Utf8Encodes v bytes') : bytes = bytes' := by
  rcases h with ⟨hv, ha⟩ | ⟨hle, hlt, ha, hb⟩ | ⟨hle, hlt, ha, hb, hc⟩ | ⟨hle, hlt, ha, hb, hc, hd⟩
    <;> rcases h' with ⟨hv', ha'⟩ | ⟨hle', hlt', ha', hb'⟩ | ⟨hle', hlt', ha', hb', hc'⟩ |
      ⟨hle', hlt', ha', hb', hc', hd'⟩
    <;> first
      | omega
      | simp only [List.cons.injEq, and_true, ← UInt8.toNat_inj, *]

/-- An encoding has at least one byte. -/
theorem ne_nil {v : ℕ} {bytes : List UInt8} (h : Utf8Encodes v bytes) : bytes ≠ [] := by
  rintro rfl
  cases h

end Utf8Encodes

theorem Char.toNat_lt_limit (c : Char) : c.toNat < 0x110000 := by
  rcases c.valid with h | ⟨-, h⟩
  · exact Nat.lt_trans h (by decide)
  · exact h

/-- **The encoding of a character** is that of its number. -/
theorem utf8Encodes_utf8EncodeChar (c : Char) : Utf8Encodes c.toNat (String.utf8EncodeChar c) := by
  have hlimit : c.val.toNat < 0x110000 := c.toNat_lt_limit
  have htoNat : c.toNat = c.val.toNat := rfl
  rw [htoNat]
  simp only [String.utf8EncodeChar]
  split_ifs with h₁ h₂ h₃
  · exact .one (by omega) (by rw [UInt8.toNat_ofNat']; omega)
  · exact .two (by omega) (by omega) (by rw [UInt8.toNat_ofNat']; omega)
      (by rw [UInt8.toNat_ofNat']; omega)
  · exact .three (by omega) (by omega) (by rw [UInt8.toNat_ofNat']; omega)
      (by rw [UInt8.toNat_ofNat']; omega) (by rw [UInt8.toNat_ofNat']; omega)
  · exact .four (by omega) hlimit (by rw [UInt8.toNat_ofNat']; omega)
      (by rw [UInt8.toNat_ofNat']; omega) (by rw [UInt8.toNat_ofNat']; omega)
      (by rw [UInt8.toNat_ofNat']; omega)

/-- **A scalar value's encoding is that of a character.** -/
theorem Utf8Encodes.exists_char {v : ℕ} {bytes : List UInt8} (h : Utf8Encodes v bytes)
    (hscalar : v.isValidChar) : ∃ c : Char, c.toNat = v ∧ String.utf8EncodeChar c = bytes := by
  have hc : (Char.ofNat v).toNat = v := by
    rw [Char.ofNat, dif_pos hscalar]
    rfl
  refine ⟨Char.ofNat v, hc, ?_⟩
  refine (utf8Encodes_utf8EncodeChar (Char.ofNat v)).unique ?_
  rwa [hc]
