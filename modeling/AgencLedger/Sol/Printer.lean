import AgencLedger.Sol.Parser
import Mathlib.Data.List.TakeWhile

/-!
# Sol/Printer — text buffers and the print functions

A print function stores characters from `out[0]` on.  A call is a `Printed`: what it has stored
when it returns, and its return code.  The buffer afterwards is `overlay`ed with that, so what an
earlier call left behind the new text is still there.

A C string is a `CString`, a list of characters without `NUL`; the text of a buffer is what stands
before its first `NUL`.
-/

namespace AgencLedger

/-! ## Characters and buffers -/

/-- `'\0'`. -/
def nul : Char := Char.ofNat 0

/-- `'0' + d`. -/
def digitChar (d : ℕ) : Char := Char.ofNat (48 + d)

/-- A byte of the message, read as a `char`. -/
def charOfByte (b : UInt8) : Char := Char.ofNat b.toNat

/-- A buffer after its first cells are overwritten. -/
def overlay {α : Type} (new old : List α) : List α := new ++ old.drop new.length

/-- The C string that starts at `out[0]`. -/
def textOf (buffer : List Char) : List Char := buffer.takeWhile (· ≠ nul)

/-- A NUL-terminated string. -/
structure CString where
  chars : List Char
  noNul : nul ∉ chars
  deriving DecidableEq

namespace CString

/-- A string literal. -/
def lit (s : String) (h : nul ∉ s.toList := by decide) : CString := ⟨s.toList, h⟩

/-- The C string in a buffer. -/
def ofBuffer (buffer : List Char) : CString :=
  ⟨textOf buffer, fun h => by simpa using List.mem_takeWhile_imp h⟩

@[simp] theorem lit_chars (s : String) (h : nul ∉ s.toList) : (lit s h).chars = s.toList := rfl

end CString

@[simp] theorem textOf_append_nul {l m : List Char} (h : nul ∉ l) : textOf (l ++ nul :: m) = l := by
  unfold textOf
  rw [List.takeWhile_append_of_pos fun c hc => by simpa using ne_of_mem_of_not_mem hc h]
  simp

@[simp] theorem textOf_overlay_append_nul {l m buffer : List Char} (h : nul ∉ l) :
    textOf (overlay (l ++ nul :: m) buffer) = l := by
  rw [overlay, List.append_assoc, List.cons_append, textOf_append_nul h]

/-- What a print call leaves: the characters stored from `out[0]` on, and the return code. -/
structure Printed where
  written : List Char
  ret : Result Unit
  deriving DecidableEq

/-! ## Strings -/

/-- `strncpy(out, src, n)`: it stops at the source's `NUL` and fills up with `NUL`s. -/
def strncpy (src : List Char) (n : ℕ) : List Char :=
  let copied := (src.take n).takeWhile (· ≠ nul)
  copied ++ List.replicate (n - copied.length) nul

/-- The truncation mark: `out[n - 1] = '\0'; out[n - 2] = '~'`, the second one only if it exists. -/
def truncated (out : List Char) (n : ℕ) : List Char :=
  if n = 1 then [nul] else out.take (n - 2) ++ ['~', nul]

/-- `print_string`. -/
def printString (input : List Char) (outLength : ℕ) : Printed :=
  if outLength = 0 then ⟨[], .error .outOfBounds⟩
  else if input.length < outLength then ⟨strncpy input outLength, .ok ()⟩
  else ⟨truncated (strncpy input outLength) outLength, .error .bail⟩

/-- `print_sized_string`. -/
def printSizedString (string : SizedString) (outLength : ℕ) : Printed :=
  let out := strncpy (string.string.val.map charOfByte) (min outLength string.length.toNat)
  if string.length.toNat < outLength then ⟨out ++ [nul], .ok ()⟩
  else if outLength = 0 then ⟨[], .error .outOfBounds⟩
  else ⟨truncated out outLength, .error .bail⟩

/-- `print_summary`: the two ends of a long string, with `..` between. -/
def printSummary (input : List Char) (outLength leftLength rightLength : ℕ) : Printed :=
  if outLength ≤ leftLength + rightLength + 2 then ⟨[], .error .bail⟩
  else if input.length + 1 > outLength then
    ⟨input.take leftLength ++ ['.', '.'] ++ input.drop (input.length - rightLength) ++ [nul],
      .ok ()⟩
  else ⟨(printString input outLength).written, .ok ()⟩

/-! ## Numbers -/

/-- The `do … while` of `print_u64`: digits from the last one on, at `out[0 .. i-1]`. -/
def printU64Loop (outLength : ℕ) : ℕ → ℕ → List Char → List Char
  | 0, _, out => out
  | fuel + 1, dVal, out =>
      let out := out ++ [digitChar (dVal % 10)]
      if dVal / 10 > 0 ∧ out.length < outLength then printU64Loop outLength fuel (dVal / 10) out
      else out

/-- `print_u64`. -/
def printU64 (u64 : UInt64) (outLength : ℕ) : Printed :=
  if outLength > 2147483647 then ⟨[], .error .bail⟩
  else
    let out := if 1 < outLength then printU64Loop outLength outLength u64.toNat [] else []
    if out.length ≥ outLength then ⟨out, .error .bail⟩ else ⟨out.reverse ++ [nul], .ok ()⟩

/-- `print_i64`. -/
def printI64 (i64 : Int64) (outLength : ℕ) : Printed :=
  if outLength < 1 then ⟨[], .error .bail⟩
  else if i64 < 0 then
    let p := printU64 ((i64.toUInt64 ^^^ 0xffffffffffffffff) + 1) (outLength - 1)
    ⟨'-' :: p.written, p.ret⟩
  else printU64 i64.toUInt64 outLength

/-! ## Dates -/

/-- `DayOffset`. -/
def dayOffset : List UInt16 := [0, 306, 337, 0, 31, 61, 92, 122, 153, 184, 214, 245, 275]

/-- `rdn_to_ymd`: a day number to year, month and day, in 32-bit arithmetic. -/
def rdnToYmd (rdn : UInt32) : Result (UInt16 × UInt16 × UInt16) :=
  let z := rdn + 306
  let h := 100 * z - 25
  let a := h / 3652425
  let b := a - a >>> 2
  let y := (100 * b + h) / 36525
  let d := b + z - (1461 * y) >>> 2
  let m := (535 * d + 48950) >>> 14
  let (y, m) := if m > 12 then (y + 1, m - 12) else (y, m)
  let offset := dayOffset.getD m.toNat 0
  if y > 9999 ∨ m > 12 ∨ d > 31 + offset.toUInt32 then .error .bail
  else .ok (y.toUInt16, m.toUInt16, (d - offset.toUInt32).toUInt16)

/-- `EPOCH`: 1970-01-01, in seconds from the first day of the calendar. -/
def epoch : Int64 := 62135683200

/-- `n` decimal digits of a number. -/
def fixedDigits : ℕ → ℕ → List Char
  | 0, _ => []
  | n + 1, v => fixedDigits n (v / 10) ++ [digitChar (v % 10)]

/-- `rfc3339_format`: `YYYY-MM-DD hh:mm:ss`. -/
def rfc3339Format (len : ℕ) (seconds : Int64) : Printed :=
  if 19 ≥ len then ⟨[], .error .bail⟩
  else
    let sec := (seconds + epoch).toUInt64
    match rdnToYmd (sec / 86400).toUInt32 with
    | .error e => ⟨[], .error e⟩
    | .ok (y, m, d) =>
        let v := (sec % 86400).toNat
        ⟨fixedDigits 4 y.toNat ++ ['-'] ++ fixedDigits 2 m.toNat ++ ['-'] ++
          fixedDigits 2 d.toNat ++ [' '] ++
          [digitChar (v / 36000 % 10), digitChar (v / 3600 % 10), ':',
           digitChar (v / 600 % 6), digitChar (v / 60 % 10), ':',
           digitChar (v / 10 % 6), digitChar (v % 10), nul], .ok ()⟩

/-- `print_timestamp`. -/
def printTimestamp (timestamp : Int64) (outLength : ℕ) : Printed :=
  rfc3339Format outLength timestamp

example : textOf (rfc3339Format 20 0).written = "1970-01-01 00:00:00".toList := by decide

/-! ## Texts that fit -/

theorem strncpy_of_fits {input : List Char} {n : ℕ} (h : input.length < n) (hnul : nul ∉ input) :
    strncpy input n = input ++ nul :: List.replicate (n - input.length - 1) nul := by
  have htake : (input.take n).takeWhile (· ≠ nul) = input := by
    rw [List.take_of_length_le (Nat.le_of_lt h)]
    exact List.takeWhile_eq_self_iff.mpr fun c hc => by
      simpa using ne_of_mem_of_not_mem hc hnul
  simp only [strncpy, htake]
  obtain ⟨k, hk⟩ : ∃ k, n - input.length = k + 1 := ⟨n - input.length - 1, by omega⟩
  rw [hk, List.replicate_succ, Nat.add_sub_cancel]

/-- A string shorter than the buffer is copied whole. -/
theorem printString_of_fits {input : List Char} {n : ℕ} (h : input.length < n)
    (hnul : nul ∉ input) :
    (printString input n).ret = .ok () ∧
      ∀ buffer, textOf (overlay (printString input n).written buffer) = input := by
  rw [printString, if_neg (by omega), if_pos h]
  refine ⟨rfl, fun buffer => ?_⟩
  rw [strncpy_of_fits h hnul, textOf_overlay_append_nul hnul]

end AgencLedger
