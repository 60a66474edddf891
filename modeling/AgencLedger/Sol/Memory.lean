import Mathlib.Data.List.TakeDrop
import Mathlib.Tactic.Common

/-!
# Sol/Memory — return codes, fixed-size blocks and pointers

The C code reports failure by a non-zero return value, which `BAIL_IF` hands on to the caller; the
value itself is read nowhere.  A call is therefore an `Except` computation whose error is a
`Stop`: the ordinary non-zero code `bail`, or one of the ways a C program has no defined next
state.

Keys and hashes are `Block`s, byte lists that carry their size.  A pointer into the message is a
`Ptr`: the offset it holds, and what stands there.
-/

namespace AgencLedger

/-! ## Return codes -/

/-- Why a call does not return `0`. -/
inductive Stop
  /-- a non-zero return code -/
  | bail
  /-- a `NULL` summary item handed to a setter -/
  | nullItem
  /-- an access outside the array -/
  | outOfBounds
  /-- a loop that never ends -/
  | diverges
  deriving DecidableEq, Repr

/-- A call that returns `0` with a value, or stops. -/
abbrev Result := Except Stop

/-- `BAIL_IF(x)`. -/
def bailIf (c : Bool) : Result Unit := if c then .error .bail else .ok ()

@[simp] theorem bailIf_eq_ok {c : Bool} {u : Unit} : bailIf c = .ok u ↔ c = false := by
  cases c <;> simp [bailIf]

/-- **A sequence of calls returns exactly when each of them does.** -/
theorem Result.seq_ok_iff {α β : Type} (call : Result α) (next : α → Result β) (r : β) :
    (call >>= next) = .ok r ↔ ∃ a, call = .ok a ∧ next a = .ok r := by
  cases call with
  | error s => simp [bind, Except.bind]
  | ok a => simp [bind, Except.bind]

/-! ## Steps that move a state -/

section

variable {σ α β : Type}

/-- **Two steps in a row return exactly when each of them does.** -/
theorem Result.step_seq_ok_iff (step : StateT σ Result α) (next : α → StateT σ Result β) (s : σ)
    (r : β × σ) :
    (step >>= next) s = .ok r ↔ ∃ a s', step s = .ok (a, s') ∧ next a s' = .ok r := by
  constructor
  · intro h
    obtain ⟨⟨a, s'⟩, ha, hn⟩ := (Result.seq_ok_iff (step s) (fun q => next q.1 q.2) r).mp h
    exact ⟨a, s', ha, hn⟩
  · rintro ⟨a, s', ha, hn⟩
    exact (Result.seq_ok_iff (step s) (fun q => next q.1 q.2) r).mpr ⟨(a, s'), ha, hn⟩

@[simp] theorem Result.step_pure_ok_iff {a : α} {s : σ} {r : α × σ} :
    (pure a : StateT σ Result α) s = .ok r ↔ r = (a, s) :=
  ⟨fun h => by cases h; rfl, fun h => by rw [h]; rfl⟩

@[simp] theorem Result.step_throw_ne_ok {stop : Stop} {s : σ} {r : α × σ} :
    ¬(throw stop : StateT σ Result α) s = .ok r := fun h => by cases h

/-- A call among the steps leaves the state alone. -/
theorem Result.step_lift_ok_iff {call : Result α} {s : σ} {r : α × σ} :
    (liftM call : StateT σ Result α) s = .ok r ↔ call = .ok r.1 ∧ r.2 = s := by
  cases call with
  | error stop => exact ⟨fun h => (nomatch h), fun h => (nomatch h.1)⟩
  | ok a =>
      constructor
      · intro h
        cases h
        exact ⟨rfl, rfl⟩
      · rintro ⟨h, rfl⟩
        cases h
        rfl

end

/-! ## Arrays -/

/-- An array read. -/
def readAt {α : Type} (l : List α) (i : ℕ) : Result α :=
  match l[i]? with
  | some a => .ok a
  | none => .error .outOfBounds

theorem readAt_eq_ok {α : Type} {l : List α} {i : ℕ} {a : α} :
    readAt l i = .ok a ↔ l[i]? = some a := by
  unfold readAt
  cases l[i]? <;> simp

theorem readAt_mem {α : Type} {l : List α} {i : ℕ} {a : α} (h : readAt l i = .ok a) : a ∈ l :=
  List.mem_of_getElem? (readAt_eq_ok.mp h)

/-! ## Blocks and pointers -/

/-- An array of `n` bytes. -/
structure Block (n : ℕ) where
  data : List UInt8
  size : data.length = n
  deriving DecidableEq

namespace Block

variable {n : ℕ}

@[ext] theorem ext {a b : Block n} (h : a.data = b.data) : a = b := by
  cases a
  cases b
  cases h
  rfl

/-- The first `n` bytes of a list, zeros where it is shorter. -/
def ofBytes (n : ℕ) (l : List UInt8) : Block n := ⟨l.takeD n 0, List.takeD_length n l 0⟩

/-- `explicit_bzero`. -/
def zero (n : ℕ) : Block n := ⟨List.replicate n 0, List.length_replicate⟩

theorem ofBytes_data {l : List UInt8} (h : n ≤ l.length) : (ofBytes n l).data = l.take n :=
  List.takeD_eq_take 0 h

theorem ofBytes_self (b : Block n) : ofBytes n b.data = b :=
  Block.ext (by
    rw [ofBytes_data (Nat.le_of_eq b.size.symm), List.take_of_length_le (Nat.le_of_eq b.size)])

end Block

/-- `Pubkey`: `PUBKEY_SIZE` bytes. -/
abbrev Pubkey := Block 32

/-- `Hash`: `HASH_SIZE` bytes. -/
abbrev Hash := Block 32

/-- `Blockhash`. -/
abbrev Blockhash := Hash

/-- A pointer into the message: the offset it holds and what stands there. -/
structure Ptr (α : Type) where
  addr : ℕ
  val : α
  deriving DecidableEq

/-- `pubkeys_equal` — the two keys behind the pointers have the same bytes. -/
def pubkeysEqual (pubkey1 pubkey2 : Ptr Pubkey) : Bool := pubkey1.val == pubkey2.val

@[simp] theorem pubkeysEqual_iff {a b : Ptr Pubkey} : pubkeysEqual a b = true ↔ a.val = b.val := by
  simp [pubkeysEqual]

end AgencLedger
