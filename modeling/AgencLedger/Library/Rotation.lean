import Mathlib.Data.List.Pairwise
import Mathlib.Data.Nat.ModEq

/-!
# Library/Rotation — values kept in a rotating array

Each value is written at its index, modulo the size of the array.  It stands there until a value of
another index falls on the same cell, so of neighbours no more than the array is long all stand.
-/

namespace Rotation

variable {α : Type*}

/-- The cell of an index. -/
def cell (size i : ℕ) : ℕ := i % size

/-- Write the values at their indices, one after the other. -/
def writeAll (cells : List α) : List (ℕ × α) → List α
  | [] => cells
  | (i, a) :: writes => writeAll (cells.set (cell cells.length i) a) writes

variable {cells : List α}

@[simp] theorem length_writeAll (writes : List (ℕ × α)) :
    (writeAll cells writes).length = cells.length := by
  induction writes generalizing cells with
  | nil => rfl
  | cons write writes ih => rw [writeAll, ih, List.length_set]

/-- **What falls on other cells leaves a cell alone.** -/
theorem getElem?_writeAll_of_forall_ne {writes : List (ℕ × α)} {c : ℕ}
    (h : ∀ write ∈ writes, cell cells.length write.1 ≠ c) :
    (writeAll cells writes)[c]? = cells[c]? := by
  induction writes generalizing cells with
  | nil => rfl
  | cons write writes ih =>
      rw [writeAll, ih fun w hw => by
        rw [List.length_set]
        exact h w (List.mem_cons_of_mem _ hw)]
      exact List.getElem?_set_ne (h write List.mem_cons_self)

/-- **Values on cells of their own all stand.** -/
theorem getElem?_writeAll {writes : List (ℕ × α)} (hpos : 0 < cells.length)
    (h : writes.Pairwise fun v w => cell cells.length v.1 ≠ cell cells.length w.1)
    {write : ℕ × α} (hmem : write ∈ writes) :
    (writeAll cells writes)[cell cells.length write.1]? = some write.2 := by
  induction writes generalizing cells with
  | nil => cases hmem
  | cons v writes ih =>
      obtain ⟨hv, hrest⟩ := List.pairwise_cons.mp h
      have hlength : (cells.set (cell cells.length v.1) v.2).length = cells.length :=
        List.length_set
      rcases List.mem_cons.mp hmem with rfl | hmem
      · rw [writeAll, getElem?_writeAll_of_forall_ne fun w hw => by
          rw [hlength]
          exact (hv w hw).symm]
        exact List.getElem?_set_self (Nat.mod_lt _ hpos)
      · rw [← hlength] at hpos hrest ⊢
        exact ih hpos hrest hmem

/-- **Neighbours have cells of their own**, as long as there are no more of them than cells. -/
theorem pairwise_cell_range' {size start count : ℕ} (h : count ≤ size) :
    (List.range' start count).Pairwise fun i j => cell size i ≠ cell size j := by
  refine List.Pairwise.imp_of_mem (fun {i j} hi hj hlt => ?_) List.pairwise_lt_range'
  rw [List.mem_range'_1] at hi hj
  intro hcell
  have hdvd : size ∣ j - i := (Nat.modEq_iff_dvd' hlt.le).mp hcell
  exact absurd (Nat.le_of_dvd (by omega) hdvd) (by omega)

end Rotation
