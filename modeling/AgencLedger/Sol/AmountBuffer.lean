import AgencLedger.Sol.Amount
import Mathlib.Algebra.Order.Field.Rat
import Mathlib.Tactic.FieldSimp

/-!
# Sol/AmountBuffer — `print_token_amount` cell by cell

The numeral is written backwards, turned around in place, and cut.  Here every cell of `out` is
read and stored on its own, and an access outside `out` stops the run; the texts of `Sol/Amount`
are what stands in the cells.
-/

namespace AgencLedger

/-! ## The code -/

/-- `out[i]`. -/
def readCell (out : List Char) (i : ℕ) : Result Char :=
  match out[i]? with
  | some c => .ok c
  | none => .error .outOfBounds

/-- `out[i] = c`. -/
def writeCell (out : List Char) (i : ℕ) (c : Char) : Result (List Char) :=
  if i < out.length then .ok (out.set i c) else .error .outOfBounds

/-- `memcpy(out + i, l, …)`. -/
def writeCells (out : List Char) (i : ℕ) : List Char → Result (List Char)
  | [] => .ok out
  | c :: l => do
      let out ← writeCell out i c
      writeCells out (i + 1) l

/-- The dot, at its place: `i` and `out`. -/
def dotCell (decimals i : ℕ) (out : List Char) : Result (ℕ × List Char) :=
  if i = decimals then do
    let out ← writeCell out i '.'
    if i + 1 ≥ out.length then .error .bail else .ok (i + 1, out)
  else .ok (i, out)

/-- The `do … while` of `print_token_amount`: `i` and `out`. -/
def digitCells (decimals : ℕ) : ℕ → ℕ → ℕ → List Char → Result (ℕ × List Char)
  | 0, _, _, _ => .error .diverges
  | fuel + 1, dVal, i, out => do
      let (i, out) ← dotCell decimals i out
      let out ← writeCell out i (digitChar (dVal % 10))
      if (dVal / 10 > 0 ∨ i + 1 < decimals + 1) ∧ i + 1 < out.length then
        digitCells decimals fuel (dVal / 10) (i + 1) out
      else .ok (i + 1, out)

/-- The loop that turns `out[j .. e-1]` around; `e` is `k + 1`. -/
def reverseCells : ℕ → ℕ → ℕ → List Char → Result (List Char)
  | 0, _, _, out => .ok out
  | fuel + 1, j, e, out =>
      if j + 1 < e then do
        let tmp ← readCell out j
        let c ← readCell out (e - 1)
        let out ← writeCell out j c
        let out ← writeCell out (e - 1) tmp
        reverseCells fuel (j + 1) (e - 1) out
      else .ok out

/-- The loop that passes the trailing zeros, down to `i = 0`. -/
def stripCells (out : List Char) : ℕ → Result ℕ
  | 0 => .ok 0
  | i + 1 => do
      let c ← readCell out (i + 1)
      if c ≠ '0' then return i + 1 else stripCells out i

/-- From the stripped text on: the asset, or the end of the string. -/
def assetCells (asset : Option CString) (i : ℕ) (out : List Char) : Result (List Char) :=
  match asset with
  | some asset =>
      if i + 1 + asset.chars.length + 1 > out.length then .error .bail
      else do
        let out ← writeCell out i ' '
        writeCells out (i + 1) (asset.chars ++ [nul])
  | none => writeCell out i nul

/-- From the numeral on: turned around, cut, and qualified. -/
def finishCells (asset : Option CString) (i : ℕ) (out : List Char) : Result (List Char) :=
  if i ≥ out.length then .error .bail
  else do
    let out ← reverseCells i 0 i out
    -- without a digit, `out[i - 1]` stands before `out`
    if i = 0 then .error .outOfBounds
    else do
      let last ← stripCells out (i - 1)
      let c ← readCell out last
      assetCells asset (if c = '.' then last else last + 1) out

/-- **`print_token_amount`**, on the cells of `out`. -/
def printTokenAmountCells (amount : UInt64) (asset : Option CString) (decimals : UInt8)
    (out : List Char) : Result (List Char) :=
  if out.length > 2147483647 then .error .bail
  else if 1 < out.length then do
    let (i, out) ← digitCells decimals.toNat out.length amount.toNat 0 out
    finishCells asset i out
  else finishCells asset 0 out

/-! ## Cells and texts -/

theorem Result.ok_bind {α β : Type} (a : α) (next : α → Result β) :
    ((.ok a : Result α) >>= next) = next a := rfl

theorem length_overlay {new old : List Char} (h : new.length ≤ old.length) :
    (overlay new old).length = old.length := by
  rw [overlay, List.length_append, List.length_drop]
  omega

theorem overlay_nil (old : List Char) : overlay [] old = old := rfl

/-- Storing the next cell. -/
theorem writeCell_overlay {new old : List Char} (h : new.length < old.length) (c : Char) :
    writeCell (overlay new old) new.length c = .ok (overlay (new ++ [c]) old) := by
  rw [writeCell, if_pos (by rwa [length_overlay (Nat.le_of_lt h)]), overlay, overlay,
    List.set_append_right _ _ (Nat.le_refl _), Nat.sub_self, List.drop_eq_getElem_cons h,
    List.set_cons_zero, List.append_assoc, List.length_append, List.length_singleton]
  rfl

/-- **The digit loop** stores what `tokenAmountLoop` collects. -/
theorem digitCells_eq {decimals : ℕ} {old : List Char} :
    ∀ {fuel dVal : ℕ} {new : List Char}, new.length < old.length →
      old.length ≤ fuel + new.length →
      digitCells decimals fuel dVal new.length (overlay new old) =
        match tokenAmountLoop old.length decimals fuel dVal new with
        | (new, true) => .ok (new.length, overlay new old)
        | (_, false) => .error .bail := by
  intro fuel
  induction fuel with
  | zero => exact fun {dVal new} hlt hfuel => absurd hfuel (by omega)
  | succ fuel ih =>
      intro dVal new hlt hfuel
      -- one digit, once the dot is stored
      have hdigit : ∀ {new : List Char}, new.length < old.length →
          old.length ≤ fuel + 1 + new.length →
          (do
            let out ← writeCell (overlay new old) new.length (digitChar (dVal % 10))
            if (dVal / 10 > 0 ∨ new.length + 1 < decimals + 1) ∧ new.length + 1 < out.length then
              digitCells decimals fuel (dVal / 10) (new.length + 1) out
            else .ok (new.length + 1, out) : Result (ℕ × List Char)) =
          match (if (dVal / 10 > 0 ∨ (new ++ [digitChar (dVal % 10)]).length < decimals + 1) ∧
              (new ++ [digitChar (dVal % 10)]).length < old.length then
            tokenAmountLoop old.length decimals fuel (dVal / 10) (new ++ [digitChar (dVal % 10)])
          else (new ++ [digitChar (dVal % 10)], true)) with
          | (new, true) => .ok (new.length, overlay new old)
          | (_, false) => .error .bail := by
        intro new hlt hfuel
        have hlen : (new ++ [digitChar (dVal % 10)]).length = new.length + 1 := by simp
        rw [writeCell_overlay hlt]
        change (if _ then _ else _ : Result (ℕ × List Char)) = _
        rw [length_overlay (by omega), hlen]
        split
        · rw [← hlen, ih (by omega) (by omega)]
        · simp only [hlen]
      rw [digitCells, tokenAmountLoop, dotCell]
      by_cases hdot : new.length = decimals
      · have hlen : (new ++ ['.']).length = new.length + 1 := by simp
        have hout : (overlay (new ++ ['.']) old).length = old.length := length_overlay (by omega)
        rw [if_pos hdot, if_pos hdot, writeCell_overlay hlt]
        rcases Nat.lt_or_ge (new.length + 1) old.length with hroom | hfull
        · have hnext := hdigit (show (new ++ ['.']).length < old.length by omega) (by omega)
          rw [if_neg (show ¬(new ++ ['.']).length ≥ old.length by omega), ← hnext, hlen]
          change (if _ then _ else _ : Result (ℕ × List Char)) >>= _ = _
          rw [hout, if_neg (by omega)]
          rfl
        · rw [if_pos (show (new ++ ['.']).length ≥ old.length by omega)]
          change (if _ then _ else _ : Result (ℕ × List Char)) >>= _ = _
          rw [hout, if_pos hfull]
          rfl
      · rw [if_neg hdot, if_neg hdot, if_neg (by omega)]
        exact hdigit hlt hfuel

theorem readCell_append {pre : List Char} {c : Char} {post : List Char} {i : ℕ}
    (h : i = pre.length) : readCell (pre ++ c :: post) i = .ok c := by
  rw [readCell, h, List.getElem?_append_right (Nat.le_refl _), Nat.sub_self,
    List.getElem?_cons_zero]

theorem writeCell_append {pre : List Char} {c : Char} {post : List Char} {i : ℕ}
    (h : i = pre.length) (c' : Char) :
    writeCell (pre ++ c :: post) i c' = .ok (pre ++ c' :: post) := by
  rw [writeCell, if_pos (by rw [h, List.length_append, List.length_cons]; omega), h,
    List.set_append_right _ _ (Nat.le_refl _), Nat.sub_self, List.set_cons_zero]

/-- **The loop in place** turns the cells between its two ends around. -/
theorem reverseCells_eq (mid : List Char) : ∀ (pre post : List Char) (fuel : ℕ),
    mid.length ≤ fuel →
    reverseCells fuel pre.length (pre.length + mid.length) (pre ++ mid ++ post) =
      .ok (pre ++ mid.reverse ++ post) := by
  induction mid using List.bidirectionalRec with
  | nil =>
      intro pre post fuel _
      cases fuel with
      | zero => rfl
      | succ fuel => exact if_neg (by simp)
  | singleton c =>
      intro pre post fuel _
      cases fuel with
      | zero => rfl
      | succ fuel => exact if_neg (by simp)
  | cons_append a mid b ih =>
      intro pre post fuel hfuel
      have hlen : (a :: (mid ++ [b])).length = mid.length + 2 := by simp
      rw [hlen] at hfuel ⊢
      obtain ⟨fuel, rfl⟩ : ∃ n, fuel = n + 1 := ⟨fuel - 1, by omega⟩
      have hfirst : pre ++ a :: (mid ++ [b]) ++ post = pre ++ a :: (mid ++ b :: post) := by simp
      have hlast : ∀ x : Char, pre ++ x :: (mid ++ b :: post) = (pre ++ x :: mid) ++ b :: post :=
        fun x => by simp
      have hend : pre.length + (mid.length + 2) - 1 = (pre ++ a :: mid).length := by simp
      have hend' : pre.length + (mid.length + 2) - 1 = (pre ++ b :: mid).length := by simp
      have hnext := ih (pre ++ [b]) (a :: post) fuel (by omega)
      rw [reverseCells, if_pos (by omega), hfirst, readCell_append rfl, hlast,
        Result.ok_bind, readCell_append hend, ← hlast, Result.ok_bind, writeCell_append rfl, hlast,
        Result.ok_bind, writeCell_append hend', Result.ok_bind]
      have hj : (pre ++ [b]).length = pre.length + 1 := by simp
      have he : pre.length + 1 + mid.length = pre.length + (mid.length + 2) - 1 := by omega
      rw [hj, he] at hnext
      simpa using hnext

theorem stripZeros_singleton (c : Char) : stripZeros [c] = [c] := by
  rw [stripZeros]
  intro d out h
  exact absurd (List.cons.inj h).2.symm (List.cons_ne_nil _ _)

theorem stripZeros_cons_of_ne {c : Char} (h : c ≠ '0') (text : List Char) :
    stripZeros (c :: text) = c :: text := by
  rw [stripZeros]
  intro d out heq
  exact absurd (List.cons.inj heq).1 h

/-- **The trailing zeros** are passed as in the text. -/
theorem stripCells_eq {text : List Char} (h : text ≠ []) (post : List Char) :
    stripCells (text.reverse ++ post) (text.length - 1) = .ok ((stripZeros text).length - 1) := by
  induction text generalizing post with
  | nil => exact absurd rfl h
  | cons c text ih =>
      obtain _ | ⟨d, text⟩ := text
      · rw [stripZeros_singleton]
        rfl
      · have hread : readCell ((c :: d :: text).reverse ++ post) (text.length + 1) = .ok c := by
          rw [List.reverse_cons, List.append_assoc, List.singleton_append]
          exact readCell_append (by simp)
        change stripCells _ (text.length + 1) = _
        rw [stripCells, hread, Result.ok_bind]
        by_cases hc : c = '0'
        · have hrest := ih (List.cons_ne_nil d text) (c :: post)
          rw [if_neg (by simpa using hc), List.reverse_cons, List.append_assoc,
            List.singleton_append, hc, stripZeros]
          rw [hc] at hrest
          exact hrest
        · rw [if_pos hc, stripZeros_cons_of_ne hc]
          rfl

/-- What stands before the cut. -/
theorem readCell_stripZeros {text : List Char} (h : text ≠ []) (post : List Char) :
    ∃ c rest, stripZeros text = c :: rest ∧
      readCell (text.reverse ++ post) ((stripZeros text).length - 1) = .ok c := by
  induction text generalizing post with
  | nil => exact absurd rfl h
  | cons c text ih =>
      by_cases hlast : c = '0' ∧ text ≠ []
      · obtain ⟨rfl, hne⟩ := hlast
        obtain ⟨d, text, rfl⟩ := List.exists_cons_of_ne_nil hne
        obtain ⟨e, rest, hstrip, hread⟩ := ih hne ('0' :: post)
        refine ⟨e, rest, by rw [stripZeros, hstrip], ?_⟩
        rw [stripZeros, List.reverse_cons, List.append_assoc, List.singleton_append]
        exact hread
      · have hstay : stripZeros (c :: text) = c :: text := by
          by_cases hc : c = '0'
          · obtain rfl : text = [] := by_contra fun hne => hlast ⟨hc, hne⟩
            exact stripZeros_singleton c
          · exact stripZeros_cons_of_ne hc text
        refine ⟨c, text, hstay, ?_⟩
        rw [hstay, List.reverse_cons, List.append_assoc, List.singleton_append]
        exact readCell_append (by simp)

theorem stripZeros_suffix (text : List Char) : stripZeros text <:+ text := by
  induction text with
  | nil => exact List.suffix_refl _
  | cons c text ih =>
      by_cases hc : c = '0'
      · obtain _ | ⟨d, text⟩ := text
        · rw [stripZeros_singleton]
        · rw [hc, stripZeros]
          exact ih.trans (List.suffix_cons _ _)
      · rw [stripZeros_cons_of_ne hc]

theorem writeCells_overlay {l : List Char} : ∀ {new old : List Char},
    new.length + l.length ≤ old.length →
    writeCells (overlay new old) new.length l = .ok (overlay (new ++ l) old) := by
  induction l with
  | nil =>
      intro new old _
      rw [writeCells, List.append_nil]
  | cons c l ih =>
      intro new old h
      rw [List.length_cons] at h
      have hlen : (new ++ [c]).length = new.length + 1 := by simp
      rw [writeCells, writeCell_overlay (by omega), Result.ok_bind, ← hlen, ih (by omega),
        List.append_assoc, List.singleton_append]

theorem overlay_overlay (a b c : List Char) : overlay (overlay a b) c
    = overlay a (overlay b c) := by
  simp only [overlay, List.length_append, List.length_drop, List.append_assoc, List.drop_append,
    List.drop_drop]
  congr 3
  omega

theorem overlay_of_isPrefix {new old : List Char} (h : new <+: old) : overlay new old = old := by
  obtain ⟨rest, rfl⟩ := h
  rw [overlay, List.drop_left]

/-- The end of the text, behind what is left of it in the cells. -/
theorem assetCells_eq {asset : Option CString} {text out : List Char} (htext : text <+: out)
    (hlt : text.length < out.length) :
    assetCells asset text.length out =
      match asset with
      | some asset =>
          if text.length + 1 + asset.chars.length + 1 > out.length then .error .bail
          else .ok (overlay (text ++ ' ' :: asset.chars ++ [nul]) out)
      | none => .ok (overlay (text ++ [nul]) out) := by
  have hout : out = overlay text out := (overlay_of_isPrefix htext).symm
  rcases asset with _ | asset
  · rw [assetCells]
    conv_lhs => rw [hout]
    exact writeCell_overlay hlt nul
  · simp only [assetCells]
    by_cases hroom : text.length + 1 + asset.chars.length + 1 > out.length
    · rw [if_pos hroom, if_pos hroom]
    · have hlen : (text ++ [' ']).length = text.length + 1 := by simp
      rw [if_neg hroom, if_neg hroom]
      conv_lhs => rw [hout]
      rw [writeCell_overlay hlt, Result.ok_bind, ← hlen, writeCells_overlay (by simp; omega)]
      simp

/-- The text of a numeral whose characters were collected from its end. -/
def finishText (asset : Option CString) (outLength : ℕ) (new : List Char) : Printed :=
  if new.length ≥ outLength then ⟨new, .error .bail⟩
  else if new = [] then ⟨[], .error .outOfBounds⟩
  else
    let text := (stripDot (stripZeros new)).reverse
    match asset with
    | some asset =>
        if text.length + 1 + asset.chars.length + 1 > outLength then
          ⟨new.reverse, .error .bail⟩
        else ⟨overlay (text ++ ' ' :: asset.chars ++ [nul]) new.reverse, .ok ()⟩
    | none => ⟨overlay (text ++ [nul]) new.reverse, .ok ()⟩

/-- What a run that stores cells leaves: the buffer, if the call returns `0`. -/
def Printed.cells (p : Printed) (out : List Char) : Result (List Char) :=
  match p.ret with
  | .ok () => .ok (overlay p.written out)
  | .error e => .error e

theorem finishCells_eq (asset : Option CString) (new out : List Char)
    (hle : new.length ≤ out.length) :
    finishCells asset new.length (overlay new out) =
      (finishText asset out.length new).cells out := by
  rw [finishCells, finishText, length_overlay hle]
  by_cases hfull : new.length ≥ out.length
  · rw [if_pos hfull, if_pos hfull]
    rfl
  rw [if_neg hfull, if_neg hfull]
  have hreverse : reverseCells new.length 0 new.length (overlay new out) =
      .ok (overlay new.reverse out) := by
    have := reverseCells_eq new [] (out.drop new.length) new.length (Nat.le_refl _)
    simpa [overlay] using this
  rw [hreverse, Result.ok_bind]
  by_cases hnil : new = []
  · rw [if_pos (by rw [hnil, List.length_nil]), if_pos hnil]
    rfl
  rw [if_neg (by simpa using hnil), if_neg hnil]
  obtain ⟨c, rest, hstrip, hread⟩ := readCell_stripZeros hnil (out.drop new.length)
  have hout : overlay new.reverse out = new.reverse ++ out.drop new.length := by
    rw [overlay, List.length_reverse]
  -- the cut text stands at the beginning of the cells
  have htext : (stripDot (stripZeros new)).reverse <+: overlay new.reverse out := by
    have hsuffix : stripDot (stripZeros new) <:+ new := by
      refine List.IsSuffix.trans ?_ (stripZeros_suffix new)
      rw [hstrip]
      unfold stripDot
      split
      · rename_i heq
        rw [heq]
        exact List.suffix_cons _ _
      · exact List.suffix_refl _
    rw [hout]
    exact (List.reverse_prefix.mpr hsuffix).trans (List.prefix_append _ _)
  have hcut : (if c = '.' then (stripZeros new).length - 1 else (stripZeros new).length - 1 + 1) =
      (stripDot (stripZeros new)).reverse.length := by
    rw [hstrip, List.length_reverse, List.length_cons, Nat.add_sub_cancel]
    by_cases hdot : c = '.'
    · rw [if_pos hdot, hdot, stripDot]
    · rw [if_neg hdot, stripDot]
      · rfl
      · intro out heq
        exact absurd (List.cons.inj heq).1 hdot
  have hlt : (stripDot (stripZeros new)).reverse.length < (overlay new.reverse out).length := by
    have hpos := List.length_pos_of_ne_nil hnil
    have hle' := (stripZeros_suffix new).length_le
    rw [← hcut, length_overlay (by rw [List.length_reverse]; exact hle)]
    split <;> omega
  rw [hout, stripCells_eq hnil, Result.ok_bind, hread, Result.ok_bind, hcut, ← hout,
    assetCells_eq htext hlt, length_overlay (by rw [List.length_reverse]; exact hle)]
  rcases asset with _ | asset
  · simp only [Printed.cells, overlay_overlay]
  · simp only
    split
    · rfl
    · simp only [Printed.cells, overlay_overlay]

theorem length_tokenAmountLoop_le {outLength decimals : ℕ} : ∀ {fuel dVal : ℕ} {out : List Char},
    out.length < outLength →
    (tokenAmountLoop outLength decimals fuel dVal out).1.length ≤ outLength := by
  intro fuel
  induction fuel with
  | zero => exact fun h => Nat.le_of_lt h
  | succ fuel ih =>
      intro dVal out h
      rw [tokenAmountLoop]
      have hdot : (if out.length = decimals then out ++ ['.'] else out).length ≤ outLength := by
        split
        · rw [List.length_append, List.length_singleton]
          omega
        · omega
      generalize (if out.length = decimals then out ++ ['.'] else out) = out' at hdot
      dsimp only
      split
      · exact hdot
      · have hdigit : (out' ++ [digitChar (dVal % 10)]).length ≤ outLength := by
          rw [List.length_append, List.length_singleton]
          omega
        split
        · exact ih (by omega)
        · exact hdigit

/-- `print_token_amount` from its two parts. -/
theorem printTokenAmount_eq (amount : UInt64) (asset : Option CString) (decimals : UInt8)
    {outLength : ℕ} (hmax : ¬outLength > 2147483647) :
    printTokenAmount amount asset decimals outLength =
      if 1 < outLength then
        match tokenAmountLoop outLength decimals.toNat outLength amount.toNat [] with
        | (new, true) => finishText asset outLength new
        | (new, false) => ⟨new, .error .bail⟩
      else finishText asset outLength [] := by
  rw [printTokenAmount, if_neg hmax]
  by_cases hone : 1 < outLength
  · simp only [if_pos hone]
    rcases tokenAmountLoop outLength decimals.toNat outLength amount.toNat [] with ⟨new, _ | _⟩
    · rfl
    · simp only [Bool.not_true, Bool.false_or, decide_eq_true_eq]
      rfl
  · simp only [if_neg hone, Bool.not_true, Bool.false_or, decide_eq_true_eq]
    rfl

/-- **The cells hold the text**: the run on the cells of `out` ends as `print_token_amount` does,
and stores what that writes. -/
theorem printTokenAmountCells_eq (amount : UInt64) (asset : Option CString) (decimals : UInt8)
    (out : List Char) :
    printTokenAmountCells amount asset decimals out =
      (printTokenAmount amount asset decimals out.length).cells out := by
  rw [printTokenAmountCells]
  by_cases hmax : out.length > 2147483647
  · rw [if_pos hmax, printTokenAmount, if_pos hmax]
    rfl
  rw [if_neg hmax, printTokenAmount_eq amount asset decimals hmax]
  by_cases hone : 1 < out.length
  · rw [if_pos hone, if_pos hone]
    have hdigits := @digitCells_eq decimals.toNat out out.length amount.toNat []
      (show 0 < out.length by omega) (Nat.le_refl _)
    have hle := @length_tokenAmountLoop_le out.length decimals.toNat out.length amount.toNat []
      (show 0 < out.length by omega)
    rw [overlay_nil, List.length_nil] at hdigits
    rw [hdigits]
    generalize tokenAmountLoop out.length decimals.toNat out.length amount.toNat [] = loop at hle ⊢
    rcases loop with ⟨new, _ | _⟩
    · rfl
    · exact finishCells_eq asset new out hle
  · rw [if_neg hone, if_neg hone]
    exact finishCells_eq asset [] out (Nat.zero_le _)

/-! ## What is printed -/

/-- The numeral, then a space and the asset if there is one. -/
def qualifiedText (amount decimals : ℕ) : Option CString → List Char
  | some asset => amountText amount decimals asset.chars
  | none => numeral amount decimals

theorem nul_notMem_qualifiedText (amount decimals : ℕ) (asset : Option CString) :
    nul ∉ qualifiedText amount decimals asset := by
  rcases asset with _ | asset
  · exact nul_notMem_numeral _ _
  · simp only [qualifiedText, amountText, List.mem_append, List.mem_cons, not_or]
    exact ⟨nul_notMem_numeral _ _, by decide, asset.noNul⟩

theorem rawNumeral_ne_nil (amount decimals : ℕ) : rawNumeral amount decimals ≠ [] := fun h => by
  have := length_rawNumeral_gt amount decimals
  rw [h, List.length_nil] at this
  omega

/-- The end of the text, on a whole numeral. -/
theorem finishText_rawNumeral (amount decimals : ℕ) (asset : Option CString) {outLength : ℕ}
    (h : (rawNumeral amount decimals).length < outLength) :
    finishText asset outLength (rawNumeral amount decimals) =
      if (qualifiedText amount decimals asset).length < outLength then
        ⟨overlay (qualifiedText amount decimals asset ++ [nul])
          (rawNumeral amount decimals).reverse,
          .ok ()⟩
      else ⟨(rawNumeral amount decimals).reverse, .error .bail⟩ := by
  rw [finishText, if_neg (by omega), if_neg (rawNumeral_ne_nil _ _), strip_rawNumeral]
  rcases asset with _ | asset
  · have hle : (numeral amount decimals).length ≤ (rawNumeral amount decimals).length := by
      rw [← strip_rawNumeral, List.length_reverse]
      have hzeros := (stripZeros_suffix (rawNumeral amount decimals)).length_le
      refine Nat.le_trans ?_ hzeros
      unfold stripDot
      split
      · rename_i heq
        rw [heq, List.length_cons]
        omega
      · exact Nat.le_refl _
    rw [if_pos (show (qualifiedText amount decimals none).length < outLength from
      Nat.lt_of_le_of_lt hle h)]
    rfl
  · have hlen : (qualifiedText amount decimals (some asset)).length =
        (numeral amount decimals).length + 1 + asset.chars.length := by
      simp only [qualifiedText, amountText, List.length_append, List.length_cons]
      omega
    by_cases hfits : (numeral amount decimals).length + 1 + asset.chars.length + 1 > outLength
    · rw [if_neg (by omega)]
      simp only [if_pos hfits]
    · rw [if_pos (by omega)]
      simp only [if_neg hfits, qualifiedText, amountText]

/-- The numeral and the text, with their `NUL`s, fit. -/
def Fits (amount decimals : ℕ) (asset : Option CString) (outLength : ℕ) : Prop :=
  (rawNumeral amount decimals).length + 1 ≤ outLength ∧
    (qualifiedText amount decimals asset).length + 1 ≤ outLength

/-- **What the run on the cells ends with.** -/
theorem printTokenAmountCells_spec (amount : UInt64) (asset : Option CString) (decimals : UInt8)
    {out : List Char} (h : 2 ≤ out.length) (hmax : out.length ≤ 2147483647) :
    (Fits amount.toNat decimals.toNat asset out.length →
      printTokenAmountCells amount asset decimals out =
        .ok (overlay (overlay (qualifiedText amount.toNat decimals.toNat asset ++ [nul])
          (rawNumeral amount.toNat decimals.toNat).reverse) out)) ∧
    (¬Fits amount.toNat decimals.toNat asset out.length →
      printTokenAmountCells amount asset decimals out = .error .bail) := by
  have hloop := tokenAmountLoop_eq amount.toNat decimals.toNat (show 1 < out.length by omega)
  rw [printTokenAmountCells_eq, printTokenAmount_eq amount asset decimals (by omega),
    if_pos (show 1 < out.length by omega)]
  unfold LoopSpec at hloop
  split at hloop
  · rename_i hraw
    rw [hloop]
    simp only [finishText_rawNumeral _ _ asset hraw]
    by_cases htext : (qualifiedText amount.toNat decimals.toNat asset).length < out.length
    · rw [if_pos htext]
      exact ⟨fun _ => rfl, fun hnot => absurd ⟨hraw, htext⟩ hnot⟩
    · rw [if_neg htext]
      exact ⟨fun hfits => absurd hfits.2 htext, fun _ => rfl⟩
  · rename_i hraw
    refine ⟨fun hfits => absurd hfits.1 hraw, fun _ => ?_⟩
    generalize tokenAmountLoop out.length decimals.toNat out.length amount.toNat [] = loop at hloop
    rcases loop with ⟨new, _ | _⟩
    · rfl
    · have hfull : new.length ≥ out.length := hloop.resolve_left (by simp)
      simp only [finishText, if_pos hfull]
      rfl

/-- **The canonical decimal numeral of a rational**: the digits of its whole part, without a leading
zero unless it is zero; then, if there are any, a dot and the digits behind it, without a trailing
zero. -/
structure Canonical (text : List Char) (q : ℚ) (whole frac : List ℕ) : Prop where
  text_eq : text = whole.map digitChar ++ if frac = [] then [] else '.' :: frac.map digitChar
  digits : ∀ a ∈ whole ++ frac, a < 10
  whole_ne_nil : whole ≠ []
  no_leading_zero : whole.head? = some 0 → whole = [0]
  no_trailing_zero : frac.getLast? ≠ some 0
  value_eq : (Positional.value 10 whole : ℚ) + Positional.value 10 frac / 10 ^ frac.length = q

theorem getLast?_wholeDigits {q : ℕ} (h : (wholeDigits q).getLast? = some 0) :
    wholeDigits q = [0] := by
  unfold wholeDigits at h ⊢
  split at h
  · rename_i hq
    rw [if_pos hq]
  · rename_i hq
    have hne : Nat.digits 10 q ≠ [] := Nat.digits_ne_nil_iff_ne_zero.mpr hq
    rw [List.getLast?_eq_some_getLast hne] at h
    exact absurd (Option.some.inj h) (Nat.getLast_digit_ne_zero 10 hq)

/-- **The numeral that is printed is the canonical one.** -/
theorem numeral_canonical (amount decimals : ℕ) :
    Canonical (numeral amount decimals) ((amount : ℚ) / 10 ^ decimals)
      (wholeDigits (amount / 10 ^ decimals)).reverse (shownFrac amount decimals) := by
  obtain ⟨hle, hfrac⟩ := ofDigits_shownFrac amount decimals
  refine ⟨rfl, fun a ha => ?_, ?_, fun h => ?_, fun h => ?_, ?_⟩
  · rcases List.mem_append.mp ha with h | h
    · exact wholeDigits_lt a (List.mem_reverse.mp h)
    · exact fracDigits_lt a ((List.dropWhile_suffix _).subset (List.mem_reverse.mp h))
  · rw [Ne, List.reverse_eq_nil_iff]
    exact wholeDigits_ne_nil _
  · rw [List.head?_reverse] at h
    rw [getLast?_wholeDigits h, List.reverse_singleton]
  · rw [shownFrac, List.getLast?_reverse] at h
    have := List.head?_dropWhile_not (fun a : ℕ => decide (a = 0)) (fracDigits amount decimals)
    rw [h] at this
    simp at this
  · rw [Positional.value, Positional.value, List.reverse_reverse, ofDigits_wholeDigits]
    set k := (shownFrac amount decimals).length
    set f := Nat.ofDigits 10 (shownFrac amount decimals).reverse
    have hpow : (10 : ℚ) ^ decimals = 10 ^ k * 10 ^ (decimals - k) := by
      rw [← pow_add, Nat.add_sub_cancel' hle]
    have hdiv : (amount : ℚ) = 10 ^ decimals * (amount / 10 ^ decimals : ℕ) +
        f * 10 ^ (decimals - k) := by
      have hnat : amount = 10 ^ decimals * (amount / 10 ^ decimals) + f * 10 ^ (decimals - k) := by
        rw [hfrac, Nat.div_add_mod]
      exact_mod_cast hnat
    have hcancel : (f : ℚ) / 10 ^ k * 10 ^ decimals = f * 10 ^ (decimals - k) := by
      rw [hpow]
      field_simp
    rw [eq_div_iff (by positivity), add_mul, hcancel, hdiv]
    ring

/-- **`print_token_amount` is exact.**  It fails only if the numeral or the text does not fit, and
never by an access outside of `out`; else `out` holds, up to its `NUL`, the canonical numeral of the
amount, with a space and the asset if there is one. -/
theorem printTokenAmount_exact (amount : UInt64) (asset : Option CString) (decimals : UInt8)
    {out : List Char} (h : 2 ≤ out.length) (hmax : out.length ≤ 2147483647) :
    (∀ e, printTokenAmountCells amount asset decimals out = .error e →
      e = .bail ∧ ¬Fits amount.toNat decimals.toNat asset out.length) ∧
    (∀ out', printTokenAmountCells amount asset decimals out = .ok out' →
      out'.length = out.length ∧ nul ∈ out' ∧
      ∃ text whole frac,
        Canonical text ((amount.toNat : ℚ) / 10 ^ decimals.toNat) whole frac ∧
        textOf out' = text ++ match asset with
          | some asset => ' ' :: asset.chars
          | none => []) := by
  obtain ⟨hok, hbail⟩ := printTokenAmountCells_spec amount asset decimals h hmax
  by_cases hfits : Fits amount.toNat decimals.toNat asset out.length
  · rw [hok hfits]
    refine ⟨fun e he => ?_, fun out' hout' => ?_⟩
    · cases he
    obtain rfl := Except.ok.inj hout'
    have hnul := nul_notMem_qualifiedText amount.toNat decimals.toNat asset
    refine ⟨?_, ?_, numeral amount.toNat decimals.toNat, _, _, numeral_canonical _ _, ?_⟩
    · obtain ⟨hraw, htext⟩ := hfits
      rw [overlay_overlay, length_overlay, length_overlay]
      · rw [List.length_reverse]
        omega
      · rw [length_overlay (by rw [List.length_reverse]; omega), List.length_append]
        exact htext
    · rw [overlay_overlay, overlay]
      exact List.mem_append_left _ (List.mem_append_right _ List.mem_cons_self)
    · rw [overlay_overlay, textOf_overlay_append_nul hnul]
      rcases asset with _ | asset
      · exact (List.append_nil _).symm
      · rfl
  · rw [hbail hfits]
    refine ⟨fun e he => ⟨(Except.error.inj he).symm, hfits⟩, fun out' hout' => ?_⟩
    cases hout'

/-- The theorem on `1.5 SOL` in ten cells. -/
theorem printTokenAmount_exact_sol :
    (∀ e, printTokenAmountCells 15 (some (.lit "SOL")) 1 (List.replicate 10 nul) = .error e →
      e = .bail ∧ ¬Fits (15 : UInt64).toNat (1 : UInt8).toNat (some (.lit "SOL"))
        (List.replicate 10 nul).length) ∧
    (∀ out', printTokenAmountCells 15 (some (.lit "SOL")) 1 (List.replicate 10 nul) = .ok out' →
      out'.length = (List.replicate 10 nul).length ∧ nul ∈ out' ∧
      ∃ text whole frac,
        Canonical text (((15 : UInt64).toNat : ℚ) / 10 ^ (1 : UInt8).toNat) whole frac ∧
        textOf out' = text ++ ' ' :: (CString.lit "SOL").chars) :=
  printTokenAmount_exact 15 (some (.lit "SOL")) 1 (by decide) (by decide)

example : (printTokenAmountCells 15 (some (.lit "SOL")) 1 (List.replicate 10 nul)).map textOf =
    .ok "1.5 SOL".toList := by decide

end AgencLedger
