import AgencLedger.Program.Agenc
import AgencLedger.Review.Shown

/-!
# Review/SizedStrings — how strings of the message are shown

The strings of a message may hold any bytes.  `print_sized_string` copies them with `strncpy`, which
stops at a `NUL`: what stands behind it is not shown, and the mark of truncation `'~'` is written
behind it too.
-/

namespace AgencLedger

/-! ## Characters -/

theorem charOfByte_injective : Function.Injective charOfByte := by
  have hvalid : ∀ n < 256, (Char.ofNat n).toNat = n := by decide +kernel
  intro a b h
  have htoNat := congrArg Char.toNat h
  rw [charOfByte, charOfByte, hvalid _ a.toNat_lt, hvalid _ b.toNat_lt] at htoNat
  exact UInt8.toNat_inj.mp htoNat

@[simp] theorem charOfByte_zero : charOfByte 0 = nul := rfl

theorem charOfByte_eq_nul_iff {b : UInt8} : charOfByte b = nul ↔ b = 0 :=
  charOfByte_injective.eq_iff' charOfByte_zero

theorem nul_mem_map_charOfByte {bytes : List UInt8} : nul ∈ bytes.map charOfByte ↔ 0 ∈ bytes := by
  rw [← charOfByte_zero, List.mem_map_of_injective charOfByte_injective]

/-- The text of bytes ends at their first `NUL`. -/
theorem textOf_map_charOfByte (bytes : List UInt8) :
    textOf (bytes.map charOfByte) = (bytes.takeWhile (· ≠ 0)).map charOfByte := by
  rw [textOf, List.takeWhile_map]
  congr 2
  funext b
  simp [charOfByte_eq_nul_iff]

/-! ## Copies -/

theorem nul_notMem_textOf (buffer : List Char) : nul ∉ textOf buffer :=
  (CString.ofBuffer buffer).noNul

theorem textOf_append_of_notMem {a : List Char} (h : nul ∉ a) (b : List Char) :
    textOf (a ++ b) = a ++ textOf b :=
  List.takeWhile_append_of_pos fun c hc => by simpa using ne_of_mem_of_not_mem hc h

/-- Behind a `NUL` a text has ended. -/
theorem textOf_append_of_mem {a : List Char} (h : nul ∈ a) (b : List Char) :
    textOf (a ++ b) = textOf a := by
  obtain ⟨l, m, rfl, hl⟩ := List.eq_append_cons_of_mem h
  rw [List.append_assoc, List.cons_append, textOf_append_nul hl, textOf_append_nul hl]

theorem take_eq_take_append {src : List Char} {n k : ℕ} (hk : k ≤ n) :
    src.take n = src.take k ++ (src.take n).drop k :=
  (List.take_append_drop k (src.take n)).symm.trans (by rw [List.take_take, Nat.min_eq_left hk])

/-- Without a `NUL` the first cells of a copy are those of the source. -/
theorem take_strncpy_of_notMem {src : List Char} {n k : ℕ} (hn : n ≤ src.length) (hk : k ≤ n)
    (h : nul ∉ src.take k) : (strncpy src n).take k = src.take k := by
  have htext : textOf (src.take n) = src.take k ++ textOf ((src.take n).drop k) := by
    rw [take_eq_take_append hk, textOf_append_of_notMem h, ← take_eq_take_append hk]
  have hlength : (src.take k).length = k := by
    rw [List.length_take]
    omega
  change (textOf (src.take n) ++ _).take k = src.take k
  rw [htext, List.append_assoc, List.take_left' hlength]

/-- With a `NUL` they hold the text before it, and a `NUL` again. -/
theorem take_strncpy_of_mem {src : List Char} {n k : ℕ} (hk : k ≤ n) (h : nul ∈ src.take k) :
    ∃ rest, (strncpy src n).take k = textOf (src.take k) ++ nul :: rest := by
  obtain ⟨l, m, hsplit, hl⟩ := List.eq_append_cons_of_mem h
  have htext : textOf (src.take n) = l := by
    rw [take_eq_take_append hk, textOf_append_of_mem h, hsplit, textOf_append_nul hl]
  have hlt : l.length < k := by
    have hlength := congrArg List.length hsplit
    rw [List.length_take, List.length_append, List.length_cons] at hlength
    omega
  change ∃ rest, (textOf (src.take n) ++ List.replicate (n - (textOf (src.take n)).length) nul).take
    k
    = _
  obtain ⟨c, hc⟩ : ∃ c, n - l.length = c + 1 := ⟨n - l.length - 1, by omega⟩
  obtain ⟨d, hd⟩ : ∃ d, k - l.length = d + 1 := ⟨k - l.length - 1, by omega⟩
  refine ⟨(List.replicate c nul).take d, ?_⟩
  rw [htext, hsplit, textOf_append_nul hl, List.take_append, List.take_of_length_le hlt.le, hc, hd,
    List.replicate_succ, List.take_succ_cons]

/-! ## Texts -/

namespace SizedString

/-- A string that one of the two parsers of strings has returned. -/
def Parsed (str : SizedString) : Prop :=
  ∃ parser rest, parseSizedString parser = .ok (str, rest) ∨
    parseBorshString parser = .ok (str, rest)

/-- The characters of a string. -/
def chars (str : SizedString) : List Char := str.string.val.map charOfByte

/-- What `transaction_summary_update_display_for_item` shows for a string, in buffers used
before. -/
def shownText (frame : ℕ → Hash) (longPubkeys : Bool) (title : String) (buffers : DisplayBuffers)
    (str : SizedString) : List Char :=
  textOf (updateDisplayForItem frame longPubkeys buffers
    (some ⟨title, .sizedString str⟩)).2.text

/-- The bytes that there is room for: all of them, or those in front of the mark. -/
def roomyBytes (str : SizedString) : List UInt8 :=
  if str.length ≤ 44 then str.string.val else str.string.val.take 43

/-- The mark stands at the end of the text, if bytes follow. -/
def Marked (str : SizedString) : Prop :=
  0 ∈ str.roomyBytes → (str.roomyBytes.takeWhile (· ≠ 0)).getLast? = some 0x7e

variable {str a b : SizedString} {frame : ℕ → Hash} {longPubkeys : Bool}
  {title titleA titleB : String}
  {buffers buffersA buffersB : DisplayBuffers}

/-- A parsed string has the length that it says. -/
theorem Parsed.length_eq (h : str.Parsed) : str.string.val.length = str.length.toNat := by
  have hread : ∀ {n : ℕ} {length : UInt64} {p rest : Parser}, n = length.toNat →
      (do checkBufferLength n
          let string ← advance n
          return (⟨length, string⟩ : SizedString) : ParseM SizedString) p = .ok (str, rest) →
      str.string.val.length = str.length.toNat := by
    intro n length p rest hn hp
    obtain ⟨u, p₁, hcheck, hp⟩ := (Result.step_seq_ok_iff _ _ _ _).mp hp
    unfold checkBufferLength at hcheck
    split at hcheck
    · cases hcheck
    · rename_i hlength
      cases hcheck
      obtain ⟨string, p₂, hstring, hp⟩ := (Result.step_seq_ok_iff _ _ _ _).mp hp
      obtain ⟨-, hr⟩ := advance_ok_iff.mp hstring
      cases hr
      cases hp
      rw [List.length_take, ← hn]
      omega
  obtain ⟨parser, rest, h | h⟩ := h
  · obtain ⟨length, p₁, -, h⟩ := (Result.step_seq_ok_iff _ _ _ _).mp h
    obtain ⟨u, p₂, -, h⟩ := (Result.step_seq_ok_iff _ _ _ _).mp h
    exact hread rfl h
  · obtain ⟨length, p₁, -, h⟩ := (Result.step_seq_ok_iff _ _ _ _).mp h
    exact hread (UInt32.toNat_toUInt64 length).symm h

/-- A string with room is shown up to its first `NUL`. -/
theorem textOf_printSizedString_of_le (hlength : str.string.val.length = str.length.toNat)
    (hle : str.length ≤ 44) (buffer : List Char) :
    textOf (overlay (printSizedString str textBufferLength).written buffer)
      = textOf str.chars := by
  have hlt : str.length.toNat < textBufferLength :=
    Nat.lt_succ_of_le (UInt64.le_iff_toNat_le.mp hle)
  have hfill : ∀ k rest, textOf (List.replicate k nul ++ nul :: rest) = [] := fun k rest => by
    cases k <;> simp [textOf, List.replicate_succ]
  have hchars : str.chars.length = str.length.toNat := (List.length_map ..).trans hlength
  rw [printSizedString, if_pos hlt, Nat.min_eq_right hlt.le, ← hchars]
  change textOf (((textOf (str.chars.take str.chars.length) ++ List.replicate _ nul) ++ [nul])
    ++ _) = _
  rw [List.take_length, List.append_assoc, List.append_assoc,
    textOf_append_of_notMem (nul_notMem_textOf _), List.singleton_append, hfill, List.append_nil]

/-- A string without room is cut, and marked unless a `NUL` comes first. -/
theorem textOf_printSizedString_of_lt (hlength : str.string.val.length = str.length.toNat)
    (hlt : ¬str.length ≤ 44) (buffer : List Char) :
    textOf (overlay (printSizedString str textBufferLength).written buffer)
      = textOf (str.chars.take 43) ++ if nul ∈ str.chars.take 43 then [] else ['~'] := by
  have hge : textBufferLength ≤ str.length.toNat :=
    Nat.lt_of_not_le fun h => hlt (UInt64.le_iff_toNat_le.mpr h)
  have hchars : textBufferLength ≤ str.chars.length :=
    hge.trans_eq ((List.length_map ..).trans hlength).symm
  have hbuffer : 43 ≤ textBufferLength := by decide
  rw [printSizedString, if_neg (by omega), Nat.min_eq_left hge, if_neg (by decide)]
  change textOf (((strncpy str.chars textBufferLength).take 43 ++ ['~', nul]) ++ _) = _
  by_cases hnul : nul ∈ str.chars.take 43
  · obtain ⟨rest, hrest⟩ := take_strncpy_of_mem hbuffer hnul
    rw [hrest, if_pos hnul, List.append_nil, List.append_assoc, List.append_assoc, List.cons_append,
      textOf_append_nul (nul_notMem_textOf _)]
  · have htext : textOf (str.chars.take 43) = str.chars.take 43 := by
      rw [← List.append_nil (str.chars.take 43), textOf_append_of_notMem hnul]
      rfl
    rw [take_strncpy_of_notMem hchars hbuffer hnul, if_neg hnul, htext, List.append_assoc,
      textOf_append_of_notMem hnul]
    rfl

/-- **The text of a string**: its bytes up to their first `NUL`, and the mark if there is none in
front of it. -/
theorem shownText_eq (hlength : str.string.val.length = str.length.toNat) :
    str.shownText frame longPubkeys title buffers
      = (str.roomyBytes.takeWhile (· ≠ 0)).map charOfByte
        ++ if str.length ≤ 44 ∨ 0 ∈ str.roomyBytes then [] else ['~'] := by
  change textOf (overlay (printSizedString str textBufferLength).written buffers.text) = _
  by_cases hle : str.length ≤ 44
  · rw [textOf_printSizedString_of_le hlength hle, chars, textOf_map_charOfByte, roomyBytes,
      if_pos hle, if_pos (.inl hle), List.append_nil]
  · rw [textOf_printSizedString_of_lt hlength hle, chars, ← List.map_take, textOf_map_charOfByte,
      roomyBytes, if_neg hle]
    simp only [nul_mem_map_charOfByte, hle, false_or]

/-- **A string is shown in full, or the text ends with the mark, exactly if it is marked.** -/
theorem marked_iff (hlength : str.string.val.length = str.length.toNat) :
    (str.shownText frame longPubkeys title buffers ≠ str.chars →
        (str.shownText frame longPubkeys title buffers).getLast? = some '~') ↔ str.Marked := by
  rw [shownText_eq hlength]
  by_cases hnul : 0 ∈ str.roomyBytes
  · have hmem : 0 ∈ str.string.val := by
      unfold roomyBytes at hnul
      split at hnul
      · exact hnul
      · exact List.mem_of_mem_take hnul
    have hfull : (str.roomyBytes.takeWhile (· ≠ 0)).map charOfByte ≠ str.chars := fun hfull => by
      have hnotMem : nul ∉ (str.roomyBytes.takeWhile (· ≠ 0)).map charOfByte := by
        rw [← textOf_map_charOfByte]
        exact nul_notMem_textOf _
      exact hnotMem (hfull ▸ nul_mem_map_charOfByte.mpr hmem)
    have hlast : ∀ o : Option UInt8, o.map charOfByte = some '~' ↔ o = some 0x7e := fun o =>
      (Option.map_injective charOfByte_injective).eq_iff' rfl
    rw [if_pos (.inr hnul), List.append_nil, List.getLast?_map, hlast, Marked]
    exact ⟨fun h _ => h hfull, fun h _ => h hnul⟩
  · have hall : str.roomyBytes.takeWhile (· ≠ 0) = str.roomyBytes :=
      List.takeWhile_eq_self_iff.mpr fun b hb => by simpa using ne_of_mem_of_not_mem hb hnul
    refine iff_of_true (fun hcut => ?_) fun h => absurd h hnul
    rw [hall] at hcut ⊢
    by_cases hle : str.length ≤ 44
    · rw [if_pos (.inl hle), List.append_nil, roomyBytes, if_pos hle] at hcut
      exact absurd rfl hcut
    · rw [if_neg (not_or.mpr ⟨hle, hnul⟩), List.getLast?_concat]

/-- **Strings with room differ in the texts exactly if they differ before a `NUL`.** -/
theorem shownText_eq_iff (ha : a.string.val.length = a.length.toNat)
    (hb : b.string.val.length = b.length.toNat) (hale : a.length ≤ 44) (hble : b.length ≤ 44) :
    a.shownText frame longPubkeys titleA buffersA = b.shownText frame longPubkeys titleB buffersB ↔
      a.string.val.takeWhile (· ≠ 0) = b.string.val.takeWhile (· ≠ 0) := by
  rw [shownText_eq ha, shownText_eq hb, if_pos (.inl hale), if_pos (.inl hble), List.append_nil,
    List.append_nil, roomyBytes, if_pos hale, roomyBytes, if_pos hble,
    (List.map_injective_iff.mpr charOfByte_injective).eq_iff]

/-- **When two strings of the message are shown faithfully**: those with room differ before their
first `NUL` if they differ, and a text that a `NUL` ends early has a `'~'` in front of it. -/
theorem shown_faithfully_iff (frame : ℕ → Hash) (longPubkeys : Bool) (titleA titleB : String)
    (buffersA buffersB : DisplayBuffers) (a b : SizedString) (ha : a.Parsed) (hb : b.Parsed) :
    ((a.length ≤ 44 → b.length ≤ 44 → a.string.val ≠ b.string.val →
        a.shownText frame longPubkeys titleA buffersA
          ≠ b.shownText frame longPubkeys titleB buffersB) ∧
      (a.shownText frame longPubkeys titleA buffersA ≠ a.chars →
        (a.shownText frame longPubkeys titleA buffersA).getLast? = some '~') ∧
      (b.shownText frame longPubkeys titleB buffersB ≠ b.chars →
        (b.shownText frame longPubkeys titleB buffersB).getLast? = some '~')) ↔
      (a.length ≤ 44 → b.length ≤ 44 → a.string.val ≠ b.string.val →
        a.string.val.takeWhile (· ≠ 0) ≠ b.string.val.takeWhile (· ≠ 0)) ∧
      a.Marked ∧ b.Marked := by
  rw [marked_iff ha.length_eq, marked_iff hb.length_eq]
  refine and_congr_left' ?_
  refine forall₂_congr fun hale hble => forall_congr' fun _ => not_congr ?_
  exact shownText_eq_iff ha.length_eq hb.length_eq hale hble

/-- `a`, a `NUL` and another byte. -/
def behindNul (b : UInt8) : SizedString := ⟨3, ⟨4, [0x61, 0, b]⟩⟩

theorem parsed_behindNul (b : UInt8) : (behindNul b).Parsed :=
  ⟨⟨0, [3, 0, 0, 0, 0x61, 0, b]⟩, ⟨7, []⟩, .inr rfl⟩

/-- What stands behind a `NUL` makes no difference and is not missed. -/
theorem shown_faithfully_behindNul :
    (behindNul 0x62).Parsed ∧ (behindNul 0x63).Parsed ∧
      (behindNul 0x62).length ≤ 44 ∧ (behindNul 0x63).length ≤ 44 ∧
      (behindNul 0x62).string.val ≠ (behindNul 0x63).string.val ∧
      (behindNul 0x62).shownText (fun _ => Block.zero 32) true "Endpoint" .reset
        = (behindNul 0x63).shownText (fun _ => Block.zero 32) true "Endpoint" .reset ∧
      (behindNul 0x62).shownText (fun _ => Block.zero 32) true "Endpoint" .reset
        ≠ (behindNul 0x62).chars ∧
      ((behindNul 0x62).shownText (fun _ => Block.zero 32) true "Endpoint" .reset).getLast?
        ≠ some '~' :=
  ⟨parsed_behindNul _, parsed_behindNul _, by decide, by decide, by decide, by decide,
    by decide, by decide⟩

/-- The theorem on two such strings. -/
theorem shown_faithfully_iff_behindNul :
    (((behindNul 0x62).length ≤ 44 → (behindNul 0x63).length ≤ 44 →
        (behindNul 0x62).string.val ≠ (behindNul 0x63).string.val →
        (behindNul 0x62).shownText (fun _ => Block.zero 32) true "Endpoint" .reset
          ≠ (behindNul 0x63).shownText (fun _ => Block.zero 32) true "Endpoint" .reset) ∧
      ((behindNul 0x62).shownText (fun _ => Block.zero 32) true "Endpoint" .reset
          ≠ (behindNul 0x62).chars →
        ((behindNul 0x62).shownText (fun _ => Block.zero 32) true "Endpoint" .reset).getLast?
          = some '~') ∧
      ((behindNul 0x63).shownText (fun _ => Block.zero 32) true "Endpoint" .reset
          ≠ (behindNul 0x63).chars →
        ((behindNul 0x63).shownText (fun _ => Block.zero 32) true "Endpoint" .reset).getLast?
          = some '~')) ↔
      ((behindNul 0x62).length ≤ 44 → (behindNul 0x63).length ≤ 44 →
        (behindNul 0x62).string.val ≠ (behindNul 0x63).string.val →
        (behindNul 0x62).string.val.takeWhile (· ≠ 0)
          ≠ (behindNul 0x63).string.val.takeWhile (· ≠ 0)) ∧
      (behindNul 0x62).Marked ∧ (behindNul 0x63).Marked :=
  shown_faithfully_iff _ _ _ _ _ _ _ _ (parsed_behindNul 0x62) (parsed_behindNul 0x63)

end SizedString

end AgencLedger
