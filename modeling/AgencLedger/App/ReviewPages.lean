import AgencLedger.App.Main
import AgencLedger.Library.Rotation
import AgencLedger.Review.Shown

/-!
# App/ReviewPages — the pages of a review

The screen library asks for the pairs of a page by index, and reads them once it has them all.  The
app keeps the last few titles and texts in a rotating array; the text of an ASCII message is read
where it stands in the command.  So a page of no more pairs than the array has slots shows each item
under its own title, from whatever page the user turned to it.
-/

namespace AgencLedger

/-! ## Pairs -/

/-- `nbgl_operationType_t`, of which the app uses two. -/
inductive OperationType
  | transaction | message
  deriving DecidableEq

/-- `dynamic_slot_t`. -/
structure DynamicSlot where
  title : List Char
  text : List Char
  deriving DecidableEq

/-- What `init_review_content` sets; `steps` is `G_transaction_steps_number`. -/
structure ReviewContent where
  operationType : OperationType
  steps : ℕ
  isAsciiMessage : Bool
  deriving DecidableEq

/-- `nbPairs` of the content: the number of steps, in a byte. -/
def ReviewContent.nbPairs (content : ReviewContent) : UInt8 := content.steps.toUInt8

theorem ReviewContent.nbPairs_le (content : ReviewContent) :
    content.nbPairs.toNat ≤ content.steps := Nat.mod_le _ _

/-- What the value of a pair points at. -/
inductive PairValue
  | text (slot : ℕ)
  | messageText (start : Option ℕ)
  deriving DecidableEq

/-- `nbgl_layoutTagValue_t`: the slot of the title, and the value. -/
structure ReviewPair where
  item : ℕ
  value : PairValue
  deriving DecidableEq

/-- The last step of an ASCII message. -/
def ReviewContent.IsMessageStep (content : ReviewContent) (index : UInt8) : Prop :=
  index.toNat + 1 = content.steps ∧ content.operationType = .message ∧ content.isAsciiMessage = true

instance (content : ReviewContent) (index : UInt8) : Decidable (content.IsMessageStep index) :=
  inferInstanceAs (Decidable (_ ∧ _))

/-- `get_review_pair`, on the slots of `displayed_slots`; `none` where it leaves the app. -/
def getReviewPair (frame : ℕ → Hash) (content : ReviewContent) (app : App)
    (slots : List DynamicSlot) (index : UInt8) : Option (ReviewPair × App × List DynamicSlot) :=
  let slot := index.toNat % slots.length
  if content.IsMessageStep index then
    let written := (printString "Message".toList titleSize).written
    some (⟨slot, .messageText app.command.messageTextStart⟩, app,
      slots.modify slot fun s => { s with title := overlay written s.title })
  else
    match displayItem frame app.summary index.toNat app.settings.longPubkeys app.buffers with
    | (.error _, _) => none
    | (.ok (), buffers) =>
        some (⟨slot, .text slot⟩, { app with buffers },
          slots.set slot ⟨buffers.title, buffers.text⟩)

/-- The pairs of a page. -/
def getReviewPairs (frame : ℕ → Hash) (content : ReviewContent) :
    App → List DynamicSlot → List UInt8 → Option (List ReviewPair × App × List DynamicSlot)
  | app, slots, [] => some ([], app, slots)
  | app, slots, index :: indices => do
      let (pair, app, slots) ← getReviewPair frame content app slots index
      let (pairs, app, slots) ← getReviewPairs frame content app slots indices
      return (pair :: pairs, app, slots)

/-- The C string at `message_text_start`. -/
def Command.messageText (command : Command) (start : Option ℕ) : List Char :=
  match start with
  | none => []
  | some start => textOf ((command.message.drop start).map charOfByte ++ [nul])

/-- The title and the value of a pair, once the page is drawn. -/
def ReviewPair.read (command : Command) (slots : List DynamicSlot) (pair : ReviewPair) :
    List Char × List Char :=
  (((slots[pair.item]?).map fun s => textOf s.title).getD [],
    match pair.value with
    | .text slot => ((slots[slot]?).map fun s => textOf s.text).getD []
    | .messageText start => command.messageText start)

/-! ## What a review shows -/

/-- The title and the text of an item, whatever was in the buffers. -/
structure SummaryItem.ShownAs (frame : ℕ → Hash) (longPubkeys : Bool) (item : SummaryItem)
    (shown : List Char × List Char) : Prop where
  fits : item.TitleFits
  title : shown.1 = item.title.toList
  ret : (item.value.print frame longPubkeys).ret = .ok ()
  text : ∀ buffer, textOf (overlay (item.value.print frame longPubkeys).written buffer) = shown.2

theorem shownAs_of_textIs {frame : ℕ → Hash} {item : SummaryItem} {text : List Char}
    (hfits : item.TitleFits) (h : item.value.TextIs frame text) :
    item.ShownAs frame true (item.title.toList, text) := ⟨hfits, rfl, h.1, h.2⟩

/-- What is terminated reads the same over any buffer. -/
theorem textOf_overlay_of_mem {written : List Char} (h : nul ∈ written) (buffer : List Char) :
    textOf (overlay written buffer) = textOf written := by
  obtain ⟨l, m, rfl, hl⟩ := List.eq_append_cons_of_mem h
  rw [textOf_overlay_append_nul hl, textOf_append_nul hl]

theorem nul_mem_truncated (out : List Char) (n : ℕ) : nul ∈ truncated out n := by
  unfold truncated
  split <;> simp

theorem nul_mem_printString (input : List Char) {n : ℕ} (h : 0 < n) :
    nul ∈ (printString input n).written := by
  rw [printString, if_neg (by omega)]
  split
  · rename_i hfits
    have hcopied : ((input.take n).takeWhile (· ≠ nul)).length ≤ input.length :=
      (List.takeWhile_sublist _).length_le.trans (List.take_sublist n input).length_le
    exact List.mem_append_right _ (List.mem_replicate.mpr ⟨Nat.sub_ne_zero_of_lt (by omega), rfl⟩)
  · exact nul_mem_truncated _ _

/-- **A value that prints has a text of its own**, whatever was in the buffer. -/
theorem exists_text (frame : ℕ → Hash) (longPubkeys : Bool) {value : SummaryValue}
    (h : value.Printable) :
    ∃ text, ∀ buffer, textOf (overlay (value.print frame longPubkeys).written buffer) = text := by
  have hok := (print_ok_iff frame longPubkeys value).mpr h
  have hmem : nul ∈ (value.print frame longPubkeys).written → ∃ text, ∀ buffer,
      textOf (overlay (value.print frame longPubkeys).written buffer) = text :=
    fun hnul => ⟨_, textOf_overlay_of_mem hnul⟩
  cases value with
  | amount u64 => exact ⟨_, textOf_printTokenAmount (by decide) hok⟩
  | tokenAmount t => exact ⟨_, textOf_printTokenAmount (by decide) hok⟩
  | i64 i64 =>
      apply hmem
      rw [SummaryValue.print, printI64_eq _ (by decide) (by decide)]
      simp
  | u64 u64 =>
      apply hmem
      rw [SummaryValue.print, printU64_eq _ (by decide) (by decide)]
      simp
  | pubkey key =>
      apply hmem
      rw [SummaryValue.print, printPubkey, encodeBase58_block key.val (show 44 < 45 by decide)]
      cases longPubkeys with
      | true => exact nul_mem_printString _ (show 0 < textBufferLength by decide)
      | false =>
          simp only [Bool.false_eq_true, if_false]
          rw [printSummary, if_neg (by decide)]
          split
          · simp
          · exact nul_mem_printString _ (by decide)
  | hash ref => exact ⟨_, (printBase58_block _).2⟩
  | applicationDomain domain => exact ⟨_, (printBase58_block _).2⟩
  | string str => exact hmem (nul_mem_printString _ (show 0 < textBufferLength by decide))
  | sizedString str =>
      apply hmem
      rw [SummaryValue.print, printSizedString]
      simp only
      split
      · simp
      · rw [if_neg (by decide)]
        dsimp only
        exact nul_mem_truncated _ _
  | timestamp time =>
      obtain ⟨ymd, hymd⟩ := (rdnToYmd_ok_iff _).mpr h
      apply hmem
      rw [SummaryValue.print, printTimestamp, rfc3339Format_eq (by decide), hymd]
      simp [rfc3339Text]

theorem exists_shownAs (frame : ℕ → Hash) (longPubkeys : Bool) {item : SummaryItem}
    (hfits : item.TitleFits) (h : item.value.Printable) :
    ∃ shown, item.ShownAs frame longPubkeys shown := by
  obtain ⟨text, htext⟩ := exists_text frame longPubkeys h
  exact ⟨(item.title.toList, text), hfits, rfl, (print_ok_iff _ _ _).mpr h, htext⟩

/-- The step of an ASCII message. -/
def ReviewContent.messageStep (content : ReviewContent) (command : Command) :
    List (List Char × List Char) :=
  if content.operationType = .message ∧ content.isAsciiMessage = true then
    [("Message".toList, command.messageText command.messageTextStart)]
  else []

/-- **What a review shows**: the items of the summary, then the text of an ASCII message. -/
structure App.Shows (frame : ℕ → Hash) (app : App) (content : ReviewContent)
    (shown : List (List Char × List Char)) : Prop where
  items : ∃ texts, List.Forall₂ (SummaryItem.ShownAs frame app.settings.longPubkeys)
    app.summary.usedItems texts ∧ shown = texts ++ content.messageStep app.command
  primary : app.summary.usedItems ≠ [] → app.summary.primary.isSome
  steps : content.steps = shown.length

namespace App.Shows

variable {frame : ℕ → Hash} {app : App} {content : ReviewContent}
  {shown : List (List Char × List Char)}

theorem length_usedItems_le (s : TransactionSummary) :
    s.usedItems.length ≤ numGeneralItems + 4 := by
  have hone : ∀ o : Option SummaryItem, o.toList.length ≤ 1 := fun o => by cases o <;> simp
  have := hone s.primary
  have := hone s.nonceAccount
  have := hone s.nonceAuthority
  have := hone s.feePayer
  have := s.size
  simp only [TransactionSummary.usedItems, List.length_append]
  omega

/-- **The steps of a review fit the byte that counts them.** -/
theorem steps_le (h : app.Shows frame content shown) : content.steps ≤ numGeneralItems + 5 := by
  obtain ⟨texts, htexts, rfl⟩ := h.items
  have hmessage : (content.messageStep app.command).length ≤ 1 := by
    unfold ReviewContent.messageStep
    split <;> simp
  have := length_usedItems_le app.summary
  rw [h.steps, List.length_append, ← htexts.length_eq]
  omega

/-- The buffers do not matter. -/
theorem with_buffers (h : app.Shows frame content shown) (buffers : DisplayBuffers) :
    ({ app with buffers } : App).Shows frame content shown := ⟨h.items, h.primary, h.steps⟩

/-- Whether a step is that of the message. -/
theorem isMessageStep_iff {texts : List (List Char × List Char)} {index : UInt8}
    (hsteps : content.steps = (texts ++ content.messageStep app.command).length)
    (hlt : index.toNat < content.steps) :
    content.IsMessageStep index ↔ index.toNat = texts.length := by
  unfold ReviewContent.IsMessageStep
  rw [List.length_append] at hsteps
  unfold ReviewContent.messageStep at hsteps
  by_cases hascii : content.operationType = .message ∧ content.isAsciiMessage = true
  · rw [if_pos hascii, List.length_singleton] at hsteps
    rw [and_iff_left hascii]
    omega
  · rw [if_neg hascii, List.length_nil, Nat.add_zero] at hsteps
    exact iff_of_false (fun h => hascii h.2) (by omega)

/-- An item is displayed as it is shown. -/
theorem displayItem_eq {item : SummaryItem} {texts : List Char × List Char}
    (hprimary : app.summary.primary.isSome) {i : ℕ} (hi : app.summary.usedItems[i]? = some item)
    (hshown : item.ShownAs frame app.settings.longPubkeys texts) (buffers : DisplayBuffers) :
    ∃ after, displayItem frame app.summary i app.settings.longPubkeys buffers = (.ok (), after) ∧
      (textOf after.title, textOf after.text) = texts := by
  rw [displayItem, TransactionSummary.getElem?_slots hprimary hi]
  simp only [updateDisplayForItem, hshown.ret]
  refine ⟨_, rfl, Prod.ext ?_ (hshown.text _)⟩
  exact ((printString_of_fits hshown.fits.1 hshown.fits.2).2 _).trans hshown.title.symm

/-- **One pair**: it writes the cell of its index, and reads as its step for as long as that
stands. -/
theorem getReviewPair_eq (h : app.Shows frame content shown) {slots : List DynamicSlot}
    (hpos : 0 < slots.length) {index : UInt8} (hlt : index.toNat < content.steps) :
    ∃ pair buffers slot, getReviewPair frame content app slots index
        = some (pair, { app with buffers },
            slots.set (Rotation.cell slots.length index.toNat) slot) ∧
      ∀ slots' : List DynamicSlot,
        slots'[Rotation.cell slots.length index.toNat]? = some slot →
          shown[index.toNat]? = some (pair.read app.command slots') := by
  obtain ⟨texts, htexts, rfl⟩ := h.items
  have hstep := @isMessageStep_iff app content texts index h.steps hlt
  have hslot : Rotation.cell slots.length index.toNat < slots.length := Nat.mod_lt _ hpos
  unfold getReviewPair
  by_cases hmessage : content.IsMessageStep index
  · have htitle := (@printString_of_fits "Message".toList titleSize (by decide) (by decide)).2
      slots[Rotation.cell slots.length index.toNat].title
    refine ⟨⟨Rotation.cell slots.length index.toNat,
        .messageText app.command.messageTextStart⟩, app.buffers,
      ⟨overlay (printString "Message".toList titleSize).written
        slots[Rotation.cell slots.length index.toNat].title,
        slots[Rotation.cell slots.length index.toNat].text⟩, ?_, fun slots' hslots' => ?_⟩
    · rw [if_pos hmessage]
      exact congrArg (fun cells => some (_, app, cells)) (List.modify_eq_set_get _ hslot)
    · simp only [ReviewPair.read, hslots', Option.map_some, Option.getD_some, htitle]
      rw [hstep.mp hmessage, List.getElem?_append_right (Nat.le_refl _), Nat.sub_self,
        ReviewContent.messageStep, if_pos hmessage.2]
      rfl
  · have hi : index.toNat < texts.length := by
      have hsteps := h.steps
      have hne := hstep.not.mp hmessage
      rw [List.length_append] at hsteps
      have hone : (content.messageStep app.command).length ≤ 1 := by
        unfold ReviewContent.messageStep
        split <;> simp
      omega
    have hi' : index.toNat < app.summary.usedItems.length := htexts.length_eq ▸ hi
    have hprimary := h.primary (List.ne_nil_of_length_pos (by omega))
    obtain ⟨after, hdisplay, htext⟩ := displayItem_eq hprimary
      (List.getElem?_eq_getElem hi') (htexts.get hi' hi) app.buffers
    refine ⟨⟨Rotation.cell slots.length index.toNat,
        .text (Rotation.cell slots.length index.toNat)⟩, after, ⟨after.title, after.text⟩, ?_,
      fun slots' hslots' => ?_⟩
    · rw [if_neg hmessage, hdisplay]
      rfl
    · rw [List.getElem?_append_left hi, List.getElem?_eq_getElem hi]
      simp only [ReviewPair.read, hslots', Option.map_some, Option.getD_some]
      exact congrArg some htext.symm

/-- The pairs of a page, and what they write. -/
theorem getReviewPairs_eq (h : app.Shows frame content shown) {slots : List DynamicSlot}
    (hpos : 0 < slots.length) {indices : List UInt8}
    (hlt : ∀ index ∈ indices, index.toNat < content.steps) :
    ∃ pairs buffers writes, getReviewPairs frame content app slots indices
        = some (pairs, { app with buffers }, Rotation.writeAll slots writes) ∧
      writes.map Prod.fst = indices.map UInt8.toNat ∧
      List.Forall₂ (fun pair write => ∀ slots' : List DynamicSlot,
        slots'[Rotation.cell slots.length write.1]? = some write.2 →
          shown[write.1]? = some (ReviewPair.read app.command slots' pair)) pairs writes := by
  induction indices generalizing app slots with
  | nil => exact ⟨[], app.buffers, [], rfl, rfl, .nil⟩
  | cons index indices ih =>
      obtain ⟨hindex, hrest⟩ := List.forall_mem_cons.mp hlt
      obtain ⟨pair, buffers, slot, hpair, hread⟩ := h.getReviewPair_eq hpos hindex
      have hlength : (slots.set (Rotation.cell slots.length index.toNat) slot).length
          = slots.length := List.length_set
      obtain ⟨pairs, buffers', writes, hpairs, hwrites, hreads⟩ :=
        ih (h.with_buffers buffers) (hlength ▸ hpos) hrest
      rw [hlength] at hreads
      refine ⟨pair :: pairs, buffers', (index.toNat, slot) :: writes, ?_,
        congrArg (index.toNat :: ·) hwrites, .cons hread hreads⟩
      rw [getReviewPairs, hpair]
      change (getReviewPairs frame content _ _ indices).bind _ = _
      rw [hpairs]
      rfl

end App.Shows

/-! ## Pages -/

/-- The indices of a page. -/
def pageIndices (start count : ℕ) : List UInt8 := (List.range' start count).map Nat.toUInt8

/-- **A page shows its own steps**: whatever was displayed before, and whatever the slots hold, the
pairs of `count` neighbours read, once they are all there, as the titles and texts of these steps,
as long as there are slots for them. -/
theorem read_page {frame : ℕ → Hash} {app : App} {content : ReviewContent}
    {shown : List (List Char × List Char)} (h : app.Shows frame content shown)
    {slots : List DynamicSlot} {start count : ℕ} (hcount : count ≤ slots.length)
    (hend : start + count ≤ content.steps) :
    ∃ pairs buffers slots', getReviewPairs frame content app slots (pageIndices start count)
        = some (pairs, { app with buffers }, slots') ∧ slots'.length = slots.length ∧
      pairs.map (ReviewPair.read app.command slots') = (shown.drop start).take count := by
  rcases Nat.eq_zero_or_pos count with rfl | hpos
  · exact ⟨[], app.buffers, slots, rfl, rfl, rfl⟩
  have hsteps := h.steps_le
  have htoNat : ∀ i < start + count, i.toUInt8.toNat = i := fun i hi => by
    rw [Nat.toUInt8, UInt8.toNat_ofNat_of_lt']
    change i < 256
    unfold numGeneralItems at hsteps
    omega
  have hindices : (pageIndices start count).map UInt8.toNat = List.range' start count := by
    rw [pageIndices, List.map_map]
    exact (List.map_congr_left fun i hi => htoNat i (List.mem_range'_1.mp hi).2).trans
      (List.map_id _)
  obtain ⟨pairs, buffers, writes, hpairs, hwrites, hreads⟩ :=
    @App.Shows.getReviewPairs_eq _ _ _ _ h slots (by omega) (pageIndices start count) fun i hi => by
      have hmem := @List.mem_map_of_mem _ _ _ _ UInt8.toNat hi
      rw [hindices, List.mem_range'_1] at hmem
      omega
  rw [hindices] at hwrites
  refine ⟨pairs, buffers, _, hpairs, Rotation.length_writeAll writes, ?_⟩
  obtain ⟨hlength, hreads⟩ := List.forall₂_iff_get.mp hreads
  have hcells : writes.Pairwise fun v w =>
      Rotation.cell slots.length v.1 ≠ Rotation.cell slots.length w.1 := by
    have hrange := @Rotation.pairwise_cell_range' _ start _ hcount
    rwa [← hwrites, List.pairwise_map] at hrange
  have hwrites_length : writes.length = count := by
    rw [← List.length_map Prod.fst, hwrites, List.length_range']
  refine List.ext_getElem ?_ fun k hk hk' => ?_
  · have := h.steps
    rw [List.length_map, hlength, hwrites_length, List.length_take, List.length_drop]
    omega
  · rw [List.length_map] at hk
    have hk₂ : k < writes.length := hlength ▸ hk
    have hindex : writes[k].1 = start + k := by
      have hmap : (writes.map Prod.fst)[k]? = some writes[k].1 := by
        rw [List.getElem?_map, List.getElem?_eq_getElem hk₂]
        rfl
      rw [hwrites, List.getElem?_range' (hwrites_length ▸ hk₂)] at hmap
      exact (Option.some.inj hmap).symm.trans (by rw [Nat.one_mul])
    have hread := hreads k hk hk₂ _ (Rotation.getElem?_writeAll (by omega) hcells
      (List.getElem_mem hk₂))
    rw [List.getElem_map, List.getElem_take, List.getElem_drop]
    change shown[writes[k].1]? = some (ReviewPair.read app.command _ pairs[k]) at hread
    rw [hindex] at hread
    exact (List.getElem?_eq_some_iff.mp hread).2.symm

/-- An app with three numbers to show. -/
def numbersApp : App :=
  { App.start (.plain emptyContext.sdk plainSigner) false .zero ⟨false, true, false⟩ with
    summary := { TransactionSummary.reset with
      primary := some ⟨"Custom fee", .u64 7⟩
      general := [⟨"Custom rent", .u64 8⟩, ⟨"Custom tip", .u64 9⟩]
      size := by decide } }

theorem shows_numbersApp (frame : ℕ → Hash) :
    numbersApp.Shows frame ⟨.transaction, 3, false⟩
      [("Custom fee".toList, decimal 7), ("Custom rent".toList, decimal 8),
        ("Custom tip".toList, decimal 9)] where
  items := ⟨_, .cons (shownAs_of_textIs (by simp) (textIs_u64 7))
    (.cons (shownAs_of_textIs (by simp) (textIs_u64 8))
      (.cons (shownAs_of_textIs (by simp) (textIs_u64 9)) .nil)), rfl⟩
  primary := fun _ => rfl
  steps := rfl

/-- The theorem on the last two of them: of two slots, the second is filled first. -/
theorem read_page_numbers :
    ∃ pairs buffers slots', getReviewPairs (fun _ => Block.zero 32) ⟨.transaction, 3, false⟩
        numbersApp [⟨[], []⟩, ⟨[], []⟩] (pageIndices 1 2)
          = some (pairs, { numbersApp with buffers }, slots') ∧
      slots'.length = 2 ∧ pairs.map (ReviewPair.read numbersApp.command slots')
        = [("Custom rent".toList, decimal 8), ("Custom tip".toList, decimal 9)] :=
  read_page (shows_numbersApp _) (Nat.le_refl 2) (Nat.le_refl 3)

/-- **A review that can be displayed at all shows its items**, whichever way keys are displayed. -/
theorem shows_of_printable (frame : ℕ → Hash) {app : App} {content : ReviewContent}
    (hprimary : app.summary.usedItems ≠ [] → app.summary.primary.isSome)
    (hitems : ∀ item ∈ app.summary.usedItems, item.TitleFits ∧ item.value.Printable)
    (hsteps : content.steps
      = app.summary.usedItems.length + (content.messageStep app.command).length) :
    ∃ shown, app.Shows frame content shown := by
  have htexts : ∀ items : List SummaryItem,
      (∀ item ∈ items, item.TitleFits ∧ item.value.Printable) → ∃ texts,
        List.Forall₂ (SummaryItem.ShownAs frame app.settings.longPubkeys) items texts := by
    intro items
    induction items with
    | nil => exact fun _ => ⟨[], .nil⟩
    | cons item items ih =>
        intro h
        obtain ⟨⟨hfits, hprint⟩, hrest⟩ := List.forall_mem_cons.mp h
        obtain ⟨shown, hshown⟩ := exists_shownAs frame app.settings.longPubkeys hfits hprint
        obtain ⟨texts, htexts⟩ := ih hrest
        exact ⟨shown :: texts, .cons hshown htexts⟩
  obtain ⟨texts, htexts⟩ := htexts _ hitems
  exact ⟨_, ⟨texts, htexts, rfl⟩, hprimary, by rw [hsteps, List.length_append, htexts.length_eq]⟩

end AgencLedger
