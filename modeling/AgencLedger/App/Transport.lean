import AgencLedger.App.Assembly

/-!
# App/Transport — how the clients cut a command

A client cuts a command into APDUs of at most 255 bytes of data.  Two clients stand in the
repository: the one of the tests sends the path by itself and the message behind it, the example
sends both as one payload.  Either way the pieces go out in order, all but the first marked as
extending, all but the last as having more behind them.
-/

namespace AgencLedger

/-! ## The clients -/

/-- `MAX_CHUNK_SIZE` of the tests, `MAX_PAYLOAD` of the example. -/
def maxChunkSize : ℕ := 255

/-- An APDU as the transport writes it. -/
def exchangeApdu (ins p1 p2 : UInt8) (data : List UInt8) : List UInt8 :=
  [0xE0, ins, p1, p2, data.length.toUInt8] ++ data

/-- `[payload[x:x + MAX_CHUNK_SIZE] for x in range(0, len(payload), MAX_CHUNK_SIZE)]`. -/
def chunksOf (payload : List UInt8) : List (List UInt8) :=
  (List.range ((payload.length + (maxChunkSize - 1)) / maxChunkSize)).map fun i =>
    (payload.drop (maxChunkSize * i)).take maxChunkSize

/-- `_exchange_split`: the APDUs it sends. -/
def exchangeSplit (ins p1 : UInt8) (payload : List UInt8) : List (List UInt8) :=
  if payload = [] then [exchangeApdu ins p1 0 []]
  else
    (chunksOf payload).mapIdx fun i p =>
      exchangeApdu ins p1
        ((if i ≠ (chunksOf payload).length - 1 then p2More else 0)
          ||| (if i ≠ 0 then p2Extend else 0)) p

/-- `split_and_prefix_message`: the path comes first, by itself. -/
def splitAndPrefixMessage (derivationPath message : List UInt8) : List (List UInt8) :=
  ([1] ++ derivationPath) :: chunksOf message

/-- The `p2` bit of a client that names a token account. -/
def ataBit (userInputIsAtaOrTokenAccount : Bool) : UInt8 :=
  if userInputIsAtaOrTokenAccount then p2IsAtaOrTokenAccount else 0

/-- `send_first_message_batch`. -/
def sendFirstMessageBatch (ins p1 : UInt8) (userInputIsAtaOrTokenAccount : Bool) :
    List (List UInt8) → List (List UInt8)
  | [] => []
  | first :: rest => exchangeApdu ins p1 p2More first ::
      rest.map (exchangeApdu ins p1 (p2More ||| p2Extend ||| ataBit userInputIsAtaOrTokenAccount))

/-- `send_async_sign_request`: the APDUs it sends. -/
def sendAsyncSignRequest (ins : UInt8) (derivationPath message : List UInt8)
    (userInputIsAtaOrTokenAccount : Bool) : List (List UInt8) :=
  let pieces := splitAndPrefixMessage derivationPath message
  let (batch, finalP2) := if pieces.length > 1 then
      (sendFirstMessageBatch ins 1 userInputIsAtaOrTokenAccount pieces.dropLast, p2Extend)
    else ([], 0)
  batch ++ [exchangeApdu ins 1 (finalP2 ||| ataBit userInputIsAtaOrTokenAccount)
    (pieces.getLastD [])]

/-- The loop of `solanaSend`; the first argument bounds its passes by the length of the payload. -/
def solanaSendLoop (ins p1 : UInt8) : ℕ → UInt8 → List UInt8 → List (List UInt8)
  | fuel + 1, p2, payload =>
      if payload.length > maxChunkSize then
        exchangeApdu ins p1 (p2 ||| p2More) (payload.take maxChunkSize)
          :: solanaSendLoop ins p1 fuel (p2 ||| p2Extend) (payload.drop maxChunkSize)
      else [exchangeApdu ins p1 p2 payload]
  | 0, p2, payload => [exchangeApdu ins p1 p2 payload]

/-- `solanaSend`: the APDUs it sends. -/
def solanaSend (ins p1 : UInt8) (payload : List UInt8) : List (List UInt8) :=
  solanaSendLoop ins p1 payload.length 0 payload

/-! ## Paths -/

/-- A derivation path that the app takes: at most five levels, from `m/44'/501'`. -/
structure DerivationPath where
  levels : List UInt32
  prefix_eq : levels.take 2 = [0x80000000 ||| 44, 0x80000000 ||| 501]
  length_le : levels.length ≤ 5

/-- The four bytes of a level, big endian. -/
def bytesOfLevel (w : UInt32) : List UInt8 :=
  [(w >>> 24).toUInt8, (w >>> 16).toUInt8, (w >>> 8).toUInt8, w.toUInt8]

/-- The number of levels and the levels, as a client packs them. -/
def DerivationPath.pack (path : DerivationPath) : List UInt8 :=
  path.levels.length.toUInt8 :: path.levels.flatMap bytesOfLevel

/-- `_harden`. -/
def harden (n : UInt32) : UInt32 := n ||| 0x80000000

/-- `solanaDerivationPath`. -/
def solanaDerivationPath (account change : Option UInt32) : List UInt8 :=
  match account, change with
  | none, _ => 2 :: (bytesOfLevel (harden 44) ++ bytesOfLevel (harden 501))
  | some account, none =>
      3 :: (bytesOfLevel (harden 44) ++ bytesOfLevel (harden 501) ++ bytesOfLevel (harden account))
  | some account, some change =>
      4 :: (bytesOfLevel (harden 44) ++ bytesOfLevel (harden 501) ++ bytesOfLevel (harden account)
        ++ bytesOfLevel (harden change))

theorem or_bytes {a b c d : ℕ} (hb : b < 256) (hc : c < 256) (hd : d < 256) :
    a <<< 24 ||| b <<< 16 ||| c <<< 8 ||| d = ((a * 256 + b) * 256 + c) * 256 + d := by
  have hor : ∀ {x y : ℕ} (n : ℕ), y < 2 ^ n → x <<< n ||| y = x * 2 ^ n + y := fun n h => by
    rw [← Nat.shiftLeft_add_eq_or_of_lt h, Nat.shiftLeft_eq]
  have h₁ : a <<< 24 ||| b <<< 16 = (a * 256 + b) <<< 16 := by
    rw [Nat.shiftLeft_eq b 16, hor 24 (by omega), Nat.shiftLeft_eq]
    omega
  have h₂ : (a * 256 + b) <<< 16 ||| c <<< 8 = ((a * 256 + b) * 256 + c) <<< 8 := by
    rw [Nat.shiftLeft_eq c 8, hor 16 (by omega), Nat.shiftLeft_eq]
    omega
  rw [h₁, h₂, hor 8 hd]
  omega

/-- The app puts a level together from its bytes. -/
theorem level_of_bytes (w : UInt32) :
    (w >>> 24).toUInt8.toUInt32 <<< 24 ||| (w >>> 16).toUInt8.toUInt32 <<< 16
      ||| (w >>> 8).toUInt8.toUInt32 <<< 8 ||| w.toUInt8.toUInt32 = w := by
  have hw := w.toNat_lt
  have hshift : ∀ {x : ℕ} (n : ℕ), x * 2 ^ n < 2 ^ 32 → x <<< n % 2 ^ 32 = x <<< n :=
    fun n h => Nat.mod_eq_of_lt (by rwa [Nat.shiftLeft_eq])
  apply UInt32.toNat_inj.mp
  simp only [UInt32.toNat_or, UInt32.toNat_shiftLeft, UInt8.toNat_toUInt32, UInt32.toNat_toUInt8,
    UInt32.toNat_shiftRight]
  have h24 : (24 : UInt32).toNat % 32 = 24 := rfl
  have h16 : (16 : UInt32).toNat % 32 = 16 := rfl
  have h8 : (8 : UInt32).toNat % 32 = 8 := rfl
  rw [h24, h16, h8]
  simp only [Nat.shiftRight_eq_div_pow]
  rw [hshift 24 (by omega), hshift 16 (by omega), hshift 8 (by omega),
    or_bytes (by omega) (by omega) (by omega)]
  omega

/-- **A packed path is read as it was**, whatever comes behind it. -/
theorem pathWords_flatMap (levels : List UInt32) (rest : List UInt8) :
    pathWords levels.length (levels.flatMap bytesOfLevel ++ rest) = levels := by
  induction levels with
  | nil => unfold pathWords; rfl
  | cons w levels ih =>
      simp only [List.length_cons, List.flatMap_cons, bytesOfLevel, List.cons_append,
        List.nil_append, pathWords, level_of_bytes]
      rw [ih]

namespace DerivationPath

variable (path : DerivationPath)

theorem two_le_length : 2 ≤ path.levels.length := by
  have h := congrArg List.length path.prefix_eq
  rw [List.length_take] at h
  simp only [List.length_cons, List.length_nil] at h
  omega

theorem length_pack : path.pack.length = 1 + path.levels.length * 4 := by
  have hlevels : ∀ levels : List UInt32, (levels.flatMap bytesOfLevel).length = levels.length * 4 :=
    fun levels => by
      induction levels with
      | nil => rfl
      | cons w levels ih =>
          rw [List.flatMap_cons, List.length_append, ih, List.length_cons]
          simp only [bytesOfLevel, List.length_cons, List.length_nil]
          omega
  rw [pack, List.length_cons, hlevels]
  omega

theorem length_pack_le : path.pack.length ≤ 21 := by
  have := path.length_le
  rw [length_pack]
  omega

/-- The app reads the path off the front of the data. -/
theorem readDerivationPath_pack (rest : List UInt8) :
    readDerivationPath (some (path.pack ++ rest)) = .ok path.levels := by
  have hlow := path.two_le_length
  have hhigh := path.length_le
  have hlen : path.levels.length.toUInt8.toNat = path.levels.length := by
    rw [Nat.toUInt8, UInt8.toNat_ofNat_of_lt' (by change _ < 256; omega)]
  have hpack := path.length_pack
  rw [pack, List.length_cons] at hpack
  simp only [pack, List.cons_append, readDerivationPath, hlen]
  rw [if_neg (by omega), if_neg (by rw [List.length_append]; omega), pathWords_flatMap,
    if_neg (not_not_intro path.prefix_eq)]
  rfl

end DerivationPath

/-- **The example's paths are packed paths.** -/
theorem solanaDerivationPath_eq_pack (account change : Option UInt32) :
    ∃ path : DerivationPath, solanaDerivationPath account change = path.pack := by
  rcases account with _ | account
  · exact ⟨⟨[harden 44, harden 501], rfl, by simp⟩, by simp [solanaDerivationPath,
      DerivationPath.pack, Nat.toUInt8]⟩
  rcases change with _ | change
  · exact ⟨⟨[harden 44, harden 501, harden account], rfl, by simp⟩, by
      simp [solanaDerivationPath, DerivationPath.pack, Nat.toUInt8]⟩
  · exact ⟨⟨[harden 44, harden 501, harden account, harden change], rfl, by simp⟩, by
      simp [solanaDerivationPath, DerivationPath.pack, Nat.toUInt8]⟩

/-! ## Pieces -/

/-- The APDUs behind the first one. -/
def train (ins p1 mark : UInt8) : List (List UInt8) → List (List UInt8)
  | [] => []
  | [d] => [exchangeApdu ins p1 (p2Extend ||| mark) d]
  | d :: d' :: ds =>
      exchangeApdu ins p1 (p2More ||| p2Extend ||| mark) d :: train ins p1 mark (d' :: ds)

/-- What both clients send: the pieces in order, all but the first marked as extending, all but the
last as having more behind them. -/
def sendPieces (ins p1 mark : UInt8) (first : List UInt8) (rest : List (List UInt8)) :
    List (List UInt8) :=
  exchangeApdu ins p1 (if rest.isEmpty then mark else p2More) first :: train ins p1 mark rest

section

variable {ins p1 mark : UInt8}

/-- **The first piece and the pieces behind it.** -/
theorem chunksOf_of_ne_nil {payload : List UInt8} (h : payload ≠ []) :
    chunksOf payload = payload.take maxChunkSize :: chunksOf (payload.drop maxChunkSize) := by
  have hpos : 0 < payload.length := List.length_pos_iff.mpr h
  have hcount : (payload.length + (maxChunkSize - 1)) / maxChunkSize
      = ((payload.drop maxChunkSize).length + (maxChunkSize - 1)) / maxChunkSize + 1 := by
    rw [List.length_drop]
    unfold maxChunkSize
    omega
  rw [chunksOf, hcount, List.range_succ_eq_map, List.map_cons, List.map_map, chunksOf]
  congr 1
  refine List.map_congr_left fun i _ => ?_
  simp only [Function.comp_apply, List.drop_drop]
  congr 2
  unfold maxChunkSize
  omega

theorem chunksOf_induction {P : List UInt8 → Prop} (hnil : P [])
    (hcons : ∀ payload, payload ≠ [] → P (payload.drop maxChunkSize) → P payload)
    (payload : List UInt8) : P payload := by
  induction h : payload.length using Nat.strong_induction_on generalizing payload with
  | _ n ih =>
      by_cases hne : payload = []
      · rwa [hne]
      · have hpos : 0 < payload.length := List.length_pos_iff.mpr hne
        refine hcons payload hne (ih _ ?_ _ rfl)
        rw [List.length_drop]
        unfold maxChunkSize
        omega

/-- **The pieces make the payload.** -/
theorem flatten_chunksOf (payload : List UInt8) : (chunksOf payload).flatten = payload := by
  induction payload using chunksOf_induction with
  | hnil => rfl
  | hcons payload hne ih =>
      rw [chunksOf_of_ne_nil hne, List.flatten_cons, ih, List.take_append_drop]

/-- No piece is empty or too long for an APDU. -/
theorem length_of_mem_chunksOf {payload piece : List UInt8} (h : piece ∈ chunksOf payload) :
    piece ≠ [] ∧ piece.length ≤ 255 := by
  induction payload using chunksOf_induction with
  | hnil => cases h
  | hcons payload hne ih =>
      rw [chunksOf_of_ne_nil hne] at h
      rcases List.mem_cons.mp h with rfl | h
      · have hpos : 0 < payload.length := List.length_pos_iff.mpr hne
        refine ⟨List.ne_nil_of_length_pos ?_, ?_⟩ <;> rw [List.length_take] <;>
          unfold maxChunkSize <;> omega
      · exact ih h

theorem train_cons (d : List UInt8) (ds : List (List UInt8)) :
    train ins p1 mark (d :: ds)
      = exchangeApdu ins p1 (if ds.isEmpty then p2Extend ||| mark else p2More ||| p2Extend ||| mark)
          d :: train ins p1 mark ds := by
  cases ds <;> rfl

/-- A train, by the places of its pieces. -/
theorem mapIdx_eq_train (ds : List (List UInt8)) {p2 : ℕ → UInt8}
    (h : ∀ i < ds.length, p2 i
      = if i + 1 = ds.length then p2Extend ||| mark else p2More ||| p2Extend ||| mark) :
    (ds.mapIdx fun i d => exchangeApdu ins p1 (p2 i) d) = train ins p1 mark ds := by
  induction ds generalizing p2 with
  | nil => rfl
  | cons d ds ih =>
      have hrest : (ds.mapIdx fun i d => exchangeApdu ins p1 (p2 (i + 1)) d)
          = train ins p1 mark ds := by
        refine ih fun i hi => ?_
        rw [h (i + 1) (by rw [List.length_cons]; omega), List.length_cons]
        simp only [Nat.add_right_cancel_iff]
      rw [List.mapIdx_cons, train_cons, hrest, h 0 (by simp)]
      cases ds <;> simp

/-- A train, by its last piece. -/
theorem train_concat (init : List (List UInt8)) (d : List UInt8) :
    train ins p1 mark (init ++ [d])
      = init.map (exchangeApdu ins p1 (p2More ||| p2Extend ||| mark))
        ++ [exchangeApdu ins p1 (p2Extend ||| mark) d] := by
  induction init with
  | nil => rfl
  | cons e init ih =>
      rw [List.cons_append, train_cons, ih, if_neg (by simp)]
      rfl

theorem exchangeSplit_eq (ins p1 : UInt8) {payload : List UInt8} (h : payload ≠ []) :
    exchangeSplit ins p1 payload
      = sendPieces ins p1 0 (payload.take maxChunkSize) (chunksOf (payload.drop maxChunkSize)) := by
  rw [exchangeSplit, if_neg h, chunksOf_of_ne_nil h, List.mapIdx_cons, sendPieces]
  refine congrArg₂ List.cons ?_ (mapIdx_eq_train _ fun i hi => ?_)
  · cases chunksOf (payload.drop maxChunkSize) <;> simp
  · rw [if_pos (Nat.succ_ne_zero i), List.length_cons, Nat.add_sub_cancel]
    by_cases hlast : i + 1 = (chunksOf (payload.drop maxChunkSize)).length
    · rw [if_neg (not_not_intro hlast), if_pos hlast]
      rfl
    · rw [if_pos hlast, if_neg hlast]
      rfl

/-- The loop of the example, once the first piece is gone. -/
theorem solanaSendLoop_extend {fuel : ℕ} {payload : List UInt8} (hne : payload ≠ [])
    (hfuel : payload.length ≤ fuel) :
    solanaSendLoop ins p1 fuel p2Extend payload = train ins p1 0 (chunksOf payload) := by
  induction fuel generalizing payload with
  | zero => exact absurd (List.eq_nil_of_length_eq_zero (by omega)) hne
  | succ fuel ih =>
      rw [solanaSendLoop, chunksOf_of_ne_nil hne, train_cons]
      split
      · rename_i hlong
        have hdrop : payload.drop maxChunkSize ≠ [] := by simpa using hlong
        have hrest := ih hdrop (by rw [List.length_drop]; unfold maxChunkSize; omega)
        rw [chunksOf_of_ne_nil hdrop] at hrest ⊢
        rw [if_neg (by simp)]
        exact congrArg₂ List.cons rfl hrest
      · rename_i hshort
        rw [List.drop_eq_nil_of_le (by omega), List.take_of_length_le (by omega)]
        rfl

/-- **Both clients cut a payload alike.** -/
theorem solanaSend_eq_exchangeSplit (ins p1 : UInt8) (payload : List UInt8) :
    solanaSend ins p1 payload = exchangeSplit ins p1 payload := by
  by_cases hne : payload = []
  · subst hne
    rfl
  obtain ⟨fuel, hfuel⟩ : ∃ fuel, payload.length = fuel + 1 :=
    Nat.exists_eq_add_one.mpr (List.length_pos_iff.mpr hne)
  rw [exchangeSplit_eq ins p1 hne, solanaSend, hfuel, solanaSendLoop, sendPieces]
  split
  · rename_i hlong
    have hdrop : payload.drop maxChunkSize ≠ [] := by simpa using hlong
    have hrest := @solanaSendLoop_extend ins p1 fuel _ hdrop
      (by rw [List.length_drop]; unfold maxChunkSize; omega)
    refine congrArg₂ List.cons ?_ hrest
    rw [chunksOf_of_ne_nil hdrop, if_neg (by simp)]
    rfl
  · rename_i hshort
    rw [List.drop_eq_nil_of_le (by omega), List.take_of_length_le (by omega)]
    rfl

/-- The request of the tests' client, in pieces. -/
theorem sendAsyncSignRequest_eq (ins : UInt8) (derivationPath message : List UInt8) (ata : Bool) :
    sendAsyncSignRequest ins derivationPath message ata
      = sendPieces ins 1 (ataBit ata) (1 :: derivationPath) (chunksOf message) := by
  unfold sendAsyncSignRequest splitAndPrefixMessage sendPieces
  generalize chunksOf message = pieces
  rcases List.eq_nil_or_concat pieces with rfl | ⟨init, d, rfl⟩
  · cases ata <;> rfl
  · dsimp only
    rw [List.concat_eq_append, if_pos (by simp), train_concat, ← List.cons_append,
      List.dropLast_concat, if_neg (by simp)]
    have hlast : ((1 :: derivationPath) :: (init ++ [d])).getLastD [] = d := by
      rw [← List.cons_append, List.getLastD_concat]
    exact congrArg (fun piece => _ ++ [exchangeApdu ins 1 (p2Extend ||| ataBit ata) piece]) hlast

end

end AgencLedger
