import XorScan.Proofs.HexNumerals
import XorScan.Proofs.StoredText

namespace XorScan.EscapeBytes

open CharRun Escape EscapeGrammar HexNumerals StoredText

def isHexByte (b : UInt8) : Bool := Hex.isDigit (Char.ofNat b.toNat)

/-- Reads a number up to `limit` in hexadecimal digits. A plus sign may stand before them. -/
def number? (limit : Nat) (s : List Char) : Option Nat :=
  let ds := if s.head? = some '+' then s.tail else s
  if ds ≠ [] ∧ ds.all Hex.isDigit ∧ Hex.value ds ≤ limit then some (Hex.value ds) else none

def readHex (r : List Char) : Except EscapeError (Char × Nat) :=
  match ((Text.slice? r 1 3).filter fun h => (stored h).all isHexByte).bind (number? 0xFF) with
  | some v => .ok (Char.ofNat v, 3)
  | none => .error .malformedHex

/-- How many hexadecimal digits stand behind the first two bytes, where more than seven count as
seven. -/
def digitCount (bytes : List UInt8) : Nat :=
  (((bytes.drop 2).take 7).takeWhile isHexByte).length

def readUnicode? (r : List Char) : Option (Except EscapeError (Char × Nat)) :=
  let bytes := stored r
  if bytes[1]? ≠ some (byte '{') then some (.error .malformedUnicode)
  -- The bytes behind the brace are cut off here, which needs two of them.
  else if bytes.length < 2 then none
  else
    let n := digitCount bytes
    if n = 0 ∨ 6 < n ∨ bytes[2 + n]? ≠ some (byte '}') then some (.error .malformedUnicode)
    else
      (Text.slice? r 2 (2 + n)).map fun ds =>
        match number? 0xFFFFFFFF ds with
        | none => .error .malformedUnicode
        | some v => if v.isValidChar then .ok (Char.ofNat v, 3 + n) else .error (.invalidCodepoint v)

/-- Reads an escape from the bytes that store a text, and counts in bytes. -/
def decode? (r : List Char) : Option (Except EscapeError (Char × Nat)) :=
  match r.head? with
  | none => some (.error .incomplete)
  | some c =>
    match letter? c with
    | some v => some (.ok (v, 1))
    | none =>
      if c = 'x' then some (readHex r)
      else if c = 'u' then readUnicode? r
      else some (.error (.unknown c))

theorem isHexByte_byte {c : Char} (h : c.toNat < 128) : isHexByte (byte c) = Hex.isDigit c := by
  rw [isHexByte, toNat_byte h, Char.ofNat_toNat]

theorem isHexByte_beyond {b : UInt8} (h : 128 ≤ b.toNat) : isHexByte b = false := by
  have hn : (Char.ofNat b.toNat).toNat = b.toNat :=
    toNat_ofNat (.inl (Nat.lt_trans b.toNat_lt (by decide)))
  rw [isHexByte, Bool.eq_false_iff]
  intro hd
  have hlt := lt_of_isDigit hd
  rw [hn] at hlt
  omega

theorem stored_digits {ds : List Char} (h : ∀ d ∈ ds, Hex.isDigit d = true) :
    stored ds = ds.map byte := stored_ascii fun d hd => lt_of_isDigit (h d hd)

theorem takeWhile_stored {ds t : List Char} (h : IsRun Hex.isDigit ds t) :
    (stored (ds ++ t)).takeWhile isHexByte = ds.map byte := by
  rw [stored_append, stored_digits h.all, List.takeWhile_append_of_pos]
  · cases t with
    | nil => simp [stored]
    | cons c t =>
      have hc : Hex.isDigit c = false := h.stop c rfl
      obtain ⟨b, bs, he, hb⟩ : ∃ b bs, String.utf8EncodeChar c = b :: bs ∧ isHexByte b = false := by
        by_cases hlt : c.toNat < 128
        · exact ⟨byte c, [], encode_ascii hlt, by rw [isHexByte_byte hlt, hc]⟩
        · obtain ⟨b, bs, he, hb⟩ := encode_beyond (Nat.not_lt.mp hlt)
          exact ⟨b, bs, he, isHexByte_beyond hb⟩
      rw [stored_cons, he, List.cons_append, List.takeWhile_cons_of_neg (by simp [hb]),
        List.append_nil]
  · intro b hb
    obtain ⟨d, hd, rfl⟩ := List.mem_map.mp hb
    rw [isHexByte_byte (lt_of_isDigit (h.all d hd))]
    exact h.all d hd

theorem isDigit_of_stored {s : List Char} (h : (stored s).all isHexByte = true) :
    ∀ c ∈ s, Hex.isDigit c = true := by
  intro c hc
  have hbytes : ∀ b ∈ String.utf8EncodeChar c, isHexByte b = true := fun b hb =>
    List.all_eq_true.mp h b (List.mem_flatMap.mpr ⟨c, hc, hb⟩)
  by_cases hlt : c.toNat < 128
  · rw [← isHexByte_byte hlt]
    exact hbytes _ (by rw [encode_ascii hlt]; exact List.mem_cons_self)
  · obtain ⟨b, bs, he, hb⟩ := encode_beyond (Nat.not_lt.mp hlt)
    have hhex := hbytes b (by rw [he]; exact List.mem_cons_self)
    rw [isHexByte_beyond hb] at hhex
    cases hhex

theorem all_stored_digits {ds : List Char} (h : ∀ d ∈ ds, Hex.isDigit d = true) :
    (stored ds).all isHexByte = true := by
  rw [stored_digits h, List.all_map, List.all_eq_true]
  intro d hd
  rw [Function.comp_apply, isHexByte_byte (lt_of_isDigit (h d hd))]
  exact h d hd

theorem number?_digits {limit : Nat} {ds : List Char} (hne : ds ≠ [])
    (h : ∀ d ∈ ds, Hex.isDigit d = true) (hle : Hex.value ds ≤ limit) :
    number? limit ds = some (Hex.value ds) := by
  have hsign : ds.head? ≠ some '+' := by
    intro hs
    have hd := h '+' (List.mem_of_mem_head? hs)
    revert hd
    decide
  rw [number?, if_neg hsign, if_pos ⟨hne, List.all_eq_true.mpr h, hle⟩]

theorem value_le {ds : List Char} {k limit : Nat} (h : ∀ d ∈ ds, Hex.isDigit d = true)
    (hk : ds.length ≤ k) (hlimit : 16 ^ k ≤ limit + 1) : Hex.value ds ≤ limit := by
  have hlt := numeral_lt (numeral_iff.mpr ⟨h, rfl⟩)
  have hpow : 16 ^ ds.length ≤ 16 ^ k := Nat.pow_le_pow_right (by decide) hk
  omega

theorem byteLength_digits {ds : List Char} (h : ∀ d ∈ ds, Hex.isDigit d = true) :
    Text.byteLength ds = ds.length := byteLength_ascii fun d hd => lt_of_isDigit (h d hd)

theorem readHex_digits {a b : Char} (ha : Hex.isDigit a = true) (hb : Hex.isDigit b = true)
    (t : List Char) : readHex ('x' :: a :: b :: t) = decodeHex (a :: b :: t) := by
  have hab : ∀ d ∈ [a, b], Hex.isDigit d = true := by simp [ha, hb]
  have hcut : Text.slice? ('x' :: a :: b :: t) 1 3 = some [a, b] := by
    have hcut := Text.slice?_append ['x'] [a, b] t
    rw [byteLength_digits hab] at hcut
    exact hcut
  have hnumber : number? 0xFF [a, b] = some (Hex.value [a, b]) :=
    number?_digits (by simp) hab (value_le (k := 2) hab (Nat.le_refl _) (by decide))
  have hkeep : (some [a, b]).filter (fun s => (stored s).all isHexByte) = some [a, b] :=
    Option.filter_some_pos (all_stored_digits hab)
  rw [readHex, hcut, hkeep, Option.bind_some, hnumber]
  simp [decodeHex, ha, hb]

/-- Two bytes behind the `x` that are digits are two characters. -/
theorem exists_digits_of_slice? {r s : List Char} (hs : Text.slice? ('x' :: r) 1 3 = some s)
    (hall : (stored s).all isHexByte = true) :
    ∃ a b t, r = a :: b :: t ∧ Hex.isDigit a = true ∧ Hex.isDigit b = true := by
  obtain ⟨x, t, hsplit, hx, hlen⟩ := slice?_eq_some hs
  have hdigits := isDigit_of_stored hall
  rw [byteLength_digits hdigits] at hlen
  obtain ⟨a, b, rfl⟩ := List.length_eq_two.mp hlen
  cases x with
  | nil => cases hx
  | cons y x =>
    simp only [List.cons_append, List.cons.injEq] at hsplit
    obtain ⟨rfl, rfl⟩ := hsplit
    have hsize : Char.utf8Size 'x' = 1 := rfl
    have hnil : x = [] := by
      rw [Text.byteLength_cons, hsize] at hx
      exact Text.byteLength_eq_zero_iff.mp (Nat.add_left_cancel hx)
    exact ⟨a, b, t, by rw [hnil]; rfl, hdigits a (by simp), hdigits b (by simp)⟩

theorem readHex_eq (r : List Char) : readHex ('x' :: r) = decodeHex r := by
  by_cases h : ∃ a b t, r = a :: b :: t ∧ Hex.isDigit a = true ∧ Hex.isDigit b = true
  · obtain ⟨a, b, t, rfl, ha, hb⟩ := h
    exact readHex_digits ha hb t
  · have hdecode : decodeHex r = .error .malformedHex := by
      unfold decodeHex
      split
      next a b t => rw [if_neg fun hab => h ⟨a, b, t, rfl, hab⟩]
      · rfl
    have hcut : (Text.slice? ('x' :: r) 1 3).filter (fun s => (stored s).all isHexByte) = none := by
      rw [Option.filter_eq_none_iff]
      exact fun s hs hall => h (exists_digits_of_slice? hs hall)
    rw [readHex, hcut, hdecode]
    rfl

section Braces

variable {ds t : List Char}

theorem stored_open (s : List Char) :
    stored ('u' :: '{' :: s) = byte 'u' :: byte '{' :: stored s := rfl

theorem digitCount_of_run (h : IsRun Hex.isDigit ds t) :
    digitCount (stored ('u' :: '{' :: (ds ++ t))) = min 7 ds.length := by
  rw [stored_open, digitCount, List.drop_succ_cons, List.drop_succ_cons, List.drop_zero,
    ← List.take_takeWhile, takeWhile_stored h, List.length_take, List.length_map]

theorem getElem?_stored_of_run (h : IsRun Hex.isDigit ds t) :
    (stored ('u' :: '{' :: (ds ++ t)))[2 + ds.length]? = some (byte '}') ↔ t.head? = some '}' := by
  rw [stored_open, Nat.add_comm, List.getElem?_cons_succ, List.getElem?_cons_succ, stored_append,
    stored_digits h.all, List.getElem?_append_right (by simp), List.length_map, Nat.sub_self,
    ← List.head?_eq_getElem?]
  exact head?_stored (by decide)

theorem slice?_of_run (h : IsRun Hex.isDigit ds t) :
    Text.slice? ('u' :: '{' :: (ds ++ t)) 2 (2 + ds.length) = some ds := by
  have hcut := Text.slice?_append ['u', '{'] ds t
  rwa [byteLength_digits h.all] at hcut

theorem readUnicode?_of_run (h : IsRun Hex.isDigit ds t) :
    readUnicode? ('u' :: '{' :: (ds ++ t)) = some (decodeUnicode ('{' :: (ds ++ t))) := by
  have hopen : (stored ('u' :: '{' :: (ds ++ t)))[1]? = some (byte '{') := by
    rw [stored_open]
    rfl
  have hlen : ¬ (stored ('u' :: '{' :: (ds ++ t))).length < 2 := by
    simp [stored_open]
  rw [decodeUnicode_of_run h, readUnicode?]
  dsimp only
  rw [if_neg (not_not.mpr hopen), if_neg hlen, digitCount_of_run h]
  by_cases hlong : 6 < ds.length
  · have hseven : min 7 ds.length = 7 := by omega
    rw [hseven, if_pos (.inr (.inl (by decide))), if_pos (.inr (.inl hlong))]
  · have hcount : min 7 ds.length = ds.length := by omega
    rw [hcount]
    simp only [ne_eq, getElem?_stored_of_run h]
    by_cases hbad : ds.length = 0 ∨ 6 < ds.length ∨ ¬ t.head? = some '}'
    · rw [if_pos hbad, if_pos hbad]
    · have hne : ds ≠ [] := fun hnil => hbad (.inl (by rw [hnil]; rfl))
      have hnumber : number? 0xFFFFFFFF ds = some (Hex.value ds) :=
        number?_digits hne h.all (value_le (k := 6) h.all (by omega) (by decide))
      rw [if_neg hbad, if_neg hbad, slice?_of_run h, Option.map_some, hnumber,
        Nat.add_comm 3]

end Braces

theorem readUnicode?_eq (r : List Char) : readUnicode? ('u' :: r) = some (decodeUnicode r) := by
  by_cases hopen : r.head? = some '{'
  · obtain ⟨r, rfl⟩ := List.head?_eq_some_iff.mp hopen
    obtain ⟨ds, t, rfl, hr⟩ := exists_isRun Hex.isDigit r
    exact readUnicode?_of_run hr
  · have hdecode : decodeUnicode r = .error .malformedUnicode := by
      unfold decodeUnicode
      split
      · exact absurd rfl hopen
      · rfl
    have hnext : (stored ('u' :: r))[1]? = (stored r).head? := by
      rw [List.head?_eq_getElem?]
      rfl
    have hbyte : (stored ('u' :: r))[1]? ≠ some (byte '{') := by
      rw [hnext, Ne, head?_stored (by decide)]
      exact hopen
    rw [readUnicode?, if_pos hbyte, hdecode]

/-- Reading by bytes never cuts a character apart, and reads what reading by characters does. -/
theorem decode?_eq (r : List Char) : decode? r = some (decode r) := by
  cases r with
  | nil => rfl
  | cons c r =>
    simp only [decode?, List.head?_cons, decode]
    cases letter? c with
    | some v => rfl
    | none =>
      dsimp only
      split
      next hx => rw [hx, readHex_eq]
      · split
        next hu => rw [hu, readUnicode?_eq]
        · rfl

end XorScan.EscapeBytes
