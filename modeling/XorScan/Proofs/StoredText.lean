import XorScan.Text.Bytes

namespace XorScan.StoredText

open Text

def stored (s : List Char) : List UInt8 := s.flatMap String.utf8EncodeChar

def byte (c : Char) : UInt8 := UInt8.ofNat c.toNat

theorem stored_cons (c : Char) (s : List Char) :
    stored (c :: s) = String.utf8EncodeChar c ++ stored s := rfl

theorem stored_append (s t : List Char) : stored (s ++ t) = stored s ++ stored t :=
  List.flatMap_append

theorem length_stored (s : List Char) : (stored s).length = byteLength s := by
  induction s with
  | nil => rfl
  | cons c s ih => rw [stored_cons, List.length_append, String.length_utf8EncodeChar, ih]; rfl

theorem toNat_ofNat {v : Nat} (h : v.isValidChar) : (Char.ofNat v).toNat = v := by
  rw [Char.ofNat, dif_pos h]
  rfl

theorem toNat_byte {c : Char} (h : c.toNat < 128) : (byte c).toNat = c.toNat := by
  rw [byte, UInt8.toNat_ofNat']
  omega

theorem encode_ascii {c : Char} (h : c.toNat < 128) : String.utf8EncodeChar c = [byte c] := by
  have hle : c.val.toNat ≤ 127 := Nat.le_of_lt_succ h
  unfold String.utf8EncodeChar
  dsimp only
  rw [if_pos hle]
  rfl

theorem beyond_of_mem_encode {c : Char} (h : 128 ≤ c.toNat) {b : UInt8}
    (hb : b ∈ String.utf8EncodeChar c) : 128 ≤ b.toNat := by
  have hgt : ¬ c.val.toNat ≤ 127 := Nat.not_le.mpr h
  have hbyte : ∀ n, 128 ≤ n → n < 256 → 128 ≤ (UInt8.ofNat n).toNat := by
    intro n hlow hhigh
    rw [UInt8.toNat_ofNat']
    omega
  unfold String.utf8EncodeChar at hb
  dsimp only at hb
  rw [if_neg hgt] at hb
  split at hb
  · simp only [List.mem_cons, List.not_mem_nil, or_false] at hb
    obtain rfl | rfl := hb
    · exact hbyte _ (by omega) (by omega)
    · exact hbyte _ (by omega) (by omega)
  · split at hb
    · simp only [List.mem_cons, List.not_mem_nil, or_false] at hb
      obtain rfl | rfl | rfl := hb
      · exact hbyte _ (by omega) (by omega)
      · exact hbyte _ (by omega) (by omega)
      · exact hbyte _ (by omega) (by omega)
    · simp only [List.mem_cons, List.not_mem_nil, or_false] at hb
      obtain rfl | rfl | rfl | rfl := hb
      · exact hbyte _ (by omega) (by omega)
      · exact hbyte _ (by omega) (by omega)
      · exact hbyte _ (by omega) (by omega)
      · exact hbyte _ (by omega) (by omega)

theorem encode_beyond {c : Char} (h : 128 ≤ c.toNat) :
    ∃ b bs, String.utf8EncodeChar c = b :: bs ∧ 128 ≤ b.toNat := by
  have hpos : 0 < (String.utf8EncodeChar c).length := by
    rw [String.length_utf8EncodeChar]
    exact c.utf8Size_pos
  obtain ⟨b, bs, he⟩ := List.exists_cons_of_length_pos hpos
  exact ⟨b, bs, he, beyond_of_mem_encode h (he ▸ List.mem_cons_self)⟩

theorem byte_mem_encode_iff {c d : Char} (hc : c.toNat < 128) :
    byte c ∈ String.utf8EncodeChar d ↔ d = c := by
  constructor
  · intro h
    by_cases hd : d.toNat < 128
    · rw [encode_ascii hd, List.mem_singleton] at h
      have hn := congrArg UInt8.toNat h
      rw [toNat_byte hd, toNat_byte hc] at hn
      exact Char.toNat_inj.mp hn.symm
    · have hb := beyond_of_mem_encode (Nat.not_lt.mp hd) h
      rw [toNat_byte hc] at hb
      omega
  · rintro rfl
    rw [encode_ascii hc]
    exact List.mem_cons_self

theorem stored_ascii {s : List Char} (h : ∀ c ∈ s, c.toNat < 128) : stored s = s.map byte := by
  induction s with
  | nil => rfl
  | cons c s ih =>
    rw [stored_cons, encode_ascii (h c List.mem_cons_self),
      ih fun d hd => h d (List.mem_cons_of_mem c hd)]
    rfl

theorem byteLength_ascii {s : List Char} (h : ∀ c ∈ s, c.toNat < 128) : byteLength s = s.length := by
  rw [← length_stored, stored_ascii h, List.length_map]

theorem head?_stored {c : Char} (hc : c.toNat < 128) {s : List Char} :
    (stored s).head? = some (byte c) ↔ s.head? = some c := by
  cases s with
  | nil => simp [stored]
  | cons d s =>
    rw [stored_cons]
    by_cases hd : d.toNat < 128
    · rw [encode_ascii hd, List.singleton_append, List.head?_cons, List.head?_cons,
        Option.some_inj, Option.some_inj]
      constructor
      · intro h
        have hn := congrArg UInt8.toNat h
        rw [toNat_byte hd, toNat_byte hc] at hn
        exact Char.toNat_inj.mp hn
      · rintro rfl
        rfl
    · obtain ⟨b, bs, he, hb⟩ := encode_beyond (Nat.not_lt.mp hd)
      rw [he]
      constructor
      · intro h
        have hn := congrArg UInt8.toNat (Option.some.inj h)
        rw [toNat_byte hc] at hn
        omega
      · rintro ⟨⟩
        exact absurd hc hd

theorem splitBytes?_eq_some {n : Nat} {s a b : List Char} (h : splitBytes? n s = some (a, b)) :
    s = a ++ b ∧ byteLength a = n := by
  fun_induction splitBytes? n s generalizing a with
  | case1 s =>
    cases h
    exact ⟨rfl, rfl⟩
  | case2 => cases h
  | case3 n c s hc ih =>
    obtain ⟨⟨x, y⟩, hxy, he⟩ := Option.map_eq_some_iff.mp h
    cases he
    obtain ⟨rfl, hlen⟩ := ih hxy
    refine ⟨rfl, ?_⟩
    rw [byteLength_cons, hlen]
    omega
  | case4 => cases h

theorem slice?_eq_some {s b : List Char} {start stop : Nat} (h : slice? s start stop = some b) :
    ∃ a c, s = a ++ b ++ c ∧ byteLength a = start ∧ byteLength b = stop - start := by
  unfold slice? at h
  obtain ⟨-, -, h⟩ := Option.bind_eq_some_iff.mp h
  obtain ⟨⟨a, t⟩, ha, h⟩ := Option.bind_eq_some_iff.mp h
  obtain ⟨⟨b', c⟩, hb, h⟩ := Option.bind_eq_some_iff.mp h
  cases h
  obtain ⟨rfl, hlen⟩ := splitBytes?_eq_some ha
  obtain ⟨rfl, hlen'⟩ := splitBytes?_eq_some hb
  exact ⟨a, c, by simp, hlen, hlen'⟩

end XorScan.StoredText
