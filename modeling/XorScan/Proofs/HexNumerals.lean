import XorScan.Proofs.LiteralSpelling
import Mathlib.Algebra.Group.Nat.Defs
import Mathlib.Data.List.Induction

namespace XorScan.HexNumerals

open LiteralSpelling

variable {c : Char}

theorem lt_of_isDigit (h : Hex.isDigit c) : c.toNat < 128 := by
  have hle : ∀ {z : Char}, c ≤ z → z.toNat < 128 → c.toNat < 128 := fun h hz =>
    Nat.lt_of_le_of_lt (UInt32.le_iff_toNat_le.mp h) hz
  unfold Hex.isDigit Hex.digit? at h
  split at h
  next hc => exact hle hc.2 (by decide)
  · split at h
    next hc => exact hle hc.2 (by decide)
    · split at h
      next hc => exact hle hc.2 (by decide)
      · cases h

theorem mem_hexDigits {m : Nat} (h : Hex.digit? c = some m) : (c, m) ∈ hexDigits := by
  have hall : ∀ n < 128, ∀ m ∈ Hex.digit? (Char.ofNat n), (Char.ofNat n, m) ∈ hexDigits := by decide
  have hc := hall c.toNat (lt_of_isDigit (by rw [Hex.isDigit, h]; rfl)) m
  rw [Char.ofNat_toNat] at hc
  exact hc h

theorem value_concat (ds : List Char) (d : Char) :
    Hex.value (ds ++ [d]) = 16 * Hex.value ds + (Hex.digit? d).getD 0 := by
  simp [Hex.value]

/-- Numerals are the rows of hexadecimal digits, each with its value. -/
theorem numeral_iff {ds : List Char} {n : Nat} :
    Numeral ds n ↔ (∀ d ∈ ds, Hex.isDigit d = true) ∧ Hex.value ds = n := by
  constructor
  · exact Numeral.read
  · rintro ⟨hds, rfl⟩
    induction ds using List.reverseRecOn with
    | nil => exact .nil
    | append_singleton ds d ih =>
      obtain ⟨m, hm⟩ := Option.isSome_iff_exists.mp (hds d (by simp))
      rw [value_concat, hm]
      exact .snoc (ih fun x hx => hds x (by simp [hx])) (mem_hexDigits hm)

theorem numeral_lt {ds : List Char} {n : Nat} (h : Numeral ds n) : n < 16 ^ ds.length := by
  induction h with
  | nil => simp
  | @snoc ds x n m h hx ih =>
    have hall : ∀ p ∈ hexDigits, p.2 < 16 := by decide
    have hm := hall _ hx
    rw [List.length_append, List.length_singleton, Nat.pow_succ]
    dsimp only at hm
    omega

end XorScan.HexNumerals
