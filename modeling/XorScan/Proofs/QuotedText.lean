import XorScan.Proofs.CarriageReturns
import XorScan.Proofs.LiteralSpelling

namespace XorScan.QuotedText

open CarriageReturns LiteralSpelling LiteralUnits LiteralValues Text

theorem digitChar_mem_hexDigits {n : Nat} (h : n < 16) : (n.digitChar, n) ∈ hexDigits := by
  have hall : ∀ n < 16, (Nat.digitChar n, n) ∈ hexDigits := by decide
  exact hall n h

theorem numeral_lower (n : Nat) : Numeral (Hex.lower n) n := by
  induction n using Nat.strong_induction_on with
  | _ n ih =>
    rw [Hex.lower, Nat.toDigits_eq_if (by decide)]
    split
    next h =>
      have hn := Numeral.snoc .nil (digitChar_mem_hexDigits h)
      rwa [List.nil_append, Nat.mul_zero, Nat.zero_add] at hn
    next h =>
      have hdigit := digitChar_mem_hexDigits (Nat.mod_lt n (by decide : 0 < 16))
      have hn := Numeral.snoc (ih (n / 16) (by omega)) hdigit
      rwa [Nat.div_add_mod] at hn

theorem length_lower_toNat_le (c : Char) : (Hex.lower c.toNat).length ≤ 6 := by
  have hc : c.toNat < 16 ^ 6 := by
    have := c.valid
    simp only [UInt32.isValidChar, Nat.isValidChar, Char.toNat] at this ⊢
    omega
  exact (Nat.length_toDigits_le_iff (by decide) (by decide)).mpr hc

theorem encodes_quoteUnit (c : Char) : Encodes '"' c (quoteUnit '"' c) := by
  unfold quoteUnit
  split_ifs with h0 ht hr hn hb hq hu
  · exact .letter (by subst h0; decide)
  · exact .letter (by subst ht; decide)
  · exact .letter (by subst hr; decide)
  · exact .letter (by subst hn; decide)
  · exact .letter (by subst hb; decide)
  · exact .letter (by subst hq; decide)
  · exact .unicode Nat.toDigits_ne_nil (length_lower_toNat_le c) (numeral_lower c.toNat)
  · exact .verbatim hq hb hn

/-- The inside of a quoted text is the body of a string literal that stands for the text. -/
theorem isBody_quoted (s : List Char) : IsBody '"' (s.flatMap (quoteUnit '"')) s := by
  induction s with
  | nil => exact .nil
  | cons c s ih => exact .cons (isUnit_of_encodes (encodes_quoteUnit c)) ih

theorem toList_quote (s : List Char) :
    (quote s).toList = '"' :: s.flatMap (quoteUnit '"') ++ ['"'] := String.toList_ofList

theorem lineFeed_notMem_quote (s : List Char) : '\n' ∉ (quote s).toList := by
  rw [toList_quote]
  simpa using lineFeed_notMem_of_isBody (isBody_quoted s)

theorem quote_injective {s t : List Char} (h : quote s = quote t) : s = t := by
  have hl := congrArg String.toList h
  rw [toList_quote, toList_quote] at hl
  have hb := List.append_cancel_right (List.cons.inj hl).2
  have hs := unescape_of_body (isBody_quoted s)
  rw [hb, unescape_of_body (isBody_quoted t)] at hs
  exact (Except.ok.inj hs).symm

end XorScan.QuotedText
