import XorScan.LiteralBody
import XorScan.Proofs.EscapeGrammar

namespace XorScan.LiteralUnits

open Escape EscapeGrammar

variable {d : Char}

/-- One unit of a literal inside quotes `d`, and the character that it stands for. -/
inductive IsUnit (d : Char) : List Char → Char → Prop
  | plain {c : Char} (hd : c ≠ d) (hb : c ≠ '\\') (hn : c ≠ '\n') : IsUnit d [c] c
  | escape {e : List Char} {v : Char} (h : decode e = .ok (v, e.length)) : IsUnit d ('\\' :: e) v

inductive IsBody (d : Char) : List Char → List Char → Prop
  | nil : IsBody d [] []
  | cons {u s vs : List Char} {v : Char} (hu : IsUnit d u v) (hs : IsBody d s vs) :
      IsBody d (u ++ s) (v :: vs)

theorem isBody_append {s t vs ws : List Char} (hs : IsBody d s vs) (ht : IsBody d t ws) :
    IsBody d (s ++ t) (vs ++ ws) := by
  induction hs with
  | nil => exact ht
  | cons hu hs ih =>
    rw [List.append_assoc]
    exact .cons hu ih

/-- The places where no unit begins, each with what it does to the literal. -/
inductive Halts (d : Char) : List Char → LiteralEnd → Prop
  | textEnd : Halts d [] .cutOff
  | lineEnd {t : List Char} : Halts d ('\n' :: t) .cutOff
  | quote {t : List Char} : Halts d (d :: t) .closed
  | openEscape {t : List Char} (h : t = [] ∨ ∃ x, t = '\n' :: x) : Halts d ('\\' :: t) .cutOff
  | badEscape {t : List Char} {e : EscapeError} (h : ¬ (t = [] ∨ ∃ x, t = '\n' :: x))
      (he : decode t = .error e) : Halts d ('\\' :: t) (.badEscape e)

theorem atLineEnd_iff {t : List Char} : LiteralBody.atLineEnd t = true ↔ t = [] ∨ ∃ x, t = '\n' :: x := by
  cases t <;> simp [LiteralBody.atLineEnd]

theorem decode_nil_or_lineFeed {t : List Char} (h : t = [] ∨ ∃ x, t = '\n' :: x) :
    ∃ e, decode t = .error e := by
  obtain rfl | ⟨x, rfl⟩ := h
  · exact ⟨_, rfl⟩
  · exact ⟨.unknown '\n', rfl⟩

theorem read_unit (hd : d ≠ '\\') {u : List Char} {v : Char} (h : IsUnit d u v) (t : List Char) :
    LiteralBody.read d (u ++ t) = (LiteralBody.read d t).push v u.length := by
  cases h with
  | plain hc hb hn => simp [LiteralBody.read, hc, hb, hn]
  | @escape e v h =>
    have hdec := decode_append (isEscape_iff.mpr h) t
    have hl : ¬ LiteralBody.atLineEnd (e ++ t) = true := by
      intro hl
      obtain ⟨x, hx⟩ := decode_nil_or_lineFeed (atLineEnd_iff.mp hl)
      rw [hdec] at hx
      cases hx
    simp [LiteralBody.read, Ne.symm hd, hl, hdec]

theorem read_halts (hd : d ≠ '\\') (hn : d ≠ '\n') {t : List Char} {e : LiteralEnd}
    (h : Halts d t e) : LiteralBody.read d t = ⟨[], 0, e⟩ := by
  cases h with
  | textEnd => simp [LiteralBody.read]
  | lineEnd => simp [LiteralBody.read]
  | quote => simp [LiteralBody.read, hn]
  | openEscape h => simp [LiteralBody.read, Ne.symm hd, atLineEnd_iff.mpr h]
  | badEscape h he =>
    have hl := mt atLineEnd_iff.mp h
    simp [LiteralBody.read, Ne.symm hd, hl, he]

/-- Reading takes the units up to the place where it halts. -/
theorem read_body (hd : d ≠ '\\') (hn : d ≠ '\n') {s vs t : List Char} {e : LiteralEnd}
    (hs : IsBody d s vs) (ht : Halts d t e) :
    LiteralBody.read d (s ++ t) = ⟨vs, s.length, e⟩ := by
  induction hs with
  | nil => exact read_halts hd hn ht
  | cons hu hs ih =>
    rw [List.append_assoc, read_unit hd hu, ih, LiteralBody.push, List.length_append, Nat.add_comm]

theorem exists_body_halts (d : Char) (r : List Char) :
    ∃ s vs t e, r = s ++ t ∧ IsBody d s vs ∧ Halts d t e := by
  fun_induction LiteralBody.read d r with
  | case1 => exact ⟨[], [], [], .cutOff, rfl, .nil, .textEnd⟩
  | case2 r => exact ⟨[], [], _, .cutOff, rfl, .nil, .lineEnd⟩
  | case3 r => exact ⟨[], [], _, .closed, rfl, .nil, .quote⟩
  | case4 r hl => exact ⟨[], [], _, .cutOff, rfl, .nil, .openEscape (atLineEnd_iff.mp hl)⟩
  | case5 r hl e he =>
    exact ⟨[], [], _, .badEscape e, rfl, .nil, .badEscape (mt atLineEnd_iff.mpr hl) he⟩
  | case6 r _ v n hdec _ _ ih =>
    obtain ⟨x, y, rfl, rfl, hx⟩ := decode_eq_ok_iff.mp hdec
    obtain ⟨s, vs, t, e, hr, hs, ht⟩ := ih
    rw [List.drop_left] at hr
    exact ⟨'\\' :: x ++ s, v :: vs, t, e, by simp [hr], .cons (.escape (isEscape_iff.mp hx)) hs, ht⟩
  | case7 c r hn hd hb ih =>
    obtain ⟨s, vs, t, e, rfl, hs, ht⟩ := ih
    exact ⟨[c] ++ s, c :: vs, t, e, rfl, .cons (.plain hd hb hn) hs, ht⟩

/-- No unit begins where reading halts. -/
theorem Halts.not_prefix {t u : List Char} {e : LiteralEnd} {v : Char} (hd : d ≠ '\\')
    (hn : d ≠ '\n') (h : Halts d t e) (hu : IsUnit d u v) : ¬ u <+: t := by
  rintro ⟨x, rfl⟩
  have hr := read_halts hd hn h
  rw [read_unit hd hu, LiteralBody.push] at hr
  cases hr

end XorScan.LiteralUnits
