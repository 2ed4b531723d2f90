import XorScan.Proofs.Cutting
import XorScan.Proofs.Lifecycle
import XorScan.Proofs.Lossless
import XorScan.Proofs.PrintedTokens
import XorScan.Proofs.Respacing

namespace XorScan.HiddenTrivia

open Cutting Lossless PrintedTokens Respacing Tokenization

variable {s : List Char} {ts : List Token} {t : Token}

theorem munches_split {s r : List Char} {ls ms : List (Kind × List Char)}
    (h : Munches s (ls ++ ms) r) : ∃ t, Munches s ls t ∧ Munches t ms r := by
  induction ls generalizing s with
  | nil => exact ⟨s, .done, h⟩
  | cons l ls ih =>
    cases h with
    | step hs hr =>
      obtain ⟨t, hls, hms⟩ := ih hr
      exact ⟨t, .step hs hls, hms⟩

/-- Tokens that follow each other in a scan are the tokens of their own text, with other places. -/
theorem tokenize_between {us vs ws : List Token} (h : tokenize s = .ok (us ++ vs ++ ws))
    (hw : ws ≠ []) :
    ∃ xs p, tokenize (vs.flatMap Token.text) = .ok (xs ++ [Token.endOfInput p]) ∧
      xs.map piece = vs.map piece := by
  obtain ⟨ls, hm, hts⟩ := munches_of_tokenize h
  -- The end of input is the last token, so all of `vs` lies before it.
  have hplace : us ++ vs ++ ws.dropLast = place .start ls := by
    rw [← List.dropLast_append_getLast hw, ← List.append_assoc] at hts
    exact (List.append_inj' hts rfl).1
  have hls : us.map piece ++ vs.map piece ++ ws.dropLast.map piece = ls := by
    rw [← List.map_append, ← List.map_append, hplace, map_piece_place]
  rw [← hls] at hm
  obtain ⟨r, hm, -⟩ := munches_split hm
  obtain ⟨q, -, hm⟩ := munches_split hm
  have htexts : spelled (vs.map piece) = vs.flatMap Token.text := List.flatMap_map ..
  have htok := tokenize_of_munches (munches_spelled hm)
  rw [htexts] at htok
  exact ⟨_, _, htok, map_piece_place _ _⟩

theorem adjoining_of_tokenize (h : tokenize s = .ok ts) : Adjoining .start ts := by
  obtain ⟨ls, hm, rfl⟩ := munches_of_tokenize h
  have hs : s = spelled ls := by simpa using hm.eq_append
  refine adjoining_append.mpr ⟨adjoining_place _ _, ?_, trivial⟩
  rw [texts_place, ← hs]
  rfl

theorem offset_of_tokenize {us vs : List Token} (h : tokenize s = .ok (us ++ t :: vs)) :
    t.position.offset = Text.byteLength (us.flatMap Token.text) := by
  rw [(adjoining_append.mp (adjoining_of_tokenize h)).2.1, Position.offset_advanceAll]
  exact Nat.zero_add _

theorem endOffset_of_tokenize {us vs : List Token} (h : tokenize s = .ok (us ++ t :: vs)) :
    t.endOffset = Text.byteLength ((us ++ [t]).flatMap Token.text) := by
  rw [Token.endOffset, offset_of_tokenize h, List.flatMap_append, Text.byteLength_append,
    List.flatMap_singleton, Token.size]

/-- What stands in a source between the tokens `us` and the tokens `ws` is cut out as the text of
the tokens `vs`. -/
theorem slice?_of_tokenize (us vs ws : List Token) (h : tokenize s = .ok (us ++ vs ++ ws)) :
    Text.slice? s (Text.byteLength (us.flatMap Token.text))
      (Text.byteLength ((us ++ vs).flatMap Token.text)) = some (vs.flatMap Token.text) := by
  have hs := texts_of_tokenize h
  rw [List.flatMap_append, List.flatMap_append] at hs
  rw [← hs, List.flatMap_append, Text.byteLength_append]
  exact Text.slice?_append _ _ _

def ScansToTrivia (g : List Char) : Prop :=
  ∃ us p, tokenize g = .ok (us ++ [Token.endOfInput p]) ∧ ∀ t ∈ us, t.isTrivia = true

theorem scansToTrivia_of_tokenize (us vs ws : List Token)
    (h : tokenize s = .ok (us ++ vs ++ ws)) (hw : ws ≠ []) (hv : ∀ t ∈ vs, t.isTrivia = true) :
    ScansToTrivia (vs.flatMap Token.text) := by
  obtain ⟨xs, p, hxs, hpiece⟩ := tokenize_between h hw
  refine ⟨xs, p, hxs, ?_⟩
  intro t ht
  have hmem : piece t ∈ vs.map piece := hpiece ▸ List.mem_map_of_mem ht
  obtain ⟨v, hvm, hpv⟩ := List.mem_map.mp hmem
  have hkind : v.kind = t.kind := congrArg Prod.fst hpv
  rw [Token.isTrivia, ← hkind]
  exact hv v hvm

/-- The texts that are shown stand in the source at their offsets, and there is nothing but trivia
between two of them and before the first. -/
structure HidesTrivia (s : List Char) (shown : List Entry) : Prop where
  texts : ∀ e ∈ shown, Text.slice? s e.offset e.endOffset = some e.text
  before : ∀ e es, shown = e :: es → ∃ g, Text.slice? s 0 e.offset = some g ∧ ScansToTrivia g
  between : ∀ es e e' es', shown = es ++ e :: e' :: es' →
    ∃ g, Text.slice? s e.endOffset e'.offset = some g ∧ ScansToTrivia g

theorem isTrivia_of_not_shown (h : ¬ t.isShown false = true) : t.isTrivia = true := by
  simpa [Token.isShown] using h

theorem text_of_tokenize (h : tokenize s = .ok ts) (ht : t ∈ ts) :
    Text.slice? s t.position.offset t.endOffset = some t.text := by
  obtain ⟨us, vs, rfl⟩ := List.append_of_mem ht
  have hcut := slice?_of_tokenize us [t] vs (by simpa using h)
  rwa [← offset_of_tokenize h, ← endOffset_of_tokenize h, List.flatMap_singleton] at hcut

theorem before_of_tokenize {vs : List Token} (h : tokenize s = .ok ts)
    (hts : ts.filter (·.isShown false) = t :: vs) :
    ∃ g, Text.slice? s 0 t.position.offset = some g ∧ ScansToTrivia g := by
  obtain ⟨us, ws, rfl, hus, -, -⟩ := List.filter_eq_cons_iff.mp hts
  refine ⟨us.flatMap Token.text, ?_, ?_⟩
  · rw [offset_of_tokenize h]
    exact slice?_of_tokenize [] us (t :: ws) h
  · apply scansToTrivia_of_tokenize [] us (t :: ws) h (by simp)
    intro x hx
    exact isTrivia_of_not_shown (hus x hx)

theorem between_of_tokenize {us vs : List Token} {u : Token} (h : tokenize s = .ok ts)
    (hts : ts.filter (·.isShown false) = us ++ t :: u :: vs) :
    ∃ g, Text.slice? s t.endOffset u.position.offset = some g ∧ ScansToTrivia g := by
  obtain ⟨xs, l, rfl, -, hl⟩ := List.filter_eq_append_iff.mp hts
  obtain ⟨ys, m, rfl, -, -, hm⟩ := List.filter_eq_cons_iff.mp hl
  obtain ⟨zs, ws, rfl, hzs, -, -⟩ := List.filter_eq_cons_iff.mp hm
  rw [← List.append_assoc] at h
  have hend := endOffset_of_tokenize h
  have hsplit : xs ++ ys ++ t :: (zs ++ u :: ws) = (xs ++ ys ++ [t]) ++ zs ++ u :: ws := by simp
  rw [hsplit] at h
  refine ⟨zs.flatMap Token.text, ?_, ?_⟩
  · rw [hend, offset_of_tokenize h]
    exact slice?_of_tokenize _ zs (u :: ws) h
  · apply scansToTrivia_of_tokenize _ zs (u :: ws) h (by simp)
    intro x hx
    exact isTrivia_of_not_shown (hzs x hx)

theorem hidesTrivia_of_tokenize (h : tokenize s = .ok ts) :
    HidesTrivia s ((ts.filter (·.isShown false)).map .ofToken) where
  texts e he := by
    obtain ⟨t, ht, rfl⟩ := List.mem_map.mp he
    exact text_of_tokenize h (List.mem_of_mem_filter ht)
  before e es hes := by
    obtain ⟨t, vs, hts, rfl, -⟩ := List.map_eq_cons_iff.mp hes
    exact before_of_tokenize h hts
  between es e e' es' hes := by
    obtain ⟨us, l, hts, -, hl⟩ := List.map_eq_append_iff.mp hes
    obtain ⟨t, m, rfl, rfl, hm⟩ := List.map_eq_cons_iff.mp hl
    obtain ⟨u, vs, rfl, rfl, -⟩ := List.map_eq_cons_iff.mp hm
    exact between_of_tokenize h hts

end XorScan.HiddenTrivia
