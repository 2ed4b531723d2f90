import XorScan.Cursor
import Mathlib.Order.Bounds.Defs

namespace XorScan.CursorPlacement

open Cursor

/-- What can be done with a cursor. Looking stands for every operation that moves nothing. -/
inductive Operation where
  | bump
  | eat (c : Char)
  | eatText (t : List Char)
  | eatWhile (p : Char → Bool)
  | eatWhileWith (p : List Char → Char → Bool)
  | skipBytes (n : Nat)
  | look

def apply (k : Cursor) : Operation → Cursor
  | .bump => k.bump.2
  | .eat c => (k.eat c).2
  | .eatText t => (k.eatText t).2
  | .eatWhile p => (k.eatWhile p).2
  | .eatWhileWith p => (k.eatWhileWith p).2
  | .skipBytes n => k.skipBytes n
  | .look => k

def reached (k : Cursor) (ops : List Operation) : Cursor := ops.foldl apply k

/-- The byte offset `b` lies between two characters of `s`, or at one of its ends. -/
def IsBoundary (s : List Char) (b : Nat) : Prop := ∃ a r, s = a ++ r ∧ b = Text.byteLength a

/-- The cursor passes over the text `w`, and `k'` is where it stands then. -/
structure Passes (k : Cursor) (w : List Char) (k' : Cursor) : Prop where
  source : k'.source = k.source
  rest : k.rest = w ++ k'.rest
  position : k'.position = k.position.advanceAll w

/-- A cursor of `s` stands between two characters, its position counts those before it, and all that
it reads is cut out of `s` at its offset. -/
structure WellPlaced (s : List Char) (k : Cursor) : Prop where
  source : k.source = s
  boundary : IsBoundary s k.offset
  inside : k.offset ≤ Text.byteLength s
  counts : ∃ a, s = a ++ k.rest ∧ k.offset = Text.byteLength a ∧
    k.position = Position.start.advanceAll a
  reads : ∃ r, Text.slice? s k.offset (Text.byteLength s) = some r ∧ k.rest = r ∧
    k.current = r.head? ∧ k.bump.1 = r.head? ∧ ∀ n, k.peek n = r[n]?
  atEnd : k.isAtEnd = true ↔ k.current = none
  atLength : k.isAtEnd = true ↔ Text.byteLength s ≤ k.offset

/-- The cursor has come from `k` to `k'`: it has not moved back, and the text from the offset of `k`
on is what it has passed over. -/
structure Onward (k k' : Cursor) : Prop where
  offset : k.offset ≤ k'.offset
  slice : ∃ w, k.rest = w ++ k'.rest ∧ k'.position = k.position.advanceAll w ∧
    k'.sliceFrom? k.offset = some w

structure Obedient (s : List Char) (k : Cursor) : Prop where
  bump : k.bump = (none, k) ∧ k.isAtEnd = true ∨ ∃ c, k.bump.1 = some c ∧ Passes k [c] k.bump.2
  eat : ∀ c, k.eat c = (false, k) ∧ k.current ≠ some c ∨ (k.eat c).1 = true ∧
    Passes k [c] (k.eat c).2 ∧ (k.eat c).2.offset = k.offset + c.utf8Size
  eatText : ∀ t, k.eatText t = (false, k) ∧ ¬ t <+: k.rest ∨ (k.eatText t).1 = true ∧
    Passes k t (k.eatText t).2 ∧ (k.eatText t).2.offset = k.offset + Text.byteLength t
  eatWhile : ∀ p, ∃ w, Passes k w (k.eatWhile p).2 ∧ (k.eatWhile p).1 = w.length ∧
    (∀ c ∈ w, p c = true) ∧ ∀ c, (k.eatWhile p).2.current = some c → p c = false
  eatWhileWith : ∀ p, ∃ w, Passes k w (k.eatWhileWith p).2 ∧ (k.eatWhileWith p).1 = w.length ∧
    (∀ a c b, w = a ++ c :: b → p a c = true) ∧
    ∀ c, (k.eatWhileWith p).2.current = some c → p w c = false
  skipBytes : ∀ n, k.offset + n ≤ Text.byteLength s →
    IsLeast {b | IsBoundary s b ∧ k.offset + n ≤ b} (k.skipBytes n).offset
  skipAll : ∀ n, Text.byteLength s < k.offset + n → (k.skipBytes n).isAtEnd = true

variable {k k' k'' : Cursor} {s w v : List Char}

theorem Passes.refl (k : Cursor) : Passes k [] k := ⟨rfl, rfl, rfl⟩

theorem Passes.trans (h : Passes k w k') (h' : Passes k' v k'') : Passes k (w ++ v) k'' where
  source := h'.source.trans h.source
  rest := by rw [h.rest, h'.rest, List.append_assoc]
  position := by rw [h'.position, h.position, Position.advanceAll_append]

theorem Passes.offset (h : Passes k w k') : k'.offset = k.offset + Text.byteLength w := by
  rw [Cursor.offset, h.position, Position.offset_advanceAll]
  rfl

theorem passes_skip (k : Cursor) (n : Nat) : Passes k (k.rest.take n) (k.skip n) :=
  ⟨rfl, (List.take_append_drop n k.rest).symm, rfl⟩

theorem passes_skip_of_eq {t : List Char} (h : k.rest = w ++ t) : Passes k w (k.skip w.length) := by
  have hs := passes_skip k w.length
  rwa [h, List.take_left] at hs

theorem eat_cases (k : Cursor) (c : Char) :
    k.eat c = (false, k) ∧ k.current ≠ some c ∨
      (k.eat c).1 = true ∧ Passes k [c] (k.eat c).2 := by
  by_cases hc : k.current = some c
  · obtain ⟨t, ht⟩ := List.head?_eq_some_iff.mp hc
    rw [eat, if_pos hc]
    exact .inr ⟨rfl, passes_skip_of_eq (w := [c]) ht⟩
  · exact .inl ⟨if_neg hc, hc⟩

theorem eatText_cases (k : Cursor) (t : List Char) :
    k.eatText t = (false, k) ∧ ¬ t <+: k.rest ∨
      (k.eatText t).1 = true ∧ Passes k t (k.eatText t).2 := by
  by_cases ht : t <+: k.rest
  · obtain ⟨r, hr⟩ := ht
    rw [eatText, startsWith, if_pos (List.isPrefixOf_iff_prefix.mpr ⟨r, hr⟩)]
    exact .inr ⟨rfl, passes_skip_of_eq hr.symm⟩
  · exact .inl ⟨if_neg (mt List.isPrefixOf_iff_prefix.mp ht), ht⟩

theorem exists_passes (k : Cursor) (op : Operation) : ∃ w, Passes k w (apply k op) := by
  cases op with
  | bump => exact ⟨_, passes_skip k 1⟩
  | eat c =>
    rw [apply]
    obtain ⟨h, -⟩ | ⟨-, h⟩ := eat_cases k c
    · rw [h]
      exact ⟨[], .refl k⟩
    · exact ⟨[c], h⟩
  | eatText t =>
    rw [apply]
    obtain ⟨h, -⟩ | ⟨-, h⟩ := eatText_cases k t
    · rw [h]
      exact ⟨[], .refl k⟩
    · exact ⟨t, h⟩
  | eatWhile p => exact ⟨_, passes_skip k _⟩
  | eatWhileWith p => exact ⟨_, passes_skip k _⟩
  | skipBytes n => exact ⟨_, passes_skip k _⟩
  | look => exact ⟨[], .refl k⟩

/-- Operations only take a cursor on, over one piece of its source. -/
theorem exists_passes_reached (k : Cursor) (ops : List Operation) :
    ∃ w, Passes k w (reached k ops) := by
  induction ops generalizing k with
  | nil => exact ⟨[], .refl k⟩
  | cons op ops ih =>
    obtain ⟨w, hw⟩ := exists_passes k op
    obtain ⟨v, hv⟩ := ih (apply k op)
    exact ⟨w ++ v, hw.trans hv⟩

theorem isAtEnd_iff : k.isAtEnd = true ↔ k.rest = [] := List.isEmpty_iff

theorem wellPlaced_of_passes {a : List Char} (h : Passes (ofSource s) a k) : WellPlaced s k := by
  have hs : s = a ++ k.rest := h.rest
  have ho : k.offset = Text.byteLength a := h.offset.trans (Nat.zero_add _)
  have hlen : Text.byteLength s = k.offset + Text.byteLength k.rest := by
    rw [ho, ← Text.byteLength_append, ← hs]
  have hcut : Text.slice? s k.offset (Text.byteLength s) = some k.rest := by
    have h := Text.slice?_append a k.rest []
    rwa [List.append_nil, ← hs, ← ho, ← hlen] at h
  refine ⟨h.source, ⟨a, k.rest, hs, ho⟩, by omega, ⟨a, hs, ho, h.position⟩,
    ⟨k.rest, hcut, rfl, rfl, rfl, fun n => rfl⟩, ?_, ?_⟩
  · rw [isAtEnd_iff, current, List.head?_eq_none_iff]
  · rw [isAtEnd_iff, hlen, ← Text.byteLength_eq_zero_iff]
    omega

theorem bump_cases (k : Cursor) :
    k.bump = (none, k) ∧ k.isAtEnd = true ∨ ∃ c, k.bump.1 = some c ∧ Passes k [c] k.bump.2 := by
  obtain ⟨source, rest, p⟩ := k
  cases rest with
  | nil => exact .inl ⟨rfl, rfl⟩
  | cons c r => exact .inr ⟨c, rfl, rfl, rfl, rfl⟩

theorem allowed_spec (p : List Char → Char → Bool) (seen r : List Char) :
    ∃ w t, r = w ++ t ∧ allowed p seen r = w.length ∧
      (∀ a c b, w = a ++ c :: b → p (seen ++ a) c = true) ∧
      ∀ c, t.head? = some c → p (seen ++ w) c = false := by
  fun_induction allowed p seen r with
  | case1 => exact ⟨[], [], rfl, rfl, by simp, by simp⟩
  | case2 seen c r hc ih =>
    obtain ⟨w, t, rfl, hlen, hall, hstop⟩ := ih
    refine ⟨c :: w, t, rfl, by rw [hlen, List.length_cons], ?_, by simpa using hstop⟩
    intro a d b hab
    cases a with
    | nil =>
      obtain ⟨rfl, -⟩ := List.cons.inj hab
      simpa using hc
    | cons e a =>
      obtain ⟨rfl, hw⟩ := List.cons.inj hab
      simpa using hall a d b hw
  | case3 seen c r hc =>
    refine ⟨[], c :: r, rfl, rfl, by simp, ?_⟩
    rintro d ⟨⟩
    simpa using hc

theorem eatWhileWith_cases (k : Cursor) (p : List Char → Char → Bool) :
    ∃ w, Passes k w (k.eatWhileWith p).2 ∧ (k.eatWhileWith p).1 = w.length ∧
      (∀ a c b, w = a ++ c :: b → p a c = true) ∧
      ∀ c, (k.eatWhileWith p).2.current = some c → p w c = false := by
  obtain ⟨w, t, hr, hlen, hall, hstop⟩ := allowed_spec p [] k.rest
  have hp := passes_skip_of_eq hr
  have ht : (k.skip w.length).rest = t := List.append_cancel_left (hp.rest.symm.trans hr)
  rw [eatWhileWith, hlen]
  exact ⟨w, hp, rfl, hall, fun c hc => hstop c (ht ▸ hc)⟩

theorem allowed_of_forgetful (p : Char → Bool) (seen r : List Char) :
    allowed (fun _ => p) seen r = (r.takeWhile p).length := by
  induction r generalizing seen with
  | nil => rfl
  | cons c r ih => by_cases hc : p c <;> simp [allowed, hc, ih]

theorem eatWhileWith_of_forgetful (k : Cursor) (p : Char → Bool) :
    k.eatWhileWith (fun _ => p) = k.eatWhile p := by
  rw [eatWhileWith, allowed_of_forgetful, eatWhile]

theorem eatWhile_cases (k : Cursor) (p : Char → Bool) :
    ∃ w, Passes k w (k.eatWhile p).2 ∧ (k.eatWhile p).1 = w.length ∧ (∀ c ∈ w, p c = true) ∧
      ∀ c, (k.eatWhile p).2.current = some c → p c = false := by
  obtain ⟨w, hp, hlen, hall, hstop⟩ := eatWhileWith_cases k fun _ => p
  rw [eatWhileWith_of_forgetful] at hp hlen hstop
  refine ⟨w, hp, hlen, ?_, hstop⟩
  intro c hc
  obtain ⟨a, b, hw⟩ := List.append_of_mem hc
  exact hall a c b hw

/-- The characters that cover `n` bytes of a long enough text do so, and no shorter piece does. -/
theorem covering_spec {n : Nat} {r : List Char} (h : n ≤ Text.byteLength r) :
    n ≤ Text.byteLength (r.take (covering n r)) ∧
      ∀ x, x <+: r → n ≤ Text.byteLength x → r.take (covering n r) <+: x := by
  fun_induction covering n r with
  | case1 => simp
  | case2 => simp at h
  | case3 n c r ih =>
    obtain ⟨hlow, hleast⟩ := ih (by simp only [Text.byteLength_cons] at h; omega)
    constructor
    · simp only [List.take_succ_cons, Text.byteLength_cons]
      omega
    · rintro x ⟨y, hxy⟩ hx
      cases x with
      | nil => simp at hx
      | cons d x =>
        obtain ⟨rfl, rfl⟩ := List.cons.inj hxy
        simp only [Text.byteLength_cons] at hx
        rw [List.take_succ_cons, List.cons_prefix_cons]
        exact ⟨rfl, hleast x ⟨y, rfl⟩ (by omega)⟩

theorem covering_of_lt {n : Nat} {r : List Char} (h : Text.byteLength r < n) :
    covering n r = r.length := by
  fun_induction covering n r with
  | case1 => simp at h
  | case2 => rfl
  | case3 n c r ih =>
    simp only [Text.byteLength_cons] at h
    rw [ih (by omega), List.length_cons]

theorem onward_of_passes {a : List Char} (h : Passes (ofSource s) a k) (hw : Passes k w k') :
    Onward k k' := by
  have ho : k.offset = Text.byteLength a := h.offset.trans (Nat.zero_add _)
  refine ⟨hw.offset ▸ Nat.le_add_right _ _, w, hw.rest, hw.position, ?_⟩
  have hs : k'.source = a ++ w ++ k'.rest := by
    rw [hw.source, h.source, List.append_assoc, ← hw.rest, ← h.rest]
    rfl
  rw [sliceFrom?, hs, hw.offset, ho]
  exact Text.slice?_append a w k'.rest

theorem exists_of_isBoundary {a r : List Char} {b : Nat} (h : IsBoundary (a ++ r) b)
    (hb : Text.byteLength a ≤ b) : ∃ x, x <+: r ∧ b = Text.byteLength a + Text.byteLength x := by
  obtain ⟨y, t, hs, rfl⟩ := h
  obtain ⟨x, rfl⟩ | ⟨x, rfl⟩ :=
    List.prefix_or_prefix_of_prefix (List.prefix_append a r) (hs ▸ List.prefix_append y t)
  · refine ⟨x, ⟨t, ?_⟩, Text.byteLength_append a x⟩
    rw [List.append_assoc] at hs
    exact (List.append_cancel_left hs).symm
  · refine ⟨[], List.nil_prefix, ?_⟩
    rw [Text.byteLength_append] at hb ⊢
    simp only [Text.byteLength_nil]
    omega

theorem isLeast_skipBytes {a : List Char} (h : Passes (ofSource s) a k) {n : Nat}
    (hn : k.offset + n ≤ Text.byteLength s) :
    IsLeast {b | IsBoundary s b ∧ k.offset + n ≤ b} (k.skipBytes n).offset := by
  have hs : s = a ++ k.rest := h.rest
  have ho : k.offset = Text.byteLength a := h.offset.trans (Nat.zero_add _)
  have hskip : Passes k _ (k.skipBytes n) := passes_skip k (covering n k.rest)
  have hlen : n ≤ Text.byteLength k.rest := by
    rw [hs, Text.byteLength_append] at hn
    omega
  obtain ⟨hlow, hleast⟩ := covering_spec hlen
  refine ⟨⟨(wellPlaced_of_passes (h.trans hskip)).boundary, ?_⟩, ?_⟩
  · rw [hskip.offset]
    omega
  · rintro b ⟨hb, hle⟩
    rw [hs] at hb
    obtain ⟨x, hx, rfl⟩ := exists_of_isBoundary hb (by omega)
    obtain ⟨y, rfl⟩ := hleast x hx (by omega)
    rw [hskip.offset, ho, Text.byteLength_append]
    omega

theorem isAtEnd_skipBytes {a : List Char} (h : Passes (ofSource s) a k) {n : Nat}
    (hn : Text.byteLength s < k.offset + n) : (k.skipBytes n).isAtEnd = true := by
  have hs : s = a ++ k.rest := h.rest
  have ho : k.offset = Text.byteLength a := h.offset.trans (Nat.zero_add _)
  have hlt : Text.byteLength k.rest < n := by
    rw [hs, Text.byteLength_append] at hn
    omega
  rw [isAtEnd_iff, skipBytes, covering_of_lt hlt]
  exact List.drop_length

theorem obedient_of_passes {a : List Char} (h : Passes (ofSource s) a k) : Obedient s k where
  bump := bump_cases k
  eat c := by
    obtain hc | ⟨hc, hp⟩ := eat_cases k c
    · exact .inl hc
    · exact .inr ⟨hc, hp, hp.offset⟩
  eatText t := by
    obtain ht | ⟨ht, hp⟩ := eatText_cases k t
    · exact .inl ht
    · exact .inr ⟨ht, hp, hp.offset⟩
  eatWhile := eatWhile_cases k
  eatWhileWith := eatWhileWith_cases k
  skipBytes _ := isLeast_skipBytes h
  skipAll _ := isAtEnd_skipBytes h

theorem reached_append (k : Cursor) (ops later : List Operation) :
    reached k (ops ++ later) = reached (reached k ops) later := List.foldl_append

/-- Whatever is done with a cursor and in whatever order, it stands between two characters with its
position in step, moves only onward, and answers each operation by what lies before it. -/
theorem cursor_keeps_place (s : List Char) (ops later : List Operation) :
    WellPlaced s (reached (ofSource s) ops) ∧
      Onward (reached (ofSource s) ops) (reached (ofSource s) (ops ++ later)) ∧
      Obedient s (reached (ofSource s) ops) := by
  obtain ⟨a, ha⟩ := exists_passes_reached (ofSource s) ops
  obtain ⟨w, hw⟩ := exists_passes_reached (reached (ofSource s) ops) later
  rw [reached_append]
  exact ⟨wellPlaced_of_passes ha, onward_of_passes ha hw, obedient_of_passes ha⟩

/-- A byte count that ends inside a character is rounded up to the end of it. -/
example : (reached (ofSource ['a', 'é', '\n', 'b']) [.bump, .skipBytes 1]).position =
    ⟨0, 2, 3⟩ := by
  decide

end XorScan.CursorPlacement
