import Mathlib.Data.List.Basic
import Mathlib.Tactic.SplitIfs
import XorScan.Json
import XorScan.Proofs.CharRun
import XorScan.Proofs.Delimiting

namespace XorScan.JsonText

open CharRun Delimiting Json

def letter? : Char → Option Char
  | '"' => some '"'
  | '\\' => some '\\'
  | 'b' => some '\x08'
  | 'f' => some '\x0c'
  | 'n' => some '\n'
  | 'r' => some '\r'
  | 't' => some '\t'
  | _ => none

def readEscape : List Char → Option (Char × List Char)
  | 'u' :: a :: b :: c :: d :: x => some (Char.ofNat (Hex.value [a, b, c, d]), x)
  | c :: x => (letter? c).map (·, x)
  | [] => none

def readChar : List Char → Option (Char × List Char)
  | c :: x => if c = '\\' then readEscape x else some (c, x)
  | [] => none

theorem exists_control_digits {n : Nat} (h : n < 0x20) :
    ∃ a b, List.replicate (2 - (Hex.lower n).length) '0' ++ Hex.lower n = [a, b] ∧
      Hex.value ['0', '0', a, b] = n := by
  have hall : ∀ n < 0x20,
      (List.replicate (2 - (Hex.lower n).length) '0' ++ Hex.lower n).length = 2 ∧
        Hex.value ('0' :: '0' :: (List.replicate (2 - (Hex.lower n).length) '0' ++ Hex.lower n)) =
          n := by decide
  obtain ⟨hlen, hv⟩ := hall n h
  obtain ⟨a, b, hab⟩ := List.length_eq_two.mp hlen
  exact ⟨a, b, hab, hab ▸ hv⟩

theorem readChar_escapeChar (c : Char) (x : List Char) :
    readChar (escapeChar c ++ x) = some (c, x) := by
  unfold escapeChar
  split_ifs with hq hb h8 hc hn hr ht hu
  · subst hq; rfl
  · subst hb; rfl
  · subst h8; rfl
  · subst hc; rfl
  · subst hn; rfl
  · subst hr; rfl
  · subst ht; rfl
  · obtain ⟨a, b, hab, hv⟩ := exists_control_digits hu
    rw [List.append_assoc ['\\', 'u', '0', '0'], hab]
    simp [readChar, readEscape, hv]
  · exact if_neg hb

theorem head?_escapeChar_ne (c : Char) (x : List Char) : (escapeChar c ++ x).head? ≠ some '"' := by
  unfold escapeChar
  split_ifs with hq
  all_goals simp
  exact hq

def EndsNumber (x : List Char) : Prop := ∀ c, x.head? = some c → c.isDigit = false

theorem endsNumber_of_head? {x : List Char} {c : Char} (h : x.head? = some c)
    (hc : c.isDigit = false) : EndsNumber x := by
  intro d hd
  obtain rfl := Option.some.inj (h.symm.trans hd)
  exact hc

theorem toList_string (s : List Char) :
    (string s).toList = ['"'] ++ s.flatMap escapeChar ++ ['"'] := String.toList_ofList

theorem delimits_string : Delimits (fun s => (string s).toList) fun _ => True := by
  have hchar : Delimits escapeChar fun _ => True := delimits_of_read fun c x _ =>
    readChar_escapeChar c x
  have hrow : Delimits (fun s : List Char => s.flatMap escapeChar) fun x => x.head? = some '"' :=
    hchar.row (fun _ _ => trivial) (fun _ _ => trivial) head?_escapeChar_ne
  simp only [toList_string]
  exact hrow.between ['"'] ['"'] fun _ _ => rfl

theorem toList_toString (n : Nat) : (toString n).toList = Nat.toDigits 10 n := by
  rw [Nat.toString_eq_ofList_toDigits, String.toList_ofList]

theorem isRun_toDigits (n : Nat) {x : List Char} (hx : EndsNumber x) :
    IsRun Char.isDigit (Nat.toDigits 10 n) x :=
  ⟨fun _ hc => Nat.isDigit_of_mem_toDigits (by decide) (by decide) hc, hx⟩

theorem delimits_number : Delimits (fun n : Nat => (toString n).toList) EndsNumber := by
  intro n m x y hx hy h
  simp only [toList_toString] at h
  obtain ⟨hd, rfl⟩ := (isRun_toDigits n hx).unique (isRun_toDigits m hy) h
  have hv := congrArg (Nat.ofDigitChars 10 · 0) hd
  simp only [Nat.ofDigitChars_ten_toDigits] at hv
  exact ⟨hv, rfl⟩

theorem string_ne_number (s : List Char) (n : Nat) (x y : List Char) :
    (string s).toList ++ x ≠ (toString n).toList ++ y := by
  rw [toList_string, toList_toString]
  obtain ⟨d, ds, hd⟩ := List.exists_cons_of_ne_nil (Nat.toDigits_ne_nil (n := n) (b := 10))
  have hdigit : d.isDigit = true :=
    Nat.isDigit_of_mem_toDigits (b := 10) (n := n) (by decide) (by decide) (hd ▸ List.mem_cons_self)
  intro h
  rw [hd] at h
  obtain ⟨rfl, -⟩ := List.cons.inj h
  simp at hdigit

theorem delimits_scalar : Delimits (fun v : Scalar => v.render.toList) EndsNumber := by
  rintro (s | n) (t | m) x y hx hy h
  · obtain ⟨rfl, rfl⟩ := delimits_string trivial trivial h
    exact ⟨rfl, rfl⟩
  · exact absurd h (string_ne_number s m x y)
  · exact absurd h.symm (string_ne_number t n y x)
  · obtain ⟨rfl, rfl⟩ := delimits_number hx hy h
    exact ⟨rfl, rfl⟩

def keyText (k : String) : List Char :=
  [' ', ' ', ' ', ' '] ++ (string k.toList).toList ++ [':', ' ']

def fieldText (p : String × Scalar) : List Char := keyText p.1 ++ p.2.render.toList

theorem delimits_key : Delimits keyText fun _ => True := by
  have hkey : Delimits (fun k : String => (string k.toList).toList) fun _ => True :=
    delimits_string.comp fun _ _ => String.toList_injective
  exact hkey.between [' ', ' ', ' ', ' '] [':', ' '] fun _ _ => trivial

theorem delimits_field : Delimits fieldText EndsNumber := by
  have hpair := delimits_key.pair delimits_scalar fun _ _ _ => trivial
  exact hpair

theorem delimits_members {α : Type} {f : α → List Char} {ok : List Char → Prop}
    (h : Delimits f ok) (hok : ∀ x, EndsNumber x → ok x)
    (hf : ∀ a x, (f a ++ x).head? = some ' ') :
    Delimits (fun as : List α => [',', '\n'].intercalate (as.map f))
      fun x => x.head? = some '\n' := by
  apply h.intercalate
  · exact fun x => hok _ (endsNumber_of_head? (c := ',') rfl rfl)
  · exact fun x hx => hok _ (endsNumber_of_head? hx rfl)
  · intro x hx
    cases hx
  · intro a x hx
    cases (hf a x).symm.trans hx

def recordText (r : Record) : List Char :=
  [' ', ' ', '{', '\n'] ++ [',', '\n'].intercalate (r.map fieldText) ++ ['\n', ' ', ' ', '}']

theorem delimits_record : Delimits recordText fun _ => True := by
  have hfields := delimits_members delimits_field (fun _ hx => hx) fun _ _ => rfl
  exact hfields.between [' ', ' ', '{', '\n'] ['\n', ' ', ' ', '}'] fun _ _ => rfl

theorem toList_pretty (r : Record) : r.pretty.toList = recordText r := by
  have hfield : ∀ p : String × Scalar,
      ("    " ++ string p.1.toList ++ ": " ++ p.2.render).toList = fieldText p := by
    intro p
    simp [fieldText, keyText]
  simp only [Record.pretty, String.toList_append, String.toList_intercalate, List.map_map,
    Function.comp_def, hfield]
  rfl

theorem toList_prettyArray {rs : List Record} (h : rs ≠ []) : (prettyArray rs).toList =
    ['[', '\n'] ++ [',', '\n'].intercalate (rs.map recordText) ++ ['\n', ']'] := by
  unfold prettyArray
  split
  · exact absurd rfl h
  · simp [String.toList_intercalate, Function.comp_def, toList_pretty]

/-- An array can be read in its text, field by field. -/
theorem prettyArray_injective {rs rs' : List Record} (h : prettyArray rs = prettyArray rs') :
    rs = rs' := by
  have hrecords := delimits_members delimits_record (fun _ _ => trivial) fun _ _ => rfl
  have harray : Delimits (fun qs : List Record =>
      ['[', '\n'] ++ [',', '\n'].intercalate (qs.map recordText) ++ ['\n', ']']) fun _ => True :=
    hrecords.between ['[', '\n'] ['\n', ']'] fun _ _ => rfl
  have hempty : ∀ {qs : List Record}, qs ≠ [] → prettyArray qs ≠ "[]" := by
    intro qs hqs he
    have hl := congrArg String.toList he
    rw [toList_prettyArray hqs] at hl
    cases (List.cons.inj (List.cons.inj hl).2).1
  by_cases hrs : rs = []
  · subst hrs
    by_contra hne
    exact hempty (Ne.symm hne) h.symm
  · have hrs' : rs' ≠ [] := by
      rintro rfl
      exact hempty hrs h
    have hl := congrArg String.toList h
    rw [toList_prettyArray hrs, toList_prettyArray hrs'] at hl
    exact (harray (x := []) (y := []) trivial trivial (by simpa using hl)).1

end XorScan.JsonText
