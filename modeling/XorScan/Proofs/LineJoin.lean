import XorScan.Proofs.Continuation
import XorScan.Proofs.PositionCounts

namespace XorScan.LineJoin

open Continuation LexicalGrammar MaximalMunch PositionCounts Tokenization Translation

/-- The place that lies at `q` once `lines` whole lines of `bytes` bytes stand before the text. -/
def lower (lines bytes : Nat) (q : Position) : Position :=
  ⟨q.line + lines, q.column, q.offset + bytes⟩

def lowerToken (lines bytes : Nat) (t : Token) : Token :=
  ⟨t.kind, t.text, lower lines bytes t.position⟩

def lowerError (lines bytes : Nat) (e : ScanError) : ScanError :=
  ⟨e.fault, lower lines bytes e.position⟩

theorem shift_eq_lower (lines bytes : Nat) (q : Position) :
    shift ⟨lines, 0, bytes⟩ q = lower lines bytes q := by
  simp [shift, lower, Nat.add_comm]

theorem shiftScan_eq_lower (lines bytes : Nat) (s : Scan) :
    shiftScan ⟨lines, 0, bytes⟩ s =
      ⟨s.tokens.map (lowerToken lines bytes), s.error?.map (lowerError lines bytes)⟩ := by
  have htok : shiftToken ⟨lines, 0, bytes⟩ = lowerToken lines bytes := by
    funext t
    rw [shiftToken, shift_eq_lower, lowerToken]
  have herr : shiftError ⟨lines, 0, bytes⟩ = lowerError lines bytes := by
    funext e
    rw [shiftError, shift_eq_lower, lowerError]
  rw [shiftScan, htok, herr]

theorem munches_before_lineFeed {a : List Char} {ls : List (Kind × List Char)}
    (h : Munches a ls []) (hcr : a.getLast? ≠ some '\r') (b : List Char) :
    Munches (a ++ '\n' :: b) ls ('\n' :: b) := by
  apply munches_extend h
  intro k w r ms _ hw hs _
  refine step_before_lineFeed hs ?_ b
  intro hlast
  apply hcr
  obtain ⟨u, rfl⟩ := hw
  rw [List.getLast?_append, hlast]
  rfl

/-- Behind a text that scans, a line feed begins a new line, and what follows is scanned by itself:
the scan of `b` with its positions moved below `a`. -/
theorem scan_lineJoin {a : List Char} {ts : List Token} (h : tokenize a = .ok ts)
    (hcr : a.getLast? ≠ some '\r') (b : List Char) :
    ∃ us p, ts = us ++ [Token.endOfInput p] ∧
      Scan.run .start (a ++ '\n' :: b) =
        ⟨us ++ ⟨.trivia .newline, ['\n'], p⟩ :: (Scan.run .start b).tokens.map
            (lowerToken (a.count '\n' + 1) (Text.byteLength a + 1)),
          (Scan.run .start b).error?.map
            (lowerError (a.count '\n' + 1) (Text.byteLength a + 1))⟩ := by
  obtain ⟨ls, hm, rfl⟩ := munches_of_tokenize h
  have ha : a = spelled ls := by simpa using hm.eq_append
  have hstep : Step (['\n'] ++ b) (.trivia .newline) ['\n'] :=
    step_blankText .lineFeed (by decide) b
  have hp : (Position.start.advanceAll a).advanceAll ['\n'] =
      ⟨a.count '\n' + 1, 0, Text.byteLength a + 1⟩ := by
    rw [advanceAll_start]
    rfl
  refine ⟨place .start ls, _, rfl, ?_⟩
  rw [run_of_munches (munches_before_lineFeed hm hcr b), ← ha]
  change after _ (Scan.run _ (['\n'] ++ b)) = _
  rw [run_step hstep, hp, run_eq_shiftScan, shiftScan_eq_lower]
  rfl

def openComment : List Char := ['\t', '/', '/', 'é']

theorem scan_lineJoin_openComment :
    tokenize openComment = .ok [⟨.trivia .tab, ['\t'], .start⟩,
        ⟨.trivia .comment, ['/', '/', 'é'], ⟨0, 4, 1⟩⟩, Token.endOfInput ⟨0, 7, 5⟩] ∧
      openComment.getLast? ≠ some '\r' ∧
      ∃ us p, [⟨.trivia .tab, ['\t'], .start⟩, ⟨.trivia .comment, ['/', '/', 'é'], ⟨0, 4, 1⟩⟩,
          Token.endOfInput ⟨0, 7, 5⟩] = us ++ [Token.endOfInput p] ∧
        Scan.run .start (openComment ++ ['\n', '\t', '"']) =
          ⟨us ++ [⟨.trivia .newline, ['\n'], p⟩, ⟨.trivia .tab, ['\t'], ⟨1, 0, 6⟩⟩],
            some ⟨.unterminatedLiteral '"', ⟨1, 4, 7⟩⟩⟩ := by
  have hrun : Scan.run .start openComment = ⟨[⟨.trivia .tab, ['\t'], .start⟩,
      ⟨.trivia .comment, ['/', '/', 'é'], ⟨0, 4, 1⟩⟩, Token.endOfInput ⟨0, 7, 5⟩], none⟩ := by
    decide +kernel
  have hrest : Scan.run .start ['\t', '"'] =
      ⟨[⟨.trivia .tab, ['\t'], .start⟩], some ⟨.unterminatedLiteral '"', ⟨0, 4, 1⟩⟩⟩ := by
    decide +kernel
  have h : tokenize openComment = .ok [⟨.trivia .tab, ['\t'], .start⟩,
      ⟨.trivia .comment, ['/', '/', 'é'], ⟨0, 4, 1⟩⟩, Token.endOfInput ⟨0, 7, 5⟩] := by
    rw [tokenize, hrun]
  have hcr : openComment.getLast? ≠ some '\r' := by decide
  obtain ⟨us, p, hts, hjoin⟩ := scan_lineJoin h hcr ['\t', '"']
  rw [hrest] at hjoin
  exact ⟨h, hcr, us, p, hts, hjoin⟩

/-- The line feed would take a carriage return at the end of the comment to itself. -/
example : (Scan.run .start ['/', '/', '\r']).tokens.map Token.text = [['/', '/', '\r'], []] ∧
    (Scan.run .start ['/', '/', '\r', '\n']).tokens.map Token.text =
      [['/', '/'], ['\r', '\n'], []] := by
  decide +kernel

end XorScan.LineJoin
