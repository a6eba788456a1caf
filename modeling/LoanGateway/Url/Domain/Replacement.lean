import LoanGateway.Text.Lowercase
import LoanGateway.Text.Printable
import LoanGateway.Url.Domain.WordForms

/-!
# Characters of a domain

Domains that look the same are the same: capital letters stand for small ones, and characters that
are forms of others for these.

- `ignoredRanges`: the characters that count nowhere in a domain.
- `refusedRanges`: the visible characters that no domain holds.
- `form?`: what a form of other characters stands for.
- `replacement?`: what a character stands for, if it may stand in a domain.
-/

namespace LoanGateway.Url.Domain

/-- Soft hyphens, joiners of words, selectors of a variant and other invisible characters. -/
def ignoredRanges : Text.Ranges := [
  (0xAD, 0xAD), (0x34F, 0x34F), (0x115F, 0x1160), (0x17B4, 0x17B5), (0x180B, 0x180F),
  (0x200B, 0x200B), (0x2060, 0x2064), (0x206A, 0x206F), (0x3164, 0x3164), (0xFE00, 0xFE0F),
  (0xFEFF, 0xFEFF), (0xFFA0, 0xFFA0), (0x1BCA0, 0x1BCA3), (0x1D173, 0x1D17A), (0xE0100, 0xE01EF)]

/-- Visible characters that stand for a full stop with others, that describe how another character
is drawn, or that stand for one that could not be read. -/
def refusedRanges : Text.Ranges := [
  (0x2024, 0x2026), (0x2488, 0x249B), (0x2FF0, 0x2FFF), (0x31EF, 0x31EF), (0x33C2, 0x33C2),
  (0x33C7, 0x33C7), (0x33D8, 0x33D8), (0xFE12, 0xFE12), (0xFE19, 0xFE19), (0xFE30, 0xFE30),
  (0xFE52, 0xFE52), (0xFFFC, 0xFFFD), (0x1F100, 0x1F100)]

/-- What a form of one other character stands for. -/
def letterForm? (n : Nat) : Option Nat :=
  match shapeRuns.find? (·.covers n) with
  | some run => some (run.image n)
  | none =>
    (letterForms.find? n).or <| (radicalForms.find? n).or <|
      (ideographForms.find? n).or (arabicForms.find? n)

/-- What a form of other characters stands for. -/
def form? (n : Nat) : Option (List Nat) :=
  match letterForm? n with
  | some letter => some [letter]
  | none => (wordForms.find? n).or (arabicWordForms.find? n)

/-- Whether the character controls if its neighbours are joined. -/
def isJoiner (c : Char) : Bool := c.toNat == 0x200C || c.toNat == 0x200D

/-- What a character stands for in a domain. The ASCII characters that no domain holds are refused
later, for they may come from others. -/
def replacement? (c : Char) : Option (List Char) :=
  if c.toNat < 0x80 then some [c.toLower]
  else if ignoredRanges.has c then some []
  else if isJoiner c then some [c]
  else
    match form? c.toNat with
    | some codes => some (codes.map Char.ofNat)
    | none =>
      if Text.isPrintable c && !refusedRanges.has c then some (Text.lowercaseChar c) else none

end LoanGateway.Url.Domain
