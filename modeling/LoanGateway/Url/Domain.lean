import LoanGateway.Url.Domain.Label

/-!
# Domains

A domain is compared in its ASCII form: in lowercase, with the labels outside ASCII written in
Punycode.

- `Domain.isForbidden`: the ASCII characters that no domain holds.
- `Domain.labels?`: the labels of a domain.
- `Domain.toAscii?`: the ASCII form of a domain.
-/

namespace LoanGateway.Url.Domain

/-- The ASCII characters that no domain holds. -/
def isForbidden (c : Char) : Bool :=
  c.toNat ≤ 0x20 || c.toNat == 0x7F ||
    c ∈ ['%', '#', '/', ':', '<', '>', '?', '@', '[', '\\', ']', '^', '|']

/-- The labels of a domain. Once a label is written from right to left, all of them have to keep
letters of both directions apart. -/
def labels? (domain : List Char) : Option (List (List Char)) := do
  let labels ← ((← folded? domain).splitOn '.').mapM Label.ofText?
  if labels.all Label.isWellFormed && (!labels.any Label.isReversed || labels.all Label.isOrdered)
  then return labels
  else none

/-- The ASCII form of a domain. -/
def toAscii? (domain : List Char) : Option (List Char) := do
  let ascii := List.intercalate ['.'] ((← labels? domain).map Label.text)
  if ascii.any isForbidden then none else return ascii

end LoanGateway.Url.Domain
