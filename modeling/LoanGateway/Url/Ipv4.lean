/-!
# Addresses of 32 bits

A host that ends in a number is an address. Its parts may be decimal, octal or hexadecimal, and the
last part fills all bytes that the others leave.

- `Ipv4.endsInNumber`: whether a host is to be read as an address.
- `Ipv4.parse?`: the address of a host.
- `Ipv4.text`: the written form, four decimal numbers.
-/

namespace LoanGateway.Url.Ipv4

/-- The value of a digit in a base of at most 16. -/
def digitValue? (base : Nat) (c : Char) : Option Nat :=
  let n := c.toNat
  let value :=
    if 0x30 ≤ n && n ≤ 0x39 then n - 0x30
    else if 0x41 ≤ n && n ≤ 0x46 then n - 0x41 + 10
    else if 0x61 ≤ n && n ≤ 0x66 then n - 0x61 + 10
    else base
  if value < base then some value else none

/-- The number of some digits; there may be none. -/
def digits? (base : Nat) (s : List Char) : Option Nat :=
  s.foldl (fun n? c => do return (← n?) * base + (← digitValue? base c)) (some 0)

/-- The number of a part: hexadecimal after `0x`, octal after another leading zero. -/
def number? : List Char → Option Nat
  | [] => none
  | '0' :: 'x' :: s | '0' :: 'X' :: s => digits? 16 s
  | '0' :: c :: s => digits? 8 (c :: s)
  | s => digits? 10 s

/-- The parts of a host; an empty last one does not count. -/
def parts (s : List Char) : List (List Char) :=
  let all := s.splitOn '.'
  if 1 < all.length && all.getLast? = some [] then all.dropLast else all

/-- Whether the last part of a host is a number. -/
def endsInNumber (s : List Char) : Bool :=
  match (parts s).getLast? with
  | none | some [] => false
  | some last => last.all Char.isDigit || (number? last).isSome

/-- The address of some numbers: a byte each, and the last one for the bytes that are left. -/
def ofNumbers? (numbers : List Nat) : Option Nat :=
  match numbers.reverse with
  | [] => none
  | last :: firsts =>
    let room := Nat.pow 256 (4 - firsts.length)
    if 4 < numbers.length || firsts.any (255 < ·) || room ≤ last then none
    else some (firsts.foldr (fun byte address => 256 * address + byte) 0 * room + last)

/-- The address of a host. -/
def parse? (s : List Char) : Option Nat := (parts s).mapM number? >>= ofNumbers?

/-- The written form. -/
def text (address : Nat) : List Char :=
  List.intercalate ['.'] ([3, 2, 1, 0].map fun i => Nat.toDigits 10 (address / Nat.pow 256 i % 256))

end LoanGateway.Url.Ipv4
