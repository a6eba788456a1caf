import LoanGateway.Url.Parser
import Mathlib.Data.List.TakeWhile

/-!
# Where authorities end

The authority of an address of the web reaches to the first slash, question mark or hash, whatever
credentials, host and port are read from it.

- `Authority.ends`: the characters that end an authority.
- `Authority.hostAndPort`: what stands behind the credentials.
- `Authority.rest_of_parse?`: the text that is left behind an authority.
-/

namespace LoanGateway.Url.Authority

/-- The characters that end the authority of an address of the web. -/
def ends (c : Char) : Bool := Path.isSlash true c || c == '?' || c == '#'

/-- The host and the port of a text that begins with an authority. -/
def hostAndPort (s : List Char) : List Char :=
  let region := s.takeWhile (!ends ·)
  ((splitAt region).getD ([], region)).2

theorem splitAt_suffix (s : List Char) : ((splitAt s).getD ([], s)).2 <:+ s := by
  unfold splitAt
  dsimp only
  split
  · show (s.reverse.takeWhile (· ≠ '@')).reverse <:+ s
    rw [← List.reverse_prefix, List.reverse_reverse]
    exact List.takeWhile_prefix _
  · exact List.suffix_rfl

/-- What follows a host is the end of the text. -/
theorem splitHost_suffix (inside : Bool) (s : List Char) : (splitHost inside s).2 <:+ s := by
  induction s generalizing inside with
  | nil => exact List.suffix_rfl
  | cons c rest ih =>
    rw [splitHost]
    split
    · exact List.suffix_rfl
    · exact (ih _).trans (List.suffix_cons c rest)

/-- What follows a host begins with a colon. -/
theorem eq_colon_of_splitHost (inside : Bool) (s : List Char) :
    ∀ c ∈ (splitHost inside s).2.head?, c = ':' := by
  induction s generalizing inside with
  | nil => exact nofun
  | cons c rest ih =>
    rw [splitHost]
    split
    · next colon =>
      rintro d ⟨⟩
      simpa using (Bool.and_eq_true_iff.mp colon).1
    · exact ih _

/-- Nothing follows the digits of a port if there is no backslash. -/
theorem eq_nil_of_port? {usual port : Option Nat} {s tail : List Char}
    (read : port? usual s = some (port, tail)) (plain : '\\' ∉ s) : tail = [] := by
  unfold port? at read
  dsimp only at read
  split at read
  · next fits =>
    obtain ⟨_, rfl⟩ := Prod.mk.inj (Option.some.inj read)
    have after := (Bool.and_eq_true_iff.mp fits).2
    cases left : s.dropWhile Char.isDigit with
    | nil => rfl
    | cons c rest =>
      rw [left] at after
      have back : c = '\\' := by simpa using after
      have mem : c ∈ s := (List.dropWhile_suffix _).subset (left ▸ List.mem_cons_self)
      exact absurd (back ▸ mem) plain
  · exact nomatch read

/-- Behind a host only the digits of a port are read. -/
theorem rest_of_behind (make : Option Nat → Authority) {usual : Option Nat}
    {after tail rest : List Char} {a : Authority}
    (read : (match after with
      | ':' :: digits => (port? usual digits).bind fun p => some (make p.1, p.2 ++ tail)
      | _ => some (make none, after ++ tail)) = some (a, rest))
    (colon : ∀ c ∈ after.head?, c = ':') (plain : '\\' ∉ after) : rest = tail := by
  cases after with
  | nil => exact (Prod.mk.inj (Option.some.inj read)).2.symm
  | cons c digits =>
    obtain rfl : c = ':' := colon c rfl
    obtain ⟨⟨port, left⟩, digits_read, read⟩ := Option.bind_eq_some_iff.mp read
    have none := eq_nil_of_port? digits_read fun mem => plain (List.mem_cons_of_mem _ mem)
    rw [← (Prod.mk.inj (Option.some.inj read)).2]
    exact congrArg (· ++ tail) none

/-- An authority of the web reaches to the first slash, question mark or hash. -/
theorem rest_of_parse? {scheme s rest : List Char} {a : Authority}
    (web : isSpecial scheme = true) (read : parse? scheme s = some (a, rest)) :
    rest = s.dropWhile (!ends ·) := by
  have plain : '\\' ∉ (splitHost false (hostAndPort s)).2 := by
    intro mem
    have inside := (splitHost_suffix false _).trans (splitAt_suffix (s.takeWhile (!ends ·)))
    exact nomatch List.mem_takeWhile_imp (inside.subset mem)
  -- every way through the reader comes to this last part, with a host of its own
  have last {host : Option (Option Host)} {username password : List Char}
      (read : (host.bind fun host => match (splitHost false (hostAndPort s)).2 with
        | ':' :: digits => (port? (usualPort? scheme) digits).bind fun p =>
            some ((⟨username, password, host, p.1⟩ : Authority), p.2 ++ s.dropWhile (!ends ·))
        | _ => some (⟨username, password, host, none⟩,
            (splitHost false (hostAndPort s)).2 ++ s.dropWhile (!ends ·))) = some (a, rest)) :
      rest = s.dropWhile (!ends ·) := by
    obtain ⟨host, _, read⟩ := Option.bind_eq_some_iff.mp read
    exact rest_of_behind (fun port => ⟨username, password, host, port⟩) read
      (eq_colon_of_splitHost false _) plain
  unfold parse? at read
  rw [web] at read
  dsimp only at read
  split at read
  · exact nomatch read
  · split at read
    · exact nomatch read
    · exact last read

end LoanGateway.Url.Authority
