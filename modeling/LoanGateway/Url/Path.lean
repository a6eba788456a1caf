import LoanGateway.Url.Basic
import LoanGateway.Url.Percent

/-!
# Paths

- `Path.isSingleDot`, `Path.isDoubleDot`: the segments that stand for this place and the one above.
- `Path.follow`: the segments reached from some segments by others.
- `Path.ofText`: the segments of a text.
-/

namespace LoanGateway.Url.Path

/-- A dot, plain or encoded, at the front of a segment. -/
def dropDot? : List Char → Option (List Char)
  | '.' :: rest => some rest
  | '%' :: '2' :: 'e' :: rest | '%' :: '2' :: 'E' :: rest => some rest
  | _ => none

/-- The segment of one dot. -/
def isSingleDot (s : List Char) : Bool := dropDot? s == some []

/-- The segment of two dots. -/
def isDoubleDot (s : List Char) : Bool := (dropDot? s >>= dropDot?) == some []

/-- A letter and a colon or a bar name a drive, above which no path leads. -/
def isDrive : List Char → Bool
  | [c, mark] => c.isAlpha && (mark == ':' || mark == '|')
  | _ => false

/-- The segments above some segments. -/
def above (segments : List (List Char)) : List (List Char) :=
  match segments.getLast? with
  | some last => if isDrive last then segments else segments.dropLast
  | none => []

/-- The segments reached from `done` by the segments of a text. A text that ends in dots leads to
the inside of the place they stand for, which is an empty segment. -/
def follow (done : List (List Char)) : List (List Char) → List (List Char)
  | [] => done
  | s :: rest =>
    if isDoubleDot s then
      if rest.isEmpty then above done ++ [[]] else follow (above done) rest
    else if isSingleDot s then
      if rest.isEmpty then done ++ [[]] else follow done rest
    else follow (done ++ [s]) rest

/-- Whether a character separates segments. -/
def isSlash (special : Bool) (c : Char) : Bool := c == '/' || (special && c == '\\')

/-- The pieces of a text between its slashes. -/
def pieces (special : Bool) (s : List Char) : List (List Char) :=
  (s.map fun c => if isSlash special c then '/' else c).splitOn '/'

/-- The segments reached from `done` by a text. -/
def extend (special : Bool) (done : List (List Char)) (s : List Char) : List (List Char) :=
  follow done ((pieces special s).map (percentEncode pathSet))

/-- The segments of a text that starts a path: a first slash is optional. An address of the web has
at least one segment. -/
def ofText (special : Bool) (s : List Char) : List (List Char) :=
  match s with
  | [] => if special then [[]] else []
  | c :: rest => if isSlash special c then extend special [] rest else extend special [] (c :: rest)

/-- The segments of a file's path: the name of a drive has a colon, and empty segments in front do
not count. -/
def ofFileText (s : List Char) : List (List Char) :=
  let named (s : List Char) : List Char :=
    match s with
    | [c, '|'] => if c.isAlpha then [c, ':'] else s
    | _ => s
  let segments := (extend true [] s).map named
  match segments.dropWhile List.isEmpty with
  | [] => [[]]
  | kept => kept

end LoanGateway.Url.Path
