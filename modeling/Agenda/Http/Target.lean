import Agenda.Http.Percent

/-!
# Request targets

A target is a path and a query. Tabs and ends of lines do not count, nor do blanks at its end; what follows a number
sign is no part of either. In the path a backslash counts as a slash, and segments of one or two dots,
percent-encoded or not, mean this place and the one above.
-/

namespace Agenda.Http

/-- What a request asks for. -/
structure Target where
  /-- The decoded segments of the path, without the empty ones. -/
  segments : List String
  /-- The path ends with a slash. -/
  endsWithSlash : Bool
  /-- The names and values of the query. -/
  query : List (String × String)
deriving DecidableEq

namespace Target

/-- A segment with its percent-encoded dots written as dots. -/
def plainDots (segment : List Char) : List Char :=
  match segment with
  | '%' :: '2' :: e :: rest => if e = 'e' || e = 'E' then '.' :: plainDots rest else segment
  | '.' :: rest => '.' :: plainDots rest
  | _ => segment

/-- The segments with those of dots carried out; `up` holds the segments so far, the last one first. The empty
last segment of a path that ends with a slash stays. -/
def withoutDots (up : List (List Char)) : List (List Char) → List (List Char)
  | [] => up.reverse
  | segment :: rest =>
    let plain := plainDots segment
    let up := if plain = ['.', '.'] then up.tail else if plain = ['.'] then up else segment :: up
    if rest = [] && (plain = ['.'] || plain = ['.', '.']) then ([] :: up).reverse else withoutDots up rest

/-- The characters of a target that count. -/
def significant (cs : List Char) : List Char :=
  (cs.reverse.dropWhile fun c => c.toNat ≤ 0x20).reverse.filter fun c => c ≠ '\t' && c ≠ '\n' && c ≠ '\r'

/-- The target that a request names. -/
def parse (raw : String) : Target :=
  let (beforeFragment, _) := Text.cutAt '#' (significant raw.toList)
  let (path, query) := Text.cutAt '?' beforeFragment
  let path := path.map fun c => if c = '\\' then '/' else c
  let segments := withoutDots [] (Text.pieces '/' path).tail
  { segments := (segments.filter (· ≠ [])).map fun s => String.ofList (percentDecode s)
    endsWithSlash := segments.getLast? == some []
    query := formPairs (query.getD []) }

/-- The first value of a name in the query. -/
def value? (t : Target) (name : String) : Option String :=
  (t.query.find? (·.1 == name)).map (·.2)

end Target

end Agenda.Http
