/-!
# Media types

The check that a content type names JSON: its subtype, without what follows a plus sign, is `json`. A text that
is no media type names nothing.
-/

namespace Agenda.Http.MediaType

/-- The characters of a token. -/
def isTokenChar (c : Char) : Bool :=
  c.isAlphanum || "!#$%&'*+-.^_\x60|~".toList.contains c

/-- The characters of a quoted value. -/
def isQuotedChar (c : Char) : Bool :=
  0x20 ≤ c.toNat && c.toNat < 0x7F && c ≠ '"'

mutual

/-- What stands behind a type is a sequence of parameters, each after a semicolon. -/
def parametersOk : Nat → List Char → Bool
  | 0, _ => false
  | _, [] => true
  | n + 1, ';' :: cs =>
    let cs := cs.dropWhile (· = ' ')
    let name := cs.takeWhile isTokenChar
    match cs.drop name.length with
    | '=' :: '"' :: cs => name ≠ [] && quotedOk n cs
    | '=' :: cs =>
      let value := cs.takeWhile isTokenChar
      name ≠ [] && (value ≠ [] || cs.isEmpty) && parametersOk n (cs.drop value.length)
    | _ => false
  | _, _ => false

/-- A quoted value, blanks, and further parameters. -/
def quotedOk : Nat → List Char → Bool
  | 0, _ => false
  | n + 1, cs =>
    match cs.dropWhile isQuotedChar with
    | '"' :: cs => parametersOk n (cs.dropWhile (· = ' '))
    | _ => false

end

/-- The part of a subtype before its last plus sign, if it has one. -/
def withoutSuffix (subtype : List Char) : List Char :=
  match subtype.reverse.dropWhile (· ≠ '+') with
  | _ :: before => if before = [] then subtype else before.reverse
  | [] => subtype

/-- The content type names JSON. -/
def isJson (contentType : String) : Bool :=
  let cs := contentType.toList
  let top := cs.takeWhile isTokenChar
  match cs.drop top.length with
  | '/' :: cs =>
    let sub := cs.takeWhile isTokenChar
    let rest := cs.drop sub.length
    top ≠ [] && (withoutSuffix sub).map Char.toLower == "json".toList && parametersOk (rest.length + 1) rest
  | _ => false

end Agenda.Http.MediaType
