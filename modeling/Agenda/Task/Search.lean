import Agenda.Calendar.Date
import Agenda.Text.Blank

/-!
# Searches

A search for a day, written as day, month and year with dots between them, lists the tasks of that day; any other
text lists the tasks that contain it.
-/

namespace Agenda

/-- What a list of tasks is narrowed down to. -/
inductive Search where
  /-- Every task. -/
  | all
  /-- The tasks of a date. -/
  | onDate (date : Date)
  /-- The tasks whose title or comment contains the text. -/
  | containing (text : String)
deriving DecidableEq

namespace Search

/-- Blanks, and then up to `width` digits, at least one: their value and what follows them. -/
def readNumber (width : Nat) (cs : List Char) : Option (Nat × List Char) :=
  let cs := cs.dropWhile Text.isBlank
  let ds := (cs.take width).takeWhile Char.isDigit
  if ds = [] then none else some (Number.ofDigits ds, cs.drop ds.length)

/-- Blanks, and then a year: up to four digits, or a sign and any number of digits. -/
def readYear (cs : List Char) : Option (Int × List Char) :=
  match cs.dropWhile Text.isBlank with
  | sign :: rest =>
    if sign = '-' || sign = '+' then
      let ds := rest.takeWhile Char.isDigit
      if ds = [] then none
      else
        let n : Int := Number.ofDigits ds
        some (if sign = '-' then -n else n, rest.drop ds.length)
    else (readNumber 4 (sign :: rest)).map fun (n, rest) => ((n : Int), rest)
  | [] => none

/-- The day that a text names: day, month and year with dots between them, and nothing after them. -/
def readDay (cs : List Char) : Option Date :=
  match readNumber 2 cs with
  | some (day, '.' :: cs) =>
    match readNumber 2 cs with
    | some (month, '.' :: cs) =>
      match readYear cs with
      | some (year, []) => if 0 ≤ year then Date.of? year.toNat month day else none
      | _ => none
    | _ => none
  | _ => none

/-- The search that a text asks for; a blank text asks for nothing in particular. -/
def ofText : Option String → Search
  | none => all
  | some text =>
    let text := Text.trim text
    if text = "" then all
    else
      match readDay text.toList with
      | some date => onDate date
      | none => containing text

end Search

end Agenda
