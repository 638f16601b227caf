import Agenda.Calendar.Date
import Agenda.Config.Value
import Agenda.Text.Blank
import Agenda.Text.Hex

/-!
# The scalars of TOML

Strings in four kinds of quotes, integers in four bases, floats, truth values, dates and times. A reader takes the
scalar off the front of a text and gives back the rest.
-/

namespace Agenda.Config.Toml

open Text (isSpaceOrTab)

/-- The control characters that stand nowhere in a document. -/
def isForbidden (c : Char) : Bool :=
  (c.toNat < 0x20 && c ≠ '\t') || c.toNat = 0x7F

/-- A line break at the front of a text. -/
def afterBreak? : List Char → Option (List Char)
  | '\n' :: cs => some cs
  | '\r' :: '\n' :: cs => some cs
  | _ => none

/-! ### Strings -/

/-- The escape behind a backslash. -/
def readEscape : List Char → Option (Char × List Char)
  | [] => none
  | c :: cs =>
    match c with
    | 'b' => some ('\x08', cs)
    | 't' => some ('\t', cs)
    | 'n' => some ('\n', cs)
    | 'f' => some ('\x0c', cs)
    | 'r' => some ('\r', cs)
    | 'e' => some ('\x1b', cs)
    | '"' => some ('"', cs)
    | '\\' => some ('\\', cs)
    | 'x' => Text.readHexChar 2 cs
    | 'u' => Text.readHexChar 4 cs
    | 'U' => Text.readHexChar 8 cs
    | _ => none

/-- The rest of a string in double quotes, and what follows it; `acc` holds its characters in reverse. -/
def readBasic (acc : List Char) : Nat → List Char → Option (String × List Char)
  | 0, _ => none
  | _, [] => none
  | n + 1, c :: cs =>
    if c = '"' then some (String.ofList acc.reverse, cs)
    else if c = '\\' then
      match readEscape cs with
      | some (e, cs) => readBasic (e :: acc) n cs
      | none => none
    else if isForbidden c then none
    else readBasic (c :: acc) n cs

/-- The rest of a string in single quotes, and what follows it. -/
def readLiteral (cs : List Char) : Option (String × List Char) :=
  let body := cs.takeWhile (· ≠ '\'')
  match cs.dropWhile (· ≠ '\'') with
  | _ :: rest => if body.any isForbidden then none else some (String.ofList body, rest)
  | [] => none

/-- The quotes at the front of a text that close a string of several lines: three of them, and up to two before
them that belong to the string. -/
def closing? (quote : Char) (cs : List Char) : Option (List Char × List Char) :=
  let quotes := cs.takeWhile (· = quote)
  if quotes.length < 3 then none
  else
    let own := min 2 (quotes.length - 3)
    some (List.replicate own quote, cs.drop (own + 3))

/-- The text behind a backslash at the end of a line: blanks and line breaks are skipped. -/
def afterContinuation? (cs : List Char) : Option (List Char) :=
  match afterBreak? (cs.dropWhile isSpaceOrTab) with
  | some rest => some (rest.dropWhile fun c => isSpaceOrTab c || c = '\n' || c = '\r')
  | none => none

/-- The rest of a string of several lines. -/
def readLong (quote : Char) (acc : List Char) : Nat → List Char → Option (String × List Char)
  | 0, _ => none
  | _, [] => none
  | n + 1, c :: cs =>
    match closing? quote (c :: cs) with
    | some (own, rest) => some (String.ofList (own ++ acc).reverse, rest)
    | none =>
      if c = '\\' && quote = '"' then
        match afterContinuation? cs with
        | some rest => readLong quote acc n rest
        | none =>
          match readEscape cs with
          | some (e, cs) => readLong quote (e :: acc) n cs
          | none => none
      else
        match c, cs with
        | '\r', '\n' :: cs => readLong quote ('\n' :: '\r' :: acc) n cs
        | c, cs => if isForbidden c && c ≠ '\n' then none else readLong quote (c :: acc) n cs

/-- A string of any kind. -/
def readString (cs : List Char) : Option (String × List Char) :=
  match cs with
  | '"' :: '"' :: '"' :: cs => readLong '"' [] (cs.length + 1) ((afterBreak? cs).getD cs)
  | '\'' :: '\'' :: '\'' :: cs => readLong '\'' [] (cs.length + 1) ((afterBreak? cs).getD cs)
  | '"' :: cs => readBasic [] (cs.length + 1) cs
  | '\'' :: cs => readLiteral cs
  | _ => none

/-! ### Numbers -/

/-- Digits without the underscores between them; an underscore stands only between two digits. -/
def withoutUnderscores? (isDigit : Char → Bool) (cs : List Char) : Option (List Char) :=
  let pieces := Text.pieces '_' cs
  if pieces.all fun p => p ≠ [] && p.all isDigit then some pieces.flatten else none

/-- A number in base 16, 8 or 2, behind its mark. -/
def readBased? (base : Nat) (cs : List Char) : Option Value :=
  match withoutUnderscores? (fun c => (Number.digitValue? base c).isSome) cs with
  | some ds => (Number.readBased base ds).map fun n => .int n
  | none => none

/-- Decimal digits without a needless zero in front. -/
def readWholeDigits? (cs : List Char) : Option (List Char) :=
  match withoutUnderscores? Char.isDigit cs with
  | some ('0' :: _ :: _) => none
  | ds => ds

/-- A decimal integer or a float without its sign. -/
def readUnsigned? (negative : Bool) (cs : List Char) : Option Value :=
  let whole := cs.takeWhile fun c => c.isDigit || c = '_'
  let rest := cs.dropWhile fun c => c.isDigit || c = '_'
  match readWholeDigits? whole with
  | none => none
  | some whole =>
    if rest = [] then
      let n : Int := Number.ofDigits whole
      some (.int (if negative then -n else n))
    else
      let (fraction, rest) :=
        match rest with
        | '.' :: rest =>
          (withoutUnderscores? Char.isDigit (rest.takeWhile fun c => c.isDigit || c = '_'),
            rest.dropWhile fun c => c.isDigit || c = '_')
        | rest => (some [], rest)
      match fraction with
      | none => none
      | some fraction =>
        let exponent : Option Int :=
          match rest with
          | [] => some 0
          | mark :: rest =>
            if mark = 'e' || mark = 'E' then
              match rest with
              | '-' :: ds => (withoutUnderscores? Char.isDigit ds).map fun ds => -(Number.ofDigits ds : Int)
              | '+' :: ds => (withoutUnderscores? Char.isDigit ds).map fun ds => (Number.ofDigits ds : Int)
              | ds => (withoutUnderscores? Char.isDigit ds).map fun ds => (Number.ofDigits ds : Int)
            else none
        match exponent with
        | none => none
        | some e =>
          let x := Number.Binary64.ofScientific negative (Number.ofDigits (whole ++ fraction)) (e - fraction.length)
          if x.isFinite then some (.float x) else none

/-- A number with its sign. -/
def readSigned? (negative : Bool) (cs : List Char) : Option Value :=
  if cs = "inf".toList then some (.float (.infinite negative))
  else if cs = "nan".toList then some (.float .nan)
  else readUnsigned? negative cs

/-- A number. -/
def readNumber? (cs : List Char) : Option Value :=
  let value : Option Value :=
    match cs with
    | '0' :: 'x' :: ds => readBased? 16 ds
    | '0' :: 'o' :: ds => readBased? 8 ds
    | '0' :: 'b' :: ds => readBased? 2 ds
    | '-' :: cs => readSigned? true cs
    | '+' :: cs => readSigned? false cs
    | cs => readSigned? false cs
  match value with
  | some (.int i) => if Number.fitsWord i then some (.int i) else none
  | v => v

/-! ### Dates and times -/

/-- Digits of a fixed number, and what follows them. -/
def fixedDigits? (width : Nat) (cs : List Char) : Option (Nat × List Char) :=
  let ds := cs.take width
  if ds.length = width && ds.all Char.isDigit then some (Number.ofDigits ds, cs.drop width) else none

/-- A date at the front of a text. -/
def readDate? (cs : List Char) : Option (List Char) :=
  match fixedDigits? 4 cs with
  | some (y, '-' :: cs) =>
    match fixedDigits? 2 cs with
    | some (m, '-' :: cs) =>
      match fixedDigits? 2 cs with
      | some (d, cs) => if 1 ≤ d && d ≤ daysInMonth y m then some cs else none
      | none => none
    | _ => none
  | _ => none

/-- The digits of a fraction of a second: nine at most count, and zeros at the end are dropped, but for one. -/
def fractionText (ds : List Char) : List Char :=
  let ds := ((ds.take 9).reverse.dropWhile (· = '0')).reverse
  '.' :: (if ds = [] then ['0'] else ds)

/-- A time at the front of a text: how it is written, and what follows it. Seconds may be missing. -/
def readTime? (cs : List Char) : Option (List Char × List Char) :=
  match fixedDigits? 2 cs with
  | some (h, ':' :: cs₁) =>
    match fixedDigits? 2 cs₁ with
    | some (m, rest) =>
      if 24 ≤ h || 60 ≤ m then none
      else
        match rest with
        | ':' :: cs₂ =>
          match fixedDigits? 2 cs₂ with
          | some (s, rest) =>
            if 60 < s then none
            else
              match rest with
              | '.' :: ds =>
                let fraction := ds.takeWhile Char.isDigit
                if fraction = [] then none
                else some (cs.take 8 ++ fractionText fraction, ds.dropWhile Char.isDigit)
              | rest => some (cs.take 8, rest)
          | none => none
        | rest => some (cs.take 5, rest)
    | none => none
  | _ => none

/-- An offset from universal time, or none, up to the end of a text. No offset at all is written with a plus sign. -/
def readOffset? : List Char → Option (List Char)
  | [] => some []
  | ['Z'] | ['z'] => some ['Z']
  | sign :: cs =>
    if sign = '+' || sign = '-' then
      match fixedDigits? 2 cs with
      | some (h, ':' :: rest) =>
        match fixedDigits? 2 rest with
        | some (m, []) =>
          if 24 ≤ h || 60 ≤ m then none else some ((if h = 0 && m = 0 then '+' else sign) :: cs)
        | _ => none
      | _ => none
    else none

/-- A date, a time, or both with an offset; as a text, with a `T` between date and time. -/
def readDateTime? (cs : List Char) : Option String :=
  match readDate? cs with
  | some [] => some (String.ofList cs)
  | some (mark :: rest) =>
    if mark = 'T' || mark = 't' || mark = ' ' then
      match readTime? rest with
      | some (time, rest) =>
        (readOffset? rest).map fun offset => String.ofList (cs.take 10 ++ 'T' :: (time ++ offset))
      | none => none
    else none
  | none =>
    match readTime? cs with
    | some (time, []) => some (String.ofList time)
    | _ => none

/-! ### Bare scalars -/

/-- The characters that end a bare scalar. -/
def isEnd (c : Char) : Bool :=
  isSpaceOrTab c || c = '\n' || c = '\r' || c = ',' || c = ']' || c = '\x7d' || c = '#'

/-- A scalar without quotes at the front of a text. A date and a time may have one space between them. -/
def readBare (cs : List Char) : Option (Value × List Char) :=
  let word := cs.takeWhile (!isEnd ·)
  let rest := cs.dropWhile (!isEnd ·)
  let (word, rest) :=
    match readDate? word, rest with
    | some [], ' ' :: d :: more =>
      if d.isDigit then
        (word ++ ' ' :: (d :: more).takeWhile (!isEnd ·), (d :: more).dropWhile (!isEnd ·))
      else (word, rest)
    | _, _ => (word, rest)
  let value :=
    if word = "true".toList then some (.bool true)
    else if word = "false".toList then some (.bool false)
    else
      match readNumber? word with
      | some v => some v
      | none => (readDateTime? word).map .text
  value.map (·, rest)

end Agenda.Config.Toml
