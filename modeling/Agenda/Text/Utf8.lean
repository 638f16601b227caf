/-!
# UTF-8

Characters as bytes and bytes as characters. Bytes are natural numbers. `Utf8.scan` reads any bytes: where they are not
UTF-8, the longest start of a character that stands there is skipped. In a text one replacement character stands for
what is skipped (`Utf8.decode`).
-/

namespace Agenda.Text.Utf8

/-- The bytes of a character. -/
def encodeChar (c : Char) : List Nat :=
  let n := c.toNat
  if n < 0x80 then [n]
  else if n < 0x800 then [0xC0 + n / 0x40, 0x80 + n % 0x40]
  else if n < 0x10000 then [0xE0 + n / 0x1000, 0x80 + n / 0x40 % 0x40, 0x80 + n % 0x40]
  else [0xF0 + n / 0x40000, 0x80 + n / 0x1000 % 0x40, 0x80 + n / 0x40 % 0x40, 0x80 + n % 0x40]

/-- The bytes of a text. -/
def encode (cs : List Char) : List Nat :=
  cs.flatMap encodeChar

/-- A byte that goes on with a character. -/
def isTail (b : Nat) : Bool := 0x80 ≤ b && b < 0xC0

/-- The second byte can go with the first: no character is written longer than it must be, and none is a
surrogate or above U+10FFFF. -/
def isSecond (a b : Nat) : Bool :=
  if a = 0xE0 then 0xA0 ≤ b && b < 0xC0
  else if a = 0xED then 0x80 ≤ b && b < 0xA0
  else if a = 0xF0 then 0x90 ≤ b && b < 0xC0
  else if a = 0xF4 then 0x80 ≤ b && b < 0x90
  else 0xC2 ≤ a && a < 0xF4 && isTail b

/-- Reads bytes as characters, with `none` for bytes that are no character. -/
def scan : List Nat → List (Option Char)
  | [] => []
  | a :: bs =>
    if a < 0x80 then some (Char.ofNat a) :: scan bs
    else
      match bs with
      | [] => [none]
      | b :: bs₁ =>
        if !isSecond a b then none :: scan (b :: bs₁)
        else if a < 0xE0 then some (Char.ofNat ((a - 0xC0) * 0x40 + (b - 0x80))) :: scan bs₁
        else
          match bs₁ with
          | [] => [none]
          | c :: bs₂ =>
            if !isTail c then none :: scan (c :: bs₂)
            else if a < 0xF0 then
              some (Char.ofNat ((a - 0xE0) * 0x1000 + (b - 0x80) * 0x40 + (c - 0x80))) :: scan bs₂
            else
              match bs₂ with
              | [] => [none]
              | d :: bs₃ =>
                if !isTail d then none :: scan (d :: bs₃)
                else
                  some (Char.ofNat ((a - 0xF0) * 0x40000 + (b - 0x80) * 0x1000 + (c - 0x80) * 0x40 + (d - 0x80))) ::
                    scan bs₃

/-- What stands in a text for bytes that are no character. -/
def replacement : Char := '\uFFFD'

/-- Reads bytes as a text. -/
def decode (bytes : List Nat) : List Char :=
  (scan bytes).map fun c => c.getD replacement

end Agenda.Text.Utf8
