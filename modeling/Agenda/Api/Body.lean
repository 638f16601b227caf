import Agenda.Http.MediaType
import Agenda.Json.Value
import Agenda.Task.Task
import Agenda.Text.Utf8

/-!
# Request bodies

A body that makes a task is an object with the task's fields, or an array of their values in order; what it holds
beside them only has to be well formed. A body that changes a task is an object with the task's number and fields;
what it holds beside them has to name values, nested not too deep. A field is a text, stands at most once, and is
empty where it is missing.

The bytes of a body need not be UTF-8. Bytes that are no character can stand in a string, which names no text then: it is
no field, and of what stands beside the fields it is well formed but no value (`Body.readable`).
-/

namespace Agenda.Api.Body

open Json (Token Value)

/-- The longest body that is read, in bytes. -/
def longest : Nat := 65536

/-- The deepest nesting of a body that changes a task. -/
def deepestNesting : Nat := 127

/-- The text of a field. -/
def field? (members : List (Option String × Value)) (name : String) : Option String :=
  match members.filter (·.1 == some name) with
  | [] => some ""
  | [(_, .string (some s))] => some s
  | _ => none

/-- The fields of a draft among the members of an object. -/
def draftOfMembers? (members : List (Option String × Value)) : Option Draft :=
  match field? members "date", field? members "title", field? members "comment", field? members "repeat" with
  | some date, some title, some comment, some repeats => some { date, title, comment, repeats }
  | _, _, _, _ => none

/-- The fields of a draft in order; the last ones may be missing. -/
def draftOfItems? : List Value → Option Draft
  | [] => some {}
  | [.string (some date)] => some { date }
  | [.string (some date), .string (some title)] => some { date, title }
  | [.string (some date), .string (some title), .string (some comment)] => some { date, title, comment }
  | [.string (some date), .string (some title), .string (some comment), .string (some repeats)] =>
    some { date, title, comment, repeats }
  | _ => none

/-- The draft that a value stands for. -/
def draft? : Value → Option Draft
  | .object members => if members.all (·.1.isSome) then draftOfMembers? members else none
  | .array items => draftOfItems? items
  | _ => none

/-- The draft that the text of a body stands for. -/
def newTask? (body : String) : Option Draft :=
  (Value.parse body.toList).bind draft?

/-- The number, as a text, and the draft that a value stands for. -/
def numberedDraft? : Value → Option (String × Draft)
  | .object members =>
    match field? members "id", draftOfMembers? members with
    | some id, some draft => some (id, draft)
    | _, _ => none
  | _ => none

/-- The number, as a text, and the draft that the text of a body stands for. -/
def changedTask? (body : String) : Option (String × Draft) :=
  match Token.ofChars body.toList with
  | none => none
  | some tokens =>
    if tokens.all Token.namesValue && Token.nesting tokens ≤ deepestNesting then
      (Value.ofTokens tokens).bind numberedDraft?
    else none

/-- What is read for bytes that are no character: half a surrogate pair, so that a string that holds them names no text.
It stands twice, so that the first never makes a pair with what follows, and behind a mark that ends no escape. -/
def lost : List Char :=
  ['?', '\\', 'u', 'd', '8', '0', '0', '\\', 'u', 'd', '8', '0', '0']

/-- How what was read of bytes stands in a text. -/
def written : Option Char → List Char
  | some c => [c]
  | none => lost

/-- The bytes of a body as a text. -/
def readable (body : ByteArray) : String :=
  String.ofList ((Text.Utf8.scan (body.data.toList.map UInt8.toNat)).flatMap written)

/-- The text of a body, if it is declared as JSON and not too long. -/
def text? (contentType : Option String) (body : ByteArray) : Option String :=
  if contentType.any Http.MediaType.isJson && body.size ≤ longest then some (readable body) else none

end Agenda.Api.Body
