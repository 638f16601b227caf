import Agenda.Http.Target
import Agenda.Json.Value

/-!
# Requests and responses
-/

namespace Agenda.Http

/-- The methods that some path answers, and all others. -/
inductive Method where
  | get
  | post
  | put
  | delete
  | other
deriving DecidableEq

/-- The method of a name; names are in upper case. -/
def Method.ofName (name : String) : Method :=
  match name with
  | "GET" => get
  | "POST" => post
  | "PUT" => put
  | "DELETE" => delete
  | _ => other

/-- A text is sent as its bytes. -/
instance coeText : Coe String ByteArray := ⟨String.toUTF8⟩

/-- A request. A request without a body has an empty one; a body can be any bytes. -/
structure Request where
  method : Method
  target : Target
  contentType : Option String := none
  body : ByteArray := .empty

/-- A response. -/
structure Response where
  status : Nat
  contentType : Option String := none
  body : String := ""
deriving DecidableEq

namespace Response

/-- A page of the server itself, of which only the status matters. -/
def page (status : Nat) : Response := { status }

/-- A text. -/
def plain (text : String) : Response :=
  { status := 200, contentType := some "text/plain; charset=utf-8", body := text }

/-- A JSON value. -/
def json (status : Nat) (value : Json.Value) : Response :=
  { status, contentType := some "application/json; charset=utf-8", body := value.text }

end Response

end Agenda.Http
