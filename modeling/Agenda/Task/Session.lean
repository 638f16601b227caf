import Agenda.Store.Connection
import Agenda.Task.Error

/-!
# Sessions

Work on a connection is a session: it ends with an answer or an error, and leaves the connection in some state
either way. Only a transaction undoes what was done before an error.
-/

namespace Agenda

/-- Work on a connection: an answer or an error, and the connection afterwards. -/
def Session (α : Type) : Type :=
  Connection → Except TaskError α × Connection

namespace Session

variable {α β : Type}

/-- An answer that needs no database. -/
def ofExcept (answer : Except TaskError α) : Session α :=
  fun c => (answer, c)

/-- Work that goes on with the answer of the work before it, unless that failed. -/
def andThen (first : Session α) (next : α → Session β) : Session β :=
  fun c =>
    match first c with
    | (.ok a, c) => next a c
    | (.error e, c) => (.error e, c)

instance : Monad Session where
  pure a := ofExcept (.ok a)
  bind := andThen

/-- Work that ends with an error. -/
def fail (e : TaskError) : Session α :=
  ofExcept (.error e)

/-- A statement that reads. -/
def reading (statement : Database → Except QueryError α) : Session α :=
  fun c =>
    match statement c.database with
    | .ok a => (.ok a, c)
    | .error e => (.error (.store (.query e)), c)

/-- A statement that writes. -/
def writing (statement : Database → Except QueryError (α × Database)) : Session α :=
  fun c =>
    match statement c.database with
    | .ok (a, db) => (.ok a, { c with database := db })
    | .error e => (.error (.store (.query e)), c)

/-- A change of the schema; its error is one of the transaction's own. -/
def altering (change : Database → Except QueryError Database) : Session Unit :=
  fun c =>
    match change c.database with
    | .ok db => (.ok (), { c with database := db })
    | .error e => (.error (.transaction e), c)

/-- Work inside a transaction of its own: all of it is kept, or none. -/
def transaction (work : Session α) : Session α :=
  fun c =>
    match work c.begin with
    | (.ok a, c) => (.ok a, c.finish true)
    | (.error e, c) => (.error e, c.finish false)

end Session

end Agenda
