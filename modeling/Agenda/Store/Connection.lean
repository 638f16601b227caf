import Agenda.Store.Database

/-!
# Connections

A connection works on a database and keeps a copy of it for every transaction that is open on it, the innermost
first. Ending a transaction with success forgets the copy; ending it with failure goes back to it. So a
transaction inside another one can succeed and still be undone with the outer one.
-/

namespace Agenda

/-- A database in use, and the copies that the open transactions go back to. -/
structure Connection where
  database : Database
  savepoints : List Database := []
deriving DecidableEq

namespace Connection

/-- Opens a transaction. -/
def begin (c : Connection) : Connection :=
  { c with savepoints := c.database :: c.savepoints }

/-- Ends the innermost transaction and keeps what it did. -/
def commit (c : Connection) : Connection :=
  { c with savepoints := c.savepoints.tail }

/-- Ends the innermost transaction and undoes what it did. -/
def rollback (c : Connection) : Connection :=
  match c.savepoints with
  | [] => c
  | saved :: rest => { database := saved, savepoints := rest }

/-- Ends the innermost transaction. -/
def finish (c : Connection) (kept : Bool) : Connection :=
  if kept then c.commit else c.rollback

end Connection

end Agenda
