import Agenda.Store.Database

/-!
# Statements as values
-/

namespace Agenda

/-- One statement with its arguments. -/
inductive Statement where
  | insert (entry : Entry)
  | find (id : Int)
  | list (limit : Nat)
  | listOn (date : String) (limit : Nat)
  | search (needle : String) (limit : Nat)
  | replace (id : Int) (entry : Entry)
  | redate (id : Int) (date : String)
  | remove (id : Int)
deriving DecidableEq

/-- What a statement answers when it succeeds. -/
inductive StatementReply where
  | inserted (id : Int)
  | found (task : Option Task)
  | rows (tasks : List Task)
  | changed (rows : Nat)
deriving DecidableEq

/-- Runs a statement: its answer, and the database afterwards. -/
def Statement.run (s : Statement) (db : Database) : Except QueryError (StatementReply × Database) :=
  match s with
  | insert entry => (db.insert entry).map fun (id, db) => (.inserted id, db)
  | find id => (db.find id).map fun task => (.found task, db)
  | list limit => (db.list limit).map fun tasks => (.rows tasks, db)
  | listOn date limit => (db.listOn date limit).map fun tasks => (.rows tasks, db)
  | search needle limit => (db.search needle limit).map fun tasks => (.rows tasks, db)
  | replace id entry => (db.replace id entry).map fun (n, db) => (.changed n, db)
  | redate id date => (db.redate id date).map fun (n, db) => (.changed n, db)
  | remove id => (db.remove id).map fun (n, db) => (.changed n, db)

end Agenda
