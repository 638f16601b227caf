/-!
# What can go wrong in the store

A statement can fail on its own account, or no connection to the database can be had in time.
-/

namespace Agenda

/-- Why a statement fails. -/
inductive QueryError where
  /-- The table of tasks does not exist. -/
  | noTable
  /-- The pattern of a search is longer than the matcher takes. -/
  | patternTooLong
  /-- A row is to be stored, and the last number was given. -/
  | full
  /-- The table of tasks is to be made, and exists. -/
  | tableExists
  /-- A row that had to be there was not found. -/
  | recordNotFound
  /-- The caller asked for its transaction to be undone. -/
  | rollbackRequested
deriving DecidableEq

/-- The wording of each cause. -/
def QueryError.message : QueryError → String
  | noTable => "no such table: scheduler"
  | patternTooLong => "LIKE or GLOB pattern too complex"
  | full => "database or disk is full"
  | tableExists => "table scheduler already exists"
  | recordNotFound => "Record not found"
  | rollbackRequested => "You have asked diesel to rollback the transaction"

/-- Why the store gives no answer. -/
inductive StoreError where
  /-- A statement failed. -/
  | query (cause : QueryError)
  /-- No connection became free in time. -/
  | noConnection
deriving DecidableEq

/-- The wording of each cause. -/
def StoreError.message : StoreError → String
  | query cause => "Database error: " ++ cause.message
  | noConnection => "Pool error: Timed out in bb8"

end Agenda
