import Agenda.Store.Script
import Agenda.Store.Statement
import Agenda.Task.Operation

/-!
# Steps of a script

A step is an operation on tasks, a single statement, or a change of the schema.
-/

namespace Agenda

/-- One step. -/
inductive Step where
  | operation (op : Operation)
  | statement (s : Statement)
  /-- Applies the schema, which changes nothing where it was applied before and fails where there is a table. -/
  | migrate
  /-- Removes the table of tasks. -/
  | dropTable
deriving DecidableEq

/-- What a step answers when it succeeds. -/
inductive StepReply where
  | operation (reply : Reply)
  | statement (reply : StatementReply)
  | schema
deriving DecidableEq

/-- Runs a step. -/
def Step.run : Step → Session StepReply
  | operation op => return .operation (← op.run)
  | statement s => return .statement (← Session.writing s.run)
  | migrate => do
    Session.altering Database.migrate
    return .schema
  | dropTable => do
    Session.altering Database.dropTable
    return .schema

/-- Runs scripts of steps. -/
def Step.runAll (scripts : List (Script Step)) : Connection → List (Transcript (Except TaskError StepReply)) × Connection :=
  Script.runAll Step.run scripts

end Agenda
