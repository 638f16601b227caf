import Agenda.Task.Draft
import Agenda.Task.Search
import Agenda.Task.Session

/-!
# Operations on tasks

What clients can do with tasks: make one, look at one, list them, change one, mark one as done, delete one. The
operations that depend on the day take it as an argument.
-/

namespace Agenda

/-- What became of a task that was marked as done. -/
inductive Completion where
  /-- It did not repeat and was removed. -/
  | removed
  /-- It repeats and moved to this date. -/
  | moved (date : String)
deriving DecidableEq

namespace Task

/-- Makes a task from a draft. -/
def create (draft : Draft) (today : Date) : Session Task := do
  let entry ← Session.ofExcept (draft.settle today)
  let id ← Session.writing (·.insert entry)
  return { toEntry := entry, id }

/-- The task of that number. -/
def get (id : Int) : Session Task := do
  match ← Session.reading (·.find id) with
  | some task => return task
  | none => Session.fail (.noTask id)

/-- The first tasks of a search. -/
def list (search : Option String) (limit : Nat) : Session (List Task) :=
  match Search.ofText search with
  | .all => Session.reading (·.list limit)
  | .onDate date => Session.reading (·.listOn date.text limit)
  | .containing text => Session.reading (·.search text limit)

/-- Puts the fields of a draft in the place of those of a task. -/
def update (id : Int) (draft : Draft) (today : Date) : Session Task := do
  let entry ← Session.ofExcept (draft.settle today)
  let changed ← Session.writing (·.replace id entry)
  if changed = 0 then Session.fail (.noTask id) else return { toEntry := entry, id }

/-- Marks a task as done: it is removed, or moves to its rule's next date after today. -/
def complete (id : Int) (today : Date) : Session Completion :=
  Session.transaction do
    let task ← get id
    if task.repeats = "" then
      let _ ← Session.writing (·.remove id)
      return .removed
    else
      let next ← Session.ofExcept ((nextDateText today task.date task.repeats).mapError TaskError.rule)
      let _ ← Session.writing (·.redate id next)
      return .moved next

/-- Deletes a task. -/
def delete (id : Int) : Session Unit := do
  let removed ← Session.writing (·.remove id)
  if removed = 0 then Session.fail (.noTask id) else return ()

end Task

/-! ### Operations as values -/

/-- One operation with its arguments. -/
inductive Operation where
  | create (draft : Draft) (today : Date)
  | get (id : Int)
  | list (search : Option String) (limit : Nat)
  | update (id : Int) (draft : Draft) (today : Date)
  | complete (id : Int) (today : Date)
  | delete (id : Int)
deriving DecidableEq

/-- What an operation answers when it succeeds. -/
inductive Reply where
  | task (task : Task)
  | tasks (tasks : List Task)
  | completion (completion : Completion)
  | deleted
deriving DecidableEq

/-- Runs an operation. -/
def Operation.run : Operation → Session Reply
  | create draft today => return .task (← Task.create draft today)
  | get id => return .task (← Task.get id)
  | list search limit => return .tasks (← Task.list search limit)
  | update id draft today => return .task (← Task.update id draft today)
  | complete id today => return .completion (← Task.complete id today)
  | delete id => do
    Task.delete id
    return .deleted

end Agenda
