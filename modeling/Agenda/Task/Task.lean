/-!
# Tasks

An entry is what is kept of a task: due date, title, comment and repeat rule, all as texts. A task is an entry
with the number it is known by. A draft is what a client sends in to have a task made or changed.
-/

namespace Agenda

/-- The editable part of a task. The date has eight digits; the rule is empty for a task that does not repeat. -/
structure Entry where
  date : String
  title : String
  comment : String
  repeats : String
deriving DecidableEq

/-- A stored task. -/
structure Task extends Entry where
  id : Int
deriving DecidableEq

/-- Task fields as a client sends them; a missing field is empty. -/
structure Draft where
  date : String := ""
  title : String := ""
  comment : String := ""
  repeats : String := ""
deriving DecidableEq

end Agenda
