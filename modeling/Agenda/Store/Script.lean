import Agenda.Store.Connection

/-!
# Scripts of steps and transactions

A script is a step, or a block of scripts that runs inside a transaction and ends with success or failure.
Running it gives an answer for every step, in the same shape.
-/

namespace Agenda

/-- Steps in order, some of them grouped in blocks. -/
inductive Script (σ : Type) where
  | step (s : σ)
  /-- Scripts inside a transaction, which is kept or undone at its end. -/
  | block (scripts : List (Script σ)) (kept : Bool)

/-- The answers of a script, in its shape. -/
inductive Transcript (ρ : Type) where
  | answer (r : ρ)
  | block (transcripts : List (Transcript ρ)) (kept : Bool)

variable {σ ρ : Type}

mutual

/-- Runs a script on a connection, given what one step does. -/
def Script.run (act : σ → Connection → ρ × Connection) : Script σ → Connection → Transcript ρ × Connection
  | .step s, c =>
    let (r, c) := act s c
    (.answer r, c)
  | .block scripts kept, c =>
    let (ts, c) := Script.runAll act scripts c.begin
    (.block ts kept, c.finish kept)

/-- Runs scripts one after the other. -/
def Script.runAll (act : σ → Connection → ρ × Connection) :
    List (Script σ) → Connection → List (Transcript ρ) × Connection
  | [], c => ([], c)
  | s :: ss, c =>
    let (t, c) := Script.run act s c
    let (ts, c) := Script.runAll act ss c
    (t :: ts, c)

end

end Agenda
