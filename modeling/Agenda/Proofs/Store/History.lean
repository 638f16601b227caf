import Agenda.Proofs.Store.Script

/-!
# Moments of a run

At every moment of a run of scripts some steps have been run and not been undone since. They make up a log, each step
with the answer that it gave. The log and the database at that moment are the ones of the same steps run one after
the other without any transaction (`Passes.eq_trace`).
-/

namespace Agenda

variable {σ ρ : Type} {act : σ → Connection → ρ × Connection}

namespace Connection

/-- The steps with their answers, one after the other and without a transaction of their own. -/
def trace (c : Connection) (act : σ → Connection → ρ × Connection) : List σ → List (σ × ρ)
  | [] => []
  | s :: steps => (s, (act s c).1) :: trace (act s c).2 act steps

variable {c d : Connection}

theorem map_fst_trace (act : σ → Connection → ρ × Connection) (steps : List σ) (c : Connection) :
    (c.trace act steps).map Prod.fst = steps := by
  induction steps generalizing c with
  | nil => rfl
  | cons s steps ih =>
    rw [trace, List.map_cons, ih]

theorem trace_append (act : σ → Connection → ρ × Connection) (xs ys : List σ) (c : Connection) :
    c.trace act (xs ++ ys) = c.trace act xs ++ (c.after act xs).trace act ys := by
  induction xs generalizing c with
  | nil => rfl
  | cons x xs ih =>
    rw [List.cons_append, trace, trace, ih]
    rfl

/-- The parts of a log are the logs of the parts of its steps. -/
theorem exists_of_trace_eq_append {steps : List σ} {before behind : List (σ × ρ)}
    (h : c.trace act steps = before ++ behind) :
    ∃ xs ys, steps = xs ++ ys ∧ before = c.trace act xs ∧ behind = (c.after act xs).trace act ys := by
  induction before generalizing c steps with
  | nil => exact ⟨[], steps, rfl, rfl, h.symm⟩
  | cons p before ih =>
    cases steps with
    | nil => cases h
    | cons s steps =>
      obtain ⟨rfl, hrest⟩ := List.cons.inj h
      obtain ⟨xs, ys, rfl, rfl, rfl⟩ := ih hrest
      exact ⟨s :: xs, ys, rfl, rfl, rfl⟩

theorem trace_congr (hact : ∀ s, Local (act s)) (steps : List σ) (hcd : c.database = d.database) :
    c.trace act steps = d.trace act steps := by
  induction steps generalizing c d with
  | nil => rfl
  | cons s steps ih =>
    rw [trace, trace, (hact s).answer_congr hcd, ih ((hact s).database_congr hcd)]

end Connection

namespace Script

mutual

/-- Every step of a script, also one that is undone. -/
def steps : Script σ → List σ
  | .step s => [s]
  | .block scripts _ => stepsAll scripts

@[inherit_doc steps] def stepsAll : List (Script σ) → List σ
  | [] => []
  | s :: ss => s.steps ++ stepsAll ss

end

mutual

/-- The steps of a run that are not undone with a block around them, each with the answer that it gave. -/
def logged (act : σ → Connection → ρ × Connection) : Script σ → Connection → List (σ × ρ)
  | .step s, c => [(s, (act s c).1)]
  | .block scripts true, c => loggedAll act scripts c.begin
  | .block _ false, _ => []

@[inherit_doc logged] def loggedAll (act : σ → Connection → ρ × Connection) :
    List (Script σ) → Connection → List (σ × ρ)
  | [], _ => []
  | s :: ss, c => s.logged act c ++ loggedAll act ss (run act s c).2

end

/-- While the scripts run on the connection there is a moment at which the connection is `d` and the log holds what
has been run and not been undone. Nothing in an open block has been undone, however the block may end. -/
inductive Passes (act : σ → Connection → ρ × Connection) :
    Connection → List (Script σ) → List (σ × ρ) → Connection → Prop
  | here (c : Connection) (scripts : List (Script σ)) : Passes act c scripts [] c
  | inside {c d : Connection} {scripts behind : List (Script σ)} {kept : Bool} {log : List (σ × ρ)}
      (h : Passes act c.begin scripts log d) : Passes act c (.block scripts kept :: behind) log d
  | behind {c d : Connection} {s : Script σ} {scripts : List (Script σ)} {log : List (σ × ρ)}
      (h : Passes act (run act s c).2 scripts log d) : Passes act c (s :: scripts) (s.logged act c ++ log) d

mutual

theorem mem_steps_of_lasting {x : σ} : ∀ s : Script σ, x ∈ s.lasting → x ∈ s.steps
  | .step _, h => h
  | .block scripts true, h => mem_stepsAll_of_lastingAll scripts h

theorem mem_stepsAll_of_lastingAll {x : σ} : ∀ ss : List (Script σ), x ∈ lastingAll ss → x ∈ stepsAll ss
  | s :: ss, h => by
    rcases List.mem_append.mp h with h | h
    · exact List.mem_append_left _ (mem_steps_of_lasting s h)
    · exact List.mem_append_right _ (mem_stepsAll_of_lastingAll ss h)

end

mutual

theorem logged_eq_trace (hact : ∀ s, Connection.Local (act s)) : ∀ (s : Script σ) (c : Connection),
    s.logged act c = c.trace act s.lasting
  | .step _, _ => rfl
  | .block scripts true, c => by
    show loggedAll act scripts c.begin = c.trace act (lastingAll scripts)
    rw [loggedAll_eq_trace hact scripts c.begin]
    exact Connection.trace_congr hact _ rfl
  | .block _ false, _ => rfl

theorem loggedAll_eq_trace (hact : ∀ s, Connection.Local (act s)) : ∀ (ss : List (Script σ)) (c : Connection),
    loggedAll act ss c = c.trace act (lastingAll ss)
  | [], _ => rfl
  | s :: ss, c => by
    show s.logged act c ++ loggedAll act ss (run act s c).2 = c.trace act (s.lasting ++ lastingAll ss)
    rw [logged_eq_trace hact s, loggedAll_eq_trace hact ss, run_after hact, Connection.trace_append]

end

variable {c d : Connection} {scripts : List (Script σ)} {log : List (σ × ρ)}

/-- The log of a moment is that of its steps without the transactions around them, and so is the database. -/
theorem Passes.eq_trace (hact : ∀ s, Connection.Local (act s)) (h : Passes act c scripts log d) :
    ∃ steps, (∀ s ∈ steps, s ∈ stepsAll scripts) ∧ log = c.trace act steps ∧
      d.database = (c.after act steps).database := by
  induction h with
  | here c scripts => exact ⟨[], nofun, rfl, rfl⟩
  | @inside c d scripts behind kept log h ih =>
    obtain ⟨steps, hsteps, rfl, hd⟩ := ih
    refine ⟨steps, fun s hs => List.mem_append_left _ (hsteps s hs), ?_, ?_⟩
    · exact Connection.trace_congr hact steps rfl
    · rw [hd]
      exact Connection.after_database_congr hact steps rfl
  | @behind c d s scripts log h ih =>
    obtain ⟨steps, hsteps, rfl, hd⟩ := ih
    refine ⟨s.lasting ++ steps, fun x hx => ?_, ?_, ?_⟩
    · rcases List.mem_append.mp hx with hx | hx
      · exact List.mem_append_left _ (mem_steps_of_lasting s hx)
      · exact List.mem_append_right _ (hsteps x hx)
    · rw [logged_eq_trace hact, run_after hact, Connection.trace_append]
    · rw [hd, run_after hact, Connection.after_append]

end Script

end Agenda
