import Agenda.Store.Script
import Mathlib

/-!
# What lasts of a script

Of a script of nested transactions some steps last (`Script.lasting`): the blocks that are undone are gone with all
that is in them, the others are as good as the steps in them. Where steps work on the database alone, a script leaves
what its lasting steps leave (`run_after`), and every step in it answers as it does after those before it that last up
to then (`run_answers`): earlier steps of a block around it count even if that block is undone later.
-/

namespace Agenda

variable {σ ρ : Type} {act : σ → Connection → ρ × Connection}

/-! ### Work on the database alone -/

namespace Connection

/-- Under other open transactions the work does the same to the database, and it leaves them as they are. -/
def Local (work : Connection → ρ × Connection) : Prop :=
  ∀ (c : Connection) (saved : List Database),
    work { c with savepoints := saved } = ((work c).1, { (work c).2 with savepoints := saved })

variable {work : Connection → ρ × Connection} {c d : Connection}

theorem with_savepoints_of_database (h : c.database = d.database) : { c with savepoints := d.savepoints } = d := by
  cases c
  cases d
  cases h
  rfl

theorem Local.savepoints (h : Local work) (c : Connection) : (work c).2.savepoints = c.savepoints := by
  have hc : work c = _ := h c c.savepoints
  rw [hc]

theorem Local.of_database_eq (h : Local work) (hcd : c.database = d.database) :
    work d = ((work c).1, { (work c).2 with savepoints := d.savepoints }) := by
  rw [← h c d.savepoints, with_savepoints_of_database hcd]

theorem Local.answer_congr (h : Local work) (hcd : c.database = d.database) : (work c).1 = (work d).1 := by
  rw [h.of_database_eq hcd]

theorem Local.database_congr (h : Local work) (hcd : c.database = d.database) :
    (work c).2.database = (work d).2.database := by
  rw [h.of_database_eq hcd]

theorem ext (hdatabase : c.database = d.database) (hsavepoints : c.savepoints = d.savepoints) : c = d := by
  rw [← with_savepoints_of_database hdatabase, ← hsavepoints]

/-! ### One step after the other -/

/-- The connection after steps, one after the other and without a transaction of their own. -/
def after (c : Connection) (act : σ → Connection → ρ × Connection) (steps : List σ) : Connection :=
  steps.foldl (fun c s => (act s c).2) c

theorem after_append (c : Connection) (act : σ → Connection → ρ × Connection) (xs ys : List σ) :
    c.after act (xs ++ ys) = (c.after act xs).after act ys :=
  List.foldl_append

section After

variable (hact : ∀ s, Local (act s)) (steps : List σ)
include hact

theorem after_savepoints (c : Connection) : (c.after act steps).savepoints = c.savepoints := by
  induction steps generalizing c with
  | nil => rfl
  | cons s steps ih => exact (ih (act s c).2).trans ((hact s).savepoints c)

theorem after_database_congr (hcd : c.database = d.database) :
    (c.after act steps).database = (d.after act steps).database := by
  induction steps generalizing c d with
  | nil => exact hcd
  | cons s steps ih => exact ih ((hact s).database_congr hcd)

/-- Steps in a transaction that is kept leave what they leave without it. -/
theorem commit_after (c : Connection) : (c.begin.after act steps).finish true = c.after act steps := by
  refine ext (after_database_congr hact steps rfl) ?_
  show (c.begin.after act steps).savepoints.tail = _
  rw [after_savepoints hact, after_savepoints hact]
  rfl

/-- Steps in a transaction that is undone leave nothing. -/
theorem rollback_after (c : Connection) : (c.begin.after act steps).finish false = c := by
  have hsaved : (c.begin.after act steps).savepoints = c.database :: c.savepoints := after_savepoints hact steps c.begin
  show rollback _ = c
  unfold rollback
  rw [hsaved]

end After

end Connection

namespace Script

/-! ### Steps that last -/

mutual

/-- The steps of a script that are not undone with a block around them, in order. -/
def lasting : Script σ → List σ
  | .step s => [s]
  | .block scripts true => lastingAll scripts
  | .block _ false => []

@[inherit_doc lasting] def lastingAll : List (Script σ) → List σ
  | [] => []
  | s :: ss => s.lasting ++ lastingAll ss

end

theorem lastingAll_append (xs ys : List (Script σ)) : lastingAll (xs ++ ys) = lastingAll xs ++ lastingAll ys := by
  induction xs with
  | nil => rfl
  | cons s xs ih =>
    show s.lasting ++ lastingAll (xs ++ ys) = s.lasting ++ lastingAll xs ++ lastingAll ys
    rw [ih, List.append_assoc]

mutual

theorem run_after (hact : ∀ s, Connection.Local (act s)) : ∀ (s : Script σ) (c : Connection),
    (run act s c).2 = c.after act s.lasting
  | .step s, c => rfl
  | .block scripts true, c => by
    show (runAll act scripts c.begin).2.finish true = c.after act (lastingAll scripts)
    rw [runAll_after hact scripts c.begin, Connection.commit_after hact]
  | .block scripts false, c => by
    show (runAll act scripts c.begin).2.finish false = c
    rw [runAll_after hact scripts c.begin, Connection.rollback_after hact]

theorem runAll_after (hact : ∀ s, Connection.Local (act s)) : ∀ (ss : List (Script σ)) (c : Connection),
    (runAll act ss c).2 = c.after act (lastingAll ss)
  | [], c => rfl
  | s :: ss, c => by
    show (runAll act ss (run act s c).2).2 = c.after act (s.lasting ++ lastingAll ss)
    rw [runAll_after hact ss, run_after hact s, Connection.after_append]

end

/-- A step that changes nothing where it stands may as well be left out. -/
theorem runAll_skip (hact : ∀ s, Connection.Local (act s)) {s : σ} {before : List (Script σ)} {c : Connection}
    (hs : (act s (c.after act (lastingAll before))).2 = c.after act (lastingAll before)) (behind : List (Script σ)) :
    (runAll act (before ++ .step s :: behind) c).2 = (runAll act (before ++ behind) c).2 := by
  rw [runAll_after hact, runAll_after hact, lastingAll_append, lastingAll_append, Connection.after_append,
    Connection.after_append]
  show (act s (c.after act (lastingAll before))).2.after act (lastingAll behind) = _
  rw [hs]

/-! ### Answers -/

mutual

/-- The answers of a script, each one that of its step after the steps before it that last up to then. The ones before
the script are `earlier`; a block around a step ends after it, so it counts as kept. -/
def answers (act : σ → Connection → ρ × Connection) (c : Connection) (earlier : List σ) : Script σ → Transcript ρ
  | .step s => .answer (act s (c.after act earlier)).1
  | .block scripts kept => .block (answersAll act c earlier scripts) kept

@[inherit_doc answers] def answersAll (act : σ → Connection → ρ × Connection) (c : Connection) (earlier : List σ) :
    List (Script σ) → List (Transcript ρ)
  | [] => []
  | s :: ss => answers act c earlier s :: answersAll act c (earlier ++ s.lasting) ss

end

mutual

theorem run_answers (hact : ∀ s, Connection.Local (act s)) (c : Connection) :
    ∀ (s : Script σ) (earlier : List σ) (d : Connection), d.database = (c.after act earlier).database →
      (run act s d).1 = answers act c earlier s
  | .step s, earlier, d, hd => by
    show Transcript.answer (act s d).1 = .answer (act s (c.after act earlier)).1
    rw [(hact s).answer_congr hd]
  | .block scripts kept, earlier, d, hd => by
    show Transcript.block (runAll act scripts d.begin).1 kept = .block (answersAll act c earlier scripts) kept
    rw [runAll_answers hact c scripts earlier d.begin hd]

-- Inside blocks the connection `d` has more open transactions than `c` after the earlier steps; only the databases agree.
theorem runAll_answers (hact : ∀ s, Connection.Local (act s)) (c : Connection) :
    ∀ (ss : List (Script σ)) (earlier : List σ) (d : Connection), d.database = (c.after act earlier).database →
      (runAll act ss d).1 = answersAll act c earlier ss
  | [], _, _, _ => rfl
  | s :: ss, earlier, d, hd => by
    have hnext : (run act s d).2.database = (c.after act (earlier ++ s.lasting)).database := by
      rw [run_after hact s, Connection.after_append]
      exact Connection.after_database_congr hact s.lasting hd
    show (run act s d).1 :: (runAll act ss (run act s d).2).1 = _
    rw [run_answers hact c s earlier d hd, runAll_answers hact c ss (earlier ++ s.lasting) _ hnext]
    rfl

end

end Script

end Agenda
