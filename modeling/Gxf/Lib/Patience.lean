import Mathlib.Data.List.Pairwise
import Mathlib.Tactic.Basic

/-!
# Patience

Something is evaluated from time to time during a run, and found stuck or not.  Patience lasts as
long as it was found stuck in all evaluations during a timeout, in a run of at least that length.
With evaluations in the order of time, the latest one that was not stuck decides.
-/

namespace Gxf.Lib

/-- An evaluation: its time, whether there was something to do, and whether nothing would happen
any more. -/
structure Evaluation where
  time : Int
  ready : Bool
  stuck : Bool
  deriving DecidableEq, Repr

/-- The run has lasted for a timeout, and all evaluations during the timeout were stuck.  The
evaluations are those of the run, latest first. -/
structure Patient (start timeout now : Int) (evaluations : List Evaluation) : Prop where
  lasted : start + timeout ≤ now
  stuck : ∀ evaluation ∈ evaluations, now - timeout < evaluation.time → evaluation.stuck = true

/-- The latest evaluation that was not stuck. -/
def latestOther (evaluations : List Evaluation) : Option Evaluation := evaluations.find? (!·.stuck)

/-- The evaluations of a run in the order of time, latest first. -/
structure Timely (start now : Int) (evaluations : List Evaluation) : Prop where
  ordered : evaluations.Pairwise fun later earlier => earlier.time ≤ later.time
  inside : ∀ evaluation ∈ evaluations, start ≤ evaluation.time ∧ evaluation.time ≤ now

variable {start timeout now : Int} {evaluations : List Evaluation} {evaluation : Evaluation}

theorem timely_nil (start now : Int) : Timely start now [] := ⟨.nil, by simp⟩

theorem Timely.later {after : Int} (timely : Timely start now evaluations) (later : now ≤ after) :
    Timely start after evaluations where
  ordered := timely.ordered
  inside other member :=
    (timely.inside other member).imp_right fun before => Int.le_trans before later

theorem Timely.cons (timely : Timely start evaluation.time evaluations)
    (started : start ≤ evaluation.time) :
    Timely start evaluation.time (evaluation :: evaluations) where
  ordered := List.pairwise_cons.mpr ⟨fun other member => (timely.inside other member).2,
    timely.ordered⟩
  inside := List.forall_mem_cons.mpr ⟨⟨started, Int.le_refl _⟩, timely.inside⟩

theorem Timely.le_latestOther (timely : Timely start now evaluations) {latest : Evaluation}
    (isLatest : latestOther evaluations = some latest) {other : Evaluation}
    (member : other ∈ evaluations) (free : other.stuck = false) : other.time ≤ latest.time := by
  obtain ⟨-, before, after, rfl, stuck⟩ := List.find?_eq_some_iff_append.mp isLatest
  obtain ⟨-, ordered, -⟩ := List.pairwise_append.mp timely.ordered
  rcases List.mem_append.mp member with early | late
  · have notFree := stuck other early
    rw [free] at notFree
    cases notFree
  · rcases List.mem_cons.mp late with rfl | late
    · exact Int.le_refl _
    · exact (List.pairwise_cons.mp ordered).1 other late

theorem Timely.patient (timely : Timely start now evaluations) {latest : Evaluation}
    (isLatest : latestOther evaluations = some latest) (waited : latest.time + timeout ≤ now) :
    Patient start timeout now evaluations where
  lasted := by
    have started := (timely.inside latest (List.mem_of_find?_eq_some isLatest)).1
    omega
  stuck other member recent := by
    by_contra notStuck
    have before := timely.le_latestOther isLatest member (Bool.eq_false_iff.mpr notStuck)
    omega

theorem Timely.patient_zero (timely : Timely start now evaluations) (started : start ≤ now) :
    Patient start 0 now evaluations where
  lasted := by omega
  stuck other member recent := by
    have before := (timely.inside other member).2
    omega

theorem Patient.cons (patient : Patient start timeout now evaluations)
    (stuck : evaluation.stuck = true) : Patient start timeout now (evaluation :: evaluations) where
  lasted := patient.lasted
  stuck := List.forall_mem_cons.mpr ⟨fun _ => stuck, patient.stuck⟩

theorem latestOther_cons_stuck (stuck : evaluation.stuck = true) (evaluations : List Evaluation) :
    latestOther (evaluation :: evaluations) = latestOther evaluations :=
  List.find?_cons_of_neg (by rw [stuck]; decide)

theorem latestOther_cons_free (free : evaluation.stuck = false) (evaluations : List Evaluation) :
    latestOther (evaluation :: evaluations) = some evaluation :=
  List.find?_cons_of_pos (by rw [free]; rfl)

end Gxf.Lib
