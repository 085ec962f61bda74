import JarLedger.Pipeline
import Mathlib.Logic.Function.Basic
import Mathlib.Logic.Function.Iterate

/-!
# Work on many documents at once

The work on one document asks the filter, reconciles the document's message, and marks the document
as applied.  Each of the three is one step, and the work on other documents may go on in between: a
schedule says whose step is next.  Three steps without a break are `Pipeline.processPayload`
(`Job.advance_thrice`).
-/

namespace JarLedger

/-- A document to be worked on. -/
structure Job where
  announcement : Announcement
  payload : String
  source : Source

/-- What tells one job from others. -/
abbrev JobId : Type := Nat

namespace Job

/-- How far the work on a document is. -/
inductive Stage where
  /-- Nothing is done. -/
  | waiting
  /-- The filter has let the document through. -/
  | admitted
  /-- The document's message is reconciled. -/
  | applied (reconciled : Reconciled)
  /-- The work is over. -/
  | ended (result : Except IngestError PayloadOutcome)

variable {σ : Type}

/-- Make the next step of the work on a document. -/
def advance (pipeline : Pipeline σ) (job : Job) : Stage × Workspace σ → Stage × Workspace σ
  | (.waiting, space) =>
      match pipeline.gate job.payload job.source space with
      | (true, space) => (.admitted, space)
      | (false, space) => (.ended (.ok .duplicate), space)
  | (.admitted, space) =>
      match Snapshot.classify job.announcement job.payload with
      | .error failure => (.ended (.error failure), space)
      | .ok message =>
          match pipeline.reconcile message space with
          | (.error failure, space) => (.ended (.error failure), space)
          | (.ok reconciled, space) => (.applied reconciled, space)
  | (.applied reconciled, space) =>
      (.ended (.ok (.applied reconciled)), pipeline.mark job.payload job.source space)
  | (.ended result, space) => (.ended result, space)

/-- Without a break the steps are the work on one document. -/
theorem advance_thrice (pipeline : Pipeline σ) (job : Job) (space : Workspace σ) :
    (job.advance pipeline)^[3] (.waiting, space) =
      (.ended (pipeline.processPayload job.announcement job.payload job.source space).1,
        (pipeline.processPayload job.announcement job.payload job.source space).2) := by
  simp only [Function.iterate_succ, Function.iterate_zero, Function.comp_apply, id_eq, advance,
    Pipeline.processPayload]
  rcases pipeline.gate job.payload job.source space with ⟨_ | _, asked⟩
  · rfl
  · cases Snapshot.classify job.announcement job.payload with
    | error failure => rfl
    | ok message =>
        simp only
        rcases pipeline.reconcile message asked with ⟨_ | _, done⟩ <;> rfl

end Job

/-- A workspace and the jobs that share it. -/
structure Shop (σ : Type) where
  space : Workspace σ
  /-- How far each job is. -/
  stage : JobId → Job.Stage := fun _ => .waiting

namespace Shop

variable {σ : Type}

/-- Make the next step of a job. -/
def advance (pipeline : Pipeline σ) (jobs : JobId → Job) (shop : Shop σ) (id : JobId) : Shop σ :=
  let next := (jobs id).advance pipeline (shop.stage id, shop.space)
  { space := next.2, stage := Function.update shop.stage id next.1 }

/-- Make steps of jobs as a schedule says. -/
def run (pipeline : Pipeline σ) (jobs : JobId → Job) (shop : Shop σ) (schedule : List JobId) :
    Shop σ :=
  schedule.foldl (advance pipeline jobs) shop

end Shop
end JarLedger
