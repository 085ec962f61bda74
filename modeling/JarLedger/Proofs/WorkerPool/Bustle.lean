import JarLedger.Proofs.WorkerPool.Balance

/-!
# Workers at work at once

Lines are handed out while earlier workers are still at work.  What a worker makes of its line
depends on the others, which change the store meanwhile, so it may be whatever fits the channel; a
worker may die.  Each thing is counted for itself, by the worker or by whoever notices the end of
the worker, and in between others count.  When all is over, the tally is balanced
(`Bustle.Kept.balanced`).
-/

namespace JarLedger

/-- A worker, with what is still to be counted of it. -/
inductive Worker where
  /-- It has a line. -/
  | begun (line : String) (due : List Count)
  /-- It has dealt with its line. -/
  | answered (handled : Handled) (due : List Count)
  /-- It has ended and given its permit back. -/
  | ended (handled : Handled) (due : List Count)

namespace Worker

/-- What is still to be counted. -/
def due : Worker → List Count
  | .begun _ due => due
  | .answered _ due => due
  | .ended _ due => due

/-- The worker with something else still to be counted. -/
def setDue (due : List Count) : Worker → Worker
  | .begun line _ => .begun line due
  | .answered handled _ => .answered handled due
  | .ended handled _ => .ended handled due

/-- What there has been to count so far. -/
def owed : Worker → List Count
  | .begun _ _ => [.received]
  | .answered handled _ => .received :: handled.counts
  | .ended handled _ => handled.allCounts

/-- How it has dealt with its line. -/
def handled? : Worker → Option Handled
  | .begun _ _ => none
  | .answered handled _ => some handled
  | .ended handled _ => some handled

/-- Whether its end was noticed. -/
def isOver : Worker → Bool
  | .ended _ [] => true
  | _ => false

variable (worker : Worker) (rest : List Count)

@[simp]
theorem due_setDue : (worker.setDue rest).due = rest := by
  cases worker <;> rfl

@[simp]
theorem owed_setDue : (worker.setDue rest).owed = worker.owed := by
  cases worker <;> rfl

@[simp]
theorem handled?_setDue : (worker.setDue rest).handled? = worker.handled? := by
  cases worker <;> rfl

end Worker

/-- Workers at the lines of an input. -/
structure Bustle where
  channel : Channel
  /-- Lines that no worker has yet. -/
  waiting : List String
  /-- How many more workers may begin. -/
  permits : Nat
  /-- The workers that began, the first one first. -/
  workers : List Worker := []
  tally : Tally := {}

namespace Bustle

/-- What may happen next. -/
inductive Event where
  /-- A new worker takes the next line. -/
  | handOut
  /-- The next thing is counted of a worker. -/
  | count (number : Nat)
  /-- A worker has dealt with its line. -/
  | answer (number : Nat) (handled : Handled)
  /-- A worker ends; its permit is free. -/
  | finish (number : Nat)

/-- Put another worker in the place of one. -/
def setWorker (bustle : Bustle) (number : Nat) (worker : Worker) : Bustle :=
  { bustle with workers := bustle.workers.set number worker }

/-- Let something happen, if it can.  A worker has counted its line before it deals with it, and
counts all that it has to count before it ends. -/
def step (bustle : Bustle) : Event → Option Bustle
  | .handOut =>
      match bustle.waiting, bustle.permits with
      | line :: waiting, permits + 1 =>
          some { bustle with
            waiting
            permits
            workers := bustle.workers ++ [.begun line [.received]] }
      | _, _ => none
  | .count number =>
      match bustle.workers[number]? with
      | none => none
      | some worker =>
          match worker.due with
          | [] => none
          | counted :: due =>
              some { bustle.setWorker number (worker.setDue due) with
                tally := bustle.tally.bump counted }
  | .answer number handled =>
      match bustle.workers[number]? with
      | some (.begun _ []) =>
          if handled.isOn bustle.channel then
            some (bustle.setWorker number (.answered handled handled.counts))
          else none
      | _ => none
  | .finish number =>
      match bustle.workers[number]? with
      | some (.answered handled []) =>
          some { bustle.setWorker number (.ended handled (Handled.endCounts handled.isCrash)) with
            permits := bustle.permits + 1 }
      | _ => none

/-- Let things happen one after the other, passing over those that cannot. -/
def perform (bustle : Bustle) (events : List Event) : Bustle :=
  events.foldl (fun (bustle : Bustle) event => (bustle.step event).getD bustle) bustle

/-- Before the first line. -/
def ofLines (channel : Channel) (permits : Nat) (lines : List String) : Bustle where
  channel
  waiting := lines
  permits

/-- Whether every line was handed out and the end of every worker was noticed. -/
def isOver (bustle : Bustle) : Bool := bustle.waiting.isEmpty && bustle.workers.all Worker.isOver

/-- How the workers have dealt with their lines. -/
def handled (bustle : Bustle) : List Handled := bustle.workers.filterMap Worker.handled?

/-! ## What events keep -/

/-- All lines and counts are accounted for. -/
structure Kept (channel : Channel) (lines : Nat) (bustle : Bustle) : Prop where
  same : bustle.channel = channel
  lines : bustle.waiting.length + bustle.workers.length = lines
  on : ∀ worker ∈ bustle.workers, ∀ handled, worker.handled? = some handled →
    handled.isOn channel = true
  /-- What was counted, with what is still to be counted, is all there has been to count. -/
  counts : ∀ count, bustle.tally.get count + (bustle.workers.flatMap Worker.due).count count =
    (bustle.workers.flatMap Worker.owed).count count

theorem kept_ofLines (channel : Channel) (permits : Nat) (lines : List String) :
    (ofLines channel permits lines).Kept channel lines.length where
  same := rfl
  lines := Nat.add_zero _
  on := nofun
  counts := fun count => Tally.get_fresh count

variable {channel : Channel} {lines : Nat} {bustle : Bustle}

/-- The bustle stays in order if one worker goes on to what is accounted for as before. -/
theorem Kept.setWorker (kept : bustle.Kept channel lines) {number permits : Nat}
    {worker next : Worker} {tally : Tally} (found : bustle.workers[number]? = some worker)
    (on : ∀ handled, next.handled? = some handled → handled.isOn channel = true)
    (counts : ∀ count, tally.get count + next.due.count count + worker.owed.count count =
      bustle.tally.get count + worker.due.count count + next.owed.count count) :
    { bustle.setWorker number next with permits, tally }.Kept channel lines := by
  obtain ⟨inside, here⟩ := List.getElem?_eq_some_iff.mp found
  obtain ⟨earlier, later, split, -, replaced⟩ := @List.exists_of_set _ number next _ inside
  rw [here] at split
  refine ⟨kept.same, ?_, ?_, fun count => ?_⟩
  · rw [← kept.lines]
    exact congrArg _ List.length_set
  · intro other member handled found
    rcases List.mem_or_eq_of_mem_set member with old | rfl
    · exact kept.on other old handled found
    · exact on handled found
  · have before := kept.counts count
    have here := counts count
    change tally.get count + ((bustle.workers.set number next).flatMap Worker.due).count count =
      ((bustle.workers.set number next).flatMap Worker.owed).count count
    rw [replaced]
    rw [split] at before
    simp only [List.flatMap_append, List.flatMap_cons, List.count_append] at before ⊢
    omega

theorem Kept.handOut (kept : bustle.Kept channel lines) {line : String} {waiting : List String}
    {permits : Nat} (next : bustle.waiting = line :: waiting) :
    { bustle with
      waiting
      permits
      workers := bustle.workers ++ [Worker.begun line [.received]] }.Kept channel lines where
  same := kept.same
  lines := by
    rw [← kept.lines, next, List.length_cons, List.length_append, List.length_singleton]
    exact (Nat.succ_add_eq_add_succ _ _).symm
  on := by
    intro worker member handled found
    rcases List.mem_append.mp member with old | new
    · exact kept.on worker old handled found
    · rw [List.mem_singleton.mp new] at found
      cases found
  counts := by
    intro count
    have before := kept.counts count
    simp only [List.flatMap_append, List.flatMap_singleton, List.count_append, Worker.due,
      Worker.owed]
    omega

theorem Kept.step (kept : bustle.Kept channel lines) {event : Event} {next : Bustle}
    (happens : bustle.step event = some next) : next.Kept channel lines := by
  cases event with
  | handOut =>
      simp only [Bustle.step] at happens
      split at happens
      · rename_i line waiting permits first _
        cases happens
        exact kept.handOut first
      · cases happens
  | count number =>
      simp only [Bustle.step] at happens
      split at happens
      · cases happens
      · rename_i worker found
        split at happens
        · cases happens
        · rename_i counted due owes
          cases happens
          refine kept.setWorker found ?_ fun count => ?_
          · rw [Worker.handled?_setDue]
            exact kept.on worker (List.mem_of_getElem? found)
          · rw [Tally.get_bump, owes, List.count_cons, Worker.due_setDue, Worker.owed_setDue]
            simp only [beq_iff_eq]
            omega
  | answer number handled =>
      simp only [Bustle.step] at happens
      split at happens
      · rename_i line found
        split at happens
        · rename_i on
          cases happens
          refine kept.setWorker found ?_ fun count => ?_
          · rintro _ ⟨⟩
            exact kept.same ▸ on
          · simp only [Worker.due, Worker.owed, List.count_nil, List.count_cons]
            omega
        · cases happens
      · cases happens
  | finish number =>
      simp only [Bustle.step] at happens
      split at happens
      · rename_i handled found
        cases happens
        refine kept.setWorker found ?_ fun count => ?_
        · exact kept.on (.answered handled []) (List.mem_of_getElem? found)
        · simp only [Bustle.setWorker, Worker.due, Worker.owed, Handled.allCounts, List.count_nil,
            List.count_cons, List.count_append]
          omega
      · cases happens

theorem Kept.perform (kept : bustle.Kept channel lines) (events : List Event) :
    (bustle.perform events).Kept channel lines := by
  induction events generalizing bustle with
  | nil => exact kept
  | cons event rest ih =>
      rw [Bustle.perform, List.foldl_cons]
      cases happens : bustle.step event with
      | none => exact ih kept
      | some next => exact ih (kept.step happens)

/-! ## When all is over -/

/-- The workers whose end was noticed have dealt with all lines, and all was counted of them. -/
theorem of_all_isOver {workers : List Worker} (finished : workers.all Worker.isOver = true) :
    (workers.filterMap Worker.handled?).length = workers.length ∧
      workers.flatMap Worker.due = [] ∧
      workers.flatMap Worker.owed =
        (workers.filterMap Worker.handled?).flatMap Handled.allCounts := by
  induction workers with
  | nil => exact ⟨rfl, rfl, rfl⟩
  | cons worker rest ih =>
      rw [List.all_cons, Bool.and_eq_true] at finished
      obtain ⟨length, due, owed⟩ := ih finished.2
      rcases worker with _ | _ | ⟨handled, _ | _⟩
      · cases finished.1
      · cases finished.1
      · have dealt : (Worker.ended handled [] :: rest).filterMap Worker.handled? =
            handled :: rest.filterMap Worker.handled? := rfl
        refine ⟨?_, due, ?_⟩
        · rw [dealt, List.length_cons, length, List.length_cons]
        · rw [dealt, List.flatMap_cons, List.flatMap_cons, owed]
          rfl
      · cases finished.1

/-- When all is over, each line was dealt with by one worker, and the tally is balanced. -/
theorem Kept.balanced (kept : bustle.Kept channel lines) (finished : bustle.isOver = true) :
    bustle.handled.length = lines ∧ Balanced channel bustle.handled bustle.tally := by
  rw [isOver, Bool.and_eq_true, List.isEmpty_iff] at finished
  obtain ⟨length, due, owed⟩ := of_all_isOver finished.2
  constructor
  · rw [handled, length, ← kept.lines, finished.1, List.length_nil, Nat.zero_add]
  · refine balanced_of_get (fun one member => ?_) fun count => ?_
    · obtain ⟨worker, inside, found⟩ := List.mem_filterMap.mp member
      exact kept.on worker inside one found
    · have counts := kept.counts count
      rwa [due, owed, List.count_nil] at counts

end Bustle
end JarLedger
