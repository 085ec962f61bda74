import JarLedger.Proofs.WorkerPool.Accounting

/-!
# A reader and its workers

One reader goes through an input.  With a line it waits for a permit, hands the line to a new worker
and takes note of workers that have ended meanwhile; at the end of the input it waits for the
others.  Workers end in whatever order and way, and give their permits back.  What an event can do
is said by `WorkerPool.Shift.Move`, and what no event breaks by `WorkerPool.Shift.Kept`.
-/

namespace JarLedger
namespace WorkerPool

variable {σ : Type}

/-- Let a worker end with whatever answer and leave the workspace in whatever state. -/
def finishAs (pool : WorkerPool σ) (number : Nat) (handled : Handled) (space : Workspace σ) :
    Option (WorkerPool σ) :=
  match pool.running.lookup number with
  | none => none
  | some _ =>
      some { pool with
        permits := pool.permits + 1
        running := pool.running.filter fun worker => worker.1 ≠ number
        ended := pool.ended ++ [(number, handled.isCrash)]
        handled := handled :: pool.handled
        tally := pool.tally.receive.recordHandled handled
        space }

/-- Where the reader of an input is. -/
inductive Shift.Stage where
  /-- It is about to read on. -/
  | reading
  /-- It has a line and waits for a permit. -/
  | admitting
  /-- It has handed a line out and takes note of workers that have ended. -/
  | sweeping
  /-- It has come to the end of the input and waits for the workers. -/
  | closing
  /-- It has returned, and whether with success. -/
  | returned (success : Bool)
  deriving DecidableEq, Repr

/-- Something that was done. -/
inductive Shift.Deed where
  /-- A line was handed to a new worker. -/
  | began (number : Nat) (line : String)
  /-- A worker gave its permit back, having dealt with its line or died over it. -/
  | freed (number : Nat)
  /-- A worker gave its permit back before it had looked at its line. -/
  | calledOff (number : Nat)
  /-- The end of a worker was noticed, between lines or after the last one. -/
  | noticed (number : Nat) (late : Bool)
  deriving DecidableEq, Repr

namespace Shift.Deed

/-- The worker that began, with its line. -/
def began? : Deed → Option (Nat × String)
  | .began number line => some (number, line)
  | _ => none

/-- The worker that gave its permit back. -/
def freed? : Deed → Option Nat
  | .freed number => some number
  | .calledOff number => some number
  | _ => none

/-- The worker that nobody has to wait for any more. -/
def gone? : Deed → Option Nat
  | .calledOff number => some number
  | .noticed number _ => some number
  | _ => none

/-- The worker whose end was noticed. -/
def noticed? : Deed → Option Nat
  | .noticed number _ => some number
  | _ => none

end Shift.Deed

/-- A reader and its pool, in which at most the line waits that was read last. -/
structure Shift (σ : Type) where
  /-- What reading on will give; none where the input cannot be read. -/
  input : List (Option String)
  stage : Shift.Stage := .reading
  pool : WorkerPool σ
  /-- What was done, first to last. -/
  log : List Shift.Deed := []

namespace Shift

/-- What can happen next. -/
inductive Event (σ : Type) where
  /-- The reader reads on. -/
  | read
  /-- The reader gets a permit, and a new worker the line. -/
  | engage
  /-- A worker ends and gives its permit back. -/
  | finish (number : Nat) (handled : Handled) (space : Workspace σ)
  /-- The reader, which has failed, calls a worker off that has not looked at its line. -/
  | callOff (number : Nat)
  /-- The reader notices the end of a worker. -/
  | notice (number : Nat)
  /-- No other end has come to the reader's notice. -/
  | goOn
  /-- The reader returns, no worker being left. -/
  | close

/-- Let something happen, if it can. -/
def step (shift : Shift σ) : Event σ → Option (Shift σ)
  | .read =>
      match shift.stage, shift.input with
      | .reading, [] => some { shift with stage := .closing }
      | .reading, none :: input => some { shift with input, stage := .returned false }
      | .reading, some line :: input =>
          if Text.isAllBlank line then some { shift with input }
          else
            some { shift with
              input
              stage := .admitting
              pool := { shift.pool with waiting := [line] } }
      | _, _ => none
  | .engage =>
      match shift.stage, shift.pool.waiting, shift.pool.handOut with
      | .admitting, line :: _, some pool =>
          some { shift with
            stage := .sweeping
            pool
            log := shift.log ++ [.began shift.pool.begun line] }
      | _, _, _ => none
  | .finish number handled space =>
      (shift.pool.finishAs number handled space).map fun pool =>
        { shift with pool, log := shift.log ++ [.freed number] }
  | .callOff number =>
      match shift.stage, shift.pool.running.lookup number with
      | .returned false, some _ =>
          some { shift with
            pool := { shift.pool with
              permits := shift.pool.permits + 1
              running := shift.pool.running.filter fun worker => worker.1 ≠ number }
            log := shift.log ++ [.calledOff number] }
      | _, _ => none
  | .notice number =>
      match shift.stage, shift.pool.join number with
      | .sweeping, some pool =>
          some { shift with pool, log := shift.log ++ [.noticed number false] }
      | .closing, some pool =>
          some { shift with pool, log := shift.log ++ [.noticed number true] }
      | _, _ => none
  | .goOn =>
      match shift.stage with
      | .sweeping => some { shift with stage := .reading }
      | _ => none
  | .close =>
      match shift.stage, shift.pool.running, shift.pool.ended with
      | .closing, [], [] => some { shift with stage := .returned true }
      | _, _, _ => none

/-- Let things happen one after the other, passing over those that cannot. -/
def perform (shift : Shift σ) (events : List (Event σ)) : Shift σ :=
  events.foldl (fun (shift : Shift σ) event => (shift.step event).getD shift) shift

/-- What an event can do to a shift. -/
inductive Move (shift : Shift σ) : Shift σ → Prop where
  /-- The reader comes to the end of its input. -/
  | exhaust (stage : shift.stage = .reading) (ended : shift.input = []) :
      Move shift { shift with stage := .closing }
  /-- The reader cannot read on. -/
  | fail {rest : List (Option String)} (stage : shift.stage = .reading)
      (front : shift.input = none :: rest) :
      Move shift { shift with input := rest, stage := .returned false }
  /-- The reader passes over a line. -/
  | pass {line : String} {rest : List (Option String)} (stage : shift.stage = .reading)
      (front : shift.input = some line :: rest) (blank : Text.isAllBlank line = true) :
      Move shift { shift with input := rest }
  /-- The reader keeps a line. -/
  | keep {line : String} {rest : List (Option String)} (stage : shift.stage = .reading)
      (front : shift.input = some line :: rest) (full : Text.isAllBlank line = false) :
      Move shift { shift with
        input := rest, stage := .admitting, pool := { shift.pool with waiting := [line] } }
  | engage {line : String} {others : List String} {left : Nat} (stage : shift.stage = .admitting)
      (waits : shift.pool.waiting = line :: others) (enough : shift.pool.permits = left + 1) :
      Move shift { shift with
        stage := .sweeping
        pool := { shift.pool with
          waiting := others
          permits := left
          running := shift.pool.running ++ [(shift.pool.begun, line)]
          begun := shift.pool.begun + 1 }
        log := shift.log ++ [.began shift.pool.begun line] }
  | finish {number : Nat} {line : String} (handled : Handled) (space : Workspace σ)
      (found : shift.pool.running.lookup number = some line) :
      Move shift { shift with
        pool := { shift.pool with
          permits := shift.pool.permits + 1
          running := shift.pool.running.filter fun worker => worker.1 ≠ number
          ended := shift.pool.ended ++ [(number, handled.isCrash)]
          handled := handled :: shift.pool.handled
          tally := shift.pool.tally.receive.recordHandled handled
          space }
        log := shift.log ++ [.freed number] }
  | callOff {number : Nat} {line : String} (stage : shift.stage = .returned false)
      (found : shift.pool.running.lookup number = some line) :
      Move shift { shift with
        pool := { shift.pool with
          permits := shift.pool.permits + 1
          running := shift.pool.running.filter fun worker => worker.1 ≠ number }
        log := shift.log ++ [.calledOff number] }
  | notice {number : Nat} {crashed : Bool} (late : Bool)
      (stage : shift.stage = if late then .closing else .sweeping)
      (found : shift.pool.ended.lookup number = some crashed) :
      Move shift { shift with
        pool := { shift.pool with
          ended := shift.pool.ended.filter fun worker => worker.1 ≠ number
          tally := shift.pool.tally.recordEnd crashed }
        log := shift.log ++ [.noticed number late] }
  | goOn (stage : shift.stage = .sweeping) : Move shift { shift with stage := .reading }
  | close (stage : shift.stage = .closing) (running : shift.pool.running = [])
      (ended : shift.pool.ended = []) : Move shift { shift with stage := .returned true }

/-- A reader before its first line, with so many permits. -/
def ofInput (input : List (Option String)) (permits : Nat) (space : Workspace σ) : Shift σ where
  input
  pool := ofLines [] permits space

/-- The workers that have a permit. -/
def atWork (shift : Shift σ) : List Nat := shift.pool.running.map Prod.fst

/-- The workers whose end was not noticed yet. -/
def unnoticed (shift : Shift σ) : List Nat := shift.pool.ended.map Prod.fst

/-- What happened in a shift with so many permits up to some moment. -/
structure Kept (permits : Nat) (input : List (Option String)) (shift : Shift σ) : Prop where
  /-- The lines read that are not blank were handed out in order, but for one that waits. -/
  read : ∃ lines : List String,
    input = lines.map some ++
      (if shift.stage = .returned false then none :: shift.input else shift.input) ∧
    (lines.filter fun line => !Text.isAllBlank line) =
      (shift.log.filterMap Deed.began?).map Prod.snd ++ shift.pool.waiting
  numbered : (shift.log.filterMap Deed.began?).map Prod.fst = List.range shift.pool.begun
  held : shift.pool.permits + shift.pool.running.length = permits
  /-- Whoever is not at work any more has given a permit back, and once. -/
  freed : (shift.log.filterMap Deed.freed? ++ shift.atWork).Perm (List.range shift.pool.begun)
  /-- Whoever is neither at work nor waiting to be noticed was noticed or called off, and once. -/
  gone : (shift.log.filterMap Deed.gone? ++ (shift.unnoticed ++ shift.atWork)).Perm
    (List.range shift.pool.begun)
  /-- The reader waits with one line. -/
  admitting : shift.pool.waiting.length = if shift.stage = .admitting then 1 else 0
  /-- Only a reader that has failed calls workers off. -/
  steadfast : shift.stage ≠ .returned false → ∀ number, .calledOff number ∉ shift.log
  exhausted : shift.stage = .closing ∨ shift.stage = .returned true → shift.input = []
  allEnded : shift.stage = .returned true → shift.pool.running = [] ∧ shift.pool.ended = []

theorem kept_ofInput (input : List (Option String)) (permits : Nat) (space : Workspace σ) :
    (ofInput input permits space).Kept permits input where
  read := ⟨[], rfl, rfl⟩
  numbered := rfl
  held := rfl
  freed := .refl _
  gone := .refl _
  admitting := rfl
  steadfast := fun _ _ => List.not_mem_nil
  exhausted := nofun
  allEnded := nofun

variable {shift next : Shift σ} {permits : Nat} {input : List (Option String)}

theorem Kept.distinct (kept : shift.Kept permits input) : shift.atWork.Nodup :=
  (List.Nodup.of_append_right (kept.freed.nodup_iff.mpr List.nodup_range))

theorem Kept.distinct_ended (kept : shift.Kept permits input) : shift.unnoticed.Nodup :=
  .of_append_left (.of_append_right (kept.gone.nodup_iff.mpr List.nodup_range))

/-! ## What happens keeps all in order -/

/-- A reader that has not failed has read nothing but lines. -/
theorem Kept.exists_lines (kept : shift.Kept permits input)
    (sure : shift.stage ≠ .returned false) :
    ∃ lines : List String, input = lines.map some ++ shift.input ∧
      (lines.filter fun line => !Text.isAllBlank line) =
        (shift.log.filterMap Deed.began?).map Prod.snd ++ shift.pool.waiting := by
  obtain ⟨lines, split, handed⟩ := kept.read
  rw [if_neg sure] at split
  exact ⟨lines, split, handed⟩

theorem Kept.not_waiting (kept : shift.Kept permits input) (elsewhere : shift.stage ≠ .admitting) :
    shift.pool.waiting = [] :=
  List.length_eq_zero_iff.mp (kept.admitting.trans (if_neg elsewhere))

theorem move_of_step {event : Event σ} (happens : shift.step event = some next) :
    shift.Move next := by
  cases event with
  | read =>
      simp only [Shift.step] at happens
      split at happens
      · cases happens
        exact .exhaust ‹_› ‹_›
      · cases happens
        exact .fail ‹_› ‹_›
      · split at happens
        · cases happens
          exact .pass ‹_› ‹_› ‹_›
        · rename_i full
          cases happens
          exact .keep ‹_› ‹_› (Bool.eq_false_iff.mpr full)
      · cases happens
  | engage =>
      simp only [Shift.step] at happens
      split at happens
      · rename_i line others pool stage waits handedOut
        rw [WorkerPool.handOut, waits] at handedOut
        split at handedOut
        · rename_i front enough
          cases front
          cases handedOut
          cases happens
          exact .engage stage waits enough
        · cases handedOut
      · cases happens
  | finish number handled space =>
      obtain ⟨pool, finished, rfl⟩ := Option.map_eq_some_iff.mp happens
      rw [finishAs] at finished
      split at finished
      · cases finished
      · cases finished
        exact .finish handled space ‹_›
  | callOff number =>
      simp only [Shift.step] at happens
      split at happens
      · cases happens
        exact .callOff ‹_› ‹_›
      · cases happens
  | notice number =>
      have heard (late : Bool) {pool : WorkerPool σ}
          (stage : shift.stage = if late then .closing else .sweeping)
          (joined : shift.pool.join number = some pool) :
          shift.Move { shift with pool, log := shift.log ++ [.noticed number late] } := by
        rw [WorkerPool.join] at joined
        split at joined
        · cases joined
        · cases joined
          exact .notice late stage ‹_›
      simp only [Shift.step] at happens
      split at happens
      · cases happens
        exact heard false ‹_› ‹_›
      · cases happens
        exact heard true ‹_› ‹_›
      · cases happens
  | goOn =>
      simp only [Shift.step] at happens
      split at happens
      · cases happens
        exact .goOn ‹_›
      · cases happens
  | close =>
      simp only [Shift.step] at happens
      split at happens
      · cases happens
        exact .close ‹_› ‹_› ‹_›
      · cases happens

section

variable {kind : Type} {choose : Deed → Option kind} {log : List Deed} {deed : Deed}

theorem log_snoc :
    (log ++ [deed]).filterMap choose = log.filterMap choose ++ (choose deed).toList := by
  cases chosen : choose deed <;> simp [chosen]

theorem log_snoc_of_none (none : choose deed = none) :
    (log ++ [deed]).filterMap choose = log.filterMap choose := by
  rw [log_snoc, none, Option.toList_none, List.append_nil]

end

/-- A number that is taken out of one list and put at the end of another stays among both. -/
theorem perm_move {done left rest : List Nat} {number : Nat}
    (split : left.Perm (number :: rest)) : (done ++ [number] ++ rest).Perm (done ++ left) := by
  rw [List.append_assoc]
  exact split.symm.append_left done

/-- A worker can be taken from the others. -/
theorem perm_of_lookup {ε : Type} {workers : List (Nat × ε)} {number : Nat} {entry : ε}
    (found : workers.lookup number = some entry) (distinct : (workers.map Prod.fst).Nodup) :
    (workers.filter fun worker => worker.1 ≠ number).length + 1 = workers.length ∧
      (workers.map Prod.fst).Perm
        (number :: (workers.filter fun worker => worker.1 ≠ number).map Prod.fst) := by
  obtain ⟨earlier, later, split, others⟩ := exists_split_of_lookup found distinct
  rw [others, split, List.map_append, List.map_append, List.length_append, List.length_append]
  exact ⟨rfl, List.perm_middle⟩

/-- To keep a line is all that makes one wait. -/
theorem Kept.keep (kept : shift.Kept permits input) {line : String} {rest : List (Option String)}
    (stage : shift.stage = .reading) (front : shift.input = some line :: rest)
    (full : Text.isAllBlank line = false) :
    { shift with
      input := rest
      stage := .admitting
      pool := { shift.pool with waiting := [line] } : Shift σ }.Kept permits input := by
  obtain ⟨lines, split, handed⟩ := kept.exists_lines (by simp [stage])
  rw [kept.not_waiting (by simp [stage]), List.append_nil] at handed
  refine { kept with
    read := ⟨lines ++ [line], ?_, ?_⟩
    admitting := rfl
    steadfast := fun _ => kept.steadfast (by simp [stage])
    exhausted := nofun
    allEnded := nofun }
  · rw [split, front, List.map_append, List.append_assoc]
    rfl
  · rw [List.filter_append, handed, List.filter_cons_of_pos (by simp [full])]
    rfl

theorem Kept.engage (kept : shift.Kept permits input) {line : String} {others : List String}
    {left : Nat} (stage : shift.stage = .admitting) (waits : shift.pool.waiting = line :: others)
    (enough : shift.pool.permits = left + 1) :
    { shift with
      stage := .sweeping
      pool := { shift.pool with
        waiting := others
        permits := left
        running := shift.pool.running ++ [(shift.pool.begun, line)]
        begun := shift.pool.begun + 1 }
      log := shift.log ++ [.began shift.pool.begun line] : Shift σ }.Kept permits input := by
  obtain ⟨lines, split, handed⟩ := kept.exists_lines (by simp [stage])
  have one := kept.admitting
  rw [waits, if_pos stage, List.length_cons, Nat.add_right_cancel_iff,
    List.length_eq_zero_iff] at one
  subst one
  rw [waits] at handed
  refine {
    read := ⟨lines, split, ?_⟩
    numbered := ?_
    held := ?_
    freed := ?_
    gone := ?_
    admitting := rfl
    steadfast := fun _ => ?_
    exhausted := nofun
    allEnded := nofun }
  · rw [handed, log_snoc, List.map_append]
    exact (List.append_nil _).symm
  · rw [log_snoc, List.map_append, kept.numbered, List.range_succ]
    rfl
  · have before := kept.held
    rw [List.length_append, List.length_singleton]
    dsimp only
    omega
  · rw [log_snoc_of_none rfl, List.range_succ, atWork, List.map_append, ← List.append_assoc]
    exact kept.freed.append_right _
  · rw [log_snoc_of_none rfl, List.range_succ, atWork, List.map_append, ← List.append_assoc,
      ← List.append_assoc, List.append_assoc (List.filterMap _ _)]
    exact kept.gone.append_right _
  · simpa using kept.steadfast (by simp [stage])

theorem Kept.move (kept : shift.Kept permits input) (moves : shift.Move next) :
    next.Kept permits input := by
  cases moves with
  | exhaust stage ended =>
      exact { kept with
        read := by simpa [stage] using kept.read
        admitting := by simpa [stage] using kept.admitting
        steadfast := fun _ => kept.steadfast (by simp [stage])
        exhausted := fun _ => ended
        allEnded := nofun }
  | fail stage front =>
      exact { kept with
        read := by simpa [stage, front] using kept.read
        admitting := by simpa [stage] using kept.admitting
        steadfast := fun sure => absurd rfl sure
        exhausted := nofun
        allEnded := nofun }
  | @pass line rest stage front blank =>
      obtain ⟨lines, split, handed⟩ := kept.exists_lines (by simp [stage])
      exact { kept with
        read := ⟨lines ++ [line], by simp [split, front, stage], by
          rw [List.filter_append, handed, List.filter_cons_of_neg (by simp [blank])]
          exact List.append_nil _⟩
        exhausted := fun ended => by simp [stage] at ended }
  | keep stage front full => exact kept.keep stage front full
  | engage stage waits enough => exact kept.engage stage waits enough
  | finish handled space found =>
      obtain ⟨fewer, taken⟩ := perm_of_lookup found kept.distinct
      exact { kept with
        read := by rw [log_snoc_of_none rfl]; exact kept.read
        numbered := by rw [log_snoc_of_none rfl]; exact kept.numbered
        held := by
          have before := kept.held
          dsimp only
          omega
        freed := by
          rw [log_snoc]
          exact (perm_move taken).trans kept.freed
        gone := by
          rw [log_snoc_of_none rfl, unnoticed, List.map_append]
          exact ((perm_move taken).append_left _).trans kept.gone
        steadfast := fun sure => by simpa using kept.steadfast sure
        allEnded := fun success => by
          rw [(kept.allEnded success).1] at found
          cases found }
  | callOff stage found =>
      obtain ⟨fewer, taken⟩ := perm_of_lookup found kept.distinct
      exact { kept with
        read := by rw [log_snoc_of_none rfl]; exact kept.read
        numbered := by rw [log_snoc_of_none rfl]; exact kept.numbered
        held := by
          have before := kept.held
          dsimp only
          omega
        freed := by
          rw [log_snoc]
          exact (perm_move taken).trans kept.freed
        gone := by
          rw [log_snoc]
          exact (perm_move ((taken.append_left _).trans List.perm_middle)).trans kept.gone
        steadfast := fun sure => absurd stage sure
        allEnded := fun success => by cases stage.symm.trans success }
  | notice late stage found =>
      have taken := (perm_of_lookup found kept.distinct_ended).2
      exact { kept with
        read := by rw [log_snoc_of_none rfl]; exact kept.read
        numbered := by rw [log_snoc_of_none rfl]; exact kept.numbered
        freed := by rw [log_snoc_of_none rfl]; exact kept.freed
        gone := by
          rw [log_snoc]
          exact (perm_move (taken.append_right _)).trans kept.gone
        steadfast := fun sure => by simpa using kept.steadfast sure
        allEnded := fun success => by
          cases late <;> cases stage.symm.trans success }
  | goOn stage =>
      exact { kept with
        read := by simpa [stage] using kept.read
        admitting := by simpa [stage] using kept.admitting
        steadfast := fun _ => kept.steadfast (by simp [stage])
        exhausted := nofun
        allEnded := nofun }
  | close stage running ended =>
      exact { kept with
        read := by simpa [stage] using kept.read
        admitting := by simpa [stage] using kept.admitting
        steadfast := fun _ => kept.steadfast (by simp [stage])
        exhausted := fun _ => kept.exhausted (.inl stage)
        allEnded := fun _ => ⟨running, ended⟩ }

theorem Kept.perform (kept : shift.Kept permits input) (events : List (Event σ)) :
    (shift.perform events).Kept permits input := by
  induction events generalizing shift with
  | nil => exact kept
  | cons event rest ih =>
      rw [Shift.perform, List.foldl_cons]
      cases happens : shift.step event with
      | none => exact ih kept
      | some next => exact ih (kept.move (move_of_step happens))

theorem perform_append (shift : Shift σ) (front back : List (Event σ)) :
    shift.perform (front ++ back) = (shift.perform front).perform back :=
  List.foldl_append

theorem perform_cons {event : Event σ} (happens : shift.step event = some next)
    (rest : List (Event σ)) : shift.perform (event :: rest) = next.perform rest := by
  rw [Shift.perform, List.foldl_cons, happens, Option.getD_some, Shift.perform]

end Shift
end WorkerPool
end JarLedger
