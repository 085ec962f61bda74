import JarLedger.Proofs.WorkerPool.Shift
import JarLedger.Store.Memory

/-!
# From the first line of an input to the end of the last worker

However the steps of a reader and of its workers mix, no more workers are at work than there are
permits, each line goes to one worker in the order of the input, each permit comes back once, and
success means that the end of every worker was noticed once.  Every event leaves less to happen, and
with a permit something can happen until all is over (`WorkerPool.Shift.Kept.exists_end`).  A run
that works its lines one after the other is among what can happen
(`WorkerPool.Shift.exists_perform_eq`).
-/

namespace JarLedger
namespace WorkerPool
namespace Shift

variable {σ : Type} {shift next : Shift σ} {permits : Nat} {input : List (Option String)}

/-! ## The end comes nearer -/

/-- How far a reader is from its end. -/
def Stage.rank : Stage → Nat
  | .reading | .admitting => 2
  | .sweeping => 3
  | .closing => 1
  | .returned _ => 0

/-- How much can still happen at most.  A line is yet to be read, to wait, to be worked on, to be
done and to be noticed, and weighs less from one of these to the next. -/
def rank (shift : Shift σ) : Nat :=
  5 * shift.input.length + 4 * shift.pool.waiting.length + 2 * shift.pool.running.length +
    shift.pool.ended.length + shift.stage.rank

/-- Whether the reader has returned and no worker is at work. -/
def isOver (shift : Shift σ) : Prop :=
  (∃ success, shift.stage = .returned success) ∧ shift.pool.running = []

/-- Whatever happens, less can happen after it. -/
theorem Kept.rank_move (kept : shift.Kept permits input) (moves : shift.Move next) :
    next.rank < shift.rank := by
  cases moves with
  | exhaust stage _ => simp [rank, stage, Stage.rank]
  | fail stage front | pass stage front _ =>
      simp only [rank, stage, front, Stage.rank, List.length_cons]
      omega
  | keep stage front _ =>
      have nobody := kept.not_waiting (by simp [stage])
      simp only [rank, stage, front, nobody, Stage.rank, List.length_cons, List.length_nil]
      omega
  | engage stage waits enough =>
      simp only [rank, stage, waits, Stage.rank, List.length_cons, List.length_append,
        List.length_nil]
      omega
  | finish handled space found =>
      have fewer := (perm_of_lookup found kept.distinct).1
      simp only [rank, List.length_append, List.length_singleton]
      omega
  | callOff stage found =>
      have fewer := (perm_of_lookup found kept.distinct).1
      simp only [rank]
      omega
  | notice late stage found =>
      have fewer := (perm_of_lookup found kept.distinct_ended).1
      simp only [rank]
      omega
  | goOn stage | close stage _ _ => simp [rank, stage, Stage.rank]

/-- With a permit there is always something that can happen, until all is over. -/
theorem Kept.exists_step (kept : shift.Kept permits input) (permitted : 0 < permits)
    (unfinished : ¬shift.isOver) : ∃ event next, shift.step event = some next := by
  cases running : shift.pool.running with
  | cons worker others =>
      -- Whoever is at work can end, wherever the reader is.
      obtain ⟨number, line⟩ := worker
      have found : shift.pool.running.lookup number = some line := by
        rw [running, List.lookup_cons_self]
      refine ⟨.finish number (.blob (.error .crashed)) shift.pool.space, ?_⟩
      simp only [Shift.step, finishAs, found]
      exact ⟨_, rfl⟩
  | nil =>
      -- With nobody at work all permits are free, so that the reader does not wait for one.
      cases stage : shift.stage with
      | reading =>
          refine ⟨.read, ?_⟩
          rcases front : shift.input with _ | ⟨_ | line, rest⟩
          all_goals simp only [Shift.step, stage, front]
          · exact ⟨_, rfl⟩
          · exact ⟨_, rfl⟩
          · split <;> exact ⟨_, rfl⟩
      | admitting =>
          obtain ⟨line, waits⟩ := List.length_eq_one_iff.mp (kept.admitting.trans (if_pos stage))
          have enough : 0 < shift.pool.permits := by
            have all := kept.held
            rw [running, List.length_nil] at all
            omega
          obtain ⟨left, permits⟩ := Nat.exists_eq_add_one_of_ne_zero (Nat.ne_of_gt enough)
          refine ⟨.engage, ?_⟩
          simp only [Shift.step, stage, WorkerPool.handOut, waits, permits]
          exact ⟨_, rfl⟩
      | sweeping =>
          refine ⟨.goOn, ?_⟩
          simp only [Shift.step, stage]
          exact ⟨_, rfl⟩
      | closing =>
          cases ended : shift.pool.ended with
          | nil =>
              refine ⟨.close, ?_⟩
              simp only [Shift.step, stage, running, ended]
              exact ⟨_, rfl⟩
          | cons worker others =>
              obtain ⟨number, crashed⟩ := worker
              refine ⟨.notice number, ?_⟩
              simp only [Shift.step, stage, WorkerPool.join, ended, List.lookup_cons_self]
              exact ⟨_, rfl⟩
      | returned success => exact absurd ⟨⟨success, stage⟩, running⟩ unfinished

/-- With a permit all comes to an end. -/
theorem Kept.exists_end (kept : shift.Kept permits input) (permitted : 0 < permits) :
    ∃ more, (shift.perform more).isOver := by
  induction left : shift.rank using Nat.strongRecOn generalizing shift with
  | ind left ih =>
      by_cases finished : shift.isOver
      · exact ⟨[], finished⟩
      · obtain ⟨event, next, happens⟩ := kept.exists_step permitted finished
        have moves := move_of_step happens
        obtain ⟨more, ends⟩ :=
          ih _ (left ▸ kept.rank_move moves) (kept.move moves) rfl
        exact ⟨event :: more, by rwa [perform_cons happens]⟩

/-! ## One line after the other -/

/-- What reading bytes as lines gives. -/
def readings (bytes : List UInt8) : List (Option String) := (Text.lineBytes bytes).map Utf8.decode?

/-- A line is read, worked on and noticed before the next one, as in a run. -/
theorem exists_round (pipeline : Pipeline σ) (channel : Channel) {pool : WorkerPool σ}
    {line : String} {waiting : List String}
    (full : Text.isAllBlank line = false) (first : pool.waiting = line :: waiting)
    (permitted : 0 < pool.permits) (running : pool.running = []) (ended : pool.ended = [])
    (rest : List (Option String)) (log : List Deed) :
    ∃ events log', Shift.perform ⟨some line :: rest, .reading, { pool with waiting := [] }, log⟩
        events =
      ⟨rest, .reading, { pool.perform pipeline channel
        [.handOut, .finish pool.begun, .join pool.begun] with waiting := [] }, log'⟩ := by
  obtain ⟨left, enough⟩ := Nat.exists_eq_add_one_of_ne_zero (Nat.ne_of_gt permitted)
  let worked := handle pipeline channel line pool.space
  refine ⟨[.read, .engage, .finish pool.begun worked.1 worked.2, .notice pool.begun, .goOn],
    log ++ [.began pool.begun line, .freed pool.begun, .noticed pool.begun false], ?_⟩
  simp [Shift.perform, Shift.step, WorkerPool.perform, WorkerPool.step, WorkerPool.handOut,
    WorkerPool.finish, finishAs, WorkerPool.join, full, first, enough, running, ended, worked]

theorem with_waiting_of_nil {pool : WorkerPool σ} (waits : pool.waiting = []) :
    { pool with waiting := [] } = pool := by
  obtain ⟨waiting⟩ := pool
  obtain rfl : waiting = [] := waits
  rfl

/-- A run that works its lines one after the other is what a shift can be. -/
theorem exists_perform_eq (pipeline : Pipeline σ) (channel : Channel) (lines : List (List UInt8))
    {pool : WorkerPool σ}
    (waits : pool.waiting =
      (Text.readableLines lines).filter fun line => !Text.isAllBlank line)
    (permitted : 0 < pool.permits) (running : pool.running = []) (ended : pool.ended = [])
    (log : List Deed) :
    ∃ events rest log',
      Shift.perform ⟨lines.map Utf8.decode?, .reading, { pool with waiting := [] }, log⟩ events =
        ⟨rest, .returned ((Text.readableLines lines).length = lines.length),
          pool.perform pipeline channel
            ((List.range' pool.begun pool.waiting.length).flatMap fun number =>
              [.handOut, .finish number, .join number]), log'⟩ := by
  induction lines generalizing pool log with
  | nil =>
      refine ⟨[.read, .close], [], log, ?_⟩
      rw [with_waiting_of_nil waits, waits]
      simp [Shift.perform, Shift.step, WorkerPool.perform, Text.readableLines, running, ended]
  | cons line rest ih =>
      rw [Text.readableLines] at waits ⊢
      cases decoded : Utf8.decode? line with
      | none =>
          rw [decoded] at waits
          refine ⟨[.read], rest.map Utf8.decode?, log, ?_⟩
          rw [with_waiting_of_nil waits, waits]
          simp [Shift.perform, Shift.step, WorkerPool.perform, decoded]
      | some text =>
          rw [decoded] at waits
          rw [List.map_cons, decoded]
          cases blank : Text.isAllBlank text with
          | true =>
              rw [List.filter_cons_of_neg (by simp [blank])] at waits
              obtain ⟨events, later, log', performed⟩ := ih waits permitted running ended log
              have passed : Shift.step ⟨some text :: rest.map Utf8.decode?, .reading,
                  { pool with waiting := [] }, log⟩ .read =
                    some ⟨rest.map Utf8.decode?, .reading, { pool with waiting := [] }, log⟩ := by
                simp only [Shift.step, blank, if_true]
              refine ⟨.read :: events, later, log', ?_⟩
              rw [perform_cons passed, performed]
              simp
          | false =>
              rw [List.filter_cons_of_pos (by simp [blank])] at waits
              obtain ⟨round, log', worked⟩ := exists_round pipeline channel blank waits permitted
                running ended (rest.map Utf8.decode?) log
              obtain ⟨after, rounded, left, permits, nobody, none, begun⟩ :=
                WorkerPool.exists_round pipeline channel waits permitted running ended
              obtain ⟨events, later, log'', performed⟩ := ih left permits nobody none log'
              refine ⟨round ++ events, later, log'', ?_⟩
              rw [perform_append, worked, rounded, performed, waits, left, begun]
              simp only [List.length_cons, List.range'_succ, List.flatMap_cons,
                WorkerPool.perform_append, rounded, Nat.add_right_cancel_iff]

/-! ## What a shift comes to -/

/-- All workers of a shift have ended, and nothing of its input is left. -/
structure Settled (input : List (Option String)) (shift : Shift σ) : Prop where
  running : shift.pool.running = []
  ended : shift.pool.ended = []
  /-- Every line that is not blank was handed to one worker, in the order of the input. -/
  handedOut : ∃ lines : List String, input = lines.map some ∧
    (lines.filter fun line => !Text.isAllBlank line) =
      (shift.log.filterMap Deed.began?).map Prod.snd
  /-- Every worker has looked at its line. -/
  worked : ∀ number, .calledOff number ∉ shift.log
  /-- Every worker has given its permit back once. -/
  freed : (shift.log.filterMap Deed.freed?).Perm (List.range shift.pool.begun)
  /-- The end of every worker was noticed once, between lines or after the last one. -/
  noticed : (shift.log.filterMap Deed.noticed?).Perm (List.range shift.pool.begun)

/-- What was done in a shift with so many permits. -/
structure Accounted (permits : Nat) (input : List (Option String)) (shift : Shift σ) : Prop where
  bounded : shift.pool.running.length ≤ permits
  /-- The lines read that are not blank were handed out in order, but for one that may wait. -/
  handedOut : ∃ lines : List String,
    input = lines.map some ++
      (if shift.stage = .returned false then none :: shift.input else shift.input) ∧
    (lines.filter fun line => !Text.isAllBlank line) =
      (shift.log.filterMap Deed.began?).map Prod.snd ++ shift.pool.waiting
  oneWaits : shift.pool.waiting.length = if shift.stage = .admitting then 1 else 0
  /-- Each line went to a worker of its own. -/
  numbered : (shift.log.filterMap Deed.began?).map Prod.fst = List.range shift.pool.begun
  /-- The permits that are not free are those of the workers at work. -/
  permits : shift.pool.permits + shift.pool.running.length = permits
  /-- A worker that is not at work any more has given its permit back, and once. -/
  freed : (shift.log.filterMap Deed.freed? ++ shift.atWork).Perm (List.range shift.pool.begun)
  success : shift.stage = .returned true → shift.Settled input

theorem Kept.accounted (kept : shift.Kept permits input) : shift.Accounted permits input where
  bounded := kept.held ▸ Nat.le_add_left _ _
  handedOut := kept.read
  oneWaits := kept.admitting
  numbered := kept.numbered
  permits := kept.held
  freed := kept.freed
  success := by
    intro success
    have sure : shift.stage ≠ .returned false := by simp [success]
    obtain ⟨running, ended⟩ := kept.allEnded success
    obtain ⟨lines, split, handed⟩ := kept.exists_lines sure
    rw [kept.exhausted (.inr success), List.append_nil] at split
    rw [kept.not_waiting (by simp [success]), List.append_nil] at handed
    have left : shift.atWork = [] := congrArg (List.map Prod.fst) running
    have unheard : shift.unnoticed = [] := congrArg (List.map Prod.fst) ended
    have freed := kept.freed
    have gone := kept.gone
    rw [left, List.append_nil] at freed
    rw [left, unheard, List.append_nil, List.append_nil,
      List.filterMap_congr fun deed member => ?_] at gone
    · exact ⟨running, ended, ⟨lines, split, handed⟩, kept.steadfast sure, freed, gone⟩
    · cases deed with
      | calledOff number => exact absurd member (kept.steadfast sure number)
      | _ => rfl

/-- However reading, handing out, the ends of workers and the noticing of them mix, and whatever the
workers make of their lines, the deeds of a shift are accounted for at every moment: no more workers
are at work than there are permits, and a shift that returns with success has settled all.  With a
permit at all a shift can always go on to where it has returned and no worker is at work.  A run
that works the lines of some bytes one after the other is a shift that has returned. -/
theorem perform_accounted (permits : Nat) (input : List (Option String)) (space : Workspace σ)
    (events : List (Event σ)) :
    let shift := (ofInput input permits space).perform events
    shift.Accounted permits input ∧
    (0 < permits → ∃ more, (shift.perform more).isOver) ∧
    ∀ (pipeline : Pipeline σ) (channel : Channel) (bytes : List UInt8), 0 < permits →
      ∃ events, ((ofInput (readings bytes) permits space).perform events).pool =
          (run pipeline channel permits bytes space).pool ∧
        ((ofInput (readings bytes) permits space).perform events).stage =
          .returned (run pipeline channel permits bytes space).isWhole := by
  have kept := (kept_ofInput input permits space).perform events
  refine ⟨kept.accounted, kept.exists_end, fun pipeline channel bytes permitted => ?_⟩
  let pool := ofLines (Text.readLines bytes).lines permits space
  have waits : pool.waiting = (Text.readableLines (Text.lineBytes bytes)).filter fun line =>
      !Text.isAllBlank line := rfl
  obtain ⟨events, rest, log, performed⟩ := exists_perform_eq pipeline channel
    (Text.lineBytes bytes) waits permitted rfl rfl []
  refine ⟨events, ?_⟩
  rw [run, oneByOne, List.range_eq_range']
  exact ⟨congrArg Shift.pool performed, congrArg Shift.stage performed⟩

/-- Two workers at once, of which one dies and is noticed while the other is at work; a blank line
is passed over. -/
def overlapping (space : Workspace MemoryStore) : List (Event MemoryStore) :=
  [.read, .engage, .goOn, .read, .read, .engage, .finish 1 (.blob (.error .crashed)) space,
    .notice 1, .goOn, .read, .finish 0 (.blob (.ok .ignored)) space, .notice 0, .close]

theorem settled_overlapping :
    let space : Workspace MemoryStore := { store := {}, filter := .acceptAll }
    let pipeline := Pipeline.ofSettings {} ⟨fun _ => .error .crashed, fun _ => .error .crashed⟩
      (fun _ => 0) MemoryStore.store
    let input := [some "a", some " ", some "b"]
    let shift := (ofInput input 2 space).perform (overlapping space)
    shift.stage = .returned true ∧ shift.Settled input ∧ (∃ more, (shift.perform more).isOver) ∧
      ∃ events, ((ofInput (readings [97, 10, 255]) 2 space).perform events).pool =
          (run pipeline .announce 2 [97, 10, 255] space).pool ∧
        ((ofInput (readings [97, 10, 255]) 2 space).perform events).stage =
          .returned (run pipeline .announce 2 [97, 10, 255] space).isWhole := by
  intro space pipeline input shift
  obtain ⟨accounted, ends, runs⟩ := perform_accounted 2 input space (overlapping space)
  have returned : shift.stage = .returned true := by decide +kernel
  exact ⟨returned, accounted.success returned, ends (by decide),
    runs pipeline .announce [97, 10, 255] (by decide)⟩

end Shift
end WorkerPool
end JarLedger
