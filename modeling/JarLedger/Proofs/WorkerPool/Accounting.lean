import JarLedger.Proofs.WorkerPool.Bustle
import JarLedger.WorkerPool.Basic
import Mathlib.Data.List.Nodup
import Mathlib.Data.List.Perm.Basic

/-!
# Every announcement is accounted for

A pool lets each worker deal with its line in one go.  What it counted, with what is to be counted
when ends are noticed, is what there has been to count of the lines worked on (`Kept`), so a pool
that is over has a balanced tally, as a bustle has.  Where there is a permit at all, the pool of a
run is over.
-/

namespace JarLedger
namespace WorkerPool

variable {σ : Type}

/-- Whether every line was worked on and the end of every worker was noticed. -/
def isOver (pool : WorkerPool σ) : Bool :=
  pool.waiting.isEmpty && pool.running.isEmpty && pool.ended.isEmpty

/-- The lines of an input that are not blank. -/
def linesOf (input : List UInt8) : List String :=
  (Text.readLines input).lines.filter fun line => !Text.isAllBlank line

theorem isOn_handle (pipeline : Pipeline σ) (channel : Channel) (line : String)
    (space : Workspace σ) : (handle pipeline channel line space).1.isOn channel = true := by
  cases channel <;> rfl

/-- The numbers of the workers whose end was not noticed yet. -/
def numbers (pool : WorkerPool σ) : List Nat :=
  pool.running.map Prod.fst ++ pool.ended.map Prod.fst

/-- All lines and counts are accounted for, and workers have different numbers. -/
structure Kept (channel : Channel) (lines : Nat) (pool : WorkerPool σ) : Prop where
  lines : pool.waiting.length + pool.running.length + pool.handled.length = lines
  distinct : pool.numbers.Nodup
  numbered : ∀ number ∈ pool.numbers, number < pool.begun
  on : ∀ handled ∈ pool.handled, handled.isOn channel = true
  /-- What was counted, with what is still to be counted, is all there has been to count. -/
  counts : ∀ count, pool.tally.get count +
      (pool.ended.flatMap fun worker => Handled.endCounts worker.2).count count =
    (pool.handled.flatMap Handled.allCounts).count count

theorem kept_ofLines (channel : Channel) (lines : List String) (permits : Nat)
    (space : Workspace σ) :
    (ofLines lines permits space).Kept channel
      (lines.filter fun line => !Text.isAllBlank line).length where
  lines := rfl
  distinct := List.nodup_nil
  numbered := nofun
  on := nofun
  counts := fun count => Tally.get_fresh count

/-- The worker of a number stands once in a list of workers with different numbers. -/
theorem exists_split_of_lookup {ε : Type} {workers : List (Nat × ε)} {number : Nat} {found : ε}
    (present : workers.lookup number = some found) (distinct : (workers.map Prod.fst).Nodup) :
    ∃ earlier later, workers = earlier ++ (number, found) :: later ∧
      (workers.filter fun worker => worker.1 ≠ number) = earlier ++ later := by
  obtain ⟨earlier, later, rfl, -⟩ := List.lookup_eq_some_iff.mp present
  rw [List.map_append, List.map_cons, List.nodup_middle, List.nodup_cons, ← List.map_append]
    at distinct
  refine ⟨earlier, later, rfl, ?_⟩
  rw [List.filter_append, List.filter_cons_of_neg (by simp), ← List.filter_append,
    List.filter_eq_self]
  intro worker member
  refine decide_eq_true fun same => distinct.1 ?_
  exact List.mem_map.mpr ⟨worker, member, same⟩

variable {pipeline : Pipeline σ} {channel : Channel} {lines : Nat} {pool next : WorkerPool σ}
  {number : Nat}

theorem Kept.handOut (kept : pool.Kept channel lines) (happens : pool.handOut = some next) :
    next.Kept channel lines := by
  rw [WorkerPool.handOut] at happens
  split at happens
  · rename_i line waiting permits first _
    cases happens
    have added : List.Perm
        ((pool.running ++ [(pool.begun, line)]).map Prod.fst ++ pool.ended.map Prod.fst)
        (pool.begun :: pool.numbers) := by
      rw [numbers, List.map_append, List.append_assoc]
      exact List.perm_middle
    refine ⟨?_, ?_, fun number member => ?_, kept.on, kept.counts⟩
    · rw [← kept.lines, first, List.length_cons, List.length_append, List.length_singleton]
      dsimp only
      omega
    · have absent : pool.begun ∉ pool.numbers := fun member =>
        Nat.lt_irrefl _ (kept.numbered pool.begun member)
      exact added.nodup_iff.mpr (List.nodup_cons.mpr ⟨absent, kept.distinct⟩)
    · rcases List.mem_cons.mp (added.mem_iff.mp member) with rfl | old
      · exact Nat.lt_succ_self _
      · exact Nat.lt_succ_of_lt (kept.numbered number old)
  · cases happens

theorem Kept.finish (kept : pool.Kept channel lines)
    (happens : pool.finish pipeline channel number = some next) : next.Kept channel lines := by
  rw [WorkerPool.finish] at happens
  split at happens
  · cases happens
  · rename_i line found
    have on := isOn_handle pipeline channel line pool.space
    cases outcome : handle pipeline channel line pool.space with
    | mk handled space =>
        rw [outcome] at happens on
        cases happens
        obtain ⟨earlier, later, split, filtered⟩ :=
          exists_split_of_lookup found (List.Nodup.of_append_left kept.distinct)
        have moved : List.Perm
            ((pool.running.filter fun worker => worker.1 ≠ number).map Prod.fst ++
              (pool.ended ++ [(number, handled.isCrash)]).map Prod.fst) pool.numbers := by
          rw [filtered, numbers, split, List.perm_iff_count]
          intro sought
          simp only [List.map_append, List.map_cons, List.map_nil, List.count_append,
            List.count_cons, List.count_nil]
          omega
        refine ⟨?_, moved.nodup_iff.mpr kept.distinct, fun number member =>
          kept.numbered number (moved.mem_iff.mp member), List.forall_mem_cons.mpr ⟨on, kept.on⟩,
          fun count => ?_⟩
        · rw [← kept.lines, filtered, split, List.length_append, List.length_append,
            List.length_cons, List.length_cons]
          dsimp only
          omega
        · have before := kept.counts count
          rw [Tally.get_recordHandled]
          simp only [List.flatMap_append, List.flatMap_cons, List.flatMap_nil, List.count_append,
            Handled.allCounts, List.count_cons, List.count_nil]
          omega

theorem Kept.join (kept : pool.Kept channel lines) (happens : pool.join number = some next) :
    next.Kept channel lines := by
  rw [WorkerPool.join] at happens
  split at happens
  · cases happens
  · rename_i crashed found
    cases happens
    obtain ⟨earlier, later, split, filtered⟩ :=
      exists_split_of_lookup found (List.Nodup.of_append_right kept.distinct)
    have fewer : List.Perm (number :: (pool.running.map Prod.fst ++
        (pool.ended.filter fun worker => worker.1 ≠ number).map Prod.fst)) pool.numbers := by
      rw [filtered, numbers, split, List.perm_iff_count]
      intro sought
      simp only [List.map_append, List.map_cons, List.count_append, List.count_cons]
      omega
    refine ⟨kept.lines, (List.nodup_cons.mp (fewer.nodup_iff.mpr kept.distinct)).2,
      fun other member => kept.numbered other (fewer.mem_iff.mp (List.mem_cons_of_mem _ member)),
      kept.on, fun count => ?_⟩
    have before := kept.counts count
    rw [split] at before
    rw [Tally.recordEnd_eq, Tally.get_bumpAll, filtered]
    simp only [List.flatMap_append, List.flatMap_cons, List.count_append] at before ⊢
    omega

theorem Kept.step (kept : pool.Kept channel lines) {event : PoolEvent}
    (happens : pool.step pipeline channel event = some next) : next.Kept channel lines := by
  cases event with
  | handOut => exact kept.handOut happens
  | finish number => exact kept.finish happens
  | join number => exact kept.join happens

theorem Kept.perform (kept : pool.Kept channel lines) (events : List PoolEvent) :
    (pool.perform pipeline channel events).Kept channel lines := by
  induction events generalizing pool with
  | nil => exact kept
  | cons event rest ih =>
      rw [WorkerPool.perform, List.foldl_cons]
      cases happens : pool.step pipeline channel event with
      | none => exact ih kept
      | some next => exact ih (kept.step happens)

theorem Kept.balanced (kept : pool.Kept channel lines) (finished : pool.isOver = true) :
    pool.handled.length = lines ∧ Balanced channel pool.handled pool.tally := by
  simp only [isOver, Bool.and_eq_true, List.isEmpty_iff] at finished
  obtain ⟨⟨waiting, running⟩, ended⟩ := finished
  constructor
  · have all := kept.lines
    rwa [waiting, running, List.length_nil, List.length_nil, Nat.add_zero, Nat.zero_add] at all
  · refine balanced_of_get kept.on fun count => ?_
    have counts := kept.counts count
    rwa [ended, List.flatMap_nil, List.count_nil] at counts

/-! ## Runs -/

theorem perform_append (pipeline : Pipeline σ) (channel : Channel) (pool : WorkerPool σ)
    (front back : List PoolEvent) :
    pool.perform pipeline channel (front ++ back) =
      (pool.perform pipeline channel front).perform pipeline channel back :=
  List.foldl_append

/-- Where there is a permit, a line is worked on and the end of its worker noticed. -/
theorem exists_round (pipeline : Pipeline σ) (channel : Channel) {line : String}
    {waiting : List String} (first : pool.waiting = line :: waiting) (permitted : 0 < pool.permits)
    (running : pool.running = []) (ended : pool.ended = []) :
    ∃ after,
      pool.perform pipeline channel [.handOut, .finish pool.begun, .join pool.begun] = after ∧
      after.waiting = waiting ∧ 0 < after.permits ∧ after.running = [] ∧
      after.ended = [] ∧ after.begun = pool.begun + 1 := by
  obtain ⟨permits, enough⟩ := Nat.exists_eq_add_one_of_ne_zero (Nat.ne_of_gt permitted)
  refine ⟨_, rfl, ?_⟩
  simp [WorkerPool.perform, WorkerPool.step, WorkerPool.handOut, WorkerPool.finish,
    WorkerPool.join, first, enough, running, ended]

theorem isOver_perform (pipeline : Pipeline σ) (channel : Channel) (permitted : 0 < pool.permits)
    (running : pool.running = []) (ended : pool.ended = []) :
    (pool.perform pipeline channel ((List.range' pool.begun pool.waiting.length).flatMap
      fun number => [.handOut, .finish number, .join number])).isOver = true := by
  induction waiting : pool.waiting generalizing pool with
  | nil => simp [WorkerPool.perform, isOver, waiting, running, ended]
  | cons line rest ih =>
      obtain ⟨after, round, left, permits, nobody, none, begun⟩ :=
        exists_round pipeline channel waiting permitted running ended
      rw [List.length_cons, List.range'_succ, List.flatMap_cons, perform_append, round, ← begun]
      exact ih permits nobody none left

/-- The pool of a run is over if a worker may begin at all. -/
theorem isOver_run (pipeline : Pipeline σ) (channel : Channel) {permits : Nat}
    (permitted : 0 < permits) (input : List UInt8) (space : Workspace σ) :
    (run pipeline channel permits input space).pool.isOver = true := by
  rw [run, oneByOne, List.range_eq_range']
  exact isOver_perform pipeline channel permitted rfl rfl

/-- Whatever the input, the number of permits, what workers make of their lines and the order in
which things happen, a bustle that is over has dealt with each line that is not blank once, and its
tally is balanced.  The same goes for a pool that is over, and the pool of a run is. -/
theorem balanced_of_isOver (channel : Channel) (permits : Nat) (input : List UInt8) :
    (∀ events : List Bustle.Event,
      let bustle := (Bustle.ofLines channel permits (linesOf input)).perform events
      bustle.isOver = true → bustle.handled.length = (linesOf input).length ∧
        Balanced channel bustle.handled bustle.tally) ∧
    (∀ (σ : Type) (pipeline : Pipeline σ) (space : Workspace σ) (events : List PoolEvent),
      let pool := (ofLines (Text.readLines input).lines permits space).perform pipeline channel
        events
      pool.isOver = true → pool.handled.length = (linesOf input).length ∧
        Balanced channel pool.handled pool.tally) ∧
    (∀ (σ : Type) (pipeline : Pipeline σ) (space : Workspace σ),
      let pool := (run pipeline channel permits input space).pool
      0 < permits → pool.isOver = true ∧ pool.handled.length = (linesOf input).length ∧
        Balanced channel pool.handled pool.tally) := by
  refine ⟨?_, ?_, ?_⟩
  · exact fun events => ((Bustle.kept_ofLines channel permits _).perform events).balanced
  · exact fun σ pipeline space events =>
      ((kept_ofLines channel _ permits space).perform events).balanced
  · intro σ pipeline space pool permitted
    have finished : pool.isOver = true := isOver_run pipeline channel permitted input space
    exact ⟨finished, ((kept_ofLines channel _ permits space).perform _).balanced finished⟩

/-- Two workers at once, one of which dies while the other is at work; a blank line is passed over.
-/
theorem balanced_twoWorkers :
    let bustle := (Bustle.ofLines .announce 2 (linesOf [97, 10, 32, 10, 98])).perform
      [.handOut, .handOut, .count 1, .count 0, .answer 0 (.blob (.error .crashed)), .finish 0,
        .count 0, .answer 1 (.blob (.ok .ignored)), .count 1, .count 0, .finish 1]
    bustle.isOver = true ∧ bustle.handled.length = 2 ∧
      Balanced .announce bustle.handled bustle.tally := by
  intro bustle
  have bytes : Text.lineBytes [97, 10, 32, 10, 98] = [[97], [32], [98]] := by
    simp [Text.lineBytes, Text.splitLine, Text.stripEnd]
  have two : linesOf [97, 10, 32, 10, 98] = ["a", "b"] := by
    rw [linesOf, Text.readLines, bytes]
    decide
  have finished : bustle.isOver = true := by
    simp only [bustle, two]
    decide
  obtain ⟨dealt, balanced⟩ := (balanced_of_isOver .announce 2 _).1 _ finished
  exact ⟨finished, dealt.trans (congrArg List.length two), balanced⟩

end WorkerPool
end JarLedger
