import JarLedger.Proofs.SortedMap
import JarLedger.Proofs.WorkerPool.Accounting

/-!
# A pool without some of its lines

Lines that do not touch the workspace can be left out.  Beside a pool goes another one that never
had them: it makes every move that is about another line, and stands still while one of those is
handed out, worked on or noticed (`WorkerPool.Beside.perform`).  Workers are numbered in the order
of their lines, so that a worker of the second pool has the number that its line has among those
that are left.
-/

namespace JarLedger
namespace WorkerPool

variable {σ : Type}

/-! ## What workers make of their lines -/

/-- The line that is worked to its end when an event happens, with what was made of it. -/
def work? (pipeline : Pipeline σ) (channel : Channel) (pool : WorkerPool σ) :
    PoolEvent → Option (String × Handled)
  | .finish number =>
      (pool.running.lookup number).map fun line =>
        (line, (handle pipeline channel line pool.space).1)
  | _ => none

/-- The lines that are worked to their ends while events happen, with what was made of them. -/
def worked (pipeline : Pipeline σ) (channel : Channel) :
    WorkerPool σ → List PoolEvent → List (String × Handled)
  | _, [] => []
  | pool, event :: rest =>
      (pool.work? pipeline channel event).toList ++
        worked pipeline channel ((pool.step pipeline channel event).getD pool) rest

section

variable (pipeline : Pipeline σ) (channel : Channel)

theorem worked_append (pool : WorkerPool σ) (front back : List PoolEvent) :
    pool.worked pipeline channel (front ++ back) =
      pool.worked pipeline channel front ++
        (pool.perform pipeline channel front).worked pipeline channel back := by
  induction front generalizing pool with
  | nil => rfl
  | cons event rest ih =>
      rw [List.cons_append, worked, ih, worked, List.append_assoc]
      rfl

theorem perform_singleton {pool next : WorkerPool σ} {event : PoolEvent}
    (happens : pool.step pipeline channel event = some next) :
    pool.perform pipeline channel [event] = next := by
  rw [perform, List.foldl_cons, List.foldl_nil, happens, Option.getD_some]

theorem worked_singleton (pool : WorkerPool σ) (event : PoolEvent) :
    pool.worked pipeline channel [event] = (pool.work? pipeline channel event).toList := by
  rw [worked, worked, List.append_nil]

/-- An event that cannot happen works no line. -/
theorem work?_of_impossible {pool : WorkerPool σ} {event : PoolEvent}
    (impossible : pool.step pipeline channel event = none) :
    pool.work? pipeline channel event = none := by
  cases event with
  | finish number =>
      cases found : pool.running.lookup number with
      | none => simp [work?, found]
      | some line => simp [step, finish, found] at impossible
  | _ => rfl

/-- The lines of a pool that were not worked to their ends yet. -/
def left (pool : WorkerPool σ) : List String := pool.running.map Prod.snd ++ pool.waiting

theorem handled_step {pool next : WorkerPool σ} {event : PoolEvent}
    (happens : pool.step pipeline channel event = some next) :
    next.handled = ((pool.work? pipeline channel event).toList.map Prod.snd) ++ pool.handled := by
  cases event with
  | handOut =>
      simp only [step, handOut] at happens
      split at happens
      · cases happens
        rfl
      · cases happens
  | finish number =>
      simp only [step, finish] at happens
      cases found : pool.running.lookup number with
      | none => simp [found] at happens
      | some line =>
          simp only [found] at happens
          cases happens
          simp [work?, found]
  | join number =>
      simp only [step, join] at happens
      cases found : pool.ended.lookup number with
      | none => simp [found] at happens
      | some crashed =>
          simp only [found] at happens
          cases happens
          rfl

/-- What was made of the lines is what the pool has handled, the last first. -/
theorem handled_perform (pool : WorkerPool σ) (events : List PoolEvent) :
    (pool.perform pipeline channel events).handled =
      ((pool.worked pipeline channel events).map Prod.snd).reverse ++ pool.handled := by
  induction events generalizing pool with
  | nil => rfl
  | cons event rest ih =>
      rw [perform, List.foldl_cons, ← perform, ih, worked]
      cases happens : pool.step pipeline channel event with
      | none => simp [work?_of_impossible pipeline channel happens]
      | some next =>
          rw [Option.getD_some, handled_step pipeline channel happens]
          cases pool.work? pipeline channel event <;> simp

/-- Moving on loses no line and makes none. -/
theorem perm_left_step {count : Nat} {pool next : WorkerPool σ} {event : PoolEvent}
    (kept : pool.Kept channel count) (happens : pool.step pipeline channel event = some next) :
    ((pool.work? pipeline channel event).toList.map Prod.fst ++ next.left).Perm pool.left := by
  cases event with
  | handOut =>
      simp only [step, handOut] at happens
      split at happens
      · rename_i line waiting permits first _
        cases happens
        simp [work?, left, first]
      · cases happens
  | finish number =>
      simp only [step, finish] at happens
      cases found : pool.running.lookup number with
      | none => simp [found] at happens
      | some line =>
          simp only [found] at happens
          cases happens
          obtain ⟨earlier, later, split, filtered⟩ :=
            exists_split_of_lookup found (List.Nodup.of_append_left kept.distinct)
          simp only [work?, found, Option.map_some, Option.toList_some, left, filtered]
          rw [split, List.perm_iff_count]
          intro sought
          simp only [List.map_append, List.map_cons, List.map_nil, List.count_append,
            List.count_cons, List.count_nil]
          omega
  | join number =>
      simp only [step, join] at happens
      cases found : pool.ended.lookup number with
      | none => simp [found] at happens
      | some crashed =>
          simp only [found] at happens
          cases happens
          exact List.Perm.refl _

/-- The lines of a pool are those that were worked and those that are left. -/
theorem perm_left_perform {count : Nat} {pool : WorkerPool σ} (kept : pool.Kept channel count)
    (events : List PoolEvent) :
    ((pool.worked pipeline channel events).map Prod.fst ++
      (pool.perform pipeline channel events).left).Perm pool.left := by
  induction events generalizing pool with
  | nil => exact List.Perm.refl _
  | cons event rest ih =>
      rw [perform, List.foldl_cons, ← perform, worked, List.map_append, List.append_assoc]
      cases happens : pool.step pipeline channel event with
      | none =>
          rw [work?_of_impossible pipeline channel happens]
          exact ih kept
      | some next =>
          have moved := perm_left_step pipeline channel kept happens
          exact (List.Perm.append_left _ (ih (kept.step happens))).trans moved

end

/-! ## Numbers among the lines that are left in -/

section

variable (out : String → Bool) (lines : List String)

/-- Whether the worker of a number has a line that is left in. -/
def staysAt (number : Nat) : Bool := (lines[number]?).any fun line => !out line

/-- The number of a worker among those whose lines are left in. -/
def rank (number : Nat) : Nat := (lines.take number).countP fun line => !out line

variable {lines} in
theorem rank_succ {number : Nat} {line : String} (here : lines[number]? = some line) :
    rank out lines (number + 1) = rank out lines number + if out line then 0 else 1 := by
  rw [rank, List.take_add_one, here, List.countP_append, ← rank, Option.toList_some,
    List.countP_singleton]
  cases out line <;> rfl

theorem rank_mono {first second : Nat} (before : first ≤ second) :
    rank out lines first ≤ rank out lines second :=
  (List.take_sublist_take_left before).countP_le

variable {out lines}

theorem rank_lt {first second : Nat} (stays : staysAt out lines first = true)
    (before : first < second) : rank out lines first < rank out lines second := by
  obtain ⟨line, here, stays⟩ := (Option.any_eq_true _ _).mp stays
  have next := rank_succ out here
  have later : rank out lines (first + 1) ≤ rank out lines second := rank_mono out lines before
  rw [Bool.not_eq_eq_eq_not.mp stays, Bool.not_true, if_neg Bool.false_ne_true] at next
  omega

theorem rank_inj {first second : Nat} (firstStays : staysAt out lines first = true)
    (secondStays : staysAt out lines second = true)
    (same : rank out lines first = rank out lines second) : first = second := by
  rcases Nat.lt_trichotomy first second with before | equal | after
  · have := rank_lt firstStays before
    omega
  · exact equal
  · have := rank_lt secondStays after
    omega

/-- The workers whose lines are left in, under the numbers that they have among those. -/
def renumber {ε : Type} (out : String → Bool) (lines : List String) (workers : List (Nat × ε)) :
    List (Nat × ε) :=
  (workers.filter fun worker => staysAt out lines worker.1).map fun worker =>
    (rank out lines worker.1, worker.2)

variable {ε : Type} {workers : List (Nat × ε)} {number : Nat} {found : ε}

theorem renumber_append (front back : List (Nat × ε)) :
    renumber out lines (front ++ back) = renumber out lines front ++ renumber out lines back := by
  rw [renumber, List.filter_append, List.map_append]
  rfl

theorem renumber_of_staysAt (stays : staysAt out lines number = true) (rest : List (Nat × ε)) :
    renumber out lines ((number, found) :: rest) =
      (rank out lines number, found) :: renumber out lines rest := by
  simp [renumber, stays]

theorem renumber_of_not_staysAt (goes : staysAt out lines number = false)
    (rest : List (Nat × ε)) :
    renumber out lines ((number, found) :: rest) = renumber out lines rest := by
  simp [renumber, goes]

theorem lookup_renumber (stays : staysAt out lines number = true)
    (present : workers.lookup number = some found) :
    (renumber out lines workers).lookup (rank out lines number) = some found := by
  induction workers with
  | nil => cases present
  | cons worker rest ih =>
      obtain ⟨other, value⟩ := worker
      rw [List.lookup_cons] at present
      by_cases same : number = other
      · subst same
        rw [beq_self_eq_true] at present
        rw [renumber_of_staysAt stays, List.lookup_cons, beq_self_eq_true]
        exact present
      · rw [beq_eq_false_iff_ne.mpr same] at present
        cases otherStays : staysAt out lines other with
        | false =>
            rw [renumber_of_not_staysAt otherStays]
            exact ih present
        | true =>
            have apart : rank out lines number ≠ rank out lines other := fun equal =>
              same (rank_inj stays otherStays equal)
            rw [renumber_of_staysAt otherStays, List.lookup_cons, beq_eq_false_iff_ne.mpr apart]
            exact ih present

theorem filter_renumber (stays : staysAt out lines number = true) (workers : List (Nat × ε)) :
    ((renumber out lines workers).filter fun worker => worker.1 ≠ rank out lines number) =
      renumber out lines (workers.filter fun worker => worker.1 ≠ number) := by
  rw [renumber, renumber, List.filter_map, List.filter_filter, List.filter_filter]
  refine congrArg _ (List.filter_congr fun worker _ => ?_)
  cases otherStays : staysAt out lines worker.1 with
  | false => simp
  | true =>
      have same : rank out lines worker.1 = rank out lines number ↔ worker.1 = number :=
        ⟨rank_inj otherStays stays, fun equal => congrArg _ equal⟩
      simp [same]

theorem renumber_filter (goes : staysAt out lines number = false) (workers : List (Nat × ε)) :
    renumber out lines (workers.filter fun worker => worker.1 ≠ number) =
      renumber out lines workers := by
  rw [renumber, renumber, List.filter_filter]
  refine congrArg _ (List.filter_congr fun worker _ => ?_)
  by_cases same : worker.1 = number
  · simp [same, goes]
  · simp [same]

end

/-! ## The pool beside -/

/-- A pool that never had the lines that are left out, beside one that has all lines. -/
structure Beside (out : String → Bool) (lines : List String) (pool rest : WorkerPool σ) :
    Prop where
  /-- Lines are handed out in order. -/
  taken : pool.waiting = lines.drop pool.begun
  /-- A worker has the line of its number. -/
  numbered : ∀ worker ∈ pool.running, lines[worker.1]? = some worker.2
  waiting : rest.waiting = pool.waiting.filter fun line => !out line
  begun : rest.begun = rank out lines pool.begun
  running : rest.running = renumber out lines pool.running
  ended : rest.ended = renumber out lines pool.ended
  /-- A permit that is with a line left out is free beside. -/
  permits : rest.permits = pool.permits + pool.running.countP fun worker => out worker.2
  space : rest.space = pool.space

namespace Beside

variable {out : String → Bool} {lines : List String} {pipeline : Pipeline σ} {channel : Channel}
  {count : Nat} {pool next rest : WorkerPool σ} {number : Nat}

theorem handOut (beside : Beside out lines pool rest) (happens : pool.handOut = some next) :
    ∃ others after, rest.perform pipeline channel others = after ∧ Beside out lines next after ∧
      rest.worked pipeline channel others = [] := by
  rw [WorkerPool.handOut] at happens
  split at happens
  · rename_i line waiting permits first permitted
    cases happens
    have dropped := beside.taken.symm.trans first
    have here : lines[pool.begun]? = some line := by
      rw [← List.head?_drop, dropped]
      rfl
    have later : waiting = lines.drop (pool.begun + 1) := by
      rw [← List.tail_drop, dropped]
      rfl
    have numbered : ∀ worker ∈ pool.running ++ [(pool.begun, line)],
        lines[worker.1]? = some worker.2 := by
      intro worker member
      rcases List.mem_append.mp member with old | new
      · exact beside.numbered worker old
      · rw [List.mem_singleton.mp new]
        exact here
    have next := rank_succ out here
    have left := beside.waiting
    have free := beside.permits
    rw [first] at left
    rw [permitted] at free
    cases goes : out line with
    | true =>
        -- The pool beside never had the line, and stands still.
        have goesAt : staysAt out lines pool.begun = false := by simp [staysAt, here, goes]
        refine ⟨[], rest, rfl, ⟨later, numbered, ?_, ?_, ?_, beside.ended, ?_, beside.space⟩, rfl⟩
        · simpa [goes] using left
        · simpa [goes, next] using beside.begun
        · rw [renumber_append, renumber_of_not_staysAt goesAt]
          exact beside.running.trans (List.append_nil _).symm
        · rw [List.countP_append, List.countP_singleton, if_pos goes, free]
          exact Nat.succ_add_eq_add_succ _ _
    | false =>
        have staysAt : staysAt out lines pool.begun = true := by simp [staysAt, here, goes]
        rw [List.filter_cons_of_pos (by simp [goes])] at left
        rw [Nat.succ_add] at free
        have moves : rest.step pipeline channel .handOut = some { rest with
            waiting := waiting.filter fun line => !out line
            permits := permits + pool.running.countP fun worker => out worker.2
            running := rest.running ++ [(rest.begun, line)]
            begun := rest.begun + 1 } := by
          rw [step, WorkerPool.handOut, left, free]
        refine ⟨[.handOut], _, perform_singleton pipeline channel moves, ?_,
          worked_singleton pipeline channel rest .handOut⟩
        refine ⟨later, numbered, rfl, ?_, ?_, beside.ended, ?_, beside.space⟩
        · simpa [goes, next] using beside.begun
        · rw [renumber_append, renumber_of_staysAt staysAt, ← beside.running, ← beside.begun]
          rfl
        · rw [List.countP_append, List.countP_singleton, if_neg (by simp [goes])]
          rfl
  · cases happens

theorem finish (beside : Beside out lines pool rest) (kept : pool.Kept channel count)
    (untouched : ∀ line space, out line = true → (handle pipeline channel line space).2 = space)
    (happens : pool.finish pipeline channel number = some next) :
    ∃ others after, rest.perform pipeline channel others = after ∧ Beside out lines next after ∧
      rest.worked pipeline channel others =
        (pool.work? pipeline channel (.finish number)).toList.filter fun work => !out work.1 := by
  rw [WorkerPool.finish] at happens
  cases found : pool.running.lookup number with
  | none => simp [found] at happens
  | some line =>
      have member := SortedMap.mem_of_lookup found
      have here := beside.numbered _ member
      obtain ⟨earlier, later, split, filtered⟩ :=
        exists_split_of_lookup found (List.Nodup.of_append_left kept.distinct)
      have numbered : ∀ worker ∈ pool.running.filter fun worker => worker.1 ≠ number,
          lines[worker.1]? = some worker.2 := fun worker inside =>
        beside.numbered worker (List.mem_of_mem_filter inside)
      have busy : (pool.running.countP fun worker => out worker.2) =
          ((pool.running.filter fun worker => worker.1 ≠ number).countP fun worker =>
            out worker.2) + if out line then 1 else 0 := by
        rw [filtered, split]
        simp only [List.countP_append, List.countP_cons]
        omega
      rw [found] at happens
      cases happens
      cases goes : out line with
      | true =>
          -- The permit that comes back was free beside all the while.
          have goesAt : staysAt out lines number = false := by simp [staysAt, here, goes]
          refine ⟨[], rest, rfl,
            ⟨beside.taken, numbered, beside.waiting, beside.begun, ?_, ?_, ?_, ?_⟩, ?_⟩
          · rw [renumber_filter goesAt]
            exact beside.running
          · rw [renumber_append, renumber_of_not_staysAt goesAt]
            exact beside.ended.trans (List.append_nil _).symm
          · rw [beside.permits, busy, if_pos goes]
            exact (Nat.succ_add_eq_add_succ _ _).symm
          · exact beside.space.trans (untouched line pool.space goes).symm
          · simp [work?, found, goes, worked]
      | false =>
          have staysAt : staysAt out lines number = true := by simp [staysAt, here, goes]
          have foundBeside := lookup_renumber staysAt found
          rw [← beside.running] at foundBeside
          refine ⟨[.finish (rank out lines number)], _, rfl, ?_, ?_⟩
          · simp only [perform, List.foldl_cons, List.foldl_nil, step, WorkerPool.finish,
              foundBeside, Option.getD_some, beside.space]
            refine ⟨beside.taken, numbered, beside.waiting, beside.begun, ?_, ?_, ?_, rfl⟩
            · rw [beside.running, filter_renumber staysAt]
            · rw [renumber_append, renumber_of_staysAt staysAt, beside.ended]
              rfl
            · rw [beside.permits, busy, if_neg (by simp [goes])]
              exact Nat.add_right_comm _ _ _
          · rw [worked_singleton, work?, work?, foundBeside, found, beside.space]
            simp [goes]

theorem join (beside : Beside out lines pool rest) (happens : pool.join number = some next) :
    ∃ others after, rest.perform pipeline channel others = after ∧ Beside out lines next after ∧
      rest.worked pipeline channel others = [] := by
  rw [WorkerPool.join] at happens
  cases found : pool.ended.lookup number with
  | none => simp [found] at happens
  | some crashed =>
      rw [found] at happens
      cases happens
      cases stays : staysAt out lines number with
      | false =>
          refine ⟨[], rest, rfl, ⟨beside.taken, beside.numbered, beside.waiting, beside.begun,
            beside.running, ?_, beside.permits, beside.space⟩, rfl⟩
          rw [renumber_filter stays]
          exact beside.ended
      | true =>
          have foundBeside := lookup_renumber stays found
          rw [← beside.ended] at foundBeside
          refine ⟨[.join (rank out lines number)], _, rfl, ?_, worked_singleton _ _ _ _⟩
          simp only [perform, List.foldl_cons, List.foldl_nil, step, WorkerPool.join,
            foundBeside, Option.getD_some]
          refine ⟨beside.taken, beside.numbered, beside.waiting, beside.begun, beside.running, ?_,
            beside.permits, beside.space⟩
          rw [beside.ended, filter_renumber stays]

/-- An event has its counterpart beside, unless it is about a line that is left out. -/
theorem step (beside : Beside out lines pool rest) (kept : pool.Kept channel count)
    (untouched : ∀ line space, out line = true → (handle pipeline channel line space).2 = space)
    {event : PoolEvent} (happens : pool.step pipeline channel event = some next) :
    ∃ others after, rest.perform pipeline channel others = after ∧ Beside out lines next after ∧
      rest.worked pipeline channel others =
        (pool.work? pipeline channel event).toList.filter fun work => !out work.1 := by
  cases event with
  | handOut => exact beside.handOut happens
  | finish number => exact beside.finish kept untouched happens
  | join number => exact beside.join happens

/-- Whatever happens in a pool, the pool beside can do the same to the lines that are left in, with
the same outcomes. -/
theorem perform (beside : Beside out lines pool rest) (kept : pool.Kept channel count)
    (untouched : ∀ line space, out line = true → (handle pipeline channel line space).2 = space)
    (events : List PoolEvent) :
    ∃ others, Beside out lines (pool.perform pipeline channel events)
        (rest.perform pipeline channel others) ∧
      rest.worked pipeline channel others =
        (pool.worked pipeline channel events).filter fun work => !out work.1 := by
  induction events generalizing pool rest with
  | nil => exact ⟨[], beside, rfl⟩
  | cons event later ih =>
      rw [WorkerPool.perform, List.foldl_cons, ← WorkerPool.perform, worked]
      cases happens : pool.step pipeline channel event with
      | none =>
          rw [work?_of_impossible pipeline channel happens]
          exact ih beside kept
      | some next =>
          obtain ⟨first, after, moved, stepped, same⟩ := beside.step kept untouched happens
          obtain ⟨others, ended, all⟩ := ih stepped (kept.step happens)
          refine ⟨first ++ others, ?_, ?_⟩
          · rw [perform_append, moved]
            exact ended
          · rw [worked_append, moved, same, all, List.filter_append]
            rfl

/-- When nothing is left to do in a pool, nothing is left to do beside. -/
theorem isOver (beside : Beside out lines pool rest) (finished : pool.isOver = true) :
    rest.isOver = true := by
  simp only [WorkerPool.isOver, Bool.and_eq_true, List.isEmpty_iff] at finished ⊢
  obtain ⟨⟨waiting, running⟩, ended⟩ := finished
  rw [beside.waiting, beside.running, beside.ended, waiting, running, ended]
  exact ⟨⟨rfl, rfl⟩, rfl⟩

end Beside

/-- Before anything happens, the pool beside is the one that is given only the lines left in. -/
theorem beside_ofLines (out : String → Bool) (lines : List String) (permits : Nat)
    (space : Workspace σ) :
    Beside out (lines.filter fun line => !Text.isAllBlank line) (ofLines lines permits space)
      (ofLines (lines.filter fun line => !out line) permits space) where
  taken := rfl
  numbered := nofun
  waiting := by
    rw [ofLines, ofLines, List.filter_filter, List.filter_filter]
    simp only [Bool.and_comm]
  begun := rfl
  running := rfl
  ended := rfl
  permits := rfl
  space := rfl

end WorkerPool
end JarLedger
