import JarLedger.Text.Blank
import JarLedger.Text.Lines
import JarLedger.WorkerPool.Tally

/-!
# Worker pools

Announcements come one to a line and are handed to workers, of which only so many may be at work at
a time: a worker needs a permit, and gives it back when it ends, in whatever way.  A pool moves by
three kinds of events.  `WorkerPool.run` lets each worker finish before the next line is handed out.
-/

namespace JarLedger

/-- The announcements of a run and the workers on them. -/
structure WorkerPool (σ : Type) where
  /-- Lines that no worker has yet. -/
  waiting : List String
  /-- How many more workers may begin. -/
  permits : Nat
  /-- The workers in progress, by number, with their lines. -/
  running : List (Nat × String) := []
  /-- The workers that ended, and whether they died, until their end is noticed. -/
  ended : List (Nat × Bool) := []
  /-- How many workers have begun. -/
  begun : Nat := 0
  /-- What was done, last first. -/
  handled : List Handled := []
  tally : Tally := {}
  space : Workspace σ

/-- What can happen next in a pool. -/
inductive PoolEvent where
  /-- A new worker takes the next line. -/
  | handOut
  /-- A worker works its line to the end. -/
  | finish (number : Nat)
  /-- The end of a worker is noticed. -/
  | join (number : Nat)
  deriving DecidableEq, Repr

namespace WorkerPool

variable {σ : Type}

/-- Work on one line. -/
def handle (pipeline : Pipeline σ) (channel : Channel) (line : String) (space : Workspace σ) :
    Handled × Workspace σ :=
  match channel with
  | .announce =>
      let (result, space) := pipeline.processAnnouncement line space
      (.blob result, space)
  | .archive =>
      let (result, space) := pipeline.processArchiveAnnouncement line space
      (.archive result, space)

/-- Hand the next line to a new worker, if there are a line and a permit. -/
def handOut (pool : WorkerPool σ) : Option (WorkerPool σ) :=
  match pool.waiting, pool.permits with
  | line :: waiting, permits + 1 =>
      some { pool with
        waiting
        permits
        running := pool.running ++ [(pool.begun, line)]
        begun := pool.begun + 1 }
  | _, _ => none

/-- Let a worker work its line to the end; it gives its permit back. -/
def finish (pipeline : Pipeline σ) (channel : Channel) (pool : WorkerPool σ) (number : Nat) :
    Option (WorkerPool σ) :=
  match pool.running.lookup number with
  | none => none
  | some line =>
      let (handled, space) := handle pipeline channel line pool.space
      some { pool with
        permits := pool.permits + 1
        running := pool.running.filter fun worker => worker.1 ≠ number
        ended := pool.ended ++ [(number, handled.isCrash)]
        handled := handled :: pool.handled
        tally := pool.tally.receive.recordHandled handled
        space }

/-- Notice the end of a worker. -/
def join (pool : WorkerPool σ) (number : Nat) : Option (WorkerPool σ) :=
  match pool.ended.lookup number with
  | none => none
  | some crashed =>
      some { pool with
        ended := pool.ended.filter fun worker => worker.1 ≠ number
        tally := pool.tally.recordEnd crashed }

/-- Let an event happen, if it can. -/
def step (pipeline : Pipeline σ) (channel : Channel) (pool : WorkerPool σ) :
    PoolEvent → Option (WorkerPool σ)
  | .handOut => pool.handOut
  | .finish number => pool.finish pipeline channel number
  | .join number => pool.join number

/-- Let events happen one after the other, passing over those that cannot. -/
def perform (pipeline : Pipeline σ) (channel : Channel) (pool : WorkerPool σ)
    (events : List PoolEvent) : WorkerPool σ :=
  events.foldl
    (fun (pool : WorkerPool σ) event => (pool.step pipeline channel event).getD pool) pool

/-- The events that work so many lines one after the other. -/
def oneByOne (lines : Nat) : List PoolEvent :=
  (List.range lines).flatMap fun (number : Nat) => [.handOut, .finish number, .join number]

/-- A pool before its first line, which blank lines never reach. -/
def ofLines (lines : List String) (permits : Nat) (space : Workspace σ) : WorkerPool σ where
  waiting := lines.filter fun line => !Text.isAllBlank line
  permits
  space

/-- What a run leads to. -/
structure Run (σ : Type) where
  pool : WorkerPool σ
  /-- Whether all of the input could be read as text. -/
  isWhole : Bool

/-- Work all lines of an input. -/
def run (pipeline : Pipeline σ) (channel : Channel) (permits : Nat) (input : List UInt8)
    (space : Workspace σ) : Run σ :=
  let reading := Text.readLines input
  let pool := ofLines reading.lines permits space
  { pool := pool.perform pipeline channel (oneByOne pool.waiting.length)
    isWhole := reading.isWhole }

/-- Wording of a run that could not read its input. -/
def unreadableInput : String := "failed to read envelope"

end WorkerPool
end JarLedger
