import JarLedger.Proofs.Reconciliation.Transcript

/-!
# The discipline of transactions

Whatever a store answers, reconciling a message opens one transaction and closes it once, with a
commit exactly if nothing failed before.  `Disciplined` says so of a transcript and a result.  The
invariant behind it, `Progress`, is what the transcript looks like at each stage.
-/

namespace JarLedger

namespace Store.Exchange

/-- The failure that a request was answered with. -/
@[simp]
def failure? : Exchange → Option PersistenceError
  | .begun (.error cause) => some cause
  | .inserted _ (.error cause) => some cause
  | .lookedUp _ (.error cause) => some cause
  | .added _ _ (.error cause) => some cause
  | .committed (.error cause) => some cause
  | .rolledBack (.error cause) => some cause
  | _ => none

/-- Whether a request is to open a transaction. -/
@[simp]
def opens : Exchange → Bool
  | .begun _ => true
  | _ => false

/-- Whether a request is to add jars. -/
@[simp]
def adds : Exchange → Bool
  | .added _ _ _ => true
  | _ => false

/-- Whether a request is to commit. -/
@[simp]
def commits : Exchange → Bool
  | .committed _ => true
  | _ => false

/-- Whether a request is to roll back. -/
@[simp]
def rollsBack : Exchange → Bool
  | .rolledBack _ => true
  | _ => false

/-- Whether a request ends a transaction. -/
@[simp]
def closes (exchange : Exchange) : Bool := exchange.commits || exchange.rollsBack

/-- Whether a request is none of those that reconciling a message is made of. -/
@[simp]
def isForeign : Exchange → Bool
  | .abandoned => true
  | .outside => true
  | _ => false

end Store.Exchange

namespace Reconciliation

open Store (Exchange)

/-- The first failure in a transcript, roll-backs aside. -/
def firstFailure? (transcript : List Exchange) : Option PersistenceError :=
  (transcript.filter fun exchange => !exchange.rollsBack).findSome? Exchange.failure?

/-- What is to be expected of the requests that reconciling a message is made of. -/
structure Shaped (message : Message) (transcript : List Exchange) : Prop where
  /-- A transaction is opened first, and only then. -/
  opened : ∃ answer rest, transcript = .begun answer :: rest ∧
    ∀ exchange ∈ rest, exchange.opens = false
  /-- Nothing follows if it is refused. -/
  refused : ∀ cause, .begun (.error cause) ∈ transcript → transcript = [.begun (.error cause)]
  /-- Otherwise the last request closes it, and no other does. -/
  closed : .begun (.ok ()) ∈ transcript → ∃ front last, transcript = front ++ [last] ∧
    last.closes = true ∧ ∀ exchange ∈ front, exchange.closes = false
  /-- The last request is a commit exactly if everything before succeeded and an update found just
  one instance. -/
  committed_iff : ∀ front last, transcript = front ++ [last] → .begun (.ok ()) ∈ front →
    (last.commits = true ↔ (∀ exchange ∈ front, exchange.failure? = none) ∧
      ∀ delta, message = .update delta →
        ∃ row, .lookedUp delta.linkingHash (.ok [row]) ∈ front)
  /-- Only new instances are inserted. -/
  inserted : ∀ new answer, .inserted new answer ∈ transcript → message = .newInstance new
  /-- Only updates look for an instance, by their linking hash. -/
  lookedUp : ∀ linkingHash answer, .lookedUp linkingHash answer ∈ transcript →
    ∃ delta, message = .update delta ∧ linkingHash = delta.linkingHash
  /-- Jars are those of the update, and go to the one instance found before. -/
  added : ∀ id jars answer, .added id jars answer ∈ transcript →
    ∃ delta row, message = .update delta ∧ id = row.id ∧ jars = delta.jars ∧
      [.lookedUp delta.linkingHash (.ok [row]), .added id jars answer].Sublist transcript
  /-- Jars are added at most once. -/
  added_once : transcript.countP Exchange.adds ≤ 1
  /-- There are no other requests. -/
  nothing_else : ∀ exchange ∈ transcript, exchange.isForeign = false

/-- What is to be expected of the transcript of a reconciliation and of its result. -/
structure Disciplined (message : Message) (transcript : List Exchange)
    (result : Except IngestError Reconciled) : Prop where
  shaped : Shaped message transcript
  /-- A reconciliation succeeds exactly if its commit does. -/
  succeeded_iff : (∃ outcome, result = .ok outcome) ↔ .committed (.ok ()) ∈ transcript
  /-- The number of a new instance is the answer to its insertion. -/
  number : ∀ id, result = .ok (.inserted id) → ∃ new, .inserted new (.ok id) ∈ transcript
  /-- How many jars an update added is the answer to their addition. -/
  count : ∀ id count, result = .ok (.merged id count) →
    ∃ jars, .added id jars (.ok count) ∈ transcript
  /-- The first failure is the result. -/
  failed : ∀ cause, firstFailure? transcript = some cause → result = .error (.persistence cause)
  /-- A failure that is not the first one of the store is about the number of instances found. -/
  explained : ∀ failure, result = .error failure →
    (∃ cause, firstFailure? transcript = some cause ∧ failure = .persistence cause) ∨
    (∃ linkingHash, .lookedUp linkingHash (.ok []) ∈ transcript ∧
      failure = .integrity (.unknownLinkingHash linkingHash)) ∨
    ∃ linkingHash rows, .lookedUp linkingHash (.ok rows) ∈ transcript ∧ 2 ≤ rows.length ∧
      failure = .integrity (.notUnique linkingHash rows.length)

/-! ## What transcripts look like -/

/-- The requests that lead to a commit, and what they did. -/
inductive Success : Message → List Exchange → Reconciled → Prop where
  | insertion (new : Instance) (id : InstanceId) :
      Success (.newInstance new) [.begun (.ok ()), .inserted new (.ok id)] (.inserted id)
  | addition (delta : Delta) (row : InstanceRow) (count : Nat) :
      Success (.update delta)
        [.begun (.ok ()), .lookedUp delta.linkingHash (.ok [row]),
          .added row.id delta.jars (.ok count)]
        (.merged row.id count)

/-- The requests that lead to a roll-back, and why. -/
inductive Setback : Message → List Exchange → IngestError → Prop where
  | insertion (new : Instance) (cause : PersistenceError) :
      Setback (.newInstance new) [.begun (.ok ()), .inserted new (.error cause)]
        (.persistence cause)
  | lookup (delta : Delta) (cause : PersistenceError) :
      Setback (.update delta) [.begun (.ok ()), .lookedUp delta.linkingHash (.error cause)]
        (.persistence cause)
  | unknown (delta : Delta) :
      Setback (.update delta) [.begun (.ok ()), .lookedUp delta.linkingHash (.ok [])]
        (.integrity (.unknownLinkingHash delta.linkingHash))
  | ambiguous (delta : Delta) (rows : List InstanceRow) (several : 2 ≤ rows.length) :
      Setback (.update delta) [.begun (.ok ()), .lookedUp delta.linkingHash (.ok rows)]
        (.integrity (.notUnique delta.linkingHash rows.length))
  | addition (delta : Delta) (row : InstanceRow) (cause : PersistenceError) :
      Setback (.update delta)
        [.begun (.ok ()), .lookedUp delta.linkingHash (.ok [row]),
          .added row.id delta.jars (.error cause)]
        (.persistence cause)

/-- What the transcript looks like at each stage. -/
inductive Progress : Message → Stage → List Exchange → Prop where
  | opening (message : Message) : Progress message .opening []
  | applying (message : Message) : Progress message .applying [.begun (.ok ())]
  | adding (delta : Delta) (row : InstanceRow) :
      Progress (.update delta) (.adding row.id)
        [.begun (.ok ()), .lookedUp delta.linkingHash (.ok [row])]
  | committing {message : Message} {work : List Exchange} {outcome : Reconciled}
      (success : Success message work outcome) : Progress message (.committing outcome) work
  | rollingBack {message : Message} {work : List Exchange} {failure : IngestError}
      (setback : Setback message work failure) : Progress message (.rollingBack failure) work
  | refused (message : Message) (cause : PersistenceError) :
      Progress message (.finished (.error (.persistence cause))) [.begun (.error cause)]
  | committed {message : Message} {work : List Exchange} {outcome : Reconciled}
      (success : Success message work outcome) :
      Progress message (.finished (.ok outcome)) (work ++ [.committed (.ok ())])
  | uncommitted {message : Message} {work : List Exchange} {outcome : Reconciled}
      (success : Success message work outcome) (cause : PersistenceError) :
      Progress message (.finished (.error (.persistence cause)))
        (work ++ [.committed (.error cause)])
  | rolledBack {message : Message} {work : List Exchange} {failure : IngestError}
      (setback : Setback message work failure) (answer : Except PersistenceError Unit) :
      Progress message (.finished (.error failure)) (work ++ [.rolledBack answer])

section Runs

variable {σ : Type} (store : Store σ) (message : Message)

/-- Every request takes the transcript from what it looks like at one stage to what it looks like at
the next. -/
theorem progress_step (stage : Stage) (state : σ × List Exchange)
    (progress : Progress message stage state.2) :
    Progress message (step store.recorded message stage state).1
      (step store.recorded message stage state).2.2 := by
  obtain ⟨state, transcript⟩ := state
  cases progress with
  | opening =>
      simp only [step, Store.recorded, Request.noted]
      rcases store.begin state with ⟨cause | _, after⟩
      · exact .refused message cause
      · exact .applying message
  | applying =>
      cases message with
      | newInstance new =>
          simp only [step, Store.recorded, Request.noted]
          rcases store.insert new state with ⟨cause | id, after⟩
          · exact .rollingBack (.insertion new cause)
          · exact .committing (.insertion new id)
      | update delta =>
          simp only [step, Store.recorded, Request.noted]
          rcases store.lookup delta.linkingHash state with ⟨cause | rows, after⟩
          · exact .rollingBack (.lookup delta cause)
          · rcases rows with _ | ⟨row, _ | ⟨second, rest⟩⟩
            · exact .rollingBack (.unknown delta)
            · exact .adding delta row
            · exact .rollingBack (.ambiguous delta (row :: second :: rest) (by simp))
  | adding delta row =>
      simp only [step, Store.recorded, Request.noted]
      rcases store.add row.id delta.jars state with ⟨cause | count, after⟩
      · exact .rollingBack (.addition delta row cause)
      · exact .committing (.addition delta row count)
  | committing success =>
      simp only [step, Store.recorded, Request.noted]
      rcases store.commit state with ⟨cause | _, after⟩
      · exact .uncommitted success cause
      · exact .committed success
  | rollingBack setback => exact .rolledBack setback _
  | refused _ cause => exact .refused message cause
  | committed success => exact .committed success
  | uncommitted success cause => exact .uncommitted success cause
  | rolledBack setback answer => exact .rolledBack setback answer

theorem progress_run (state : σ) :
    Progress message (.finished (reconcile store.recorded message (state, [])).1)
      (reconcile store.recorded message (state, [])).2.2 :=
  @run_preserves _ store.recorded message (fun stage state => Progress message stage state.2)
    (progress_step store message) .opening (state, []) (.opening message)

end Runs

/-! ## From what transcripts look like to the discipline -/

/-- What holds of the requests before the transaction is closed. -/
structure Underway (message : Message) (work : List Exchange) : Prop where
  opened : ∃ rest, work = .begun (.ok ()) :: rest ∧ ∀ exchange ∈ rest, exchange.opens = false
  unclosed : ∀ exchange ∈ work, exchange.closes = false
  inserted : ∀ new answer, .inserted new answer ∈ work → message = .newInstance new
  lookedUp : ∀ linkingHash answer, .lookedUp linkingHash answer ∈ work →
    ∃ delta, message = .update delta ∧ linkingHash = delta.linkingHash
  added : ∀ id jars answer, .added id jars answer ∈ work →
    ∃ delta row, message = .update delta ∧ id = row.id ∧ jars = delta.jars ∧
      [.lookedUp delta.linkingHash (.ok [row]), .added id jars answer].Sublist work
  added_once : work.countP Exchange.adds ≤ 1
  nothing_else : ∀ exchange ∈ work, exchange.isForeign = false

namespace Underway

theorem insertion (new : Instance) (answer : Except PersistenceError InstanceId) :
    Underway (.newInstance new) [.begun (.ok ()), .inserted new answer] where
  opened := ⟨_, rfl, by simp⟩
  unclosed := by simp
  inserted := by simp +contextual [eq_comm]
  lookedUp := by simp
  added := by simp
  added_once := by simp
  nothing_else := by simp

theorem lookup (delta : Delta) (answer : Except PersistenceError (List InstanceRow)) :
    Underway (.update delta) [.begun (.ok ()), .lookedUp delta.linkingHash answer] where
  opened := ⟨_, rfl, by simp⟩
  unclosed := by simp
  inserted := by simp
  lookedUp := by simp +contextual
  added := by simp
  added_once := by simp
  nothing_else := by simp

theorem addition (delta : Delta) (row : InstanceRow) (answer : Except PersistenceError Nat) :
    Underway (.update delta)
      [.begun (.ok ()), .lookedUp delta.linkingHash (.ok [row]),
        .added row.id delta.jars answer] where
  opened := ⟨_, rfl, by simp⟩
  unclosed := by simp
  inserted := by simp
  lookedUp := by simp +contextual
  added := by
    intro id jars other member
    obtain ⟨rfl, rfl, rfl⟩ : id = row.id ∧ jars = delta.jars ∧ other = answer := by
      simpa using member
    exact ⟨delta, row, rfl, rfl, rfl, List.sublist_cons_self _ _⟩
  added_once := by simp
  nothing_else := by simp

/-- Closing the transaction, with a commit exactly if that is right, gives the transcript its
shape. -/
theorem shaped {message : Message} {work : List Exchange} {closing : Exchange}
    (underway : Underway message work) (closes : closing.closes = true)
    (right : closing.commits = true ↔ (∀ exchange ∈ work, exchange.failure? = none) ∧
      ∀ delta, message = .update delta →
        ∃ row, .lookedUp delta.linkingHash (.ok [row]) ∈ work) :
    Shaped message (work ++ [closing]) := by
  have before {exchange : Exchange} (member : exchange ∈ work ++ [closing])
      (unclosed : exchange.closes = false) : exchange ∈ work := by
    rcases List.mem_append.mp member with worked | last
    · exact worked
    · rw [List.mem_singleton.mp last, closes] at unclosed
      cases unclosed
  obtain ⟨rest, shape, once⟩ := underway.opened
  refine ⟨?_, ?_, ?_, ?_, ?_, ?_, ?_, ?_, ?_⟩
  · refine ⟨.ok (), rest ++ [closing], by rw [shape]; rfl, fun exchange member => ?_⟩
    rcases List.mem_append.mp member with worked | last
    · exact once exchange worked
    · rw [List.mem_singleton.mp last]
      cases closing <;> first | rfl | cases closes
  · intro cause member
    have worked := before member rfl
    rw [shape] at worked
    rcases List.mem_cons.mp worked with equal | later
    · cases equal
    · cases once _ later
  · exact fun _ => ⟨work, closing, rfl, closes, underway.unclosed⟩
  · intro front last split _
    obtain ⟨rfl, equal⟩ := List.append_inj' split rfl
    obtain rfl : closing = last := List.singleton_inj.mp equal
    exact right
  · exact fun new answer member => underway.inserted new answer (before member rfl)
  · exact fun linkingHash answer member =>
      underway.lookedUp linkingHash answer (before member rfl)
  · intro id jars answer member
    obtain ⟨delta, row, update, number, same, ordered⟩ :=
      underway.added id jars answer (before member rfl)
    exact ⟨delta, row, update, number, same, ordered.trans (List.sublist_append_left _ _)⟩
  · have quiet : closing.adds = false := by
      cases closing <;> first | rfl | cases closes
    rw [List.countP_append, List.countP_singleton, quiet]
    exact underway.added_once
  · intro exchange member
    rcases List.mem_append.mp member with worked | last
    · exact underway.nothing_else exchange worked
    · rw [List.mem_singleton.mp last]
      cases closing <;> first | rfl | cases closes

end Underway

namespace Success

variable {message : Message} {work : List Exchange} {outcome : Reconciled}

theorem underway (success : Success message work outcome) : Underway message work := by
  cases success with
  | insertion new id => exact .insertion new (.ok id)
  | addition delta row count => exact .addition delta row (.ok count)

theorem unfailed (success : Success message work outcome) :
    ∀ exchange ∈ work, exchange.failure? = none := by
  cases success <;> simp

theorem found (success : Success message work outcome) (delta : Delta)
    (update : message = .update delta) :
    ∃ row, .lookedUp delta.linkingHash (.ok [row]) ∈ work := by
  cases success with
  | insertion new id => cases update
  | addition stored row count =>
      cases update
      exact ⟨row, by simp⟩

/-- A success that the store commits or refuses to commit has its shape. -/
theorem shaped (success : Success message work outcome) (answer : Except PersistenceError Unit) :
    Shaped message (work ++ [.committed answer]) :=
  success.underway.shaped rfl ⟨fun _ => ⟨success.unfailed, success.found⟩, fun _ => rfl⟩

theorem firstFailure?_committed (success : Success message work outcome)
    (answer : Except PersistenceError Unit) :
    firstFailure? (work ++ [.committed answer]) = (Exchange.committed answer).failure? := by
  cases success <;> cases answer <;> rfl

theorem disciplined_committed (success : Success message work outcome) :
    Disciplined message (work ++ [.committed (.ok ())]) (.ok outcome) where
  shaped := success.shaped (.ok ())
  succeeded_iff := ⟨fun _ => by simp, fun _ => ⟨outcome, rfl⟩⟩
  number := by
    intro id equal
    cases success with
    | insertion new stored =>
        cases equal
        exact ⟨new, by simp⟩
    | addition delta row count => cases equal
  count := by
    intro id count equal
    cases success with
    | insertion new stored => cases equal
    | addition delta row added =>
        cases equal
        exact ⟨delta.jars, by simp⟩
  failed := by
    intro cause first
    rw [success.firstFailure?_committed] at first
    cases first
  explained := nofun

theorem disciplined_uncommitted (success : Success message work outcome)
    (cause : PersistenceError) :
    Disciplined message (work ++ [.committed (.error cause)])
      (.error (.persistence cause)) where
  shaped := success.shaped (.error cause)
  succeeded_iff := by
    have unclosed := success.underway.unclosed (.committed (.ok ()))
    simpa using unclosed
  number := nofun
  count := nofun
  failed := by
    intro first equal
    rw [success.firstFailure?_committed] at equal
    cases equal
    rfl
  explained := by
    rintro failure ⟨⟩
    exact .inl ⟨cause, success.firstFailure?_committed _, rfl⟩

end Success

namespace Setback

variable {message : Message} {work : List Exchange} {failure : IngestError}

theorem underway (setback : Setback message work failure) : Underway message work := by
  cases setback with
  | insertion new cause => exact .insertion new (.error cause)
  | lookup delta cause => exact .lookup delta (.error cause)
  | unknown delta => exact .lookup delta (.ok [])
  | ambiguous delta rows several => exact .lookup delta (.ok rows)
  | addition delta row cause => exact .addition delta row (.error cause)

/-- After a setback there is nothing to commit. -/
theorem not_right (setback : Setback message work failure)
    (unfailed : ∀ exchange ∈ work, exchange.failure? = none) :
    ∃ delta, message = .update delta ∧
      ∀ row, .lookedUp delta.linkingHash (.ok [row]) ∉ work := by
  cases setback with
  | insertion new cause => simp at unfailed
  | lookup delta cause => simp at unfailed
  | unknown delta => exact ⟨delta, rfl, by simp⟩
  | ambiguous delta rows several =>
      refine ⟨delta, rfl, fun row member => ?_⟩
      obtain rfl : [row] = rows := by simpa using member
      simp at several
  | addition delta row cause => simp at unfailed

theorem shaped (setback : Setback message work failure) (answer : Except PersistenceError Unit) :
    Shaped message (work ++ [.rolledBack answer]) := by
  refine setback.underway.shaped rfl ⟨nofun, ?_⟩
  rintro ⟨unfailed, found⟩
  obtain ⟨delta, update, absent⟩ := setback.not_right unfailed
  obtain ⟨row, member⟩ := found delta update
  exact absurd member (absent row)

/-- A roll-back never is the first failure. -/
theorem firstFailure?_rolledBack (work : List Exchange) (answer : Except PersistenceError Unit) :
    firstFailure? (work ++ [.rolledBack answer]) = firstFailure? work := by
  simp [firstFailure?]

theorem disciplined (setback : Setback message work failure)
    (answer : Except PersistenceError Unit) :
    Disciplined message (work ++ [.rolledBack answer]) (.error failure) where
  shaped := setback.shaped answer
  succeeded_iff := by
    have unclosed := setback.underway.unclosed (.committed (.ok ()))
    simpa using unclosed
  number := nofun
  count := nofun
  failed := by
    intro cause first
    rw [firstFailure?_rolledBack] at first
    cases setback with
    | insertion new stored =>
        have same : stored = cause := Option.some.inj first
        rw [same]
    | lookup delta stored =>
        have same : stored = cause := Option.some.inj first
        rw [same]
    | unknown delta => exact absurd first (Option.some_ne_none cause).symm
    | ambiguous delta rows several => exact absurd first (Option.some_ne_none cause).symm
    | addition delta row stored =>
        have same : stored = cause := Option.some.inj first
        rw [same]
  explained := by
    rintro _ ⟨⟩
    rw [firstFailure?_rolledBack]
    cases setback with
    | insertion new cause => exact .inl ⟨cause, rfl, rfl⟩
    | lookup delta cause => exact .inl ⟨cause, rfl, rfl⟩
    | unknown delta => exact .inr (.inl ⟨delta.linkingHash, by simp, rfl⟩)
    | ambiguous delta rows several =>
        exact .inr (.inr ⟨delta.linkingHash, rows, by simp, several, rfl⟩)
    | addition delta row cause => exact .inl ⟨cause, rfl, rfl⟩

end Setback

theorem shaped_refused (message : Message) (cause : PersistenceError) :
    Shaped message [.begun (.error cause)] where
  opened := ⟨.error cause, [], rfl, by simp⟩
  refused := by simp
  closed := by simp
  committed_iff := by
    intro front last split opened
    cases front with
    | nil => cases opened
    | cons head rest => simp at split
  inserted := by simp
  lookedUp := by simp
  added := by simp
  added_once := by simp
  nothing_else := by simp

theorem disciplined_refused (message : Message) (cause : PersistenceError) :
    Disciplined message [.begun (.error cause)] (.error (.persistence cause)) where
  shaped := shaped_refused message cause
  succeeded_iff := by simp
  number := nofun
  count := nofun
  failed := by
    intro first equal
    have same : cause = first := Option.some.inj equal
    rw [same]
  explained := by
    rintro _ ⟨⟩
    exact .inl ⟨cause, rfl, rfl⟩

/-- What a transcript looks like at the end is what is to be expected of it. -/
theorem Progress.disciplined {message : Message} {transcript : List Exchange}
    {result : Except IngestError Reconciled}
    (progress : Progress message (.finished result) transcript) :
    Disciplined message transcript result := by
  cases progress with
  | refused _ cause => exact disciplined_refused message cause
  | committed success => exact success.disciplined_committed
  | uncommitted success cause => exact success.disciplined_uncommitted cause
  | rolledBack setback answer => exact setback.disciplined answer

/-- Whatever a store answers, reconciling a message with it keeps the discipline of transactions, as
the store that keeps a transcript shows; it does what the store itself does. -/
theorem reconcile_disciplined {σ : Type} (store : Store σ) (message : Message) (state : σ) :
    let told := reconcile store.recorded message (state, [])
    (told.1, told.2.1) = reconcile store message state ∧
      Disciplined message told.2.2 told.1 := by
  intro told
  obtain ⟨sameResult, sameState⟩ := run_recorded store message .opening state []
  exact ⟨Prod.ext sameResult sameState, (progress_run store message state).disciplined⟩

end Reconciliation
end JarLedger
