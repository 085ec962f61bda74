import JarLedger.Proofs.Delivery.Acts
import JarLedger.Proofs.Reconciliation.Discipline
import JarLedger.Proofs.Reconciliation.Isolation

/-!
# What work on an announcement leaves behind

Over a store that isolates its transactions, work that does not end with an applied document leaves
store and filter as they were; work that does has reconciled one message and made one mark, after
the commit.  `Trail` says for each stage what was done so far.
-/

namespace JarLedger

namespace Act

/-- The address that something was fetched from. -/
def fetched? : Act → Option String
  | .fetch url => some url
  | _ => none

/-- Whether a document was marked. -/
def isMark : Act → Bool
  | .mark _ _ _ => true
  | _ => false

end Act

namespace Delivery

open Reconciliation (Success Progress)

variable {σ : Type} {pipeline : Pipeline σ} {start : Stage} {origin : Workspace σ}

/-- The addresses that an object is fetched from: one at most, and none for an envelope that cannot
be read, is not meant for the flow, or names no address.  A document at hand needs none. -/
def urls (pipeline : Pipeline σ) : Stage → List String
  | .unread envelope =>
      match Envelope.read envelope with
      | .error _ => []
      | .ok announcement =>
          if announcement.contentType = pipeline.acceptedContentType then announcement.url.toList
          else []
  | _ => []

/-- How work comes by its document, and what is done for that. -/
inductive Brings (pipeline : Pipeline σ) : Stage → Job → List Act → Prop
  | document (job : Job) : Brings pipeline (.unpacked job) job []
  | announcement {envelope url payload : String} {announcement : Announcement}
      (requested : pipeline.requestedBlob envelope = .ok (some (announcement, url)))
      (fetched : pipeline.fetchBlob url = .ok payload) :
      Brings pipeline (.unread envelope) ⟨announcement, payload, .singleBlob⟩ [.fetch url]

/-- The acts from the question to the filter on, if the document was let through. -/
def requests (pipeline : Pipeline σ) (origin : Workspace σ) (job : Job)
    (transcript : List Store.Exchange) : List Act :=
  .ask job.payload (pipeline.clock origin.readings) job.source :: transcript.map .exchange

/-- What was done at each stage of work that began with a workspace. -/
inductive Trail (isolation : pipeline.store.Isolation) (start : Stage) (origin : Workspace σ) :
    Delivery σ → Prop
  | unread (envelope : String) (begun : start = .unread envelope) :
      Trail isolation start origin ⟨.unread envelope, origin, []⟩
  | wanted {envelope url : String} {announcement : Announcement}
      (begun : start = .unread envelope)
      (requested : pipeline.requestedBlob envelope = .ok (some (announcement, url))) :
      Trail isolation start origin ⟨.wanted announcement url, origin, []⟩
  | packed {envelope url : String} {announcement : Announcement} {compressed : List UInt8}
      (begun : start = .unread envelope)
      (requested : pipeline.requestedBlob envelope = .ok (some (announcement, url)))
      (arrived : pipeline.objects.bytes url = .ok compressed) :
      Trail isolation start origin ⟨.packed announcement compressed, origin, [.fetch url]⟩
  | unpacked {job : Job} {before : List Act} (brings : Brings pipeline start job before) :
      Trail isolation start origin ⟨.unpacked job, origin, before⟩
  | admitted {job : Job} {before : List Act} (brings : Brings pipeline start job before) :
      Trail isolation start origin
        ⟨.admitted job, { origin with readings := origin.readings + 1 },
          before ++ requests pipeline origin job []⟩
  | reconciling {job : Job} {before : List Act} {message : Message}
      {stage : Reconciliation.Stage} {state : σ} {transcript : List Store.Exchange}
      (brings : Brings pipeline start job before)
      (classified : Snapshot.classify job.announcement job.payload = .ok message)
      (reached : isolation.Reached origin.store stage state)
      (progress : Progress message stage transcript)
      (same : Reconciliation.run pipeline.store message stage state =
        reconcile pipeline.store message origin.store) :
      Trail isolation start origin
        ⟨.reconciling job message stage,
          { origin with store := state, readings := origin.readings + 1 },
          before ++ requests pipeline origin job transcript⟩
  | reconciled {job : Job} {before : List Act} {message : Message} {work : List Store.Exchange}
      {outcome : Reconciled} {state : σ} (brings : Brings pipeline start job before)
      (classified : Snapshot.classify job.announcement job.payload = .ok message)
      (success : Success message work outcome)
      (same : reconcile pipeline.store message origin.store = (.ok outcome, state)) :
      Trail isolation start origin
        ⟨.reconciled job outcome,
          { origin with store := state, readings := origin.readings + 1 },
          before ++ requests pipeline origin job (work ++ [.committed (.ok ())])⟩
  | applied {job : Job} {before : List Act} {message : Message} {work : List Store.Exchange}
      {outcome : Reconciled} {state : σ} (brings : Brings pipeline start job before)
      (classified : Snapshot.classify job.announcement job.payload = .ok message)
      (success : Success message work outcome)
      (same : reconcile pipeline.store message origin.store = (.ok outcome, state)) :
      Trail isolation start origin
        ⟨.ended (.ok (.processed (.applied outcome))),
          pipeline.mark job.payload job.source
            { origin with store := state, readings := origin.readings + 1 },
          before ++ requests pipeline origin job (work ++ [.committed (.ok ())]) ++
            [.mark job.payload (pipeline.clock (origin.readings + 1)) job.source]⟩
  | unmoved {result : Except (Halt IngestError) AnnouncementOutcome} {space : Workspace σ}
      {acts : List Act} (other : ∀ outcome, result ≠ .ok (.processed (.applied outcome)))
      (store : space.store = origin.store) (filter : space.filter = origin.filter)
      (fetches : acts.filterMap Act.fetched? = urls pipeline start)
      (unmarked : ∀ act ∈ acts, act.isMark = false)
      (uncommitted : .exchange (.committed (.ok ())) ∉ acts) :
      Trail isolation start origin ⟨.ended result, space, acts⟩

theorem urls_unread (pipeline : Pipeline σ) (envelope : String) :
    urls pipeline (.unread envelope) =
      match pipeline.requestedBlob envelope with
      | .ok (some (_, url)) => [url]
      | _ => [] := by
  rw [urls, Pipeline.requestedBlob]
  cases Envelope.read envelope with
  | error cause => rfl
  | ok announcement =>
      by_cases accepted : announcement.contentType = pipeline.acceptedContentType
      · cases named : announcement.url <;>
          simp [bind, Except.bind, Except.pure, pure, Pipeline.wantedBlob, accepted, named]
      · simp [bind, Except.bind, Except.pure, pure, Pipeline.wantedBlob, accepted]

theorem Brings.fetches {job : Job} {before : List Act} (brings : Brings pipeline start job before) :
    before.filterMap Act.fetched? = urls pipeline start := by
  cases brings with
  | document => rfl
  | announcement requested fetched =>
      rw [urls_unread, requested]
      rfl

theorem Brings.harmless {job : Job} {before : List Act}
    (brings : Brings pipeline start job before) :
    (∀ act ∈ before, act.isMark = false) ∧ .exchange (.committed (.ok ())) ∉ before := by
  cases brings with
  | document => simp
  | announcement requested fetched => simp [Act.isMark]

theorem requests_append (pipeline : Pipeline σ) (origin : Workspace σ) (job : Job)
    (front back : List Store.Exchange) :
    requests pipeline origin job front ++ back.map .exchange =
      requests pipeline origin job (front ++ back) := by
  rw [requests, requests, List.map_append, List.cons_append]

/-- Requests to filter and store fetch nothing and mark nothing. -/
theorem requests_harmless (pipeline : Pipeline σ) (origin : Workspace σ) (job : Job)
    (transcript : List Store.Exchange) :
    (requests pipeline origin job transcript).filterMap Act.fetched? = [] ∧
      (∀ act ∈ requests pipeline origin job transcript, act.isMark = false) ∧
      (.exchange (.committed (.ok ())) ∈ requests pipeline origin job transcript ↔
        .committed (.ok ()) ∈ transcript) := by
  simp [requests, Act.isMark, Act.fetched?, List.filterMap_eq_nil_iff]

/-- A transaction that failed was not committed. -/
theorem uncommitted_of_failed {message : Message} {failure : IngestError}
    {transcript : List Store.Exchange}
    (progress : Progress message (.finished (.error failure)) transcript) :
    .committed (.ok ()) ∉ transcript := by
  cases progress with
  | refused => simp
  | uncommitted success cause => cases success <;> simp
  | rolledBack setback answer => cases setback <;> simp

variable {isolation : pipeline.store.Isolation} {delivery : Delivery σ}

/-- Work on a document that was brought has not moved anything if it failed before a commit. -/
theorem Trail.failed {job : Job} {before : List Act} (brings : Brings pipeline start job before)
    {transcript : List Store.Exchange} (uncommitted : .committed (.ok ()) ∉ transcript)
    {result : Except (Halt IngestError) AnnouncementOutcome}
    (other : ∀ outcome, result ≠ .ok (.processed (.applied outcome))) {state : σ}
    (unmoved : state = origin.store) (readings : Nat) :
    Trail isolation start origin ⟨.ended result, { origin with store := state, readings },
      before ++ requests pipeline origin job transcript⟩ := by
  obtain ⟨unfetched, unmarked, exchanged⟩ := requests_harmless pipeline origin job transcript
  obtain ⟨unmarkedBefore, uncommittedBefore⟩ := brings.harmless
  refine .unmoved other unmoved rfl ?_ ?_ ?_
  · rw [List.filterMap_append, unfetched, List.append_nil, brings.fetches]
  · exact List.forall_mem_append.mpr ⟨unmarkedBefore, unmarked⟩
  · rw [List.mem_append, exchanged]
    exact not_or.mpr ⟨uncommittedBefore, uncommitted⟩

/-- The trail goes on from any stage of the transaction. -/
theorem Trail.ofReconciliation {job : Job} {before : List Act} {message : Message}
    {stage : Reconciliation.Stage} {state : σ} {transcript : List Store.Exchange}
    (brings : Brings pipeline start job before)
    (classified : Snapshot.classify job.announcement job.payload = .ok message)
    (reached : isolation.Reached origin.store stage state)
    (progress : Progress message stage transcript)
    (same : Reconciliation.run pipeline.store message stage state =
      reconcile pipeline.store message origin.store) :
    Trail isolation start origin
      ⟨.ofReconciliation job message stage,
        { origin with store := state, readings := origin.readings + 1 },
        before ++ requests pipeline origin job transcript⟩ := by
  match stage with
  | .finished (.ok outcome) =>
      rw [Reconciliation.run_finished] at same
      cases progress with
      | committed success => exact .reconciled brings classified success same.symm
  | .finished (.error failure) =>
      exact .failed brings (uncommitted_of_failed progress) (by simp) reached _
  | .opening | .applying | .adding _ | .committing _ | .rollingBack _ =>
      exact .reconciling brings classified reached progress same

theorem Trail.step_unread (isolation : pipeline.store.Isolation) (origin : Workspace σ)
    (envelope : String) :
    Trail isolation (.unread envelope) origin
      (Delivery.step pipeline ⟨.unread envelope, origin, []⟩) := by
  have fetches := urls_unread pipeline envelope
  rw [Delivery.step]
  rcases requested : pipeline.requestedBlob envelope with cause | _ | ⟨announcement, url⟩
  · rw [requested] at fetches
    exact .unmoved (by simp) rfl rfl fetches.symm (by simp) (by simp)
  · rw [requested] at fetches
    exact .unmoved (by simp) rfl rfl fetches.symm (by simp) (by simp)
  · exact .wanted rfl requested

/-- Work that fails before its document is unpacked has only fetched. -/
theorem Trail.unfetched (isolation : pipeline.store.Isolation) (origin : Workspace σ)
    {envelope url : String} {announcement : Announcement}
    (requested : pipeline.requestedBlob envelope = .ok (some (announcement, url)))
    (halt : Halt IngestError) :
    Trail isolation (.unread envelope) origin ⟨.ended (.error halt), origin, [.fetch url]⟩ := by
  have fetches := urls_unread pipeline envelope
  rw [requested] at fetches
  exact .unmoved (by simp) rfl rfl fetches.symm (by simp [Act.isMark]) (by simp)

theorem Trail.step_unpacked (isolation : pipeline.store.Isolation) (origin : Workspace σ)
    {job : Job} {before : List Act} (brings : Brings pipeline start job before) :
    Trail isolation start origin (Delivery.step pipeline ⟨.unpacked job, origin, before⟩) := by
  simp only [Delivery.step, Pipeline.gate]
  cases origin.filter.shouldProcess job.payload (pipeline.clock origin.readings) job.source with
  | false => exact .failed brings List.not_mem_nil (by simp) rfl _
  | true => exact .admitted brings

/-- The trail goes on with every step. -/
theorem Trail.step (idle : isolation.Idle origin.store)
    (trail : Trail isolation start origin delivery) :
    Trail isolation start origin (delivery.step pipeline) := by
  cases trail with
  | unread envelope begun =>
      subst begun
      exact .step_unread isolation origin envelope
  | @wanted envelope url announcement begun requested =>
      subst begun
      rw [Delivery.step]
      cases arrived : pipeline.objects.bytes url with
      | error halt => exact .unfetched isolation origin requested _
      | ok compressed => exact .packed rfl requested arrived
  | @packed envelope url announcement compressed begun requested arrived =>
      subst begun
      rw [Delivery.step]
      cases unpacked : Extraction.document compressed with
      | error cause => exact .unfetched isolation origin requested _
      | ok payload =>
          have fetched : pipeline.fetchBlob url = .ok payload := by
            rw [Pipeline.fetchBlob, arrived]
            exact congrArg (Except.mapError _) unpacked
          exact .unpacked (.announcement requested fetched)
  | unpacked brings => exact .step_unpacked isolation origin brings
  | @admitted job before brings =>
      rw [Delivery.step]
      cases classified : Snapshot.classify job.announcement job.payload with
      | error failure => exact .failed brings List.not_mem_nil (by simp) rfl _
      | ok message => exact .reconciling brings classified rfl (.opening message) rfl
  | @reconciling job before message stage state transcript brings classified reached progress
      same =>
      -- The log has only the acts of the step, the trail the transcript from the start on.
      obtain ⟨sameStage, sameStore⟩ :=
        Reconciliation.step_recorded pipeline.store message stage state []
      have further := Reconciliation.progress_step pipeline.store message stage (state, transcript)
        progress
      rw [Reconciliation.transcript_step_recorded,
        (Reconciliation.step_recorded pipeline.store message stage state transcript).1] at further
      rw [Delivery.step, sameStage, sameStore, List.append_assoc, requests_append]
      exact .ofReconciliation brings classified (isolation.reached_step idle message reached)
        further ((Reconciliation.run_after_step stage state).trans same)
  | reconciled brings classified success same => exact .applied brings classified success same
  | applied brings classified success same => exact .applied brings classified success same
  | unmoved other store filter fetches unmarked uncommitted =>
      exact .unmoved other store filter fetches unmarked uncommitted

/-- What was done outside by work that is over, and what it left behind. -/
structure Traced (pipeline : Pipeline σ) (start : Stage) (space : Workspace σ)
    (came : Except (Halt IngestError) AnnouncementOutcome × Workspace σ) (acts : List Act) :
    Prop where
  /-- Step by step the work comes to the same. -/
  steps : ∃ steps, (step pipeline)^[steps] ⟨start, space, []⟩ = ⟨.ended came.1, came.2, acts⟩
  fetches : acts.filterMap Act.fetched? = urls pipeline start
  /-- Without an applied document nothing is committed and nothing marked. -/
  unmoved : (∀ outcome, came.1 ≠ .ok (.processed (.applied outcome))) →
    came.2.store = space.store ∧ came.2.filter = space.filter ∧
      (∀ act ∈ acts, act.isMark = false) ∧ .exchange (.committed (.ok ())) ∉ acts
  /-- With one, its message is reconciled, and then it is marked once. -/
  moved : ∀ outcome, came.1 = .ok (.processed (.applied outcome)) →
    ∃ job before message work, Brings pipeline start job before ∧
      Snapshot.classify job.announcement job.payload = .ok message ∧
      reconcile pipeline.store message space.store = (.ok outcome, came.2.store) ∧
      came.2.filter = space.filter.markApplied job.payload
        (pipeline.clock (space.readings + 1)) job.source ∧
      Success message work outcome ∧
      acts = before ++ requests pipeline space job (work ++ [.committed (.ok ())]) ++
        [.mark job.payload (pipeline.clock (space.readings + 1)) job.source]

/-- At its end a trail says what was left behind. -/
theorem Trail.traced {result : Except (Halt IngestError) AnnouncementOutcome}
    {after : Workspace σ} {acts : List Act}
    (trail : Trail isolation start origin ⟨.ended result, after, acts⟩)
    (steps : ∃ steps,
      (Delivery.step pipeline)^[steps] ⟨start, origin, []⟩ = ⟨.ended result, after, acts⟩) :
    Traced pipeline start origin (result, after) acts := by
  cases trail with
  | @applied job before message work outcome state brings classified success same =>
      refine ⟨steps, ?_, fun other => absurd rfl (other outcome), ?_⟩
      · rw [List.filterMap_append, List.filterMap_append, (requests_harmless _ _ _ _).1,
          List.append_nil, brings.fetches]
        exact List.append_nil _
      · rintro _ ⟨⟩
        exact ⟨job, before, message, work, brings, classified, same, rfl, success, rfl⟩
  | unmoved other store filter fetches unmarked uncommitted =>
      exact ⟨steps, fetches, fun _ => ⟨store, filter, unmarked, uncommitted⟩,
        fun outcome same => absurd same (other outcome)⟩

/-- Work over a store that isolates its transactions is traced to its end. -/
theorem exists_traced (isolation : pipeline.store.Isolation) (idle : isolation.Idle origin.store)
    (begun : Trail isolation start origin ⟨start, origin, []⟩) :
    ∃ acts, Traced pipeline start origin (outcome pipeline ⟨start, origin, []⟩) acts := by
  obtain ⟨steps, acts, reached⟩ := exists_steps pipeline ⟨start, origin, []⟩
  have trail : Trail isolation start origin
      ((Delivery.step pipeline)^[steps] ⟨start, origin, []⟩) :=
    Function.Iterate.rec (Trail isolation start origin) begun (fun _ => Trail.step idle) steps
  rw [reached] at trail
  exact ⟨acts, trail.traced ⟨steps, reached⟩⟩

end Delivery
end JarLedger
