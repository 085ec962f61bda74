import JarLedger.Proofs.Duplicates.Jobs
import JarLedger.Proofs.Reconciliation.Transcript

/-!
# Work on an announcement, act by act

To work on the announcement of one document is to read the envelope, fetch the object, unpack it,
ask the filter, classify the document, make the requests of its transaction, and mark it as applied.
`Delivery.step` does one of these at a time and writes down what it does outside.  The steps come to
what `Pipeline.processAnnouncement` does in one go, and those from the document on to what
`Pipeline.processPayload` does (`Delivery.exists_steps`).
-/

namespace JarLedger

/-- Something that work on an announcement does outside. -/
inductive Act where
  /-- Fetch the object of an address. -/
  | fetch (url : String)
  /-- Ask the filter whether a document is to be worked on. -/
  | ask (payload : String) (now : Int) (source : Source)
  /-- Make a request to the store. -/
  | exchange (exchange : Store.Exchange)
  /-- Remember a document as applied. -/
  | mark (payload : String) (now : Int) (source : Source)

/-- What comes of a document, as what comes of its announcement. -/
def announced (result : Except IngestError PayloadOutcome) :
    Except (Halt IngestError) AnnouncementOutcome :=
  (result.map .processed).mapError .failed

namespace Delivery

/-- How far the work is. -/
inductive Stage where
  /-- The envelope is not read yet. -/
  | unread (envelope : String)
  /-- The object of an address is wanted. -/
  | wanted (announcement : Announcement) (url : String)
  /-- The object is fetched. -/
  | packed (announcement : Announcement) (compressed : List UInt8)
  /-- The document is unpacked. -/
  | unpacked (job : Job)
  /-- The filter has let the document through. -/
  | admitted (job : Job)
  /-- The document's message is being reconciled. -/
  | reconciling (job : Job) (message : Message) (stage : Reconciliation.Stage)
  /-- The document's message is reconciled. -/
  | reconciled (job : Job) (outcome : Reconciled)
  /-- The work is over. -/
  | ended (result : Except (Halt IngestError) AnnouncementOutcome)

/-- Where the work goes from a stage of its transaction. -/
def Stage.ofReconciliation (job : Job) (message : Message) : Reconciliation.Stage → Stage
  | .finished (.ok outcome) => .reconciled job outcome
  | .finished (.error failure) => .ended (.error (.failed failure))
  | stage => .reconciling job message stage

end Delivery

/-- The work on an announcement. -/
structure Delivery (σ : Type) where
  stage : Delivery.Stage
  space : Workspace σ
  /-- What was done outside so far. -/
  acts : List Act := []

namespace Delivery

variable {σ : Type}

/-- Do the next thing. -/
def step (pipeline : Pipeline σ) (delivery : Delivery σ) : Delivery σ :=
  match delivery with
  | ⟨.unread envelope, space, acts⟩ =>
      match pipeline.requestedBlob envelope with
      | .error cause => ⟨.ended (.error (.failed (.parse cause))), space, acts⟩
      | .ok none => ⟨.ended (.ok .ignored), space, acts⟩
      | .ok (some (announcement, url)) => ⟨.wanted announcement url, space, acts⟩
  | ⟨.wanted announcement url, space, acts⟩ =>
      match pipeline.objects.bytes url with
      | .error halt => ⟨.ended (.error (halt.map .fetch)), space, acts ++ [.fetch url]⟩
      | .ok compressed => ⟨.packed announcement compressed, space, acts ++ [.fetch url]⟩
  | ⟨.packed announcement compressed, space, acts⟩ =>
      match Extraction.document compressed with
      | .error cause => ⟨.ended (.error (.failed (.extraction cause))), space, acts⟩
      | .ok payload => ⟨.unpacked ⟨announcement, payload, .singleBlob⟩, space, acts⟩
  | ⟨.unpacked job, space, acts⟩ =>
      let asked := acts ++ [.ask job.payload (pipeline.clock space.readings) job.source]
      match pipeline.gate job.payload job.source space with
      | (false, space) => ⟨.ended (.ok (.processed .duplicate)), space, asked⟩
      | (true, space) => ⟨.admitted job, space, asked⟩
  | ⟨.admitted job, space, acts⟩ =>
      match Snapshot.classify job.announcement job.payload with
      | .error failure => ⟨.ended (.error (.failed failure)), space, acts⟩
      | .ok message => ⟨.reconciling job message .opening, space, acts⟩
  | ⟨.reconciling job message stage, space, acts⟩ =>
      let next := Reconciliation.step pipeline.store.recorded message stage (space.store, [])
      ⟨.ofReconciliation job message next.1, { space with store := next.2.1 },
        acts ++ next.2.2.map .exchange⟩
  | ⟨.reconciled job outcome, space, acts⟩ =>
      ⟨.ended (.ok (.processed (.applied outcome))), pipeline.mark job.payload job.source space,
        acts ++ [.mark job.payload (pipeline.clock space.readings) job.source]⟩
  | ⟨.ended result, space, acts⟩ => ⟨.ended result, space, acts⟩

/-- A bound on the number of steps that are still to be made. -/
def Stage.rank : Stage → Nat
  | .unread _ => 11
  | .wanted _ _ => 10
  | .packed _ _ => 9
  | .unpacked _ => 8
  | .admitted _ => 7
  | .reconciling _ _ stage => stage.rank + 2
  | .reconciled _ _ => 1
  | .ended _ => 0

theorem rank_ofReconciliation (job : Job) (message : Message) (stage : Reconciliation.Stage) :
    (Stage.ofReconciliation job message stage).rank ≤ stage.rank + 2 := by
  match stage with
  | .finished (.ok _) | .finished (.error _) => simp [Stage.ofReconciliation, Stage.rank]
  | .opening | .applying | .adding _ | .committing _ | .rollingBack _ => exact Nat.le_refl _

/-- Every step brings the end nearer. -/
theorem rank_step (pipeline : Pipeline σ) (delivery : Delivery σ)
    (unfinished : 0 < delivery.stage.rank) :
    (step pipeline delivery).stage.rank < delivery.stage.rank := by
  obtain ⟨stage, space, acts⟩ := delivery
  cases stage with
  | unread envelope =>
      rw [step]
      split <;> simp [Stage.rank]
  | wanted announcement url =>
      rw [step]
      split <;> simp [Stage.rank]
  | packed announcement compressed =>
      rw [step]
      split <;> simp [Stage.rank]
  | unpacked job =>
      simp only [step]
      split <;> simp [Stage.rank]
  | admitted job =>
      rw [step]
      split <;> simp [Stage.rank, Reconciliation.Stage.rank]
  | reconciling job message stage =>
      have next := rank_ofReconciliation job message
        (Reconciliation.step pipeline.store.recorded message stage (space.store, [])).1
      have nearer := Reconciliation.rank_step pipeline.store.recorded message stage
        (space.store, [])
      cases finished : stage.result? with
      | none =>
          have positive := Reconciliation.Stage.rank_pos finished
          exact Nat.lt_of_le_of_lt next (by simp only [Stage.rank]; omega)
      | some result =>
          rw [Reconciliation.eq_finished_of_result? finished]
          cases result <;> simp [step, Reconciliation.step, Stage.ofReconciliation, Stage.rank]
  | reconciled job outcome => simp [step, Stage.rank]
  | ended result => cases unfinished

/-- What is made of a document when its message is reconciled. -/
def close (pipeline : Pipeline σ) (job : Job) :
    Except IngestError Reconciled × Workspace σ →
      Except (Halt IngestError) AnnouncementOutcome × Workspace σ
  | (.error failure, space) => (.error (.failed failure), space)
  | (.ok outcome, space) =>
      (.ok (.processed (.applied outcome)), pipeline.mark job.payload job.source space)

/-- What is made of a document when it is unpacked, or of the failure to get at it. -/
def unpack (pipeline : Pipeline σ) (announcement : Announcement) (space : Workspace σ) :
    Except (Halt IngestError) String →
      Except (Halt IngestError) AnnouncementOutcome × Workspace σ
  | .error halt => (.error halt, space)
  | .ok payload => (pipeline.processPayload announcement payload .singleBlob space).map announced id

/-- What the work comes to if it goes on without a break. -/
def outcome (pipeline : Pipeline σ) : Delivery σ →
    Except (Halt IngestError) AnnouncementOutcome × Workspace σ
  | ⟨.unread envelope, space, _⟩ => pipeline.processAnnouncement envelope space
  | ⟨.wanted announcement url, space, _⟩ =>
      unpack pipeline announcement space (pipeline.fetchBlob url)
  | ⟨.packed announcement compressed, space, _⟩ =>
      unpack pipeline announcement space
        ((Extraction.document compressed).mapError fun cause => .failed (.extraction cause))
  | ⟨.unpacked job, space, _⟩ =>
      (pipeline.processPayload job.announcement job.payload job.source space).map announced id
  | ⟨.admitted job, space, _⟩ =>
      match Snapshot.classify job.announcement job.payload with
      | .error failure => (.error (.failed failure), space)
      | .ok message => close pipeline job (pipeline.reconcile message space)
  | ⟨.reconciling job message stage, space, _⟩ =>
      close pipeline job ((Reconciliation.run pipeline.store message stage space.store).map id
        fun store => { space with store })
  | ⟨.reconciled job outcome, space, _⟩ => close pipeline job (.ok outcome, space)
  | ⟨.ended result, space, _⟩ => (result, space)

theorem outcome_ofReconciliation (pipeline : Pipeline σ) (job : Job) (message : Message)
    (stage : Reconciliation.Stage) (space : Workspace σ) (acts : List Act) :
    outcome pipeline ⟨.ofReconciliation job message stage, space, acts⟩ =
      outcome pipeline ⟨.reconciling job message stage, space, acts⟩ := by
  match stage with
  | .finished (.ok _) | .finished (.error _) =>
      simp only [outcome, Reconciliation.run_finished]
      rfl
  | .opening | .applying | .adding _ | .committing _ | .rollingBack _ => rfl

/-- A step changes nothing about what the work comes to. -/
theorem outcome_step (pipeline : Pipeline σ) (delivery : Delivery σ) :
    (step pipeline delivery).outcome pipeline = delivery.outcome pipeline := by
  obtain ⟨stage, space, acts⟩ := delivery
  cases stage with
  | unread envelope =>
      simp only [step, outcome, Pipeline.processAnnouncement]
      rcases pipeline.requestedBlob envelope with cause | _ | ⟨announcement, url⟩
      · rfl
      · rfl
      · dsimp only
        cases pipeline.fetchBlob url <;> rfl
  | wanted announcement url =>
      rw [step]
      cases arrived : pipeline.objects.bytes url with
      | error halt =>
          rw [outcome, outcome, Pipeline.fetchBlob, arrived]
          rfl
      | ok compressed =>
          rw [outcome, outcome, Pipeline.fetchBlob, arrived]
          rfl
  | packed announcement compressed =>
      simp only [step, outcome]
      cases Extraction.document compressed <;> rfl
  | unpacked job =>
      simp only [step, outcome, Pipeline.processPayload]
      rcases pipeline.gate job.payload job.source space with ⟨_ | _, asked⟩
      · rfl
      · dsimp only
        cases Snapshot.classify job.announcement job.payload with
        | error failure => rfl
        | ok message =>
            dsimp only
            rcases pipeline.reconcile message asked with ⟨_ | _, done⟩ <;> rfl
  | admitted job =>
      simp only [step, outcome]
      cases Snapshot.classify job.announcement job.payload <;> rfl
  | reconciling job message stage =>
      obtain ⟨sameStage, sameStore⟩ :=
        Reconciliation.step_recorded pipeline.store message stage space.store []
      rw [step, outcome_ofReconciliation, sameStage, sameStore, outcome, outcome,
        Reconciliation.run_after_step]
  | reconciled job outcome => rfl
  | ended result => rfl

theorem ended_of_rank {stage : Stage} (finished : stage.rank = 0) :
    ∃ result, stage = .ended result := by
  cases stage with
  | ended result => exact ⟨result, rfl⟩
  | _ => cases finished

/-- The steps lead to an end, which is what the work comes to without a break. -/
theorem exists_steps (pipeline : Pipeline σ) (delivery : Delivery σ) :
    ∃ steps acts, (step pipeline)^[steps] delivery =
      ⟨.ended (delivery.outcome pipeline).1, (delivery.outcome pipeline).2, acts⟩ := by
  induction rank : delivery.stage.rank using Nat.strongRecOn generalizing delivery with
  | ind rank ih =>
      rcases Nat.eq_zero_or_pos delivery.stage.rank with finished | unfinished
      · obtain ⟨stage, space, acts⟩ := delivery
        obtain ⟨result, rfl⟩ := ended_of_rank finished
        exact ⟨0, acts, rfl⟩
      · have nearer := rank_step pipeline delivery unfinished
        obtain ⟨steps, acts, reached⟩ := ih _ (rank ▸ nearer) (step pipeline delivery) rfl
        rw [outcome_step] at reached
        exact ⟨steps + 1, acts, reached⟩

end Delivery
end JarLedger
