import JarLedger.Proofs.Delivery.Traces
import JarLedger.Proofs.Duplicates.Suppression

/-!
# Documents that come again

However the work on many documents alternates, each mark in the filter is that of a document that
was applied, so a document is taken for a duplicate only after the same text was applied in the same
flow.  With what single calls leave behind, this says that only applied documents leave a trace
(`Shop.run_traced`).
-/

namespace JarLedger

/-- Whether a document was taken for a duplicate. -/
def Job.Stage.isDuplicate : Job.Stage → Bool
  | .ended (.ok .duplicate) => true
  | _ => false

theorem Job.Stage.isDuplicate_iff {stage : Job.Stage} :
    stage.isDuplicate = true ↔ stage = .ended (.ok .duplicate) := by
  rcases stage with _ | _ | _ | (_ | _ | _) <;> simp [isDuplicate]

/-- Only the last step of the work on a document touches the filter. -/
theorem Job.filter_advance {σ : Type} (pipeline : Pipeline σ) (job : Job) (stage : Job.Stage)
    (space : Workspace σ) :
    (job.advance pipeline (stage, space)).2.filter =
      match stage with
      | .applied _ =>
          space.filter.markApplied job.payload (pipeline.clock space.readings) job.source
      | _ => space.filter := by
  cases stage with
  | waiting => rw [advance_waiting]
  | admitted =>
      simp only [advance, Pipeline.reconcile]
      cases Snapshot.classify job.announcement job.payload with
      | error failure => rfl
      | ok message =>
          dsimp only
          rcases reconcile pipeline.store message space.store with ⟨_ | _, after⟩ <;> rfl
  | applied outcome => rfl
  | ended result => rfl

/-- A job is only taken for a duplicate when it asks the filter. -/
theorem Job.waiting_of_duplicate {σ : Type} {pipeline : Pipeline σ} {job : Job} {stage : Job.Stage}
    {space : Workspace σ}
    (answered : (job.advance pipeline (stage, space)).1 = .ended (.ok .duplicate)) :
    stage = .ended (.ok .duplicate) ∨
      stage = .waiting ∧ (pipeline.gate job.payload job.source space).1 = false := by
  cases stage with
  | waiting =>
      rw [advance] at answered
      rcases asked : pipeline.gate job.payload job.source space with ⟨_ | _, after⟩
      · exact .inr ⟨rfl, rfl⟩
      · rw [asked] at answered
        cases answered
  | admitted =>
      simp only [advance, Pipeline.reconcile] at answered
      cases classified : Snapshot.classify job.announcement job.payload with
      | error failure => simp [classified] at answered
      | ok message =>
          rcases made : reconcile pipeline.store message space.store with ⟨_ | _, after⟩ <;>
            simp [classified, made] at answered
  | applied outcome => simp [advance] at answered
  | ended result => exact .inl answered

namespace Shop

variable {σ : Type} {pipeline : Pipeline σ} {jobs : JobId → Job} {shop : Shop σ}

/-- The work on a document ended with the document applied. -/
def HasApplied (shop : Shop σ) (id : JobId) : Prop :=
  ∃ outcome, shop.stage id = .ended (.ok (.applied outcome))

/-- Each mark is that of a document that was applied. -/
def Vouched (jobs : JobId → Job) (shop : Shop σ) : Prop :=
  ∀ recent, shop.space.filter = .recent recent → ∀ mark ∈ recent.applied,
    ∃ id, shop.HasApplied id ∧
      mark.1 = ((jobs id).source, RecentPayloads.fingerprint (jobs id).payload)

theorem run_append (pipeline : Pipeline σ) (jobs : JobId → Job) (shop : Shop σ)
    (front back : List JobId) :
    shop.run pipeline jobs (front ++ back) =
      (shop.run pipeline jobs front).run pipeline jobs back :=
  List.foldl_append

theorem stage_advance_self (pipeline : Pipeline σ) (jobs : JobId → Job) (shop : Shop σ)
    (id : JobId) :
    (shop.advance pipeline jobs id).stage id =
      ((jobs id).advance pipeline (shop.stage id, shop.space)).1 :=
  Function.update_self ..

theorem stage_advance_of_ne (pipeline : Pipeline σ) (jobs : JobId → Job) (shop : Shop σ)
    {id other : JobId} (different : other ≠ id) :
    (shop.advance pipeline jobs id).stage other = shop.stage other :=
  Function.update_of_ne different ..

theorem HasApplied.advance {other : JobId} (applied : shop.HasApplied other)
    (pipeline : Pipeline σ) (jobs : JobId → Job) (id : JobId) :
    (shop.advance pipeline jobs id).HasApplied other := by
  obtain ⟨outcome, ended⟩ := applied
  refine ⟨outcome, ?_⟩
  by_cases same : other = id
  · subst same
    rw [stage_advance_self, ended]
    rfl
  · rw [stage_advance_of_ne pipeline jobs shop same, ended]

/-- A step of a job leaves no mark without an applied document behind it. -/
theorem Vouched.advance (vouched : shop.Vouched jobs) (pipeline : Pipeline σ) (id : JobId) :
    (shop.advance pipeline jobs id).Vouched jobs := by
  have kept (recent : RecentPayloads) (old : shop.space.filter = .recent recent) :
      ∀ mark ∈ recent.applied, ∃ other, (shop.advance pipeline jobs id).HasApplied other ∧
        mark.1 = ((jobs other).source, RecentPayloads.fingerprint (jobs other).payload) := by
    intro mark member
    obtain ⟨other, applied, same⟩ := vouched recent old mark member
    exact ⟨other, applied.advance pipeline jobs id, same⟩
  intro recent found
  rw [Shop.advance, Job.filter_advance] at found
  cases stage : shop.stage id with
  | applied outcome =>
      have applied : (shop.advance pipeline jobs id).HasApplied id := by
        refine ⟨outcome, ?_⟩
        rw [stage_advance_self, stage]
        rfl
      rw [stage] at found
      cases before : shop.space.filter with
      | acceptAll => simp [before, DuplicateFilter.markApplied] at found
      | recent earlier =>
          simp only [before, DuplicateFilter.markApplied, DuplicateFilter.recent.injEq] at found
          subst found
          exact RecentPayloads.forall_mem_markApplied
            (P := fun key => ∃ other, (shop.advance pipeline jobs id).HasApplied other ∧
              key = ((jobs other).source, RecentPayloads.fingerprint (jobs other).payload))
            (kept earlier before) ⟨id, applied, rfl⟩ _
  | _ =>
      rw [stage] at found
      exact kept recent found

theorem Vouched.run (vouched : shop.Vouched jobs) (pipeline : Pipeline σ)
    (schedule : List JobId) : (shop.run pipeline jobs schedule).Vouched jobs := by
  induction schedule generalizing shop with
  | nil => exact vouched
  | cons id rest ih => exact ih (vouched.advance pipeline id)

/-- A job that a schedule does not name stays where it is. -/
theorem stage_run_of_not_mem {id : JobId} {schedule : List JobId} (absent : id ∉ schedule) :
    (shop.run pipeline jobs schedule).stage id = shop.stage id := by
  induction schedule generalizing shop with
  | nil => rfl
  | cons next rest ih =>
      obtain ⟨different, later⟩ := not_or.mp (List.mem_cons.not.mp absent)
      exact (ih later).trans (stage_advance_of_ne pipeline jobs shop different)

/-- A job that has come to be taken for a duplicate was so when it asked the filter. -/
theorem exists_question {id : JobId} {schedule : List JobId} (waiting : shop.stage id = .waiting)
    (answered : (shop.run pipeline jobs schedule).stage id = .ended (.ok .duplicate)) :
    ∃ before after, schedule = before ++ id :: after ∧
      (shop.run pipeline jobs before).stage id = .waiting ∧
      (pipeline.gate (jobs id).payload (jobs id).source
        (shop.run pipeline jobs before).space).1 = false := by
  induction schedule using List.reverseRecOn with
  | nil =>
      rw [show shop.run pipeline jobs [] = shop from rfl, waiting] at answered
      cases answered
  | append_singleton front last ih =>
      -- Either the last step is the question, or the answer was there before it.
      rw [run_append] at answered
      have asks : (shop.run pipeline jobs front).stage id = .ended (.ok .duplicate) ∨
          last = id ∧ (shop.run pipeline jobs front).stage id = .waiting ∧
            (pipeline.gate (jobs id).payload (jobs id).source
              (shop.run pipeline jobs front).space).1 = false := by
        by_cases same : id = last
        · subst same
          change ((shop.run pipeline jobs front).advance pipeline jobs id).stage id = _ at answered
          rw [stage_advance_self] at answered
          exact (Job.waiting_of_duplicate answered).imp_right fun asks => ⟨rfl, asks⟩
        · exact .inl ((stage_advance_of_ne pipeline jobs _ same).symm.trans answered)
      rcases asks with before | ⟨rfl, asks⟩
      · obtain ⟨before, after, split, asked⟩ := ih before
        exact ⟨before, after ++ [last], by rw [split, List.append_assoc]; rfl, asked⟩
      · exact ⟨front, [], rfl, asks⟩

/-- A filter that remembers nothing but documents that were applied suppresses only what was applied
in the same flow. -/
theorem Vouched.exists_applied (vouched : shop.Vouched jobs) {texts : Set String}
    (apart : Set.InjOn RecentPayloads.fingerprint texts)
    (known : ∀ other, shop.HasApplied other → (jobs other).payload ∈ texts) {id : JobId}
    (inside : (jobs id).payload ∈ texts) {now : Int}
    (suppressed : shop.space.filter.shouldProcess (jobs id).payload now (jobs id).source = false) :
    ∃ other, shop.HasApplied other ∧ (jobs other).payload = (jobs id).payload ∧
      (jobs other).source = (jobs id).source := by
  cases filter : shop.space.filter with
  | acceptAll => simp [filter, DuplicateFilter.shouldProcess] at suppressed
  | recent recent =>
      rw [filter] at suppressed
      obtain ⟨time, member⟩ := RecentPayloads.exists_mark_of_suppressed suppressed
      obtain ⟨other, applied, same⟩ := vouched recent filter _ member
      obtain ⟨source, digest⟩ := Prod.mk.inj same
      exact ⟨other, applied, (apart inside (known other applied) digest).symm, source.symm⟩

/-- From a filter that remembers nothing on, a document is taken for a duplicate only after the same
text was applied in the same flow. -/
theorem exists_applied_of_duplicate {start : Workspace σ} {schedule : List JobId}
    (fresh : ∀ recent, start.filter = .recent recent → recent.applied = [])
    (apart : Set.InjOn RecentPayloads.fingerprint
      {text | ∃ id ∈ schedule, (jobs id).payload = text}) {id : JobId}
    (duplicate : (run pipeline jobs { space := start } schedule).stage id =
      .ended (.ok .duplicate)) :
    ∃ before after other outcome, schedule = before ++ id :: after ∧
      (run pipeline jobs { space := start } before).stage id = .waiting ∧
      (run pipeline jobs { space := start } before).stage other =
        .ended (.ok (.applied outcome)) ∧
      (jobs other).payload = (jobs id).payload ∧ (jobs other).source = (jobs id).source := by
  obtain ⟨before, after, split, waiting, suppressed⟩ := exists_question rfl duplicate
  have vouched : (run pipeline jobs { space := start } before).Vouched jobs := by
    refine Vouched.run (fun recent filter mark member => ?_) pipeline before
    rw [fresh recent filter] at member
    cases member
  -- A job that moved has had its turn, so that its text is one of those told apart.
  have known (other : JobId)
      (applied : (run pipeline jobs { space := start } before).HasApplied other) :
      (jobs other).payload ∈ {text | ∃ id ∈ schedule, (jobs id).payload = text} := by
    obtain ⟨outcome, ended⟩ := applied
    refine ⟨other, ?_, rfl⟩
    by_contra absent
    rw [split, List.mem_append] at absent
    rw [stage_run_of_not_mem fun inside => absent (.inl inside)] at ended
    cases ended
  obtain ⟨other, ⟨outcome, ended⟩, same⟩ := vouched.exists_applied apart known
    ⟨id, by simp [split], rfl⟩ suppressed
  exact ⟨before, after, other, outcome, split, waiting, ended, same⟩

/-- Between the steps of jobs no transaction is open. -/
theorem idle_advance (isolation : pipeline.store.Isolation)
    (idle : isolation.Idle shop.space.store) (jobs : JobId → Job) (id : JobId) :
    isolation.Idle (shop.advance pipeline jobs id).space.store := by
  rw [advance]
  cases shop.stage id with
  | waiting =>
      rw [Job.advance_waiting]
      exact idle
  | admitted =>
      simp only [Job.advance, Pipeline.reconcile]
      cases Snapshot.classify (jobs id).announcement (jobs id).payload with
      | error failure => exact idle
      | ok message =>
          have still := isolation.idle_reconcile idle message
          dsimp only
          rcases made : reconcile pipeline.store message shop.space.store with ⟨_ | _, after⟩
          · rwa [made] at still
          · rwa [made] at still
  | applied outcome => exact idle
  | ended result => exact idle

theorem idle_run (isolation : pipeline.store.Isolation) (idle : isolation.Idle shop.space.store)
    (jobs : JobId → Job) (schedule : List JobId) :
    isolation.Idle (shop.run pipeline jobs schedule).space.store := by
  induction schedule generalizing shop with
  | nil => exact idle
  | cons id rest ih => exact ih (idle_advance isolation idle jobs id)

/-- What is not asked of the objects has no part in the work on an announcement. -/
theorem processAnnouncement_objects (pipeline : Pipeline σ) (objects : ObjectStore)
    (envelope : String) (space : Workspace σ)
    (agree : ∀ url ∈ Delivery.urls pipeline (.unread envelope),
      objects.bytes url = pipeline.objects.bytes url) :
    { pipeline with objects }.processAnnouncement envelope space =
      pipeline.processAnnouncement envelope space := by
  have requested : { pipeline with objects }.requestedBlob envelope =
      pipeline.requestedBlob envelope := rfl
  rw [Delivery.urls_unread] at agree
  rw [Pipeline.processAnnouncement, Pipeline.processAnnouncement, requested]
  rcases wanted : pipeline.requestedBlob envelope with cause | _ | ⟨announcement, url⟩
  · rfl
  · rfl
  · rw [wanted] at agree
    have same : { pipeline with objects }.fetchBlob url = pipeline.fetchBlob url := by
      rw [Pipeline.fetchBlob, Pipeline.fetchBlob, agree url List.mem_cons_self]
    dsimp only
    rw [same]
    rfl

/-- In whatever state the work on many documents has left a pipeline, over a store that isolates its
transactions: a call for one document, or for the announcement of one, that does not apply it leaves
store and filter as they are; one that does has reconciled one message and, after the commit, made
one mark.  Only an announcement that is meant for the flow and names an address has anything
fetched, from there and once.  And only a document whose text was applied before in the same flow
was taken for a duplicate. -/
theorem run_traced (pipeline : Pipeline σ) (isolation : pipeline.store.Isolation)
    (start : Workspace σ) (idle : isolation.Idle start.store) (jobs : JobId → Job)
    (schedule : List JobId) :
    let shop := run pipeline jobs { space := start } schedule
    (∀ job : Job, ∃ acts, Delivery.Traced pipeline (.unpacked job) shop.space
      ((pipeline.processPayload job.announcement job.payload job.source shop.space).map
        announced id) acts) ∧
    (∀ objects envelope,
      let supplied := { pipeline with objects }
      (∃ acts, Delivery.Traced supplied (.unread envelope) shop.space
        (supplied.processAnnouncement envelope shop.space) acts) ∧
      ∀ others : ObjectStore, (∀ url ∈ Delivery.urls supplied (.unread envelope),
          others.bytes url = objects.bytes url) →
        { pipeline with objects := others }.processAnnouncement envelope shop.space =
          supplied.processAnnouncement envelope shop.space) ∧
    ((∀ recent, start.filter = .recent recent → recent.applied = []) →
      Set.InjOn RecentPayloads.fingerprint {text | ∃ id ∈ schedule, (jobs id).payload = text} →
      ∀ id, shop.stage id = .ended (.ok .duplicate) →
        ∃ before after other outcome, schedule = before ++ id :: after ∧
          (run pipeline jobs { space := start } before).stage id = .waiting ∧
          (run pipeline jobs { space := start } before).stage other =
            .ended (.ok (.applied outcome)) ∧
          (jobs other).payload = (jobs id).payload ∧ (jobs other).source = (jobs id).source) := by
  intro shop
  have reached : isolation.Idle shop.space.store := idle_run isolation idle jobs schedule
  refine ⟨fun job => ?_, fun objects envelope => ⟨?_, fun others agree => ?_⟩,
    fun fresh apart id duplicate => ?_⟩
  · exact Delivery.exists_traced isolation reached (.unpacked (.document job))
  · exact Delivery.exists_traced isolation reached (.unread envelope rfl)
  · exact processAnnouncement_objects { pipeline with objects } others envelope _ agree
  · exact exists_applied_of_duplicate fresh apart duplicate

/-- A machine that comes again is taken for a duplicate of the first. -/
theorem run_traced_resubmission :
    let objects : ObjectStore := ⟨fun _ => .error .crashed, fun _ => .error .crashed⟩
    let pipeline : Pipeline MemoryStore := .ofSettings {} objects (fun _ => 0) MemoryStore.store
    let start : Workspace MemoryStore :=
      { store := {}, filter := .recent (RecentPayloads.fresh 300 300) }
    MemoryStore.isolation.Idle start.store ∧
      (∀ recent, start.filter = .recent recent → recent.applied = []) ∧
      Set.InjOn RecentPayloads.fingerprint
        {text | ∃ id ∈ [0, 0, 0, 2], (resubmissions id).payload = text} ∧
      (run pipeline resubmissions { space := start } [0, 0, 0, 2]).stage 2 =
        .ended (.ok .duplicate) ∧
      ∃ before after other outcome, [0, 0, 0, 2] = before ++ 2 :: after ∧
        (run pipeline resubmissions { space := start } before).stage 2 = .waiting ∧
        (run pipeline resubmissions { space := start } before).stage other =
          .ended (.ok (.applied outcome)) ∧
        (resubmissions other).payload = (resubmissions 2).payload ∧
        (resubmissions other).source = (resubmissions 2).source := by
  intro objects pipeline start
  have idle : MemoryStore.isolation.Idle start.store := rfl
  have fresh : ∀ recent, start.filter = .recent recent → recent.applied = [] := by
    rintro recent ⟨⟩
    rfl
  have apart : Set.InjOn RecentPayloads.fingerprint
      {text | ∃ id ∈ [0, 0, 0, 2], (resubmissions id).payload = text} := by
    rintro _ ⟨first, here, rfl⟩ _ ⟨second, there, rfl⟩ _
    simp only [List.mem_cons, List.not_mem_nil, or_false, or_self_left] at here there
    rcases here with rfl | rfl <;> rcases there with rfl | rfl <;> rfl
  have duplicate : (run pipeline resubmissions { space := start } [0, 0, 0, 2]).stage 2 =
      .ended (.ok .duplicate) := Job.Stage.isDuplicate_iff.mp (by decide +kernel)
  exact ⟨idle, fresh, apart, duplicate,
    (run_traced pipeline MemoryStore.isolation start idle resubmissions [0, 0, 0, 2]).2.2 fresh
      apart 2 duplicate⟩

end Shop
end JarLedger
