import JarLedger.Proofs.Duplicates.Jobs
import JarLedger.Proofs.Duplicates.Marks
import JarLedger.Proofs.Snapshot.Announced
import JarLedger.Proofs.Store.Reflection

/-!
# Suppressed documents would have changed nothing

Two shops follow one schedule, one with a filter of recent documents and one that works on
everything.  As long as nothing is removed, their stores stay the same
(`Shop.run_recent_eq_run_acceptAll`): a document is marked only after its message was settled, a
settled message goes on to show, and a message that shows changes nothing.
-/

namespace JarLedger

/-- Whether the message of a document, whatever announces it, shows in a catalogue. -/
def Catalogue.Settled (catalogue : Catalogue) (payload : String) : Prop :=
  ∀ announcement message, Snapshot.classify announcement payload = .ok message →
    catalogue.Reflects message

namespace Catalogue

variable {catalogue : Catalogue} {payload : String}

theorem reflects_announced {message : Message} (announcement : Announcement)
    (reflects : catalogue.Reflects message) :
    catalogue.Reflects (message.announced announcement) := by
  match message with
  | .newInstance (.jvm _) => exact reflects
  | .newInstance (.appServer _) => exact reflects
  | .update _ => exact reflects

/-- If the message of a document shows, so does that under any announcement. -/
theorem settled_of_reflects {announcement : Announcement} {message : Message}
    (classified : Snapshot.classify announcement payload = .ok message)
    (reflects : catalogue.Reflects message) : catalogue.Settled payload := by
  intro other found again
  rw [Snapshot.classify_announced announcement, classified] at again
  obtain rfl := Except.ok.inj again
  exact reflects_announced other reflects

theorem Settled.settle (settled : catalogue.Settled payload) (message : Message) :
    (catalogue.settle message).2.Settled payload :=
  fun announcement found classified => (settled announcement found classified).settle message

end Catalogue

namespace Job

variable {σ : Type} {job : Job} {space : Workspace MemoryStore} {ledger : Ledger}

theorem advance_waiting (pipeline : Pipeline σ) (job : Job) (space : Workspace σ) :
    job.advance pipeline (.waiting, space) =
      (if space.filter.shouldProcess job.payload (pipeline.clock space.readings) job.source then
          .admitted
        else .ended (.ok .duplicate),
        { space with readings := space.readings + 1 }) := by
  simp only [advance, Pipeline.gate]
  cases space.filter.shouldProcess job.payload (pipeline.clock space.readings) job.source <;> rfl

/-- Where a job goes from the result of its message. -/
def Stage.ofResult : Except IngestError Reconciled → Stage
  | .ok reconciled => .applied reconciled
  | .error failure => .ended (.error failure)

theorem advance_admitted_unclear (pipeline : Pipeline σ) (space : Workspace σ)
    {failure : IngestError}
    (unclear : Snapshot.classify job.announcement job.payload = .error failure) :
    job.advance pipeline (.admitted, space) = (.ended (.error failure), space) := by
  rw [advance, unclear]

/-- With the store in memory the message is settled in one step. -/
theorem advance_admitted {pipeline : Pipeline MemoryStore}
    (memory : pipeline.store = MemoryStore.store) (idle : space.store = ⟨ledger, none⟩)
    {message : Message}
    (classified : Snapshot.classify job.announcement job.payload = .ok message) :
    job.advance pipeline (.admitted, space) =
      (.ofResult (ledger.settle message).1,
        { space with store := ⟨(ledger.settle message).2, none⟩ }) := by
  rw [advance, classified]
  simp only [Pipeline.reconcile, memory, MemoryStore.reconcile_eq_settle, idle]
  cases (ledger.settle message).1 <;> rfl

/-- A step of a job whose message shows leaves the store as it is. -/
theorem store_advance_of_settled {pipeline : Pipeline MemoryStore}
    (memory : pipeline.store = MemoryStore.store) (idle : space.store = ⟨ledger, none⟩)
    (sound : ledger.Sound) (settled : ledger.catalogue.Settled job.payload) (stage : Stage) :
    (job.advance pipeline (stage, space)).2.store = ⟨ledger, none⟩ := by
  cases stage with
  | waiting =>
      rw [advance_waiting]
      exact idle
  | admitted =>
      cases classified : Snapshot.classify job.announcement job.payload with
      | error failure =>
          rw [advance_admitted_unclear pipeline space classified]
          exact idle
      | ok message =>
          rw [advance_admitted memory idle classified,
            sound.settle_of_reflects (settled _ _ classified)]
  | applied reconciled => exact idle
  | ended result => exact idle

theorem filter_advance_of_acceptAll {pipeline : Pipeline σ} {space : Workspace σ}
    (accepts : space.filter = .acceptAll) (stage : Stage) :
    (job.advance pipeline (stage, space)).2.filter = .acceptAll := by
  cases stage with
  | waiting => rw [advance_waiting]; exact accepts
  | admitted =>
      rw [advance]
      cases Snapshot.classify job.announcement job.payload with
      | error failure => exact accepts
      | ok message =>
          simp only [Pipeline.reconcile]
          cases (reconcile pipeline.store message space.store).1 <;> exact accepts
  | applied reconciled =>
      simp only [advance, Pipeline.mark, accepts]
      rfl
  | ended result => exact accepts

/-- How far a job may be in two shops of which only the first suppresses documents. -/
inductive Alike (catalogue : Catalogue) (payload : String) : Stage → Stage → Prop
  | waiting : Alike catalogue payload .waiting .waiting
  | admitted : Alike catalogue payload .admitted .admitted
  /-- The message shows from now on, so the document may be marked. -/
  | applied (reconciled : Reconciled) (settled : catalogue.Settled payload) :
      Alike catalogue payload (.applied reconciled) (.applied reconciled)
  | ended (result : Except IngestError PayloadOutcome) :
      Alike catalogue payload (.ended result) (.ended result)
  /-- The first shop suppresses the document; the second may do with it what it likes. -/
  | suppressed (stage : Stage) (settled : catalogue.Settled payload) :
      Alike catalogue payload (.ended (.ok .duplicate)) stage

theorem Alike.mono {before after : Catalogue} {payload : String} {first second : Stage}
    (grows : before.Settled payload → after.Settled payload)
    (alike : Alike before payload first second) : Alike after payload first second := by
  cases alike with
  | waiting => exact .waiting
  | admitted => exact .admitted
  | applied reconciled settled => exact .applied reconciled (grows settled)
  | ended result => exact .ended result
  | suppressed _ settled => exact .suppressed _ (grows settled)

end Job

namespace Shop

/-- The filter remembers only documents whose messages show. -/
def Remembers (texts : Set String) (catalogue : Catalogue) (filter : DuplicateFilter) : Prop :=
  ∃ recent, filter = .recent recent ∧
    ∀ mark ∈ recent.applied, ∃ payload ∈ texts,
      mark.1.2 = RecentPayloads.fingerprint payload ∧ catalogue.Settled payload

/-- Two shops hold the same ledger, and the jobs of the first that are ahead of those of the second
have nothing left to change in it. -/
structure Mirrors (texts : Set String) (jobs : JobId → Job) (ledger : Ledger)
    (checked plain : Shop MemoryStore) : Prop where
  sound : ledger.Sound
  checkedIdle : checked.space.store = ⟨ledger, none⟩
  plainIdle : plain.space.store = ⟨ledger, none⟩
  accepts : plain.space.filter = .acceptAll
  remembers : Remembers texts ledger.catalogue checked.space.filter
  alike : ∀ id,
    Job.Alike ledger.catalogue (jobs id).payload (checked.stage id) (plain.stage id)

variable {texts : Set String} {jobs : JobId → Job} {ledger : Ledger}
  {checked plain : Shop MemoryStore} {first second : Pipeline MemoryStore}

theorem Remembers.mono {before after : Catalogue} {filter : DuplicateFilter}
    (grows : ∀ payload, before.Settled payload → after.Settled payload)
    (remembers : Remembers texts before filter) : Remembers texts after filter := by
  obtain ⟨recent, rfl, known⟩ := remembers
  refine ⟨recent, rfl, fun mark member => ?_⟩
  obtain ⟨payload, inside, same, settled⟩ := known mark member
  exact ⟨payload, inside, same, grows payload settled⟩

/-- A filter suppresses only documents whose messages show. -/
theorem Remembers.settled_of_suppressed {catalogue : Catalogue} {filter : DuplicateFilter}
    (apart : Set.InjOn RecentPayloads.fingerprint texts)
    (remembers : Remembers texts catalogue filter) {payload : String} (inside : payload ∈ texts)
    {now : Int} {source : Source} (suppressed : filter.shouldProcess payload now source = false) :
    catalogue.Settled payload := by
  obtain ⟨recent, rfl, known⟩ := remembers
  obtain ⟨time, member⟩ := RecentPayloads.exists_mark_of_suppressed suppressed
  obtain ⟨other, also, same, settled⟩ := known _ member
  obtain rfl := apart inside also same
  exact settled

theorem Remembers.markApplied {catalogue : Catalogue} {filter : DuplicateFilter}
    (remembers : Remembers texts catalogue filter) {payload : String} (inside : payload ∈ texts)
    (settled : catalogue.Settled payload) (now : Int) (source : Source) :
    Remembers texts catalogue (filter.markApplied payload now source) := by
  obtain ⟨recent, rfl, known⟩ := remembers
  exact ⟨recent.markApplied payload now source, rfl,
    RecentPayloads.forall_mem_markApplied (P := fun key => ∃ payload ∈ texts,
      key.2 = RecentPayloads.fingerprint payload ∧ catalogue.Settled payload) known
      ⟨payload, inside, rfl, settled⟩ now⟩

/-- For a step of one job it is enough to look at that job. -/
theorem Mirrors.moved {after : Ledger} (mirrors : Mirrors texts jobs ledger checked plain)
    {id : JobId} {ahead behind : Job.Stage} (here : checked.stage id = ahead)
    (there : plain.stage id = behind) (sound : after.Sound)
    (grows : ∀ payload, ledger.catalogue.Settled payload → after.catalogue.Settled payload)
    (checkedIdle : ((jobs id).advance first (ahead, checked.space)).2.store = ⟨after, none⟩)
    (plainIdle : ((jobs id).advance second (behind, plain.space)).2.store = ⟨after, none⟩)
    (remembers : Remembers texts after.catalogue
      ((jobs id).advance first (ahead, checked.space)).2.filter)
    (alike : Job.Alike after.catalogue (jobs id).payload
      ((jobs id).advance first (ahead, checked.space)).1
      ((jobs id).advance second (behind, plain.space)).1) :
    Mirrors texts jobs after (checked.advance first jobs id) (plain.advance second jobs id) := by
  subst here there
  refine ⟨sound, checkedIdle, plainIdle, Job.filter_advance_of_acceptAll mirrors.accepts _,
    remembers, fun other => ?_⟩
  by_cases same : other = id
  · subst same
    simpa [advance] using alike
  · simpa [advance, Function.update_of_ne same] using (mirrors.alike other).mono (grows _)

/-- A step of one job in both shops leaves them alike. -/
theorem Mirrors.advance (apart : Set.InjOn RecentPayloads.fingerprint texts)
    (firstMemory : first.store = MemoryStore.store)
    (secondMemory : second.store = MemoryStore.store)
    (mirrors : Mirrors texts jobs ledger checked plain) {id : JobId}
    (inside : (jobs id).payload ∈ texts) :
    ∃ after,
      Mirrors texts jobs after (checked.advance first jobs id) (plain.advance second jobs id) := by
  have alike := mirrors.alike id
  generalize here : checked.stage id = ahead at alike
  generalize there : plain.stage id = behind at alike
  cases alike with
  | waiting =>
      -- Only here do the shops part: the first asks its filter, the second lets everything pass.
      refine ⟨ledger, mirrors.moved here there mirrors.sound (fun _ settled => settled) ?_ ?_ ?_ ?_⟩
      · rw [Job.advance_waiting]
        exact mirrors.checkedIdle
      · rw [Job.advance_waiting]
        exact mirrors.plainIdle
      · rw [Job.advance_waiting]
        exact mirrors.remembers
      · rw [Job.advance_waiting, Job.advance_waiting,
          if_pos (by rw [mirrors.accepts]; rfl : plain.space.filter.shouldProcess _ _ _ = true)]
        cases asked : checked.space.filter.shouldProcess (jobs id).payload
            (first.clock checked.space.readings) (jobs id).source with
        | true => exact .admitted
        | false => exact .suppressed _ (mirrors.remembers.settled_of_suppressed apart inside asked)
  | admitted =>
      cases classified : Snapshot.classify (jobs id).announcement (jobs id).payload with
      | error failure =>
          refine ⟨ledger,
            mirrors.moved here there mirrors.sound (fun _ settled => settled) ?_ ?_ ?_ ?_⟩
          · rw [Job.advance_admitted_unclear first checked.space classified]
            exact mirrors.checkedIdle
          · rw [Job.advance_admitted_unclear second plain.space classified]
            exact mirrors.plainIdle
          · rw [Job.advance_admitted_unclear first checked.space classified]
            exact mirrors.remembers
          · rw [Job.advance_admitted_unclear first checked.space classified,
              Job.advance_admitted_unclear second plain.space classified]
            exact .ended _
      | ok message =>
          -- Both shops settle the same message against the same ledger.
          have agree := mirrors.sound.settle_catalogue message
          have checkedStep := Job.advance_admitted firstMemory mirrors.checkedIdle classified
          have plainStep := Job.advance_admitted secondMemory mirrors.plainIdle classified
          have grows (payload : String) (settled : ledger.catalogue.Settled payload) :
              (ledger.settle message).2.catalogue.Settled payload := by
            have grown := settled.settle message
            rwa [agree] at grown
          refine ⟨(ledger.settle message).2,
            mirrors.moved here there (mirrors.sound.settle message) grows ?_ ?_ ?_ ?_⟩
          · rw [checkedStep]
          · rw [plainStep]
          · rw [checkedStep]
            exact mirrors.remembers.mono grows
          · rw [checkedStep, plainStep]
            dsimp only
            cases done : (ledger.settle message).1 with
            | error failure => exact .ended _
            | ok reconciled =>
                refine .applied _ (Catalogue.settled_of_reflects classified ?_)
                have shows : (ledger.catalogue.settle message).2.Reflects message :=
                  Catalogue.reflects_of_settled (by rw [agree]; exact done)
                rwa [agree] at shows
  | applied reconciled settled =>
      exact ⟨ledger, mirrors.moved here there mirrors.sound (fun _ kept => kept)
        mirrors.checkedIdle mirrors.plainIdle
        (mirrors.remembers.markApplied inside settled _ _) (.ended _)⟩
  | ended result =>
      exact ⟨ledger, mirrors.moved here there mirrors.sound (fun _ kept => kept)
        mirrors.checkedIdle mirrors.plainIdle mirrors.remembers (.ended _)⟩
  | suppressed _ settled =>
      -- The second shop may settle the message only now; by then it shows in the ledger.
      exact ⟨ledger, mirrors.moved here there mirrors.sound (fun _ kept => kept)
        mirrors.checkedIdle
        (Job.store_advance_of_settled secondMemory mirrors.plainIdle mirrors.sound settled _)
        mirrors.remembers (.suppressed _ settled)⟩

variable (first second) in
/-- However the steps of the jobs alternate, the two shops stay alike. -/
theorem Mirrors.run (apart : Set.InjOn RecentPayloads.fingerprint texts)
    (firstMemory : first.store = MemoryStore.store)
    (secondMemory : second.store = MemoryStore.store)
    (mirrors : Mirrors texts jobs ledger checked plain) (schedule : List JobId)
    (inside : ∀ id ∈ schedule, (jobs id).payload ∈ texts) :
    ∃ after,
      Mirrors texts jobs after (checked.run first jobs schedule)
        (plain.run second jobs schedule) := by
  -- The ledger that both shops hold changes from step to step.
  induction schedule generalizing ledger checked plain with
  | nil => exact ⟨ledger, mirrors⟩
  | cons id rest ih =>
      obtain ⟨next, moved⟩ := mirrors.advance apart firstMemory secondMemory
        (inside id List.mem_cons_self)
      exact ih moved fun other later => inside other (List.mem_cons_of_mem _ later)

/-- Before any job has moved, a filter that remembers nothing and one that accepts everything make
shops that are alike. -/
theorem mirrors_fresh (texts : Set String) (jobs : JobId → Job) (sound : ledger.Sound)
    (singleBlobWindow archiveWindow : Int) :
    Mirrors texts jobs ledger
      { space := {
          store := ⟨ledger, none⟩
          filter := .recent (RecentPayloads.fresh singleBlobWindow archiveWindow) } }
      { space := { store := ⟨ledger, none⟩, filter := .acceptAll } } where
  sound := sound
  checkedIdle := rfl
  plainIdle := rfl
  accepts := rfl
  remembers := ⟨_, rfl, fun _ member => absurd member List.not_mem_nil⟩
  alike _ := .waiting

/-- From any state of a store in memory, with any windows and any clocks, suppressing recent
documents leaves the store as working on all of them does, after every step of a schedule. -/
theorem run_recent_eq_run_acceptAll (past : List Errand) (settings : Settings)
    (objects : ObjectStore) (clock other : Nat → Int) (singleBlobWindow archiveWindow : Int)
    (jobs : JobId → Job) (schedule : List JobId)
    (apart : Set.InjOn RecentPayloads.fingerprint
      {text | ∃ id ∈ schedule, (jobs id).payload = text}) (steps : Nat) :
    (run (.ofSettings settings objects clock MemoryStore.store) jobs
        { space := {
            store := (Errand.serveAll MemoryStore.store past {}).2
            filter := .recent (RecentPayloads.fresh singleBlobWindow archiveWindow) } }
        (schedule.take steps)).space.store =
      (run (.ofSettings settings objects other MemoryStore.store) jobs
        { space := {
            store := (Errand.serveAll MemoryStore.store past {}).2
            filter := .acceptAll } }
        (schedule.take steps)).space.store := by
  obtain ⟨ledger, sound, served, -⟩ := Ledger.Sound.serveAll_eq Ledger.sound_empty past
  have begun : (Errand.serveAll MemoryStore.store past {}).2 = ⟨ledger, none⟩ :=
    congrArg Prod.snd served
  rw [begun]
  let checked : Pipeline MemoryStore := .ofSettings settings objects clock MemoryStore.store
  let plain : Pipeline MemoryStore := .ofSettings settings objects other MemoryStore.store
  obtain ⟨after, reached⟩ := (mirrors_fresh _ jobs sound singleBlobWindow archiveWindow).run
    checked plain apart rfl rfl (schedule.take steps)
    fun id member => ⟨id, List.mem_of_mem_take member, rfl⟩
  rw [reached.checkedIdle, reached.plainIdle]

/-- A machine without jars, an update with one, and both of them again. -/
def resubmissions : JobId → Job :=
  let announcement : Announcement :=
    { accountId := none, orgId := "o", contentType := "t", url := none
      timestamp := default, requestId := none, isRuntimes := false }
  let machine := "\x7b\"idHash\":\"k\"," ++
    "\"basic\":\x7b\"system.hostname\":\"h\",\"jvm.report_time\":1\x7d\x7d"
  let update := "\x7b\"updated-jars\":\x7b\"idHash\":\"k\",\"jars\":[\"b\"]\x7d\x7d"
  fun
    | 0 => ⟨announcement, machine, .singleBlob⟩
    | 1 => ⟨announcement, update, .archive⟩
    | 2 => ⟨announcement, machine, .singleBlob⟩
    | _ => ⟨announcement, update, .archive⟩

/-- The update begins before the machine is marked, and the second machine before the update is. -/
def resubmissionSchedule : List JobId := [0, 0, 1, 0, 2, 1, 2, 1, 3, 2, 3, 3]

/-- The second machine is suppressed, and nothing is missing from the store. -/
theorem run_resubmissions :
    let checked : Shop MemoryStore :=
      { space := {
          store := (Errand.serveAll MemoryStore.store [] {}).2
          filter := .recent (RecentPayloads.fresh 300 300) } }
    let plain : Shop MemoryStore :=
      { space := { store := (Errand.serveAll MemoryStore.store [] {}).2, filter := .acceptAll } }
    let objects : ObjectStore := ⟨fun _ => .error .crashed, fun _ => .error .crashed⟩
    let pipeline : Pipeline MemoryStore := .ofSettings {} objects (fun _ => 0) MemoryStore.store
    Set.InjOn RecentPayloads.fingerprint
        {text | ∃ id ∈ resubmissionSchedule, (resubmissions id).payload = text} ∧
      ((checked.run pipeline resubmissions (resubmissionSchedule.take 5)).stage 2 matches
        .ended (.ok .duplicate)) ∧
      (checked.run pipeline resubmissions (resubmissionSchedule.take 12)).space.store =
        (plain.run pipeline resubmissions (resubmissionSchedule.take 12)).space.store := by
  have digests : RecentPayloads.fingerprint (resubmissions 0).payload ≠
      RecentPayloads.fingerprint (resubmissions 1).payload := by decide +kernel
  have apart : Set.InjOn RecentPayloads.fingerprint
      {text | ∃ id ∈ resubmissionSchedule, (resubmissions id).payload = text} := by
    refine (Set.injOn_pair.mpr fun same => absurd same digests).mono ?_
    rintro text ⟨id, -, rfl⟩
    match id with
    | 0 | 2 => exact .inl rfl
    | 1 | _ + 3 => exact .inr rfl
  exact ⟨apart, by decide +kernel,
    run_recent_eq_run_acceptAll [] {} _ _ _ 300 300 resubmissions resubmissionSchedule apart 12⟩

end Shop

end JarLedger
