import JarLedger.Pipeline
import Mathlib.Data.List.Basic
import Mathlib.Data.List.Perm.Basic

/-!
# The documents of an archive, one after the other

What a walk hands out is worked on as the documents in it would be one by one: `processEach` lists
what became of each, and `ArchiveReport.ofResults` sorts the list by success with every place once.
-/

namespace JarLedger

/-- What became of one document. -/
abbrev PayloadResult : Type := Except IngestError PayloadOutcome

namespace ArchiveReport

/-- The outcomes among results that are numbered from a place on. -/
def outcomesFrom (start : Nat) (results : List PayloadResult) : List (Nat × PayloadOutcome) :=
  (results.zipIdx start).filterMap fun entry =>
    match entry.1 with
    | .ok outcome => some (entry.2, outcome)
    | .error _ => none

/-- The failures among results that are numbered from a place on. -/
def failuresFrom (start : Nat) (results : List PayloadResult) : List (Nat × IngestError) :=
  (results.zipIdx start).filterMap fun entry =>
    match entry.1 with
    | .ok _ => none
    | .error failure => some (entry.2, failure)

/-- A report with more results, which are numbered from a place on. -/
def extended (report : ArchiveReport) (start : Nat) (results : List PayloadResult) :
    ArchiveReport :=
  { report with
    outcomes := report.outcomes ++ outcomesFrom start results
    failures := report.failures ++ failuresFrom start results }

/-- The report of results by their places. -/
def ofResults (results : List PayloadResult) : ArchiveReport := extended {} 0 results

variable {start : Nat} {results : List PayloadResult}

theorem outcomes_ofResults (results : List PayloadResult) :
    (ofResults results).outcomes = outcomesFrom 0 results := rfl

theorem failures_ofResults (results : List PayloadResult) :
    (ofResults results).failures = failuresFrom 0 results := rfl

theorem outcomesFrom_cons (result : PayloadResult) :
    outcomesFrom start (result :: results) =
      outcomesFrom start [result] ++ outcomesFrom (start + 1) results := by
  cases result <;> rfl

theorem failuresFrom_cons (result : PayloadResult) :
    failuresFrom start (result :: results) =
      failuresFrom start [result] ++ failuresFrom (start + 1) results := by
  cases result <;> rfl

theorem extended_cons (report : ArchiveReport) (result : PayloadResult) :
    report.extended start (result :: results) =
      (report.extended start [result]).extended (start + 1) results := by
  rw [extended, outcomesFrom_cons, failuresFrom_cons, ← List.append_assoc, ← List.append_assoc]
  rfl

@[simp]
theorem extended_nil (report : ArchiveReport) : report.extended start [] = report := by
  simp [extended, outcomesFrom, failuresFrom]

theorem mem_outcomes {place : Nat} {outcome : PayloadOutcome} :
    (place, outcome) ∈ (ofResults results).outcomes ↔ results[place]? = some (.ok outcome) := by
  simp only [outcomes_ofResults, outcomesFrom, List.mem_filterMap, Prod.exists,
    List.mem_zipIdx_iff_getElem?]
  constructor
  · rintro ⟨_ | found, found_at, there, ⟨⟩⟩
    exact there
  · exact fun there => ⟨_, _, there, rfl⟩

theorem mem_failures {place : Nat} {failure : IngestError} :
    (place, failure) ∈ (ofResults results).failures ↔ results[place]? = some (.error failure) := by
  simp only [failures_ofResults, failuresFrom, List.mem_filterMap, Prod.exists,
    List.mem_zipIdx_iff_getElem?]
  constructor
  · rintro ⟨found | _, found_at, there, ⟨⟩⟩
    exact there
  · exact fun there => ⟨_, _, there, rfl⟩

theorem places_outcomes (start : Nat) (results : List PayloadResult) :
    (outcomesFrom start results).map Prod.fst =
      ((results.zipIdx start).filter fun entry => entry.1.isOk).map Prod.snd := by
  induction results generalizing start with
  | nil => rfl
  | cons result results ih =>
      rw [outcomesFrom_cons, List.map_append, ih]
      cases result <;> rfl

theorem places_failures (start : Nat) (results : List PayloadResult) :
    (failuresFrom start results).map Prod.fst =
      ((results.zipIdx start).filter fun entry => !entry.1.isOk).map Prod.snd := by
  induction results generalizing start with
  | nil => rfl
  | cons result results ih =>
      rw [failuresFrom_cons, List.map_append, ih]
      cases result <;> rfl

theorem places_zipIdx (results : List PayloadResult) :
    results.zipIdx.map Prod.snd = List.range results.length := by
  rw [List.zipIdx_map_snd, List.range_eq_range']

/-- The places of results that were picked out ascend. -/
theorem ascending_places (results : List PayloadResult) (test : PayloadResult × Nat → Bool) :
    ((results.zipIdx.filter test).map Prod.snd).Pairwise (· < ·) :=
  (places_zipIdx results ▸ List.pairwise_lt_range).sublist (List.filter_sublist.map Prod.snd)

theorem ascending_outcomes (results : List PayloadResult) :
    ((ofResults results).outcomes.map Prod.fst).Pairwise (· < ·) := by
  rw [outcomes_ofResults, places_outcomes]
  exact ascending_places results _

theorem ascending_failures (results : List PayloadResult) :
    ((ofResults results).failures.map Prod.fst).Pairwise (· < ·) := by
  rw [failures_ofResults, places_failures]
  exact ascending_places results _

/-- Every place occurs once. -/
theorem perm_places (results : List PayloadResult) :
    ((ofResults results).outcomes.map Prod.fst ++ (ofResults results).failures.map Prod.fst).Perm
      (List.range results.length) := by
  rw [outcomes_ofResults, failures_ofResults, places_outcomes, places_failures,
    ← List.map_append, ← places_zipIdx]
  exact (List.filter_append_perm _ _).map Prod.snd

theorem payloadCount_ofResults (results : List PayloadResult) :
    (ofResults results).payloadCount = results.length := by
  have same := (perm_places results).length_eq
  rwa [List.length_append, List.length_map, List.length_map, List.length_range] at same

/-- Without the failures the outcomes are numbered anew. -/
theorem outcomesFrom_filter (start place : Nat) (results : List PayloadResult) :
    outcomesFrom place (results.filter Except.isOk) =
      (((outcomesFrom start results).map Prod.snd).zipIdx place).map Prod.swap := by
  induction results generalizing start place with
  | nil => rfl
  | cons result results ih =>
      rw [outcomesFrom_cons, List.map_append]
      cases result with
      | ok outcome =>
          rw [List.filter_cons_of_pos rfl, outcomesFrom_cons, ih (start + 1)]
          rfl
      | error failure =>
          rw [List.filter_cons_of_neg Bool.false_ne_true, ih (start + 1)]
          rfl

theorem failuresFrom_filter (start : Nat) (results : List PayloadResult) :
    failuresFrom start (results.filter Except.isOk) = [] := by
  induction results generalizing start with
  | nil => rfl
  | cons result results ih =>
      cases result with
      | ok outcome =>
          rw [List.filter_cons_of_pos rfl, failuresFrom_cons, ih]
          rfl
      | error failure => rw [List.filter_cons_of_neg Bool.false_ne_true, ih]

end ArchiveReport

namespace Pipeline

variable {σ : Type} {pipeline : Pipeline σ} {announcement : Announcement}

/-- Work on documents of an archive one after the other. -/
def processEach (pipeline : Pipeline σ) (announcement : Announcement) :
    List String → Workspace σ → List PayloadResult × Workspace σ
  | [], space => ([], space)
  | payload :: rest, space =>
      let done := pipeline.processPayload announcement payload .archive space
      let others := processEach pipeline announcement rest done.2
      (done.1 :: others.1, others.2)

theorem processItem_ok (report : ArchiveReport) (space : Workspace σ) (payload : String)
    (place : Nat) :
    pipeline.processItem announcement (report, space) (.ok payload, place) =
      (report.extended place [(pipeline.processPayload announcement payload .archive space).1],
        (pipeline.processPayload announcement payload .archive space).2) := by
  simp only [processItem]
  rcases pipeline.processPayload announcement payload .archive space with ⟨_ | _, after⟩ <;>
    simp [ArchiveReport.extended, ArchiveReport.outcomesFrom, ArchiveReport.failuresFrom]

theorem foldl_processItem (payloads : List String) (start : Nat) (report : ArchiveReport)
    (space : Workspace σ) :
    ((payloads.map Except.ok).zipIdx start).foldl (pipeline.processItem announcement)
        (report, space) =
      (report.extended start (pipeline.processEach announcement payloads space).1,
        (pipeline.processEach announcement payloads space).2) := by
  induction payloads generalizing start report space with
  | nil => simp [processEach]
  | cons payload rest ih =>
      rw [List.map_cons, List.zipIdx_cons, List.foldl_cons, processItem_ok, ih]
      exact Prod.ext (ArchiveReport.extended_cons report _).symm rfl

/-- Documents that a walk hands out are worked on one after the other. -/
theorem processItems_ok (payloads : List String) (space : Workspace σ) :
    pipeline.processItems announcement (payloads.map .ok) space =
      (.ofResults (pipeline.processEach announcement payloads space).1,
        (pipeline.processEach announcement payloads space).2) :=
  foldl_processItem payloads 0 {} space

theorem length_processEach (payloads : List String) (space : Workspace σ) :
    (pipeline.processEach announcement payloads space).1.length = payloads.length := by
  induction payloads generalizing space with
  | nil => rfl
  | cons payload rest ih => rw [processEach, List.length_cons, List.length_cons, ih]

/-- Where the archive came from does not matter any more. -/
theorem processEach_objects (objects : ObjectStore) (payloads : List String)
    (space : Workspace σ) :
    { pipeline with objects }.processEach announcement payloads space =
      pipeline.processEach announcement payloads space := by
  induction payloads generalizing space with
  | nil => rfl
  | cons payload rest ih =>
      rw [processEach, ih]
      rfl

end Pipeline
end JarLedger
