import JarLedger.Proofs.SortedMap
import JarLedger.Proofs.Sql.Asking
import JarLedger.Sql.Store
import JarLedger.Store.Ledger

/-!
# What a server reads back

The tables hold an instance as a row of its own, a row for each of its jars and each jar of its
modules, and a row for each jar of each deployment; a deployment without jars has one row too.  A
server may hand them out in any order.  The same instance is read from them (`find_eq_of_keeps`),
and under each name are the jars of all deployments of that name
(`holds_deploymentsOfRows_joined`).
-/

namespace JarLedger

/-- Hashes of jars stand under a name. -/
def SortedMap.Holds (sets : SortedMap StringSet) (name hash : String) : Prop :=
  ∃ hashes, sets.get? name = some hashes ∧ hashes.contains hash = true

/-- Sets of hashes under the same names, with the same members, are equal. -/
theorem SortedMap.ext_holds {left right : SortedMap StringSet}
    (names : ∀ name, left.contains name = right.contains name)
    (hashes : ∀ name hash, left.Holds name hash ↔ right.Holds name hash) : left = right := by
  refine SortedMap.ext_get? fun name => ?_
  have present := names name
  rw [contains, contains] at present
  cases here : left.get? name with
  | none =>
      cases there : right.get? name with
      | none => rfl
      | some others => simp [here, there] at present
  | some members =>
      cases there : right.get? name with
      | none => simp [here, there] at present
      | some others =>
          refine congrArg some (StringSet.ext_contains fun hash => ?_)
          have same := hashes name hash
          simpa [Holds, here, there, ← Bool.eq_iff_iff] using same

/-! ## Work that succeeds -/

namespace SqlWork

variable {σ α β : Type}

/-- With a peer in a state of a kind, work succeeds with a value of a kind, and leaves the peer in
such a state. -/
def Yields (idle : σ → Prop) (kind : α → Prop) (work : SqlWork σ α) : Prop :=
  ∀ connection : Connection σ, idle connection.peer →
    ∃ value after, work connection = (.ok value, after) ∧ kind value ∧ idle after.peer

namespace Yields

variable {idle : σ → Prop} {kind : α → Prop} {other : β → Prop}

theorem pure {value : α} (right : kind value) : Yields idle kind (pure value : SqlWork σ α) :=
  fun connection quiet => ⟨value, connection, rfl, right, quiet⟩

theorem bind {work : SqlWork σ α} {next : α → SqlWork σ β} (first : Yields idle kind work)
    (later : ∀ value, kind value → Yields idle other (next value)) :
    Yields idle other (work >>= next) := by
  intro connection quiet
  obtain ⟨value, between, came, right, still⟩ := first connection quiet
  rw [bind_eq, came]
  exact later value right between still

end Yields
end SqlWork

namespace Sql

open SqlWork

variable {σ : Type}

/-- A peer in a state of a kind answers a statement with rows in some order, and stays so. -/
def Answers (peer : Peer σ) (idle : σ → Prop) (statement : Statement)
    (rows : List (List SqlValue)) : Prop :=
  ∀ state, idle state → ∃ reply after, peer statement state = (.ok reply, after) ∧
    reply.rows.Perm rows ∧ idle after

section Answers

variable {peer : Peer σ} {idle : σ → Prop} {words : String} {value : SqlValue}

theorem yields_query {rows : List (List SqlValue)}
    (answers : Answers peer idle (.plain words [value]) rows) :
    Yields idle (fun reply => reply.rows.Perm rows)
      (Connection.query peer (.plain words [value])) := by
  intro connection quiet
  obtain ⟨reply, after, came, same, still⟩ := answers connection.peer quiet
  have few : ¬bindLimit < (Statement.plain words [value]).parameters.length := by
    simp [Statement.parameters, bindLimit]
  rw [Connection.query, Connection.ask, if_neg few]
  simp only [came]
  exact ⟨_, _, rfl, same, still⟩

/-- Rows that can be read are read in the order in which they come. -/
theorem yields_queryRows {α : Type} {read : List SqlValue → Option α} {write : α → List SqlValue}
    (inverse : ∀ item, read (write item) = some item) {items : List α}
    (answers : Answers peer idle (.plain words [value]) (items.map write)) :
    Yields idle (fun found => found.Perm items) (queryRows peer words value read) := by
  refine (yields_query answers).bind fun reply same => ?_
  -- The rows that came are written from the same items in the order in which they came.
  have ordered : ∃ found : List α, reply.rows = found.map write ∧ found.Perm items := by
    have composed := congrFun (congrFun (List.eq_map_comp_perm write) reply.rows) items
    exact composed.mpr same
  obtain ⟨found, rows, perm⟩ := ordered
  have readAll : (found.map write).mapM read = some found := by
    clear rows perm
    induction found with
    | nil => rfl
    | cons item rest ih => simp [List.mapM_cons, inverse, ih]
  rw [rows, readAll]
  exact .pure perm

end Answers

/-! ## The rows of an instance -/

/-- The row of an instance, and what the server tells as the time of its creation. -/
def summaryRow (id : Int) (created : Instant) (new : Instance) : List SqlValue :=
  [.int id, .text new.kind.name, .text new.linkingHash, .text new.machine.orgId,
    optionalText new.machine.accountId, .time created, .text new.machine.hostname,
    .int new.machine.launchTime.toInt, optionalText new.serverVersion]

def hashRow (hash : String) : List SqlValue := [.text hash]

/-- A row of a deployment and one of its jars, or none. -/
def deploymentRow (row : String × Option String) : List SqlValue :=
  [.text row.1, optionalText row.2]

/-- Deployments joined with their jars; one without jars is joined with nothing. -/
def joined (deployments : List Deployment) : List (String × Option String) :=
  deployments.flatMap fun deployment =>
    match deployment.jars.keys with
    | [] => [(deployment.name, none)]
    | hashes => hashes.map fun hash => (deployment.name, some hash)

/-- A peer that is idle answers what is asked about an instance from the rows that stand for it, in
any order. -/
structure Keeps (peer : Peer σ) (idle : σ → Prop) (id : Int) (created : Instant) (new : Instance)
    (direct : StringSet) : Prop where
  summary : Answers peer idle (.plain summaryText [.text new.linkingHash])
    [summaryRow id created new]
  direct : Answers peer idle (.plain (linkedText "instance_jar_hash") [.int id])
    (direct.keys.map hashRow)
  modules : Answers peer idle (.plain (linkedText "app_server_module_jar_hash") [.int id])
    (new.moduleJars.keys.map hashRow)
  deployments : Answers peer idle (.plain deploymentText [.int id])
    ((joined new.deployments).map deploymentRow)

/-- The rows of one instance, the last ones first. -/
def cabinet (id : Int) (created : Instant) (new : Instance) (direct : StringSet) :
    Peer Unit := fun statement state =>
  let rows : List (List SqlValue) :=
    match statement with
    | .plain words [.text linkingHash] =>
        if words = summaryText ∧ linkingHash = new.linkingHash then [summaryRow id created new]
        else []
    | .plain words [.int number] =>
        if number ≠ id then []
        else if words = linkedText "instance_jar_hash" then direct.keys.map hashRow
        else if words = linkedText "app_server_module_jar_hash" then
          new.moduleJars.keys.map hashRow
        else if words = deploymentText then (joined new.deployments).map deploymentRow
        else []
    | _ => []
  (.ok { rows := rows.reverse }, state)

/-- Any instance can be kept. -/
theorem keeps_cabinet (id : Int) (created : Instant) (new : Instance) (direct : StringSet) :
    Keeps (cabinet id created new direct) (fun _ => True) id created new direct := by
  have modules : linkedText "app_server_module_jar_hash" ≠ linkedText "instance_jar_hash" := by
    decide +kernel
  have first : deploymentText ≠ linkedText "instance_jar_hash" := by decide +kernel
  have second : deploymentText ≠ linkedText "app_server_module_jar_hash" := by decide +kernel
  refine ⟨?_, ?_, ?_, ?_⟩ <;> intro state _ <;> refine ⟨_, _, rfl, ?_, trivial⟩
  · simp
  · simp
  · simp [modules]
  · simp [first, second]

theorem optionalText?_optionalText (text : Option String) :
    optionalText? (optionalText text) = some text := by
  cases text <;> rfl

theorem kindOf_name (kind : InstanceKind) : kindOf kind.name = .ok kind := by
  cases kind <;> decide

theorem ofRow?_summaryRow (id : Int) (created : Instant) (new : Instance) :
    Summary.ofRow? (summaryRow id created new) = some {
      id
      kindName := new.kind.name
      linkingHash := new.linkingHash
      orgId := new.machine.orgId
      accountId := new.machine.accountId
      created
      hostname := new.machine.hostname
      launchTime := new.machine.launchTime.toInt
      serverVersion := new.serverVersion } := by
  simp [Summary.ofRow?, summaryRow, optionalText?_optionalText, SqlValue.int?, SqlValue.text?,
    time?]

theorem deploymentOfRow?_deploymentRow (row : String × Option String) :
    deploymentOfRow? (deploymentRow row) = some row := by
  simp [deploymentOfRow?, deploymentRow, optionalText?_optionalText, SqlValue.text?]

theorem hashOfRow?_hashRow (hash : String) : hashOfRow? (hashRow hash) = some hash := rfl

/-- Whatever the order of the rows, the instance is read back with all that it was written with,
with the time that the server tells, and with what stands in the rows of its deployments. -/
theorem yields_find {peer : Peer σ} {idle : σ → Prop} {id : Int} {created : Instant}
    {new : Instance} {direct : StringSet} (keeps : Keeps peer idle id created new direct) :
    Yields idle
      (fun found => ∃ rows, rows.Perm (joined new.deployments) ∧
        found = some { Ledger.view id ⟨new, direct⟩ with
          created, deploymentJars := deploymentsOfRows rows })
      (find peer new.linkingHash) := by
  refine (yields_query keeps.summary).bind fun reply same => ?_
  rw [List.perm_singleton.mp same]
  simp only [List.head?_cons, ofRow?_summaryRow]
  refine (yields_queryRows hashOfRow?_hashRow keeps.direct).bind fun jars own => ?_
  refine (yields_queryRows hashOfRow?_hashRow keeps.modules).bind fun moduleJars other => ?_
  refine (yields_queryRows deploymentOfRow?_deploymentRow keeps.deployments).bind
    fun rows order => ?_
  have modules : StringSet.ofList moduleJars = new.moduleJars.hashes :=
    StringSet.ofList_of_perm (by rwa [JarSet.hashes, SortedMap.keys_map])
  simp only [storedOf, kindOf_name, StringSet.ofList_of_perm own, modules, Int64.ofInt_toInt]
  exact .pure ⟨rows, order, rfl⟩

/-- What a server reads back is determined up to the order of the rows of the deployments. -/
theorem find_eq_of_keeps {peer : Peer σ} {idle : σ → Prop} {id : Int} {created : Instant}
    {new : Instance} {direct : StringSet} (keeps : Keeps peer idle id created new direct)
    {connection : Connection σ} (quiet : idle connection.peer) :
    ∃ rows, rows.Perm (joined new.deployments) ∧
      ((store peer).find new.linkingHash connection).1 =
        .ok (some { Ledger.view id ⟨new, direct⟩ with
          created, deploymentJars := deploymentsOfRows rows }) := by
  obtain ⟨_, after, read, ⟨rows, order, rfl⟩, -⟩ := yields_find keeps connection quiet
  exact ⟨rows, order, congrArg Prod.fst read⟩

/-! ## The deployments in the rows -/

theorem mem_joined_some_iff {deployments : List Deployment} {name hash : String} :
    (name, some hash) ∈ joined deployments ↔
      ∃ deployment ∈ deployments, deployment.name = name ∧
        deployment.jars.contains hash = true := by
  rw [joined, List.mem_flatMap]
  refine exists_congr fun deployment => and_congr_right fun _ => ?_
  -- A deployment without jars has a row, but none with a hash.
  rw [← SortedMap.mem_keys]
  cases deployment.jars.keys with
  | nil => simp
  | cons first rest =>
      rw [List.mem_map]
      constructor
      · rintro ⟨found, inside, same⟩
        obtain ⟨named, hashed⟩ := Prod.mk.inj same
        exact ⟨named, Option.some.inj hashed ▸ inside⟩
      · rintro ⟨rfl, inside⟩
        exact ⟨hash, inside, rfl⟩

theorem exists_mem_joined_iff {deployments : List Deployment} {name : String} :
    (∃ hash, (name, hash) ∈ joined deployments) ↔
      ∃ deployment ∈ deployments, deployment.name = name := by
  simp only [joined, List.mem_flatMap]
  rw [exists_comm]
  refine exists_congr fun deployment => ?_
  rw [exists_and_left]
  refine and_congr_right fun _ => ?_
  cases deployment.jars.keys with
  | nil => simp [eq_comm]
  | cons first rest =>
      constructor
      · rintro ⟨hash, member⟩
        obtain ⟨_, -, same⟩ := List.mem_map.mp member
        exact congrArg Prod.fst same
      · rintro rfl
        exact ⟨some first, by simp⟩

theorem contains_noteDeployment (sets : SortedMap StringSet) (row : String × Option String)
    (name : String) :
    (noteDeployment sets row).contains name = true ↔
      sets.contains name = true ∨ ∃ hash, row = (name, hash) := by
  rw [noteDeployment, SortedMap.contains, SortedMap.get?_insert]
  by_cases same : name = row.1
  · rw [if_pos same]
    exact iff_of_true rfl (.inr ⟨row.2, by rw [same]⟩)
  · rw [if_neg same]
    refine (or_iff_left ?_).symm
    rintro ⟨hash, rfl⟩
    exact same rfl

theorem holds_noteDeployment (sets : SortedMap StringSet) (row : String × Option String)
    (name hash : String) :
    (noteDeployment sets row).Holds name hash ↔
      sets.Holds name hash ∨ row = (name, some hash) := by
  obtain ⟨noted, found⟩ := row
  simp only [SortedMap.Holds, noteDeployment, SortedMap.get?_insert]
  by_cases same : name = noted
  · subst same
    cases found with
    | none => cases sets.get? name <;> simp [StringSet.ofList, SortedMap.contains]
    | some extra =>
        have row : (name, some extra) = (name, some hash) ↔ hash = extra := by
          rw [Prod.mk.injEq, Option.some.injEq, and_iff_right rfl, eq_comm]
        simp only [if_true, Option.some.injEq, exists_eq_left', StringSet.contains_insert, row]
        cases sets.get? name <;> simp [StringSet.contains_ofList, or_comm]
  · simp [same, Ne.symm same]

theorem deploymentsOfRows_append (rows : List (String × Option String))
    (last : String × Option String) :
    deploymentsOfRows (rows ++ [last]) = noteDeployment (deploymentsOfRows rows) last := by
  rw [deploymentsOfRows, List.foldl_append]
  rfl

theorem contains_deploymentsOfRows (rows : List (String × Option String)) (name : String) :
    (deploymentsOfRows rows).contains name = true ↔ ∃ hash, (name, hash) ∈ rows := by
  induction rows using List.reverseRecOn with
  | nil => exact iff_of_false (Bool.false_ne_true) (by simp)
  | append_singleton rows last ih =>
      rw [deploymentsOfRows_append, contains_noteDeployment, ih, ← exists_or]
      simp [eq_comm]

theorem holds_deploymentsOfRows (rows : List (String × Option String)) (name hash : String) :
    (deploymentsOfRows rows).Holds name hash ↔ (name, some hash) ∈ rows := by
  induction rows using List.reverseRecOn with
  | nil => exact iff_of_false (by simp [SortedMap.Holds, deploymentsOfRows]) List.not_mem_nil
  | append_singleton rows last ih =>
      rw [deploymentsOfRows_append, holds_noteDeployment, ih]
      simp [eq_comm]

section Joined

variable {rows : List (String × Option String)} {deployments : List Deployment}

/-- Rows of deployments in any order have the names of the deployments. -/
theorem contains_deploymentsOfRows_joined (order : rows.Perm (joined deployments))
    (name : String) :
    (deploymentsOfRows rows).contains name = true ↔
      ∃ deployment ∈ deployments, deployment.name = name := by
  simp only [contains_deploymentsOfRows, order.mem_iff, exists_mem_joined_iff]

/-- Rows of deployments in any order have under a name the jars of all deployments of that name. -/
theorem holds_deploymentsOfRows_joined (order : rows.Perm (joined deployments))
    (name hash : String) :
    (deploymentsOfRows rows).Holds name hash ↔
      ∃ deployment ∈ deployments, deployment.name = name ∧
        deployment.jars.contains hash = true := by
  rw [holds_deploymentsOfRows, order.mem_iff, mem_joined_some_iff]

end Joined

end Sql
end JarLedger
