import JarLedger.Proofs.Sql.FailStop
import JarLedger.Proofs.Sql.Writing

/-!
# What is written is a copy of the graph

With a server that accepts everything and numbers what it is given as it likes, writing an instance
sends the rows of the instance under the numbers of the server: no row is missing, none is sent
twice, and each points to the row that it belongs to (`Sql.writeInstance_copies`).  This holds of
the instances that fit; the others are not written at all.
-/

namespace JarLedger

/-- A log tells that the rows of an instance were sent under the numbers that were given. -/
structure IsCopy (new : Instance) (numbering : Graph.Numbering) (log : List SqlExchange) :
    Prop where
  rows : log.flatMap SqlExchange.rows = Graph.rows numbering new
  numbers : log.filterMap SqlExchange.number? = Graph.given numbering new
  jars : (log.flatMap SqlExchange.jarNumbers).Perm
    (new.allJars.keys.map fun hash => (hash, numbering.jar hash))
  covers : numbering.Covers new
  full : ∀ exchange ∈ log, exchange.IsFull

namespace Sql

open SqlWork JarLedger.Graph

/-! ## Parts of an instance -/

section Parts

variable {σ : Type} {peer : Peer σ} (honours : peer.Honours) {sent : List Row}
  {numbers jars : List (String × Int)}
include honours

theorem writes_writeDeployment {ids : JarIds} {number : String → Int} {deployment : Deployment}
    (knows : Knows ids number deployment.jars) (configurationId : Int) :
    Writes (Tells sent numbers jars)
      (writeDeployment peer.recorded ids configurationId deployment) fun _ log =>
        ∃ id, Tells (sent ++ deploymentRow configurationId deployment ::
          deploymentLinks number (deployment, id)) (numbers ++ [("app_server_deployment", id)])
            jars log := by
  refine (writes_insertForId honours (List.cons_ne_nil _ _) rfl).bind fun id => ?_
  refine .discard ((writes_linkSet honours _ _ _ knows).weaken fun _ log tells => ⟨id, ?_⟩)
  rw [List.append_assoc] at tells
  exact tells

theorem writes_writeExtension (configurationId : Int) (extension : Extension) :
    Writes (Tells sent numbers jars) (writeExtension peer.recorded configurationId extension)
      fun _ log => ∃ id, Tells (sent ++ extensionRow configurationId extension ::
        extensionSubsystems (extension, id)) (numbers ++ [("app_server_extension", id)])
          jars log := by
  refine (writes_insertForId honours (List.cons_ne_nil _ _) rfl).bind fun id => ?_
  have rows : (extensionSubsystemInsert id extension.subsystems).records =
      extension.subsystems.map (extensionSubsystemRow id) := List.map_map ..
  refine (writes_insert_all honours rows rfl).weaken fun _ log tells => ⟨id, ?_⟩
  rw [List.append_assoc] at tells
  exact tells

omit honours in
/-- Things that are written one after the other, each with rows of its own and a number. -/
theorem writes_families {α : Type} {work : α → SqlWork (σ × List SqlExchange) PUnit}
    {items : List α} (table : String) (family : α × Int → List Row)
    (one : ∀ item ∈ items, ∀ sent numbers, Writes (Tells sent numbers jars) (work item)
      fun _ log => ∃ id,
        Tells (sent ++ family (item, id)) (numbers ++ [(table, id)]) jars log) :
    Writes (Tells sent numbers jars) (items.forM work) fun _ log =>
      ∃ found : List Int, found.length = items.length ∧
        Tells (sent ++ (items.zip found).flatMap family) (numbers ++ found.map (Prod.mk table))
          jars log := by
  let invariant (past : List α) (log : List SqlExchange) : Prop :=
    ∃ found : List Int, found.length = past.length ∧
      Tells (sent ++ (past.zip found).flatMap family) (numbers ++ found.map (Prod.mk table))
        jars log
  have each (past : List α) (item : α) (member : item ∈ items) :
      Writes (invariant past) (work item) fun _ => invariant (past ++ [item]) := by
    refine .intro fun found => .assuming fun length => (one item member _ _).weaken ?_
    rintro _ log ⟨id, tells⟩
    refine ⟨found ++ [id], by simp [length], ?_⟩
    rw [List.zip_append length.symm, List.flatMap_append, List.map_append, ← List.append_assoc,
      ← List.append_assoc]
    simpa using tells
  intro connection holds
  have start : invariant [] connection.peer.2 := ⟨[], rfl, by simpa using holds⟩
  exact Writes.forM each [] connection start

theorem writes_writeConfiguration {ids : JarIds} {number : String → Int}
    {configuration : Configuration}
    (knows : ∀ deployment ∈ configuration.deployments, Knows ids number deployment.jars)
    (machine : Int) :
    Writes (Tells sent numbers jars)
      (writeConfiguration peer.recorded ids machine configuration) fun _ log =>
        ∃ numbering : Numbering, numbering.machine = machine ∧ numbering.jar = number ∧
          (numbering.deployments.length = configuration.deployments.length ∧
            numbering.extensions.length = configuration.extensions.length) ∧
          Tells (sent ++ configurationRows numbering configuration)
            (numbers ++ ("app_server_configuration", numbering.configuration) ::
              (numbering.deployments.map (Prod.mk "app_server_deployment") ++
                numbering.extensions.map (Prod.mk "app_server_extension"))) jars log := by
  refine (writes_insertForId honours (List.cons_ne_nil _ _) rfl).bind fun id => ?_
  let deploymentFamily (entry : Deployment × Int) : List Row :=
    deploymentRow id entry.1 :: deploymentLinks number entry
  refine (writes_families "app_server_deployment" deploymentFamily
    fun deployment member _ _ => writes_writeDeployment honours (knows deployment member) id).bind
      fun _ => .intro fun deployments => .assuming fun deploymentsLength => ?_
  let extensionFamily (entry : Extension × Int) : List Row :=
    extensionRow id entry.1 :: extensionSubsystems entry
  refine (writes_families "app_server_extension" extensionFamily
    fun extension _ _ _ => writes_writeExtension honours id extension).bind
      fun _ => .intro fun extensions => .assuming fun extensionsLength => ?_
  let numbering : Numbering := ⟨machine, id, deployments, extensions, number⟩
  have rows : (subsystemInsert id configuration.subsystems.entries).records =
      configuration.subsystems.entries.map (subsystemRow id) := List.map_map ..
  refine (writes_insert_all honours rows rfl).weaken fun _ log tells =>
    ⟨numbering, rfl, rfl, ⟨deploymentsLength, extensionsLength⟩, ?_⟩
  rw [configurationRows]
  simp only [List.append_assoc] at tells ⊢
  exact tells

/-- The rows of an instance that are written after its jars, and the numbers that they are given. -/
theorem writes_writeServer {ids : JarIds} {number : String → Int} {server : AppServer}
    (knows : Knows ids number server.allJars) (machine : Int) :
    Writes (Tells sent numbers jars) (writeServer peer.recorded ids machine server) fun _ log =>
      ∃ numbering : Numbering, numbering.machine = machine ∧ numbering.jar = number ∧
        numbering.Covers (.appServer server) ∧
        Tells (sent ++ serverRows numbering (.appServer server) ++
            (server.configuration.map (configurationRows numbering)).getD [])
          (numbers ++ (given numbering (.appServer server)).tail) jars log := by
  have whole (hash : String) := (server.contains_allJars_iff hash).mpr
  have modules : Knows ids number server.moduleJars := fun hash present =>
    knows hash (whole hash (.inr (.inl present)))
  have deployed : ∀ deployment ∈ server.deployments, Knows ids number deployment.jars :=
    fun deployment member hash present =>
      knows hash (whole hash (.inr (.inr ⟨deployment, member, present⟩)))
  refine .bind (.discard (writes_insert_silent honours (List.cons_ne_nil _ _) rfl)) fun _ => ?_
  refine .bind (.discard (writes_linkSet honours _ _ _ modules)) fun _ => ?_
  cases present : server.configuration with
  | none =>
      refine .pure fun log tells => ⟨⟨machine, 0, [], [], number⟩, rfl, rfl, ?_, ?_⟩
      · intro configuration same
        cases present.symm.trans same
      · rw [given, Instance.configuration?, present]
        simp only [List.append_assoc, Option.map_none, Option.getD_none, List.append_nil,
          List.tail_cons] at tells ⊢
        exact tells
  | some configuration =>
      rw [AppServer.deployments, present] at deployed
      refine (writes_writeConfiguration honours deployed machine).weaken ?_
      rintro _ log ⟨numbering, rfl, rfl, lengths, tells⟩
      refine ⟨numbering, rfl, rfl, ?_, ?_⟩
      · intro other same
        cases present.symm.trans same
        exact lengths
      · rw [given, Instance.configuration?, present]
        simp only [List.append_assoc, Option.map_some, Option.getD_some, List.tail_cons]
          at tells ⊢
        exact tells

theorem writes_writeInstance (new : Instance) :
    Writes (Tells [] [] []) (writeInstance peer.recorded new) fun id log =>
      ∃ numbering : Numbering, numbering.machine = id ∧ IsCopy new numbering log := by
  refine (writes_insertMachine honours _ _).bind fun id => ?_
  refine (writes_upsertJars honours new.allJars).bind fun ids => .intro fun number =>
    .assuming fun knows => .intro fun given => .assuming fun order => ?_
  have direct : Knows ids number new.machine.jars := fun hash present => knows hash (by
    rw [Instance.contains_allJars, present]
    rfl)
  refine (Writes.discard (writes_linkSet honours _ _ id direct)).bind fun _ => ?_
  cases new with
  | jvm machine =>
      refine .pure fun log tells => ⟨⟨id, 0, [], [], number⟩, rfl, ?_⟩
      exact {
        rows := by
          rw [tells.rows, Graph.rows, serverRows, Instance.configuration?, Option.map_none,
            Option.getD_none, List.append_nil, List.append_nil]
        numbers := tells.numbers
        jars := by rw [tells.jars]; exact order
        covers := fun configuration present => absurd present (Option.not_mem_none configuration)
        full := tells.full }
  | appServer server =>
      refine (writes_writeServer honours knows id).bind fun _ => .pure fun log => ?_
      rintro ⟨numbering, rfl, rfl, covers, tells⟩
      exact ⟨numbering, rfl, {
        rows := by rw [tells.rows, Graph.rows, Instance.configuration?, List.append_assoc]
        numbers := tells.numbers
        jars := by rw [tells.jars]; exact order
        covers
        full := tells.full }⟩

end Parts

/-- Keeping a log makes no difference to the work on an instance, and the log is what was said in
one dialogue, whatever the peer. -/
theorem exists_dialogue_writeInstance (new : Instance) :
    ∃ dialogue : Dialogue (Except PersistenceError Int),
      ∀ (σ : Type) (peer : Peer σ) (connection : Connection σ),
        let written := writeInstance peer new connection
        let logged := writeInstance peer.recorded new connection.recording
        logged.1 = written.1 ∧
          logged.2.peer.2 = (dialogue.heldWith peer connection.peer).transcript ∧
          written.2.sent =
            (logged.2.peer.2.map SqlExchange.statement).reverse ++ connection.sent :=
  (staysInside_writeInstance new).exists_dialogue

section Outcome

variable {σ : Type} {peer : Peer σ} (honours : peer.Honours) (new : Instance)
  (connection : Connection σ)
include honours

/-- On a new log an instance is copied, or a statement has too many values. -/
theorem writeInstance_outcome :
    let logged := writeInstance peer.recorded new connection.recording
    (∃ numbering : Numbering, logged.1 = .ok numbering.machine ∧
        IsCopy new numbering logged.2.peer.2) ∨
      logged.1 = .error .database ∧ ∃ statement ∈ logged.2.asked, ¬statement.IsSendable := by
  rcases writes_writeInstance honours new connection.recording ⟨rfl, rfl, rfl, nofun⟩ with
    ⟨_, succeeded, numbering, rfl, isCopy⟩ | stopped
  · exact .inl ⟨numbering, succeeded, isCopy⟩
  · exact .inr stopped

/-- An instance that does not fit is not written. -/
theorem writeInstance_of_not_fits (crowded : ¬new.Fits) :
    (writeInstance peer new connection).1 = .error .database := by
  obtain ⟨_, recorded⟩ := exists_dialogue_writeInstance new
  rw [← (recorded σ peer connection).1]
  rcases writeInstance_outcome honours new connection with ⟨numbering, succeeded, _⟩ | stopped
  · exact absurd (needs_writeInstance peer.recorded new _ _ _ (Prod.ext succeeded rfl)) crowded
  · exact stopped.1

end Outcome

/-- With a server that accepts everything and numbers what it is given as it likes, exactly the
instances that fit are written, and what is sent for one of them is a copy of its graph under those
numbers.  Where the numbers in each table are distinct, nothing is tied to another parent.  The
others end in a failure of the database. -/
theorem writeInstance_copies {σ : Type} {peer : Peer σ} (honours : peer.Honours) (new : Instance)
    (connection : Connection σ) :
    let written := writeInstance peer new connection
    let log := (writeInstance peer.recorded new connection.recording).2.peer.2
    written.2.sent = (log.map SqlExchange.statement).reverse ++ connection.sent ∧
      ((∃ numbering : Numbering, written.1 = .ok numbering.machine ∧ IsCopy new numbering log ∧
          ((log.filterMap SqlExchange.number?).Nodup →
            Separate new numbering (log.flatMap SqlExchange.rows))) ↔ new.Fits) ∧
      (¬new.Fits → written.1 = .error .database) := by
  obtain ⟨_, recorded⟩ := exists_dialogue_writeInstance new
  obtain ⟨same, -, sent⟩ := recorded σ peer connection
  have stops := writeInstance_of_not_fits honours new connection
  refine ⟨sent, ⟨fun ⟨numbering, succeeded, _⟩ => ?_, fun fits => ?_⟩, stops⟩
  · by_contra crowded
    cases succeeded.symm.trans (stops crowded)
  · rcases writeInstance_outcome honours new connection with
      ⟨numbering, succeeded, isCopy⟩ | ⟨_, statement, asked, excess⟩
    · refine ⟨numbering, same.symm.trans succeeded, isCopy, fun distinct => ?_⟩
      rw [isCopy.rows]
      exact separate_rows isCopy.covers (isCopy.numbers ▸ distinct)
    · obtain ⟨posed, all, sendable⟩ := asks_writeInstance peer.recorded fits connection.recording
      rw [all, Connection.recording, List.append_nil] at asked
      exact absurd (sendable statement asked) excess

/-! ## A peer that counts -/

/-- An answer for each row in reverse order, with the numbers after one. -/
def countRows (last : Int) (rows : Insert) : Reply where
  rows := rows.rows.reverse.zipIdx.map fun entry =>
    [.int (last + 1 + entry.2), entry.1.headD .null]

/-- A peer that gives the next number whenever it gives one, and answers for jars in reverse
order. -/
def counting : Peer Int := fun statement last =>
  match statement with
  | .plain _ _ => (.ok {}, last)
  | .insert rows =>
      if rows.clause = returningId then (.ok { rows := [[.int (last + 1)]] }, last + 1)
      else (.ok (countRows last rows), last + rows.rows.length)

theorem counting_honours : counting.Honours where
  accepts statement last := by
    cases statement with
    | plain words values => exact ⟨_, rfl⟩
    | insert rows =>
        rw [counting]
        split <;> exact ⟨_, rfl⟩
  numbers rows last reply asks gave := by
    rw [counting, if_pos asks] at gave
    exact ⟨last + 1, by rw [← Except.ok.inj gave]⟩
  jars jars last reply gave := by
    have apart : ¬(jarInsert jars).clause = returningId := by
      change ¬upsertClause = returningId
      decide
    rw [counting, if_neg apart] at gave
    have rows := congrArg Reply.rows (Except.ok.inj gave)
    refine ⟨(jars.map Jar.hash).reverse.zipIdx.map fun entry => (entry.1, last + 1 + entry.2),
      rows.symm.trans ?_, ?_⟩
    · simp only [countRows, jarInsert, ← List.map_reverse, List.zipIdx_map, List.map_map]
      exact List.map_congr_left fun _ _ => rfl
    · rw [List.map_map]
      have first : (jars.map Jar.hash).reverse.zipIdx.map Prod.fst =
          (jars.map Jar.hash).reverse := List.zipIdx_map_fst ..
      exact (List.Perm.of_eq first).trans (List.reverse_perm _)

/-- The numbers that a counting peer gives are distinct. -/
theorem numbers_counting {α : Type} (dialogue : Dialogue α) (last : Int) :
    let numbers := (dialogue.heldWith counting last).transcript.filterMap SqlExchange.number?
    (∀ entry ∈ numbers, last < entry.2) ∧ numbers.Nodup := by
  induction dialogue generalizing last with
  | done result => exact ⟨nofun, List.nodup_nil⟩
  | ask statement next ih =>
      rw [Dialogue.heldWith]
      split
      · exact ih _ _
      · cases statement with
        | plain words values => exact ih _ _
        | insert rows =>
            by_cases asks : rows.clause = returningId
            · obtain ⟨later, distinct⟩ := ih (.ok { rows := [[.int (last + 1)]] }) (last + 1)
              have number : (SqlExchange.mk (.insert rows)
                  (.ok { rows := [[.int (last + 1)]] })).number? = some (rows.table, last + 1) := by
                rw [SqlExchange.number?, if_pos asks]
                rfl
              simp only [counting, if_pos asks, List.filterMap_cons, number, List.forall_mem_cons,
                List.nodup_cons]
              refine ⟨⟨by omega, fun entry member => ?_⟩, fun member => ?_, distinct⟩
              · have above := later entry member
                omega
              · have above := later _ member
                omega
            · obtain ⟨later, distinct⟩ := ih (.ok (countRows last rows)) (last + rows.rows.length)
              simp only [counting, if_neg asks, List.filterMap_cons, SqlExchange.number?]
              refine ⟨fun entry member => ?_, distinct⟩
              have above := later entry member
              omega

/-- A server with two deployments of one name that share a jar, and with an extension. -/
def busyServer : AppServer where
  jvm := { bareMachine with jars := JarSet.ofList [{ hash := "a" }] }
  serverVersion := none
  xp := false
  yamlExtension := none
  bootableJar := none
  useGit := none
  configuration := some
    { descriptors := ⟨none, none, none, none, none, none, none, none, none, none, none, none, none,
        none⟩
      socketBindingGroups := .null
      paths := .null
      interfaces := .null
      deployments := [
        ⟨"web.war", none, none, none, .null, JarSet.ofList [{ hash := "a" }, { hash := "b" }]⟩,
        ⟨"web.war", none, none, none, .null, JarSet.ofList [{ hash := "b" }]⟩]
      extensions := [⟨"m", [⟨"s", none, none, none⟩]⟩]
      subsystems := SortedMap.empty }
  moduleJars := JarSet.empty
  raw := ""

theorem copies_busyServer :
    let new := Instance.appServer busyServer
    let log := (writeInstance counting.recorded new { peer := (0, []) }).2.peer.2
    ∃ numbering : Numbering,
      (writeInstance counting new { peer := 0 }).1 = .ok numbering.machine ∧
        IsCopy new numbering log ∧ Separate new numbering (log.flatMap SqlExchange.rows) := by
  have fits : (Instance.appServer busyServer).Fits := by
    intro configuration present
    cases present
    exact ⟨by simp [bindLimit], by decide⟩
  obtain ⟨numbering, succeeded, isCopy, separate⟩ :=
    (writeInstance_copies counting_honours (.appServer busyServer) { peer := 0 }).2.1.mpr fits
  obtain ⟨dialogue, recorded⟩ := exists_dialogue_writeInstance (.appServer busyServer)
  obtain ⟨-, log, -⟩ := recorded Int counting { peer := 0 }
  exact ⟨numbering, succeeded, isCopy, separate (log ▸ (numbers_counting dialogue 0).2)⟩

/-- The subsystems of one extension may be too many for the one statement that they are put into. -/
theorem crowdedServer_not_copied :
    ¬ ∀ (σ : Type) (peer : Peer σ), peer.Honours →
      ∀ (new : Instance) (connection : Connection σ),
        ∃ numbering : Numbering, (writeInstance peer new connection).1 = .ok numbering.machine := by
  intro always
  obtain ⟨numbering, written⟩ :=
    always Int counting counting_honours (.appServer crowdedServer) { peer := 0 }
  have crowded : ¬(Instance.appServer crowdedServer).Fits := by
    intro fits
    have few : 5 * crowdedExtension.subsystems.length ≤ bindLimit :=
      (fits _ rfl).1 crowdedExtension List.mem_cons_self
    have many : crowdedExtension.subsystems.length = 13108 := List.length_replicate
    rw [many] at few
    exact absurd few (by decide)
  cases written.symm.trans (writeInstance_of_not_fits counting_honours _ { peer := 0 } crowded)

end Sql
end JarLedger
