import JarLedger.Proofs.Attempts
import JarLedger.Proofs.Jars
import JarLedger.Proofs.Sql.Asking

/-!
# The greatest number of values

Jars and links are cut into pieces that a statement can carry.  Subsystems are not: those of one
extension, and those of the configuration, go into one statement however many they are.  So an
instance asks for no statement with too many values exactly if it fits (`Instance.Fits`), and one
that does not fit cannot be written at all.
-/

namespace JarLedger

/-- Whether a statement has few enough values to be sent. -/
def Statement.IsSendable (statement : Statement) : Prop :=
  statement.parameters.length ≤ bindLimit

/-- Whether the subsystems of each extension, and those of the configuration, have few enough values
for one statement. -/
def Configuration.Fits (configuration : Configuration) : Prop :=
  (∀ extension ∈ configuration.extensions, 5 * extension.subsystems.length ≤ bindLimit) ∧
    3 * configuration.subsystems.size ≤ bindLimit

/-- Whether the configuration of an instance fits, if it has one. -/
def Instance.Fits : Instance → Prop
  | .jvm _ => True
  | .appServer server => ∀ configuration ∈ server.configuration, configuration.Fits

namespace Sql

open SqlWork

variable {α : Type}

/-! ## Pieces -/

theorem flatten_chunks (size : Nat) (items : List α) : (chunks size items).flatten = items := by
  fun_induction chunks size items with
  | case1 => rfl
  | case2 item rest ih =>
      rw [List.flatten_cons, ih, List.cons_append, List.take_append_drop]

theorem length_le_of_mem_chunks {size : Nat} (positive : 0 < size) {items chunk : List α}
    (member : chunk ∈ chunks size items) : chunk.length ≤ size := by
  fun_induction chunks size items with
  | case1 => cases member
  | case2 item rest ih =>
      rcases List.mem_cons.mp member with rfl | later
      · simp only [List.length_cons, List.length_take]
        omega
      · exact ih later

/-- Pieces cut for rows of a width have few enough values. -/
theorem mul_length_chunk_le {width : Nat} (positive : 0 < width) (narrow : width ≤ bindLimit)
    {items chunk : List α} (member : chunk ∈ chunks (bindLimit / width) items) :
    width * chunk.length ≤ bindLimit :=
  calc width * chunk.length ≤ width * (bindLimit / width) :=
        Nat.mul_le_mul_left _ (length_le_of_mem_chunks (Nat.div_pos narrow positive) member)
    _ ≤ bindLimit := Nat.mul_div_le bindLimit width

/-! ## Rows -/

theorem length_flatten_map {β : Type} {row : α → List β} {width : Nat}
    (wide : ∀ item, (row item).length = width) (items : List α) :
    (items.map row).flatten.length = width * items.length := by
  induction items with
  | nil => rfl
  | cons item rest ih => simp [wide, ih, Nat.mul_add, Nat.add_comm]

theorem parameters_jarInsert (jars : List Jar) :
    (Statement.insert (jarInsert jars)).parameters.length = 3 * jars.length := by
  refine length_flatten_map (fun _ => ?_) jars
  rfl

theorem parameters_linkInsert (table ownerColumn : String) (owner : Int) (jars : List Int) :
    (Statement.insert (linkInsert table ownerColumn owner jars)).parameters.length =
      2 * jars.length := by
  refine length_flatten_map (fun _ => ?_) jars
  rfl

theorem parameters_extensionSubsystemInsert (extensionId : Int)
    (subsystems : List ExtensionSubsystem) :
    (Statement.insert (extensionSubsystemInsert extensionId subsystems)).parameters.length =
      5 * subsystems.length := by
  refine length_flatten_map (fun _ => ?_) subsystems
  rfl

theorem parameters_subsystemInsert (configurationId : Int) (subsystems : List (String × Json)) :
    (Statement.insert (subsystemInsert configurationId subsystems)).parameters.length =
      3 * subsystems.length := by
  refine length_flatten_map (fun _ => ?_) subsystems
  rfl

/-- The row of one thing has few values. -/
theorem isSendable_of_single {rows : Insert} {row : List SqlValue} (single : rows.rows = [row])
    (few : row.length ≤ bindLimit) : (Statement.insert rows).IsSendable := by
  rw [Statement.IsSendable, Statement.parameters, single, List.flatten_singleton]
  exact few

/-! ## What is asked -/

section Asked

variable {σ : Type} (peer : Peer σ)

theorem asks_insert {kind : Statement → Prop} {rows : Insert} (right : kind (.insert rows)) :
    Asks kind (insert peer rows) :=
  Connection.asks_query peer _ right

theorem asks_insertForId {kind : Statement → Prop} {rows : Insert}
    (right : kind (.insert rows)) : Asks kind (insertForId peer rows) :=
  (asks_insert peer right).bind fun _ => .expect _

theorem asks_insertMachine (kind : InstanceKind) (machine : Jvm) :
    Asks Statement.IsSendable (insertMachine peer kind machine) := by
  intro connection
  refine ⟨[.insert (machineInsert kind machine)], ?_, ?_⟩
  · rw [List.singleton_append, ← Connection.asked_ask peer, insertMachine]
    rcases connection.ask peer (.insert (machineInsert kind machine)) with ⟨_ | reply, after⟩
    · rfl
    · exact congrArg Connection.asked (Connection.snd_expect _ after)
  · intro statement member
    rw [List.mem_singleton.mp member]
    exact isSendable_of_single rfl (by simp [bindLimit])

theorem asks_upsertJars (jars : JarSet) : Asks Statement.IsSendable (upsertJars peer jars) := by
  refine .bind (.mapM fun chunk member => ?_) fun _ => .pure _
  refine .bind (asks_insert peer ?_) fun _ => .expect _
  rw [Statement.IsSendable, parameters_jarInsert]
  exact mul_length_chunk_le (by decide) (by decide) member

theorem asks_linkSet (table ownerColumn : String) (owner : Int) (ids : JarIds) (jars : JarSet) :
    Asks Statement.IsSendable (linkSet peer table ownerColumn owner ids jars) := by
  rw [linkSet]
  split
  · refine .bind (.mapM fun chunk member => asks_insert peer ?_) fun _ => .pure _
    rw [Statement.IsSendable, parameters_linkInsert]
    exact mul_length_chunk_le (by decide) (by decide) member
  · exact .throw _

theorem asks_writeDeployment (ids : JarIds) (configurationId : Int) (deployment : Deployment) :
    Asks Statement.IsSendable (writeDeployment peer ids configurationId deployment) :=
  .bind (asks_insertForId peer (isSendable_of_single rfl (by simp [bindLimit]))) fun _ =>
    .discard (asks_linkSet peer _ _ _ _ _)

theorem asks_writeExtension (configurationId : Int) {extension : Extension}
    (fits : 5 * extension.subsystems.length ≤ bindLimit) :
    Asks Statement.IsSendable (writeExtension peer configurationId extension) := by
  refine .bind (asks_insertForId peer (isSendable_of_single rfl (by simp [bindLimit]))) fun id => ?_
  split
  · exact .pure _
  · refine .discard (asks_insert peer ?_)
    rw [Statement.IsSendable, parameters_extensionSubsystemInsert]
    exact fits

theorem asks_writeConfiguration (ids : JarIds) (instanceId : Int) {configuration : Configuration}
    (fits : configuration.Fits) :
    Asks Statement.IsSendable (writeConfiguration peer ids instanceId configuration) := by
  refine .bind (asks_insertForId peer (isSendable_of_single rfl (by simp [bindLimit]))) fun id => ?_
  refine .bind (.forM fun deployment _ => asks_writeDeployment peer ids id deployment) fun _ => ?_
  refine .bind (.forM fun extension member =>
    asks_writeExtension peer id (fits.1 extension member)) fun _ => ?_
  split
  · exact .pure _
  · refine .discard (asks_insert peer ?_)
    rw [Statement.IsSendable, parameters_subsystemInsert]
    exact fits.2

/-- An instance that fits asks for no statement with too many values. -/
theorem asks_writeInstance {new : Instance} (fits : new.Fits) :
    Asks Statement.IsSendable (writeInstance peer new) := by
  refine .bind (asks_insertMachine peer _ _) fun id => ?_
  refine .bind (asks_upsertJars peer _) fun ids => ?_
  refine .bind (.discard (asks_linkSet peer _ _ _ _ _)) fun _ => ?_
  cases new with
  | jvm machine => exact .pure id
  | appServer server =>
      refine .bind ?_ fun _ => .pure _
      have few : (Statement.insert (serverInsert id server)).IsSendable :=
        isSendable_of_single rfl (by simp [bindLimit])
      refine .bind (.discard (asks_insert peer few)) fun _ => ?_
      refine .bind (.discard (asks_linkSet peer _ _ _ _ _)) fun _ => ?_
      split
      · exact .pure _
      · rename_i configuration present
        exact asks_writeConfiguration peer ids id (fits configuration present)

/-- Adding jars asks for no statement with too many values. -/
theorem asks_addJars (instanceId : Int) (jars : JarSet) :
    Asks Statement.IsSendable (addJars peer instanceId jars) :=
  .bind (asks_upsertJars peer jars) fun _ => asks_linkSet peer _ _ _ _ _

end Asked

/-! ## What success needs -/

section Needed

variable {σ : Type} (peer : Peer σ)

theorem needs_writeExtension (configurationId : Int) (extension : Extension) :
    Needs (5 * extension.subsystems.length ≤ bindLimit)
      (writeExtension peer configurationId extension) := by
  refine .bind_right fun id => ?_
  split
  · rename_i empty
    rw [List.isEmpty_iff.mp empty]
    exact fun _ _ _ _ => Nat.zero_le _
  · rw [← parameters_extensionSubsystemInsert id]
    exact .bind_left (Connection.needs_query peer _)

theorem needs_writeConfiguration (ids : JarIds) (instanceId : Int)
    (configuration : Configuration) :
    Needs configuration.Fits (writeConfiguration peer ids instanceId configuration) := by
  intro connection value after succeeded
  constructor
  · intro extension member
    refine Needs.bind_right (fun id => ?_) connection value after succeeded
    exact .bind_right fun _ => .bind_left (.forM member (needs_writeExtension peer id extension))
  · refine Needs.bind_right (fun id => ?_) connection value after succeeded
    refine .bind_right fun _ => .bind_right fun _ => ?_
    split
    · rename_i empty
      rw [SortedMap.size, List.isEmpty_iff.mp empty]
      exact fun _ _ _ _ => Nat.zero_le _
    · rw [SortedMap.size, ← parameters_subsystemInsert id]
      exact .bind_left (Connection.needs_query peer _)

/-- An instance that does not fit cannot be written. -/
theorem needs_writeInstance (new : Instance) : Needs new.Fits (writeInstance peer new) := by
  refine .bind_right fun id => .bind_right fun ids => .bind_right fun _ => ?_
  cases new with
  | jvm machine => exact fun _ _ _ _ => trivial
  | appServer server =>
      refine .bind_left (.bind_right fun _ => .bind_right fun _ => ?_)
      split
      · rename_i absent
        intro _ _ _ _ configuration present
        rw [absent] at present
        cases present
      · rename_i configuration present
        intro connection value after succeeded other same
        obtain rfl : configuration = other := Option.some.inj (present.symm.trans same)
        exact needs_writeConfiguration peer ids id configuration connection value after succeeded

end Needed

/-! ## A peer that refuses nothing -/

/-- An answer with a row for each row that is inserted: a number, and what the row begins with. -/
def obligingReply : Statement → Reply
  | .insert rows => { rows := rows.rows.map fun row => [.int 1, row.headD .null] }
  | .plain _ _ => {}

/-- A peer that refuses no statement. -/
def obliging : Peer Unit := fun statement state => (.ok (obligingReply statement), state)

/-- All jars of a set have numbers. -/
def Known (ids : JarIds) (jars : JarSet) : Prop := ∀ hash, jars.contains hash = true → hash ∈ ids

theorem ask_obliging {statement : Statement} (few : statement.IsSendable)
    (connection : Connection Unit) :
    connection.ask obliging statement = (.ok (obligingReply statement),
      { connection with
        asked := statement :: connection.asked, sent := statement :: connection.sent }) := by
  rw [Connection.ask, if_neg (Nat.not_lt.mpr few)]
  rfl

theorem manages_query (statement : Statement) :
    Manages (fun reply => reply = obligingReply statement)
      (Connection.query obliging statement) := by
  intro connection
  rw [Connection.query]
  rcases Nat.lt_or_ge bindLimit statement.parameters.length with excess | few
  · refine .inr ⟨.database, { connection with asked := statement :: connection.asked }, ?_,
      statement, List.mem_cons_self, excess⟩
    rw [Connection.ask, if_pos excess]
  · rw [ask_obliging few]
    exact .inl ⟨_, _, rfl, rfl⟩

theorem firstNumber?_obligingReply {rows : Insert} {row : List SqlValue}
    (single : rows.rows = [row]) :
    Connection.firstNumber? (obligingReply (.insert rows)) = some 1 := by
  rw [obligingReply, single]
  rfl

theorem manages_insertForId {rows : Insert} {row : List SqlValue} (single : rows.rows = [row]) :
    Manages (fun _ => True) (insertForId obliging rows) := by
  refine .bind (manages_query _) fun reply equal => ?_
  rw [equal, firstNumber?_obligingReply single]
  exact .pure trivial

theorem manages_insertMachine (kind : InstanceKind) (machine : Jvm) :
    Manages (fun _ => True) (insertMachine obliging kind machine) := by
  intro connection
  rw [insertMachine, ask_obliging (isSendable_of_single rfl (by simp [bindLimit]))]
  dsimp only
  rw [firstNumber?_obligingReply rfl]
  exact .inl ⟨_, _, rfl, trivial⟩

theorem jarRows_obligingReply (jars : List Jar) :
    (obligingReply (.insert (jarInsert jars))).rows.mapM jarRow? =
      some (jars.map fun jar => (jar.hash, (1 : Int))) := by
  simp only [obligingReply, jarInsert]
  induction jars with
  | nil => rfl
  | cons jar rest ih =>
      simp only [List.map_cons, List.mapM_cons, ih]
      rfl

theorem manages_upsertChunk (jars : List Jar) :
    Manages (fun numbered => numbered = jars.map fun jar => (jar.hash, 1))
      (upsertChunk obliging jars) := by
  refine .bind (manages_query _) fun reply same => ?_
  rw [same, jarRows_obligingReply]
  exact .pure rfl

theorem manages_upsertJars (jars : JarSet) :
    Manages (fun ids => Known ids jars) (upsertJars obliging jars) := by
  refine .bind (.mapM fun chunk _ => manages_upsertChunk chunk) fun numbered equal => .pure ?_
  intro hash present
  have listed : hash ∈ jars.keys := (SortedMap.mem_keys jars hash).mpr present
  rw [equal, ← List.map_flatten, flatten_chunks, Std.HashMap.mem_insertMany_list]
  right
  simpa [JarSet.toList, SortedMap.keys, Function.comp_def] using listed

theorem idsOf_of_known {ids : JarIds} {jars : JarSet} (known : Known ids jars) :
    ∃ numbers, idsOf ids jars = .ok numbers := by
  have each : ∀ hash ∈ jars.keys, hash ∈ ids := fun hash member =>
    known hash ((SortedMap.mem_keys jars hash).mp member)
  refine exists_ok_mapM.mpr fun hash member => ?_
  obtain ⟨number, present⟩ : ∃ number, ids[hash]? = some number :=
    ⟨_, Std.HashMap.getElem?_eq_some_getElem (each hash member)⟩
  exact ⟨number, by rw [present]⟩

theorem manages_linkSet (table ownerColumn : String) (owner : Int) {ids : JarIds} {jars : JarSet}
    (known : Known ids jars) :
    Manages (fun _ => True) (linkSet obliging table ownerColumn owner ids jars) := by
  obtain ⟨numbers, found⟩ := idsOf_of_known known
  rw [linkSet, found]
  exact .bind (.mapM fun chunk _ => manages_query _) fun _ _ => .pure trivial

theorem manages_writeDeployment {ids : JarIds} (configurationId : Int) {deployment : Deployment}
    (known : Known ids deployment.jars) :
    Manages (fun _ => True) (writeDeployment obliging ids configurationId deployment) :=
  .bind (manages_insertForId rfl) fun _ _ => .discard (manages_linkSet _ _ _ known)

theorem manages_writeExtension (configurationId : Int) (extension : Extension) :
    Manages (fun _ => True) (writeExtension obliging configurationId extension) := by
  refine .bind (manages_insertForId rfl) fun id _ => ?_
  split
  · exact .pure trivial
  · exact .discard (manages_query _)

theorem manages_writeConfiguration {ids : JarIds} (instanceId : Int)
    {configuration : Configuration}
    (known : ∀ deployment ∈ configuration.deployments, Known ids deployment.jars) :
    Manages (fun _ => True) (writeConfiguration obliging ids instanceId configuration) := by
  refine .bind (manages_insertForId rfl) fun id _ => ?_
  refine .bind (.forM fun deployment member =>
    manages_writeDeployment id (known deployment member)) fun _ _ => ?_
  refine .bind (.forM fun extension _ => manages_writeExtension id extension) fun _ _ => ?_
  split
  · exact .pure trivial
  · exact .discard (manages_query _)

/-- The numbers of all jars of a server are those of each of its parts. -/
theorem known_of_allJars {ids : JarIds} {server : AppServer} (known : Known ids server.allJars) :
    Known ids server.jvm.jars ∧ Known ids server.moduleJars ∧
      ∀ deployment ∈ server.deployments, Known ids deployment.jars := by
  have whole (hash : String) := (server.contains_allJars_iff hash).mpr
  exact ⟨fun hash present => known hash (whole hash (.inl present)),
    fun hash present => known hash (whole hash (.inr (.inl present))),
    fun deployment member hash present =>
      known hash (whole hash (.inr (.inr ⟨deployment, member, present⟩)))⟩

theorem manages_writeServer {ids : JarIds} (instanceId : Int) {server : AppServer}
    (known : Known ids server.allJars) :
    Manages (fun _ => True) (writeServer obliging ids instanceId server) := by
  obtain ⟨-, modules, deployed⟩ := known_of_allJars known
  refine .bind (.discard (manages_query _)) fun _ _ => ?_
  refine .bind (.discard (manages_linkSet _ _ _ modules)) fun _ _ => ?_
  split
  · exact .pure trivial
  · rename_i configuration present
    refine manages_writeConfiguration instanceId fun deployment member => ?_
    rw [AppServer.deployments, present] at deployed
    exact deployed deployment member

/-- A peer that refuses nothing lets every instance be written, unless a statement has too many
values. -/
theorem manages_writeInstance (new : Instance) :
    Manages (fun _ => True) (writeInstance obliging new) := by
  refine .bind (manages_insertMachine _ _) fun id _ => ?_
  refine .bind (manages_upsertJars _) fun ids known => ?_
  cases new with
  | jvm machine =>
      refine .bind (.discard (manages_linkSet _ _ _ known)) fun _ _ => ?_
      exact .pure trivial
  | appServer server =>
      refine .bind (.discard (manages_linkSet _ _ _ (known_of_allJars known).1)) fun _ _ => ?_
      exact .bind (manages_writeServer id known) fun _ _ => .pure trivial

/-- An instance that asks no peer for a statement with too many values fits. -/
theorem fits_of_asks {new : Instance}
    (asks : ∀ (σ : Type) (peer : Peer σ), Asks Statement.IsSendable (writeInstance peer new)) :
    new.Fits := by
  rcases manages_writeInstance new ⟨(), [], [], false⟩ with
    ⟨id, after, written, -⟩ | ⟨cause, after, stopped, statement, member, excess⟩
  · exact needs_writeInstance obliging new _ id after written
  · obtain ⟨posed, asked, sendable⟩ := asks Unit obliging ⟨(), [], [], false⟩
    rw [stopped, List.append_nil] at asked
    have few : statement.parameters.length ≤ bindLimit := sendable statement (asked ▸ member)
    exact absurd excess (Nat.not_lt.mpr few)

/-- Writing an instance asks for no statement with too many values, whatever the peer, exactly if
the instance fits; adding jars never does. -/
theorem asks_sendable_iff (new : Instance) (instanceId : Int) (jars : JarSet) :
    ((∀ (σ : Type) (peer : Peer σ), Asks Statement.IsSendable (writeInstance peer new)) ↔
        new.Fits) ∧
      ∀ (σ : Type) (peer : Peer σ), Asks Statement.IsSendable (addJars peer instanceId jars) := by
  refine ⟨⟨fits_of_asks, fun fits _ peer => asks_writeInstance peer fits⟩, ?_⟩
  exact fun _ peer => asks_addJars peer instanceId jars

/-- An extension with one subsystem more than a statement can carry. -/
def crowdedExtension : Extension where
  moduleName := "m"
  subsystems := List.replicate 13108 ⟨"s", none, none, none⟩

/-- A server with such an extension. -/
def crowdedServer : AppServer where
  jvm :=
    { linkingHash := "h", accountId := none, orgId := "12345", created := ⟨0, 0⟩
      hostname := "app", launchTime := 7, vendor := none, versionString := none, version := none
      heapMin := none, heapMax := none, processors := none, javaHome := none
      javaClassPath := none, pid := none, details := .null, jars := JarSet.empty }
  serverVersion := some "7.4"
  xp := false
  yamlExtension := none
  bootableJar := none
  useGit := none
  configuration := some
    { descriptors := ⟨none, none, none, none, none, none, none, none, none, none, none, none, none,
        none⟩
      socketBindingGroups := .null
      paths := .null
      interfaces := .null
      deployments := []
      extensions := [crowdedExtension]
      subsystems := SortedMap.empty }
  moduleJars := JarSet.empty
  raw := ""

theorem crowdedServer_exceeds :
    ¬ ∀ (σ : Type) (peer : Peer σ),
      Asks Statement.IsSendable (writeInstance peer (.appServer crowdedServer)) := by
  intro asks
  have few : 5 * crowdedExtension.subsystems.length ≤ bindLimit :=
    (fits_of_asks asks _ rfl).1 crowdedExtension List.mem_cons_self
  have many : crowdedExtension.subsystems.length = 13108 := List.length_replicate
  rw [many] at few
  exact absurd few (by decide)

end Sql
end JarLedger
