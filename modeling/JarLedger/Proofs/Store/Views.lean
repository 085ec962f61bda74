import JarLedger.Proofs.Sql.ReadBack
import JarLedger.Proofs.Store.Reordering

/-!
# One instance read back from two stores

A store in memory and one behind a server read an instance back alike, merges included, but for the
jars under a name that several deployments have: the server tells the jars of all of them, the store
in memory those of the last one (`MemoryStore.reads_as_server_iff`).
-/

namespace JarLedger

namespace Instance

/-- A new instance, and jars merged into it one set after the other. -/
def messages (new : Instance) (merges : List JarSet) : List Message :=
  .newInstance new :: merges.map fun jars => .update ⟨new.linkingHash, jars⟩

/-- The jars on the machine itself after merges. -/
def directHashes (new : Instance) (merges : List JarSet) : StringSet :=
  merges.foldl (fun hashes jars => hashes.union jars.hashes) new.machine.jars.hashes

theorem messages_about (new : Instance) (merges : List JarSet) :
    (new.messages merges).filter (Message.isAbout new.linkingHash) = new.messages merges := by
  refine List.filter_eq_self.mpr fun message member => ?_
  rcases List.mem_cons.mp member with rfl | inMerges
  · exact decide_eq_true rfl
  · obtain ⟨jars, -, rfl⟩ := List.mem_map.mp inMerges
    exact decide_eq_true rfl

end Instance

/-- Merges one after the other add their jars to what is held. -/
theorem Message.settleAll_merges (linkingHash : String) (merges : List JarSet)
    (entry : LedgerEntry) :
    (settleAll (merges.map fun jars => .update ⟨linkingHash, jars⟩) (some entry)).2 =
      some { entry with
        jars := merges.foldl (fun hashes jars => hashes.union jars.hashes) entry.jars } := by
  induction merges generalizing entry with
  | nil => rfl
  | cons jars rest ih => exact ih _

/-- A store in memory reads a new instance back with all jars merged into it. -/
theorem MemoryStore.find_messages (past : List Errand) (new : Instance) (merges : List JarSet)
    (free : (store.find new.linkingHash (Errand.serveAll store past {}).2).1 = .ok none) :
    ∃ id, (store.find new.linkingHash
        (reconcileAll store (new.messages merges) (Errand.serveAll store past {}).2).2).1 =
      .ok (some (Ledger.view id ⟨new, new.directHashes merges⟩)) := by
  obtain ⟨ledger, sound, served, -⟩ := Ledger.Sound.serveAll_eq Ledger.sound_empty past
  have begun : (Errand.serveAll store past {}).2 = ⟨ledger, none⟩ := congrArg Prod.snd served
  obtain ⟨after, kept, settled, agree⟩ := sound.reconcileAll_eq (new.messages merges)
  rw [begun] at free ⊢
  rw [settled]
  change ledger.find new.linkingHash = .ok none at free
  change ∃ id, after.find new.linkingHash = _
  rw [sound.find_catalogue] at free
  have vacant : ledger.catalogue.slot new.linkingHash = none := by
    rw [Catalogue.slot]
    cases held : ledger.catalogue.holdings.get? new.linkingHash with
    | none => rfl
    | some holding => simp [held] at free
  have slot : after.catalogue.slot new.linkingHash = some ⟨new, new.directHashes merges⟩ := by
    rw [agree, (ledger.catalogue.settleAll_at (new.messages merges) new.linkingHash).2, vacant,
      new.messages_about]
    exact Message.settleAll_merges _ _ _
  obtain ⟨holding, held, entry⟩ := Option.map_eq_some_iff.mp slot
  refine ⟨holding.id, ?_⟩
  rw [kept.find_catalogue, held, ← entry]
  rfl

/-- Every jar of a deployment is also in the last deployment of its name. -/
def LastHasAll (deployments : List Deployment) : Prop :=
  ∀ earlier last later, deployments = earlier ++ last :: later →
    (∀ other ∈ later, other.name ≠ last.name) →
    ∀ other ∈ earlier, other.name = last.name →
      ∀ hash, other.jars.contains hash = true → last.jars.contains hash = true

/-- A last deployment that has all jars has those of any deployment of its name. -/
theorem LastHasAll.contains_last {deployments earlier later : List Deployment}
    {last deployment : Deployment} {hash : String} (complete : LastHasAll deployments)
    (split : deployments = earlier ++ last :: later)
    (unequal : ∀ other ∈ later, other.name ≠ last.name) (member : deployment ∈ deployments)
    (same : deployment.name = last.name) (inside : deployment.jars.contains hash = true) :
    last.jars.contains hash = true := by
  rw [split, List.mem_append, List.mem_cons] at member
  rcases member with before | rfl | behind
  · exact complete earlier last later split unequal deployment before same hash inside
  · exact inside
  · exact absurd same (unequal deployment behind)

section Deployments

variable {deployments : List Deployment} {id : InstanceId} {entry : LedgerEntry}

theorem contains_deploymentJars (name : String) :
    (Ledger.view id entry).deploymentJars.contains name = true ↔
      ∃ deployment ∈ entry.inserted.deployments, deployment.name = name := by
  refine (SortedMap.contains_ofListLast _ name).trans ?_
  simp only [List.mem_map, Prod.mk.injEq]
  constructor
  · rintro ⟨_, deployment, inside, named, -⟩
    exact ⟨deployment, inside, named⟩
  · rintro ⟨deployment, inside, named⟩
    exact ⟨_, deployment, inside, named, rfl⟩

/-- Deployments and their rows in any order come to the same where the last deployment of each name
has all jars under the name. -/
theorem deploymentJars_eq_iff {rows : List (String × Option String)}
    (order : rows.Perm (Sql.joined entry.inserted.deployments)) :
    (Ledger.view id entry).deploymentJars = Sql.deploymentsOfRows rows ↔
      LastHasAll entry.inserted.deployments := by
  constructor
  · intro equal earlier last later split unequal other member same hash inside
    have among : (Sql.deploymentsOfRows rows).Holds last.name hash :=
      (Sql.holds_deploymentsOfRows_joined order _ _).mpr
        ⟨other, by simp [split, member], same, inside⟩
    rw [← equal] at among
    obtain ⟨hashes, found, contained⟩ := among
    -- What the store in memory has under the name are the jars of the last deployment alone.
    have own : (Ledger.view id entry).deploymentJars.get? last.name = some last.jars.hashes :=
      (Ledger.get?_deploymentJars _ _).mpr ⟨earlier, last, later, split, rfl, unequal⟩
    obtain rfl := Option.some.inj (own.symm.trans found)
    rwa [JarSet.contains_hashes] at contained
  · intro complete
    refine SortedMap.ext_holds (fun name => ?_) fun name hash => ?_
    · rw [Bool.eq_iff_iff, contains_deploymentJars, Sql.contains_deploymentsOfRows_joined order]
    · rw [Sql.holds_deploymentsOfRows_joined order]
      constructor
      · rintro ⟨hashes, found, contained⟩
        obtain ⟨earlier, last, later, split, same, -⟩ := (Ledger.get?_deploymentJars _ _).mp found
        obtain ⟨named, rfl⟩ := Prod.mk.inj same
        exact ⟨last, by simp [split], named, by rwa [JarSet.contains_hashes] at contained⟩
      · rintro ⟨deployment, member, rfl, inside⟩
        have present : (Ledger.view id entry).deploymentJars.contains deployment.name = true :=
          (contains_deploymentJars _).mpr ⟨deployment, member, rfl⟩
        obtain ⟨hashes, found⟩ := (SortedMap.contains_iff _ _).mp present
        obtain ⟨earlier, last, later, split, same, unequal⟩ :=
          (Ledger.get?_deploymentJars _ _).mp found
        obtain ⟨named, rfl⟩ := Prod.mk.inj same
        rw [← named] at unequal
        refine ⟨_, found, ?_⟩
        rw [JarSet.contains_hashes]
        exact complete.contains_last split unequal member named.symm inside

end Deployments

/-- Whatever a store in memory went through before, and in whatever order a server hands out the
rows of an instance, both read the instance back with all jars merged into it.  What they read is
the same but for the time that the server tells and the jars under a name of several deployments:
the server tells them all, and both tell the same if the last deployment of each name has all. -/
theorem MemoryStore.reads_as_server_iff {σ : Type} (past : List Errand) (new : Instance)
    (merges : List JarSet)
    (free : (store.find new.linkingHash (Errand.serveAll store past {}).2).1 = .ok none)
    (peer : Peer σ) (idle : σ → Prop) (id : Int) (created : Instant)
    (keeps : Sql.Keeps peer idle id created new (new.directHashes merges))
    (connection : Connection σ) (quiet : idle connection.peer) :
    ∃ here there,
      (store.find new.linkingHash
          (reconcileAll store (new.messages merges) (Errand.serveAll store past {}).2).2).1 =
        .ok (some here) ∧
      ((Sql.store peer).find new.linkingHash connection).1 = .ok (some there) ∧
      here.jars = new.directHashes merges ∧
      here.withoutId = { there.withoutId with
        created := new.machine.created, deploymentJars := here.deploymentJars } ∧
      there.created = created ∧
      (∀ name, here.deploymentJars.contains name = there.deploymentJars.contains name) ∧
      (∀ name hash, there.deploymentJars.Holds name hash ↔
        ∃ deployment ∈ new.deployments, deployment.name = name ∧
          deployment.jars.contains hash = true) ∧
      (here.withoutId = there.withoutId ↔
        created = new.machine.created ∧ LastHasAll new.deployments) := by
  obtain ⟨number, found⟩ := find_messages past new merges free
  obtain ⟨rows, order, read⟩ := Sql.find_eq_of_keeps keeps quiet
  let entry : LedgerEntry := ⟨new, new.directHashes merges⟩
  have fromRows : (Ledger.view number entry).deploymentJars = Sql.deploymentsOfRows rows ↔
      LastHasAll new.deployments := deploymentJars_eq_iff order
  refine ⟨_, _, found, read, rfl, rfl, rfl, fun name => ?_, fun name hash => ?_, ?_⟩
  · rw [Bool.eq_iff_iff, contains_deploymentJars, Sql.contains_deploymentsOfRows_joined order]
  · exact Sql.holds_deploymentsOfRows_joined order name hash
  · rw [← fromRows]
    constructor
    · intro same
      exact ⟨(congrArg StoredInstance.created same).symm,
        congrArg StoredInstance.deploymentJars same⟩
    · rintro ⟨rfl, same⟩
      rw [← same]
      rfl

/-- A deployment of which only the name and the one jar in it are known. -/
def Deployment.bare (name jar : String) : Deployment where
  name
  runtimeName := none
  enabled := none
  persistent := none
  content := .null
  jars := JarSet.ofList [⟨jar, {}⟩]

/-- A server with two deployments of one name. -/
def twinServer : AppServer where
  jvm := .bare "h" JarSet.empty
  serverVersion := none
  xp := false
  yamlExtension := none
  bootableJar := none
  useGit := none
  configuration := some
    { descriptors := ⟨none, none, none, none, none, none, none, none, none, none, none, none, none,
        none⟩
      socketBindingGroups := .null
      paths := .null
      interfaces := .null
      deployments := [.bare "web.war" "a", .bare "web.war" "b"]
      extensions := []
      subsystems := SortedMap.empty }
  moduleJars := JarSet.empty
  raw := ""

theorem not_lastHasAll_twinServer : ¬ LastHasAll twinServer.deployments := fun complete =>
  Bool.false_ne_true
    (complete [.bare "web.war" "a"] (.bare "web.war" "b") [] rfl nofun (.bare "web.war" "a")
      List.mem_cons_self rfl "a" rfl)

namespace MemoryStore

/-- The server tells the first jar of the twins, and so the two do not read the same. -/
theorem reads_twinServer :
    let new : Instance := .appServer twinServer
    let merges : List JarSet := [JarSet.ofList [⟨"c", {}⟩]]
    let peer : Peer Unit := Sql.cabinet 5 ⟨0, 0⟩ new (new.directHashes merges)
    (store.find new.linkingHash (Errand.serveAll store [] {}).2).1 = .ok none ∧
      Sql.Keeps peer (fun _ => True) 5 ⟨0, 0⟩ new (new.directHashes merges) ∧
      ∃ here there,
        (store.find new.linkingHash
            (reconcileAll store (new.messages merges) (Errand.serveAll store [] {}).2).2).1 =
          .ok (some here) ∧
        ((Sql.store peer).find new.linkingHash { peer := () }).1 = .ok (some there) ∧
        there.deploymentJars.Holds "web.war" "a" ∧ here.withoutId ≠ there.withoutId := by
  intro new merges peer
  have keeps := Sql.keeps_cabinet 5 ⟨0, 0⟩ new (new.directHashes merges)
  refine ⟨rfl, keeps, ?_⟩
  obtain ⟨here, there, inMemory, atServer, -, -, -, -, jars, same⟩ :=
    reads_as_server_iff [] new merges rfl peer (fun _ => True) 5 ⟨0, 0⟩ keeps { peer := () } trivial
  refine ⟨here, there, inMemory, atServer, ?_, fun equal => ?_⟩
  · exact (jars _ _).mpr ⟨.bare "web.war" "a", List.mem_cons_self, rfl, rfl⟩
  · exact not_lastHasAll_twinServer (same.mp equal).2

/-- A store in memory and a server do not read every instance back alike. -/
theorem not_reads_as_server :
    ¬ ∀ (new : Instance) (merges : List JarSet) (peer : Peer Unit) (id : Int),
      Sql.Keeps peer (fun _ => True) id new.machine.created new (new.directHashes merges) →
      ∀ here there,
        (store.find new.linkingHash (reconcileAll store (new.messages merges) {}).2).1 =
          .ok (some here) →
        ((Sql.store peer).find new.linkingHash { peer := () }).1 = .ok (some there) →
        here.withoutId = there.withoutId := by
  intro alike
  let new : Instance := .appServer twinServer
  have keeps := Sql.keeps_cabinet 5 ⟨0, 0⟩ new (new.directHashes [])
  obtain ⟨number, found⟩ := find_messages [] new [] rfl
  obtain ⟨rows, order, read⟩ := Sql.find_eq_of_keeps keeps trivial
  let entry : LedgerEntry := ⟨new, new.directHashes []⟩
  have same := alike new [] _ 5 keeps _ _ found read
  have jars : (Ledger.view number entry).deploymentJars = Sql.deploymentsOfRows rows :=
    congrArg StoredInstance.deploymentJars same
  exact not_lastHasAll_twinServer ((deploymentJars_eq_iff order).mp jars)

end MemoryStore
end JarLedger
