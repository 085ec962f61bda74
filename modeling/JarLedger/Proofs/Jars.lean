import JarLedger.Instance
import JarLedger.Proofs.SortedMap

/-!
# The jars of an instance

The jars found anywhere in the graph of an instance are those of the machine, of the modules and of
the deployments (`Instance.contains_allJars`).
-/

namespace JarLedger

theorem JarSet.contains_foldl_union (deployments : List Deployment) (jars : JarSet)
    (hash : String) :
    (deployments.foldl (fun jars deployment => jars.union deployment.jars) jars).contains hash =
      (jars.contains hash || deployments.any fun deployment => deployment.jars.contains hash) := by
  induction deployments generalizing jars with
  | nil => simp
  | cons deployment rest ih =>
      rw [List.foldl_cons, ih, SortedMap.contains_union, List.any_cons, Bool.or_assoc]

theorem Instance.contains_allJars (new : Instance) (hash : String) :
    new.allJars.contains hash =
      (new.machine.jars.contains hash || new.moduleJars.contains hash ||
        new.deployments.any fun deployment => deployment.jars.contains hash) := by
  cases new with
  | jvm machine =>
      simp [allJars, Instance.machine, moduleJars, deployments, JarSet.empty, SortedMap.contains]
  | appServer server =>
      rw [allJars, AppServer.allJars, JarSet.contains_foldl_union, SortedMap.contains_union]
      rfl

theorem AppServer.contains_allJars_iff (server : AppServer) (hash : String) :
    server.allJars.contains hash = true ↔
      server.jvm.jars.contains hash = true ∨ server.moduleJars.contains hash = true ∨
        ∃ deployment ∈ server.deployments, deployment.jars.contains hash = true := by
  have whole := Instance.contains_allJars (.appServer server) hash
  rw [Instance.allJars] at whole
  rw [whole, Bool.or_eq_true, Bool.or_eq_true, List.any_eq_true, or_assoc]
  rfl

end JarLedger
