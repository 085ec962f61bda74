import JarLedger.Sql.Read
import JarLedger.Sql.Write

/-!
# Stores behind a server

A store that keeps its instances with a peer that understands SQL.
-/

namespace JarLedger
namespace Sql

/-- The store behind a peer. -/
def store (peer : Peer σ) : Store (Connection σ) where
  begin := Connection.begin peer
  insert new := (writeInstance peer new).request
  lookup linkingHash := (lookup peer linkingHash).request
  add id jars := (addJars peer id jars).request
  commit := Connection.close peer .commit
  rollback := Connection.close peer .rollback
  abandon connection := connection.abandon peer
  find linkingHash := (find peer linkingHash).request
  delete linkingHash := (delete peer linkingHash).request
  counts := (counts peer).request

end Sql
end JarLedger
