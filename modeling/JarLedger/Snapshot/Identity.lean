import JarLedger.Bytes.Hex
import JarLedger.Bytes.Utf8
import JarLedger.Digest.Sha2

/-!
# Identity of a virtual machine

The fields that identify one machine across snapshots, and the linking hash made of them: the
SHA-256 digest of the fields' texts with a zero byte between neighbours.
-/

namespace JarLedger

/-- The fields that identify one virtual machine. -/
structure Identity where
  hostname : String
  launchTime : Int64
  vendor : Option String
  versionString : Option String
  javaHome : Option String
  pid : Option Int64
  deriving DecidableEq

namespace Identity

/-- The texts of the fields; an absent one is empty. -/
def parts (identity : Identity) : List String :=
  [identity.hostname, toString identity.launchTime.toInt, identity.vendor.getD "",
    identity.versionString.getD "", identity.javaHome.getD "",
    (identity.pid.map fun pid => toString pid.toInt).getD ""]

/-- The bytes that are digested. -/
def preimage (identity : Identity) : List UInt8 :=
  [(0 : UInt8)].intercalate (identity.parts.map Utf8.encode)

/-- Hexadecimal digest of the fields. -/
def linkingHash (identity : Identity) : String := Hex.encode (Sha2.sha256 identity.preimage)

end Identity
end JarLedger
