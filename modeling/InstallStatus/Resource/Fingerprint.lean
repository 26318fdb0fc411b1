import InstallStatus.Json.Printer
import InstallStatus.Resource.ClusterInstance

/-!
The fingerprint by which a watcher tells whether an instance changed. It is the hash of octets that cover
the generation and the whole status except the times at which the copied conditions were last observed, so
writing those times alone is no change. The status is covered by the text it is written in, with its fields
in the order they are declared.
-/

namespace InstallStatus

namespace Fingerprint

/-- Eight octets, the lowest first. -/
def wordOctets (word : UInt64) : List UInt8 :=
  (List.range 8).map fun i => (word >>> (8 * i.toUInt64)).toUInt8

/-- Zero for none; one and the number otherwise. -/
def generationOctets : Option Int64 → List UInt8
  | none => wordOctets 0
  | some n => wordOctets 1 ++ wordOctets n.toUInt64

/-- The text of a status and an octet that no text holds. None if the status cannot be written. -/
def statusOctets? (status : ClusterInstanceStatus) : Option (List UInt8) :=
  (status.unprobed.serialize Json.inOrder).text?.map fun text => text.toUTF8.toList ++ [0xFF]

end Fingerprint

namespace ClusterInstance

/-- What is hashed of an instance; a status that is missing adds nothing. -/
def octets? (site : ClusterInstance) : Option (List UInt8) := do
  let statusOctets ← match site.status with
    | some status => Fingerprint.statusOctets? status
    | none => pure []
  return Fingerprint.generationOctets site.metadata.generation ++ statusOctets

def fingerprint? (hash : List UInt8 → UInt64) (site : ClusterInstance) : Option UInt64 :=
  site.octets?.map hash

end ClusterInstance

end InstallStatus
