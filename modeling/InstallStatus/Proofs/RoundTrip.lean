import Mathlib
import InstallStatus.Proofs.PrinterLaws
import InstallStatus.Proofs.StatusPatch
import InstallStatus.Proofs.UnknownKeys

/-!
What is written of a value tells the value. Main statement: each kind of value that is kept on a server is
read back from what is written of it, and still so when others have put keys of their own next to the
known ones, in any of its objects.
-/

namespace InstallStatus

/-- Documents that tell the value they are written for: it is read back, no other value has the same
text, and keys that others have added, anywhere in the document, do not disturb the reading. -/
structure Faithful {α : Type} (encode : α → Json) (decode : Decoder α) (shape : Shape) : Prop where
  reads : ∀ a, decode (encode a) = .ok a
  distinct : ∀ a b, (encode a).compact = (encode b).compact → a = b
  ignores : ∀ a document, Relation.ReflTransGen (Json.Grows shape) (encode a) document →
    decode document = .ok a

/-- A record is faithful by three facts, each proved field by field. -/
theorem Faithful.intro {α : Type} {encode : α → Json} {decode : Decoder α} {shape : Shape}
    (inverse : ∀ a, decode (encode a) = .ok a) (tidy : ∀ a, (encode a).Tidy)
    (overlooks : decode.Overlooks shape) : Faithful encode decode shape where
  reads := inverse
  distinct a b same := by
    have documents := (Json.compact_inj (tidy a).whole (tidy b).whole).mp same
    have read : Except.ok a = Except.ok (ε := DecodeError) b := by rw [← inverse a, documents, inverse b]
    exact Except.ok.inj read
  ignores a _ grown := overlooks.grown grown (inverse a)

namespace Condition

def shape : Shape :=
  .record [("type", .leaf), ("status", .leaf), ("reason", .leaf), ("message", .leaf),
    ("observedGeneration", .leaf), ("lastTransitionTime", .leaf)]

theorem overlooks_decode : Decoder.Overlooks decode shape :=
  Record.Overlooks.decode
    ((Record.overlooks_pure _).field Decoder.overlooks_leaf |>.field Decoder.overlooks_leaf
      |>.field Decoder.overlooks_leaf |>.field Decoder.overlooks_leaf
      |>.field Decoder.overlooks_leaf |>.field Decoder.overlooks_leaf) _

end Condition

namespace DeploymentCondition

def shape : Shape :=
  .record [("type", .leaf), ("status", .leaf), ("reason", .leaf), ("message", .leaf),
    ("lastProbeTime", .leaf), ("lastTransitionTime", .leaf)]

theorem overlooks_decode : Decoder.Overlooks decode shape :=
  Record.Overlooks.decode
    ((Record.overlooks_pure _).field Decoder.overlooks_leaf |>.field Decoder.overlooks_leaf
      |>.field Decoder.overlooks_leaf |>.field Decoder.overlooks_leaf
      |>.field Decoder.overlooks_leaf |>.field Decoder.overlooks_leaf) _

end DeploymentCondition

namespace LocalReference

def shape : Shape := .record [("name", .leaf)]

theorem overlooks_decode : Decoder.Overlooks decode shape :=
  Record.Overlooks.decode ((Record.overlooks_pure _).field Decoder.overlooks_leaf) _

end LocalReference

namespace ClusterDeploymentSpec

def shape : Shape := .record [("clusterName", .leaf), ("installed", .leaf)]

theorem overlooks_decode : Decoder.Overlooks decode shape :=
  Record.Overlooks.decode
    ((Record.overlooks_pure _).field Decoder.overlooks_leaf |>.field Decoder.overlooks_leaf) _

theorem coherent_record : record.Coherent := (Record.coherent_pure _).field _ |>.field _

theorem decode_encode (spec : ClusterDeploymentSpec) : decode spec.encode = .ok spec := by
  rw [decode, encode, Json.ofFields?_eq, Record.decode_object_iff coherent_record (Json.nodup_ofFields? _)]
  simp only [record, Record.ofFields_field_eq_ok, Record.ofFields_pure_eq_ok]
  refine ⟨_, ⟨_, rfl, spec.clusterName, ?_, rfl⟩, spec.installed, ?_, rfl⟩
  · exact Field.ofFields_optional Decoder.string_string (fun _ => rfl)
      (by simp [Json.get?_ofFields?, Json.textField])
  · exact Field.ofFields_defaulted Decoder.bool_bool (by simp [Json.get?_ofFields?])

theorem tidy_encode (spec : ClusterDeploymentSpec) : spec.encode.Tidy := by
  refine Json.closed_tidy.object ?_
  simp only [List.forall_mem_cons]
  exact ⟨Json.field_map Json.closed_tidy.string, Json.field_some ⟨rfl, rfl⟩, nofun⟩

end ClusterDeploymentSpec

namespace ClusterDeploymentStatus

def shape : Shape := .record [("conditions", .list DeploymentCondition.shape)]

theorem overlooks_decode : Decoder.Overlooks decode shape :=
  Record.Overlooks.decode
    ((Record.overlooks_pure _).field DeploymentCondition.overlooks_decode.list) _

theorem coherent_record : record.Coherent := (Record.coherent_pure _).field _

theorem decode_encode (status : ClusterDeploymentStatus) : decode status.encode = .ok status := by
  rw [decode, encode, Json.ofFields?_eq, Record.decode_object_iff coherent_record (Json.nodup_ofFields? _)]
  refine Record.ofFields_field_eq_ok.mpr ⟨_, rfl, status.conditions, ?_, rfl⟩
  exact Field.ofFields_list DeploymentCondition.decode_encode (by simp [Json.get?_ofFields?])

theorem tidy_encode (status : ClusterDeploymentStatus) : status.encode.Tidy := by
  refine Json.closed_tidy.object ?_
  simp only [List.forall_mem_cons]
  exact ⟨Json.closed_tidy.listField DeploymentCondition.tidy_encode, nofun⟩

end ClusterDeploymentStatus

namespace ClusterInstanceSpec

def shape : Shape :=
  .record [("clusterName", .leaf), ("baseDomain", .leaf), ("clusterImageSetNameRef", .leaf)]

theorem overlooks_decode : Decoder.Overlooks decode shape :=
  Record.Overlooks.decode
    ((Record.overlooks_pure _).field Decoder.overlooks_leaf |>.field Decoder.overlooks_leaf
      |>.field Decoder.overlooks_leaf) _

theorem coherent_record : record.Coherent :=
  (Record.coherent_pure _).field _ |>.field _ |>.field _

theorem decode_encode (spec : ClusterInstanceSpec) : decode spec.encode = .ok spec := by
  rw [decode, encode, Json.ofFields?_eq, Record.decode_object_iff coherent_record (Json.nodup_ofFields? _)]
  simp only [record, Record.ofFields_field_eq_ok, Record.ofFields_pure_eq_ok]
  refine ⟨_, ⟨_, ⟨_, rfl, spec.clusterName, ?_, rfl⟩, spec.baseDomain, ?_, rfl⟩,
    spec.clusterImageSetNameRef, ?_, rfl⟩
  · exact Field.ofFields_defaulted Decoder.string_string (by simp [Json.get?_ofFields?, Json.textField])
  · exact Field.ofFields_optional Decoder.string_string (fun _ => rfl)
      (by simp [Json.get?_ofFields?, Json.textField])
  · exact Field.ofFields_optional Decoder.string_string (fun _ => rfl)
      (by simp [Json.get?_ofFields?, Json.textField])

theorem tidy_encode (spec : ClusterInstanceSpec) : spec.encode.Tidy := by
  refine Json.closed_tidy.object ?_
  simp only [List.forall_mem_cons]
  exact ⟨Json.field_some (Json.closed_tidy.string _), Json.field_map Json.closed_tidy.string,
    Json.field_map Json.closed_tidy.string, nofun⟩

end ClusterInstanceSpec

namespace ClusterInstanceStatus

def shape : Shape :=
  .record [("clusterDeploymentRef", LocalReference.shape),
    ("deploymentConditions", .list DeploymentCondition.shape), ("conditions", .list Condition.shape)]

theorem overlooks_decode : Decoder.Overlooks decode shape :=
  Record.Overlooks.decode
    ((Record.overlooks_pure _).field LocalReference.overlooks_decode.optional
      |>.field DeploymentCondition.overlooks_decode.list
      |>.field Condition.overlooks_decode.list) _

end ClusterInstanceStatus

/-- What is written of each kind of value tells the value, whatever unknown keys it is mixed with. -/
theorem wire_faithful :
    Faithful Condition.encode Condition.decode Condition.shape ∧
      Faithful DeploymentCondition.encode DeploymentCondition.decode DeploymentCondition.shape ∧
      Faithful LocalReference.encode LocalReference.decode LocalReference.shape ∧
      Faithful ClusterDeploymentSpec.encode ClusterDeploymentSpec.decode ClusterDeploymentSpec.shape ∧
      Faithful ClusterDeploymentStatus.encode ClusterDeploymentStatus.decode
        ClusterDeploymentStatus.shape ∧
      Faithful ClusterInstanceSpec.encode ClusterInstanceSpec.decode ClusterInstanceSpec.shape ∧
      Faithful ClusterInstanceStatus.encode ClusterInstanceStatus.decode ClusterInstanceStatus.shape :=
  ⟨.intro Condition.decode_encode Condition.tidy_encode Condition.overlooks_decode,
    .intro DeploymentCondition.decode_encode DeploymentCondition.tidy_encode
      DeploymentCondition.overlooks_decode,
    .intro LocalReference.decode_encode LocalReference.tidy_encode LocalReference.overlooks_decode,
    .intro ClusterDeploymentSpec.decode_encode ClusterDeploymentSpec.tidy_encode
      ClusterDeploymentSpec.overlooks_decode,
    .intro ClusterDeploymentStatus.decode_encode ClusterDeploymentStatus.tidy_encode
      ClusterDeploymentStatus.overlooks_decode,
    .intro ClusterInstanceSpec.decode_encode ClusterInstanceSpec.tidy_encode
      ClusterInstanceSpec.overlooks_decode,
    .intro ClusterInstanceStatus.decode_encode ClusterInstanceStatus.tidy_encode
      ClusterInstanceStatus.overlooks_decode⟩

end InstallStatus
