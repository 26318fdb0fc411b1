import Mathlib
import InstallStatus.Resource.ClusterInstance
import InstallStatus.Proofs.RecordLaws

/-!
Metadata read from an object in which each key stands once. The fields are read independently of each
other, so to stamp a new version on the object is to stamp it on what is read.
-/

namespace InstallStatus

namespace Json

theorem checkOptional_eq_ok {check : String → Json → Except DecodeError Unit} {fields : Fields} :
    checkOptional check fields = .ok () ↔
      ∀ field ∈ fields, field.2.isNull = true ∨ check field.1 field.2 = .ok () := by
  induction fields with
  | nil => exact ⟨fun _ _ member => (nomatch member), fun _ => rfl⟩
  | cons first rest ih =>
    rw [List.forall_mem_cons, ← ih]
    simp only [checkOptional]
    cases null : first.2.isNull with
    | true =>
      simp only [Bool.not_true, Bool.false_eq_true, if_false, true_or, true_and]
    | false =>
      simp only [Bool.not_false, if_true, Except.bind_eq_ok, Bool.false_eq_true, false_or]
      exact ⟨fun ⟨_, here, later⟩ => ⟨here, later⟩, fun ⟨here, later⟩ => ⟨(), here, later⟩⟩

theorem optionalField_eq {α : Type} {fields : Fields} (nodup : (fields.map Prod.fst).Nodup)
    (key : String) (decode : Decoder α) :
    optionalField fields key decode = Decoder.optional decode ((fields.get? key).getD .null) := by
  rw [optionalField, Fields.last?_eq_get? nodup]

/-- An optional text that was read is the text that stands there. -/
theorem optional_string {value? : Option Json} {text : String}
    (found : value? = some (.string text)) :
    Decoder.optional Decoder.string (value?.getD .null) = .ok (some text) := by
  rw [found]
  rfl

end Json

namespace Metadata

/-- What it takes to read metadata from the fields of an object. -/
structure Reads (fields : Json.Fields) (m : Metadata) : Prop where
  checked : Json.checkOptional checkField fields = .ok ()
  name : Json.optionalField fields "name" Decoder.string = .ok m.name
  namespaceName : Json.optionalField fields "namespace" Decoder.string = .ok m.namespaceName
  generateName : Json.optionalField fields "generateName" Decoder.string = .ok m.generateName
  generation : Json.optionalField fields "generation" Decoder.int64 = .ok m.generation
  resourceVersion : Json.optionalField fields "resourceVersion" Decoder.string = .ok m.resourceVersion
  uid : Json.optionalField fields "uid" Decoder.string = .ok m.uid
  labels : Json.optionalField fields "labels" (Decoder.map Decoder.string) = .ok m.labels
  annotations : Json.optionalField fields "annotations" (Decoder.map Decoder.string) = .ok m.annotations
  finalizers : Json.optionalField fields "finalizers" (Decoder.list Decoder.string) = .ok m.finalizers
  ownerReferences :
    Json.optionalField fields "ownerReferences" (Decoder.list OwnerReference.decode) = .ok m.ownerReferences
  creationTimestamp :
    Json.optionalField fields "creationTimestamp" Decoder.timestamp = .ok m.creationTimestamp
  deletionTimestamp :
    Json.optionalField fields "deletionTimestamp" Decoder.timestamp = .ok m.deletionTimestamp
  deletionGracePeriodSeconds :
    Json.optionalField fields "deletionGracePeriodSeconds" Decoder.int64 = .ok m.deletionGracePeriodSeconds
  selfLink : Json.optionalField fields "selfLink" Decoder.string = .ok m.selfLink
  managedFields :
    Json.optionalField fields "managedFields" (Decoder.list ManagedFields.decode) = .ok m.managedFields

/-- Metadata are read field by field, and the order of the fields does not matter. -/
theorem decode_object_iff {fields : Json.Fields} {m : Metadata} :
    decode (.object fields) = .ok m ↔ Reads fields m := by
  simp only [decode, Except.bind_eq_ok]
  constructor
  · rintro ⟨_, checked, name, readName, ns, readNs, stem, readStem, generation, readGeneration, version,
      readVersion, uid, readUid, labels, readLabels, annotations, readAnnotations, finalizers,
      readFinalizers, owners, readOwners, created, readCreated, deleted, readDeleted, grace, readGrace,
      link, readLink, managed, readManaged, whole⟩
    cases whole
    exact ⟨checked, readName, readNs, readStem, readGeneration, readVersion, readUid, readLabels,
      readAnnotations, readFinalizers, readOwners, readCreated, readDeleted, readGrace, readLink,
      readManaged⟩
  · intro reads
    exact ⟨(), reads.checked, _, reads.name, _, reads.namespaceName, _, reads.generateName, _,
      reads.generation, _, reads.resourceVersion, _, reads.uid, _, reads.labels, _, reads.annotations, _,
      reads.finalizers, _, reads.ownerReferences, _, reads.creationTimestamp, _, reads.deletionTimestamp,
      _, reads.deletionGracePeriodSeconds, _, reads.selfLink, _, reads.managedFields, rfl⟩

/-- The metadata with another version. -/
def withVersion (version : String) (m : Metadata) : Metadata := { m with resourceVersion := some version }

/-- A server gives an object a new version with each write. The metadata are otherwise read as before. -/
theorem Reads.withVersion {fields : Json.Fields} {m : Metadata} (reads : Reads fields m)
    (ascending : fields.Ascending) (version : String) :
    Reads (fields.insert "resourceVersion" (.string version)) (m.withVersion version) := by
  have nodup := ascending.nodup
  have stamped := (ascending.insert "resourceVersion" (.string version)).nodup
  have others : ∀ {α : Type} (key : String) (decode : Decoder α), key ≠ "resourceVersion" →
      Json.optionalField (fields.insert "resourceVersion" (.string version)) key decode =
        Json.optionalField fields key decode := by
    intro α key decode other
    rw [Json.optionalField_eq stamped, Json.optionalField_eq nodup, Json.Fields.get?_insert, if_neg other]
  refine ⟨?_, ?_, ?_, ?_, ?_, ?_, ?_, ?_, ?_, ?_, ?_, ?_, ?_, ?_, ?_, ?_⟩
  · refine Json.checkOptional_eq_ok.mpr fun field member => ?_
    rcases Json.Fields.mem_insert member with here | earlier
    · subst here
      exact .inr rfl
    · exact Json.checkOptional_eq_ok.mp reads.checked field earlier
  · exact (others "name" _ (by decide)).trans reads.name
  · exact (others "namespace" _ (by decide)).trans reads.namespaceName
  · exact (others "generateName" _ (by decide)).trans reads.generateName
  · exact (others "generation" _ (by decide)).trans reads.generation
  · rw [Json.optionalField_eq stamped, Json.Fields.get?_insert, if_pos rfl]
    rfl
  · exact (others "uid" _ (by decide)).trans reads.uid
  · exact (others "labels" _ (by decide)).trans reads.labels
  · exact (others "annotations" _ (by decide)).trans reads.annotations
  · exact (others "finalizers" _ (by decide)).trans reads.finalizers
  · exact (others "ownerReferences" _ (by decide)).trans reads.ownerReferences
  · exact (others "creationTimestamp" _ (by decide)).trans reads.creationTimestamp
  · exact (others "deletionTimestamp" _ (by decide)).trans reads.deletionTimestamp
  · exact (others "deletionGracePeriodSeconds" _ (by decide)).trans reads.deletionGracePeriodSeconds
  · exact (others "selfLink" _ (by decide)).trans reads.selfLink
  · exact (others "managedFields" _ (by decide)).trans reads.managedFields

end Metadata

end InstallStatus
