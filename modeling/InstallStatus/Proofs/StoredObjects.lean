import Mathlib
import InstallStatus.Api.Store
import InstallStatus.Proofs.MetadataLaws
import InstallStatus.Proofs.StatusPatch

/-!
Instances as a server keeps them: documents that say where they are kept and in which version. The
patch of a pass, laid over the document that the pass has read, changes the version and the status,
and the result is again such a document.
-/

namespace InstallStatus

namespace ClusterInstance

theorem coherent_record : record.Coherent :=
  (Record.coherent_pure _).field _ |>.field _ |>.field _

/-- The three parts of an instance, each as it is read. -/
theorem decode_object_iff {fields : Json.Fields} (nodup : (fields.map Prod.fst).Nodup)
    {site : ClusterInstance} :
    decode (.object fields) = .ok site ↔
      (Field.required "metadata" Metadata.decode).ofFields fields = .ok site.metadata ∧
        (Field.required "spec" ClusterInstanceSpec.decode).ofFields fields = .ok site.spec ∧
          (Field.placed "status" ClusterInstanceStatus.decode).ofFields fields = .ok site.status := by
  rw [decode, Record.decode_object_iff coherent_record nodup]
  simp only [record, Record.ofFields_field_eq_ok, Record.ofFields_pure_eq_ok]
  constructor
  · rintro ⟨_, ⟨_, ⟨_, rfl, metadata, readMetadata, rfl⟩, spec, readSpec, rfl⟩, status, readStatus, rfl⟩
    exact ⟨readMetadata, readSpec, readStatus⟩
  · rintro ⟨readMetadata, readSpec, readStatus⟩
    exact ⟨_, ⟨_, ⟨_, rfl, _, readMetadata, rfl⟩, _, readSpec, rfl⟩, _, readStatus, rfl⟩

/-- The instance with another status, in another version. -/
def restated (version : String) (status : ClusterInstanceStatus) (site : ClusterInstance) :
    ClusterInstance :=
  { site with metadata := site.metadata.withVersion version, status := some status }

theorem placed_status_eq_ok {fields : Json.Fields} {status : Option ClusterInstanceStatus} :
    (Field.placed "status" ClusterInstanceStatus.decode).ofFields fields = .ok status ↔
      Decoder.optional ClusterInstanceStatus.decode ((fields.get? "status").getD .null) = .ok status := by
  unfold Field.ofFields Field.placed
  cases fields.get? "status" with
  | none => exact Iff.rfl
  | some value => exact Iff.rfl

end ClusterInstance

namespace Api

open ClusterInstanceStatus (ofStored Storable patchFields)

/-- The object with the patch laid over its status, under this version. -/
def patchedAs (version : String) (object body : Json) : Json :=
  let metadata := (object.member "metadata").fields.insert "resourceVersion" (.string version)
  let status := (object.member "status").merge (body.member "status")
  .object ((object.fields.insert "metadata" (.object metadata)).insert "status" status)

theorem patched_eq (object body : Json) :
    Store.patched object body =
      patchedAs (Store.nextVersion (Store.versionOf object)) object body := rfl

/-- A patch of a status touches the status and the version, and leaves the rest of the object. -/
theorem get?_patchedAs (version : String) (object body : Json) (key : String) :
    (patchedAs version object body).fields.get? key =
      if key = "status" then some ((object.member "status").merge (body.member "status"))
      else if key = "metadata" then
        some (.object ((object.member "metadata").fields.insert "resourceVersion" (.string version)))
      else object.fields.get? key := by
  rw [patchedAs, Json.fields, Json.Fields.get?_insert, Json.Fields.get?_insert]

theorem get?_status_patchedAs (version : String) (object body : Json) :
    (patchedAs version object body).fields.get? "status" =
      some ((object.member "status").merge (body.member "status")) := by
  rw [get?_patchedAs, if_pos rfl]

theorem member_metadata_patchedAs (version : String) (object body : Json) :
    (patchedAs version object body).member "metadata" =
      .object ((object.member "metadata").fields.insert "resourceVersion" (.string version)) := by
  rw [Json.member, get?_patchedAs, if_neg (by decide), if_pos rfl]
  rfl

theorem versionOf_patchedAs (version : String) (object body : Json) :
    Store.versionOf (patchedAs version object body) = version := by
  rw [Store.versionOf, textMember, member_metadata_patchedAs, Json.member, Json.fields,
    Json.Fields.get?_insert, if_pos rfl]
  rfl

/-- What a server answers for: the document of an instance is an object without repeated keys that
says where it is kept and carries a version, and what it has as a status is one. -/
structure Kept (id : ObjectId) (document : Json) : Prop where
  sorted : document.isSorted = true
  isObject : document = .object document.fields
  named : (document.member "metadata").fields.get? "name" = some (.string id.name)
  placed : (document.member "metadata").fields.get? "namespace" = some (.string id.namespaceName)
  versioned : ∃ version,
    (document.member "metadata").fields.get? "resourceVersion" = some (.string version)
  status : Storable (document.fields.get? "status")

namespace Kept

variable {id : ObjectId} {document : Json}

theorem sortedFields (kept : Kept id document) : document.fields.Sorted := Json.sorted_fields kept.sorted

theorem metadata_eq (kept : Kept id document) :
    document.fields.get? "metadata" = some (.object (document.member "metadata").fields) := by
  have named := kept.named
  have whole : document.member "metadata" = (document.fields.get? "metadata").getD .null := rfl
  cases found : document.fields.get? "metadata" with
  | none =>
    rw [whole, found] at named
    cases named
  | some metadata =>
    rw [whole, found, Option.getD_some] at named ⊢
    cases metadata with
    | object fields => rfl
    | _ => cases named

theorem sortedMetadata (kept : Kept id document) : (document.member "metadata").fields.Sorted :=
  Json.sorted_fields (Json.sorted_member kept.sorted "metadata")

theorem sortedStatus (kept : Kept id document) : (document.member "status").fields.Sorted :=
  Json.sorted_fields (Json.sorted_member kept.sorted "status")

/-- The version can be read where a pass reads it, which is what conflicts are told by. -/
theorem get?_resourceVersion (kept : Kept id document) :
    (document.member "metadata").fields.get? "resourceVersion" =
      some (.string (Store.versionOf document)) := by
  obtain ⟨version, found⟩ := kept.versioned
  have stored : Store.versionOf document = version := by
    rw [Store.versionOf, textMember, Json.member, found]
    rfl
  rw [found, stored]

/-- An instance read from such a document says where that is kept and in which version. -/
theorem decode_iff (kept : Kept id document) {site : ClusterInstance} :
    ClusterInstance.decode document = .ok site ↔
      Metadata.Reads (document.member "metadata").fields site.metadata ∧
        (Field.required "spec" ClusterInstanceSpec.decode).ofFields document.fields = .ok site.spec ∧
          Decoder.optional ClusterInstanceStatus.decode ((document.fields.get? "status").getD .null) =
            .ok site.status := by
  have parts : ClusterInstance.decode (.object document.fields) = .ok site ↔ _ :=
    ClusterInstance.decode_object_iff kept.sortedFields.nodup
  rw [← kept.isObject, ClusterInstance.placed_status_eq_ok] at parts
  have metadata : (Field.required "metadata" Metadata.decode).ofFields document.fields =
      Metadata.decode (.object (document.member "metadata").fields) := by
    rw [Field.ofFields]
    simp only [Field.required, kept.metadata_eq]
  rw [parts, metadata, Metadata.decode_object_iff]

/-- What is read from a document that a server keeps. -/
structure Describes (id : ObjectId) (document : Json) (site : ClusterInstance) : Prop where
  name : site.name = id.name
  namespaceName : site.metadata.namespaceName = some id.namespaceName
  version : site.metadata.resourceVersion = some (Store.versionOf document)
  status : ofStored (document.fields.get? "status") = .ok site.currentStatus

/-- An instance that was read from a stored object is named, placed and versioned as the object is. -/
theorem describes (kept : Kept id document) {site : ClusterInstance}
    (decoded : ClusterInstance.decode document = .ok site) : Describes id document site := by
  obtain ⟨reads, _, status⟩ := kept.decode_iff.mp decoded
  have nodup := kept.sortedMetadata.nodup
  have text : ∀ {key s : String} {read : Option String},
      (document.member "metadata").fields.get? key = some (.string s) →
      Json.optionalField (document.member "metadata").fields key Decoder.string = .ok read →
      read = some s := by
    intro key s read found field
    rw [Json.optionalField_eq nodup, Json.optional_string found] at field
    injection field with same
    exact same.symm
  refine ⟨?_, text kept.placed reads.namespaceName, text kept.get?_resourceVersion reads.resourceVersion,
    ?_⟩
  · rw [ClusterInstance.name, Metadata.displayName, text kept.named reads.name]
    rfl
  · rw [ofStored, status]
    rfl

end Kept

section Patch

variable {site : ClusterInstance} {difference : Json}

theorem member_patchBody : (Pass.patchBody site difference).member "status" = difference := by
  rw [Json.member, Pass.patchBody, Json.get?_ofFields?]
  cases site.metadata.resourceVersion with
  | none => rfl
  | some version => rfl

/-- The patch carries the version that was read, and so it is only taken if that is still stored. -/
theorem patchBody_version :
    ((Pass.patchBody site difference).member "metadata").fields.get? "resourceVersion" =
      site.metadata.resourceVersion.map Json.string := by
  rw [Json.member, Pass.patchBody, Json.get?_ofFields?]
  cases site.metadata.resourceVersion with
  | none => rfl
  | some version => rfl

/-- A server takes the patch of a pass over exactly the version that the pass has read. -/
theorem conflicts_patchBody {object : Json} {version : String}
    (read : site.metadata.resourceVersion = some version) :
    Store.conflicts object (Pass.patchBody site difference) = false ↔ version = Store.versionOf object := by
  rw [Store.conflicts, patchBody_version, read]
  simp [Json.same]

end Patch

/-- A server's document after the patch of a pass that has read it as this instance. -/
structure Rewritten (id : ObjectId) (version : String) (document : Json) (site : ClusterInstance)
    (after : ClusterInstanceStatus) (result : Json) : Prop where
  kept : Kept id result
  versionOf : Store.versionOf result = version
  decoded : ClusterInstance.decode result = .ok (site.restated version after)
  elsewhere : ∀ key, key ≠ "metadata" → key ≠ "status" →
    result.fields.get? key = document.fields.get? key
  statusElsewhere : ∀ key, key ∉ ClusterInstanceStatus.record.keys →
    (result.member "status").fields.get? key = (document.member "status").fields.get? key

/-- A patch of the status, laid over a document that a server keeps, leaves another one. -/
theorem Kept.patched {id : ObjectId} {document body : Json} (kept : Kept id document) (version : String)
    {patch : Json.Fields} (sent : body.member "status" = .object patch)
    (sorted : ∀ field ∈ patch, field.2.isSorted = true) : Kept id (patchedAs version document body) := by
  have stamped : ((document.member "metadata").fields.insert "resourceVersion" (.string version)).Sorted :=
    kept.sortedMetadata.insert "resourceVersion" rfl
  have merged : ((document.member "status").merge (body.member "status")).isSorted = true := by
    rw [sent, Json.merge]
    exact Json.isSorted_object.mpr (Json.sorted_mergeFields kept.sortedStatus _ sorted)
  have metadata := member_metadata_patchedAs version document body
  refine ⟨?_, rfl, ?_, ?_, ⟨version, ?_⟩, ?_⟩
  · refine Json.isSorted_object.mpr ((kept.sortedFields.insert _ ?_).insert _ merged)
    exact Json.isSorted_object.mpr stamped
  · rw [metadata, Json.fields, Json.Fields.get?_insert, if_neg (by decide)]
    exact kept.named
  · rw [metadata, Json.fields, Json.Fields.get?_insert, if_neg (by decide)]
    exact kept.placed
  · rw [metadata, Json.fields, Json.Fields.get?_insert, if_pos rfl]
  · rw [get?_status_patchedAs, sent, Json.merge]
    rw [sent, Json.merge] at merged
    exact ClusterInstanceStatus.storable_object (Json.isSorted_object.mp merged)

/-- Laid over the document that it was computed from, a patch makes of it the document of the wanted
status, and the rest of the document stays. -/
theorem Kept.rewritten {id : ObjectId} {document : Json} (kept : Kept id document)
    {site : ClusterInstance} (decoded : ClusterInstance.decode document = .ok site)
    {after : ClusterInstanceStatus} {difference : Json}
    (sent : site.currentStatus.patchTo after = .ok (some difference)) (version : String) :
    Rewritten id version document site after
      (patchedAs version document (Pass.patchBody site difference)) := by
  have differ : site.currentStatus ≠ after := by
    intro same
    rw [same, ClusterInstanceStatus.patchTo_self] at sent
    cases sent
  rw [ClusterInstanceStatus.patchTo_of_ne differ] at sent
  cases sent
  have before := (kept.describes decoded).status
  rw [ClusterInstanceStatus.ofStored_eq kept.status] at before
  set result := patchedAs version document
    (Pass.patchBody site (.object (patchFields site.currentStatus after))) with built
  have keptResult : Kept id result :=
    kept.patched version member_patchBody (ClusterInstanceStatus.sorted_patchFields _ after).2
  have status : result.fields.get? "status" = some (.object
      (Json.mergeFields (document.member "status").fields (patchFields site.currentStatus after))) := by
    rw [built, get?_status_patchedAs, member_patchBody, Json.merge]
  have elsewhere : ∀ key, key ≠ "metadata" → key ≠ "status" →
      result.fields.get? key = document.fields.get? key := by
    intro key notMetadata notStatus
    rw [built, get?_patchedAs, if_neg notStatus, if_neg notMetadata]
  refine ⟨keptResult, versionOf_patchedAs .., ?_, elsewhere, fun key unknown => ?_⟩
  · obtain ⟨reads, spec, _⟩ := kept.decode_iff.mp decoded
    refine keptResult.decode_iff.mpr ⟨?_, ?_, ?_⟩
    · rw [built, member_metadata_patchedAs]
      exact reads.withVersion kept.sortedMetadata.1 version
    · exact (Field.ofFields_congr _ (elsewhere "spec" (by decide) (by decide))).trans spec
    · rw [status, Option.getD_some, Decoder.optional_of_present _ rfl,
        ClusterInstanceStatus.decode_patched kept.sortedStatus before after]
      rfl
  · rw [Json.member, status]
    exact ClusterInstanceStatus.patched_elsewhere _ site.currentStatus after unknown

end Api

end InstallStatus
