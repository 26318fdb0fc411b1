import Mathlib
import InstallStatus.Projection
import InstallStatus.Proofs.WireFormat

/-!
The patch between two statuses, laid over a stored document that the first one was read from. The
document may hold keys that no status has, at any depth; the patch is computed without knowing them.
Main statement: the patch is none exactly for equal statuses, and otherwise the patched document reads
as the second status and keeps all that the patch has no business with.
-/

namespace InstallStatus

open Json (mergeFields merge)

namespace ClusterInstanceStatus

/-- The status that a stored document stands for: the empty one where there is none or null. -/
def ofStored (stored : Option Json) : Except DecodeError ClusterInstanceStatus :=
  (Decoder.optional decode (stored.getD .null)).map (Option.getD · empty)

/-- What a server keeps as a status: nothing, null, or an object, each key in it once. -/
def Storable (stored : Option Json) : Prop :=
  (stored.getD .null).isSorted = true ∧
    (stored.getD .null = .null ∨ ∃ fields, stored.getD .null = .object fields)

theorem Storable.sorted {stored : Option Json} (storable : Storable stored) :
    (stored.getD .null).fields.Sorted := Json.sorted_fields storable.1

theorem storable_object {fields : Json.Fields} (sorted : fields.Sorted) :
    Storable (some (.object fields)) :=
  ⟨Json.isSorted_object.mpr sorted, .inr ⟨fields, rfl⟩⟩

theorem ofStored_object (fields : Json.Fields) :
    ofStored (some (.object fields)) = decode (.object fields) := by
  rw [ofStored, Option.getD_some, Decoder.optional_of_present _ rfl]
  cases decode (.object fields) <;> rfl

/-- Read by its fields, absence and null are the empty object. -/
theorem ofStored_eq {stored : Option Json} (storable : Storable stored) :
    ofStored stored = decode (.object (stored.getD .null).fields) := by
  rcases storable.2 with null | ⟨fields, object⟩
  · have nothing : decode (.object []) = .ok empty := rfl
    rw [ofStored, null]
    exact nothing.symm
  · rw [← ofStored_object, ofStored, ofStored, object]
    rfl

/-- Nothing of a status is lost when it is written: what is left out is what stands for absence. -/
theorem decode_encode (status : ClusterInstanceStatus) : decode status.encode = .ok status := by
  rw [encode_eq, Json.ofFields?_eq, decode_object_iff (Json.nodup_ofFields? _), ← encode_eq]
  refine ⟨Field.ofFields_optional LocalReference.decode_encode (fun _ => rfl) (get?_encode _ _),
    Field.ofFields_list DeploymentCondition.decode_encode ?_,
    Field.ofFields_list Condition.decode_encode ?_⟩
  · simp [get?_encode]
  · simp [get?_encode]

/-- The fields of what is written for a status, each as it is read back. -/
theorem reads_encode (status : ClusterInstanceStatus) :
    (Field.optional "clusterDeploymentRef" LocalReference.decode).ofFields status.encode.fields =
        .ok status.clusterDeploymentRef ∧
      (Field.defaulted "deploymentConditions" (Decoder.list DeploymentCondition.decode) []).ofFields
          status.encode.fields = .ok status.deploymentConditions ∧
        (Field.defaulted "conditions" (Decoder.list Condition.decode) []).ofFields
          status.encode.fields = .ok status.conditions :=
  (decode_object_iff (Json.nodup_ofFields? _)).mp (decode_encode status)

/-- No field is written as null, so that null in a patch can only mean to take a key out. -/
theorem get?_encode_present {status : ClusterInstanceStatus} {key : String} {value : Json}
    (found : status.encode.fields.get? key = some value) : value.isNull = false := by
  rw [get?_encode] at found
  split at found
  · obtain ⟨reference, _, rfl⟩ := Option.map_eq_some_iff.mp found
    rfl
  · split at found
    · cases found
      rfl
    · split at found
      · cases found
        rfl
      · cases found

theorem get?_encode_unknown (status : ClusterInstanceStatus) {key : String}
    (unknown : key ∉ record.keys) : status.encode.fields.get? key = none := by
  change key ∉ ["clusterDeploymentRef", "deploymentConditions", "conditions"] at unknown
  simp only [List.mem_cons, List.not_mem_nil, or_false, not_or] at unknown
  rw [get?_encode, if_neg unknown.1, if_neg fun here => unknown.2.1 here.1,
    if_neg fun here => unknown.2.2 here.1]

/-- The fields of the patch between two statuses. -/
def patchFields (before after : ClusterInstanceStatus) : Json.Fields :=
  before.encode.fields.patchTo after.encode.fields

theorem patchTo_eq (before after : ClusterInstanceStatus) :
    before.patchTo after =
      .ok (if (patchFields before after).isEmpty then none
        else some (.object (patchFields before after))) := rfl

theorem sorted_patchFields (before after : ClusterInstanceStatus) :
    (patchFields before after).Sorted := by
  refine Json.Fields.sorted_ofList fun field member => ?_
  rcases List.mem_append.mp member with changed | gone
  · exact (Json.sorted_fields after.tidy_encode.sorted).2 field (List.mem_filter.mp changed).1
  · obtain ⟨_, _, rfl⟩ := List.mem_map.mp gone
    rfl

/-- The patch is made field by field; without floating-point numbers a field is in it exactly if it
differs. -/
theorem get?_patchFields (before after : ClusterInstanceStatus) (key : String) :
    (patchFields before after).get? key =
      if before.encode.fields.get? key = after.encode.fields.get? key then none
      else some ((after.encode.fields.get? key).getD .null) :=
  Json.Fields.get?_patchTo_whole (Json.nodup_ofFields? _) (Json.nodup_ofFields? _)
    (Json.isWhole_object.mp before.tidy_encode.whole) key

/-- What a key carries after the patch: what it carried before where the two statuses agree, and
otherwise what the second status has there, laid over what was there. -/
theorem get?_patched (fields : Json.Fields) (before after : ClusterInstanceStatus) (key : String) :
    (mergeFields fields (patchFields before after)).get? key =
      if before.encode.fields.get? key = after.encode.fields.get? key then fields.get? key
      else (after.encode.fields.get? key).map (merge ((fields.get? key).getD .null)) := by
  rw [Json.get?_mergeFields (sorted_patchFields before after).nodup, get?_patchFields]
  by_cases same : before.encode.fields.get? key = after.encode.fields.get? key
  · simp only [if_pos same]
  · simp only [if_neg same]
    cases found : after.encode.fields.get? key with
    | none => rfl
    | some value =>
      simp only [Option.getD_some, get?_encode_present found, Bool.false_eq_true, if_false,
        Option.map_some]

/-- A field at which the two statuses agree on the wire has one value in both. -/
theorem field_eq_of_get?_eq {α : Type} {field : Field α} {before after : ClusterInstanceStatus}
    {old new : α} (readOld : field.ofFields before.encode.fields = .ok old)
    (readNew : field.ofFields after.encode.fields = .ok new)
    (same : before.encode.fields.get? field.key = after.encode.fields.get? field.key) : old = new := by
  rw [field.ofFields_congr same, readNew] at readOld
  exact (Except.ok.inj readOld).symm

/-- A field that the patch either leaves alone or overwrites whole. -/
theorem read_patched {α : Type} {field : Field α} {fields : Json.Fields}
    {before after : ClusterInstanceStatus} {old new : α} (read : field.ofFields fields = .ok old)
    (readOld : field.ofFields before.encode.fields = .ok old)
    (readNew : field.ofFields after.encode.fields = .ok new)
    (whole : ∀ value, after.encode.fields.get? field.key = some value →
      merge ((fields.get? field.key).getD .null) value = value) :
    field.ofFields (mergeFields fields (patchFields before after)) = .ok new := by
  have carried := get?_patched fields before after field.key
  split at carried
  · rename_i same
    rw [field.ofFields_congr carried, read, field_eq_of_get?_eq readOld readNew same]
  · rw [← readNew]
    refine field.ofFields_congr (carried.trans ?_)
    cases found : after.encode.fields.get? field.key with
    | none => rfl
    | some value => rw [Option.map_some, whole value found]

theorem merge_reference (target : Json) (reference : LocalReference) :
    merge target reference.encode =
      .object (target.fields.insert "name" (.string reference.name)) := rfl

/-- The reference is the one field that is patched inside: a new name is laid over the old object,
whose other keys stay. -/
theorem read_patched_reference {fields : Json.Fields} (sorted : fields.Sorted)
    {before : ClusterInstanceStatus} (after : ClusterInstanceStatus)
    (read : (Field.optional "clusterDeploymentRef" LocalReference.decode).ofFields fields =
      .ok before.clusterDeploymentRef) :
    (Field.optional "clusterDeploymentRef" LocalReference.decode).ofFields
      (mergeFields fields (patchFields before after)) = .ok after.clusterDeploymentRef := by
  have carried := get?_patched fields before after "clusterDeploymentRef"
  have wanted : after.encode.fields.get? "clusterDeploymentRef" =
      after.clusterDeploymentRef.map LocalReference.encode := by rw [get?_encode, if_pos rfl]
  split at carried
  · rename_i same
    have agree := field_eq_of_get?_eq (reads_encode before).1 (reads_encode after).1 same
    rw [Field.ofFields_congr _ carried, read, agree]
  · rw [wanted] at carried
    refine Field.ofFields_eq_ok.mpr ?_
    cases reference : after.clusterDeploymentRef with
    | none => exact .inr ⟨by rw [reference] at carried; exact carried, rfl⟩
    | some target =>
      rw [reference] at carried
      refine .inl ⟨_, carried, ?_⟩
      have inner : ((fields.get? "clusterDeploymentRef").getD .null).fields.Sorted :=
        Json.sorted_fields (sorted.getD _)
      have named := (inner.insert "name" (Json.closed_tidy.string target.name).sorted).nodup
      rw [Field.decode_optional, merge_reference, Decoder.optional_of_present _ rfl,
        LocalReference.decode_of_name named (by rw [Json.Fields.get?_insert, if_pos rfl])]
      rfl

/-- An object read as one status, once the patch to another is laid over it, reads as that one. -/
theorem decode_patched {fields : Json.Fields} (sorted : fields.Sorted)
    {before : ClusterInstanceStatus} (decoded : decode (.object fields) = .ok before)
    (after : ClusterInstanceStatus) :
    decode (.object (mergeFields fields (patchFields before after))) = .ok after := by
  have patched : (mergeFields fields (patchFields before after)).Sorted :=
    Json.sorted_mergeFields sorted _ (sorted_patchFields before after).2
  obtain ⟨readReference, readCopied, readGeneral⟩ := (decode_object_iff sorted.nodup).mp decoded
  obtain ⟨_, oldCopied, oldGeneral⟩ := reads_encode before
  obtain ⟨_, newCopied, newGeneral⟩ := reads_encode after
  have listed : ∀ key, key ≠ "clusterDeploymentRef" → ∀ value,
      after.encode.fields.get? key = some value → ∀ target, merge target value = value := by
    intro key other value found target
    rw [get?_encode, if_neg other] at found
    split at found
    · cases found
      rfl
    · split at found
      · cases found
        rfl
      · cases found
  refine (decode_object_iff patched.nodup).mpr
    ⟨read_patched_reference sorted after readReference, ?_, ?_⟩
  · exact read_patched readCopied oldCopied newCopied fun value found =>
      listed "deploymentConditions" (by decide) value found _
  · exact read_patched readGeneral oldGeneral newGeneral fun value found =>
      listed "conditions" (by decide) value found _

theorem patchFields_eq_nil_iff {before after : ClusterInstanceStatus} :
    patchFields before after = [] ↔ before = after := by
  rw [Json.Fields.eq_nil_iff_get?]
  constructor
  · intro nothing
    have agree : ∀ key, before.encode.fields.get? key = after.encode.fields.get? key := by
      intro key
      have absent := nothing key
      rw [get?_patchFields] at absent
      by_contra differ
      rw [if_neg differ] at absent
      cases absent
    obtain ⟨oldReference, oldCopied, oldGeneral⟩ := reads_encode before
    obtain ⟨newReference, newCopied, newGeneral⟩ := reads_encode after
    have reference := field_eq_of_get?_eq oldReference newReference (agree _)
    have copied := field_eq_of_get?_eq oldCopied newCopied (agree _)
    have general := field_eq_of_get?_eq oldGeneral newGeneral (agree _)
    cases before
    cases after
    simp_all
  · rintro rfl key
    rw [get?_patchFields, if_pos rfl]

/-- Keys that are not known here are kept as they are stored. -/
theorem patched_elsewhere (fields : Json.Fields) (before after : ClusterInstanceStatus) {key : String}
    (unknown : key ∉ record.keys) :
    (mergeFields fields (patchFields before after)).get? key = fields.get? key := by
  rw [get?_patched, get?_encode_unknown before unknown, get?_encode_unknown after unknown, if_pos rfl]

/-- A field that does not change is not touched, nor is what is stored inside it. -/
theorem patched_reference {before after : ClusterInstanceStatus} (fields : Json.Fields)
    (same : before.clusterDeploymentRef = after.clusterDeploymentRef) :
    (mergeFields fields (patchFields before after)).get? "clusterDeploymentRef" =
      fields.get? "clusterDeploymentRef" := by
  rw [get?_patched, get?_encode, get?_encode, if_pos rfl, if_pos rfl, same, if_pos rfl]

theorem patched_deploymentConditions {before after : ClusterInstanceStatus} (fields : Json.Fields)
    (same : before.deploymentConditions = after.deploymentConditions) :
    (mergeFields fields (patchFields before after)).get? "deploymentConditions" =
      fields.get? "deploymentConditions" := by
  have agree : before.encode.fields.get? "deploymentConditions" =
      after.encode.fields.get? "deploymentConditions" := by
    rw [get?_encode, get?_encode, same]
    rfl
  rw [get?_patched, if_pos agree]

theorem patched_conditions {before after : ClusterInstanceStatus} (fields : Json.Fields)
    (same : before.conditions = after.conditions) :
    (mergeFields fields (patchFields before after)).get? "conditions" = fields.get? "conditions" := by
  have agree : before.encode.fields.get? "conditions" = after.encode.fields.get? "conditions" := by
    rw [get?_encode, get?_encode, same]
    rfl
  rw [get?_patched, if_pos agree]

/-- The patch sent for two statuses that differ. -/
theorem patchTo_of_ne {before after : ClusterInstanceStatus} (differ : before ≠ after) :
    before.patchTo after = .ok (some (.object (patchFields before after))) := by
  have present : (patchFields before after).isEmpty = false := by
    rw [List.isEmpty_eq_false_iff]
    exact fun nothing => differ (patchFields_eq_nil_iff.mp nothing)
  rw [patchTo_eq, present]
  rfl

theorem patchTo_self (status : ClusterInstanceStatus) : status.patchTo status = .ok none := by
  rw [patchTo_eq, patchFields_eq_nil_iff.mpr rfl]
  rfl

/-- A patch against a stored document is right about that document, whatever else it holds: there is
none exactly for equal statuses, and otherwise the patched document reads as the second status, with
every other key as it was and each of the three fields as it was where the two statuses agree on it. -/
theorem patchTo_fits_stored {stored : Option Json} (storable : Storable stored)
    {before : ClusterInstanceStatus} (read : ofStored stored = .ok before)
    (after : ClusterInstanceStatus) :
    ∃ patch?, before.patchTo after = .ok patch? ∧ (patch? = none ↔ before = after) ∧
      ∀ patch ∈ patch?,
        ofStored (some (merge (stored.getD .null) patch)) = .ok after ∧
        (∀ key, key ∉ record.keys → (merge (stored.getD .null) patch).fields.get? key =
          (stored.getD .null).fields.get? key) ∧
        (before.clusterDeploymentRef = after.clusterDeploymentRef →
          (merge (stored.getD .null) patch).fields.get? "clusterDeploymentRef" =
            (stored.getD .null).fields.get? "clusterDeploymentRef") ∧
        (before.deploymentConditions = after.deploymentConditions →
          (merge (stored.getD .null) patch).fields.get? "deploymentConditions" =
            (stored.getD .null).fields.get? "deploymentConditions") ∧
        (before.conditions = after.conditions →
          (merge (stored.getD .null) patch).fields.get? "conditions" =
            (stored.getD .null).fields.get? "conditions") := by
  by_cases equal : before = after
  · subst equal
    exact ⟨none, patchTo_self before, ⟨fun _ => rfl, fun _ => rfl⟩, nofun⟩
  · refine ⟨_, patchTo_of_ne equal, ⟨nofun, fun same => absurd same equal⟩, ?_⟩
    rintro patch ⟨⟩
    rw [ofStored_eq storable] at read
    refine ⟨?_, fun key unknown => ?_, fun same => ?_, fun same => ?_, fun same => ?_⟩
    · rw [merge, ofStored_object]
      exact decode_patched storable.sorted read after
    · rw [Json.fields_merge]
      exact patched_elsewhere _ before after unknown
    · rw [Json.fields_merge]
      exact patched_reference _ same
    · rw [Json.fields_merge]
      exact patched_deploymentConditions _ same
    · rw [Json.fields_merge]
      exact patched_conditions _ same

/-- A stored reference with a key of its own and a condition whose time is written with an offset; the
reference is renamed and the condition taken out. -/
theorem patchTo_fits_stored_renaming :
    let stored : Json := .object [
      ("clusterDeploymentRef", .object [("name", .string "a"), ("note", .null)]),
      ("conditions", .array [.object [("lastTransitionTime", .string "2024-05-01T12:00:00+02:00"),
        ("origin", .nat 7), ("status", .string "True"), ("type", .string "Ready")]]),
      ("manifests", .array [.null])]
    let time : Timestamp := ⟨⟨2024, 5, 1, by decide, by decide, by decide⟩, 10, 0, 0, 0, by decide,
      by decide, by decide, by decide⟩
    let before : ClusterInstanceStatus := ⟨some ⟨"a"⟩, [], [.stamped time "Ready" .holds "" ""]⟩
    let after : ClusterInstanceStatus := ⟨some ⟨"b"⟩, [], []⟩
    Storable (some stored) ∧ ofStored (some stored) = .ok before ∧
      ∃ patch, before.patchTo after = .ok (some patch) ∧
        ofStored (some (merge stored patch)) = .ok after ∧
        (merge stored patch).fields.get? "manifests" = some (.array [.null]) := by
  intro stored time before after
  have storable : Storable (some stored) := ⟨by decide, .inr ⟨_, rfl⟩⟩
  have read : ofStored (some stored) = .ok before := by rfl
  obtain ⟨patch?, sent, nothing, fits⟩ := patchTo_fits_stored storable read after
  cases patch? with
  | none => exact absurd (nothing.mp rfl) (by decide)
  | some patch =>
    obtain ⟨reads, elsewhere, _⟩ := fits patch rfl
    exact ⟨storable, read, patch, sent, reads, elsewhere "manifests" (by decide)⟩

end ClusterInstanceStatus

end InstallStatus
