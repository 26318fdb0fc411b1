import Mathlib
import InstallStatus.Proofs.PatchLaws
import InstallStatus.Proofs.RecordLaws
import InstallStatus.Proofs.TimestampText
import InstallStatus.Resource.ClusterInstance

/-!
The wire form of conditions, references and statuses. Each value is read back from what is written
for it; what is written is sorted and holds no floating-point number, and no part of it is null.
-/

namespace InstallStatus

namespace Decoder

@[simp] theorem string_string (s : String) : string (.string s) = .ok s := rfl

@[simp] theorem bool_bool (b : Bool) : bool (.bool b) = .ok b := rfl

@[simp] theorem timestamp_text (t : Timestamp) : timestamp (.string t.text) = .ok t := by
  rw [timestamp, Timestamp.read_text]
  rfl

/-- The bounds of the reader are those of the numbers that are written. -/
@[simp] theorem int64_toInt (n : Int64) : int64 (.int n.toInt) = .ok n := by
  have bounds : Int64.minValue.toInt ≤ n.toInt ∧ n.toInt ≤ Int64.maxValue.toInt :=
    ⟨Int64.minValue_le_toInt n, n.toInt_le⟩
  rw [int64, Json.int, between, if_pos bounds, Except.map, Int64.ofInt_toInt]

theorem optional_of_present {α : Type} (decode : Decoder α) {document : Json}
    (present : document.isNull = false) : optional decode document = (decode document).map some := by
  cases document with
  | null => cases present
  | _ => rfl

theorem items_map {α : Type} {decode : Decoder α} {encode : α → Json}
    (inverse : ∀ a, decode (encode a) = .ok a) (values : List α) :
    items decode (values.map encode) = .ok values := by
  induction values with
  | nil => rfl
  | cons a rest ih =>
    rw [List.map_cons, items, inverse a, ih]
    rfl

end Decoder

namespace Json

theorem ofFields?_eq (entries : List (Option (String × Json))) :
    ofFields? entries = .object (ofFields? entries).fields := rfl

/-- A record is written with each key once, even if two of its fields had one. -/
theorem nodup_ofFields? (entries : List (Option (String × Json))) :
    ((ofFields? entries).fields.map Prod.fst).Nodup :=
  (Fields.ascending_ofList _).nodup

/-- Sorted, and without a floating-point number. -/
structure Tidy (document : Json) : Prop where
  sorted : document.isSorted = true
  whole : document.isWhole = true

/-- A property of documents that texts, whole numbers and lists have, and that an object which is put
together by `assemble` has if the values of its fields do. So what is written of any record has it. -/
structure Closed (assemble : Assembly) (P : Json → Prop) : Prop where
  string (s : String) : P (.string s)
  int (n : Int) : P (.int n)
  array {items : List Json} (inner : ∀ item ∈ items, P item) : P (.array items)
  object {entries : List (Option (String × Json))}
    (inner : ∀ entry ∈ entries, ∀ field ∈ entry, P field.2) : P (assemble entries)

theorem mem_present (P : Json → Prop) {entries : List (Option (String × Json))}
    (inner : ∀ entry ∈ entries, ∀ field ∈ entry, P field.2) :
    ∀ field ∈ entries.filterMap id, P field.2 := by
  intro field member
  obtain ⟨entry, entryMem, same⟩ := List.mem_filterMap.mp member
  exact inner entry entryMem field same

/-- What is sent to a server is sorted, and so it is stored as it is. -/
theorem closed_tidy : Closed ofFields? Tidy where
  string _ := ⟨rfl, rfl⟩
  int _ := ⟨rfl, rfl⟩
  array inner :=
    ⟨isSorted_array.mpr fun item member => (inner item member).sorted,
      isWhole_array.mpr fun item member => (inner item member).whole⟩
  object inner :=
    ⟨isSorted_object.mpr (Fields.sorted_ofList fun field member => (mem_present Tidy inner field member).sorted),
      isWhole_object.mpr fun field member => (mem_present Tidy inner field (Fields.mem_ofList member)).whole⟩

/-- An empty list is not written at all. -/
@[simp] theorem given?_listField {α : Type} (key k : String) (encode : α → Json) (values : List α) :
    given? key (listField k encode values) =
      if key = k ∧ values ≠ [] then some (.array (values.map encode)) else none := by
  cases values with
  | nil => simp [listField]
  | cons a rest => simp [listField]

@[simp] theorem given?_textField (key k text : String) :
    given? key (DeploymentCondition.textField k text) =
      if key = k ∧ text ≠ "" then some (.string text) else none := by
  unfold DeploymentCondition.textField
  split <;> simp_all

section Fields

variable {P : Json → Prop} {key : String}

theorem field_some {value : Json} (inner : P value) : ∀ field ∈ some (key, value), P field.2 := by
  rintro field ⟨⟩
  exact inner

theorem field_map {α : Type} {encode : α → Json} {a? : Option α} (inner : ∀ a, P (encode a)) :
    ∀ field ∈ a?.map fun a => (key, encode a), P field.2 := by
  intro field member
  obtain ⟨a, _, same⟩ := Option.mem_map.mp member
  exact same ▸ inner a

theorem Closed.listField {assemble : Assembly} (closed : Closed assemble P) {α : Type} {encode : α → Json}
    {values : List α} (inner : ∀ a, P (encode a)) :
    ∀ field ∈ listField key encode values, P field.2 := by
  intro field member
  unfold Json.listField at member
  split at member
  · cases member
  · cases member
    exact closed.array (List.forall_mem_map.mpr fun a _ => inner a)

theorem Closed.textField {assemble : Assembly} (closed : Closed assemble P) {text : String} :
    ∀ field ∈ DeploymentCondition.textField key text, P field.2 := by
  intro field member
  unfold DeploymentCondition.textField at member
  split at member
  · cases member
  · cases member
    exact closed.string text

end Fields

end Json

namespace Field

variable {α : Type} {key : String} {decode : Decoder α} {encode : α → Json}

/-- A value that is always written, as a field: read back from what is written of it. -/
theorem ofFields_required (inverse : ∀ a, decode (encode a) = .ok a) {fields : Json.Fields} {a : α}
    (carried : fields.get? key = some (encode a)) : (required key decode).ofFields fields = .ok a :=
  ofFields_eq_ok.mpr (.inl ⟨encode a, carried, inverse a⟩)

theorem ofFields_defaulted (inverse : ∀ a, decode (encode a) = .ok a) {fields : Json.Fields} {a other : α}
    (carried : fields.get? key = some (encode a)) : (defaulted key decode other).ofFields fields = .ok a :=
  ofFields_eq_ok.mpr (.inl ⟨encode a, carried, inverse a⟩)

/-- A value that may be missing, as a field: absent for none, and otherwise read back from what is
written of it. -/
theorem ofFields_optional (inverse : ∀ a, decode (encode a) = .ok a)
    (present : ∀ a, (encode a).isNull = false) {fields : Json.Fields} {a? : Option α}
    (carried : fields.get? key = a?.map encode) : (optional key decode).ofFields fields = .ok a? := by
  refine ofFields_eq_ok.mpr ?_
  cases a? with
  | none => exact .inr ⟨carried, rfl⟩
  | some a =>
    refine .inl ⟨encode a, carried, ?_⟩
    rw [decode_optional, Decoder.optional_of_present _ (present a), inverse a]
    rfl

/-- A list as a field: absent when it is empty, which is also what absence stands for. -/
theorem ofFields_list (inverse : ∀ a, decode (encode a) = .ok a) {fields : Json.Fields}
    {values : List α}
    (carried : fields.get? key = if values = [] then none else some (.array (values.map encode))) :
    (defaulted key (Decoder.list decode) []).ofFields fields = .ok values := by
  refine ofFields_eq_ok.mpr ?_
  by_cases empty : values = []
  · rw [if_pos empty] at carried
    exact .inr ⟨carried, congrArg some empty.symm⟩
  · rw [if_neg empty] at carried
    exact .inl ⟨_, carried, Decoder.items_map inverse values⟩

end Field

@[simp] theorem Status.decode_encode (status : Status) : Status.decode status.encode = .ok status := by
  cases status <;> rfl

namespace Condition

theorem coherent_record : record.Coherent :=
  (Record.coherent_pure _).field _ |>.field _ |>.field _ |>.field _ |>.field _ |>.field _

/-- All fields are read back from the object they are written to, each by the law of its sort. -/
theorem decode_encode (c : Condition) : decode c.encode = .ok c := by
  rw [decode, encode, serialize, Json.ofFields?_eq,
    Record.decode_object_iff coherent_record (Json.nodup_ofFields? _)]
  simp only [record, Record.ofFields_field_eq_ok, Record.ofFields_pure_eq_ok]
  refine ⟨_, ⟨_, ⟨_, ⟨_, ⟨_, ⟨_, rfl, c.type, ?_, rfl⟩, c.status, ?_, rfl⟩, c.reason, ?_, rfl⟩,
    c.message, ?_, rfl⟩, c.observedGeneration, ?_, rfl⟩, c.lastTransitionTime, ?_, rfl⟩
  · exact Field.ofFields_required Decoder.string_string (by simp [Json.get?_ofFields?])
  · exact Field.ofFields_required Status.decode_encode (by simp [Json.get?_ofFields?])
  · exact Field.ofFields_defaulted Decoder.string_string (by simp [Json.get?_ofFields?])
  · exact Field.ofFields_defaulted Decoder.string_string (by simp [Json.get?_ofFields?])
  · exact Field.ofFields_optional Decoder.int64_toInt (fun _ => rfl) (by simp [Json.get?_ofFields?])
  · exact Field.ofFields_required Decoder.timestamp_text (by simp [Json.get?_ofFields?])

/-- One field after the other, with no regard to how the object is put together. -/
theorem serialize_closed {assemble : Json.Assembly} {P : Json → Prop} (closed : Json.Closed assemble P)
    (c : Condition) : P (c.serialize assemble) := by
  refine closed.object ?_
  simp only [List.forall_mem_cons]
  exact ⟨Json.field_some (closed.string _), Json.field_some (closed.string _),
    Json.field_some (closed.string _), Json.field_some (closed.string _),
    Json.field_map fun n => closed.int n.toInt, Json.field_some (closed.string _), nofun⟩

theorem tidy_encode (c : Condition) : c.encode.Tidy := serialize_closed Json.closed_tidy c

end Condition

namespace DeploymentCondition

theorem coherent_record : record.Coherent :=
  (Record.coherent_pure _).field _ |>.field _ |>.field _ |>.field _ |>.field _ |>.field _

/-- A text as a field: absent when it is empty, which is also what absence stands for. -/
theorem defaulted_text {entries : List (Option (String × Json))} {key text : String}
    (carried : (Json.ofFields? entries).fields.get? key =
      if text = "" then none else some (.string text)) :
    (Field.defaulted key Decoder.string "").ofFields (Json.ofFields? entries).fields = .ok text := by
  refine Field.ofFields_eq_ok.mpr ?_
  by_cases empty : text = ""
  · rw [if_pos empty] at carried
    exact .inr ⟨carried, congrArg some empty.symm⟩
  · rw [if_neg empty] at carried
    exact .inl ⟨_, carried, rfl⟩

theorem decode_encode (c : DeploymentCondition) : decode c.encode = .ok c := by
  rw [decode, encode, serialize, Json.ofFields?_eq,
    Record.decode_object_iff coherent_record (Json.nodup_ofFields? _)]
  simp only [record, Record.ofFields_field_eq_ok, Record.ofFields_pure_eq_ok]
  refine ⟨_, ⟨_, ⟨_, ⟨_, ⟨_, ⟨_, rfl, c.type, ?_, rfl⟩, c.status, ?_, rfl⟩, c.reason, ?_, rfl⟩,
    c.message, ?_, rfl⟩, c.lastProbeTime, ?_, rfl⟩, c.lastTransitionTime, ?_, rfl⟩
  · exact Field.ofFields_required Decoder.string_string (by simp [Json.get?_ofFields?])
  · exact Field.ofFields_required Status.decode_encode (by simp [Json.get?_ofFields?])
  · exact defaulted_text (by simp [Json.get?_ofFields?])
  · exact defaulted_text (by simp [Json.get?_ofFields?])
  · exact Field.ofFields_optional Decoder.timestamp_text (fun _ => rfl) (by simp [Json.get?_ofFields?])
  · exact Field.ofFields_optional Decoder.timestamp_text (fun _ => rfl) (by simp [Json.get?_ofFields?])

theorem serialize_closed {assemble : Json.Assembly} {P : Json → Prop} (closed : Json.Closed assemble P)
    (c : DeploymentCondition) : P (c.serialize assemble) := by
  refine closed.object ?_
  simp only [List.forall_mem_cons]
  exact ⟨Json.field_some (closed.string _), Json.field_some (closed.string _), closed.textField,
    closed.textField, Json.field_map fun t => closed.string t.text,
    Json.field_map fun t => closed.string t.text, nofun⟩

theorem tidy_encode (c : DeploymentCondition) : c.encode.Tidy := serialize_closed Json.closed_tidy c

end DeploymentCondition

namespace LocalReference

theorem coherent_record : record.Coherent := (Record.coherent_pure _).field _

/-- A reference is read from any object in which each key stands once, by its name alone. -/
theorem decode_of_name {fields : Json.Fields} (nodup : (fields.map Prod.fst).Nodup) {name : String}
    (carried : fields.get? "name" = some (.string name)) : decode (.object fields) = .ok ⟨name⟩ := by
  rw [decode, Record.decode_object_iff coherent_record nodup]
  exact Record.ofFields_field_eq_ok.mpr
    ⟨_, rfl, name, Field.ofFields_defaulted Decoder.string_string carried, rfl⟩

theorem fields_encode (reference : LocalReference) :
    reference.encode = .object [("name", .string reference.name)] := rfl

theorem decode_encode (reference : LocalReference) : decode reference.encode = .ok reference := by
  have nodup : ([("name", Json.string reference.name)].map Prod.fst).Nodup := List.nodup_singleton _
  exact decode_of_name nodup rfl

theorem serialize_closed {assemble : Json.Assembly} {P : Json → Prop} (closed : Json.Closed assemble P)
    (reference : LocalReference) : P (reference.serialize assemble) :=
  closed.object (List.forall_mem_singleton.mpr (Json.field_some (closed.string _)))

theorem tidy_encode (reference : LocalReference) : reference.encode.Tidy :=
  serialize_closed Json.closed_tidy reference

end LocalReference

namespace ClusterInstanceStatus

theorem coherent_record : record.Coherent :=
  (Record.coherent_pure _).field _ |>.field _ |>.field _

/-- The three fields of a status, each as it is read. -/
theorem decode_object_iff {fields : Json.Fields} (nodup : (fields.map Prod.fst).Nodup)
    {status : ClusterInstanceStatus} :
    decode (.object fields) = .ok status ↔
      (Field.optional "clusterDeploymentRef" LocalReference.decode).ofFields fields =
          .ok status.clusterDeploymentRef ∧
        (Field.defaulted "deploymentConditions" (Decoder.list DeploymentCondition.decode) []).ofFields
            fields = .ok status.deploymentConditions ∧
          (Field.defaulted "conditions" (Decoder.list Condition.decode) []).ofFields fields =
            .ok status.conditions := by
  rw [decode, Record.decode_object_iff coherent_record nodup]
  simp only [record, Record.ofFields_field_eq_ok, Record.ofFields_pure_eq_ok]
  constructor
  · rintro ⟨_, ⟨_, ⟨_, rfl, reference, readReference, rfl⟩, copied, readCopied, rfl⟩, general,
      readGeneral, rfl⟩
    exact ⟨readReference, readCopied, readGeneral⟩
  · rintro ⟨readReference, readCopied, readGeneral⟩
    exact ⟨_, ⟨_, ⟨_, rfl, _, readReference, rfl⟩, _, readCopied, rfl⟩, _, readGeneral, rfl⟩

/-- The document of a status with those of its parts in it, which are put together in the same way. -/
theorem encode_eq (status : ClusterInstanceStatus) : status.encode = Json.ofFields? [
    status.clusterDeploymentRef.map fun r => ("clusterDeploymentRef", r.encode),
    Json.listField "deploymentConditions" DeploymentCondition.encode status.deploymentConditions,
    Json.listField "conditions" Condition.encode status.conditions] := rfl

/-- What each of the three keys carries, and that no other carries anything. -/
theorem get?_encode (status : ClusterInstanceStatus) (key : String) :
    status.encode.fields.get? key =
      if key = "clusterDeploymentRef" then status.clusterDeploymentRef.map LocalReference.encode
      else if key = "deploymentConditions" ∧ status.deploymentConditions ≠ [] then
        some (.array (status.deploymentConditions.map DeploymentCondition.encode))
      else if key = "conditions" ∧ status.conditions ≠ [] then
        some (.array (status.conditions.map Condition.encode))
      else none := by
  rw [encode_eq, Json.get?_ofFields?]
  simp only [List.foldl_cons, List.foldl_nil, Json.given?_map, Json.given?_listField, Option.or_none]
  by_cases reference : key = "clusterDeploymentRef"
  · subst reference
    simp
  · by_cases copied : key = "deploymentConditions"
    · subst copied
      simp
    · simp [reference, copied]

theorem serialize_closed {assemble : Json.Assembly} {P : Json → Prop} (closed : Json.Closed assemble P)
    (status : ClusterInstanceStatus) : P (status.serialize assemble) := by
  refine closed.object ?_
  simp only [List.forall_mem_cons]
  exact ⟨Json.field_map (LocalReference.serialize_closed closed),
    closed.listField (DeploymentCondition.serialize_closed closed),
    closed.listField (Condition.serialize_closed closed), nofun⟩

theorem tidy_encode (status : ClusterInstanceStatus) : status.encode.Tidy :=
  serialize_closed Json.closed_tidy status

end ClusterInstanceStatus

end InstallStatus
