import Mathlib
import InstallStatus.Json.Record
import InstallStatus.Proofs.SortedFields

/-!
Reading a record from an object in which each key stands once: the fields are read one by one, each
by its own key, and nothing else of the object counts.
-/

namespace InstallStatus

theorem Except.bind_eq_ok {ε α β : Type} {x : Except ε α} {f : α → Except ε β} {b : β} :
    (x >>= f) = .ok b ↔ ∃ a, x = .ok a ∧ f a = .ok b := by
  cases x with
  | error e => exact ⟨nofun, fun ⟨_, h, _⟩ => nomatch h⟩
  | ok a =>
    refine ⟨fun h => ⟨a, rfl, h⟩, fun ⟨a', same, h⟩ => ?_⟩
    cases same
    exact h

namespace Field

theorem decode_optional {α : Type} (key : String) (decode : Decoder α) :
    (optional key decode).decode = Decoder.optional decode := rfl

/-- A field is read from the first value of its key, or from what stands for it when it is absent. -/
theorem ofFields_eq_ok {α : Type} {field : Field α} {fields : Json.Fields} {a : α} :
    field.ofFields fields = .ok a ↔
      (∃ value, fields.get? field.key = some value ∧ field.decode value = .ok a) ∨
        fields.get? field.key = none ∧ field.ifAbsent = some a := by
  unfold ofFields
  cases fields.get? field.key with
  | some value => simp
  | none => cases field.ifAbsent <;> simp

theorem ofFields_congr {α : Type} (field : Field α) {first second : Json.Fields}
    (same : first.get? field.key = second.get? field.key) :
    field.ofFields first = field.ofFields second := by
  rw [ofFields, ofFields, same]

end Field

namespace Record

/-- A record that refuses no field where it stands that it takes in the end. -/
def Coherent {α : Type} (record : Record α) : Prop :=
  ∀ fields a, record.ofFields fields = .ok a → ∀ key ∈ record.keys, ∀ value,
    Json.Fields.get? fields key = some value → record.check key value = .ok ()

theorem coherent_pure {α : Type} (a : α) : (pure a).Coherent :=
  fun _ _ _ _ member => nomatch member

@[simp] theorem ofFields_pure_eq_ok {α : Type} {a b : α} {fields : Json.Fields} :
    (pure a).ofFields fields = .ok b ↔ a = b :=
  ⟨fun same => by injection same, fun same => congrArg _ same⟩

/-- A record is read by reading its fields one by one, each from the same object. -/
theorem ofFields_field_eq_ok {α β : Type} {record : Record (α → β)} {field : Field α}
    {fields : Json.Fields} {b : β} :
    (record.field field).ofFields fields = .ok b ↔
      ∃ f, record.ofFields fields = .ok f ∧ ∃ a, field.ofFields fields = .ok a ∧ f a = b := by
  simp only [Record.field, Except.bind_eq_ok]
  refine exists_congr fun f => and_congr_right fun _ => exists_congr fun a => and_congr_right fun _ => ?_
  exact ⟨fun same => by injection same, fun same => congrArg _ same⟩

/-- A record stays coherent with one field more. -/
theorem Coherent.field {α β : Type} {record : Record (α → β)} (coherent : record.Coherent)
    (field : Field α) : (record.field field).Coherent := by
  intro fields b read key member value found
  obtain ⟨f, front, a, last, _⟩ := ofFields_field_eq_ok.mp read
  simp only [Record.field]
  by_cases here : key = field.key
  · rw [if_pos here]
    subst here
    rcases Field.ofFields_eq_ok.mp last with ⟨other, same, decoded⟩ | ⟨absent, _⟩
    · cases found.symm.trans same
      rw [decoded]
      rfl
    · cases found.symm.trans absent
  · rw [if_neg here]
    rcases List.mem_append.mp member with earlier | own
    · exact coherent fields f front key earlier value found
    · exact absurd (List.mem_singleton.mp own) here

/-- The check that comes first adds nothing where each key stands once and every field can be read. -/
theorem checkAll_ok {α : Type} (record : Record α) {fields : Json.Fields} {seen : List String}
    (nodup : (fields.map Prod.fst).Nodup) (unseen : ∀ field ∈ fields, field.1 ∉ seen)
    (checked : ∀ field ∈ fields, field.1 ∈ record.keys → record.check field.1 field.2 = .ok ()) :
    record.checkAll seen fields = .ok () := by
  induction fields generalizing seen with
  | nil => rfl
  | cons field rest ih =>
    obtain ⟨key, value⟩ := field
    simp only [List.map_cons, List.nodup_cons] at nodup
    obtain ⟨first, later⟩ := List.forall_mem_cons.mp checked
    obtain ⟨fresh, others⟩ := List.forall_mem_cons.mp unseen
    rw [checkAll]
    by_cases known : key ∈ record.keys
    · rw [if_pos known, if_neg fresh, first known]
      refine ih nodup.2 (fun field member seenNow => ?_) later
      rcases List.mem_cons.mp seenNow with same | before
      · exact nodup.1 (same ▸ List.mem_map_of_mem member)
      · exact others field member before
    · rw [if_neg known]
      exact ih nodup.2 others later

/-- A record is read from an object by its fields alone. -/
theorem decode_object_iff {α : Type} {record : Record α} (coherent : record.Coherent) {name : String}
    {fields : Json.Fields} (nodup : (fields.map Prod.fst).Nodup) {a : α} :
    record.decode name (.object fields) = .ok a ↔ record.ofFields fields = .ok a := by
  rw [decode, Except.bind_eq_ok]
  refine ⟨fun ⟨_, _, read⟩ => read, fun read => ⟨(), ?_, read⟩⟩
  refine checkAll_ok record nodup (fun _ _ => List.not_mem_nil) fun field member known => ?_
  exact coherent fields a read field.1 known field.2 (Json.Fields.get?_of_mem nodup member)

end Record

namespace Json

/-- What one entry of a list of optional fields says about a key. -/
def given? (key : String) : Option (String × Json) → Option Json
  | some (k, value) => if key = k then some value else none
  | none => none

@[simp] theorem given?_none (key : String) : given? key none = none := rfl

@[simp] theorem given?_some (key k : String) (value : Json) :
    given? key (some (k, value)) = if key = k then some value else none := rfl

@[simp] theorem given?_map {α : Type} (key k : String) (f : α → Json) (a? : Option α) :
    given? key (a?.map fun a => (k, f a)) = if key = k then a?.map f else none := by
  cases a? with
  | none => simp
  | some a => rfl

/-- Fields that are missing leave no trace. -/
theorem fields_ofFields? (entries : List (Option (String × Json))) :
    (ofFields? entries).fields = Fields.ofList (entries.filterMap id) := rfl

/-- A key carries what its last entry gives it. -/
theorem get?_ofFields? (entries : List (Option (String × Json))) (key : String) :
    (ofFields? entries).fields.get? key =
      entries.foldl (fun earlier entry => (given? key entry).or earlier) none := by
  induction entries using List.reverseRecOn with
  | nil => rfl
  | append_singleton entries last ih =>
    rw [fields_ofFields?] at ih ⊢
    rw [List.filterMap_append, List.foldl_append, ← ih]
    cases last with
    | none => simp
    | some field =>
      obtain ⟨k, value⟩ := field
      simp only [List.filterMap_cons_some (show id (some (k, value)) = some (k, value) from rfl),
        List.filterMap_nil, Fields.ofList_concat, Fields.get?_insert, List.foldl_cons, List.foldl_nil,
        given?_some]
      split <;> rfl

end Json

end InstallStatus
