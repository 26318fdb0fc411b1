import Mathlib
import InstallStatus.Proofs.PrinterLaws
import InstallStatus.Proofs.StatusPatch

/-!
The text a status is written in. Its fields stand in the order they are declared; once they are sorted it
is the document that is sent to a server, so it is read back as the same status. No status is without a text,
and no two have the same one.
-/

namespace InstallStatus

namespace Json

theorem sortedItems_eq_map (items : List Json) : sortedItems items = items.map sorted := by
  induction items with
  | nil => rfl
  | cons item rest ih => rw [sortedItems, ih, List.map_cons]

theorem sortedFields_eq_map (fields : Fields) :
    sortedFields fields = fields.map fun field => (field.1, field.2.sorted) := by
  induction fields with
  | nil => rfl
  | cons field rest ih => rw [sortedFields, ih, List.map_cons]

/-- To sort an object is to put it together from sorted values, with the fields by key. -/
theorem sorted_inOrder (entries : List (Option (String × Json))) :
    (inOrder entries).sorted =
      ofFields? (entries.map (Option.map fun field => (field.1, field.2.sorted))) := by
  rw [inOrder, sorted, sortedFields_eq_map, ofFields?, ofFields, List.map_filterMap, List.filterMap_map]
  rfl

/-- Whether a list is left out does not depend on how its items are put together. -/
theorem map_sorted_listField {α : Type} (key : String) (encode : α → Json) (values : List α) :
    (listField key encode values).map (fun field => (field.1, field.2.sorted)) =
      listField key (fun a => (encode a).sorted) values := by
  unfold listField
  split
  · rfl
  · rw [Option.map_some, sorted, sortedItems_eq_map, List.map_map]
    rfl

theorem map_sorted_textField (key text : String) :
    (DeploymentCondition.textField key text).map (fun field => (field.1, field.2.sorted)) =
      DeploymentCondition.textField key text := by
  unfold DeploymentCondition.textField
  split <;> rfl

/-- Nothing that is written of a record is a floating-point number. -/
theorem closed_whole : Closed inOrder fun document => document.isWhole = true where
  string _ := rfl
  int _ := rfl
  array inner := isWhole_array.mpr inner
  object inner := isWhole_object.mpr (mem_present (fun document => document.isWhole = true) inner)

mutual

/-- Whole numbers have a value whatever they are. -/
theorem isFit_of_isWhole : ∀ {document : Json}, document.isWhole = true → document.isFit = true
  | .null, _ => rfl
  | .bool _, _ => rfl
  | .string _, _ => rfl
  | .number (.int _), _ => rfl
  | .number (.float _), whole => nomatch whole
  | .array _, whole => fitItems_of_itemsWhole whole
  | .object _, whole => fitFields_of_fieldsWhole whole

theorem fitItems_of_itemsWhole : ∀ {items : List Json}, itemsWhole items = true → fitItems items = true
  | [], _ => rfl
  | item :: rest, whole => by
    simp only [itemsWhole, Bool.and_eq_true] at whole
    simp only [fitItems, isFit_of_isWhole whole.1, fitItems_of_itemsWhole whole.2, Bool.and_self]

theorem fitFields_of_fieldsWhole :
    ∀ {fields : List (String × Json)}, fieldsWhole fields = true → fitFields fields = true
  | [], _ => rfl
  | (key, value) :: rest, whole => by
    simp only [fieldsWhole, Bool.and_eq_true] at whole
    simp only [fitFields, isFit_of_isWhole whole.1, fitFields_of_fieldsWhole whole.2, Bool.and_self]

end

/-- A text fails on numbers that have none, and whole numbers are not among them. -/
theorem text?_of_whole {document : Json} (whole : document.isWhole = true) :
    document.text? = some document.compact :=
  if_pos (isFit_of_isWhole whole)

end Json

namespace LocalReference

theorem sorted_serialize (reference : LocalReference) :
    (reference.serialize Json.inOrder).sorted = reference.encode := by
  rw [serialize, Json.sorted_inOrder]
  rfl

end LocalReference

namespace DeploymentCondition

theorem sorted_serialize (c : DeploymentCondition) :
    (c.serialize Json.inOrder).sorted = c.encode := by
  rw [serialize, Json.sorted_inOrder]
  simp only [List.map_cons, List.map_nil, Json.map_sorted_textField, Option.map_map]
  rfl

end DeploymentCondition

namespace Condition

theorem sorted_serialize (c : Condition) : (c.serialize Json.inOrder).sorted = c.encode := by
  rw [serialize, Json.sorted_inOrder]
  simp only [List.map_cons, List.map_nil, Option.map_map]
  rfl

end Condition

namespace ClusterInstanceStatus

/-- The text and the document that is sent differ in nothing but the order of the fields. -/
theorem sorted_serialize (status : ClusterInstanceStatus) :
    (status.serialize Json.inOrder).sorted = status.encode := by
  rw [serialize, Json.sorted_inOrder, encode_eq]
  simp only [List.map_cons, List.map_nil, Option.map_map, Json.map_sorted_listField,
    DeploymentCondition.sorted_serialize, Condition.sorted_serialize, Function.comp_def,
    LocalReference.sorted_serialize]

/-- Unlike statuses are written as unlike documents, since sorted they can be read back. -/
theorem serialize_injective : Function.Injective (serialize Json.inOrder) := by
  intro a b same
  have documents : a.encode = b.encode := by rw [← a.sorted_serialize, same, b.sorted_serialize]
  have decoded := decode_encode a
  rw [documents, decode_encode] at decoded
  exact (Except.ok.inj decoded).symm

/-- No status is without a text, whatever is in it. -/
theorem text?_serialize (status : ClusterInstanceStatus) :
    (status.serialize Json.inOrder).text? = some (status.serialize Json.inOrder).compact :=
  Json.text?_of_whole (status.serialize_closed Json.closed_whole)

/-- Unlike statuses have unlike texts. -/
theorem compact_serialize_inj {a b : ClusterInstanceStatus} :
    (a.serialize Json.inOrder).compact = (b.serialize Json.inOrder).compact ↔ a = b := by
  rw [Json.compact_inj (a.serialize_closed Json.closed_whole) (b.serialize_closed Json.closed_whole),
    serialize_injective.eq_iff]

end ClusterInstanceStatus

end InstallStatus
