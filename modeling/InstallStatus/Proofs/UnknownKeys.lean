import Mathlib
import InstallStatus.Proofs.WireFormat

/-!
Keys that a reader does not know. The shape of a value tells which keys are known in the objects of its
document, at every depth; a document grows by one key that is not known where it is put. Main statement:
a record overlooks whatever a document has grown by, if the decoders of its fields do.
-/

namespace InstallStatus

/-- What is read of a document: a value without keys, the items of an array, or the known members of an
object. -/
inductive Shape
  | leaf
  | list (item : Shape)
  | record (members : List (String × Shape))

/-- A document with one key more, which holds anything at all and stands anywhere in one of the objects
that are read, where it is not known. -/
inductive Json.Grows : Shape → Json → Json → Prop
  | here {members : List (String × Shape)} {front back : Json.Fields} {key : String} {value : Json}
    (unknown : key ∉ members.map Prod.fst) :
    Grows (.record members) (.object (front ++ back)) (.object (front ++ (key, value) :: back))
  | member {members : List (String × Shape)} {front back : Json.Fields} {key : String} {shape : Shape}
    {old new : Json} (known : (key, shape) ∈ members) (inner : Grows shape old new) :
    Grows (.record members) (.object (front ++ (key, old) :: back)) (.object (front ++ (key, new) :: back))
  | item {shape : Shape} {front back : List Json} {old new : Json} (inner : Grows shape old new) :
    Grows (.list shape) (.array (front ++ old :: back)) (.array (front ++ new :: back))

/-- A decoder that reads from a grown document what it has read from it before. -/
def Decoder.Overlooks {α : Type} (decode : Decoder α) (shape : Shape) : Prop :=
  ∀ ⦃old new : Json⦄ ⦃a : α⦄, Json.Grows shape old new → decode old = .ok a → decode new = .ok a

theorem Except.map_eq_ok {ε α β : Type} {x : Except ε α} {f : α → β} {b : β} :
    x.map f = .ok b ↔ ∃ a, x = .ok a ∧ f a = b := by
  cases x with
  | error e => exact ⟨nofun, fun ⟨_, h, _⟩ => nomatch h⟩
  | ok a => simp [Except.map]

namespace Json

/-- Only objects grow, and lists that hold objects: null never does. -/
theorem Grows.isNull {shape : Shape} {old new : Json} (grows : Grows shape old new) :
    old.isNull = false ∧ new.isNull = false := by
  cases grows with
  | here unknown => exact ⟨rfl, rfl⟩
  | member known inner => exact ⟨rfl, rfl⟩
  | item inner => exact ⟨rfl, rfl⟩

theorem Fields.get?_insert_of_ne (front back : Fields) {key other : String} (value : Json)
    (apart : other ≠ key) : Fields.get? (front ++ (key, value) :: back) other = Fields.get? (front ++ back) other := by
  rw [Fields.get?_append, Fields.get?_append, Fields.get?_cons, if_neg apart]

end Json

namespace Decoder

variable {α : Type}

theorem overlooks_leaf {decode : Decoder α} : decode.Overlooks .leaf := by
  intro old new a grows
  cases grows

theorem Overlooks.optional {decode : Decoder α} {shape : Shape} (overlooks : decode.Overlooks shape) :
    (optional decode).Overlooks shape := by
  intro old new found grows read
  rw [optional_of_present _ grows.isNull.1] at read
  rw [optional_of_present _ grows.isNull.2]
  obtain ⟨a, before, same⟩ := Except.map_eq_ok.mp read
  exact Except.map_eq_ok.mpr ⟨a, overlooks grows before, same⟩

theorem Overlooks.items {decode : Decoder α} {shape : Shape} (overlooks : decode.Overlooks shape)
    {old new : Json} (grows : Json.Grows shape old new) {front back : List Json} {found : List α}
    (read : items decode (front ++ old :: back) = .ok found) :
    Decoder.items decode (front ++ new :: back) = .ok found := by
  induction front generalizing found with
  | nil =>
    obtain ⟨a, first, rest⟩ := Except.bind_eq_ok.mp read
    exact Except.bind_eq_ok.mpr ⟨a, overlooks grows first, rest⟩
  | cons item front ih =>
    obtain ⟨a, first, rest⟩ := Except.bind_eq_ok.mp read
    obtain ⟨later, readLater, built⟩ := Except.bind_eq_ok.mp rest
    exact Except.bind_eq_ok.mpr ⟨a, first, Except.bind_eq_ok.mpr ⟨later, ih readLater, built⟩⟩

/-- A key may come in at any item of a list. -/
theorem Overlooks.list {decode : Decoder α} {shape : Shape} (overlooks : decode.Overlooks shape) :
    (list decode).Overlooks (.list shape) := by
  intro old new found grows read
  cases grows with
  | item inner => exact overlooks.items inner read

/-- What a decoder overlooks once it overlooks however often the document grows. -/
theorem Overlooks.grown {decode : Decoder α} {shape : Shape} (overlooks : decode.Overlooks shape)
    {old new : Json} {a : α} (grown : Relation.ReflTransGen (Json.Grows shape) old new)
    (read : decode old = .ok a) : decode new = .ok a := by
  induction grown with
  | refl => exact read
  | tail _ step ih => exact overlooks step ih

end Decoder

theorem Field.ofFields_insert_of_ne {α : Type} (field : Field α) (front back : Json.Fields) {key : String}
    (value : Json) (apart : field.key ≠ key) :
    field.ofFields (front ++ (key, value) :: back) = field.ofFields (front ++ back) :=
  field.ofFields_congr (Json.Fields.get?_insert_of_ne front back value apart)

/-- A field is read as before where its value has grown. -/
theorem Field.ofFields_grown {α : Type} {field : Field α} {shape : Shape}
    (overlooks : field.decode.Overlooks shape) {old new : Json} (grows : Json.Grows shape old new)
    {front back : Json.Fields} {a : α} (read : field.ofFields (front ++ (field.key, old) :: back) = .ok a) :
    field.ofFields (front ++ (field.key, new) :: back) = .ok a := by
  have carried : ∀ value : Json, Json.Fields.get? (front ++ (field.key, value) :: back) field.key =
      some ((front.get? field.key).getD value) := by
    intro value
    rw [Json.Fields.get?_append, Json.Fields.get?_cons, if_pos rfl]
    cases front.get? field.key <;> rfl
  refine Field.ofFields_eq_ok.mpr (.inl ⟨_, carried new, ?_⟩)
  rcases Field.ofFields_eq_ok.mp read with ⟨value, found, decoded⟩ | ⟨absent, _⟩
  · obtain rfl := Option.some.inj ((carried old).symm.trans found)
    cases earlier : front.get? field.key with
    | none =>
      rw [earlier] at decoded
      exact overlooks grows decoded
    | some first =>
      rw [earlier] at decoded
      exact decoded
  · cases (carried old).symm.trans absent

namespace Record

variable {α β : Type}

/-- A record with these members, which overlooks whatever an object has grown by. -/
structure Overlooks (record : Record α) (members : List (String × Shape)) : Prop where
  keys : record.keys = members.map Prod.fst
  check : ∀ {key : String} {shape : Shape} {old new : Json}, (key, shape) ∈ members →
    Json.Grows shape old new → record.check key old = .ok () → record.check key new = .ok ()
  unknown : ∀ {front back : Json.Fields} {key : String} (value : Json), key ∉ members.map Prod.fst →
    record.ofFields (front ++ (key, value) :: back) = record.ofFields (front ++ back)
  known : ∀ {front back : Json.Fields} {key : String} {shape : Shape} {old new : Json} {a : α},
    (key, shape) ∈ members → Json.Grows shape old new →
    record.ofFields (front ++ (key, old) :: back) = .ok a →
    record.ofFields (front ++ (key, new) :: back) = .ok a

theorem overlooks_pure (a : α) : (pure a).Overlooks [] where
  keys := rfl
  check member := nomatch member
  unknown _ _ := rfl
  known member := nomatch member

/-- A member of a record with one field more is an earlier one, of another key, or the new one. -/
theorem member_cases {members : List (String × Shape)} {key own : String} {shape other : Shape}
    (fresh : own ∉ members.map Prod.fst) (member : (key, other) ∈ members ++ [(own, shape)]) :
    (key, other) ∈ members ∧ key ≠ own ∨ key = own ∧ other = shape := by
  rcases List.mem_append.mp member with earlier | last
  · refine .inl ⟨earlier, fun same => fresh ?_⟩
    rw [← same]
    exact List.mem_map_of_mem earlier
  · exact .inr (Prod.mk.inj (List.mem_singleton.mp last))

/-- A record overlooks what its fields do, each under its own key. -/
theorem Overlooks.field {record : Record (α → β)} {members : List (String × Shape)}
    (overlooks : record.Overlooks members) {field : Field α} {shape : Shape}
    (inner : field.decode.Overlooks shape) (fresh : field.key ∉ members.map Prod.fst := by decide) :
    (record.field field).Overlooks (members ++ [(field.key, shape)]) where
  keys := by
    rw [List.map_append, ← overlooks.keys]
    rfl
  check member grows checked := by
    rcases member_cases fresh member with ⟨earlier, apart⟩ | ⟨rfl, rfl⟩
    · simp only [Record.field, if_neg apart] at checked ⊢
      exact overlooks.check earlier grows checked
    · simp only [Record.field, if_true] at checked ⊢
      obtain ⟨a, decoded, _⟩ := Except.map_eq_ok.mp checked
      exact Except.map_eq_ok.mpr ⟨a, inner grows decoded, rfl⟩
  unknown value unknown := by
    rw [List.map_append, List.mem_append, not_or] at unknown
    have apart := (List.ne_of_not_mem_cons unknown.2).symm
    simp only [Record.field, overlooks.unknown value unknown.1, field.ofFields_insert_of_ne _ _ value apart]
  known member grows read := by
    -- Of the front of the record and its last field, the one that has the key reads the grown value as
    -- it has read the old one; for the other one the key is unknown.
    obtain ⟨f, readFront, a, readLast, applied⟩ := ofFields_field_eq_ok.mp read
    rcases member_cases fresh member with ⟨earlier, apart⟩ | ⟨rfl, rfl⟩
    · refine ofFields_field_eq_ok.mpr ⟨f, overlooks.known earlier grows readFront, a, ?_, applied⟩
      rwa [field.ofFields_insert_of_ne _ _ _ apart.symm] at readLast ⊢
    · refine ofFields_field_eq_ok.mpr ⟨f, ?_, a, Field.ofFields_grown inner grows readLast, applied⟩
      rwa [overlooks.unknown _ fresh] at readFront ⊢

/-- The check passes over keys that the record does not know, wherever they stand. -/
theorem checkAll_unknown (record : Record α) {key : String} (unknown : key ∉ record.keys) (value : Json)
    (front back : Json.Fields) (seen : List String) :
    record.checkAll seen (front ++ (key, value) :: back) = record.checkAll seen (front ++ back) := by
  induction front generalizing seen with
  | nil => rw [List.nil_append, checkAll, if_neg unknown, List.nil_append]
  | cons field front ih => simp only [List.cons_append, checkAll, ih]

theorem checkAll_cons_eq_ok (record : Record α) {field : String × Json} {rest : Json.Fields}
    {seen : List String} :
    record.checkAll seen (field :: rest) = .ok () ↔
      (field.1 ∈ record.keys → field.1 ∉ seen ∧ record.check field.1 field.2 = .ok ()) ∧
        record.checkAll (if field.1 ∈ record.keys then field.1 :: seen else seen) rest = .ok () := by
  rw [checkAll]
  by_cases known : field.1 ∈ record.keys
  · by_cases repeated : field.1 ∈ seen
    · simp [known, repeated]
    · simp only [known, repeated, if_true, if_false, Except.bind_eq_ok]
      constructor
      · rintro ⟨_, first, later⟩
        exact ⟨fun _ => ⟨not_false, first⟩, later⟩
      · rintro ⟨first, later⟩
        exact ⟨(), (first trivial).2, later⟩
  · simp [known]

theorem checkAll_known (record : Record α) {key : String} {old new : Json}
    (checked : record.check key old = .ok () → record.check key new = .ok ()) {front back : Json.Fields}
    {seen : List String} (all : record.checkAll seen (front ++ (key, old) :: back) = .ok ()) :
    record.checkAll seen (front ++ (key, new) :: back) = .ok () := by
  induction front generalizing seen with
  | nil =>
    obtain ⟨first, later⟩ := record.checkAll_cons_eq_ok.mp all
    exact record.checkAll_cons_eq_ok.mpr
      ⟨fun known => ⟨(first known).1, checked (first known).2⟩, later⟩
  | cons field front ih =>
    obtain ⟨first, later⟩ := record.checkAll_cons_eq_ok.mp all
    exact record.checkAll_cons_eq_ok.mpr ⟨first, ih later⟩

/-- A record overlooks keys that it does not know, and in its fields what their decoders overlook. -/
theorem Overlooks.decode {record : Record α} {members : List (String × Shape)}
    (overlooks : record.Overlooks members) (name : String) :
    Decoder.Overlooks (record.decode name) (.record members) := by
  intro old new a grows read
  cases grows with
  | here unknown =>
    have apart := unknown
    rw [← overlooks.keys] at apart
    obtain ⟨⟨⟩, checked, rest⟩ := Except.bind_eq_ok.mp read
    refine Except.bind_eq_ok.mpr ⟨(), ?_, ?_⟩
    · rwa [record.checkAll_unknown apart]
    · rwa [overlooks.unknown _ unknown]
  | member known inner =>
    obtain ⟨⟨⟩, checked, rest⟩ := Except.bind_eq_ok.mp read
    exact Except.bind_eq_ok.mpr ⟨(), record.checkAll_known (overlooks.check known inner) checked,
      overlooks.known known inner rest⟩

end Record

end InstallStatus
