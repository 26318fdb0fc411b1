import InstallStatus.Condition.Basic

/-!
Lists of conditions with one entry for each type. An entry keeps the place where its type was first
inserted, and its transition time moves only when its status changes. Main definitions: the first
occurrence of each type in a list, and `upsert`, which inserts an entry or replaces the one of its
type and tells which of the two happened.
-/

namespace InstallStatus

/-- What an entry of a condition set offers. Recording a time changes only that time. -/
class Stamped (α : Type) where
  type : α → String
  status : α → Status
  transitionTime? : α → Option Timestamp
  setTransitionTime : Timestamp → α → α
  observe : Timestamp → α → α
  type_setTransitionTime (t : Timestamp) (a : α) : type (setTransitionTime t a) = type a
  status_setTransitionTime (t : Timestamp) (a : α) : status (setTransitionTime t a) = status a
  transitionTime?_setTransitionTime (t : Timestamp) (a : α) :
    transitionTime? (setTransitionTime t a) = some t
  type_observe (t : Timestamp) (a : α) : type (observe t a) = type a
  status_observe (t : Timestamp) (a : α) : status (observe t a) = status a

instance : Stamped Condition where
  type := Condition.type
  status := Condition.status
  transitionTime? c := some c.lastTransitionTime
  setTransitionTime t c := { c with lastTransitionTime := t }
  observe _ c := c
  type_setTransitionTime _ _ := rfl
  status_setTransitionTime _ _ := rfl
  transitionTime?_setTransitionTime _ _ := rfl
  type_observe _ _ := rfl
  status_observe _ _ := rfl

instance : Stamped DeploymentCondition where
  type := DeploymentCondition.type
  status := DeploymentCondition.status
  transitionTime? := DeploymentCondition.lastTransitionTime
  setTransitionTime t c := { c with lastTransitionTime := some t }
  observe t c := { c with lastProbeTime := some t }
  type_setTransitionTime _ _ := rfl
  status_setTransitionTime _ _ := rfl
  transitionTime?_setTransitionTime _ _ := rfl
  type_observe _ _ := rfl
  status_observe _ _ := rfl

inductive Transition
  | added
  | changed (old : Status)
  | unchanged
  deriving DecidableEq, Repr

namespace Transition

def encode : Transition → Json
  | .added => .string "Added"
  | .changed old => Json.ofFields [("Changed", old.encode)]
  | .unchanged => .string "Unchanged"

end Transition

section Lists

variable {α : Type} [Stamped α]

def firstOfEach : List α → List α
  | [] => []
  | a :: rest => a :: (firstOfEach rest).filter fun b => Stamped.type b != Stamped.type a

def types (entries : List α) : List String := entries.map Stamped.type

theorem types_filter_sublist (p : α → Bool) (entries : List α) :
    (types (entries.filter p)).Sublist (types entries) :=
  List.filter_sublist.map _

/-- So a set can be made of any list. -/
theorem nodup_types_firstOfEach (entries : List α) : (types (firstOfEach entries)).Nodup := by
  induction entries with
  | nil => exact List.nodup_nil
  | cons a rest ih =>
    simp only [firstOfEach, types, List.map_cons, List.nodup_cons]
    refine ⟨fun member => ?_, ih.sublist (types_filter_sublist _ _)⟩
    obtain ⟨b, hb, same⟩ := List.mem_map.1 member
    have different := (List.mem_filter.1 hb).2
    simp only [bne_iff_ne, ne_eq] at different
    exact different same

/-- The entry with the transition time it takes over from `old`, and what happened to it. -/
def replacing (old new : α) (now : Timestamp) : Transition × α :=
  if Stamped.status old = Stamped.status new then
    (.unchanged, Stamped.setTransitionTime ((Stamped.transitionTime? old).getD now) new)
  else (.changed (Stamped.status old), Stamped.setTransitionTime now new)

theorem type_replacing (old new : α) (now : Timestamp) :
    Stamped.type (replacing old new now).2 = Stamped.type new := by
  unfold replacing
  split <;> exact Stamped.type_setTransitionTime _ _

/-- Replaces the first entry of the type of `new`, or appends it. -/
def upsertInto (new : α) (now : Timestamp) : List α → Transition × List α
  | [] => (.added, [Stamped.setTransitionTime now new])
  | old :: rest =>
    if Stamped.type old = Stamped.type new then
      ((replacing old new now).1, (replacing old new now).2 :: rest)
    else ((upsertInto new now rest).1, old :: (upsertInto new now rest).2)

/-- The types keep their places, and a new one comes last. -/
theorem types_upsertInto (new : α) (now : Timestamp) (entries : List α) :
    types (upsertInto new now entries).2 =
      if Stamped.type new ∈ types entries then types entries
      else types entries ++ [Stamped.type new] := by
  induction entries with
  | nil => simp [upsertInto, types, Stamped.type_setTransitionTime]
  | cons old rest ih =>
    by_cases same : Stamped.type old = Stamped.type new
    · simp [upsertInto, types, same, type_replacing]
    · have apart : ¬ Stamped.type new = Stamped.type old := fun h => same h.symm
      simp only [types] at ih
      simp only [upsertInto, same, if_false, types, List.map_cons, ih, List.mem_cons, apart,
        false_or]
      split <;> simp_all

theorem nodup_types_upsertInto (new : α) (now : Timestamp) {entries : List α}
    (distinct : (types entries).Nodup) : (types (upsertInto new now entries).2).Nodup := by
  rw [types_upsertInto]
  split
  · exact distinct
  · rename_i absent
    rw [List.nodup_append]
    refine ⟨distinct, by simp, fun a ha b hb same => ?_⟩
    rw [List.mem_singleton] at hb
    exact absent (hb ▸ same ▸ ha)

end Lists

/-- A list of conditions with one entry for each type, in the order of first insertion. -/
structure ConditionSet (α : Type) [Stamped α] where
  toList : List α
  nodup_types : (types toList).Nodup

namespace ConditionSet

variable {α : Type} [Stamped α]

def empty : ConditionSet α := ⟨[], List.nodup_nil⟩

/-- The set of a list; the first entry of a repeated type counts. -/
def ofList (entries : List α) : ConditionSet α :=
  ⟨firstOfEach entries, nodup_types_firstOfEach entries⟩

def get? (set : ConditionSet α) (type : String) : Option α :=
  set.toList.find? fun a => Stamped.type a == type

def contains (set : ConditionSet α) (type : String) : Bool :=
  (set.get? type).isSome

def size (set : ConditionSet α) : Nat := set.toList.length

def isEmpty (set : ConditionSet α) : Bool := set.toList.isEmpty

/-- Inserts an entry observed at `now`, or replaces the one of its type. A new entry, and one whose
status differs from the old one, changed at `now`; any other keeps the old transition time, if there
is one. -/
def upsert (set : ConditionSet α) (new : α) (now : Timestamp) : Transition × ConditionSet α :=
  let result := upsertInto (Stamped.observe now new) now set.toList
  (result.1, ⟨result.2, nodup_types_upsertInto _ _ set.nodup_types⟩)

/-- Equality of sets, in which the order of the entries does not count. -/
def same [DecidableEq α] (a b : ConditionSet α) : Bool :=
  a.size == b.size && a.toList.all fun entry => b.get? (Stamped.type entry) == some entry

end ConditionSet

end InstallStatus
