import Mathlib
import InstallStatus.Proofs.UpsertRuns

/-!
Condition sets as they are stored: records in the order of insertion, each under a key that is kept beside
it. Nothing in that form says that the key is the type of the record, and an upsert that replaces a record
leaves the key as it is. Main statement: a set that stores its keys and one that reads them off its records
stay in step, and so they tell the same of every upsert and answer every look-up alike.
-/

namespace InstallStatus

/-- Records in the order of insertion, each under its key. -/
abbrev KeyedRecords (α : Type) := List (String × α)

namespace KeyedRecords

variable {α : Type}

def get? (entries : KeyedRecords α) (key : String) : Option α := entries.lookup key

def contains (entries : KeyedRecords α) (key : String) : Bool := (entries.get? key).isSome

/-- Puts a record in the place of the one under a key. -/
def assign (key : String) (record : α) : KeyedRecords α → KeyedRecords α
  | [] => []
  | (k, old) :: rest => if key = k then (k, record) :: rest else (k, old) :: assign key record rest

/-- Puts a record under a key, as the last one if the key is new. -/
def insert (entries : KeyedRecords α) (key : String) (record : α) : KeyedRecords α :=
  if entries.contains key then entries.assign key record else entries ++ [(key, record)]

/-- Puts a record under a key that is new, and leaves what stands under any other. -/
def insertNew (entries : KeyedRecords α) (key : String) (record : α) : KeyedRecords α :=
  if entries.contains key then entries else entries ++ [(key, record)]

def same [DecidableEq α] (entries others : KeyedRecords α) : Bool :=
  entries.length == others.length && entries.all fun entry => others.get? entry.1 == some entry.2

variable [Stamped α]

def ofRecords (records : List α) : KeyedRecords α :=
  records.foldl (fun entries record => entries.insertNew (Stamped.type record) record) []

def upsert (entries : KeyedRecords α) (new : α) (now : Timestamp) : Transition × KeyedRecords α :=
  let record := Stamped.observe now new
  match entries.get? (Stamped.type record) with
  | none =>
    (.added, entries.insert (Stamped.type record) (Stamped.setTransitionTime now record))
  | some old =>
    ((replacing old record now).1, entries.assign (Stamped.type record) (replacing old record now).2)

theorem upsert_of_none {entries : KeyedRecords α} {new : α} {now : Timestamp}
    (absent : entries.get? (Stamped.type (Stamped.observe now new)) = none) :
    entries.upsert new now = (.added,
      entries ++ [(Stamped.type (Stamped.observe now new),
        Stamped.setTransitionTime now (Stamped.observe now new))]) := by
  simp only [upsert, absent, insert, contains, Option.isSome_none, Bool.false_eq_true, if_false]

theorem upsert_of_some {entries : KeyedRecords α} {old new : α} {now : Timestamp}
    (found : entries.get? (Stamped.type (Stamped.observe now new)) = some old) :
    entries.upsert new now = ((replacing old (Stamped.observe now new) now).1,
      entries.assign (Stamped.type (Stamped.observe now new))
        (replacing old (Stamped.observe now new) now).2) := by
  simp only [upsert, found]

/-- The records after upserts one after the other into those of a list, and the log of them. -/
def run (initial : List α) (requests : List (α × Timestamp)) : KeyedRecords α × List (Upsert α) :=
  requests.foldl
    (fun reached request =>
      let result := reached.1.upsert request.1 request.2
      (result.2, reached.2 ++ [⟨request.1, request.2, result.1⟩]))
    (ofRecords initial, [])

/-- Each record under its type. -/
def ofTypes (records : List α) : KeyedRecords α := records.map fun record => (Stamped.type record, record)

theorem get?_ofTypes (records : List α) (key : String) :
    (ofTypes records).get? key = records.find? fun record => Stamped.type record == key := by
  induction records with
  | nil => rfl
  | cons first rest ih =>
    rw [ofTypes, List.map_cons, ← ofTypes, get?, List.lookup_cons, ← get?, ih, List.find?_cons]
    by_cases here : Stamped.type first = key
    · simp only [here, beq_self_eq_true]
    · simp only [beq_false_of_ne here, beq_false_of_ne (Ne.symm here)]

theorem contains_ofTypes {records : List α} {key : String} :
    (ofTypes records).contains key = true ↔ key ∈ types records := by
  rw [contains, get?_ofTypes, List.find?_isSome, mem_types]
  simp only [beq_iff_eq]

theorem ofTypes_concat (records : List α) (record : α) :
    ofTypes (records ++ [record]) = ofTypes records ++ [(Stamped.type record, record)] :=
  List.map_append

/-- The first record of each type is kept, whether the types are looked up as keys or left out later on. -/
theorem firstOfEach_concat (records : List α) (record : α) :
    firstOfEach (records ++ [record]) =
      if Stamped.type record ∈ types records then firstOfEach records else firstOfEach records ++ [record] := by
  induction records with
  | nil => rfl
  | cons first rest ih =>
    have either : Stamped.type record ∈ types (first :: rest) ↔
        Stamped.type record = Stamped.type first ∨ Stamped.type record ∈ types rest := List.mem_cons
    rw [List.cons_append, firstOfEach, firstOfEach, ih]
    by_cases later : Stamped.type record ∈ types rest
    · rw [if_pos later, if_pos (either.mpr (.inr later))]
    · rw [if_neg later, List.filter_append]
      by_cases here : Stamped.type record = Stamped.type first
      · rw [if_pos (either.mpr (.inl here)), List.filter_cons_of_neg (by simpa using here), List.filter_nil,
          List.append_nil]
      · rw [if_neg (mt either.mp (not_or.mpr ⟨here, later⟩)), List.filter_cons_of_pos (by simpa using here),
          List.filter_nil, List.cons_append]

theorem types_firstOfEach_iff (records : List α) (type : String) :
    type ∈ types (firstOfEach records) ↔ type ∈ types records := by
  rw [types_firstOfEach, List.mem_eraseDups]

/-- Whether a key is there is asked of what was put in so far, which gives the first record of each type. -/
theorem ofRecords_eq (records : List α) : ofRecords records = ofTypes (firstOfEach records) := by
  induction records using List.reverseRecOn with
  | nil => rfl
  | append_singleton earlier record ih =>
    have step : ofRecords (earlier ++ [record]) = (ofRecords earlier).insertNew (Stamped.type record) record :=
      List.foldl_concat ..
    rw [step, ih, insertNew, firstOfEach_concat]
    simp only [contains_ofTypes, types_firstOfEach_iff]
    split
    · rfl
    · rw [ofTypes_concat]

/-- A record that is replaced keeps its key, which is the type of the record that replaces it as well. -/
theorem assign_ofTypes {old new : α} {now : Timestamp} {records : List α}
    (found : (ofTypes records).get? (Stamped.type new) = some old) :
    (upsertInto new now records).1 = (replacing old new now).1 ∧
      (ofTypes records).assign (Stamped.type new) (replacing old new now).2 =
        ofTypes (upsertInto new now records).2 := by
  rw [get?_ofTypes] at found
  induction records with
  | nil => cases found
  | cons first rest ih =>
    rw [List.find?_cons] at found
    rw [ofTypes, List.map_cons, assign, upsertInto]
    by_cases here : Stamped.type first = Stamped.type new
    · simp only [here, beq_self_eq_true, Option.some.injEq] at found
      subst found
      rw [if_pos here, if_pos here.symm, ofTypes, List.map_cons, type_replacing, here]
      exact ⟨rfl, rfl⟩
    · simp only [beq_false_of_ne here] at found
      obtain ⟨told, left⟩ := ih found
      rw [if_neg here, if_neg (Ne.symm here), ← ofTypes, left, ofTypes, ofTypes, List.map_cons]
      exact ⟨told, rfl⟩

end KeyedRecords

section InStep

variable {α : Type} [Stamped α]

/-- A set and the stored form of it, in which the keys are the types of the records. -/
def InStep (set : ConditionSet α) (entries : KeyedRecords α) : Prop := entries = .ofTypes set.toList

namespace InStep

variable {set other : ConditionSet α} {entries others : KeyedRecords α}

theorem ofList (records : List α) : InStep (.ofList records) (.ofRecords records) :=
  KeyedRecords.ofRecords_eq records

theorem get?_eq (inStep : InStep set entries) (type : String) : entries.get? type = set.get? type := by
  rw [inStep, KeyedRecords.get?_ofTypes, ConditionSet.get?]

theorem contains_eq (inStep : InStep set entries) (type : String) :
    entries.contains type = set.contains type :=
  congrArg Option.isSome (inStep.get?_eq type)

/-- Written back, the records are the list of the set, in its order. -/
theorem records_eq (inStep : InStep set entries) : entries.map Prod.snd = set.toList := by
  rw [inStep, KeyedRecords.ofTypes, List.map_map]
  exact List.map_id _

theorem size_eq (inStep : InStep set entries) : entries.length = set.size := by
  rw [inStep, KeyedRecords.ofTypes, List.length_map, ConditionSet.size]

/-- Each record stands under its own type. Nothing else keeps the keys right. -/
theorem key_eq (inStep : InStep set entries) : ∀ entry ∈ entries, entry.1 = Stamped.type entry.2 := by
  rw [inStep]
  exact List.forall_mem_map.mpr fun record _ => rfl

/-- Comparing the stored forms, keys and all, comes to comparing the sets. -/
theorem same_eq [DecidableEq α] (inStep : InStep set entries) (otherInStep : InStep other others) :
    entries.same others = set.same other := by
  rw [KeyedRecords.same, ConditionSet.same, inStep.size_eq, otherInStep.size_eq, inStep, KeyedRecords.ofTypes,
    List.all_map]
  simp only [Function.comp_def, otherInStep.get?_eq]

/-- One upsert into both tells the same, and leaves them in step. -/
theorem upsert (inStep : InStep set entries) (new : α) (now : Timestamp) :
    (entries.upsert new now).1 = (set.upsert new now).1 ∧
      InStep (set.upsert new now).2 (entries.upsert new now).2 := by
  have lookup := inStep.get?_eq (Stamped.type (Stamped.observe now new))
  cases found : entries.get? (Stamped.type (Stamped.observe now new)) with
  | none =>
    have absent := ConditionSet.get?_eq_none_iff.mp (lookup.symm.trans found)
    have result := upsertInto_of_absent now absent
    rw [KeyedRecords.upsert_of_none found]
    refine ⟨(congrArg Prod.fst result).symm, ?_⟩
    rw [InStep, ConditionSet.toList_upsert, result, KeyedRecords.ofTypes_concat, Stamped.type_setTransitionTime,
      inStep]
  | some old =>
    rw [KeyedRecords.upsert_of_some found]
    rw [inStep] at found ⊢
    obtain ⟨told, left⟩ := KeyedRecords.assign_ofTypes found
    exact ⟨told.symm, left⟩

end InStep

/-- The set of a list and its stored form stay in step through any number of upserts, which are told of alike. -/
theorem inStep_run (initial : List α) (requests : List (α × Timestamp)) :
    InStep (UpsertRun.of initial requests).set (KeyedRecords.run initial requests).1 ∧
      (KeyedRecords.run initial requests).2 = (UpsertRun.of initial requests).log := by
  induction requests using List.reverseRecOn with
  | nil => exact ⟨.ofList initial, rfl⟩
  | append_singleton earlier request ih =>
    obtain ⟨inStep, logged⟩ := ih
    obtain ⟨told, next⟩ := inStep.upsert request.1 request.2
    rw [UpsertRun.of_concat, UpsertRun.next, KeyedRecords.run, List.foldl_concat, ← KeyedRecords.run]
    refine ⟨next, ?_⟩
    simp only [told, logged]

end InStep

end InstallStatus
