import Mathlib
import InstallStatus.Proofs.OnePass

/-!
Upserts one after the other, as many as there are. Through all of them a condition set stays a list with a
key: the places of its types, what it holds for a type and since when follow from the list it was made of
and from the log of the upserts of that type.
-/

namespace InstallStatus

/-- What an upsert tells of a record with status `new` where the status was `old?`. -/
def Transition.between (old? : Option Status) (new : Status) : Transition :=
  match old? with
  | none => .added
  | some old => if old = new then .unchanged else .changed old

theorem types_firstOfEach {α : Type} [Stamped α] (entries : List α) :
    types (firstOfEach entries) = (types entries).eraseDups := by
  match entries with
  | [] => rfl
  | first :: rest =>
    have later := types_firstOfEach (rest.filter fun entry => Stamped.type entry != Stamped.type first)
    have others : types (rest.filter fun entry => Stamped.type entry != Stamped.type first) =
        (types rest).filter fun type => !type == Stamped.type first := by
      rw [types, types, List.filter_map]
      rfl
    rw [firstOfEach, ← firstOfEach_filter]
    show Stamped.type first :: types _ = (Stamped.type first :: types rest).eraseDups
    rw [later, others, List.eraseDups_cons]
termination_by entries.length
decreasing_by exact Nat.lt_succ_of_le (List.length_filter_le _ _)

theorem eraseDups_concat (types : List String) (type : String) :
    (types ++ [type]).eraseDups = types.eraseDups ++ if type ∈ types then [] else [type] := by
  rw [List.eraseDups_append]
  by_cases present : type ∈ types
  · simp [List.removeAll, present]
  · simp [List.removeAll, present, List.eraseDups_cons]

section Step

variable {α : Type} [Stamped α]

/-- The transition time that an upsert gives to its record where `old?` stands for the type. -/
def changedAt (old? : Option α) (new : α) (now : Timestamp) : Timestamp :=
  if Transition.between (old?.map Stamped.status) (Stamped.status new) = .unchanged then
    (old?.bind Stamped.transitionTime?).getD now
  else now

/-- What is told of a replaced record and the time it is given, by the two statuses alone. -/
theorem replacing_observe (old new : α) (now : Timestamp) :
    replacing old (Stamped.observe now new) now =
      (.between (some (Stamped.status old)) (Stamped.status new),
        Stamped.setTransitionTime (changedAt (some old) new now) (Stamped.observe now new)) := by
  unfold replacing changedAt
  rw [Stamped.status_observe, Option.map_some, Transition.between]
  by_cases same : Stamped.status old = Stamped.status new
  · simp only [if_pos same, if_true, Option.bind_some]
  · simp only [if_neg same, reduceCtorEq, if_false]

namespace ConditionSet

variable (set : ConditionSet α) (new : α) (now : Timestamp)

theorem get?_eq_none_iff {set : ConditionSet α} {type : String} :
    set.get? type = none ↔ type ∉ types set.toList := by
  rw [← contains_iff, contains, Option.not_isSome_iff_eq_none]

/-- What one upsert tells, and what it leaves for the type of its record. -/
theorem upsert_eq :
    (set.upsert new now).1 = .between ((set.get? (Stamped.type new)).map Stamped.status) (Stamped.status new) ∧
      (set.upsert new now).2.get? (Stamped.type new) =
        some (Stamped.setTransitionTime (changedAt (set.get? (Stamped.type new)) new now)
          (Stamped.observe now new)) := by
  have ofType := Stamped.type_observe now new
  cases found : set.get? (Stamped.type new) with
  | none =>
    have absent : Stamped.type (Stamped.observe now new) ∉ types set.toList :=
      ofType.symm ▸ get?_eq_none_iff.mp found
    have result := upsertInto_of_absent now absent
    refine ⟨congrArg Prod.fst result, get?_eq_some_iff.mpr ⟨?_, ?_⟩⟩
    · rw [toList_upsert, result]
      exact List.mem_append_right _ (List.mem_singleton_self _)
    · rw [Stamped.type_setTransitionTime, ofType]
  | some old =>
    obtain ⟨member, same⟩ := get?_eq_some_iff.mp found
    have result := upsertInto_of_mem now set.nodup_types member (same.trans ofType.symm)
    rw [replacing_observe] at result
    refine ⟨congrArg Prod.fst result, get?_eq_some_iff.mpr ⟨?_, ?_⟩⟩
    · rw [toList_upsert, result]
      exact List.mem_map.mpr ⟨old, member, if_pos (same.trans ofType.symm)⟩
    · rw [Stamped.type_setTransitionTime, ofType]

theorem get?_upsert_of_ne {type : String} (differ : Stamped.type new ≠ type) :
    (set.upsert new now).2.get? type = set.get? type := by
  refine Option.ext fun entry => ?_
  rw [get?_eq_some_iff, get?_eq_some_iff]
  refine and_congr_left fun ofType => mem_upsert_of_ne fun same => ?_
  exact differ (same.symm.trans ofType)

end ConditionSet

end Step

/-- An upsert as it went. -/
structure Upsert (α : Type) where
  record : α
  time : Timestamp
  told : Transition

/-- A set after upserts one after the other, and the log of them. -/
structure UpsertRun (α : Type) [Stamped α] where
  set : ConditionSet α
  log : List (Upsert α)

section Run

variable {α : Type} [Stamped α]

namespace UpsertRun

def start (initial : List α) : UpsertRun α := ⟨.ofList initial, []⟩

def next (run : UpsertRun α) (record : α) (time : Timestamp) : UpsertRun α :=
  ⟨(run.set.upsert record time).2, run.log ++ [⟨record, time, (run.set.upsert record time).1⟩]⟩

/-- The run that upserts these records at these times into the set of a list. -/
def of (initial : List α) (requests : List (α × Timestamp)) : UpsertRun α :=
  requests.foldl (fun run request => run.next request.1 request.2) (start initial)

/-- Runs are taken apart at their last upsert; so is the log. -/
theorem of_concat (initial : List α) (requests : List (α × Timestamp)) (record : α) (time : Timestamp) :
    of initial (requests ++ [(record, time)]) = (of initial requests).next record time :=
  List.foldl_concat ..

end UpsertRun

/-- The upserts of a type. -/
def upsertsOf (type : String) (log : List (Upsert α)) : List (Upsert α) :=
  log.filter fun upsert => Stamped.type upsert.record == type

/-- The first record of a type. -/
def firstOf? (type : String) (entries : List α) : Option α :=
  entries.find? fun entry => Stamped.type entry == type

/-- When the record of a type last changed, from its first record in the list and the log of its upserts:
with the last upsert that did not find the status unchanged, or else when the list says, or else with the
first upsert. -/
def lastChange? (first? : Option α) (log : List (Upsert α)) : Option Timestamp :=
  (((log.filter fun upsert => upsert.told ≠ .unchanged).getLast?.map Upsert.time).or
    (first?.bind Stamped.transitionTime?)).or (log.head?.map Upsert.time)

/-- The record that counts for a type, its times apart: the one upserted last, or else the first of the list. -/
def counting? (initial : List α) (log : List (Upsert α)) (type : String) : Option α :=
  ((upsertsOf type log).getLast?.map Upsert.record).or (firstOf? type initial)

/-- What is held for a type. -/
def held? (initial : List α) (log : List (Upsert α)) (type : String) : Option α :=
  match (upsertsOf type log).getLast? with
  | none => firstOf? type initial
  | some last => (lastChange? (firstOf? type initial) (upsertsOf type log)).map fun changed =>
      Stamped.setTransitionTime changed (Stamped.observe last.time last.record)

theorem upsertsOf_concat_self (log : List (Upsert α)) (upsert : Upsert α) :
    upsertsOf (Stamped.type upsert.record) (log ++ [upsert]) =
      upsertsOf (Stamped.type upsert.record) log ++ [upsert] := by
  rw [upsertsOf, List.filter_append, List.filter_cons_of_pos (by simp), List.filter_nil, upsertsOf]

theorem upsertsOf_concat_of_ne {type : String} {upsert : Upsert α} (differ : Stamped.type upsert.record ≠ type)
    (log : List (Upsert α)) : upsertsOf type (log ++ [upsert]) = upsertsOf type log := by
  rw [upsertsOf, List.filter_append, List.filter_cons_of_neg (by simpa using differ), List.filter_nil,
    List.append_nil, upsertsOf]

/-- The time of the last change moves with an upsert that does not find the status unchanged. -/
theorem lastChange?_concat (first? : Option α) (log : List (Upsert α)) (upsert : Upsert α) :
    lastChange? first? (log ++ [upsert]) =
      some (if upsert.told = .unchanged then (lastChange? first? log).getD upsert.time else upsert.time) := by
  have heads : (log ++ [upsert]).head?.map Upsert.time = (log.head?.map Upsert.time).or (some upsert.time) := by
    rw [List.head?_append, Option.map_or]
    rfl
  unfold lastChange?
  rw [List.filter_append, heads, ← Option.or_assoc]
  by_cases same : upsert.told = .unchanged
  · rw [if_pos same, List.filter_cons_of_neg (by simpa using same), List.filter_nil, List.append_nil,
      Option.or_some]
  · rw [if_neg same, List.filter_cons_of_pos (by simpa using same), List.filter_nil, List.getLast?_concat]
    rfl

theorem exists_lastChange? (first? : Option α) {log : List (Upsert α)} (upserted : log ≠ []) :
    ∃ changed, lastChange? first? log = some changed := by
  obtain ⟨upsert, rest, rfl⟩ := List.exists_cons_of_ne_nil upserted
  unfold lastChange?
  rw [List.head?_cons, Option.map_some, Option.or_some]
  exact ⟨_, rfl⟩

theorem held?_of_none {initial : List α} {log : List (Upsert α)} {type : String}
    (untouched : upsertsOf type log = []) : held? initial log type = firstOf? type initial := by
  simp only [held?, untouched, List.getLast?_nil]

theorem held?_of_some (initial : List α) {log : List (Upsert α)} {type : String} {last : Upsert α}
    (upserted : (upsertsOf type log).getLast? = some last) :
    ∃ changed, lastChange? (firstOf? type initial) (upsertsOf type log) = some changed ∧
      held? initial log type = some (Stamped.setTransitionTime changed (Stamped.observe last.time last.record)) := by
  have nonempty : upsertsOf type log ≠ [] := by
    intro empty
    rw [empty] at upserted
    cases upserted
  obtain ⟨changed, time⟩ := exists_lastChange? (firstOf? type initial) nonempty
  refine ⟨changed, time, ?_⟩
  simp only [held?, upserted, time, Option.map_some]

/-- The status that is held is that of the record that counts; only the times are of another make. -/
theorem status_held? (initial : List α) (log : List (Upsert α)) (type : String) :
    (held? initial log type).map Stamped.status = (counting? initial log type).map Stamped.status := by
  unfold counting?
  cases upserted : (upsertsOf type log).getLast? with
  | none => rw [held?_of_none (List.getLast?_eq_none_iff.mp upserted), Option.map_none, Option.none_or]
  | some last =>
    obtain ⟨changed, _, held⟩ := held?_of_some initial upserted
    rw [held, Option.map_some, Option.map_some, Option.some_or, Option.map_some,
      Stamped.status_setTransitionTime, Stamped.status_observe]

/-- The transition time can be read off the log. -/
theorem transitionTime?_held? (initial : List α) (log : List (Upsert α)) (type : String) :
    (held? initial log type).bind Stamped.transitionTime? =
      lastChange? (firstOf? type initial) (upsertsOf type log) := by
  cases upserted : (upsertsOf type log).getLast? with
  | none =>
    have untouched := List.getLast?_eq_none_iff.mp upserted
    rw [held?_of_none untouched, untouched, lastChange?]
    simp
  | some last =>
    obtain ⟨changed, time, held⟩ := held?_of_some initial upserted
    rw [held, time, Option.bind_some, Stamped.transitionTime?_setTransitionTime]

/-- What is held for a type after one more upsert of it. -/
theorem held?_concat_self {initial : List α} {log : List (Upsert α)} {old? : Option α} (upsert : Upsert α)
    (held : held? initial log (Stamped.type upsert.record) = old?)
    (told : upsert.told = .between (old?.map Stamped.status) (Stamped.status upsert.record)) :
    held? initial (log ++ [upsert]) (Stamped.type upsert.record) =
      some (Stamped.setTransitionTime (changedAt old? upsert.record upsert.time)
        (Stamped.observe upsert.time upsert.record)) := by
  have ofType := upsertsOf_concat_self log upsert
  have last : (upsertsOf (Stamped.type upsert.record) (log ++ [upsert])).getLast? = some upsert := by
    rw [ofType]
    exact List.getLast?_concat
  obtain ⟨changed, time, after⟩ := held?_of_some initial last
  rw [ofType, lastChange?_concat, ← transitionTime?_held?, held, told] at time
  rw [after, ← Option.some.inj time, changedAt]

theorem held?_concat_of_ne {initial : List α} {log : List (Upsert α)} {upsert : Upsert α} {type : String}
    (differ : Stamped.type upsert.record ≠ type) :
    held? initial (log ++ [upsert]) type = held? initial log type := by
  rw [held?, upsertsOf_concat_of_ne differ, held?]

namespace UpsertRun

variable (initial : List α) (requests : List (α × Timestamp))

/-- After any number of upserts the set holds what the list and the log say. -/
theorem get?_of (type : String) :
    (of initial requests).set.get? type = held? initial (of initial requests).log type := by
  induction requests using List.reverseRecOn generalizing type with
  | nil => exact ConditionSet.get?_ofList initial type
  | append_singleton earlier request ih =>
    obtain ⟨record, time⟩ := request
    rw [of_concat]
    by_cases same : Stamped.type record = type
    · subst same
      obtain ⟨told, left⟩ := (of initial earlier).set.upsert_eq record time
      rw [ih] at told left
      exact left.trans (held?_concat_self ⟨record, time, _⟩ rfl told).symm
    · exact ((of initial earlier).set.get?_upsert_of_ne record time same).trans
        ((ih type).trans (held?_concat_of_ne same).symm)

theorem log_of : (of initial requests).log.map (fun upsert => (upsert.record, upsert.time)) = requests := by
  induction requests using List.reverseRecOn with
  | nil => rfl
  | append_singleton earlier request ih =>
    rw [of_concat, next, List.map_append, ih]
    rfl

/-- The order of the types is that of their first mention, in the list or by an upsert. -/
theorem types_of : types (of initial requests).set.toList =
    (types initial ++ requests.map fun request => Stamped.type request.1).eraseDups := by
  induction requests using List.reverseRecOn with
  | nil =>
    rw [List.map_nil, List.append_nil]
    exact types_firstOfEach initial
  | append_singleton earlier request ih =>
    obtain ⟨record, time⟩ := request
    have listed : Stamped.type record ∈ types (of initial earlier).set.toList ↔
        Stamped.type record ∈ types initial ++ earlier.map fun request => Stamped.type request.1 := by
      rw [ih, List.mem_eraseDups]
    have step := ConditionSet.types_upsert (of initial earlier).set record time
    rw [of_concat, next, step, List.map_append, ← List.append_assoc, List.map_singleton, eraseDups_concat, ← ih]
    by_cases present : Stamped.type record ∈ types (of initial earlier).set.toList
    · rw [if_pos present, if_pos (listed.mp present), List.append_nil]
    · rw [if_neg present, if_neg (present ∘ listed.mpr)]

/-- Places are kept for ever, since types are only appended. -/
theorem prefix_types_of (more : List (α × Timestamp)) :
    types (of initial requests).set.toList <+: types (of initial (requests ++ more)).set.toList := by
  have split := @List.eraseDups_append _ _ _ (types initial ++ requests.map fun request => Stamped.type request.1)
    (more.map fun request => Stamped.type request.1)
  rw [types_of, types_of, List.map_append, ← List.append_assoc, split]
  exact List.prefix_append ..

/-- Each upsert tells what it has done to the record that counted until then. -/
theorem told_of {place : Nat} {upsert : Upsert α} (logged : (of initial requests).log[place]? = some upsert) :
    upsert.told = .between
      ((counting? initial ((of initial requests).log.take place) (Stamped.type upsert.record)).map Stamped.status)
      (Stamped.status upsert.record) := by
  induction requests using List.reverseRecOn with
  | nil => cases logged
  | append_singleton earlier request ih =>
    obtain ⟨record, time⟩ := request
    rw [of_concat, next] at logged ⊢
    rcases Nat.lt_trichotomy place (of initial earlier).log.length with before | last | after
    · rw [List.getElem?_append_left before] at logged
      rw [List.take_append_of_le_length before.le]
      exact ih logged
    · subst last
      rw [List.getElem?_concat_length] at logged
      obtain rfl := Option.some.inj logged
      rw [List.take_left, ← status_held?, ← get?_of]
      exact ((of initial earlier).set.upsert_eq record time).1
    · rw [List.getElem?_eq_none (by simp; omega)] at logged
      cases logged

end UpsertRun

/-- What is left by upserts into the set of a list. `stamp` gives a record the time of its upsert and that of
its last change, and leaves the rest of it. -/
structure KeyedList (stamp : Upsert α → Timestamp → α) (initial : List α) (requests : List (α × Timestamp))
    (run : UpsertRun α) : Prop where
  logged : run.log.map (fun upsert => (upsert.record, upsert.time)) = requests
  told : ∀ (place : Nat) (upsert : Upsert α), run.log[place]? = some upsert →
    upsert.told = .between
      ((counting? initial (run.log.take place) (Stamped.type upsert.record)).map Stamped.status)
      (Stamped.status upsert.record)
  nodup : (types run.set.toList).Nodup
  order : types run.set.toList =
    (types initial ++ requests.map fun request => Stamped.type request.1).eraseDups
  places : ∀ more, types run.set.toList <+: types (UpsertRun.of initial (requests ++ more)).set.toList
  get?_iff : ∀ type entry, run.set.get? type = some entry ↔ entry ∈ run.set.toList ∧ Stamped.type entry = type
  contains_iff : ∀ type, run.set.contains type = true ↔ type ∈ types run.set.toList
  size_eq : run.set.size = run.set.toList.length
  untouched : ∀ type, upsertsOf type run.log = [] → run.set.get? type = firstOf? type initial
  upserted : ∀ type last, (upsertsOf type run.log).getLast? = some last →
    ∃ changed, lastChange? (firstOf? type initial) (upsertsOf type run.log) = some changed ∧
      run.set.get? type = some (stamp last changed)

theorem keyedList_of (initial : List α) (requests : List (α × Timestamp)) :
    KeyedList (fun upsert changed => Stamped.setTransitionTime changed (Stamped.observe upsert.time upsert.record))
      initial requests (.of initial requests) where
  logged := UpsertRun.log_of initial requests
  told _ _ := UpsertRun.told_of initial requests
  nodup := (UpsertRun.of initial requests).set.nodup_types
  order := UpsertRun.types_of initial requests
  places := UpsertRun.prefix_types_of initial requests
  get?_iff _ _ := ConditionSet.get?_eq_some_iff
  contains_iff _ := ConditionSet.contains_iff
  size_eq := rfl
  untouched type apart := (UpsertRun.get?_of initial requests type).trans (held?_of_none apart)
  upserted type last found := by
    rw [UpsertRun.get?_of]
    exact held?_of_some initial found

end Run

/-- Upserts of either sort of condition, any number of them into the set of any list, keep a list with a key. -/
theorem upserts_keep_keyed_list :
    (∀ (initial : List Condition) (requests : List (Condition × Timestamp)),
      KeyedList (fun upsert changed => { upsert.record with lastTransitionTime := changed })
        initial requests (.of initial requests)) ∧
    ∀ (initial : List DeploymentCondition) (requests : List (DeploymentCondition × Timestamp)),
      KeyedList (fun upsert changed =>
          { upsert.record with lastProbeTime := some upsert.time, lastTransitionTime := some changed })
        initial requests (.of initial requests) :=
  ⟨keyedList_of, keyedList_of⟩

end InstallStatus
