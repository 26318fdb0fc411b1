import Mathlib
import InstallStatus.Proofs.LastingLink
import InstallStatus.Proofs.Protocol

/-!
Lists of conditions, looked up as they stand or taken as sets. Both ways of looking a type up find its first
entry. A pass decides in the one way whether it reports that it starts the summary, and in the other whether
it does start it; so it reports that exactly when it does.
-/

namespace InstallStatus

section Taken

variable {α : Type} [Stamped α]

/-- The entry is the first of its type in the list. -/
def IsFirst (type : String) (entry : α) (entries : List α) : Prop :=
  ∃ before after, entries = before ++ entry :: after ∧ Stamped.type entry = type ∧ type ∉ types before

/-- What a look-up in a list finds is the first of its type, with none before it. -/
theorem find?_eq_some_iff_isFirst {type : String} {entry : α} {entries : List α} :
    entries.find? (fun other => Stamped.type other == type) = some entry ↔ IsFirst type entry entries := by
  rw [List.find?_eq_some_iff_append]
  simp only [beq_iff_eq, Bool.not_eq_true', beq_eq_false_iff_ne]
  constructor
  · rintro ⟨same, before, after, shape, others⟩
    refine ⟨before, after, shape, same, fun member => ?_⟩
    obtain ⟨other, inBefore, also⟩ := mem_types.mp member
    exact others other inBefore also
  · rintro ⟨before, after, shape, same, absent⟩
    exact ⟨same, before, after, shape, fun other member also => absent (also ▸ List.mem_map_of_mem member)⟩

/-- A set that was taken from a list in which types are looked up. -/
structure TakenFrom (entries : List α) (lookup : String → Option α) (set : ConditionSet α) : Prop where
  lookup_eq : ∀ type, lookup type = set.get? type
  first_iff : ∀ type entry, set.get? type = some entry ↔ IsFirst type entry entries
  toList_eq : set.toList = firstPerType entries
  rebuilt : ConditionSet.ofList set.toList = set

theorem takenFrom_ofList (entries : List α) :
    TakenFrom entries (fun type => entries.find? fun entry => Stamped.type entry == type) (.ofList entries) where
  lookup_eq type := (ConditionSet.get?_ofList entries type).symm
  first_iff type entry := by rw [ConditionSet.get?_ofList, find?_eq_some_iff_isFirst]
  toList_eq := ConditionSet.toList_ofList entries
  rebuilt := ConditionSet.ofList_toList _

end Taken

namespace ClusterInstanceStatus

/-- Both lists of a status as they are taken from it, and what is left of it then. -/
structure Taking (status : ClusterInstanceStatus) : Prop where
  general : TakenFrom status.conditions status.condition? status.takeConditions.1
  copied : TakenFrom status.deploymentConditions status.deploymentCondition? status.takeDeploymentConditions.1
  without_general : status.takeConditions.2 = ⟨status.clusterDeploymentRef, status.deploymentConditions, []⟩
  without_copied : status.takeDeploymentConditions.2 = ⟨status.clusterDeploymentRef, [], status.conditions⟩

theorem taking (status : ClusterInstanceStatus) : status.Taking :=
  ⟨takenFrom_ofList _, takenFrom_ofList _, rfl, rfl⟩

end ClusterInstanceStatus

namespace Provisioned

theorem fst_ensure (conditions : ConditionSet Condition) (now : Timestamp) :
    (ensure conditions now).1 = !conditions.contains conditionType := by
  unfold ensure
  split
  · rename_i present
    rw [present, Bool.not_true]
  · rename_i absent
    rw [Bool.eq_false_iff.mpr absent, Bool.not_false]

/-- It appends the waiting summary where it says so, and leaves the list where not. -/
theorem toList_ensure_eq (conditions : ConditionSet Condition) (now : Timestamp) :
    (ensure conditions now).2.toList =
      conditions.toList ++ if (ensure conditions now).1 then [waiting now] else [] := by
  rw [toList_ensure, fst_ensure]
  simp only [Bool.not_eq_true', ← Bool.not_eq_true, ConditionSet.contains_iff, ite_not]

/-- Whether a pass starts the summary can be seen in the list that it finds. -/
theorem fst_ensure_linked (deployment : ClusterDeployment) (status : ClusterInstanceStatus) (now : Timestamp) :
    (ensure (Projection.linked deployment status).takeConditions.1 now).1 =
      (status.condition? conditionType).isNone := by
  have taken : (Projection.linked deployment status).takeConditions.1 = status.takeConditions.1 := by
    rw [Projection.linked_eq]
    rfl
  rw [fst_ensure, taken, ConditionSet.contains, ← status.taking.general.lookup_eq, Option.not_isSome]

end Provisioned

namespace Pass

section Events

variable {α β : Type} {client : Client} {now : Timestamp}

/-- Reports come in the order of the stages. -/
theorem events_bind (pass : Pass α) (next : α → Pass β) :
    ((pass.bind next).trace client now).events =
      (pass.trace client now).events ++ ((next (pass.trace client now).result).trace client now).events := by
  induction pass with
  | done result => rfl
  | report event rest ih => exact congrArg (event :: ·) ih
  | clock rest ih => exact ih now
  | call request rest ih => exact ih (client request)

theorem events_reportAll (events : List Event) (next : Pass α) :
    ((reportAll events next).trace client now).events = events ++ (next.trace client now).events := by
  induction events with
  | nil => rfl
  | cons event rest ih => exact congrArg (event :: ·) ih

/-- The report that the summary is started. -/
def IsStart (event : Event) : Prop := event.message = "Initializing Provisioned condition"

/-- A pass that does not report that the summary is started. -/
def Quiet (client : Client) (now : Timestamp) (pass : Pass α) : Prop :=
  ∀ event ∈ (pass.trace client now).events, ¬ IsStart event

theorem quiet_done (result : α) : Quiet client now (.done result) := fun _ member => nomatch member

theorem quiet_report {event : Event} {next : Pass α} (other : ¬ IsStart event) (quiet : Quiet client now next) :
    Quiet client now (.report event next) := List.forall_mem_cons.mpr ⟨other, quiet⟩

/-- After a pass that does not report it, it is for what follows to report it. -/
theorem start_mem_andThen_iff {pass : Pass (Except Failure α)} {next : α → Pass (Except Failure β)}
    (quiet : Quiet client now pass) {event : Event} :
    event ∈ ((pass.andThen next).trace client now).events ∧ IsStart event ↔
      ∃ a, (pass.trace client now).result = .ok a ∧
        event ∈ ((next a).trace client now).events ∧ IsStart event := by
  rw [Pass.andThen, events_bind, List.mem_append]
  have early : event ∈ (pass.trace client now).events → ¬ IsStart event := quiet event
  cases (pass.trace client now).result with
  | error failure =>
    constructor
    · rintro ⟨member | late, start⟩
      · exact absurd start (early member)
      · cases late
    · rintro ⟨_, ended, _⟩
      cases ended
  | ok a =>
    constructor
    · rintro ⟨member, start⟩
      exact ⟨a, rfl, member.resolve_left fun before => early before start, start⟩
    · rintro ⟨_, ended, member, start⟩
      obtain rfl := Except.ok.inj ended
      exact ⟨.inr member, start⟩

/-- A pass is quiet if its stages are, whatever is found along the way. -/
theorem Quiet.andThen {pass : Pass (Except Failure α)} {next : α → Pass (Except Failure β)}
    (quiet : Quiet client now pass) (later : ∀ a, Quiet client now (next a)) :
    Quiet client now (pass.andThen next) := by
  intro event member start
  obtain ⟨a, _, late, _⟩ := (start_mem_andThen_iff quiet).mp ⟨member, start⟩
  exact later a event late start

theorem quiet_ask (request : Call) : Quiet client now (ask request) := fun _ member => nomatch member

theorem quiet_resolve (deployment : ClusterDeployment) : Quiet client now (resolve deployment) := by
  unfold resolve
  split
  · exact quiet_report (by simp [IsStart, Event.message]) (quiet_done _)
  · split
    · exact quiet_done _
    · refine (quiet_ask _).andThen fun found => ?_
      cases found with
      | none => exact quiet_report (by simp [IsStart, Event.message]) (quiet_done _)
      | some site => exact quiet_done _

theorem quiet_write (site : ClusterInstance) (found wanted : ClusterInstanceStatus) :
    Quiet client now (write site found wanted) := by
  unfold write
  split
  · exact quiet_done _
  · exact quiet_report (by simp [IsStart, Event.message]) (quiet_done _)
  · split
    · exact quiet_done _
    · exact (quiet_ask _).andThen fun _ => quiet_report (by simp [IsStart, Event.message]) (quiet_done _)

end Events

end Pass

/-- The reports of a projection are about changes and rules; none of them says that the summary is
started. -/
theorem projectReporting_quiet (deployment : ClusterDeployment) (found : ClusterInstanceStatus) (now : Timestamp) :
    ∀ event ∈ (projectReporting deployment found now).2, ¬ Pass.IsStart event := by
  rw [events_projectReporting]
  refine List.forall_mem_cons.mpr ⟨fun start => ?_, fun event member => ?_⟩
  · have summary := Projection.message_summaryEvent deployment
      (Projection.summarize deployment (.ofList found.conditions) now).1
    rw [start] at summary
    exact absurd summary (by decide)
  · obtain ⟨move, _, rfl⟩ := List.mem_map.mp member
    simp [Pass.IsStart, Event.message]

namespace Pass

variable {client : Client} {now : Timestamp}

/-- The summary is started in the status of an instance. -/
def Starts (deployment : ClusterDeployment) (site : ClusterInstance) (now : Timestamp) : Prop :=
  (Provisioned.ensure (Projection.linked deployment site.currentStatus).takeConditions.1 now.truncate).1 = true

/-- The last stage of a pass reports the start of the summary exactly if the summary was missing. -/
theorem start_mem_align_iff {ns : String} {deployment : ClusterDeployment} {site : ClusterInstance}
    {event : Event} :
    event ∈ ((align ns deployment site).trace client now).events ∧ IsStart event ↔
      Starts deployment site now ∧ event = .summaryStarted site.name deployment.name ns := by
  have events : ((align ns deployment site).trace client now).events =
      ((if (site.currentStatus.condition? Provisioned.conditionType).isNone
        then [.summaryStarted site.name deployment.name ns] else []) ++
        (projectReporting deployment site.currentStatus now.truncate).2) ++
      (((write site site.currentStatus (project deployment site.currentStatus now.truncate)).andThen fun _ =>
        .done (.ok Action.awaitChange)).trace client now).events := events_reportAll _ _
  rw [events, List.mem_append, List.mem_append, Starts, Provisioned.fst_ensure_linked]
  constructor
  · rintro ⟨(started | reported) | written, start⟩
    · split at started
      · rename_i missing
        exact ⟨missing, List.mem_singleton.mp started⟩
      · cases started
    · exact absurd start (projectReporting_quiet _ _ _ event reported)
    · exact absurd start ((quiet_write _ _ _).andThen (fun _ => quiet_done _) event written)
  · rintro ⟨missing, rfl⟩
    rw [if_pos missing]
    exact ⟨.inl (.inl (List.mem_singleton_self _)), rfl⟩

theorem resolved_iff {deployment : ClusterDeployment} {site : ClusterInstance} :
    ((resolve deployment).trace client now).result = .ok (some site) ↔
      ∃ owner place, deployment.FirstOwner owner ∧ deployment.metadata.namespaceName = some place ∧
        client (.getInstance owner place) = .ok (some site) := by
  simp only [← ClusterDeployment.owner?_eq_some_iff]
  refine ⟨owned_of_resolve, fun ⟨owner, place, owned, lies, answered⟩ => ?_⟩
  simp only [resolve, owned, lies, ask, andThen, bind, trace, answered]

theorem start_mem_body_iff {name ns : String} {event : Event} :
    event ∈ ((body name ns).trace client now).events ∧ IsStart event ↔
      ∃ deployment site, client (.getDeployment name ns) = .ok (some deployment) ∧
        ((resolve deployment).trace client now).result = .ok (some site) ∧ Starts deployment site now ∧
        event = .summaryStarted site.name deployment.name ns := by
  rw [body, start_mem_andThen_iff (quiet_ask _)]
  constructor
  · rintro ⟨found, answered, member, start⟩
    cases found with
    | none => exact absurd start (quiet_report (by simp [IsStart, Event.message]) (quiet_done _) event member)
    | some deployment =>
      obtain ⟨site?, resolved, late, _⟩ := (start_mem_andThen_iff (quiet_resolve deployment)).mp ⟨member, start⟩
      cases site? with
      | none => exact absurd start (quiet_done _ event late)
      | some site => exact ⟨deployment, site, answered, resolved, start_mem_align_iff.mp ⟨late, start⟩⟩
  · rintro ⟨deployment, site, answered, resolved, starts⟩
    refine ⟨some deployment, answered, (start_mem_andThen_iff (quiet_resolve deployment)).mpr ?_⟩
    exact ⟨some site, resolved, start_mem_align_iff.mpr starts⟩

/-- A pass reports that the summary is started exactly when it starts it, in the instance that it finds. -/
theorem start_mem_ofTrigger_iff {trigger : ClusterDeployment} {event : Event} :
    event ∈ ((ofTrigger trigger).trace client now).events ∧ IsStart event ↔
      ∃ ns deployment site, trigger.metadata.namespaceName = some ns ∧
        FindsSite client trigger deployment site ∧ Starts deployment site now ∧
        event = .summaryStarted site.name deployment.name ns := by
  cases placed : trigger.metadata.namespaceName with
  | none =>
    have silent : Quiet client now (ofTrigger trigger) := by
      simp only [ofTrigger, placed]
      exact quiet_done _
    constructor
    · rintro ⟨member, start⟩
      exact absurd start (silent event member)
    · rintro ⟨_, _, _, somewhere, _⟩
      cases somewhere
  | some ns =>
    have events : ((ofTrigger trigger).trace client now).events =
        .passStarted :: ((body trigger.name ns).trace client now).events := by
      simp only [ofTrigger, placed, trace]
    have other : ¬ IsStart .passStarted := by simp [IsStart, Event.message]
    have inBody : event ∈ ((ofTrigger trigger).trace client now).events ∧ IsStart event ↔
        event ∈ ((body trigger.name ns).trace client now).events ∧ IsStart event := by
      rw [events, List.mem_cons]
      exact and_congr_left fun start => or_iff_right fun same => other (same ▸ start)
    rw [inBody, start_mem_body_iff]
    constructor
    · rintro ⟨deployment, site, answered, resolved, starts⟩
      exact ⟨ns, deployment, site, rfl, ⟨⟨ns, placed, answered⟩, resolved_iff.mp resolved⟩, starts⟩
    · rintro ⟨_, deployment, site, here, ⟨⟨_, there, answered⟩, reached⟩, starts⟩
      obtain rfl := Option.some.inj here
      obtain rfl := Option.some.inj (placed.symm.trans there)
      exact ⟨deployment, site, answered, resolved_iff.mpr reached, starts⟩

/-- Looking a type up in a list finds its first entry, and so does looking it up in the set that is taken from the
list, which holds the first entries in their order and is made again from them. To take one list leaves the rest of
the status. So a pass reports that it starts the summary exactly when the projection does: when the step that looks
for the summary in the set of the general conditions says that it has appended the waiting one, as it then has. -/
theorem lookups_agree :
    (∀ status : ClusterInstanceStatus, status.Taking) ∧
    (∀ (deployment : ClusterDeployment) (found : ClusterInstanceStatus) (now : Timestamp),
      let taken := (Projection.linked deployment found).takeConditions.1
      let ensured := Provisioned.ensure taken now
      ensured.2.toList = taken.toList ++ (if ensured.1 then [Provisioned.waiting now] else []) ∧
        (project deployment found now).conditions = (Provisioned.update deployment ensured.2 now).2.toList) ∧
    ∀ (client : Client) (now : Timestamp) (trigger : ClusterDeployment) (event : Event),
      event ∈ ((ofTrigger trigger).trace client now).events ∧
          event.message = "Initializing Provisioned condition" ↔
        ∃ ns deployment site, trigger.metadata.namespaceName = some ns ∧
          FindsSite client trigger deployment site ∧
          (Provisioned.ensure (Projection.linked deployment site.currentStatus).takeConditions.1
            now.truncate).1 = true ∧
          event = .summaryStarted site.name deployment.name ns :=
  ⟨ClusterInstanceStatus.taking, fun _ _ _ => ⟨Provisioned.toList_ensure_eq _ _, rfl⟩,
    fun _ _ _ _ => start_mem_ofTrigger_iff⟩

end Pass

end InstallStatus
