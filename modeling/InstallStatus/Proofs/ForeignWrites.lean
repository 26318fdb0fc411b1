import Mathlib
import InstallStatus.Controller.Lifecycle
import InstallStatus.Proofs.FingerprintLaws
import InstallStatus.Proofs.Quiescence

/-!
What the controller makes of an instance that somebody else has written to. It takes notice unless the
times of observation are all that differs, or the hash happens to be the same, and it then passes over the
deployment that the instance refers to. So the deployment that the status was computed from is passed over
again if and only if the reference was left as it was; without it nothing leads back.
-/

namespace InstallStatus

/-- The key by which passes over the deployment are asked for. -/
def ClusterDeployment.objectKey? (deployment : ClusterDeployment) : Option ObjectKey :=
  deployment.metadata.namespaceName.map fun namespaceName => ⟨namespaceName, deployment.name⟩

/-- An empty name refers to nothing, as if there were no reference. -/
theorem ClusterInstanceStatus.deploymentName?_eq_some {status : ClusterInstanceStatus} {name : String} :
    status.deploymentName? = some name ↔ status.clusterDeploymentRef = some ⟨name⟩ ∧ name ≠ "" := by
  unfold deploymentName?
  cases status.clusterDeploymentRef with
  | none => simp
  | some reference =>
    obtain ⟨other⟩ := reference
    simp only [Option.map_some, Option.filter_eq_some_iff, Option.some.injEq, LocalReference.mk.injEq,
      decide_eq_true_eq]

namespace ClusterInstance

/-- The reference to a deployment that the status holds. -/
def reference? (site : ClusterInstance) : Option LocalReference :=
  site.currentStatus.clusterDeploymentRef

/-- An instance as a pass over a deployment leaves it, beside the deployment and with a reference to it. -/
structure Follows (site : ClusterInstance) (deployment : ClusterDeployment) : Prop where
  named : deployment.name ≠ ""
  together : site.metadata.namespaceName = deployment.metadata.namespaceName
  projected : ∃ found time, site.status = some (project deployment found time)
  refers : site.reference? = some ⟨deployment.name⟩

/-- A deployment whose installation is over. -/
def sampleSource : ClusterDeployment :=
  ⟨⟨some "east", some "lab", none, none, none, none, none, none, none, none, none, none, none, none, none⟩,
    ⟨none, true⟩, none⟩

/-- Its instance, as the first pass leaves it. -/
def sampleFollower : ClusterInstance :=
  ⟨⟨some "site", some "lab", none, some 1, none, none, none, none, none, none, none, none, none, none, none⟩,
    ⟨"", none, none⟩, some (project sampleSource .empty Api.sampleTime)⟩

theorem follows_sample : sampleFollower.Follows sampleSource where
  named := by decide
  together := rfl
  projected := ⟨_, _, rfl⟩
  refers := by decide +kernel

theorem deploymentKey?_eq_some {site : ClusterInstance} {target : ObjectKey}
    (placed : site.metadata.namespaceName = some target.namespaceName) :
    site.deploymentKey? = some target ↔ site.currentStatus.deploymentName? = some target.name := by
  rw [Quiescence.deploymentKey?_eq, placed]
  cases site.currentStatus.deploymentName? with
  | none => exact iff_of_false nofun nofun
  | some name =>
    obtain ⟨namespaceName, targetName⟩ := target
    simp only [Option.map_some, Option.bind_some, Option.some.injEq, ObjectKey.mk.injEq, true_and]

/-- An edit leads back to the deployment if and only if it leaves the reference, whatever else it does. -/
theorem Follows.deploymentKey?_iff {deployment : ClusterDeployment} {target : ObjectKey}
    {site edited : ClusterInstance} (follows : site.Follows deployment)
    (placed : deployment.objectKey? = some target)
    (sameNamespace : edited.metadata.namespaceName = site.metadata.namespaceName) :
    edited.deploymentKey? = some target ↔ edited.reference? = site.reference? := by
  obtain ⟨namespaceName, within, same⟩ := Option.map_eq_some_iff.mp placed
  subst same
  rw [deploymentKey?_eq_some (sameNamespace.trans (follows.together.trans within)),
    ClusterInstanceStatus.deploymentName?_eq_some, follows.refers, reference?]
  exact and_iff_left follows.named

end ClusterInstance

namespace Controller

open ClusterInstance (follows_sample sampleFollower sampleSource)

/-- Whether a pass over a deployment is due by now. -/
def IsDue (c : Controller) (key : ObjectKey) : Prop :=
  ∃ due, c.schedule.get? key = some due ∧ due.time ≤ c.time

namespace Schedule

theorem get?_append_self {schedule : Schedule} {new : Due} (absent : schedule.get? new.key = none) :
    Schedule.get? (schedule ++ [new]) new.key = some new := by
  unfold get? at absent ⊢
  rw [List.find?_append, absent]
  simp

theorem get?_append_of_ne (schedule : Schedule) {new : Due} {key : ObjectKey} (apart : new.key ≠ key) :
    Schedule.get? (schedule ++ [new]) key = schedule.get? key := by
  unfold get?
  rw [List.find?_append, List.find?_cons_of_neg (by simpa using apart), List.find?_nil, Option.or_none]

theorem get?_remove (schedule : Schedule) (removed key : ObjectKey) :
    (schedule.remove removed).get? key = if key = removed then none else schedule.get? key := by
  unfold get? remove
  rw [List.find?_filter]
  split
  · rename_i same
    subst same
    exact List.find?_eq_none.mpr fun due _ => by simp
  · rename_i apart
    refine congrArg (List.find? · schedule) (funext fun due => ?_)
    by_cases here : due.key = key
    · simp [here, apart]
    · simp [here]

/-- A pass that is asked for is due by then, or sooner if it was asked for before. -/
theorem get?_request (schedule : Schedule) (new : Due) :
    ∃ due, (schedule.request new).get? new.key = some due ∧ due.time ≤ new.time := by
  unfold request
  split
  · rename_i old known
    split
    · rename_i early
      exact ⟨old, known, early⟩
    · exact ⟨new, get?_append_self (by rw [get?_remove, if_pos rfl]), le_rfl⟩
  · rename_i unknown
    exact ⟨new, get?_append_self unknown, le_rfl⟩

theorem get?_request_of_ne (schedule : Schedule) {new : Due} {key : ObjectKey} (apart : new.key ≠ key) :
    (schedule.request new).get? key = schedule.get? key := by
  unfold request
  split
  · split
    · rfl
    · rw [get?_append_of_ne _ apart, get?_remove, if_neg (Ne.symm apart)]
  · exact get?_append_of_ne _ apart

end Schedule

/-- A pass that is woken is due at once, unless the controller is told to stop. -/
theorem isDue_wake {c : Controller} (running : c.stopping = false) (key : ObjectKey) :
    (c.wake key 0).IsDue key := by
  rw [wake, running]
  exact c.schedule.get?_request ⟨key, c.time, c.ticket⟩

theorem get?_schedule_wake {c : Controller} {woken key : ObjectKey} (apart : woken ≠ key) (delay : Nat) :
    (c.wake woken delay).schedule.get? key = c.schedule.get? key := by
  unfold wake
  split
  · rfl
  · exact Schedule.get?_request_of_ne _ apart

section See

variable {c : Controller} {key : ObjectKey} {site : ClusterInstance}

/-- What is made of an instance is decided by the watch. The controller adds the pass that it calls for,
if any. -/
theorem see_site (named : site.metadata.name ≠ none) :
    c.see key (.site site) =
      let reaction := c.watch.instanceApplied key site
      match reaction.wake with
      | some target => (.item, { c with watch := reaction.watch }.wake target 0)
      | none => (.further, { c with watch := reaction.watch }) := by
  have named' : (Sighting.site site).isNameless = false :=
    Option.isNone_eq_false_iff.mpr (Option.isSome_iff_ne_none.mpr named)
  rw [see, named']
  rfl

theorem see_seen (named : site.metadata.name ≠ none)
    (seen : c.watch.fingerprint? key = site.fingerprint? c.watch.hash) :
    c.see key (.site site) = (.further, c) := by
  rw [see_site named, Watch.instanceApplied_of_seen seen]

/-- An instance that is not as last seen wakes the deployment it refers to, and no other. -/
theorem see_unseen (named : site.metadata.name ≠ none)
    (unseen : c.watch.fingerprint? key ≠ site.fingerprint? c.watch.hash) :
    ∃ watch, (c.see key (.site site)).2 =
      match site.deploymentKey? with
      | some target => { c with watch }.wake target 0
      | none => { c with watch } := by
  refine ⟨(c.watch.instanceApplied key site).watch, ?_⟩
  simp only [see_site named, Watch.wake_instanceApplied, if_neg unseen]
  cases site.deploymentKey? with
  | none => rfl
  | some target => rfl

/-- News of an instance makes the deployment that it refers to due at once. -/
theorem isDue_see {target : ObjectKey} (running : c.stopping = false) (named : site.metadata.name ≠ none)
    (unseen : c.watch.fingerprint? key ≠ site.fingerprint? c.watch.hash)
    (leads : site.deploymentKey? = some target) : (c.see key (.site site)).2.IsDue target := by
  obtain ⟨watch, after⟩ := see_unseen named unseen
  rw [after, leads]
  exact isDue_wake (c := { c with watch }) running target

theorem get?_schedule_see {target : ObjectKey} (named : site.metadata.name ≠ none)
    (astray : site.deploymentKey? ≠ some target) :
    (c.see key (.site site)).2.schedule.get? target = c.schedule.get? target := by
  by_cases seen : c.watch.fingerprint? key = site.fingerprint? c.watch.hash
  · rw [see_seen named seen]
  · obtain ⟨watch, after⟩ := see_unseen named seen
    rw [after]
    cases leads : site.deploymentKey? with
    | none => rfl
    | some other => exact get?_schedule_wake (fun same => astray (leads.trans (congrArg some same))) 0

end See

/-- A write from elsewhere to an instance that follows a deployment goes unnoticed if the times of
observation are all that it changes. Any other is noticed, unless the hash gives it the fingerprint that was
seen, and the deployment is due at once exactly when the write has left the reference to it. -/
theorem see_foreign_write {deployment : ClusterDeployment} {target : ObjectKey}
    {site edited : ClusterInstance} (placed : deployment.objectKey? = some target)
    (follows : site.Follows deployment) (sameName : edited.metadata.name = site.metadata.name)
    (sameNamespace : edited.metadata.namespaceName = site.metadata.namespaceName) :
    (edited.octets? = site.octets? ↔ edited.Agree site) ∧
      (∀ hash, edited.fingerprint? hash = site.fingerprint? hash ↔
        edited.Agree site ∨ edited.Collides hash site) ∧
      (edited.deploymentKey? = some target ↔ edited.reference? = site.reference?) ∧
      ∀ (c : Controller) (key : ObjectKey), c.stopping = false → site.metadata.name ≠ none →
        c.watch.fingerprint? key = site.fingerprint? c.watch.hash →
        (edited.Agree site → (c.see key (.site edited)).2 = c) ∧
          (edited.reference? = site.reference? → ¬edited.Agree site → ¬edited.Collides c.watch.hash site →
            (c.see key (.site edited)).2.IsDue target) ∧
          (edited.reference? ≠ site.reference? →
            (c.see key (.site edited)).2.schedule.get? target = c.schedule.get? target) := by
  have leads := follows.deploymentKey?_iff placed sameNamespace
  refine ⟨ClusterInstance.octets?_eq_iff, fun hash => ClusterInstance.fingerprint?_eq_iff, leads,
    fun c key running named seen => ⟨fun agree => ?_, fun kept differs apart => ?_, fun lost => ?_⟩⟩
  · rw [see_seen (sameName ▸ named) (seen.trans (agree.fingerprint?_eq c.watch.hash).symm)]
  · have unseen : c.watch.fingerprint? key ≠ edited.fingerprint? c.watch.hash := by
      intro same
      rcases ClusterInstance.fingerprint?_eq_iff.mp (same.symm.trans seen) with agree | collides
      · exact differs agree
      · exact apart collides
    exact isDue_see running (sameName ▸ named) unseen (leads.mpr kept)
  · exact get?_schedule_see (sameName ▸ named) fun same => lost (leads.mp same)

/-- The summary is taken away and the reference is left. -/
theorem see_foreign_write_sample :
    let edited := { sampleFollower with status := some { sampleFollower.currentStatus with conditions := [] } }
    let seen := (Watch.start sampleFollower.telling none).instanceApplied ⟨"lab", "site"⟩ sampleFollower
    let c := { start .standard .empty Api.sampleTime with stopping := false, watch := seen.watch }
    sampleSource.objectKey? = some ⟨"lab", "east"⟩ ∧ sampleFollower.Follows sampleSource ∧
      ¬edited.Agree sampleFollower ∧ ¬edited.Collides c.watch.hash sampleFollower ∧
      (c.see ⟨"lab", "site"⟩ (.site edited)).2.IsDue ⟨"lab", "east"⟩ := by
  intro edited seen c
  have differs : ¬edited.Agree sampleFollower := by
    intro agree
    have conditions : (project sampleSource .empty Api.sampleTime).conditions = [] :=
      (congrArg ClusterInstanceStatus.conditions (Option.some.inj agree.status)).symm
    exact absurd conditions (by decide +kernel)
  have apart : ¬edited.Collides c.watch.hash sampleFollower := by
    rw [Watch.hash_instanceApplied]
    exact edited.not_collides_telling sampleFollower
  have remembered : c.watch.fingerprint? ⟨"lab", "site"⟩ = sampleFollower.fingerprint? c.watch.hash := by
    rw [Watch.hash_instanceApplied, Watch.fingerprint?_instanceApplied, if_pos rfl]
  obtain ⟨_, _, _, reaction⟩ := @see_foreign_write _ ⟨"lab", "east"⟩ _ edited rfl follows_sample rfl rfl
  obtain ⟨_, due, _⟩ := reaction c _ rfl (by decide) remembered
  exact ⟨rfl, follows_sample, differs, apart, due rfl differs apart⟩

/-- A status that is wiped whole holds no reference. The write is noticed and leads nowhere. -/
theorem wiped_status_leads_nowhere :
    ¬∀ (deployment : ClusterDeployment) (target : ObjectKey) (site edited : ClusterInstance),
      deployment.objectKey? = some target → site.Follows deployment →
      edited.metadata.name = site.metadata.name →
      edited.metadata.namespaceName = site.metadata.namespaceName → ¬edited.Agree site →
      edited.octets? ≠ site.octets? ∧ edited.deploymentKey? = some target := by
  intro restored
  have differs : ¬ClusterInstance.Agree { sampleFollower with status := none } sampleFollower :=
    fun agree => nomatch agree.status
  have leads := (restored sampleSource ⟨"lab", "east"⟩ sampleFollower
    { sampleFollower with status := none } rfl follows_sample rfl rfl differs).2
  exact nomatch leads

end Controller

end InstallStatus
