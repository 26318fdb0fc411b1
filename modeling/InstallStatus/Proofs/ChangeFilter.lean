import Mathlib
import InstallStatus.Proofs.ForeignWrites

/-!
Which updates of instances a watcher lets through. Whatever else it has noticed in between, it drops an
update if and only if the instance is as it was seen last, but for the times of observation, or if the hash
cannot tell the two. Every instance has a fingerprint, so each update is compared with the one before it.
-/

namespace InstallStatus.Controller.Watch

/-- A watch, with the updates of instances that it has noticed so far. Deployments are applied as well,
objects of either kind are deleted, and they are listed anew. -/
inductive Reach (hash : List UInt8 → UInt64) (scope : Option String) :
    List (ObjectKey × ClusterInstance) → Watch → Prop
  | start : Reach hash scope [] (.start hash scope)
  | site {seen : List (ObjectKey × ClusterInstance)} {watch : Watch} (reach : Reach hash scope seen watch)
    (key : ObjectKey) (site : ClusterInstance) :
    Reach hash scope (seen ++ [(key, site)]) (watch.applied key (.site site)).watch
  | deployment {seen : List (ObjectKey × ClusterInstance)} {watch : Watch}
    (reach : Reach hash scope seen watch) (key : ObjectKey) (deployment : ClusterDeployment) :
    Reach hash scope seen (watch.applied key (.deployment deployment)).watch
  | deleted {seen : List (ObjectKey × ClusterInstance)} {watch : Watch}
    (reach : Reach hash scope seen watch) (key : ObjectKey) (sighting : Sighting) :
    Reach hash scope seen (watch.deleted key sighting)
  | forgotten {seen : List (ObjectKey × ClusterInstance)} {watch : Watch}
    (reach : Reach hash scope seen watch) (resource : Api.Resource) :
    Reach hash scope seen (watch.forget resource)

/-- The instance as it was in the last update of its place. -/
def lastSeen? (key : ObjectKey) (seen : List (ObjectKey × ClusterInstance)) : Option ClusterInstance :=
  (seen.filter fun update => update.1 == key).getLast?.map Prod.snd

theorem lastSeen?_concat (key place : ObjectKey) (site : ClusterInstance)
    (seen : List (ObjectKey × ClusterInstance)) :
    lastSeen? key (seen ++ [(place, site)]) = if key = place then some site else lastSeen? key seen := by
  unfold lastSeen?
  rw [List.filter_append]
  by_cases here : key = place
  · have kept : [(place, site)].filter (fun update => update.1 == key) = [(place, site)] := by simp [here]
    rw [if_pos here, kept, List.getLast?_concat, Option.map_some]
  · have passed : [(place, site)].filter (fun update => update.1 == key) = [] := by simp [Ne.symm here]
    rw [if_neg here, passed, List.append_nil]

variable {hash : List UInt8 → UInt64} {scope : Option String} {seen : List (ObjectKey × ClusterInstance)}
  {watch : Watch}

/-- A watch keeps its hash and remembers the fingerprint of each instance as it was seen last, and nothing
makes it forget. -/
theorem Reach.remembers (reach : Reach hash scope seen watch) :
    watch.hash = hash ∧
      ∀ key, watch.fingerprint? key = (lastSeen? key seen).bind (ClusterInstance.fingerprint? hash) := by
  induction reach with
  | start => exact ⟨rfl, fun _ => rfl⟩
  | @site seen watch _ place site ih =>
    obtain ⟨sameHash, remembered⟩ := ih
    refine ⟨(hash_instanceApplied ..).trans sameHash, fun key => ?_⟩
    rw [applied, fingerprint?_instanceApplied, lastSeen?_concat, remembered, sameHash]
    by_cases here : key = place
    · rw [if_pos here, if_pos here, Option.bind_some]
    · rw [if_neg here, if_neg here]
  | deployment _ place deployment ih => exact ih
  | deleted _ place sighting ih =>
    cases sighting with
    | deployment d => exact ih
    | site s => exact ih
  | forgotten _ resource ih =>
    cases resource with
    | deployments => exact ih
    | instances => exact ih

/-- An update is dropped if the fingerprint is the one that is remembered. Otherwise at least that changes. -/
theorem instanceApplied_eq_iff (key : ObjectKey) (site : ClusterInstance) :
    watch.instanceApplied key site = ⟨watch, none⟩ ↔ watch.fingerprint? key = site.fingerprint? watch.hash := by
  constructor
  · intro dropped
    have remembered := watch.fingerprint?_instanceApplied key key site
    rwa [dropped, if_pos rfl] at remembered
  · exact instanceApplied_of_seen

theorem Reach.remembers_iff (reach : Reach hash scope seen watch) (key : ObjectKey) (site : ClusterInstance) :
    watch.fingerprint? key = site.fingerprint? watch.hash ↔
      ∃ last, lastSeen? key seen = some last ∧ (site.Agree last ∨ site.Collides hash last) := by
  obtain ⟨sameHash, remembered⟩ := reach.remembers
  obtain ⟨print, taken⟩ := site.exists_fingerprint hash
  rw [remembered, sameHash, taken, Option.bind_eq_some_iff]
  refine exists_congr fun last => and_congr_right fun _ => ?_
  rw [← taken, eq_comm, ClusterInstance.fingerprint?_eq_iff]

/-- The same octets are hashed of two instances if and only if they have the same generation and, once the
times of observation are taken out, the same status or both none. So a watch drops an update exactly when it
has seen the instance before and the last update of it agrees with this one in that, or collides with it; any
other update goes on to the deployment that the instance refers to. Either way there is a fingerprint, and it
is remembered. -/
theorem update_dropped_iff (reach : Reach hash scope seen watch) :
    (∀ a b : ClusterInstance, a.octets? = b.octets? ↔
      a.metadata.generation = b.metadata.generation ∧
        a.status.map ClusterInstanceStatus.unprobed = b.status.map ClusterInstanceStatus.unprobed) ∧
    ∀ (key : ObjectKey) (site : ClusterInstance),
      (watch.applied key (.site site) = ⟨watch, none⟩ ↔
        ∃ last, lastSeen? key seen = some last ∧ (site.Agree last ∨ site.Collides hash last)) ∧
      ((¬ ∃ last, lastSeen? key seen = some last ∧ (site.Agree last ∨ site.Collides hash last)) →
        (watch.applied key (.site site)).wake = site.deploymentKey?) ∧
      ∃ print, site.fingerprint? hash = some print ∧
        (watch.applied key (.site site)).watch.fingerprint? key = some print := by
  refine ⟨fun a b => ?_, fun key site => ⟨?_, fun differs => ?_, ?_⟩⟩
  · rw [ClusterInstance.octets?_eq_iff]
    exact ⟨fun agree => ⟨agree.generation, agree.status⟩, fun ⟨generation, status⟩ => ⟨generation, status⟩⟩
  · rw [applied, instanceApplied_eq_iff, reach.remembers_iff]
  · rw [applied, wake_instanceApplied, if_neg fun known => differs ((reach.remembers_iff key site).mp known)]
  · obtain ⟨print, taken⟩ := site.exists_fingerprint hash
    refine ⟨print, taken, ?_⟩
    rw [applied, fingerprint?_instanceApplied, if_pos rfl, reach.remembers.1, taken]

open ClusterInstance (sampleFollower) in
/-- An instance is seen, and then the instances are listed anew. To observe the installation again is no
change of it; a new generation is one. -/
theorem update_dropped_iff_sample :
    let place : ObjectKey := ⟨"lab", "site"⟩
    let watch :=
      ((start sampleFollower.telling none).applied place (.site sampleFollower)).watch.forget .instances
    let observed :=
      { sampleFollower with status := some (sampleFollower.currentStatus.reprobed Api.sampleTime.truncate) }
    let edited := { sampleFollower with metadata := { sampleFollower.metadata with generation := some 2 } }
    Reach sampleFollower.telling none [(place, sampleFollower)] watch ∧
      watch.applied place (.site observed) = ⟨watch, none⟩ ∧
      (watch.applied place (.site edited)).wake = some ⟨"lab", "east"⟩ := by
  intro place watch observed edited
  have reach : Reach sampleFollower.telling none [(place, sampleFollower)] watch :=
    (Reach.start.site place sampleFollower).forgotten .instances
  have last : lastSeen? place [(place, sampleFollower)] = some sampleFollower := lastSeen?_concat place place _ []
  obtain ⟨_, verdicts⟩ := update_dropped_iff reach
  obtain ⟨dropped, _, _⟩ := verdicts place observed
  obtain ⟨_, passed, _⟩ := verdicts place edited
  refine ⟨reach, dropped.mpr ⟨sampleFollower, last, .inl ⟨rfl, ?_⟩⟩, (passed ?_).trans rfl⟩
  · exact congrArg some (unprobed_reprobed ..)
  · rintro ⟨other, same, alike⟩
    obtain rfl := Option.some.inj (last.symm.trans same)
    rcases alike with agree | collides
    · exact absurd agree.generation (by decide)
    · exact edited.not_collides_telling _ collides

end InstallStatus.Controller.Watch
