import Mathlib
import InstallStatus.Controller.Watch
import InstallStatus.Proofs.Attempts
import InstallStatus.Proofs.FingerprintLaws
import InstallStatus.Proofs.Orbits
import InstallStatus.SipHash

/-!
What a controller brings on itself. A pass over a deployment may change an instance, the change is seen
by the watcher, and that may call for a pass over the deployment which the instance refers to. Main
statement: left to itself this comes to an end, whichever passes go first, however many deployments
an instance owns and by whatever hash its fingerprint is taken.

Once the status of an instance has a reference and its fingerprint was seen, each pass over one of its
deployments calls for at most one more, over the deployment referred to. So passes move along a map of
keys, and all of them end up on its cycles. There each instance is met by one deployment only, and the
second pass over that finds nothing that counts.
-/

namespace InstallStatus

open Api (Change Kept ObjectId Store)
open Controller (Reaction Sighting Watch)
open Function (periodicPts)

namespace Controller.Watch

theorem lookup_without {α : Type} {key other : ObjectKey} (entries : List (ObjectKey × α))
    (apart : other ≠ key) : (without key entries).lookup other = entries.lookup other := by
  induction entries with
  | nil => rfl
  | cons entry rest ih =>
    obtain ⟨place, value⟩ := entry
    by_cases here : place = key
    · subst here
      rw [without, List.filter_cons_of_neg (by simp), ← without, ih]
      simp only [List.lookup, beq_false_of_ne apart]
    · rw [without, List.filter_cons_of_pos (by simpa using here), ← without]
      by_cases same : other = place
      · subst same
        simp only [List.lookup, beq_self_eq_true]
      · simp only [List.lookup, beq_false_of_ne same, ih]

theorem hash_instanceApplied (watch : Watch) (key : ObjectKey) (site : ClusterInstance) :
    (watch.instanceApplied key site).watch.hash = watch.hash := by
  unfold instanceApplied
  split
  · split <;> rfl
  · rfl

/-- The fingerprint of an update is remembered in any case, and no other is touched. -/
theorem fingerprint?_instanceApplied (watch : Watch) (key other : ObjectKey) (site : ClusterInstance) :
    (watch.instanceApplied key site).watch.fingerprint? other =
      if other = key then site.fingerprint? watch.hash else watch.fingerprint? other := by
  obtain ⟨print, taken⟩ := site.exists_fingerprint watch.hash
  simp only [instanceApplied, taken]
  split
  · rename_i seen
    split
    · rename_i here
      rw [here, seen]
    · rfl
  · unfold fingerprint?
    split
    · rename_i here
      simp only [here, List.lookup, beq_self_eq_true]
    · rename_i apart
      simp only [List.lookup, beq_false_of_ne apart]
      exact lookup_without _ apart

/-- An update is dropped whole if its fingerprint was seen, and the watch is as it was. -/
theorem instanceApplied_of_seen {watch : Watch} {key : ObjectKey} {site : ClusterInstance}
    (seen : watch.fingerprint? key = site.fingerprint? watch.hash) :
    watch.instanceApplied key site = ⟨watch, none⟩ := by
  obtain ⟨print, taken⟩ := site.exists_fingerprint watch.hash
  simp only [instanceApplied, taken, seen, if_true]

theorem wake_instanceApplied (watch : Watch) (key : ObjectKey) (site : ClusterInstance) :
    (watch.instanceApplied key site).wake =
      if watch.fingerprint? key = site.fingerprint? watch.hash then none else site.deploymentKey? := by
  obtain ⟨print, taken⟩ := site.exists_fingerprint watch.hash
  simp only [instanceApplied, taken]
  split
  · rfl
  · rfl

/-- What a watcher makes of a change, if there was one. An object that cannot be read is passed over. -/
def noticed (watch : Watch) : Option Change → Reaction
  | none => ⟨watch, none⟩
  | some change =>
    match Sighting.read? change.id.resource change.object with
    | some sighting => watch.applied change.id.key sighting
    | none => ⟨watch, none⟩

theorem noticed_applied (watch : Watch) {id : ObjectId} {result : Json} {changed : ClusterInstance}
    (kind : id.resource = .instances) (decoded : ClusterInstance.decode result = .ok changed) :
    watch.noticed (some (.applied id result)) = watch.instanceApplied id.key changed := by
  have read : Sighting.read? id.resource result = some (.site changed) := by
    rw [kind, Sighting.read?, decoded]
    rfl
  simp only [noticed, Change.id, Change.object, read, applied]

end Controller.Watch

/-- Objects of one kind that have the same key are the same. -/
theorem Api.ObjectId.eq_of_key_eq {first second : ObjectId} (kind : first.resource = second.resource)
    (same : first.key = second.key) : first = second := by
  obtain ⟨resource, namespaceName, name⟩ := first
  obtain ⟨otherResource, otherNamespaceName, otherName⟩ := second
  cases kind
  cases same
  rfl

namespace Quiescence

/-- A server, what was seen of it, and the deployments that are to be passed over. -/
structure System where
  store : Store
  watch : Watch
  pending : Multiset ObjectKey

/-- The deployments to be passed over, with one more if there is one. -/
def added (rest : Multiset ObjectKey) : Option ObjectKey → Multiset ObjectKey
  | none => rest
  | some key => key ::ₘ rest

/-- A pass over one of the deployments, whichever it is and whenever that is. It ends well, and the
watcher takes notice of what it has changed. -/
inductive Step : System → System → Prop
  | pass {store after : Store} {watch : Watch} {key : ObjectKey} {rest : Multiset ObjectKey}
    {trigger : ClusterDeployment} {time : Timestamp} {action : Action} {change? : Option Change}
    (named : trigger.name = key.name) (placed : trigger.metadata.namespaceName = some key.namespaceName)
    (runs : Pass.Runs time store (Pass.ofTrigger trigger) after (.done (.ok action)) change?) :
    Step ⟨store, watch, key ::ₘ rest⟩
      ⟨after, (watch.noticed change?).watch, added rest (watch.noticed change?).wake⟩

/-- The deployment of a key. -/
def deployment? (store : Store) (key : ObjectKey) : Option ClusterDeployment :=
  (store.get? ⟨.deployments, key.namespaceName, key.name⟩).bind fun document =>
    (ClusterDeployment.decode document).toOption

/-- The instance at a place. -/
def site? (store : Store) (id : ObjectId) : Option ClusterInstance :=
  (store.get? id).bind fun document => (ClusterInstance.decode document).toOption

/-- The place of the instance that owns a deployment. -/
def place? (deployment : ClusterDeployment) : Option ObjectId := do
  let owner ← deployment.owner?
  let namespaceName ← deployment.metadata.namespaceName
  return ⟨.instances, namespaceName, owner⟩

/-- The place of the instance that owns the deployment of a key. -/
def owner? (store : Store) (key : ObjectKey) : Option ObjectId := (deployment? store key).bind place?

/-- An instance that refers to a deployment and was last seen as it is. -/
def Settled (s : System) (id : ObjectId) : Prop :=
  ∃ site, site? s.store id = some site ∧ site.currentStatus.deploymentName? ≠ none ∧
    s.watch.fingerprint? id.key = site.fingerprint? s.watch.hash

open scoped Classical in
/-- The deployment to be passed over after a pass over that of a key, at most. -/
noncomputable def next (s : System) : Option ObjectKey → Option ObjectKey
  | none => none
  | some key =>
    (owner? s.store key).bind fun id =>
      if Settled s id then (site? s.store id).bind ClusterInstance.deploymentKey? else none

/-- A status in which no pass over the deployment changes anything but the times of observation. -/
def Calm (deployment : ClusterDeployment) (status : ClusterInstanceStatus) : Prop :=
  ∀ time, (project deployment status time).unprobed = status.unprobed

/-- An instance that a pass over a deployment on a cycle would change. -/
def Restless (s : System) (id : ObjectId) : Prop :=
  ∃ key deployment site, some key ∈ periodicPts (next s) ∧ deployment? s.store key = some deployment ∧
    place? deployment = some id ∧ site? s.store id = some site ∧ ¬ Calm deployment site.currentStatus

section Measure

variable (places : Finset ObjectId) (s : System)

open scoped Classical in
/-- How many instances are not settled. -/
noncomputable def unsettled : Nat := (places.filter fun id => ¬ Settled s id).card

open scoped Classical in
noncomputable def restless : Nat := (places.filter fun id => Restless s id).card

/-- How far the pending passes are from the cycles. Being on one counts as well. -/
noncomputable def distance : Nat :=
  (s.pending.map fun key => 2 * Orbit.depth (next s) (some key) + 1).sum

/-- What every pass makes less. -/
noncomputable def measure : Nat ×ₗ Nat := toLex (unsettled places s, distance s + restless places s)

end Measure

/-- A reference that is there is never replaced by a projection. -/
theorem deploymentName?_project_of_some {deployment : ClusterDeployment} {status : ClusterInstanceStatus}
    {name : String} (known : status.deploymentName? = some name) (time : Timestamp) :
    (project deployment status time).deploymentName? = some name := by
  unfold ClusterInstanceStatus.deploymentName? at known ⊢
  rw [project_clusterDeploymentRef, Projection.reference]
  simp only [known]

theorem deploymentName?_project_ne_none {deployment : ClusterDeployment} (named : deployment.name ≠ "")
    (status : ClusterInstanceStatus) (time : Timestamp) :
    (project deployment status time).deploymentName? ≠ none := by
  cases known : status.deploymentName? with
  | some name =>
    rw [deploymentName?_project_of_some known]
    exact nofun
  | none =>
    unfold ClusterInstanceStatus.deploymentName? at known ⊢
    rw [project_clusterDeploymentRef, Projection.reference]
    simp only [known, Option.map_some, Option.filter_some, named, decide_true, ne_eq, not_false_eq_true,
      if_true, reduceCtorEq]

/-- After a projection another one over the same deployment finds nothing to change. -/
theorem calm_project (deployment : ClusterDeployment) (status : ClusterInstanceStatus) (time : Timestamp) :
    Calm deployment (project deployment status time) := by
  intro now
  rw [project_project, unprobed_reprobed]

/-- A store that the server answers for, with all its instances at these places, in which every
deployment has a name. -/
structure Steady (places : Finset ObjectId) (store : Store) : Prop where
  held : store.Held
  named : ∀ key deployment, deployment? store key = some deployment → deployment.name ≠ ""
  within : ∀ id, id.resource = .instances → store.get? id ≠ none → id ∈ places
  kinds : ∀ id ∈ places, id.resource = .instances

/-- A pass over a deployment that has changed its owner, and what was noticed of that. -/
structure Written (s t : System) (key : ObjectKey) (rest : Multiset ObjectKey)
    (source : ClusterDeployment) (id : ObjectId) (site changed : ClusterInstance) (time : Timestamp) :
    Prop where
  pending : s.pending = key ::ₘ rest
  deployment : deployment? s.store key = some source
  owner : place? source = some id
  found : site? s.store id = some site
  deployments : ∀ other, deployment? t.store other = deployment? s.store other
  here : site? t.store id = some changed
  elsewhere : ∀ other, other ≠ id → site? t.store other = site? s.store other
  status : changed.status = some (project source site.currentStatus time)
  generation : changed.metadata.generation = site.metadata.generation
  namespaceName : changed.metadata.namespaceName = site.metadata.namespaceName
  placed : site.metadata.namespaceName ≠ none
  hash : t.watch.hash = s.watch.hash
  seenHere : t.watch.fingerprint? id.key = changed.fingerprint? s.watch.hash
  seenElsewhere : ∀ other, other.resource = .instances → other ≠ id →
    t.watch.fingerprint? other.key = s.watch.fingerprint? other.key
  wakes : t.pending = added rest
    (if s.watch.fingerprint? id.key = changed.fingerprint? s.watch.hash then none
      else changed.deploymentKey?)

theorem place?_resource {deployment : ClusterDeployment} {id : ObjectId}
    (owner : place? deployment = some id) : id.resource = .instances := by
  simp only [place?, Option.bind_eq_bind, Option.bind_eq_some_iff, Option.pure_def] at owner
  obtain ⟨_, _, _, _, same⟩ := owner
  cases same
  rfl

section Lookups

variable {store : Store} {id : ObjectId}

theorem deployment?_eq {key : ObjectKey} {document : Json} {deployment : ClusterDeployment}
    (stored : store.get? ⟨.deployments, key.namespaceName, key.name⟩ = some document)
    (decoded : ClusterDeployment.decode document = .ok deployment) :
    deployment? store key = some deployment := by
  rw [deployment?, stored, Option.bind_some, decoded]
  rfl

theorem site?_eq {document : Json} {site : ClusterInstance} (stored : store.get? id = some document)
    (decoded : ClusterInstance.decode document = .ok site) : site? store id = some site := by
  rw [site?, stored, Option.bind_some, decoded]
  rfl

theorem site?_write_of_ne {other : ObjectId} (apart : other ≠ id) (result : Json) :
    site? (store.write id result) other = site? store other := by
  rw [site?, Store.get?_write, if_neg apart, site?]

theorem deployment?_write (kind : id.resource = .instances) (result : Json) (key : ObjectKey) :
    deployment? (store.write id result) key = deployment? store key := by
  unfold deployment?
  rw [Store.get?_write, if_neg]
  rintro rfl
  cases kind

end Lookups

/-- To write an instance that is there changes neither what instances there are nor the deployments. -/
theorem Steady.write {places : Finset ObjectId} {store : Store} (steady : Steady places store)
    {id : ObjectId} {result : Json} (kind : id.resource = .instances) (present : store.get? id ≠ none)
    (held : (store.write id result).Held) : Steady places (store.write id result) := by
  refine ⟨held, fun key deployment found => ?_, fun other otherKind found => ?_, steady.kinds⟩
  · rw [deployment?_write kind] at found
    exact steady.named key deployment found
  · rw [Store.get?_write] at found
    by_cases here : other = id
    · rw [here]
      exact steady.within id kind present
    · rw [if_neg here] at found
      exact steady.within other otherKind found

/-- All that a step can do: to take a pass off those pending, or besides to write one instance, which is
noticed. Whatever is proved of steps below is proved from these two cases. -/
theorem Step.cases {places : Finset ObjectId} {s t : System} (steady : Steady places s.store)
    (step : Step s t) :
    (t.store = s.store ∧ t.watch = s.watch ∧ ∃ key, s.pending = key ::ₘ t.pending) ∨
      ∃ key rest deployment id site changed time,
        Written s t key rest deployment id site changed time ∧ Steady places t.store := by
  obtain ⟨named, placed, runs⟩ := step
  rename_i store after watch key rest trigger time action change?
  have comes := runs.comesTo steady.held
  have held := comes.held steady.held
  cases comes with
  | nothing idle => exact .inl ⟨rfl, rfl, key, rfl⟩
  | written writes =>
    rename_i deployment id site version result
    obtain ⟨⟨object, ⟨⟨ns, document, leads, stored, decoded⟩, kind, storedSite, decodedSite⟩,
      rewritten⟩, rfl⟩ := writes
    have described := (steady.held id object kind storedSite).describes decodedSite
    have sameNs : ns = key.namespaceName := Option.some.inj (leads.placed.symm.trans placed)
    subst sameNs
    rw [named] at stored
    have present : store.get? id ≠ none := by
      rw [storedSite]
      exact nofun
    rw [Watch.noticed_applied watch kind rewritten.decoded]
    refine .inr ⟨key, rest, deployment, id, site,
      site.restated version (project deployment site.currentStatus time.truncate), time.truncate, ?_,
      steady.write kind present held⟩
    exact {
      pending := rfl
      deployment := deployment?_eq stored decoded
      owner := by
        rw [place?, leads.owned, leads.lies]
        simp only [Option.bind_eq_bind, Option.bind_some, Option.pure_def, ← kind]
      found := site?_eq storedSite decodedSite
      deployments := deployment?_write kind result
      here := site?_eq (by rw [Store.get?_write, if_pos rfl]) rewritten.decoded
      elsewhere := fun other apart => site?_write_of_ne apart result
      status := rfl
      generation := rfl
      namespaceName := rfl
      placed := by
        rw [described.namespaceName]
        exact nofun
      hash := Watch.hash_instanceApplied ..
      seenHere := by rw [Watch.fingerprint?_instanceApplied, if_pos rfl]
      seenElsewhere := by
        intro other otherKind apart
        rw [Watch.fingerprint?_instanceApplied, if_neg]
        exact fun same => apart (ObjectId.eq_of_key_eq (otherKind.trans kind.symm) same)
      wakes := by rw [Watch.wake_instanceApplied] }

/-- Where the way back leads, with the case of no status and that of an empty one taken together. -/
theorem deploymentKey?_eq (site : ClusterInstance) :
    site.deploymentKey? = site.currentStatus.deploymentName?.bind fun name =>
      site.metadata.namespaceName.map fun namespaceName => ⟨namespaceName, name⟩ := by
  unfold ClusterInstance.deploymentKey? ClusterInstance.currentStatus
  cases site.status with
  | none => rfl
  | some status =>
    simp only [Option.bind_eq_bind, Option.bind_some, Option.getD_some, Option.pure_def]
    cases status.deploymentName? with
    | none => rfl
    | some name =>
      cases site.metadata.namespaceName with
      | none => rfl
      | some namespaceName => rfl

theorem status_of_linked {site : ClusterInstance} (linked : site.currentStatus.deploymentName? ≠ none) :
    site.status = some site.currentStatus := by
  unfold ClusterInstance.currentStatus at linked ⊢
  cases found : site.status with
  | none =>
    rw [found] at linked
    exact absurd rfl linked
  | some status => rfl

namespace Written

variable {places : Finset ObjectId} {s t : System} {key : ObjectKey} {rest : Multiset ObjectKey}
  {source : ClusterDeployment} {id : ObjectId} {site changed : ClusterInstance} {time : Timestamp}

theorem resource (written : Written s t key rest source id site changed time) : id.resource = .instances :=
  place?_resource written.owner

theorem currentStatus (written : Written s t key rest source id site changed time) :
    changed.currentStatus = project source site.currentStatus time := by
  rw [ClusterInstance.currentStatus, written.status, Option.getD_some]

/-- An instance that was written refers to a deployment, and that it was is known. -/
theorem settled_here (written : Written s t key rest source id site changed time)
    (steady : Steady places s.store) : Settled t id := by
  refine ⟨changed, written.here, ?_, written.hash ▸ written.seenHere⟩
  rw [written.currentStatus]
  exact deploymentName?_project_ne_none (steady.named key source written.deployment) _ time

theorem settled_elsewhere (written : Written s t key rest source id site changed time) {other : ObjectId}
    (kind : other.resource = .instances) (apart : other ≠ id) : Settled t other ↔ Settled s other := by
  unfold Settled
  rw [written.elsewhere other apart, written.seenElsewhere other kind apart, written.hash]

theorem linked_of_settled (written : Written s t key rest source id site changed time)
    (settled : Settled s id) : site.currentStatus.deploymentName? ≠ none ∧
      s.watch.fingerprint? id.key = site.fingerprint? s.watch.hash := by
  obtain ⟨same, found, linked, seen⟩ := settled
  cases written.found.symm.trans found
  exact ⟨linked, seen⟩

/-- Once it refers to a deployment, an instance keeps doing so. -/
theorem deploymentKey? (written : Written s t key rest source id site changed time)
    (settled : Settled s id) : changed.deploymentKey? = site.deploymentKey? := by
  obtain ⟨linked, _⟩ := written.linked_of_settled settled
  cases known : site.currentStatus.deploymentName? with
  | none => exact absurd known linked
  | some name =>
    rw [deploymentKey?_eq, deploymentKey?_eq, written.currentStatus, written.namespaceName,
      deploymentName?_project_of_some known, known]

/-- A pass over a settled instance does not change where passes go on to. This is what makes the distance
a measure. -/
theorem next_eq (written : Written s t key rest source id site changed time)
    (steady : Steady places s.store) (settled : Settled s id) : next t = next s := by
  have settledHere := written.settled_here steady
  funext point
  cases point with
  | none => rfl
  | some other =>
    have owners : owner? t.store other = owner? s.store other := by
      rw [owner?, written.deployments, owner?]
    simp only [next, owners]
    cases found : owner? s.store other with
    | none => rfl
    | some place =>
      simp only [Option.bind_some]
      by_cases same : place = id
      · subst same
        rw [if_pos settledHere, if_pos settled, written.here, written.found, Option.bind_some,
          Option.bind_some, written.deploymentKey? settled]
      · obtain ⟨owned, _, owner⟩ := Option.bind_eq_some_iff.mp found
        have kind := place?_resource owner
        have alike := written.settled_elsewhere kind same
        rw [written.elsewhere place same]
        by_cases settledThere : Settled s place
        · rw [if_pos (alike.mpr settledThere), if_pos settledThere]
        · rw [if_neg (settledThere ∘ alike.mp), if_neg settledThere]

/-- From all deployments of a settled instance passes go on to the same one. -/
theorem next_of_owner (written : Written s t key rest source id site changed time)
    (settled : Settled s id) {other : ObjectKey} {deployment : ClusterDeployment}
    (found : deployment? s.store other = some deployment) (owner : place? deployment = some id) :
    next s (some other) = changed.deploymentKey? := by
  have place : owner? s.store other = some id := by
    rw [owner?, found, Option.bind_some, owner]
  simp only [next, place, Option.bind_some, if_pos settled, written.found]
  rw [written.deploymentKey? settled]

theorem exists_next (written : Written s t key rest source id site changed time)
    (settled : Settled s id) : ∃ other, changed.deploymentKey? = some other := by
  obtain ⟨linked, _⟩ := written.linked_of_settled settled
  rw [written.deploymentKey? settled, deploymentKey?_eq]
  cases known : site.currentStatus.deploymentName? with
  | none => exact absurd known linked
  | some name =>
    cases placed : site.metadata.namespaceName with
    | none => exact absurd placed written.placed
    | some namespaceName => exact ⟨_, rfl⟩

/-- A pass that finds an instance calm changes nothing that its fingerprint covers. -/
theorem fingerprint_of_calm (written : Written s t key rest source id site changed time)
    (settled : Settled s id) (calm : Calm source site.currentStatus) :
    changed.fingerprint? s.watch.hash = site.fingerprint? s.watch.hash := by
  obtain ⟨linked, _⟩ := written.linked_of_settled settled
  refine ClusterInstance.Agree.fingerprint?_eq ⟨written.generation, ?_⟩ s.watch.hash
  rw [written.status, status_of_linked linked, Option.map_some, Option.map_some, calm time]

theorem mem_places (written : Written s t key rest source id site changed time)
    (steady : Steady places s.store) : id ∈ places := by
  refine steady.within id written.resource fun absent => ?_
  have found := written.found
  rw [site?, absent] at found
  cases found

/-- An instance that is written for the first time becomes settled, and none ceases to be. -/
theorem unsettled_lt (written : Written s t key rest source id site changed time)
    (steady : Steady places s.store) (new : ¬ Settled s id) :
    unsettled places t < unsettled places s := by
  classical
  refine Finset.card_lt_card (Finset.ssubset_iff_of_subset ?_ |>.mpr ⟨id, ?_, ?_⟩)
  · intro place inside
    obtain ⟨inPlaces, unsettled⟩ := Finset.mem_filter.mp inside
    refine Finset.mem_filter.mpr ⟨inPlaces, fun settled => unsettled ?_⟩
    by_cases same : place = id
    · exact absurd (same ▸ settled) new
    · exact (written.settled_elsewhere (steady.kinds place inPlaces) same).mpr settled
  · exact Finset.mem_filter.mpr ⟨written.mem_places steady, new⟩
  · intro inside
    exact (Finset.mem_filter.mp inside).2 (written.settled_here steady)

theorem unsettled_eq (written : Written s t key rest source id site changed time)
    (steady : Steady places s.store) (settled : Settled s id) :
    unsettled places t = unsettled places s := by
  classical
  refine congrArg Finset.card (Finset.filter_congr fun place inPlaces => not_congr ?_)
  by_cases same : place = id
  · subst same
    exact ⟨fun _ => settled, fun _ => written.settled_here steady⟩
  · exact written.settled_elsewhere (steady.kinds place inPlaces) same

theorem restless_elsewhere (written : Written s t key rest source id site changed time)
    (steady : Steady places s.store) (settled : Settled s id) {other : ObjectId} (apart : other ≠ id) :
    Restless t other ↔ Restless s other := by
  unfold Restless
  rw [written.next_eq steady settled, written.elsewhere other apart]
  simp only [written.deployments]

/-- A pass over a deployment on a cycle leaves its owner calm: no other deployment on a cycle has that
owner, since both would go on to the same one. -/
theorem not_restless (written : Written s t key rest source id site changed time)
    (steady : Steady places s.store) (settled : Settled s id) (periodic : some key ∈ periodicPts (next s)) :
    ¬ Restless t id := by
  rintro ⟨other, deployment, again, otherPeriodic, found, owner, here, excited⟩
  rw [written.next_eq steady settled] at otherPeriodic
  rw [written.deployments] at found
  have same : some other = some key :=
    Orbit.eq_of_apply_eq otherPeriodic periodic ((written.next_of_owner settled found owner).trans
      (written.next_of_owner settled written.deployment written.owner).symm)
  cases same
  cases written.deployment.symm.trans found
  cases written.here.symm.trans here
  rw [written.currentStatus] at excited
  exact excited (calm_project source site.currentStatus time)

/-- Off the cycles a write can stir up one instance, which the distance makes up for. -/
theorem restless_le_succ (written : Written s t key rest source id site changed time)
    (steady : Steady places s.store) (settled : Settled s id) :
    restless places t ≤ restless places s + 1 := by
  classical
  refine (Finset.card_le_card (t := insert id (places.filter fun place => Restless s place)) ?_).trans
    (Finset.card_insert_le _ _)
  intro place inside
  obtain ⟨inPlaces, stirred⟩ := Finset.mem_filter.mp inside
  by_cases same : place = id
  · exact Finset.mem_insert.mpr (.inl same)
  · refine Finset.mem_insert_of_mem (Finset.mem_filter.mpr ⟨inPlaces, ?_⟩)
    exact (written.restless_elsewhere steady settled same).mp stirred

theorem restless_subset (written : Written s t key rest source id site changed time)
    (steady : Steady places s.store) (settled : Settled s id) (periodic : some key ∈ periodicPts (next s))
    {place : ObjectId} (stirred : Restless t place) : place ≠ id ∧ Restless s place := by
  have apart : place ≠ id := by
    rintro rfl
    exact written.not_restless steady settled periodic stirred
  exact ⟨apart, (written.restless_elsewhere steady settled apart).mp stirred⟩

theorem restless_le (written : Written s t key rest source id site changed time)
    (steady : Steady places s.store) (settled : Settled s id) (periodic : some key ∈ periodicPts (next s)) :
    restless places t ≤ restless places s := by
  classical
  refine Finset.card_le_card fun place inside => ?_
  obtain ⟨inPlaces, stirred⟩ := Finset.mem_filter.mp inside
  exact Finset.mem_filter.mpr ⟨inPlaces, (written.restless_subset steady settled periodic stirred).2⟩

/-- On a cycle, a write that counts calms the instance for good. -/
theorem restless_lt (written : Written s t key rest source id site changed time)
    (steady : Steady places s.store) (settled : Settled s id) (periodic : some key ∈ periodicPts (next s))
    (moved : changed.fingerprint? s.watch.hash ≠ site.fingerprint? s.watch.hash) :
    restless places t < restless places s := by
  classical
  have stirredHere : Restless s id :=
    ⟨key, source, site, periodic, written.deployment, written.owner, written.found,
      fun calm => moved (written.fingerprint_of_calm settled calm)⟩
  refine Finset.card_lt_card (Finset.ssubset_iff_of_subset ?_ |>.mpr ⟨id, ?_, ?_⟩)
  · intro place inside
    obtain ⟨inPlaces, stirred⟩ := Finset.mem_filter.mp inside
    exact Finset.mem_filter.mpr ⟨inPlaces, (written.restless_subset steady settled periodic stirred).2⟩
  · exact Finset.mem_filter.mpr ⟨written.mem_places steady, stirredHere⟩
  · intro inside
    exact written.not_restless steady settled periodic (Finset.mem_filter.mp inside).2

end Written

/-- The keys that passes can go on to are among those that the instances refer to. -/
theorem finite_range_next {places : Finset ObjectId} {s : System} (steady : Steady places s.store) :
    (Set.range (next s)).Finite := by
  classical
  refine (insert none (places.image fun id =>
    (site? s.store id).bind ClusterInstance.deploymentKey?)).finite_toSet.subset ?_
  rintro _ ⟨point, rfl⟩
  rw [Finset.mem_coe, Finset.mem_insert, Finset.mem_image]
  cases point with
  | none => exact .inl rfl
  | some key =>
    simp only [next]
    cases found : owner? s.store key with
    | none => exact .inl rfl
    | some id =>
      rw [Option.bind_some]
      by_cases settled : Settled s id
      · rw [if_pos settled]
        obtain ⟨site, stored, _⟩ := settled
        obtain ⟨deployment, _, owner⟩ := Option.bind_eq_some_iff.mp found
        refine .inr ⟨id, steady.within id (place?_resource owner) fun absent => ?_, rfl⟩
        rw [site?, absent] at stored
        cases stored
      · rw [if_neg settled]
        exact .inl rfl

theorem distance_cons {s : System} {key : ObjectKey} {rest : Multiset ObjectKey}
    (pending : s.pending = key ::ₘ rest) :
    distance s = 2 * Orbit.depth (next s) (some key) + 1 +
      (rest.map fun other => 2 * Orbit.depth (next s) (some other) + 1).sum := by
  rw [distance, pending, Multiset.map_cons, Multiset.sum_cons]

/-- A pass over a deployment of a settled instance brings what is pending closer to the cycles, or the
instances on them closer to rest. -/
theorem Written.closer {places : Finset ObjectId} {s t : System} {key : ObjectKey}
    {rest : Multiset ObjectKey} {source : ClusterDeployment} {id : ObjectId}
    {site changed : ClusterInstance} {time : Timestamp}
    (written : Written s t key rest source id site changed time) (steady : Steady places s.store)
    (settled : Settled s id) : distance t + restless places t < distance s + restless places s := by
  have before := distance_cons written.pending
  have nextSame := written.next_eq steady settled
  have pending := written.wakes
  rw [(written.linked_of_settled settled).2] at pending
  by_cases same : changed.fingerprint? s.watch.hash = site.fingerprint? s.watch.hash
  · rw [if_pos same.symm] at pending
    have after : distance t = (rest.map fun other => 2 * Orbit.depth (next s) (some other) + 1).sum := by
      rw [distance, pending, nextSame, added]
    by_cases periodic : some key ∈ periodicPts (next s)
    · have calmer := written.restless_le steady settled periodic
      omega
    · have stirred := written.restless_le_succ steady settled
      have far := Orbit.depth_of_notMem (finite_range_next steady) periodic
      omega
  · obtain ⟨other, goesOn⟩ := written.exists_next settled
    rw [if_neg (Ne.symm same), goesOn] at pending
    have after := distance_cons pending
    rw [nextSame] at after
    have nextKey := written.next_of_owner settled written.deployment written.owner
    rw [goesOn] at nextKey
    by_cases periodic : some key ∈ periodicPts (next s)
    · have calmer := written.restless_lt steady settled periodic same
      have here := Orbit.depth_of_mem periodic
      have there := Orbit.depth_of_mem (nextKey ▸ Orbit.apply_mem_periodicPts periodic)
      omega
    · have stirred := written.restless_le_succ steady settled
      have far := Orbit.depth_of_notMem (finite_range_next steady) periodic
      rw [nextKey] at far
      omega

/-- Every step makes the measure less: fewer unsettled instances, or as many and passes closer to rest. -/
theorem Step.measure_lt {places : Finset ObjectId} {s t : System} (steady : Steady places s.store)
    (step : Step s t) : measure places t < measure places s := by
  rcases step.cases steady with ⟨store, watch, key, pending⟩ | ⟨_, _, _, id, _, _, _, written, _⟩
  · obtain ⟨after, watchAfter, left⟩ := t
    subst store watch
    have alike : next ⟨s.store, s.watch, left⟩ = next s := rfl
    have before := distance_cons pending
    rw [← alike] at before
    refine Prod.Lex.right _ (Nat.add_lt_add_right ?_ _)
    rw [before, distance]
    exact Nat.lt_add_of_pos_left (Nat.succ_pos _)
  · by_cases settled : Settled s id
    · rw [measure, measure, written.unsettled_eq steady settled]
      exact Prod.Lex.right _ (written.closer steady settled)
    · exact Prod.Lex.left _ _ (written.unsettled_lt steady settled)

theorem Step.steady {places : Finset ObjectId} {s t : System} (steady : Steady places s.store)
    (step : Step s t) : Steady places t.store := by
  rcases step.cases steady with ⟨store, _⟩ | ⟨_, _, _, _, _, _, _, _, after⟩
  · exact store ▸ steady
  · exact after

/-- The places of all instances in a store. -/
def instancePlaces (store : Store) : Finset ObjectId :=
  (store.objects.map Prod.fst).toFinset.filter fun id => id.resource = .instances

/-- The places to count are those that the store has at first, since no pass makes a new instance. -/
theorem steady_instancePlaces {store : Store} (held : store.Held)
    (named : ∀ key deployment, deployment? store key = some deployment → deployment.name ≠ "") :
    Steady (instancePlaces store) store := by
  refine ⟨held, named, fun id kind present => ?_, fun id inside => (Finset.mem_filter.mp inside).2⟩
  obtain ⟨document, found⟩ := Option.ne_none_iff_exists'.mp present
  obtain ⟨before, after, split, _⟩ := List.lookup_eq_some_iff.mp found
  refine Finset.mem_filter.mpr ⟨List.mem_toFinset.mpr ?_, kind⟩
  rw [split]
  exact List.mem_map_of_mem (List.mem_append_right before (List.mem_cons_self ..))

/-- The controller never feeds itself. Whatever the instances hold at first, whatever was seen of them, by
whatever hash, and whichever passes are pending, passes come to an end, in whatever order and at whatever
times they are made. -/
theorem no_endless_run {start : System} (held : start.store.Held)
    (named : ∀ key deployment, deployment? start.store key = some deployment → deployment.name ≠ "") :
    ¬ ∃ run : Nat → System, run 0 = start ∧ ∀ n, Step (run n) (run (n + 1)) := by
  rintro ⟨run, begins, steps⟩
  have steady : ∀ n, Steady (instancePlaces start.store) (run n).store := by
    intro n
    induction n with
    | zero =>
      rw [begins]
      exact steady_instancePlaces held named
    | succ n ih => exact (steps n).steady ih
  obtain ⟨n, higher⟩ := WellFounded.not_rel_apply_succ (r := (· < ·))
    fun n => measure (instancePlaces start.store) (run n)
  exact higher ((steps n).measure_lt (steady n))

/-- A deployment whose instance does not refer to it yet. -/
theorem no_endless_run_sample :
    let start : System := ⟨Api.sampleStore, .start SipHash.digest none, {⟨"lab", "east"⟩}⟩
    (∃ after, Step start after) ∧
      ¬ ∃ run : Nat → System, run 0 = start ∧ ∀ n, Step (run n) (run (n + 1)) := by
  intro start
  obtain ⟨d, s, difference, decoded, name, decodedSite, _, differs, guides⟩ := Api.guides_sample
  have described := Api.kept_sampleSite.describes decodedSite
  constructor
  · obtain ⟨ns, leads, _⟩ := guides.leads
    have runs := Pass.Runs.guided guides differs described.namespaceName
      (.patch (Api.takes_sampleSite decodedSite difference) (.ok ()) (.report .done))
    exact ⟨_, @Step.pass _ _ _ ⟨"lab", "east"⟩ 0 _ _ _ _ name leads.lies runs⟩
  · refine no_endless_run Api.held_sampleStore fun key deployment found => ?_
    obtain ⟨document, stored, read⟩ := Option.bind_eq_some_iff.mp found
    change Api.sampleStore.get? _ = _ at stored
    rw [Api.sampleStore, Store.get?_write, Store.get?_write, if_neg (by simp [Api.sampleSiteId])] at stored
    split at stored
    · cases stored
      rw [decoded] at read
      cases read
      rw [name]
      decide
    · cases stored

end Quiescence

end InstallStatus
