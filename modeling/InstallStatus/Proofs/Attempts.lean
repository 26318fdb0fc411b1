import Mathlib
import InstallStatus.Api.Server
import InstallStatus.Proofs.ServerLaws

/-!
One pass at a server that nobody else writes to. Any of its calls may fail, or be the one at which the
deadline cuts the pass off; when that happens to a patch, the server may have taken it all the same.
Main statement: a pass leaves the store alone, or leaves it with one instance projected.
-/

namespace InstallStatus

open Api (Answer Change Kept ObjectId Store Ending patchedAs)

namespace Pass

/-- A pass that reads this time on its clock, from the store it finds to the store it leaves, with its
end and with the change that its patch has made, if the server has taken one. -/
inductive Runs (time : Timestamp) :
    Store → Pass (Except Failure Action) → Store → Ending (Except Failure Action) → Option Change → Prop
  | done {store : Store} {result : Except Failure Action} :
    Runs time store (.done result) store (.done result) none
  | report {store after : Store} {event : Event} {next : Pass (Except Failure Action)}
    {ending : Ending (Except Failure Action)} {change? : Option Change}
    (rest : Runs time store next after ending change?) :
    Runs time store (.report event next) after ending change?
  | clock {store after : Store} {next : Timestamp → Pass (Except Failure Action)}
    {ending : Ending (Except Failure Action)} {change? : Option Change}
    (rest : Runs time store (next time) after ending change?) :
    Runs time store (.clock next) after ending change?
  | deployment {store after : Store} {name ns : String}
    {next : Except Failure (Option ClusterDeployment) → Pass (Except Failure Action)}
    {ending : Ending (Except Failure Action)} {change? : Option Change} {answer : Answer}
    (truthful : answer.Truthful (store.get? ⟨.deployments, ns, name⟩))
    (rest : Runs time store (next (answer.found ClusterDeployment.decode)) after ending change?) :
    Runs time store (.call (.getDeployment name ns) next) after ending change?
  | site {store after : Store} {name ns : String}
    {next : Except Failure (Option ClusterInstance) → Pass (Except Failure Action)}
    {ending : Ending (Except Failure Action)} {change? : Option Change} {answer : Answer}
    (truthful : answer.Truthful (store.get? ⟨.instances, ns, name⟩))
    (rest : Runs time store (next (answer.found ClusterInstance.decode)) after ending change?) :
    Runs time store (.call (.getInstance name ns) next) after ending change?
  /-- A call that fails without effect. -/
  | fail {store after : Store} {call : Call} {next : Except Failure call.Result → Pass (Except Failure Action)}
    {ending : Ending (Except Failure Action)} {change? : Option Change} (failure : Failure)
    (rest : Runs time store (next (.error failure)) after ending change?) :
    Runs time store (.call call next) after ending change?
  /-- A call at which time runs out, without effect. -/
  | late {store : Store} {call : Call} {next : Except Failure call.Result → Pass (Except Failure Action)} :
    Runs time store (.call call next) store .late none
  /-- A patch that the server takes, whatever the pass is told about that. -/
  | patch {store between after : Store} {name ns version : String} {body object : Json}
    {next : Except Failure Unit → Pass (Except Failure Action)} {ending : Ending (Except Failure Action)}
    {again? : Option Change} (takes : store.Takes ⟨.instances, ns, name⟩ body object version between)
    (answer : Except Failure Unit) (rest : Runs time between (next answer) after ending again?) :
    Runs time store (.call (.patchStatus name ns body) next) after ending
      (some (.applied ⟨.instances, ns, name⟩ (patchedAs version object body)))
  /-- A patch that the server takes, at which time runs out. -/
  | patchLate {store after : Store} {name ns version : String} {body object : Json}
    {next : Except Failure Unit → Pass (Except Failure Action)}
    (takes : store.Takes ⟨.instances, ns, name⟩ body object version after) :
    Runs time store (.call (.patchStatus name ns body) next) after .late
      (some (.applied ⟨.instances, ns, name⟩ (patchedAs version object body)))

/-- What a trigger leads to in a store: the deployment, and the stored object of its owner. -/
structure Meets (trigger : ClusterDeployment) (store : Store) (deployment : ClusterDeployment)
    (id : ObjectId) (object : Json) (site : ClusterInstance) : Prop where
  leads : ∃ ns document, Leads trigger ns deployment id.name id.namespaceName ∧
    store.get? ⟨.deployments, ns, trigger.name⟩ = some document ∧
    ClusterDeployment.decode document = .ok deployment
  resource : id.resource = .instances
  stored : store.get? id = some object
  decoded : ClusterInstance.decode object = .ok site

/-- Why a pass has nothing to write. -/
inductive Idle (trigger : ClusterDeployment) (time : Timestamp) (store : Store) : Prop
  | withoutDeployment (ns : String) (placed : trigger.metadata.namespaceName = some ns)
    (absent : store.get? ⟨.deployments, ns, trigger.name⟩ = none)
  | withoutOwner (ns : String) (document : Json) (deployment : ClusterDeployment)
    (placed : trigger.metadata.namespaceName = some ns)
    (stored : store.get? ⟨.deployments, ns, trigger.name⟩ = some document)
    (decoded : ClusterDeployment.decode document = .ok deployment) (free : deployment.owner? = none)
  | withoutSite (ns : String) (document : Json) (deployment : ClusterDeployment) (owner place : String)
    (leads : Leads trigger ns deployment owner place)
    (stored : store.get? ⟨.deployments, ns, trigger.name⟩ = some document)
    (decoded : ClusterDeployment.decode document = .ok deployment)
    (absent : store.get? ⟨.instances, place, owner⟩ = none)
  | current (deployment : ClusterDeployment) (id : ObjectId) (object : Json) (site : ClusterInstance)
    (meets : Meets trigger store deployment id object site)
    (same : project deployment site.currentStatus time.truncate = site.currentStatus)

/-- What a pass writes. -/
structure Writes (trigger : ClusterDeployment) (time : Timestamp) (store after : Store)
    (deployment : ClusterDeployment) (id : ObjectId) (site : ClusterInstance) (version : String)
    (result : Json) : Prop where
  object : ∃ object, Meets trigger store deployment id object site ∧
    Api.Rewritten id version object site (project deployment site.currentStatus time.truncate) result
  written : after = store.write id result

/-- What a run of a pass comes to. -/
inductive ComesTo (trigger : ClusterDeployment) (time : Timestamp) (store : Store) :
    Store → Ending (Except Failure Action) → Option Change → Prop
  | nothing {ending : Ending (Except Failure Action)}
    (idle : ∀ action, ending = .done (.ok action) → Idle trigger time store) :
    ComesTo trigger time store store ending none
  | written {after : Store} {ending : Ending (Except Failure Action)} {deployment : ClusterDeployment}
    {id : ObjectId} {site : ClusterInstance} {version : String} {result : Json}
    (writes : Writes trigger time store after deployment id site version result) :
    ComesTo trigger time store after ending (some (.applied id result))

end Pass

/-- What was learnt is so, and no patch was taken. -/
def Observation.Holds (store : Store) (time : Timestamp) : Observation → Prop
  | .clock read => read = time
  | .told (.getDeployment name ns) (.ok none) => store.get? ⟨.deployments, ns, name⟩ = none
  | .told (.getDeployment name ns) (.ok (some deployment)) =>
    ∃ document, store.get? ⟨.deployments, ns, name⟩ = some document ∧
      ClusterDeployment.decode document = .ok deployment
  | .told (.getInstance name ns) (.ok none) => store.get? ⟨.instances, ns, name⟩ = none
  | .told (.getInstance name ns) (.ok (some site)) =>
    ∃ document, store.get? ⟨.instances, ns, name⟩ = some document ∧
      ClusterInstance.decode document = .ok site
  | .told (.patchStatus _ _ _) (.ok _) => False
  | .told _ (.error _) => True

namespace Observation

variable {store : Store} {time : Timestamp}

theorem holds_append {seen : List Observation} {learnt : Observation}
    (holds : ∀ earlier ∈ seen, earlier.Holds store time) (new : learnt.Holds store time) :
    ∀ any ∈ seen ++ [learnt], any.Holds store time := by
  intro any member
  rcases List.mem_append.mp member with earlier | last
  · exact holds any earlier
  · rw [List.mem_singleton.mp last]
    exact new

/-- What a pass learns from an answer is what the store holds, as long as the answer is truthful. -/
theorem holds_deployment {name ns : String} {answer : Answer}
    (truthful : answer.Truthful (store.get? ⟨.deployments, ns, name⟩)) :
    (told (.getDeployment name ns) (answer.found ClusterDeployment.decode)).Holds store time := by
  rcases found : answer.found ClusterDeployment.decode with failure | _ | deployment
  · trivial
  · exact truthful.absent found
  · obtain ⟨document, stored, _, decoded⟩ := truthful.found found
    exact ⟨document, stored, decoded⟩

theorem holds_site {name ns : String} {answer : Answer}
    (truthful : answer.Truthful (store.get? ⟨.instances, ns, name⟩)) :
    (told (.getInstance name ns) (answer.found ClusterInstance.decode)).Holds store time := by
  rcases found : answer.found ClusterInstance.decode with failure | _ | site
  · trivial
  · exact truthful.absent found
  · obtain ⟨document, stored, _, decoded⟩ := truthful.found found
    exact ⟨document, stored, decoded⟩

theorem holds_error (call : Call) (failure : Failure) :
    (told call (.error failure)).Holds store time := by
  cases call with
  | getDeployment name ns => trivial
  | getInstance name ns => trivial
  | patchStatus name ns body => trivial

end Observation

namespace Pass

variable {trigger : ClusterDeployment} {time : Timestamp}

theorem runs_reportAll {store after : Store} {events : List Event} {pass : Pass (Except Failure Action)}
    {ending : Ending (Except Failure Action)} {change? : Option Change}
    (runs : Runs time store pass after ending change?) :
    Runs time store (reportAll events pass) after ending change? := by
  induction events with
  | nil => exact runs
  | cons event rest ih => exact .report ih

/-- After its patch a pass makes no more calls, so that no second one can change the store. -/
theorem store_of_long {store after : Store} {pass : Pass (Except Failure Action)}
    {ending : Ending (Except Failure Action)} {change? : Option Change} {seen : List Observation}
    (runs : Runs time store pass after ending change?) (keeps : Keeps trigger seen pass)
    (long : 3 < seen.length) : after = store := by
  induction runs generalizing seen with
  | done => rfl
  | report rest ih => exact ih keeps long
  | clock rest ih => exact ih (keeps time) (long.trans_le (by simp))
  | deployment truthful rest ih => exact absurd keeps.1.length_le (Nat.not_le.mpr long)
  | site truthful rest ih => exact absurd keeps.1.length_le (Nat.not_le.mpr long)
  | fail failure rest ih => exact absurd keeps.1.length_le (Nat.not_le.mpr long)
  | late => rfl
  | patch takes answer rest ih => exact absurd keeps.1.length_le (Nat.not_le.mpr long)
  | patchLate takes => exact absurd keeps.1.length_le (Nat.not_le.mpr long)

/-- What a pass has learnt by the time it writes are documents of the store it writes to. -/
theorem meets_of_seen {store : Store} {ns owner place : String} {deployment : ClusterDeployment}
    {site : ClusterInstance} {read : Timestamp} (leads : Leads trigger ns deployment owner place)
    (holds : ∀ learnt ∈ [Observation.told (.getDeployment trigger.name ns) (.ok (some deployment)),
      .told (.getInstance owner place) (.ok (some site)), .clock read], learnt.Holds store time) :
    read = time ∧ ∃ object, Meets trigger store deployment ⟨.instances, place, owner⟩ object site := by
  simp only [List.forall_mem_cons] at holds
  obtain ⟨⟨document, found, decoded⟩, ⟨object, stored, decodedSite⟩, same, _⟩ := holds
  exact ⟨same, object, ⟨ns, document, leads, found, decoded⟩, rfl, stored, decodedSite⟩

/-- A patch that the server takes is what the pass has to write. -/
theorem writes_of_takes {store after : Store} (held : store.Held) {seen : List Observation}
    (holds : ∀ learnt ∈ seen, learnt.Holds store time) {name ns version : String} {body object : Json}
    (asks : Asks trigger seen (.patchStatus name ns body))
    (takes : store.Takes ⟨.instances, ns, name⟩ body object version after) :
    ∃ deployment id site result, id = ⟨.instances, ns, name⟩ ∧ result = patchedAs version object body ∧
      Writes trigger time store after deployment id site version result := by
  obtain ⟨ns, owner, place, deployment, site, read, difference, rfl, leads, differs, rfl, home, rfl⟩ :=
    asks.of_patchStatus
  obtain ⟨rfl, document, meets⟩ := meets_of_seen leads holds
  have kept := held _ document rfl meets.stored
  have described := kept.describes meets.decoded
  have samePlace := Option.some.inj (home.symm.trans described.namespaceName)
  obtain ⟨stored, _, written⟩ := takes
  rw [samePlace, described.name]
  rw [samePlace, described.name] at stored written
  have same : object = document := Option.some.inj (stored.symm.trans meets.stored)
  subst same
  exact ⟨deployment, _, site, _, rfl, rfl,
    ⟨object, meets, kept.rewritten meets.decoded differs version⟩, written⟩

theorem idle_of_ends {store : Store} {seen : List Observation}
    (holds : ∀ learnt ∈ seen, learnt.Holds store time) {action : Action}
    (ends : Ends trigger seen (.ok action)) :
    Idle trigger time store := by
  cases ends with
  | withoutDeployment placed =>
    simp only [List.forall_mem_cons] at holds
    exact .withoutDeployment _ placed holds.1
  | withoutOwner placed free =>
    simp only [List.forall_mem_cons] at holds
    obtain ⟨⟨document, found, decoded⟩, _⟩ := holds
    exact .withoutOwner _ document _ placed found decoded free
  | withoutSite leads =>
    simp only [List.forall_mem_cons] at holds
    obtain ⟨⟨document, found, decoded⟩, absent, _⟩ := holds
    exact .withoutSite _ document _ _ _ leads found decoded absent
  | current leads same =>
    obtain ⟨rfl, object, meets⟩ := meets_of_seen leads holds
    refine .current _ _ object _ meets ?_
    by_contra differ
    rw [ClusterInstanceStatus.patchTo_of_ne fun equal => differ equal.symm] at same
    cases same
  | written asked =>
    exact (holds _ (List.mem_append_right _ (List.mem_singleton_self _))).elim

/-- A run leaves the store as it is, and ends well only where there is nothing to write, or it has the
instance projected that its trigger leads to. -/
theorem Runs.comesTo_of_keeps {store after : Store} {pass : Pass (Except Failure Action)}
    {ending : Ending (Except Failure Action)} {change? : Option Change} {seen : List Observation}
    (runs : Runs time store pass after ending change?) (held : store.Held) (keeps : Keeps trigger seen pass)
    (holds : ∀ learnt ∈ seen, learnt.Holds store time) : ComesTo trigger time store after ending change? := by
  induction runs generalizing seen with
  | done =>
    refine .nothing fun action well => ?_
    cases well
    exact idle_of_ends holds keeps
  | report rest ih => exact ih held keeps holds
  | clock rest ih => exact ih held (keeps time) (Observation.holds_append holds rfl)
  | deployment truthful rest ih =>
    exact ih held (keeps.2 _) (Observation.holds_append holds (Observation.holds_deployment truthful))
  | site truthful rest ih =>
    exact ih held (keeps.2 _) (Observation.holds_append holds (Observation.holds_site truthful))
  | fail failure rest ih =>
    exact ih held (keeps.2 _) (Observation.holds_append holds (Observation.holds_error _ failure))
  | late => exact .nothing nofun
  | patch takes answer rest ih =>
    obtain ⟨deployment, id, site, result, rfl, rfl, writes⟩ := writes_of_takes held holds keeps.1 takes
    -- The patch is the last thing a pass does to the store.
    have kept := store_of_long rest (keeps.2 answer) (by
      obtain ⟨_, _, _, _, _, _, _, seen, _⟩ := keeps.1.of_patchStatus
      simp [seen])
    rw [kept]
    exact .written writes
  | patchLate takes =>
    obtain ⟨deployment, id, site, result, rfl, rfl, writes⟩ := writes_of_takes held holds keeps.1 takes
    exact .written writes

theorem Runs.comesTo {store after : Store} {ending : Ending (Except Failure Action)} {change? : Option Change}
    (runs : Runs time store (ofTrigger trigger) after ending change?) (held : store.Held) :
    ComesTo trigger time store after ending change? :=
  runs.comesTo_of_keeps held (keeps_ofTrigger trigger) fun _ learnt => nomatch learnt

/-- A pass that is answered as far as to the instance goes on with its patch. -/
theorem Runs.guided {store after : Store} {deployment : ClusterDeployment} {id : ObjectId}
    {site : ClusterInstance} {first second : Answer} {difference : Json}
    {ending : Ending (Except Failure Action)} {change? : Option Change}
    (guides : Api.Guides store trigger deployment id site first second)
    (differs : site.currentStatus.patchTo (project deployment site.currentStatus time.truncate) =
      .ok (some difference))
    (lives : site.metadata.namespaceName = some id.namespaceName)
    (rest : Runs time store
      ((ask (.patchStatus site.name id.namespaceName (patchBody site difference))).andThen fun _ =>
        .report (.statusUpdated site.name id.namespaceName) (.done (.ok .awaitChange))) after ending change?) :
    Runs time store (ofTrigger trigger) after ending change? := by
  obtain ⟨⟨ns, leads, truthful⟩, foundDeployment, truthfulSite, foundSite⟩ := guides
  have writes := write_andThen_of_differs differs lives fun _ => Pass.done (Except.ok Action.awaitChange)
  rw [← writes] at rest
  simp only [ofTrigger, leads.placed]
  refine .report (.deployment truthful ?_)
  rw [foundDeployment]
  show Runs _ _ ((resolve deployment).andThen _) _ _ _
  rw [resolve_of_leads leads]
  refine .site truthfulSite ?_
  rw [foundSite]
  exact .clock (runs_reportAll rest)

/-- A pass leaves a store that the server answers for as one. -/
theorem ComesTo.held {store after : Store} {ending : Ending (Except Failure Action)} {change? : Option Change}
    (comes : ComesTo trigger time store after ending change?) (held : store.Held) : after.Held := by
  cases comes with
  | nothing idle => exact held
  | written writes =>
    obtain ⟨⟨object, meets, rewritten⟩, written⟩ := writes
    rw [written]
    exact held.write fun _ => rewritten.kept

end Pass

end InstallStatus
