import Mathlib
import InstallStatus.Pass
import InstallStatus.Proofs.StatusPatch

/-!
The calls of a pass, in their order, and its result, against a server that may answer anything. Each call
follows from what the ones before it have found. The calls stop with the first that fails, and a pass
fails with that one, or for want of a namespace that it needs, and for no other reason.
-/

namespace InstallStatus

namespace ClusterDeployment

/-- The name of the first of the owners that are instances and have a name. -/
def FirstOwner (deployment : ClusterDeployment) (name : String) : Prop :=
  ∃ before owner after, deployment.metadata.owners = before ++ owner :: after ∧
    owner.kind = ClusterInstance.kind ∧ owner.name = name ∧ name ≠ "" ∧
    ∀ earlier ∈ before, earlier.kind = ClusterInstance.kind → earlier.name = ""

theorem owner?_eq_some_iff {deployment : ClusterDeployment} {name : String} :
    deployment.owner? = some name ↔ deployment.FirstOwner name := by
  rw [owner?, Metadata.ownerOfKind?, Option.map_eq_some_iff]
  simp only [List.find?_eq_some_iff_append]
  constructor
  · rintro ⟨owner, ⟨fits, before, after, split, passed⟩, rfl⟩
    simp only [Bool.and_eq_true, beq_iff_eq, bne_iff_ne] at fits
    refine ⟨before, owner, after, split, fits.1, rfl, fits.2, fun earlier member kind => ?_⟩
    simpa [kind] using passed earlier member
  · rintro ⟨before, owner, after, split, kind, rfl, named, passed⟩
    refine ⟨owner, ⟨by simp [kind, named], before, after, split, fun earlier member => ?_⟩, rfl⟩
    by_cases same : earlier.kind = ClusterInstance.kind
    · simp [passed earlier member same]
    · simp [same]

end ClusterDeployment

namespace Pass

/-- The deployment that the first call finds. -/
def Finds (client : Client) (trigger deployment : ClusterDeployment) : Prop :=
  ∃ ns, trigger.metadata.namespaceName = some ns ∧
    client (.getDeployment trigger.name ns) = .ok (some deployment)

/-- The deployment that the first call finds, and the instance that the second one finds. -/
structure FindsSite (client : Client) (trigger deployment : ClusterDeployment) (site : ClusterInstance) :
    Prop where
  first : Finds client trigger deployment
  second : ∃ owner place, deployment.FirstOwner owner ∧ deployment.metadata.namespaceName = some place ∧
    client (.getInstance owner place) = .ok (some site)

/-- The calls by their place in the order, counted from nought. -/
inductive Plans (client : Client) (now : Timestamp) (trigger : ClusterDeployment) : Nat → Call → Prop
  | deployment {ns : String} (placed : trigger.metadata.namespaceName = some ns) :
    Plans client now trigger 0 (.getDeployment trigger.name ns)
  | site {deployment : ClusterDeployment} {owner place : String} (finds : Finds client trigger deployment)
    (first : deployment.FirstOwner owner) (lies : deployment.metadata.namespaceName = some place) :
    Plans client now trigger 1 (.getInstance owner place)
  | patch {deployment : ClusterDeployment} {site : ClusterInstance} {home : String} {difference : Json}
    (finds : FindsSite client trigger deployment site)
    (differs : site.currentStatus.patchTo (project deployment site.currentStatus now.truncate) =
      .ok (some difference))
    (lives : site.metadata.namespaceName = some home) :
    Plans client now trigger 2 (.patchStatus site.name home (.object
      ((site.metadata.resourceVersion.map fun version =>
        ("metadata", .object [("resourceVersion", .string version)])).toList ++ [("status", difference)])))

/-- The failures for want of a namespace, each where the namespace is needed. -/
inductive Stranded (client : Client) (now : Timestamp) (trigger : ClusterDeployment) : Failure → Prop
  | trigger (nowhere : trigger.metadata.namespaceName = none) :
    Stranded client now trigger (.missingNamespace ClusterDeployment.kind trigger.name)
  | deployment {deployment : ClusterDeployment} (finds : Finds client trigger deployment)
    (owned : deployment.isOwned = true) (nowhere : deployment.metadata.namespaceName = none) :
    Stranded client now trigger (.missingNamespace ClusterDeployment.kind deployment.name)
  | site {deployment : ClusterDeployment} {site : ClusterInstance}
    (finds : FindsSite client trigger deployment site)
    (differs : project deployment site.currentStatus now.truncate ≠ site.currentStatus)
    (nowhere : site.metadata.namespaceName = none) :
    Stranded client now trigger (.missingNamespace ClusterInstance.kind site.name)

/-- What a pass has done once it has made the planned calls, up to the first one that failed, and has failed
with that one or was stranded, or else waits for a change. -/
structure Obeys (client : Client) (plan : Nat → Call → Prop) (stranded : Failure → Prop)
    (trace : Trace (Except Failure Action)) : Prop where
  calls : ∀ place call, trace.calls[place]? = some call ↔ plan place call
  stops : ∀ call ∈ trace.calls.dropLast, ∃ answer, client call = .ok answer
  fails : ∀ failure, trace.result = .error failure ↔
    (∃ call ∈ trace.calls, client call = .error failure) ∨ stranded failure
  waits : ∀ action, trace.result = .ok action → action = .awaitChange

/-- It has succeeded if every call has and it was not stranded. -/
theorem Obeys.succeeds_iff {client : Client} {plan : Nat → Call → Prop} {stranded : Failure → Prop}
    {trace : Trace (Except Failure Action)} (obeys : Obeys client plan stranded trace) :
    trace.result = .ok .awaitChange ↔
      (∀ call ∈ trace.calls, ∃ answer, client call = .ok answer) ∧ ∀ failure, ¬ stranded failure := by
  constructor
  · intro succeeded
    refine ⟨fun call member => ?_, fun failure missing => ?_⟩
    · cases answered : client call with
      | ok answer => exact ⟨answer, rfl⟩
      | error failure =>
        have failed := (obeys.fails failure).mpr (.inl ⟨call, member, answered⟩)
        cases succeeded.symm.trans failed
    · cases succeeded.symm.trans ((obeys.fails failure).mpr (.inr missing))
  · rintro ⟨answers, unstranded⟩
    cases ended : trace.result with
    | ok action => rw [obeys.waits action ended]
    | error failure =>
      rcases (obeys.fails failure).mp ended with ⟨call, member, failed⟩ | missing
      · obtain ⟨answer, answered⟩ := answers call member
        cases failed.symm.trans answered
      · exact absurd missing (unstranded failure)

section Stages

variable {client : Client} {now : Timestamp} {plan : Nat → Call → Prop} {stranded : Failure → Prop}

/-- A pass that waits for a change obeys a plan without calls, if it is not stranded. -/
theorem obeys_waiting (planned : ∀ place call, ¬ plan place call) (unstranded : ∀ failure, ¬ stranded failure) :
    Obeys client plan stranded ((Pass.done (.ok .awaitChange)).trace client now) where
  calls place call := ⟨nofun, fun here => absurd here (planned place call)⟩
  stops := nofun
  fails failure := by simp [trace, unstranded failure]
  waits _ ended := (Except.ok.inj ended).symm

/-- A pass that has failed obeys a plan without calls, if that is how it is stranded. -/
theorem obeys_stranded {failure : Failure} (planned : ∀ place call, ¬ plan place call)
    (only : ∀ other, stranded other ↔ other = failure) :
    Obeys client plan stranded ((Pass.done (.error failure)).trace client now) where
  calls place call := ⟨nofun, fun here => absurd here (planned place call)⟩
  stops := nofun
  fails other := by simp [trace, only other, eq_comm]
  waits := nofun

/-- Reports are not calls, and so they do not count for the protocol. -/
theorem obeys_report {event : Event} {next : Pass (Except Failure Action)}
    (obeys : Obeys client plan stranded (next.trace client now)) :
    Obeys client plan stranded ((Pass.report event next).trace client now) :=
  ⟨obeys.calls, obeys.stops, obeys.fails, obeys.waits⟩

theorem obeys_reportAll {events : List Event} {next : Pass (Except Failure Action)}
    (obeys : Obeys client plan stranded (next.trace client now)) :
    Obeys client plan stranded ((reportAll events next).trace client now) := by
  induction events with
  | nil => exact obeys
  | cons event rest ih => exact obeys_report ih

/-- A pass that makes the first planned call obeys the plan if it obeys the rest of it after each answer. -/
theorem obeys_call {request : Call} {next : Except Failure request.Result → Pass (Except Failure Action)}
    (first : ∀ call, plan 0 call ↔ call = request)
    (lost : ∀ failure, client request = .error failure →
      next (.error failure) = .done (.error failure) ∧ (∀ place call, ¬ plan (place + 1) call) ∧
        ∀ failure, ¬ stranded failure)
    (told : ∀ answer, client request = .ok answer →
      Obeys client (fun place => plan (place + 1)) stranded ((next (.ok answer)).trace client now)) :
    Obeys client plan stranded ((Pass.call request next).trace client now) := by
  cases answered : client request with
  | error failure =>
    obtain ⟨ended, planned, unstranded⟩ := lost failure answered
    simp only [trace, answered, ended]
    refine ⟨fun place call => ?_, nofun, fun other => ?_, nofun⟩
    · cases place with
      | zero => simp [first, eq_comm]
      | succ place => simp [planned]
    · simp [unstranded, answered]
  | ok answer =>
    obtain ⟨calls, stops, fails, waits⟩ := told answer answered
    simp only [trace, answered]
    refine ⟨fun place call => ?_, fun call early => ?_, fun failure => ?_, waits⟩
    · cases place with
      | zero => simp [first, eq_comm]
      | succ place => exact calls place call
    · -- Where no call follows, the request is the last one, of which nothing is said.
      cases later : ((next (.ok answer)).trace client now).calls with
      | nil =>
        rw [later] at early
        cases early
      | cons following rest =>
        rw [later, List.dropLast_cons_cons, ← later] at early
        rcases List.mem_cons.mp early with rfl | after
        · exact ⟨answer, answered⟩
        · exact stops call after
    · simp [answered, fails failure]

end Stages

/-- The version of the instance goes along with the patch if it is known, and nothing else does. -/
theorem patchBody_eq (site : ClusterInstance) (difference : Json) :
    patchBody site difference = .object ((site.metadata.resourceVersion.map fun version =>
      ("metadata", .object [("resourceVersion", .string version)])).toList ++ [("status", difference)]) := by
  have order : "metadata" < "status" := by decide
  unfold patchBody
  cases site.metadata.resourceVersion with
  | none => rfl
  | some version => simp [Json.ofFields?, Json.ofFields, Json.Fields.ofList, Json.Fields.insert, order]

variable {client : Client} {now : Timestamp} {trigger deployment : ClusterDeployment} {site : ClusterInstance}

/-- A client answers a call the same way each time, so what is found is one deployment. -/
theorem Finds.unique {other : ClusterDeployment} (finds : Finds client trigger deployment)
    (again : Finds client trigger other) : other = deployment := by
  obtain ⟨ns, placed, found⟩ := finds
  obtain ⟨ns', placed', found'⟩ := again
  obtain rfl := Option.some.inj (placed.symm.trans placed')
  cases found.symm.trans found'
  rfl

/-- Whether an instance is found is up to the answer to the one call that looks for it. -/
theorem Finds.site_iff (finds : Finds client trigger deployment) {owner place : String}
    (first : deployment.FirstOwner owner) (lies : deployment.metadata.namespaceName = some place) :
    FindsSite client trigger deployment site ↔ client (.getInstance owner place) = .ok (some site) := by
  refine ⟨fun both => ?_, fun found => ⟨finds, owner, place, first, lies, found⟩⟩
  obtain ⟨owner', place', first', lies', found⟩ := both.second
  have owned := ClusterDeployment.owner?_eq_some_iff.mpr first
  obtain rfl := Option.some.inj (owned.symm.trans (ClusterDeployment.owner?_eq_some_iff.mpr first'))
  obtain rfl := Option.some.inj (lies.symm.trans lies')
  exact found

theorem FindsSite.unique {other : ClusterInstance} (finds : FindsSite client trigger deployment site)
    (again : FindsSite client trigger deployment other) : other = site := by
  obtain ⟨owner, place, first, lies, found⟩ := finds.second
  cases found.symm.trans ((finds.first.site_iff first lies).mp again)
  rfl

theorem Finds.placed (finds : Finds client trigger deployment) : trigger.metadata.namespaceName ≠ none := by
  obtain ⟨ns, placed, _⟩ := finds
  rw [placed]
  nofun

theorem FindsSite.lies (finds : FindsSite client trigger deployment site) :
    deployment.metadata.namespaceName ≠ none := by
  obtain ⟨_, place, _, lies, _⟩ := finds.second
  rw [lies]
  nofun

/-- The patch is the last call. -/
theorem not_plans_after (place : Nat) (call : Call) : ¬ Plans client now trigger (place + 3) call := nofun

theorem Finds.plans_iff (finds : Finds client trigger deployment) {call : Call} :
    Plans client now trigger 1 call ↔ ∃ owner place, deployment.FirstOwner owner ∧
      deployment.metadata.namespaceName = some place ∧ call = .getInstance owner place := by
  constructor
  · intro planned
    cases planned with
    | site again first lies =>
      obtain rfl := finds.unique again
      exact ⟨_, _, first, lies, rfl⟩
  · rintro ⟨owner, place, first, lies, rfl⟩
    exact .site finds first lies

theorem FindsSite.plans_iff (finds : FindsSite client trigger deployment site) {call : Call} :
    Plans client now trigger 2 call ↔ ∃ home difference, site.metadata.namespaceName = some home ∧
      site.currentStatus.patchTo (project deployment site.currentStatus now.truncate) = .ok (some difference) ∧
      call = .patchStatus site.name home (patchBody site difference) := by
  constructor
  · intro planned
    cases planned with
    | patch again differs lives =>
      obtain rfl := finds.first.unique again.first
      obtain rfl := finds.unique again
      exact ⟨_, _, lives, differs, by rw [patchBody_eq]⟩
  · rintro ⟨home, difference, lives, differs, rfl⟩
    rw [patchBody_eq]
    exact .patch finds differs lives

/-- Once the deployment is found, the namespaces needed are its own and that of the instance. -/
theorem Finds.stranded_iff (finds : Finds client trigger deployment) {failure : Failure} :
    Stranded client now trigger failure ↔
      (deployment.isOwned = true ∧ deployment.metadata.namespaceName = none ∧
        failure = .missingNamespace ClusterDeployment.kind deployment.name) ∨
      ∃ site, FindsSite client trigger deployment site ∧
        project deployment site.currentStatus now.truncate ≠ site.currentStatus ∧
        site.metadata.namespaceName = none ∧ failure = .missingNamespace ClusterInstance.kind site.name := by
  constructor
  · intro stranded
    cases stranded with
    | trigger nowhere => exact absurd nowhere finds.placed
    | deployment again owned nowhere =>
      obtain rfl := finds.unique again
      exact .inl ⟨owned, nowhere, rfl⟩
    | site again differs nowhere =>
      obtain rfl := finds.unique again.first
      exact .inr ⟨_, again, differs, nowhere, rfl⟩
  · rintro (⟨owned, nowhere, rfl⟩ | ⟨site, both, differs, nowhere, rfl⟩)
    · exact .deployment finds owned nowhere
    · exact .site both differs nowhere

theorem FindsSite.stranded_iff (finds : FindsSite client trigger deployment site) {failure : Failure} :
    Stranded client now trigger failure ↔
      project deployment site.currentStatus now.truncate ≠ site.currentStatus ∧
        site.metadata.namespaceName = none ∧ failure = .missingNamespace ClusterInstance.kind site.name := by
  rw [finds.first.stranded_iff]
  constructor
  · rintro (⟨_, nowhere, _⟩ | ⟨other, again, differs, nowhere, rfl⟩)
    · exact absurd nowhere finds.lies
    · obtain rfl := finds.unique again
      exact ⟨differs, nowhere, rfl⟩
  · exact fun stranded => .inr ⟨site, finds, stranded⟩

/-- Where no deployment is found, no other call is made. -/
theorem not_plans_of_lost (lost : ∀ deployment, ¬ Finds client trigger deployment) (place : Nat)
    (call : Call) : ¬ Plans client now trigger (place + 1) call := by
  intro planned
  cases planned with
  | site finds first lies => exact lost _ finds
  | patch finds differs lives => exact lost _ finds.first

/-- Where no deployment is found, only the namespace of the trigger can be missing. -/
theorem stranded_iff_of_lost (lost : ∀ deployment, ¬ Finds client trigger deployment) {failure : Failure} :
    Stranded client now trigger failure ↔
      trigger.metadata.namespaceName = none ∧
        failure = .missingNamespace ClusterDeployment.kind trigger.name := by
  constructor
  · intro stranded
    cases stranded with
    | trigger nowhere => exact ⟨nowhere, rfl⟩
    | deployment finds owned nowhere => exact absurd finds (lost _)
    | site finds differs nowhere => exact absurd finds.first (lost _)
  · rintro ⟨nowhere, rfl⟩
    exact .trigger nowhere

theorem exists_plans_site_iff :
    (∃ call, Plans client now trigger 1 call) ↔
      ∃ deployment, Finds client trigger deployment ∧ deployment.isOwned = true ∧
        deployment.metadata.namespaceName.isSome = true := by
  constructor
  · rintro ⟨call, planned⟩
    cases planned with
    | site finds first lies =>
      have owned := ClusterDeployment.owner?_eq_some_iff.mpr first
      exact ⟨_, finds, by rw [ClusterDeployment.isOwned, owned]; rfl, by rw [lies]; rfl⟩
  · rintro ⟨deployment, finds, owned, somewhere⟩
    obtain ⟨owner, owned⟩ := Option.isSome_iff_exists.mp owned
    obtain ⟨place, lies⟩ := Option.isSome_iff_exists.mp somewhere
    exact ⟨_, .site finds (ClusterDeployment.owner?_eq_some_iff.mp owned) lies⟩

theorem exists_plans_patch_iff :
    (∃ call, Plans client now trigger 2 call) ↔
      ∃ deployment site, FindsSite client trigger deployment site ∧
        project deployment site.currentStatus now.truncate ≠ site.currentStatus ∧
        site.metadata.namespaceName.isSome = true := by
  constructor
  · rintro ⟨call, planned⟩
    cases planned with
    | patch finds differs lives =>
      refine ⟨_, _, finds, fun same => ?_, by rw [lives]; rfl⟩
      rw [same, ClusterInstanceStatus.patchTo_self] at differs
      cases differs
  · rintro ⟨deployment, site, finds, differs, somewhere⟩
    obtain ⟨home, lives⟩ := Option.isSome_iff_exists.mp somewhere
    exact ⟨_, .patch finds (ClusterInstanceStatus.patchTo_of_ne differs.symm) lives⟩

/-- Where no instance is found there is nothing to patch. -/
theorem Finds.not_plans_of_siteless (finds : Finds client trigger deployment)
    (siteless : ∀ site, ¬ FindsSite client trigger deployment site) (place : Nat) (call : Call) :
    ¬ Plans client now trigger (place + 2) call := by
  intro planned
  cases planned with
  | patch again differs lives =>
    obtain rfl := finds.unique again.first
    exact siteless _ again

/-- The last stage of a pass, where both ways of having nothing to send are told apart. -/
theorem FindsSite.obeys_write (finds : FindsSite client trigger deployment site) :
    Obeys client (fun place => Plans client now trigger (place + 2)) (Stranded client now trigger)
      (((write site site.currentStatus (project deployment site.currentStatus now.truncate)).andThen fun _ =>
        .done (.ok .awaitChange)).trace client now) := by
  by_cases same : project deployment site.currentStatus now.truncate = site.currentStatus
  · have current := ClusterInstanceStatus.patchTo_self site.currentStatus
    simp only [write, same, current]
    refine obeys_report (obeys_waiting (fun place call planned => ?_) (by simp [finds.stranded_iff, same]))
    cases place with
    | zero =>
      obtain ⟨home, difference, lives, differs, rfl⟩ := finds.plans_iff.mp planned
      rw [same, current] at differs
      cases differs
    | succ place => exact not_plans_after place call planned
  · have differs := ClusterInstanceStatus.patchTo_of_ne (Ne.symm same)
    cases lives : site.metadata.namespaceName with
    | none =>
      simp only [write, differs, lives]
      refine obeys_stranded (fun place call planned => ?_) (by simp [finds.stranded_iff, same, lives])
      cases place with
      | zero =>
        obtain ⟨home, _, somewhere, _⟩ := finds.plans_iff.mp planned
        cases lives.symm.trans somewhere
      | succ place => exact not_plans_after place call planned
    | some home =>
      have unstranded : ∀ failure, ¬ Stranded client now trigger failure :=
        fun failure stranded => nomatch lives.symm.trans (finds.stranded_iff.mp stranded).2.1
      simp only [write, differs, lives]
      refine obeys_call (fun call => ?_) (fun failure _ => ⟨rfl, not_plans_after, unstranded⟩) fun _ _ => ?_
      · simp [finds.plans_iff, differs, lives]
      · exact obeys_report (obeys_waiting not_plans_after unstranded)

theorem FindsSite.obeys_align (finds : FindsSite client trigger deployment site) (ns : String) :
    Obeys client (fun place => Plans client now trigger (place + 2)) (Stranded client now trigger)
      ((align ns deployment site).trace client now) :=
  obeys_reportAll finds.obeys_write

theorem Finds.obeys_resolve (finds : Finds client trigger deployment)
    {next : Option ClusterInstance → Pass (Except Failure Action)} (without : next none = .done (.ok .awaitChange))
    (within : ∀ site, FindsSite client trigger deployment site →
      Obeys client (fun place => Plans client now trigger (place + 2)) (Stranded client now trigger)
        ((next (some site)).trace client now)) :
    Obeys client (fun place => Plans client now trigger (place + 1)) (Stranded client now trigger)
      (((resolve deployment).andThen next).trace client now) := by
  cases owned : deployment.owner? with
  | none =>
    -- Without an owner no namespace is needed, be there one or not.
    have free : ∀ owner, ¬ deployment.FirstOwner owner := fun owner first =>
      nomatch owned.symm.trans (ClusterDeployment.owner?_eq_some_iff.mpr first)
    have siteless : ∀ site, ¬ FindsSite client trigger deployment site :=
      fun site both => both.second.elim fun owner ⟨_, first, _⟩ => free owner first
    have unstranded : ∀ failure, ¬ Stranded client now trigger failure := by
      simp [finds.stranded_iff, siteless, ClusterDeployment.isOwned, owned]
    simp only [resolve, owned, andThen, bind, without]
    refine obeys_report (obeys_waiting (fun place call planned => ?_) unstranded)
    cases place with
    | zero => exact (finds.plans_iff.mp planned).elim fun owner ⟨_, first, _⟩ => free owner first
    | succ place => exact finds.not_plans_of_siteless siteless place call planned
  | some owner =>
    have first := ClusterDeployment.owner?_eq_some_iff.mp owned
    cases lies : deployment.metadata.namespaceName with
    | none =>
      have siteless : ∀ site, ¬ FindsSite client trigger deployment site := fun site both => both.lies lies
      simp only [resolve, owned, lies, andThen, bind]
      refine obeys_stranded (fun place call planned => ?_)
        (by simp [finds.stranded_iff, siteless, ClusterDeployment.isOwned, owned, lies])
      cases place with
      | zero =>
        obtain ⟨_, place, _, somewhere, _⟩ := finds.plans_iff.mp planned
        cases lies.symm.trans somewhere
      | succ place => exact finds.not_plans_of_siteless siteless place call planned
    | some home =>
      have lost : (∀ site, ¬ FindsSite client trigger deployment site) →
          (∀ place call, ¬ Plans client now trigger (place + 2) call) ∧
            ∀ failure, ¬ Stranded client now trigger failure :=
        fun siteless => ⟨finds.not_plans_of_siteless siteless, by simp [finds.stranded_iff, siteless, lies]⟩
      simp only [resolve, owned, lies]
      refine obeys_call (fun call => ?_) (fun failure answered => ⟨rfl, lost ?_⟩) fun answer answered => ?_
      · simp [finds.plans_iff, ← ClusterDeployment.owner?_eq_some_iff, owned, lies]
      · simp [finds.site_iff first lies, answered]
      · cases answer with
        | none =>
          have empty := lost fun site both =>
            nomatch answered.symm.trans ((finds.site_iff first lies).mp both)
          show Obeys _ _ _ ((Pass.report _ (next none)).trace client now)
          rw [without]
          exact obeys_report (obeys_waiting empty.1 empty.2)
        | some site => exact within site ((finds.site_iff first lies).mpr answered)

/-- A pass obeys its plan from the first call on. -/
theorem obeys_ofTrigger (client : Client) (now : Timestamp) (trigger : ClusterDeployment) :
    Obeys client (Plans client now trigger) (Stranded client now trigger)
      ((ofTrigger trigger).trace client now) := by
  cases placed : trigger.metadata.namespaceName with
  | none =>
    have lost : ∀ deployment, ¬ Finds client trigger deployment := fun _ finds => finds.placed placed
    simp only [ofTrigger, placed]
    refine obeys_stranded (fun place call planned => ?_) (by simp [stranded_iff_of_lost lost, placed])
    cases place with
    | zero =>
      cases planned with
      | deployment somewhere => cases placed.symm.trans somewhere
    | succ place => exact not_plans_of_lost lost place call planned
  | some ns =>
    have found_iff : ∀ deployment, Finds client trigger deployment ↔
        client (.getDeployment trigger.name ns) = .ok (some deployment) := by
      simp [Finds, placed]
    have unstranded : (∀ deployment, ¬ Finds client trigger deployment) →
        ∀ failure, ¬ Stranded client now trigger failure :=
      fun lost failure => by simp [stranded_iff_of_lost lost, placed]
    simp only [ofTrigger, placed, body]
    refine obeys_report (obeys_call (fun call => ?_) (fun failure answered => ?_) fun answer answered => ?_)
    · constructor
      · intro planned
        cases planned with
        | deployment again =>
          cases placed.symm.trans again
          rfl
      · rintro rfl
        exact .deployment placed
    · have lost : ∀ deployment, ¬ Finds client trigger deployment :=
        fun deployment finds => nomatch answered.symm.trans ((found_iff deployment).mp finds)
      exact ⟨rfl, not_plans_of_lost lost, unstranded lost⟩
    · cases answer with
      | none =>
        have lost : ∀ deployment, ¬ Finds client trigger deployment :=
          fun deployment finds => nomatch answered.symm.trans ((found_iff deployment).mp finds)
        exact obeys_report (obeys_waiting (not_plans_of_lost lost) (unstranded lost))
      | some deployment =>
        exact ((found_iff deployment).mpr answered).obeys_resolve rfl fun site both => both.obeys_align ns

/-- Against any server, a pass makes the planned calls, each once, until one fails: the instance is looked up
exactly for a deployment that is owned and has a namespace, and the patch is sent exactly for a status that
changes, on an instance that has a namespace. The pass succeeds exactly when no call fails and no namespace
that it needs is missing, and it then waits for the next change; otherwise it fails with the one failure
there is. -/
theorem pass_protocol (client : Client) (now : Timestamp) (trigger : ClusterDeployment) :
    let pass := (ofTrigger trigger).trace client now
    (∀ place call, pass.calls[place]? = some call ↔ Plans client now trigger place call) ∧
      ((∃ call, pass.calls[1]? = some call) ↔
        ∃ deployment, Finds client trigger deployment ∧ deployment.isOwned = true ∧
          deployment.metadata.namespaceName.isSome = true) ∧
      ((∃ call, pass.calls[2]? = some call) ↔
        ∃ deployment site, FindsSite client trigger deployment site ∧
          project deployment site.currentStatus now.truncate ≠ site.currentStatus ∧
          site.metadata.namespaceName.isSome = true) ∧
      (pass.result = .ok .awaitChange ↔
        (∀ call ∈ pass.calls, ∃ answer, client call = .ok answer) ∧
          ∀ failure, ¬ Stranded client now trigger failure) ∧
      (∀ failure, pass.result = .error failure ↔
        (∃ call ∈ pass.calls, client call = .error failure) ∨ Stranded client now trigger failure) ∧
      ∀ call ∈ pass.calls.dropLast, ∃ answer, client call = .ok answer := by
  intro pass
  have obeys : Obeys client _ _ pass := obeys_ofTrigger client now trigger
  refine ⟨obeys.calls, ?_, ?_, obeys.succeeds_iff, obeys.fails, obeys.stops⟩
  · simp only [obeys.calls, exists_plans_site_iff]
  · simp only [obeys.calls, exists_plans_patch_iff]

end Pass

end InstallStatus
