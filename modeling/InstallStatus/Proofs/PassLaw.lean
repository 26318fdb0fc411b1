import Mathlib
import InstallStatus.Pass

/-!
What a pass does, told from what it has been answered. Each of its calls and its success follow from
the answers before them in one way only; whoever runs a pass, in whatever order with others, can rely
on that.
-/

namespace InstallStatus

/-- What a pass learns on its way. -/
inductive Observation
  | told (call : Call) (answer : Except Failure call.Result)
  | clock (time : Timestamp)

namespace Pass

/-- The place that a trigger leads to and, from the deployment found there, the place of its owner. -/
structure Leads (trigger : ClusterDeployment) (ns : String) (deployment : ClusterDeployment)
    (owner place : String) : Prop where
  placed : trigger.metadata.namespaceName = some ns
  owned : deployment.owner? = some owner
  lies : deployment.metadata.namespaceName = some place

/-- The calls of a pass, each after what it has learnt before. -/
inductive Asks (trigger : ClusterDeployment) : List Observation → Call → Prop
  | deployment {ns : String} (placed : trigger.metadata.namespaceName = some ns) :
    Asks trigger [] (.getDeployment trigger.name ns)
  | site {ns owner place : String} {deployment : ClusterDeployment}
    (leads : Leads trigger ns deployment owner place) :
    Asks trigger [.told (.getDeployment trigger.name ns) (.ok (some deployment))]
      (.getInstance owner place)
  | patch {ns owner place home : String} {deployment : ClusterDeployment} {site : ClusterInstance}
    {time : Timestamp} {difference : Json} (leads : Leads trigger ns deployment owner place)
    (differs : site.currentStatus.patchTo (project deployment site.currentStatus time.truncate) =
      .ok (some difference))
    (lives : site.metadata.namespaceName = some home) :
    Asks trigger
      [.told (.getDeployment trigger.name ns) (.ok (some deployment)),
        .told (.getInstance owner place) (.ok (some site)), .clock time]
      (.patchStatus site.name home (patchBody site difference))

/-- The ends of a pass, each after what it has learnt. -/
inductive Ends (trigger : ClusterDeployment) : List Observation → Except Failure Action → Prop
  | failed (seen : List Observation) (failure : Failure) : Ends trigger seen (.error failure)
  | withoutDeployment {ns : String} (placed : trigger.metadata.namespaceName = some ns) :
    Ends trigger [.told (.getDeployment trigger.name ns) (.ok none)] (.ok .awaitChange)
  | withoutOwner {ns : String} {deployment : ClusterDeployment}
    (placed : trigger.metadata.namespaceName = some ns) (free : deployment.owner? = none) :
    Ends trigger [.told (.getDeployment trigger.name ns) (.ok (some deployment))] (.ok .awaitChange)
  | withoutSite {ns owner place : String} {deployment : ClusterDeployment}
    (leads : Leads trigger ns deployment owner place) :
    Ends trigger
      [.told (.getDeployment trigger.name ns) (.ok (some deployment)),
        .told (.getInstance owner place) (.ok none)] (.ok .awaitChange)
  | current {ns owner place : String} {deployment : ClusterDeployment} {site : ClusterInstance}
    {time : Timestamp} (leads : Leads trigger ns deployment owner place)
    (same : site.currentStatus.patchTo (project deployment site.currentStatus time.truncate) = .ok none) :
    Ends trigger
      [.told (.getDeployment trigger.name ns) (.ok (some deployment)),
        .told (.getInstance owner place) (.ok (some site)), .clock time] (.ok .awaitChange)
  | written {seen : List Observation} {name home : String} {body : Json}
    (asked : Asks trigger seen (.patchStatus name home body)) :
    Ends trigger (seen ++ [.told (.patchStatus name home body) (.ok ())]) (.ok .awaitChange)

/-- Where a deployment has an owner and a place, the instance is asked for, and nothing else is done
before. -/
theorem resolve_of_leads {trigger deployment : ClusterDeployment} {ns owner place : String}
    (leads : Leads trigger ns deployment owner place) :
    resolve deployment = (ask (.getInstance owner place)).andThen fun
      | some site => .done (.ok (some site))
      | none => .report (.instanceMissing owner place) (.done (.ok none)) := by
  unfold resolve
  split
  · rename_i free
    cases free.symm.trans leads.owned
  · rename_i named owned
    cases owned.symm.trans leads.owned
    split
    · rename_i nowhere
      cases nowhere.symm.trans leads.lies
    · rename_i somewhere lies
      cases lies.symm.trans leads.lies
      rfl

/-- Where there is something to write, the patch is sent first, and what follows is told so. -/
theorem write_andThen_of_differs {α : Type} {site : ClusterInstance} {found wanted : ClusterInstanceStatus}
    {difference : Json} {home : String} (differs : found.patchTo wanted = .ok (some difference))
    (lives : site.metadata.namespaceName = some home) (next : Bool → Pass (Except Failure α)) :
    (write site found wanted).andThen next =
      (ask (.patchStatus site.name home (patchBody site difference))).andThen fun _ =>
        .report (.statusUpdated site.name home) (next true) := by
  simp only [write, differs, lives, ask, andThen, bind]
  refine congrArg (Pass.call _) (funext fun answer => ?_)
  cases answer with
  | error failure => rfl
  | ok _ => rfl

theorem Asks.of_getInstance {trigger : ClusterDeployment} {seen : List Observation} {owner place : String}
    (asks : Asks trigger seen (.getInstance owner place)) :
    ∃ ns deployment, seen = [.told (.getDeployment trigger.name ns) (.ok (some deployment))] ∧
      Leads trigger ns deployment owner place := by
  cases asks with
  | site leads => exact ⟨_, _, rfl, leads⟩

/-- All that a pass has learnt when it sends a patch, in the order in which it did. -/
theorem Asks.of_patchStatus {trigger : ClusterDeployment} {seen : List Observation}
    {name home : String} {body : Json} (asks : Asks trigger seen (.patchStatus name home body)) :
    ∃ ns owner place deployment site time difference,
      seen = [.told (.getDeployment trigger.name ns) (.ok (some deployment)),
        .told (.getInstance owner place) (.ok (some site)), .clock time] ∧
      Leads trigger ns deployment owner place ∧
      site.currentStatus.patchTo (project deployment site.currentStatus time.truncate) =
        .ok (some difference) ∧
      name = site.name ∧ site.metadata.namespaceName = some home ∧ body = patchBody site difference := by
  cases asks with
  | patch leads differs lives => exact ⟨_, _, _, _, _, _, _, rfl, leads, differs, rfl, lives, rfl⟩

/-- A pass that has its patch behind it makes no more calls. -/
theorem Asks.length_le {trigger : ClusterDeployment} {seen : List Observation} {call : Call}
    (asks : Asks trigger seen call) : seen.length ≤ 3 := by
  cases asks with
  | deployment placed => exact Nat.zero_le _
  | site leads => exact Nat.le_of_ble_eq_true rfl
  | patch leads differs lives => exact Nat.le_refl _

/-- A pass with this much learnt, which asks and ends as it should whatever it is told from here on. -/
def Keeps (trigger : ClusterDeployment) : List Observation → Pass (Except Failure Action) → Prop
  | seen, .done result => Ends trigger seen result
  | seen, .report _ next => Keeps trigger seen next
  | seen, .clock next => ∀ time, Keeps trigger (seen ++ [.clock time]) (next time)
  | seen, .call request next =>
    Asks trigger seen request ∧ ∀ answer, Keeps trigger (seen ++ [.told request answer]) (next answer)

variable {trigger : ClusterDeployment}

theorem keeps_reportAll {seen : List Observation} {events : List Event} {pass : Pass (Except Failure Action)}
    (keeps : Keeps trigger seen pass) : Keeps trigger seen (reportAll events pass) := by
  induction events with
  | nil => exact keeps
  | cons event rest ih => exact ih

theorem keeps_write {ns owner place : String} {deployment : ClusterDeployment} {site : ClusterInstance}
    {time : Timestamp} (leads : Leads trigger ns deployment owner place) :
    Keeps trigger
      [.told (.getDeployment trigger.name ns) (.ok (some deployment)),
        .told (.getInstance owner place) (.ok (some site)), .clock time]
      ((write site site.currentStatus (project deployment site.currentStatus time.truncate)).andThen fun _ =>
        .done (.ok .awaitChange)) := by
  unfold write
  split
  · exact .failed ..
  · rename_i same
    exact .current leads same
  · rename_i difference differs
    split
    · exact .failed ..
    · rename_i home lives
      have asks := Asks.patch leads differs lives
      refine ⟨asks, fun answer => ?_⟩
      cases answer with
      | error failure => exact .failed ..
      | ok _ => exact .written asks

/-- The pass of a trigger asks and ends as it should. -/
theorem keeps_ofTrigger (trigger : ClusterDeployment) : Keeps trigger [] (ofTrigger trigger) := by
  unfold ofTrigger
  split
  · exact .failed ..
  rename_i ns placed
  refine ⟨.deployment placed, fun answer => ?_⟩
  rcases answer with failure | _ | deployment
  · exact .failed ..
  · exact .withoutDeployment placed
  show Keeps trigger _ ((resolve deployment).andThen _)
  unfold resolve
  split
  · rename_i free
    exact .withoutOwner placed free
  rename_i owner owned
  split
  · exact .failed ..
  rename_i place lies
  have leads : Leads trigger ns deployment owner place := ⟨placed, owned, lies⟩
  refine ⟨.site leads, fun answer => ?_⟩
  rcases answer with failure | _ | site
  · exact .failed ..
  · exact .withoutSite leads
  · exact fun time => keeps_reportAll (keeps_write leads)

end Pass

end InstallStatus
