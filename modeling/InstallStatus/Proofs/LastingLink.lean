import Mathlib
import InstallStatus.Proofs.ForeignWrites
import InstallStatus.Proofs.History

/-!
The link from an instance back to a deployment, over any number of passes by any deployments. It is made
once, by the first pass that finds none, and stays as it is; so a deployment that found its instance by its
owner reference, and no link there, is the one that the instance leads back to ever after.
-/

namespace InstallStatus

section Project

variable {deployment : ClusterDeployment} (status : ClusterInstanceStatus) (now : Timestamp)

/-- A pass leaves the link that it finds, and makes one to its own deployment where it finds none. -/
theorem deploymentName?_project (named : deployment.name ≠ "") :
    (project deployment status now).deploymentName? = some (status.deploymentName?.getD deployment.name) := by
  cases known : status.deploymentName? with
  | some name => exact Quiescence.deploymentName?_project_of_some known now
  | none =>
    unfold ClusterInstanceStatus.deploymentName? at known
    have made : (project deployment status now).clusterDeploymentRef = some ⟨deployment.name⟩ := by
      rw [project_clusterDeploymentRef, Projection.reference]
      simp only [known]
    exact ClusterInstanceStatus.deploymentName?_eq_some.mpr ⟨made, named⟩

end Project

namespace Pass

/-- A client that finds instances only in the namespace that it was asked about. -/
def KeepsToNamespaces (client : Client) : Prop :=
  ∀ owner namespaceName site, client (.getInstance owner namespaceName) = .ok (some site) →
    site.metadata.namespaceName = some namespaceName

/-- A deployment finds its instance by its owner reference, in its own namespace. -/
theorem owned_of_resolve {client : Client} {now : Timestamp} {deployment : ClusterDeployment}
    {site : ClusterInstance} (resolved : ((resolve deployment).trace client now).result = .ok (some site)) :
    ∃ owner namespaceName, deployment.owner? = some owner ∧
      deployment.metadata.namespaceName = some namespaceName ∧
      client (.getInstance owner namespaceName) = .ok (some site) := by
  unfold resolve at resolved
  cases owned : deployment.owner? with
  | none =>
    simp only [owned, trace] at resolved
    cases resolved
  | some owner =>
    cases lies : deployment.metadata.namespaceName with
    | none =>
      simp only [owned, lies, trace] at resolved
      cases resolved
    | some namespaceName =>
      refine ⟨owner, namespaceName, rfl, rfl, ?_⟩
      simp only [owned, lies, ask, andThen, bind, trace] at resolved
      -- any other answer to the call leaves the pass without an instance
      rcases answered : client (.getInstance owner namespaceName) with failure | _ | found
      all_goals
        rw [answered] at resolved
        cases resolved
      rfl

end Pass

namespace History

/-- The name that the status refers to at first, unless there is none or it is empty; else the name of the
deployment that the first pass is over. -/
def recorded (h : History) : String := h.start.deploymentName?.getD (h.deployment 0).name

variable (h : History)

/-- The first pass settles the name and none of the later ones changes it. -/
theorem deploymentName?_status (named : (h.deployment 0).name ≠ "") (n : Nat) :
    (h.status (n + 1)).deploymentName? = some h.recorded := by
  induction n with
  | zero => exact deploymentName?_project h.start (h.time 0) named
  | succ n ih => exact Quiescence.deploymentName?_project_of_some ih (h.time (n + 1))

theorem deploymentKey?_after (named : (h.deployment 0).name ≠ "") {n : Nat} {site : ClusterInstance}
    (status : site.status = some (h.status (n + 1))) {namespaceName : String}
    (lies : site.metadata.namespaceName = some namespaceName) :
    site.deploymentKey? = some ⟨namespaceName, h.recorded⟩ := by
  have current : site.currentStatus = h.status (n + 1) := by
    rw [ClusterInstance.currentStatus, status, Option.getD_some]
  refine (ClusterInstance.deploymentKey?_eq_some lies).mpr ?_
  rw [current, h.deploymentName?_status named]

/-- From the first pass on, the status refers to one deployment, the one that it referred to at first or
else that of the first pass, and the instance leads back to that in its own namespace. So where it referred
to none, and the deployment of the first pass found it by its owner reference, it leads back to that one. -/
theorem link_after (named : (h.deployment 0).name ≠ "") :
    (∀ n, (h.status (n + 1)).clusterDeploymentRef = some ⟨h.recorded⟩) ∧
    (∀ (n : Nat) (site : ClusterInstance) (namespaceName : String),
      site.status = some (h.status (n + 1)) → site.metadata.namespaceName = some namespaceName →
      site.deploymentKey? = some ⟨namespaceName, h.recorded⟩) ∧
    ∀ (client : Pass.Client) (now : Timestamp) (found : ClusterInstance), Pass.KeepsToNamespaces client →
      found.currentStatus = h.start → found.currentStatus.deploymentName? = none →
      ((Pass.resolve (h.deployment 0)).trace client now).result = .ok (some found) →
      ∃ target, (h.deployment 0).objectKey? = some target ∧
        ∀ (n : Nat) (site : ClusterInstance), site.status = some (h.status (n + 1)) →
          site.metadata.namespaceName = found.metadata.namespaceName → site.deploymentKey? = some target := by
  refine ⟨fun n => ?_, fun n site namespaceName status lies => h.deploymentKey?_after named status lies,
    fun client now found keeps start unlinked resolved => ?_⟩
  · exact (ClusterInstanceStatus.deploymentName?_eq_some.mp (h.deploymentName?_status named n)).1
  · obtain ⟨owner, namespaceName, _, lies, answered⟩ := Pass.owned_of_resolve resolved
    have together := keeps owner namespaceName found answered
    have first : h.recorded = (h.deployment 0).name := by
      rw [recorded, ← start, unlinked, Option.getD_none]
    refine ⟨⟨namespaceName, (h.deployment 0).name⟩, ?_, fun n site status same => ?_⟩
    · rw [ClusterDeployment.objectKey?, lies, Option.map_some]
    · rw [h.deploymentKey?_after named status (same.trans together), first]

/-- A deployment that an instance owns. -/
def sampleOwned : ClusterDeployment :=
  ⟨⟨some "east", some "lab", none, none, none, none, none, none, none,
      some [⟨"", "ClusterInstance", "site", "", none, none⟩], none, none, none, none, none⟩, ⟨none, false⟩, none⟩

/-- The instance that a client finds under this name. It has no status. -/
def sampleFound (namespaceName : String) : ClusterInstance :=
  ⟨⟨some "site", some namespaceName, none, some 1, none, none, none, none, none, none, none, none, none, none, none⟩,
    ⟨"", none, none⟩, none⟩

def sampleClient : Pass.Client
  | .getDeployment _ _ => .ok none
  | .getInstance _ namespaceName => .ok (some (sampleFound namespaceName))
  | .patchStatus _ _ _ => .ok ()

/-- The first pass is over the deployment that the instance owns, the later ones are over another one. -/
def sampleLinked : History where
  start := .empty
  deployment n :=
    if n = 0 then sampleOwned
    else { sampleOwned with metadata := { sampleOwned.metadata with name := some "west" } }
  time := sample.time

theorem link_after_sample :
    (sampleLinked.deployment 0).name ≠ "" ∧ Pass.KeepsToNamespaces sampleClient ∧
      (sampleFound "lab").currentStatus = sampleLinked.start ∧
      ((Pass.resolve sampleOwned).trace sampleClient Api.sampleTime).result = .ok (some (sampleFound "lab")) ∧
      { sampleFound "lab" with status := some (sampleLinked.status 3) }.deploymentKey? = some ⟨"lab", "east"⟩ := by
  have named : (sampleLinked.deployment 0).name ≠ "" := by decide
  have keeps : Pass.KeepsToNamespaces sampleClient := by
    intro owner namespaceName site answered
    obtain rfl := Option.some.inj (Except.ok.inj answered)
    rfl
  obtain ⟨_, _, leads⟩ := sampleLinked.link_after named
  obtain ⟨target, first, later⟩ := leads sampleClient Api.sampleTime (sampleFound "lab") keeps rfl rfl rfl
  obtain rfl := Option.some.inj first
  exact ⟨named, keeps, rfl, rfl, later 2 _ rfl rfl⟩

end History

end InstallStatus
