import Mathlib
import InstallStatus.Proofs.OnePass

/-!
What of a deployment its instance shows: the name, whether the cluster is installed, and what the first
condition of each of the four types says, its times apart. Two deployments that agree in these are
projected alike onto every status, so nothing else that is known of a deployment gets into a status.
-/

namespace InstallStatus

namespace ClusterDeployment

/-- What a deployment says about a type: the status, the reason and the message of the first condition of
it, if there is one. -/
def report? (deployment : ClusterDeployment) (type : InstallType) : Option (Status × String × String) :=
  (deployment.firstReported? type.text).map fun c => (c.status, c.reason, c.message)

/-- Two deployments that say the same as far as an instance shows it. -/
structure Alike (a b : ClusterDeployment) : Prop where
  name : a.name = b.name
  installed : a.spec.installed = b.spec.installed
  report : ∀ type, a.report? type = b.report? type

/-- What a deployment says about a type, as a condition without times. -/
def said? (deployment : ClusterDeployment) (type : InstallType) : Option DeploymentCondition :=
  (deployment.report? type).map fun (status, reason, message) =>
    .unstamped type.text status reason message

/-- The deployment of which nothing is left but what an instance shows. -/
def pared (deployment : ClusterDeployment) : ClusterDeployment :=
  ⟨⟨some deployment.name, none, none, none, none, none, none, none, none, none, none, none, none, none, none⟩,
    ⟨none, deployment.spec.installed⟩, some ⟨InstallType.all.filterMap deployment.said?⟩⟩

theorem type_said? {deployment : ClusterDeployment} {type : InstallType} {c : DeploymentCondition}
    (said : deployment.said? type = some c) : c.type = type.text := by
  obtain ⟨_, _, rfl⟩ := Option.map_eq_some_iff.mp said
  rfl

/-- Among the conditions said of these types, the first of one of them is the one said of it. -/
theorem find?_said? (deployment : ClusterDeployment) {list : List InstallType} {type : InstallType}
    (member : type ∈ list) :
    (list.filterMap deployment.said?).find? (fun c => c.type == type.text) = deployment.said? type := by
  induction list with
  | nil => cases member
  | cons first rest ih =>
    by_cases here : type = first
    · subst here
      cases said : deployment.said? type with
      | none =>
        rw [List.filterMap_cons_none said, List.find?_eq_none]
        intro c inRest ofType
        obtain ⟨other, _, saidOther⟩ := List.mem_filterMap.mp inRest
        have same := (type_said? saidOther).symm.trans (eq_of_beq ofType)
        rw [InstallType.text_injective same, said] at saidOther
        cases saidOther
      | some c =>
        rw [List.filterMap_cons_some said]
        exact List.find?_cons_of_pos (beq_iff_eq.mpr (type_said? said))
    · have later := ih ((List.mem_cons.mp member).resolve_left here)
      cases said : deployment.said? first with
      | none => rw [List.filterMap_cons_none said, later]
      | some c =>
        have other : ¬ (c.type == type.text) = true := fun ofType =>
          here (InstallType.text_injective ((type_said? said).symm.trans (eq_of_beq ofType))).symm
        rw [List.filterMap_cons_some said, ← later]
        exact List.find?_cons_of_neg other

/-- The deployment with all of its other data left out is one of those that count as alike. -/
theorem alike_pared (deployment : ClusterDeployment) : deployment.Alike deployment.pared where
  name := rfl
  installed := rfl
  report type := by
    have listed : deployment.pared.firstReported? type.text = deployment.said? type :=
      deployment.find?_said? (InstallType.mem_all type)
    rw [report?, report?, listed, said?, report?]
    cases deployment.firstReported? type.text with
    | none => rfl
    | some c => rfl

namespace Alike

variable {a b : ClusterDeployment}

theorem reportedStatus? (alike : a.Alike b) (type : InstallType) :
    a.reportedStatus? type = b.reportedStatus? type := by
  have statuses := congrArg (Option.map Prod.fst) (alike.report type)
  rwa [report?, report?, Option.map_map, Option.map_map] at statuses

theorem matched? (alike : a.Alike b) : Provisioned.matched? a = Provisioned.matched? b := by
  unfold Provisioned.matched?
  simp only [alike.reportedStatus?, alike.installed]

/-- The conditions that stand for a type are the same but for their times. -/
theorem reportedAs (alike : a.Alike b) (type : InstallType) :
    (a.reportedAs type.text).status = (b.reportedAs type.text).status ∧
      ∀ now changed,
        (a.reportedAs type.text).copied now changed = (b.reportedAs type.text).copied now changed := by
  have report := alike.report type
  unfold report? at report
  unfold ClusterDeployment.reportedAs
  cases first : a.firstReported? type.text with
  | none =>
    rw [first, Option.map_none, eq_comm, Option.map_eq_none_iff] at report
    rw [report]
    exact ⟨rfl, fun _ _ => rfl⟩
  | some c =>
    rw [first, Option.map_some, eq_comm, Option.map_eq_some_iff] at report
    obtain ⟨d, second, same⟩ := report
    have sameType := (type_firstReported? first).trans (type_firstReported? second).symm
    obtain ⟨ofType, status, reason, message, _, _⟩ := c
    cases same
    cases sameType
    rw [second]
    exact ⟨rfl, fun _ _ => rfl⟩

theorem begun (alike : a.Alike b) (now : Timestamp) :
    InstallProgress.begun a now = InstallProgress.begun b now :=
  funext fun type => (alike.reportedAs type).2 now now

theorem renewed (alike : a.Alike b) (now : Timestamp) {c : DeploymentCondition}
    (copied : c.type ∈ InstallType.texts) :
    InstallProgress.renewed a now c = InstallProgress.renewed b now c := by
  obtain ⟨type, _, ofType⟩ := List.mem_map.mp copied
  obtain ⟨status, same⟩ := alike.reportedAs type
  rw [ofType] at status same
  rw [InstallProgress.renewed, InstallProgress.renewed, status, same]

end Alike

end ClusterDeployment

/-- A pass writes the same for a deployment as for the one that is left when the order of the reported
conditions, the later ones of a type, those of other types, all reported times and the rest of the
specification and the metadata are taken away; and the same as for any other that agrees with it in
what is left. -/
theorem project_of_alike (deployment : ClusterDeployment) (found : ClusterInstanceStatus) (now : Timestamp) :
    project deployment.pared found now = project deployment found now ∧
    ∀ other : ClusterDeployment, deployment.Alike other →
      project other found now = project deployment found now := by
  have same : ∀ other : ClusterDeployment, deployment.Alike other →
      project other found now = project deployment found now := by
    intro other alike
    have reference : (project other found now).clusterDeploymentRef =
        (project deployment found now).clusterDeploymentRef := by
      rw [project_clusterDeploymentRef, project_clusterDeploymentRef, Projection.reference,
        Projection.reference, alike.name]
    have general : (project other found now).conditions = (project deployment found now).conditions := by
      rw [conditions_project, conditions_project, alike.matched?]
    have copied : (project other found now).deploymentConditions =
        (project deployment found now).deploymentConditions := by
      rw [deploymentConditions_project, deploymentConditions_project, alike.begun now]
      refine congrArg (· ++ _) (List.map_congr_left fun c _ => ?_)
      split
      · rename_i here
        exact (alike.renewed now here).symm
      · rfl
    calc project other found now
        = ⟨(project other found now).clusterDeploymentRef, (project other found now).deploymentConditions,
            (project other found now).conditions⟩ := rfl
      _ = project deployment found now := by rw [reference, general, copied]
  exact ⟨same _ deployment.alike_pared, same⟩

/-- Other names for the same cluster, and a list in another order, with times, with a second condition of
one type and with one of a type that is never copied. -/
theorem project_of_alike_disguised :
    let time : Timestamp := ⟨⟨2024, 5, 1, by decide, by decide, by decide⟩, 10, 0, 0, 0, by decide,
      by decide, by decide, by decide⟩
    let stopped : DeploymentCondition := .unstamped "ClusterInstallStopped" .holds "Stopped" "over"
    let failed : DeploymentCondition := .unstamped "ClusterInstallFailed" .fails "" ""
    let plain : ClusterDeployment :=
      ⟨⟨some "east", none, none, none, none, none, none, none, none, none, none, none, none, none, none⟩,
        ⟨none, true⟩, some ⟨[stopped, failed]⟩⟩
    let disguised : ClusterDeployment :=
      ⟨⟨none, some "lab", some "east", some 7, none, none, none, none, none, none, none, none, none, none,
          none⟩, ⟨some "east", true⟩,
        some ⟨[failed.copied time time, .unstamped "Hibernating" .holds "" "", stopped.copied time time,
          .unstamped "ClusterInstallStopped" .fails "" ""]⟩⟩
    plain.Alike disguised ∧ plain.reported ≠ disguised.reported ∧
      project disguised .empty time = project plain .empty time := by
  intro time stopped failed plain disguised
  have alike : plain.Alike disguised := by
    refine ⟨rfl, rfl, fun type => ?_⟩
    cases type <;> decide +kernel
  exact ⟨alike, by decide +kernel, (project_of_alike plain .empty time).2 disguised alike⟩

end InstallStatus
