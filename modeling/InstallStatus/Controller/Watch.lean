import InstallStatus.Api.Store
import InstallStatus.Resource.Fingerprint

/-!
What the controller knows from watching, and which passes a change calls for. A deployment that an
instance owns calls for a pass of its own; an instance calls for a pass over the deployment it refers
to, if its fingerprint is not the one last seen, or if there is none. Deletions call for nothing.
-/

namespace InstallStatus.Controller

inductive Sighting
  | deployment (d : ClusterDeployment)
  | site (s : ClusterInstance)

namespace Sighting

def read? : Api.Resource → Json → Option Sighting
  | .deployments, object => (ClusterDeployment.decode object).toOption.map .deployment
  | .instances, object => (ClusterInstance.decode object).toOption.map .site

def metadata : Sighting → Metadata
  | .deployment d => d.metadata
  | .site s => s.metadata

/-- Whether the object has no name at all; the empty name is one. -/
def isNameless (sighting : Sighting) : Bool := sighting.metadata.name.isNone

def isVersioned (sighting : Sighting) : Bool :=
  sighting.metadata.resourceVersion.any fun version => version != ""

end Sighting

structure Watch where
  /-- By which fingerprints are taken. -/
  hash : List UInt8 → UInt64
  /-- The namespace that is watched; none for all. -/
  scope : Option String
  deployments : List (ObjectKey × ClusterDeployment)
  fingerprints : List (ObjectKey × UInt64)

structure Reaction where
  watch : Watch
  /-- The deployment to pass over, if there is one. -/
  wake : Option ObjectKey

namespace Watch

def start (hash : List UInt8 → UInt64) (scope : Option String) : Watch := ⟨hash, scope, [], []⟩

def deployment? (watch : Watch) (key : ObjectKey) : Option ClusterDeployment :=
  watch.deployments.lookup key

def fingerprint? (watch : Watch) (key : ObjectKey) : Option UInt64 :=
  watch.fingerprints.lookup key

def without {α : Type} (key : ObjectKey) (entries : List (ObjectKey × α)) : List (ObjectKey × α) :=
  entries.filter fun entry => entry.1 != key

def seesNamespace (watch : Watch) (namespaceName : String) : Bool :=
  match watch.scope with
  | some scope => scope == namespaceName
  | none => true

def deploymentApplied (watch : Watch) (key : ObjectKey) (deployment : ClusterDeployment) :
    Reaction where
  watch := { watch with deployments := (key, deployment) :: without key watch.deployments }
  wake := if deployment.isOwned then some key else none

def instanceApplied (watch : Watch) (key : ObjectKey) (site : ClusterInstance) : Reaction :=
  match site.fingerprint? watch.hash with
  | some print =>
    if watch.fingerprint? key = some print then ⟨watch, none⟩
    else
      { watch :=
          { watch with fingerprints := (key, print) :: without key watch.fingerprints }
        wake := site.deploymentKey? }
  | none => ⟨watch, site.deploymentKey?⟩

def applied (watch : Watch) (key : ObjectKey) : Sighting → Reaction
  | .deployment d => watch.deploymentApplied key d
  | .site s => watch.instanceApplied key s

/-- An object was deleted. The fingerprints of instances outlast them. -/
def deleted (watch : Watch) (key : ObjectKey) : Sighting → Watch
  | .deployment _ => { watch with deployments := without key watch.deployments }
  | .site _ => watch

/-- Forgets the objects of a resource before they are listed anew. Fingerprints are kept. -/
def forget (watch : Watch) : Api.Resource → Watch
  | .deployments => { watch with deployments := [] }
  | .instances => watch

end Watch

end InstallStatus.Controller
