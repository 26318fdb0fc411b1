import Mathlib
import InstallStatus.Api.Answer
import InstallStatus.Proofs.PassLaw
import InstallStatus.Proofs.Reprojection
import InstallStatus.Proofs.StoredObjects

/-!
What a client may rely on when it deals with a server: what is found in a store after a write or a
deletion, and what an answer to a get says about the stored object.
-/

namespace InstallStatus.Api

namespace Store

theorem lookup_insertInto (id other : ObjectId) (object : Json) (objects : List (ObjectId × Json)) :
    (insertInto id object objects).lookup other =
      if other = id then some object else objects.lookup other := by
  induction objects with
  | nil =>
    by_cases here : other = id
    · simp only [insertInto, List.lookup, here, beq_self_eq_true, if_true]
    · simp only [insertInto, List.lookup, beq_false_of_ne here, here, if_false]
  | cons first rest ih =>
    obtain ⟨place, kept⟩ := first
    rw [insertInto]
    by_cases here : other = id
    · subst here
      split
      · simp only [List.lookup, beq_self_eq_true, if_true]
      · rename_i apart
        split
        · simp only [List.lookup, beq_self_eq_true, if_true]
        · simp only [List.lookup, beq_false_of_ne (Ne.symm apart), ih, if_true]
    · split
      · rename_i same
        subst same
        simp only [List.lookup, beq_false_of_ne here]
      · split
        · simp only [List.lookup, beq_false_of_ne here]
        · simp only [List.lookup, ih, here, if_false]

/-- The store with this object at this place. -/
def write (store : Store) (id : ObjectId) (object : Json) : Store :=
  ⟨insertInto id object store.objects⟩

theorem get?_write (store : Store) (id other : ObjectId) (object : Json) :
    (store.write id object).get? other = if other = id then some object else store.get? other :=
  lookup_insertInto id other object store.objects

theorem get?_delete (store : Store) (id other : ObjectId) :
    (store.delete id).1.get? other = if other = id then none else store.get? other := by
  obtain ⟨objects⟩ := store
  simp only [delete, get?]
  induction objects with
  | nil => simp only [List.filter_nil, List.lookup_nil, ite_self]
  | cons first rest ih =>
    obtain ⟨place, kept⟩ := first
    by_cases gone : place = id
    · subst gone
      rw [List.filter_cons_of_neg (by simp), ih]
      by_cases here : other = place
      · simp only [here, if_true]
      · simp only [here, if_false, List.lookup, beq_false_of_ne here]
    · rw [List.filter_cons_of_pos (by simpa using gone)]
      by_cases here : other = place
      · subst here
        simp only [List.lookup, beq_self_eq_true, gone, if_false]
      · simp only [List.lookup, beq_false_of_ne here, ih]

/-- A server takes a patch: the object is there, in the version that the patch names if it names one,
and is written with the patch laid over its status, under another version. -/
structure Takes (store : Store) (id : ObjectId) (body : Json) (object : Json) (version : String)
    (result : Store) : Prop where
  stored : store.get? id = some object
  matching : conflicts object body = false
  written : result = store.write id (patchedAs version object body)

/-- A request leaves the store as it is or is the patch of an object that the server takes. -/
theorem serve_takes (store : Store) (request : Request) :
    (store.serve request).1 = store ∨
      ∃ id body object, request.body = some body ∧
        Takes store id body object (nextVersion (versionOf object)) (store.serve request).1 := by
  unfold serve
  split
  · split
    · exact .inl rfl
    · exact .inl rfl
  · rename_i id body _ _ sent
    split
    · exact .inl rfl
    · rename_i object stored
      split
      · exact .inl rfl
      · rename_i agrees
        refine .inr ⟨id, body, object, sent, stored, by simpa using agrees, ?_⟩
        rw [write, ← patched_eq]
  · exact .inl rfl

end Store

namespace Answer

/-- An answer to a get that says of the stored object nothing but the truth. It may be an error, but it
is one for a missing object only if there is none. -/
structure Truthful (stored : Option Json) (answer : Answer) : Prop where
  held : answer.error? = none → ∃ document, stored = some document ∧ answer.document? = some document
  missing : ∀ error, answer.error? = some error → error.code = 404 → stored = none

variable {α : Type} {decode : Decoder α} {stored : Option Json} {answer : Answer}

/-- A truthful answer with an object is about one that is stored, and it is the document that was read. -/
theorem Truthful.found {a : α} (truthful : answer.Truthful stored)
    (found : answer.found decode = .ok (some a)) :
    ∃ document, stored = some document ∧ answer.document? = some document ∧ decode document = .ok a := by
  cases refused : answer.error? with
  | some error =>
    simp only [Answer.found, object, refused] at found
    split at found
    · cases found
    · cases found
  | none =>
    obtain ⟨document, kept, held⟩ := truthful.held refused
    refine ⟨document, kept, held, ?_⟩
    simp only [Answer.found, object, refused, decode?, held, Option.bind_some] at found
    cases decoded : decode document with
    | error fault =>
      rw [decoded] at found
      cases found
    | ok read =>
      rw [decoded] at found
      cases found
      rfl

theorem Truthful.absent (truthful : answer.Truthful stored) (found : answer.found decode = .ok none) :
    stored = none := by
  cases refused : answer.error? with
  | some error =>
    simp only [Answer.found, object, refused] at found
    split at found
    · rename_i code
      exact truthful.missing error refused code
    · cases found
  | none =>
    obtain ⟨document, kept, held⟩ := truthful.held refused
    simp only [Answer.found, object, refused, decode?, held, Option.bind_some] at found
    cases decoded : decode document with
    | error fault =>
      rw [decoded] at found
      cases found
    | ok read =>
      rw [decoded] at found
      cases found

end Answer

/-- A store all of whose instances the server answers for. -/
def Store.Held (store : Store) : Prop :=
  ∀ id document, id.resource = .instances → store.get? id = some document → Kept id document

/-- What is stored of instances stays in form if what is written is. -/
theorem Store.Held.write {store : Store} (held : store.Held) {id : ObjectId} {object : Json}
    (kept : id.resource = .instances → Kept id object) : (store.write id object).Held := by
  intro other document kind found
  rw [Store.get?_write] at found
  by_cases here : other = id
  · rw [if_pos here] at found
    cases found
    rw [here] at kind ⊢
    exact kept kind
  · rw [if_neg here] at found
    exact held other document kind found

/-- Answers that lead a pass of this trigger as far as to an instance, the deployment on the way. -/
structure Guides (store : Store) (trigger deployment : ClusterDeployment) (id : ObjectId)
    (site : ClusterInstance) (first second : Answer) : Prop where
  leads : ∃ ns, Pass.Leads trigger ns deployment id.name id.namespaceName ∧
    first.Truthful (store.get? ⟨.deployments, ns, trigger.name⟩)
  foundDeployment : first.found ClusterDeployment.decode = .ok (some deployment)
  tellsSite : second.Truthful (store.get? ⟨.instances, id.namespaceName, id.name⟩)
  foundSite : second.found ClusterInstance.decode = .ok (some site)

section Sample

/-- The place of a deployment. -/
def sampleDeploymentId : ObjectId := ⟨.deployments, "lab", "east"⟩

/-- The place of an instance. -/
def sampleSiteId : ObjectId := ⟨.instances, "lab", "site"⟩

/-- A deployment that the instance owns. -/
def sampleDeployment : Json := .object [
  ("kind", .string "ClusterDeployment"),
  ("metadata", .object [("name", .string "east"), ("namespace", .string "lab"),
    ("ownerReferences", .array [.object [("kind", .string "ClusterInstance"), ("name", .string "site")]]),
    ("resourceVersion", .string "3")]),
  ("spec", .object [])]

/-- The instance, with a condition that someone else has given it. -/
def sampleSite : Json := .object [
  ("kind", .string "ClusterInstance"),
  ("metadata", .object [("name", .string "site"), ("namespace", .string "lab"),
    ("resourceVersion", .string "4")]),
  ("spec", .object []),
  ("status", .object [("conditions", .array [.object [
    ("lastTransitionTime", .string "2024-05-01T10:00:00Z"), ("status", .string "True"),
    ("type", .string "Ready")]])])]

/-- A time at which the pass comes by. -/
def sampleTime : Timestamp :=
  ⟨⟨2024, 5, 1, by decide, by decide, by decide⟩, 12, 30, 15, 500, by decide, by decide, by decide, by decide⟩

def sampleStore : Store :=
  (Store.empty.write sampleDeploymentId sampleDeployment).write sampleSiteId sampleSite

/-- The answer that holds a document. -/
def Answer.holding (document : Json) : Answer := ⟨200, document.compact⟩

theorem Answer.truthful_holding {document : Json} (read : (holding document).document? = some document) :
    (holding document).Truthful (some document) :=
  ⟨fun _ => ⟨document, rfl, read⟩, fun _ refused => (nomatch refused)⟩

theorem Answer.found_holding {α : Type} {decode : Decoder α} {document : Json} {a : α}
    (read : (holding document).document? = some document) (decoded : decode document = .ok a) :
    (holding document).found decode = .ok (some a) := by
  have accepted : (holding document).error? = none := rfl
  simp only [found, object, accepted, decode?, read, Option.bind_some, decoded]
  rfl

theorem document?_sampleDeployment :
    (Answer.holding sampleDeployment).document? = some sampleDeployment := by
  decide +kernel

theorem document?_sampleSite : (Answer.holding sampleSite).document? = some sampleSite := by
  decide +kernel

theorem kept_sampleSite : Kept sampleSiteId sampleSite :=
  ⟨by decide, rfl, rfl, rfl, ⟨"4", rfl⟩, by decide, .inr ⟨_, rfl⟩⟩

theorem held_sampleStore : sampleStore.Held := by
  have nothing : Store.empty.Held := fun _ _ _ found => nomatch found
  have deployments : (Store.empty.write sampleDeploymentId sampleDeployment).Held :=
    nothing.write fun kind => nomatch kind
  exact deployments.write fun _ => kept_sampleSite

/-- A server may take any patch of a pass that has read the instance. -/
theorem takes_sampleSite {site : ClusterInstance} (decoded : ClusterInstance.decode sampleSite = .ok site)
    (difference : Json) :
    sampleStore.Takes ⟨.instances, "lab", site.name⟩ (Pass.patchBody site difference) sampleSite "5"
      (sampleStore.write ⟨.instances, "lab", site.name⟩
        (patchedAs "5" sampleSite (Pass.patchBody site difference))) := by
  have described := kept_sampleSite.describes decoded
  refine ⟨?_, (conflicts_patchBody described.version).mpr rfl, rfl⟩
  rw [described.name]
  rfl

/-- A pass over its deployment finds both objects and has something to patch. -/
theorem guides_sample : ∃ deployment site difference,
    ClusterDeployment.decode sampleDeployment = .ok deployment ∧ deployment.name = "east" ∧
    ClusterInstance.decode sampleSite = .ok site ∧
    (site.currentStatus.condition? "Ready").isSome = true ∧
    site.currentStatus.patchTo (project deployment site.currentStatus sampleTime.truncate) =
      .ok (some difference) ∧
    Guides sampleStore deployment deployment sampleSiteId site (.holding sampleDeployment)
      (.holding sampleSite) := by
  have truthful := Answer.truthful_holding document?_sampleDeployment
  have truthfulSite := Answer.truthful_holding document?_sampleSite
  obtain ⟨deployment, decoded, name, lies, owned⟩ : ∃ deployment,
      ClusterDeployment.decode sampleDeployment = .ok deployment ∧ deployment.name = "east" ∧
        deployment.metadata.namespaceName = some "lab" ∧ deployment.owner? = some "site" :=
    ⟨_, rfl, rfl, rfl, by decide⟩
  obtain ⟨site, decodedSite, unlinked, ready⟩ : ∃ site, ClusterInstance.decode sampleSite = .ok site ∧
      site.currentStatus.clusterDeploymentRef = none ∧
        (site.currentStatus.condition? "Ready").isSome = true :=
    ⟨_, rfl, rfl, rfl⟩
  have differ : site.currentStatus ≠ project deployment site.currentStatus sampleTime.truncate := by
    intro same
    have linked := congrArg ClusterInstanceStatus.clusterDeploymentRef same
    rw [project_clusterDeploymentRef, unlinked] at linked
    cases linked
  refine ⟨deployment, site, _, decoded, name, decodedSite, ready, ClusterInstanceStatus.patchTo_of_ne differ,
    ⟨"lab", ⟨lies, owned, lies⟩, ?_⟩, Answer.found_holding document?_sampleDeployment decoded, truthfulSite,
    Answer.found_holding document?_sampleSite decodedSite⟩
  rw [name]
  exact truthful

end Sample

end InstallStatus.Api
