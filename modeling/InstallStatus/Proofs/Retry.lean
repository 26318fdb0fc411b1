import Mathlib
import InstallStatus.Proofs.Attempts

/-!
Attempts at one deployment, one after the other, at a server that nobody else writes to. An attempt may
be cut off at any of its calls, and nobody can tell from the outside whether its patch was taken. Main
statement: the first attempt that ends well leaves what the first patch that was taken has made of the
status, observed anew.
-/

namespace InstallStatus

open Api (Change Kept ObjectId Store Ending)
open ClusterInstanceStatus (ofStored)

namespace Retry

/-- One attempt: the time on its clock, its end, and the change made by its patch, if that was taken. -/
structure Attempt where
  clock : Timestamp
  ending : Ending (Except Failure Action)
  change? : Option Change

/-- Whether the server has taken the patch of an attempt. -/
def Attempt.taken (attempt : Attempt) : Bool := attempt.change?.isSome

/-- The time that an attempt writes: the whole second on its clock. -/
def Attempt.time (attempt : Attempt) : Timestamp := attempt.clock.truncate

/-- What whoever has set off an attempt hears of it. -/
def Attempt.result (settings : Settings) (trigger : ClusterDeployment) (attempt : Attempt) :
    Except ClockFault (Except Failure Action) :=
  attempt.ending.result settings trigger

/-- Attempts in a row, each at the store that the one before has left. -/
inductive Attempts (trigger : ClusterDeployment) : Store → List Attempt → Store → Prop
  | none {store : Store} : Attempts trigger store [] store
  | more {store between after : Store} {attempt : Attempt} {rest : List Attempt}
    (runs : Pass.Runs attempt.clock store (Pass.ofTrigger trigger) between attempt.ending attempt.change?)
    (later : Attempts trigger between rest after) : Attempts trigger store (attempt :: rest) after

/-- A server with this deployment, which its trigger leads to, and with its owner in this status. -/
structure Setting (trigger deployment : ClusterDeployment) (id : ObjectId) (store : Store)
    (status : ClusterInstanceStatus) : Prop where
  leads : ∃ ns document, Pass.Leads trigger ns deployment id.name id.namespaceName ∧
    store.get? ⟨.deployments, ns, trigger.name⟩ = some document ∧
    ClusterDeployment.decode document = .ok deployment
  resource : id.resource = .instances
  site : ∃ object, store.get? id = some object ∧ ofStored (object.fields.get? "status") = .ok status
  held : store.Held

/-- The attempt whose patch was the first to be taken; the last one if there is none. -/
def firstTaken (earlier : List Attempt) (last : Attempt) : Attempt :=
  (earlier.find? Attempt.taken).getD last

variable {trigger deployment : ClusterDeployment} {id : ObjectId} {store after : Store}
  {status : ClusterInstanceStatus}

/-- The trigger leads to one deployment, and no attempt changes which. -/
theorem Setting.same_deployment (setting : Setting trigger deployment id store status) {ns : String}
    {document : Json} {other : ClusterDeployment} (placed : trigger.metadata.namespaceName = some ns)
    (stored : store.get? ⟨.deployments, ns, trigger.name⟩ = some document)
    (decoded : ClusterDeployment.decode document = .ok other) : other = deployment := by
  obtain ⟨place, found, leads, storedHere, decodedHere⟩ := setting.leads
  have samePlace : ns = place := Option.some.inj (placed.symm.trans leads.placed)
  subst samePlace
  have sameDocument : document = found := Option.some.inj (stored.symm.trans storedHere)
  subst sameDocument
  exact Except.ok.inj (decoded.symm.trans decodedHere)

/-- A pass in such a setting meets the owner in its status. -/
theorem Setting.meets (setting : Setting trigger deployment id store status)
    {other : ClusterDeployment} {place : ObjectId} {object : Json} {site : ClusterInstance}
    (meets : Pass.Meets trigger store other place object site) :
    other = deployment ∧ place = id ∧ site.currentStatus = status := by
  obtain ⟨⟨ns, document, leads, stored, decoded⟩, resource, storedSite, decodedSite⟩ := meets
  have same := setting.same_deployment leads.placed stored decoded
  subst same
  obtain ⟨_, _, own, _, _⟩ := setting.leads
  have samePlace : place = id := by
    obtain ⟨kind, namespaceName, name⟩ := place
    obtain ⟨ownKind, ownNamespaceName, ownName⟩ := id
    have names : name = ownName := Option.some.inj (leads.owned.symm.trans own.owned)
    have namespaces : namespaceName = ownNamespaceName :=
      Option.some.inj (leads.lies.symm.trans own.lies)
    have kinds : kind = ownKind := resource.trans setting.resource.symm
    rw [names, namespaces, kinds]
  subst samePlace
  obtain ⟨found, storedHere, read⟩ := setting.site
  have sameObject : object = found := Option.some.inj (storedSite.symm.trans storedHere)
  subst sameObject
  have described := (setting.held place object resource storedSite).describes decodedSite
  exact ⟨rfl, rfl, Except.ok.inj (described.status.symm.trans read)⟩

/-- A pass in such a setting has nothing to write only if the status is as it should be. -/
theorem Setting.current (setting : Setting trigger deployment id store status) {time : Timestamp}
    (idle : Pass.Idle trigger time store) : project deployment status time.truncate = status := by
  obtain ⟨place, found, leads, stored, decoded⟩ := setting.leads
  cases idle with
  | withoutDeployment ns placed absent =>
    cases placed.symm.trans leads.placed
    cases absent.symm.trans stored
  | withoutOwner ns document other placed storedOther decodedOther free =>
    have same := setting.same_deployment placed storedOther decodedOther
    subst same
    cases free.symm.trans leads.owned
  | withoutSite ns document other owner home leadsOther storedOther decodedOther absent =>
    have same := setting.same_deployment leadsOther.placed storedOther decodedOther
    subst same
    cases leadsOther.owned.symm.trans leads.owned
    cases leadsOther.lies.symm.trans leads.lies
    obtain ⟨object, here, _⟩ := setting.site
    rw [← setting.resource] at absent
    cases absent.symm.trans here
  | current other place object site meets same =>
    obtain ⟨rfl, rfl, rfl⟩ := setting.meets meets
    exact same

/-- What a pass writes in such a setting leaves the owner projected. -/
theorem Setting.written (setting : Setting trigger deployment id store status) {time : Timestamp}
    {other : ClusterDeployment} {place : ObjectId} {site : ClusterInstance} {version : String} {result : Json}
    (writes : Pass.Writes trigger time store after other place site version result) (held : after.Held) :
    Setting trigger deployment id after (project deployment status time.truncate) := by
  obtain ⟨⟨object, meets, rewritten⟩, written⟩ := writes
  obtain ⟨rfl, rfl, rfl⟩ := setting.meets meets
  obtain ⟨ns, document, leads, stored, decoded⟩ := setting.leads
  have kept : after.get? ⟨.deployments, ns, trigger.name⟩ = some document := by
    rw [written, Store.get?_write, if_neg, stored]
    intro same
    have kinds : Api.Resource.deployments = .instances :=
      (congrArg ObjectId.resource same).trans meets.resource
    cases kinds
  have here : after.get? place = some result := by
    rw [written, Store.get?_write, if_pos rfl]
  exact ⟨⟨ns, document, leads, kept, decoded⟩, setting.resource,
    ⟨result, here, (rewritten.kept.describes rewritten.decoded).status⟩, held⟩

/-- What one attempt makes of the status of the owner. An attempt that ends well without a patch has
found the status as it should be. -/
theorem Setting.attempt (setting : Setting trigger deployment id store status) {time : Timestamp}
    {ending : Ending (Except Failure Action)} {change? : Option Change}
    (runs : Pass.Runs time store (Pass.ofTrigger trigger) after ending change?) :
    (change?.isSome = true → Setting trigger deployment id after (project deployment status time.truncate)) ∧
    (change?.isSome = false → Setting trigger deployment id after status ∧
      (∀ action, ending = .done (.ok action) → project deployment status time.truncate = status)) := by
  have comes := runs.comesTo setting.held
  have held := comes.held setting.held
  cases comes with
  | nothing idle => exact ⟨nofun, fun _ => ⟨setting, fun action well => setting.current (idle action well)⟩⟩
  | written writes => exact ⟨fun _ => setting.written writes held, nofun⟩

/-- Where an attempt that ends well leaves the owner: projected, whether it had something to write or
not. -/
theorem Setting.attempt_well (setting : Setting trigger deployment id store status) {attempt : Attempt}
    (runs : Pass.Runs attempt.clock store (Pass.ofTrigger trigger) after attempt.ending attempt.change?)
    {action : Action} (well : attempt.ending = .done (.ok action)) :
    Setting trigger deployment id after (project deployment status attempt.time) := by
  obtain ⟨written, nothing⟩ := setting.attempt runs
  cases taken : attempt.taken with
  | true => exact written taken
  | false =>
    obtain ⟨left, same⟩ := nothing taken
    have current : project deployment status attempt.time = status := same action well
    rw [current]
    exact left

/-- Once a patch was taken, attempts only observe anew. -/
theorem Attempts.settle_taken {earlier : List Attempt} {last : Attempt}
    (attempts : Attempts trigger store (earlier ++ [last]) after) (first seen : Timestamp)
    (setting : Setting trigger deployment id store ((project deployment status first).reprobed seen))
    {action : Action} (well : last.ending = .done (.ok action)) :
    Setting trigger deployment id after ((project deployment status first).reprobed last.time) := by
  induction earlier generalizing store seen with
  | nil =>
    obtain ⟨⟩ | ⟨runs, ⟨⟩⟩ := attempts
    have settled := setting.attempt_well runs well
    rwa [project_reprobed] at settled
  | cons attempt rest ih =>
    obtain ⟨⟩ | ⟨runs, later⟩ := attempts
    obtain ⟨written, nothing⟩ := setting.attempt runs
    cases taken : attempt.taken with
    | true =>
      have setting := written taken
      rw [project_reprobed] at setting
      exact ih later attempt.time setting
    | false => exact ih later seen (nothing taken).1

theorem Attempts.settle {earlier : List Attempt} {last : Attempt}
    (attempts : Attempts trigger store (earlier ++ [last]) after)
    (setting : Setting trigger deployment id store status) {action : Action}
    (well : last.ending = .done (.ok action)) :
    Setting trigger deployment id after
      ((project deployment status (firstTaken earlier last).time).reprobed last.time) := by
  induction earlier generalizing store with
  | nil =>
    obtain ⟨⟩ | ⟨runs, ⟨⟩⟩ := attempts
    have settled := setting.attempt_well runs well
    rw [← reprobed_project] at settled
    exact settled
  | cons attempt rest ih =>
    obtain ⟨⟩ | ⟨runs, later⟩ := attempts
    obtain ⟨written, nothing⟩ := setting.attempt runs
    cases taken : attempt.taken with
    | true =>
      have found : firstTaken (attempt :: rest) last = attempt := by
        rw [firstTaken, List.find?_cons_of_pos taken, Option.getD_some]
      have setting := written taken
      rw [← reprobed_project] at setting
      rw [found]
      exact later.settle_taken attempt.time _ setting well
    | false =>
      have found : firstTaken (attempt :: rest) last = firstTaken rest last := by
        rw [firstTaken, List.find?_cons_of_neg (by simp [taken]), firstTaken]
      rw [found]
      exact ih later (nothing taken).1

/-- Attempts may be cut off anywhere. Once one ends well, the status is what one pass would have made of
the first one, at the time of the first patch that was taken, but for the four copied conditions, which
were last observed by this attempt. Whoever is cut off by the deadline hears of a failure that is worth
another attempt. -/
theorem attempts_settle (settings : Settings) {earlier : List Attempt} {last : Attempt}
    (setting : Setting trigger deployment id store status)
    (attempts : Attempts trigger store (earlier ++ [last]) after) :
    (∀ action, last.result settings trigger = .ok (.ok action) →
      ∃ object, after.get? id = some object ∧
        ofStored (object.fields.get? "status") =
          .ok ((project deployment status (firstTaken earlier last).time).reprobed last.time)) ∧
    ∀ attempt ∈ earlier ++ [last], attempt.ending = .late →
      ∃ failure, attempt.result settings trigger = .ok (.error failure) ∧
        failure = .timeout trigger.key settings.timeout ∧ failure.isRetryable = true := by
  refine ⟨fun action heard => ?_, fun attempt _ late => ?_⟩
  · have well : last.ending = .done (.ok action) := by
      unfold Attempt.result at heard
      cases ended : last.ending with
      | done result =>
        rw [ended] at heard
        cases heard
        rfl
      | late =>
        rw [ended] at heard
        cases heard
      | halted fault =>
        rw [ended] at heard
        cases heard
    exact (attempts.settle setting well).site
  · refine ⟨_, ?_, rfl, rfl⟩
    rw [Attempt.result, late]
    rfl

/-- An attempt that the deadline cuts off at its first call, and another one that goes well. -/
theorem attempts_settle_second : ∃ deployment status change after,
    let first : Attempt := ⟨Api.sampleTime, .late, none⟩
    let last : Attempt := ⟨Api.sampleTime, .done (.ok .awaitChange), some change⟩
    Setting deployment deployment Api.sampleSiteId Api.sampleStore status ∧
      Attempts deployment Api.sampleStore ([first] ++ [last]) after ∧
      (∃ object, after.get? Api.sampleSiteId = some object ∧
        ofStored (object.fields.get? "status") =
          .ok ((project deployment status last.time).reprobed last.time)) ∧
      ∃ failure, first.result .standard deployment = .ok (.error failure) ∧ failure.isRetryable = true := by
  obtain ⟨d, s, difference, decoded, name, decodedSite, _, differs, guides⟩ := Api.guides_sample
  have described := Api.kept_sampleSite.describes decodedSite
  obtain ⟨ns, leads, truthful⟩ := guides.leads
  have setting : Setting d d Api.sampleSiteId Api.sampleStore s.currentStatus := by
    refine ⟨⟨ns, Api.sampleDeployment, leads, ?_, decoded⟩, rfl, ⟨_, rfl, described.status⟩,
      Api.held_sampleStore⟩
    obtain ⟨_, stored, held⟩ := truthful.held rfl
    rw [stored, ← held, Api.document?_sampleDeployment]
  have late : Pass.Runs Api.sampleTime Api.sampleStore (Pass.ofTrigger d) Api.sampleStore .late none := by
    simp only [Pass.ofTrigger, leads.placed]
    exact .report .late
  have well := Pass.Runs.guided guides differs described.namespaceName
    (.patch (Api.takes_sampleSite decodedSite difference) (.ok ()) (.report .done))
  have second := @Attempts.more d _ _ _ ⟨Api.sampleTime, .done (.ok .awaitChange), some _⟩ [] well .none
  have attempts := @Attempts.more d _ _ _ ⟨Api.sampleTime, .late, none⟩ _ late second
  obtain ⟨status, failed⟩ := @attempts_settle d d Api.sampleSiteId _ _ _ .standard
    [⟨Api.sampleTime, .late, none⟩] ⟨Api.sampleTime, .done (.ok .awaitChange), some _⟩ setting attempts
  obtain ⟨failure, heard, _, retryable⟩ := failed _ (List.mem_cons_self ..) rfl
  exact ⟨d, s.currentStatus, _, _, setting, attempts, status _ rfl, failure, heard, retryable⟩

end Retry

end InstallStatus
