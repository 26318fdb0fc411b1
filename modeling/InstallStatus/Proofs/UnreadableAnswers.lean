import Mathlib
import InstallStatus.Proofs.ServerLaws
import InstallStatus.Api.Server

/-!
Passes that are told something they cannot read. A pass ends with the first call that fails, whoever
answers and whatever time is left, and an answer that is no error but does not hold the wanted object is
such a failure. Main statement: it counts as one that may mend by itself and is tried again soon, whereas a
value that cannot be serialized is not.
-/

namespace InstallStatus

namespace Pass

variable {α β : Type}

/-- A pass that ends with the first call that fails. -/
def FailsFast : Pass (Except Failure α) → Prop
  | .done _ => True
  | .report _ next => FailsFast next
  | .clock next => ∀ now, FailsFast (next now)
  | .call _ next =>
    (∀ failure, next (.error failure) = .done (.error failure)) ∧ ∀ answer, FailsFast (next answer)

theorem failsFast_ask (request : Call) : (ask request).FailsFast :=
  ⟨fun _ => rfl, fun _ => trivial⟩

/-- A stage that fails ends the pass, so a pass fails fast if its stages do. -/
theorem FailsFast.andThen {pass : Pass (Except Failure α)} {next : α → Pass (Except Failure β)}
    (fast : pass.FailsFast) (later : ∀ a, (next a).FailsFast) : (pass.andThen next).FailsFast := by
  induction pass with
  | done result =>
    cases result with
    | error failure => exact trivial
    | ok a => exact later a
  | report event rest ih => exact ih fast
  | clock rest ih => exact fun now => ih now (fast now)
  | call request rest ih =>
    refine ⟨fun failure => ?_, fun answer => ih answer (fast.2 answer)⟩
    show (rest (.error failure)).bind _ = _
    rw [fast.1 failure]
    rfl

theorem failsFast_reportAll {events : List Event} {next : Pass (Except Failure α)} (fast : next.FailsFast) :
    (reportAll events next).FailsFast := by
  induction events with
  | nil => exact fast
  | cons event rest ih => exact ih

theorem failsFast_resolve (deployment : ClusterDeployment) : (resolve deployment).FailsFast := by
  unfold resolve
  split
  · exact trivial
  · split
    · exact trivial
    · refine (failsFast_ask _).andThen fun found => ?_
      cases found with
      | none => exact trivial
      | some site => exact trivial

theorem failsFast_write (site : ClusterInstance) (found wanted : ClusterInstanceStatus) :
    (write site found wanted).FailsFast := by
  unfold write
  split
  · exact trivial
  · exact trivial
  · split
    · exact trivial
    · exact (failsFast_ask _).andThen fun _ => trivial

/-- The whole of a pass hangs on every one of its calls. -/
theorem failsFast_ofTrigger (trigger : ClusterDeployment) : (ofTrigger trigger).FailsFast := by
  unfold ofTrigger
  split
  · exact trivial
  · refine (failsFast_ask _).andThen fun found => ?_
    cases found with
    | none => exact trivial
    | some deployment =>
      refine (failsFast_resolve deployment).andThen fun found => ?_
      cases found with
      | none => exact trivial
      | some site => exact fun now => failsFast_reportAll ((failsFast_write ..).andThen fun _ => trivial)

end Pass

namespace Api

/-- Whether the body holds the object that the call wants. -/
def Answer.fits (answer : Answer) : Call → Bool
  | .getDeployment _ _ => (answer.decode? ClusterDeployment.decode).isSome
  | .getInstance _ _ | .patchStatus _ _ _ => (answer.decode? ClusterInstance.decode).isSome

/-- A success whose body cannot be read is a failure of the client, and not of the server. -/
theorem Answer.result_of_unfit {answer : Answer} {call : Call} (success : answer.isError = false)
    (unfit : answer.fits call = false) : answer.result call = .error (.client .unreadable) := by
  have accepted : answer.error? = none := by
    simp only [error?, success, Bool.false_eq_true, if_false]
  cases call with
  | getDeployment name ns =>
    have unread : answer.decode? ClusterDeployment.decode = none := by simpa [fits] using unfit
    simp only [result, found, object, accepted, unread]
    rfl
  | getInstance name ns =>
    have unread : answer.decode? ClusterInstance.decode = none := by simpa [fits] using unfit
    simp only [result, found, object, accepted, unread]
    rfl
  | patchStatus name ns patch =>
    have unread : answer.decode? ClusterInstance.decode = none := by simpa [fits] using unfit
    simp only [result, object, accepted, unread]

/-- A server that answers a call before the time left is over, as it is afterwards, and the time that is
then left. -/
inductive Server.Tells (fieldManager : String) (server : Server) (left : Nat) (call : Call) :
    Answer → Server → Nat → Prop
  | intro {exchange : Exchange} {asked : Server} (sent : server.send fieldManager call = .ok (exchange, asked))
    (early : left ≠ 0) (inTime : exchange.delay ≤ left) :
    Tells fieldManager server left call (asked.settle exchange).2.1 (asked.settle exchange).1
      (left - exchange.delay)

/-- A pass that is run against a server, with so much time left, and is told this answer to this call. -/
inductive Server.Hears {α : Type} (fieldManager : String) (clock : Timestamp) :
    Server → Nat → Pass α → Call → Answer → Prop
  | report {server : Server} {left : Nat} {event : Event} {next : Pass α} {call : Call} {answer : Answer}
    (rest : Hears fieldManager clock server left next call answer) :
    Hears fieldManager clock server left (.report event next) call answer
  | clock {server : Server} {left : Nat} {now : Timestamp} {next : Timestamp → Pass α} {call : Call}
    {answer : Answer} (read : readClock clock = .ok now)
    (rest : Hears fieldManager clock server left (next now) call answer) :
    Hears fieldManager clock server left (.clock next) call answer
  /-- What is heard after a call that cannot be sent. -/
  | unsent {server : Server} {left : Nat} {first call : Call}
    {next : Except Failure first.Result → Pass α} {answer : Answer} {fault : RequestFault}
    (refused : server.send fieldManager first = .error fault)
    (rest : Hears fieldManager clock server left (next (.error (.client (.request fault)))) call answer) :
    Hears fieldManager clock server left (.call first next) call answer
  | here {server after : Server} {left rest : Nat} {call : Call} {next : Except Failure call.Result → Pass α}
    {answer : Answer} (told : server.Tells fieldManager left call answer after rest) :
    Hears fieldManager clock server left (.call call next) call answer
  | later {server after : Server} {left remaining : Nat} {first call : Call}
    {next : Except Failure first.Result → Pass α} {early answer : Answer}
    (told : server.Tells fieldManager left first early after remaining)
    (rest : Hears fieldManager clock after remaining (next (early.result first)) call answer) :
    Hears fieldManager clock server left (.call first next) call answer

namespace Server

variable {α : Type} {fieldManager : String} {clock : Timestamp} {server after : Server} {left rest : Nat}
  {call : Call} {answer : Answer}

theorem Tells.ending {next : Except Failure call.Result → Pass α}
    (told : server.Tells fieldManager left call answer after rest) :
    (server.run fieldManager clock left (.call call next)).ending =
      (after.run fieldManager clock rest (next (answer.result call))).ending := by
  cases told with
  | intro sent early inTime =>
    rw [run, sent]
    simp only [early, Nat.not_lt.mpr inTime, if_false]

/-- A pass that ends with the first call that fails has failed with whatever it has heard to fail. -/
theorem Hears.ending {pass : Pass (Except Failure α)} {failure : Failure}
    (hears : Hears fieldManager clock server left pass call answer) (fast : pass.FailsFast)
    (failed : answer.result call = .error failure) :
    (server.run fieldManager clock left pass).ending = .done (.error failure) := by
  induction hears with
  | report _ ih => exact ih fast failed
  | clock read _ ih =>
    rw [run, read]
    exact ih (fast _) failed
  | unsent refused _ ih =>
    rw [run, refused]
    exact ih (fast.2 _) failed
  | here told =>
    rw [told.ending, failed, fast.1]
    rfl
  | later told _ ih =>
    rw [told.ending]
    exact ih (fast.2 _) failed

/-- The first thing a pass hears. -/
theorem hears_deployment {trigger : ClusterDeployment} {ns : String}
    (placed : trigger.metadata.namespaceName = some ns)
    (told : server.Tells fieldManager left (.getDeployment trigger.name ns) answer after rest) :
    Hears fieldManager clock server left (Pass.ofTrigger trigger) (.getDeployment trigger.name ns) answer := by
  simp only [Pass.ofTrigger, placed]
  exact .report (.here told)

end Server

/-- Whatever a server answers a pass with, if it is no error and does not hold the object that was asked
for, the pass fails with that, and the failure is tried again after the plain delay. A value that cannot be
serialized is tried again after twelve times that, if at all. -/
theorem unfit_answer_retried (settings : Settings) (clock : Timestamp) (server : Server)
    (trigger : ClusterDeployment) :
    (∀ call answer,
      server.Hears settings.fieldManager clock settings.timeout.millis (Pass.ofTrigger trigger) call answer →
      answer.isError = false → answer.fits call = false →
      ∃ failure, (server.serve settings clock trigger).result settings trigger = .ok (.error failure) ∧
        failure = .client .unreadable ∧ failure.isRetryable = true ∧ failure.isConflict = false ∧
        failure.retryDelay? settings.requeue = some settings.requeue) ∧
    ∀ message kind, (Failure.serialization message kind).isRetryable = false ∧
      (Failure.serialization message kind).retryDelay? settings.requeue = settings.requeue.scale? 12 := by
  refine ⟨fun call answer hears success unfit => ?_, fun message kind => ⟨rfl, rfl⟩⟩
  have failed := Answer.result_of_unfit success unfit
  have ended := hears.ending (Pass.failsFast_ofTrigger trigger) failed
  refine ⟨_, ?_, rfl, rfl, rfl, rfl⟩
  rw [Outcome.result, Server.serve, ended]
  rfl

section Sample

/-- A deployment whose list of conditions is null. -/
def unlistedDeployment : Json := .object [
  ("kind", .string "ClusterDeployment"),
  ("metadata", .object [("name", .string "east"), ("namespace", .string "lab")]),
  ("spec", .object []),
  ("status", .object [("conditions", .null)])]

/-- A server that answers with it after a while. -/
def unlistedServer : Server := ⟨sampleStore, [⟨.getDeployment, some (.holding unlistedDeployment), 20⟩]⟩

theorem hears_unlisted : ∃ trigger,
    ClusterDeployment.decode sampleDeployment = .ok trigger ∧
      unlistedServer.Hears Settings.standard.fieldManager sampleTime Settings.standard.timeout.millis
        (Pass.ofTrigger trigger) (.getDeployment "east" "lab") (.holding unlistedDeployment) := by
  obtain ⟨trigger, decoded, name, lies⟩ : ∃ trigger, ClusterDeployment.decode sampleDeployment = .ok trigger ∧
      trigger.name = "east" ∧ trigger.metadata.namespaceName = some "lab" := ⟨_, rfl, rfl, rfl⟩
  refine ⟨trigger, decoded, ?_⟩
  obtain ⟨request, sent⟩ : ∃ request,
      unlistedServer.send Settings.standard.fieldManager (.getDeployment "east" "lab") =
        .ok (⟨request, some (.holding unlistedDeployment), 20⟩, ⟨sampleStore, []⟩) := ⟨_, rfl⟩
  have early : Settings.standard.timeout.millis ≠ 0 := by decide
  have inTime : 20 ≤ Settings.standard.timeout.millis := by decide
  have told := Server.Tells.intro sent early inTime
  rw [← name] at told ⊢
  exact Server.hears_deployment lies told

theorem fits_unlisted : (Answer.holding unlistedDeployment).fits (.getDeployment "east" "lab") = false := by
  decide +kernel

/-- The deployment with a null list, told in time. -/
theorem unfit_answer_retried_unlisted : ∃ trigger,
    unlistedServer.Hears Settings.standard.fieldManager sampleTime Settings.standard.timeout.millis
      (Pass.ofTrigger trigger) (.getDeployment "east" "lab") (.holding unlistedDeployment) ∧
    (Answer.holding unlistedDeployment).isError = false ∧
    (Answer.holding unlistedDeployment).fits (.getDeployment "east" "lab") = false ∧
    ∃ failure,
      (unlistedServer.serve .standard sampleTime trigger).result .standard trigger = .ok (.error failure) ∧
      failure = .client .unreadable ∧ failure.isRetryable = true ∧ failure.isConflict = false ∧
      failure.retryDelay? Settings.standard.requeue = some Settings.standard.requeue := by
  obtain ⟨trigger, _, hears⟩ := hears_unlisted
  obtain ⟨retried, _⟩ := unfit_answer_retried .standard sampleTime unlistedServer trigger
  exact ⟨trigger, hears, rfl, fits_unlisted, retried _ _ hears rfl fits_unlisted⟩

/-- A stored value that does not decode is no permanent failure: the pass that reads it is tried again soon. -/
theorem unlisted_deployment_not_permanent : ∃ trigger failure,
    ClusterDeployment.decode sampleDeployment = .ok trigger ∧
    (Answer.holding unlistedDeployment).isError = false ∧
    (Answer.holding unlistedDeployment).decode? ClusterDeployment.decode = none ∧
    (unlistedServer.serve .standard sampleTime trigger).result .standard trigger = .ok (.error failure) ∧
    failure.isRetryable = true := by
  obtain ⟨trigger, decoded, hears⟩ := hears_unlisted
  have failed := Answer.result_of_unfit rfl fits_unlisted
  have ended := hears.ending (Pass.failsFast_ofTrigger trigger) failed
  refine ⟨trigger, .client .unreadable, decoded, rfl, ?_, ?_, rfl⟩
  · simpa [Answer.fits] using fits_unlisted
  · rw [Outcome.result, Server.serve, ended]
    rfl

end Sample

end Api

end InstallStatus
