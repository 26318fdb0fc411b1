import Mathlib
import InstallStatus.Controller.Basic
import InstallStatus.Proofs.RecordLaws

/-!
How long it takes until a failed pass is tried again, under settings that were accepted. The delay they
give is any whole number of seconds below `2 ^ 64`. A failure that may mend by itself waits for that delay
and every other failure for twelve times as long, which is a longer time exactly if the delay is not zero,
and a length of time at all exactly if it lasts fewer than `2 ^ 64` seconds.
-/

namespace InstallStatus

namespace Span

theorem ofNanos?_eq_some_iff {nanos : Nat} {span : Span} : ofNanos? nanos = some span ↔ span.nanos = nanos := by
  unfold ofNanos?
  split
  · rename_i inside
    rw [Option.some.injEq]
    constructor
    · rintro rfl
      rfl
    · rintro rfl
      rfl
  · rename_i outside
    refine ⟨nofun, fun same => absurd span.nanos_lt ?_⟩
    rwa [same]

/-- Spans go up to the seconds that a word counts. -/
theorem isSome_ofNanos?_iff {nanos : Nat} :
    (ofNanos? nanos).isSome = true ↔ nanos < 18_446_744_073_709_551_616 * 1_000_000_000 := by
  unfold ofNanos?
  split <;> simp [*]

theorem nanos_ofSeconds (seconds : UInt64) : (ofSeconds seconds).nanos = seconds.toNat * 1_000_000_000 := rfl

/-- A multiple of whole seconds is a length of time exactly if it lasts fewer than `2 ^ 64` seconds. -/
theorem isSome_scale?_ofSeconds_iff (seconds : UInt64) (factor : Nat) :
    ((ofSeconds seconds).scale? factor).isSome = true ↔ factor * seconds.toNat < 2 ^ 64 := by
  have reordered : seconds.toNat * 1_000_000_000 * factor = factor * seconds.toNat * 1_000_000_000 := by ring
  rw [scale?, isSome_ofNanos?_iff, nanos_ofSeconds, reordered]
  omega

end Span

namespace Settings

/-- What is checked of settings, in its order; the delay for another try is not among it. -/
theorem resolve_eq_ok {flags : Flags} {env : Environment} {settings : Settings} :
    resolve flags env = .ok settings ↔
      chooseSpan flags.timeoutSeconds .timeoutSeconds env.timeoutSeconds standard.timeout = .ok settings.timeout ∧
      chooseSpan flags.requeueSeconds .requeueSeconds env.requeueSeconds standard.requeue = .ok settings.requeue ∧
      settings.timeout.nanos ≠ 0 ∧
      settings.namespaceName = (flags.namespaceName.filter (· ≠ "") <|> env.namespaceName) ∧
      settings.fieldManager = (flags.fieldManager <|> env.fieldManager).getD standard.fieldManager := by
  unfold resolve
  simp only [Except.bind_eq_ok]
  constructor
  · rintro ⟨timeout, chosen, requeue, chosen', made⟩
    split at made
    · cases made
    · rename_i positive
      cases made
      exact ⟨chosen, chosen', positive, rfl, rfl⟩
  · rintro ⟨chosen, chosen', positive, scope, manager⟩
    refine ⟨_, chosen, _, chosen', ?_⟩
    rw [if_neg positive, ← scope, ← manager]
    rfl

theorem chooseSpan_ofSeconds {flag : Option UInt64} {source : Variable} {text : Option String}
    {usual : UInt64} {span : Span} (chosen : chooseSpan flag source text (.ofSeconds usual) = .ok span) :
    ∃ seconds : UInt64, span = .ofSeconds seconds := by
  unfold chooseSpan at chosen
  split at chosen
  · cases chosen
    exact ⟨_, rfl⟩
  · cases found : readSeconds source text with
    | error rejection =>
      rw [found] at chosen
      cases chosen
    | ok seconds =>
      rw [found] at chosen
      cases chosen
      cases seconds with
      | none => exact ⟨usual, rfl⟩
      | some seconds => exact ⟨seconds, rfl⟩

/-- Accepted settings try again after a whole number of seconds. -/
theorem requeue_of_resolve {flags : Flags} {env : Environment} {settings : Settings}
    (accepted : resolve flags env = .ok settings) : ∃ seconds : UInt64, settings.requeue = .ofSeconds seconds :=
  chooseSpan_ofSeconds (resolve_eq_ok.mp accepted).2.1

/-- Any number of seconds is accepted. -/
theorem resolve_requeueSeconds (seconds : UInt64) :
    ∃ settings, resolve { Flags.none with requeueSeconds := some seconds } (.ofLookup fun _ => none) = .ok settings ∧
      settings.requeue = .ofSeconds seconds := by
  have positive : standard.timeout.nanos ≠ 0 := by decide
  exact ⟨{ standard with requeue := .ofSeconds seconds }, resolve_eq_ok.mpr ⟨rfl, rfl, positive, rfl, rfl⟩, rfl⟩

end Settings

namespace Failure

theorem isRetryable_of_isConflict {failure : Failure} (conflict : failure.isConflict = true) :
    failure.isRetryable = true := by
  cases failure with
  | client error =>
    cases error with
    | api error =>
      simp only [isConflict] at conflict
      simp only [isRetryable, conflict, Bool.true_or]
    | _ => rfl
  | _ => cases conflict

theorem retryDelay?_of_retryable {failure : Failure} (retryable : failure.isRetryable = true) (delay : Span) :
    failure.retryDelay? delay = some delay := by
  rw [retryDelay?, if_pos retryable]

theorem retryDelay?_of_not_retryable {failure : Failure} (permanent : failure.isRetryable = false) (delay : Span) :
    failure.retryDelay? delay = delay.scale? 12 := by
  rw [retryDelay?, permanent]
  rfl

/-- Under accepted settings a failure that may mend by itself is tried again after the delay they give, and
so is every conflict. Any other failure is tried again after twelve times that delay if this is a length of
time, which it is for fewer than a twelfth of `2 ^ 64` seconds; and that is longer unless both are zero. -/
theorem retryDelay?_of_resolve {flags : Settings.Flags} {env : Settings.Environment} {settings : Settings}
    (accepted : Settings.resolve flags env = .ok settings) :
    ∃ seconds : UInt64, settings.requeue = .ofSeconds seconds ∧
      (∀ failure : Failure, failure.isConflict = true → failure.isRetryable = true) ∧
      (∀ failure : Failure, failure.isRetryable = true →
        failure.retryDelay? settings.requeue = some settings.requeue) ∧
      ∀ failure : Failure, failure.isRetryable = false →
        ((failure.retryDelay? settings.requeue).isSome = true ↔ 12 * seconds.toNat < 2 ^ 64) ∧
        ∀ delay, failure.retryDelay? settings.requeue = some delay →
          delay.nanos = 12 * settings.requeue.nanos ∧
          (settings.requeue.nanos < delay.nanos ↔ 0 < seconds.toNat) := by
  obtain ⟨seconds, given⟩ := Settings.requeue_of_resolve accepted
  refine ⟨seconds, given, fun _ => isRetryable_of_isConflict,
    fun _ retryable => retryDelay?_of_retryable retryable _, fun failure permanent => ?_⟩
  rw [retryDelay?_of_not_retryable permanent, given]
  refine ⟨Span.isSome_scale?_ofSeconds_iff seconds 12, fun delay scaled => ?_⟩
  have long := Span.ofNanos?_eq_some_iff.mp scaled
  rw [Span.nanos_ofSeconds] at long ⊢
  omega

/-- A variable that gives seven seconds. -/
theorem retryDelay?_of_resolve_seven :
    ∃ settings, Settings.resolve .none ⟨none, none, none, some " +7 "⟩ = .ok settings ∧
      (missingNamespace "ClusterDeployment" "sno-1").isRetryable = false ∧
      ∃ delay, (missingNamespace "ClusterDeployment" "sno-1").retryDelay? settings.requeue = some delay ∧
        delay.nanos = 84_000_000_000 ∧ settings.requeue.nanos < delay.nanos := by
  obtain ⟨settings, accepted, seven⟩ : ∃ settings,
      Settings.resolve .none ⟨none, none, none, some " +7 "⟩ = .ok settings ∧
        settings.requeue.nanos = 7_000_000_000 := ⟨_, rfl, rfl⟩
  obtain ⟨seconds, given, _, _, permanent⟩ := retryDelay?_of_resolve accepted
  obtain ⟨inside, long⟩ := permanent (missingNamespace "ClusterDeployment" "sno-1") rfl
  rw [given, Span.nanos_ofSeconds] at seven
  obtain ⟨delay, waits⟩ := Option.isSome_iff_exists.mp (inside.mpr (by omega))
  obtain ⟨twelvefold, longer⟩ := long delay waits
  refine ⟨settings, accepted, rfl, delay, waits, ?_, longer.mpr (by omega)⟩
  rw [twelvefold, given, Span.nanos_ofSeconds, seven]

/-- Where there is no delay the controller stops. -/
theorem isStopped_finish {c : Controller} {failure : Failure}
    (boundless : failure.retryDelay? c.settings.requeue = none) (key : ObjectKey) (trigger : ClusterDeployment) :
    (c.finish key trigger (.error failure)).isStopped = true := by
  have settings : (c.report [.ofFailure failure trigger.key]).settings = c.settings := rfl
  have unanswered : failure.action? c.settings.requeue = none := by rw [action?, boundless, Option.map_none]
  simp only [Controller.finish, settings, unanswered]
  rfl

/-- Both ends of the range. Twelve times the longest delay is no length of time, so that the controller stops
over a failure which will not mend by itself; and with a delay of zero it is tried again as soon as any other. -/
theorem retryDelay?_at_the_ends :
    (∃ settings, Settings.resolve { Settings.Flags.none with requeueSeconds := some 18446744073709551615 }
        (.ofLookup fun _ => none) = .ok settings ∧
      (missingNamespace "ClusterDeployment" "sno-1").isRetryable = false ∧
      (missingNamespace "ClusterDeployment" "sno-1").retryDelay? settings.requeue = none ∧
      ∀ c : Controller, c.settings = settings → ∀ key trigger,
        (c.finish key trigger (.error (missingNamespace "ClusterDeployment" "sno-1"))).isStopped = true) ∧
    ∃ settings, Settings.resolve { Settings.Flags.none with requeueSeconds := some 0 }
        (.ofLookup fun _ => none) = .ok settings ∧
      (missingNamespace "ClusterDeployment" "sno-1").isRetryable = false ∧
      (missingNamespace "ClusterDeployment" "sno-1").retryDelay? settings.requeue = some settings.requeue := by
  obtain ⟨longest, accepted, given⟩ := Settings.resolve_requeueSeconds 18446744073709551615
  obtain ⟨shortest, accepted', given'⟩ := Settings.resolve_requeueSeconds 0
  have boundless : (missingNamespace "ClusterDeployment" "sno-1").retryDelay? longest.requeue = none := by
    rw [given]
    rfl
  refine ⟨⟨longest, accepted, rfl, boundless, ?_⟩, ⟨shortest, accepted', rfl, ?_⟩⟩
  · rintro c rfl key trigger
    exact isStopped_finish boundless key trigger
  · rw [given']
    rfl

end Failure

end InstallStatus
