import Mathlib
import InstallStatus.Proofs.RetryDelays
import InstallStatus.Proofs.WordText

/-!
When settings are accepted and what they then are, for all flags and any text in the environment. A number of
seconds is read out of a variable only where no flag gives one, and only then can its text be wrong.
-/

namespace InstallStatus.Settings

/-- What a flag and a variable settle on. The flag counts, then what is read from the variable. -/
inductive Prefers {α : Type} (reads : String → α → Prop) (usual : α) : Option α → Option String → α → Prop
  | flag (given : α) (text : Option String) : Prefers reads usual (some given) text given
  | text {text : String} {held : α} (read : reads text held) : Prefers reads usual none (some text) held
  | usual : Prefers reads usual none none usual

/-- A variable that is looked at and holds no number. -/
def Unread (flag : Option UInt64) (text : Option String) : Prop :=
  flag = none ∧ ∃ given, text = some given ∧ ∀ seconds, ¬ Text.HoldsWord given seconds

/-- The namespace that a flag gives. An empty one is not given. -/
def Flags.scope? (flags : Flags) : Option String := flags.namespaceName.filter (· ≠ "")

/-- Whether there is a flag to take the place of a variable. -/
def Flags.Gives (flags : Flags) : Variable → Prop
  | .namespaceName => flags.scope? ≠ .none
  | .fieldManager => flags.fieldManager ≠ .none
  | .timeoutSeconds => flags.timeoutSeconds ≠ .none
  | .requeueSeconds => flags.requeueSeconds ≠ .none

def Environment.value? (env : Environment) : Variable → Option String
  | .namespaceName => env.namespaceName
  | .fieldManager => env.fieldManager
  | .timeoutSeconds => env.timeoutSeconds
  | .requeueSeconds => env.requeueSeconds

/-- The settings that flags and environment stand for. -/
structure Chosen (flags : Flags) (env : Environment) (settings : Settings) : Prop where
  scope : Prefers (fun text scope => some text = scope) none (flags.scope?.map some) env.namespaceName
    settings.namespaceName
  manager : Prefers Eq "siteconfig-clusterdeployment-reconciler" flags.fieldManager env.fieldManager
    settings.fieldManager
  timeout : ∃ seconds, Prefers Text.HoldsWord 30 flags.timeoutSeconds env.timeoutSeconds seconds ∧
    settings.timeout = .ofSeconds seconds
  requeue : ∃ seconds, Prefers Text.HoldsWord 5 flags.requeueSeconds env.requeueSeconds seconds ∧
    settings.requeue = .ofSeconds seconds

/-- A variable does not matter where a flag is given. -/
theorem orElse_congr {flag text text' : Option String} (same : flag = none → text' = text) :
    (flag <|> text') = (flag <|> text) := by
  cases flag with
  | some given => rfl
  | none => exact same rfl

/-- Where every text can be read, the first of the two that is there settles it. -/
theorem prefers_iff_getD {α : Type} {flag : Option α} {text : Option String} {usual value : α} (read : String → α) :
    Prefers (fun text held => read text = held) usual flag text value ↔
      value = (flag <|> text.map read).getD usual := by
  constructor
  · intro settled
    cases settled with
    | flag => rfl
    | text same => exact same.symm
    | usual => rfl
  · rintro rfl
    cases flag with
    | some given => exact .flag given text
    | none =>
      cases text with
      | some held => exact .text rfl
      | none => exact .usual

theorem prefers_eq_iff {flag text : Option String} {usual value : String} :
    Prefers Eq usual flag text value ↔ value = (flag <|> text).getD usual := by
  have settles := @prefers_iff_getD _ flag text usual value id
  rw [Option.map_id] at settles
  exact settles

theorem prefers_some_iff {flag text scope : Option String} :
    Prefers (fun text scope => some text = scope) none (flag.map some) text scope ↔ scope = (flag <|> text) := by
  have joined : (flag.map some <|> text.map some).getD none = (flag <|> text) := by
    cases flag <;> cases text <;> rfl
  rw [prefers_iff_getD some, joined]

section Seconds

variable {flag : Option UInt64} {text : Option String} {usual : UInt64}

/-- Some value is settled on unless the variable that counts holds no number. -/
theorem exists_prefers (read : ¬ Unread flag text) (usual : UInt64) :
    ∃ seconds, Prefers Text.HoldsWord usual flag text seconds := by
  cases flag with
  | some given => exact ⟨given, .flag given text⟩
  | none =>
    cases text with
    | none => exact ⟨usual, .usual⟩
    | some given =>
      by_contra unsettled
      exact read ⟨rfl, given, rfl, fun seconds held => unsettled ⟨seconds, .text held⟩⟩

/-- The text is read as the number it holds, with white space and a plus sign or without. -/
theorem chooseSpan_of_prefers {seconds : UInt64} (settled : Prefers Text.HoldsWord usual flag text seconds)
    (source : Variable) : chooseSpan flag source text (.ofSeconds usual) = .ok (.ofSeconds seconds) := by
  cases settled with
  | flag => rfl
  | text held =>
    have read := Text.readWord_trim_eq_ok_iff.mpr held
    simp only [chooseSpan, readSeconds, read]
    rfl
  | usual => rfl

theorem chooseSpan_of_unread (unread : Unread flag text) (source : Variable) (standard : Span) :
    ∃ given cause, text = some given ∧
      chooseSpan flag source text standard = .error (.notSeconds source given cause) := by
  obtain ⟨rfl, given, rfl, unheld⟩ := unread
  cases read : Text.readWord (Text.trim given.toList) with
  | ok seconds => exact absurd (Text.readWord_trim_eq_ok_iff.mp read) (unheld seconds)
  | error cause =>
    refine ⟨given, cause, rfl, ?_⟩
    simp only [chooseSpan, readSeconds, read]
    rfl

theorem chooseSpan_eq_ok_iff {source : Variable} {span : Span} :
    chooseSpan flag source text (.ofSeconds usual) = .ok span ↔
      ∃ seconds, Prefers Text.HoldsWord usual flag text seconds ∧ span = .ofSeconds seconds := by
  constructor
  · intro chosen
    have read : ¬ Unread flag text := by
      intro unread
      obtain ⟨given, cause, _, failed⟩ := chooseSpan_of_unread unread source (.ofSeconds usual)
      cases failed.symm.trans chosen
    obtain ⟨seconds, settled⟩ := exists_prefers read usual
    have same := (chooseSpan_of_prefers settled source).symm.trans chosen
    exact ⟨seconds, settled, (Except.ok.inj same).symm⟩
  · rintro ⟨seconds, settled, rfl⟩
    exact chooseSpan_of_prefers settled source

theorem chooseSpan_congr {text' : Option String} (same : flag = none → text' = text) (source : Variable)
    (standard : Span) : chooseSpan flag source text' standard = chooseSpan flag source text standard := by
  cases flag with
  | some given => rfl
  | none => rw [same rfl]

end Seconds

/-- No number of seconds wraps around to no time at all. -/
theorem nanos_ofSeconds_eq_zero_iff {seconds : UInt64} : (Span.ofSeconds seconds).nanos = 0 ↔ seconds = 0 := by
  have zero : seconds = 0 ↔ seconds.toNat = 0 := UInt64.toNat_inj.symm
  rw [Span.nanos_ofSeconds, zero]
  omega

variable {flags : Flags} {env : Environment}

/-- Settings are accepted exactly if they are the ones stood for and leave time for a call. -/
theorem resolve_eq_ok_iff_chosen {settings : Settings} :
    resolve flags env = .ok settings ↔ Chosen flags env settings ∧ settings.timeout ≠ .ofSeconds 0 := by
  have usual : standard.timeout = .ofSeconds 30 := rfl
  have usual' : standard.requeue = .ofSeconds 5 := rfl
  rw [resolve_eq_ok, usual, usual', chooseSpan_eq_ok_iff, chooseSpan_eq_ok_iff]
  constructor
  · rintro ⟨timeout, requeue, positive, scope, manager⟩
    refine ⟨⟨prefers_some_iff.mpr scope, prefers_eq_iff.mpr manager, timeout, requeue⟩, fun zero => positive ?_⟩
    rw [zero]
    rfl
  · rintro ⟨chosen, positive⟩
    refine ⟨chosen.timeout, chosen.requeue, ?_, prefers_some_iff.mp chosen.scope, prefers_eq_iff.mp chosen.manager⟩
    obtain ⟨seconds, _, given⟩ := chosen.timeout
    rw [given, Ne, nanos_ofSeconds_eq_zero_iff]
    rintro rfl
    exact positive given

theorem resolve_of_timeout {rejection : Rejection}
    (failed : chooseSpan flags.timeoutSeconds .timeoutSeconds env.timeoutSeconds standard.timeout = .error rejection) :
    resolve flags env = .error rejection := by
  rw [resolve, failed]
  rfl

theorem resolve_of_requeue {timeout : Span} {rejection : Rejection}
    (chosen : chooseSpan flags.timeoutSeconds .timeoutSeconds env.timeoutSeconds standard.timeout = .ok timeout)
    (failed : chooseSpan flags.requeueSeconds .requeueSeconds env.requeueSeconds standard.requeue = .error rejection) :
    resolve flags env = .error rejection := by
  rw [resolve, chosen, failed]
  rfl

theorem resolve_of_zero {timeout requeue : Span}
    (chosen : chooseSpan flags.timeoutSeconds .timeoutSeconds env.timeoutSeconds standard.timeout = .ok timeout)
    (chosen' : chooseSpan flags.requeueSeconds .requeueSeconds env.requeueSeconds standard.requeue = .ok requeue)
    (zero : timeout.nanos = 0) : resolve flags env = .error .zeroTimeout := by
  rw [resolve, chosen, chosen']
  exact if_pos zero

/-- The time for a call is read first, so it is the one that is complained of. -/
theorem resolve_of_unread_timeout (unread : Unread flags.timeoutSeconds env.timeoutSeconds) :
    ∃ text cause, env.timeoutSeconds = some text ∧
      resolve flags env = .error (.notSeconds .timeoutSeconds text cause) := by
  obtain ⟨text, cause, given, failed⟩ := chooseSpan_of_unread unread .timeoutSeconds standard.timeout
  exact ⟨text, cause, given, resolve_of_timeout failed⟩

theorem resolve_of_unread_requeue (read : ¬ Unread flags.timeoutSeconds env.timeoutSeconds)
    (unread : Unread flags.requeueSeconds env.requeueSeconds) :
    ∃ text cause, env.requeueSeconds = some text ∧
      resolve flags env = .error (.notSeconds .requeueSeconds text cause) := by
  obtain ⟨seconds, settled⟩ := exists_prefers read 30
  obtain ⟨text, cause, given, failed⟩ := chooseSpan_of_unread unread .requeueSeconds standard.requeue
  exact ⟨text, cause, given, resolve_of_requeue (chooseSpan_of_prefers settled _) failed⟩

theorem resolve_of_zero_seconds (read : ¬ Unread flags.requeueSeconds env.requeueSeconds)
    (zero : Prefers Text.HoldsWord 30 flags.timeoutSeconds env.timeoutSeconds 0) :
    resolve flags env = .error .zeroTimeout := by
  obtain ⟨seconds, settled⟩ := exists_prefers read 5
  exact resolve_of_zero (chooseSpan_of_prefers zero _) (chooseSpan_of_prefers settled _) rfl

theorem exists_resolve_eq_ok (read : ¬ Unread flags.timeoutSeconds env.timeoutSeconds)
    (read' : ¬ Unread flags.requeueSeconds env.requeueSeconds)
    (positive : ¬ Prefers Text.HoldsWord 30 flags.timeoutSeconds env.timeoutSeconds 0) :
    ∃ settings, resolve flags env = .ok settings := by
  obtain ⟨timeout, settled⟩ := exists_prefers read 30
  obtain ⟨requeue, settled'⟩ := exists_prefers read' 5
  refine ⟨⟨_, _, .ofSeconds timeout, .ofSeconds requeue⟩, resolve_eq_ok.mpr
    ⟨chooseSpan_of_prefers settled _, chooseSpan_of_prefers settled' _, fun zero => positive ?_, rfl, rfl⟩⟩
  rwa [nanos_ofSeconds_eq_zero_iff.mp zero] at settled

/-- There are three ways to be rejected and no others. -/
theorem exists_resolve_eq_error_iff :
    (∃ rejection, resolve flags env = .error rejection) ↔
      Unread flags.timeoutSeconds env.timeoutSeconds ∨ Unread flags.requeueSeconds env.requeueSeconds ∨
        Prefers Text.HoldsWord 30 flags.timeoutSeconds env.timeoutSeconds 0 := by
  by_cases unread : Unread flags.timeoutSeconds env.timeoutSeconds
  · obtain ⟨text, cause, _, rejected⟩ := resolve_of_unread_timeout unread
    exact ⟨fun _ => .inl unread, fun _ => ⟨_, rejected⟩⟩
  by_cases unread' : Unread flags.requeueSeconds env.requeueSeconds
  · obtain ⟨text, cause, _, rejected⟩ := resolve_of_unread_requeue unread unread'
    exact ⟨fun _ => .inr (.inl unread'), fun _ => ⟨_, rejected⟩⟩
  by_cases zero : Prefers Text.HoldsWord 30 flags.timeoutSeconds env.timeoutSeconds 0
  · exact ⟨fun _ => .inr (.inr zero), fun _ => ⟨_, resolve_of_zero_seconds unread' zero⟩⟩
  obtain ⟨settings, accepted⟩ := exists_resolve_eq_ok unread unread' zero
  constructor
  · rintro ⟨rejection, rejected⟩
    cases rejected.symm.trans accepted
  · rintro (wrong | wrong | wrong)
    · exact absurd wrong unread
    · exact absurd wrong unread'
    · exact absurd wrong zero

/-- A variable counts only where its flag is missing. -/
theorem resolve_congr {other : Environment}
    (agree : ∀ source, ¬ flags.Gives source → other.value? source = env.value? source) :
    resolve flags other = resolve flags env := by
  have timeout := chooseSpan_congr (fun absent => agree .timeoutSeconds (not_not_intro absent))
    .timeoutSeconds standard.timeout
  have requeue := chooseSpan_congr (fun absent => agree .requeueSeconds (not_not_intro absent))
    .requeueSeconds standard.requeue
  have scope := orElse_congr fun absent => agree .namespaceName (not_not_intro absent)
  have manager := orElse_congr fun absent => agree .fieldManager (not_not_intro absent)
  simp only [Environment.value?, Flags.scope?] at timeout requeue scope manager
  simp only [resolve, timeout, requeue, scope, manager]

/-- A variable of white space alone is as good as none. -/
theorem ofProcess_update_of_blank (value? : Variable → Option String) (source : Variable) {text : String}
    (blank : Text.Blank text) :
    Environment.ofProcess (Function.update value? source (some text)) =
      Environment.ofProcess (Function.update value? source none) := by
  refine congrArg Environment.ofLookup (funext fun asked => ?_)
  by_cases same : asked = source
  · subst same
    rw [Function.update_self, Function.update_self, Option.filter_some, if_neg (by simpa using blank)]
    rfl
  · rw [Function.update_of_ne same, Function.update_of_ne same]

/-- Settings are rejected for a number of seconds that cannot be read or for a deadline of zero, and otherwise
they are what flags, environment and standard settings say in this order. A text for which there is a flag
has no influence, be it well formed or not; and a process hands on nothing of a text that is blank. -/
theorem resolve_settles (flags : Flags) (env : Environment) :
    ((∃ rejection, resolve flags env = .error rejection) ↔
      Unread flags.timeoutSeconds env.timeoutSeconds ∨ Unread flags.requeueSeconds env.requeueSeconds ∨
        Prefers Text.HoldsWord 30 flags.timeoutSeconds env.timeoutSeconds 0) ∧
    (Unread flags.timeoutSeconds env.timeoutSeconds → ∃ text cause, env.timeoutSeconds = some text ∧
      resolve flags env = .error (.notSeconds .timeoutSeconds text cause)) ∧
    (¬ Unread flags.timeoutSeconds env.timeoutSeconds → Unread flags.requeueSeconds env.requeueSeconds →
      ∃ text cause, env.requeueSeconds = some text ∧
        resolve flags env = .error (.notSeconds .requeueSeconds text cause)) ∧
    (¬ Unread flags.requeueSeconds env.requeueSeconds →
      Prefers Text.HoldsWord 30 flags.timeoutSeconds env.timeoutSeconds 0 →
      resolve flags env = .error .zeroTimeout) ∧
    (∀ settings, resolve flags env = .ok settings ↔
      Chosen flags env settings ∧ settings.timeout ≠ .ofSeconds 0) ∧
    (∀ other : Environment, (∀ source, ¬ flags.Gives source → other.value? source = env.value? source) →
      resolve flags other = resolve flags env) ∧
    ∀ value? source text, Text.Blank text →
      resolve flags (.ofProcess (Function.update value? source (some text))) =
        resolve flags (.ofProcess (Function.update value? source none)) := by
  refine ⟨exists_resolve_eq_error_iff, resolve_of_unread_timeout, resolve_of_unread_requeue,
    resolve_of_zero_seconds, fun settings => resolve_eq_ok_iff_chosen, fun other => resolve_congr, ?_⟩
  intro value? source text blank
  rw [ofProcess_update_of_blank value? source blank]

/-- The text that cannot be read is reported before the deadline of zero. -/
example : resolve .none ⟨none, none, some " +00 ", some "18446744073709551616"⟩ =
    .error (.notSeconds .requeueSeconds "18446744073709551616" .tooLarge) := rfl

end InstallStatus.Settings
