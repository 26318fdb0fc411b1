import Mathlib
import InstallStatus.Proofs.ServerLaws

/-!
Any number of passes and of other writers at one server. Every pass makes its calls when it likes, is
cut off or not, and a patch that has been sent may reach the server at any time later, even when its
pass is long over. The server takes a patch only over the version that the patch names, and gives every
object it writes a version that the object has never had. Main statement: a patch that is taken finds
the very document that its pass has read, and makes the stored status the one that the pass has
projected from it.
-/

namespace InstallStatus.Interleaving

open Api (Answer Kept ObjectId Store patchedAs)
open ClusterInstanceStatus (ofStored)

/-- A pass under way: what set it off, what it has learnt, the document of the instance as it was told,
and what it does next. -/
structure Running where
  trigger : ClusterDeployment
  seen : List Observation
  read : Option Json
  rest : Pass (Except Failure Action)

/-- A patch under way, with what its pass knew when it sent it. -/
structure Flight where
  trigger : ClusterDeployment
  seen : List Observation
  read : Option Json
  name : String
  namespaceName : String
  body : Json

def Flight.id (flight : Flight) : ObjectId := ⟨.instances, flight.namespaceName, flight.name⟩

structure World where
  store : Store
  /-- The versions that objects have had. -/
  issued : List (ObjectId × String)
  passes : Nat → Option Running
  flights : List Flight

namespace World

/-- An empty server, and nobody there. -/
def empty : World := ⟨.empty, [], fun _ => none, []⟩

def setPass (w : World) (number : Nat) (pass : Option Running) : World :=
  { w with passes := Function.update w.passes number pass }

/-- A write of a document under the version it carries. -/
def write (w : World) (id : ObjectId) (document : Json) : World :=
  { w with
    store := w.store.write id document
    issued := (id, Store.versionOf document) :: w.issued }

def delete (w : World) (id : ObjectId) : World := { w with store := (w.store.delete id).1 }

end World

/-- The server takes a patch that is under way, under a version that the object has never had. -/
structure Accepts (w : World) (flight : Flight) (object result : Json) (after : World) : Prop where
  sent : flight ∈ w.flights
  stored : w.store.get? flight.id = some object
  matching : Store.conflicts object flight.body = false
  patched : ∃ version, (flight.id, version) ∉ w.issued ∧ result = patchedAs version object flight.body
  written : after = w.write flight.id result

/-- One move of a pass, of the server, or of someone else. -/
inductive Step : World → World → Prop
  | begin {w : World} {number : Nat} (trigger : ClusterDeployment) (free : w.passes number = none) :
    Step w (w.setPass number (some ⟨trigger, [], none, Pass.ofTrigger trigger⟩))
  | report {w : World} {number : Nat} {pass : Running} {event : Event}
    {next : Pass (Except Failure Action)} (running : w.passes number = some pass)
    (here : pass.rest = .report event next) :
    Step w (w.setPass number (some { pass with rest := next }))
  | clock {w : World} {number : Nat} {pass : Running} {next : Timestamp → Pass (Except Failure Action)}
    (running : w.passes number = some pass) (here : pass.rest = .clock next) (time : Timestamp) :
    Step w (w.setPass number
      (some { pass with seen := pass.seen ++ [.clock time], rest := next time }))
  /-- A get of a deployment, which the server answers. -/
  | deployment {w : World} {number : Nat} {pass : Running} {name namespaceName : String}
    {next : Except Failure (Option ClusterDeployment) → Pass (Except Failure Action)}
    (running : w.passes number = some pass) (here : pass.rest = .call (.getDeployment name namespaceName) next)
    {answer : Answer}
    (truthful : answer.Truthful (w.store.get? ⟨.deployments, namespaceName, name⟩)) :
    Step w (w.setPass number (some { pass with
      seen := pass.seen ++ [.told (.getDeployment name namespaceName) (answer.found ClusterDeployment.decode)]
      rest := next (answer.found ClusterDeployment.decode) }))
  /-- A get of an instance, which the server answers. -/
  | site {w : World} {number : Nat} {pass : Running} {name namespaceName : String}
    {next : Except Failure (Option ClusterInstance) → Pass (Except Failure Action)}
    (running : w.passes number = some pass) (here : pass.rest = .call (.getInstance name namespaceName) next)
    {answer : Answer}
    (truthful : answer.Truthful (w.store.get? ⟨.instances, namespaceName, name⟩)) :
    Step w (w.setPass number (some { pass with
      seen := pass.seen ++ [.told (.getInstance name namespaceName) (answer.found ClusterInstance.decode)]
      read := answer.document?
      rest := next (answer.found ClusterInstance.decode) }))
  /-- A call that fails, for whatever reason. -/
  | fail {w : World} {number : Nat} {pass : Running} {call : Call}
    {next : Except Failure call.Result → Pass (Except Failure Action)}
    (running : w.passes number = some pass) (here : pass.rest = .call call next) (failure : Failure) :
    Step w (w.setPass number (some { pass with
      seen := pass.seen ++ [.told call (.error failure)], rest := next (.error failure) }))
  /-- A patch is sent. Its pass goes on to wait for the answer. -/
  | send {w : World} {number : Nat} {pass : Running} {name namespaceName : String} {body : Json}
    {next : Except Failure Unit → Pass (Except Failure Action)}
    (running : w.passes number = some pass)
    (here : pass.rest = .call (.patchStatus name namespaceName body) next) :
    Step w { w with
      flights := ⟨pass.trigger, pass.seen, pass.read, name, namespaceName, body⟩ :: w.flights }
  /-- A pass hears that its patch was taken, be it true or not. -/
  | confirm {w : World} {number : Nat} {pass : Running} {name namespaceName : String} {body : Json}
    {next : Except Failure Unit → Pass (Except Failure Action)}
    (running : w.passes number = some pass)
    (here : pass.rest = .call (.patchStatus name namespaceName body) next) :
    Step w (w.setPass number (some { pass with
      seen := pass.seen ++ [.told (.patchStatus name namespaceName body) (.ok ())], rest := next (.ok ()) }))
  /-- A pass is over, or is cut off. What it has sent stays under way. -/
  | leave {w : World} (number : Nat) : Step w (w.setPass number none)
  | accept {w after : World} {flight : Flight} {object result : Json}
    (accepts : Accepts w flight object result after) : Step w after
  /-- Patches under way are refused, or lost. -/
  | drop {w : World} {left : List Flight} (fewer : left ⊆ w.flights) : Step w { w with flights := left }
  /-- Someone else writes an object. -/
  | put {w : World} {id : ObjectId} {document : Json} (kept : id.resource = .instances → Kept id document)
    (fresh : (id, Store.versionOf document) ∉ w.issued) : Step w (w.write id document)
  /-- Someone else deletes an object. -/
  | delete {w : World} (id : ObjectId) : Step w (w.delete id)

/-- The worlds that an empty one can turn into. -/
inductive Reachable : World → Prop
  | empty : Reachable .empty
  | step {w after : World} (reached : Reachable w) (move : Step w after) : Reachable after

/-- A document that the object had in one of its versions. It is the only one it has had in that. -/
structure Known (w : World) (id : ObjectId) (document : Json) : Prop where
  kept : Kept id document
  issued : (id, Store.versionOf document) ∈ w.issued
  only : ∀ stored, w.store.get? id = some stored →
    Store.versionOf stored = Store.versionOf document → stored = document

/-- A pass that was told of an instance has the document that this was read from. -/
def Remembers (w : World) (seen : List Observation) (read : Option Json) : Prop :=
  ∀ name namespaceName site, .told (.getInstance name namespaceName) (.ok (some site)) ∈ seen →
    ∃ document, read = some document ∧ ClusterInstance.decode document = .ok site ∧
      Known w ⟨.instances, namespaceName, name⟩ document

/-- A pass under way that asks as it should and remembers what it was told. -/
def Lawful (w : World) (pass : Running) : Prop :=
  Pass.Keeps pass.trigger pass.seen pass.rest ∧ Remembers w pass.seen pass.read

/-- What holds of the server, of every pass under way and of every patch under way. -/
structure Sound (w : World) : Prop where
  stored : ∀ id document, id.resource = .instances → w.store.get? id = some document →
    Known w id document
  passes : ∀ number pass, w.passes number = some pass → Lawful w pass
  flights : ∀ flight ∈ w.flights,
    Pass.Asks flight.trigger flight.seen
      (.patchStatus flight.name flight.namespaceName flight.body) ∧
    Remembers w flight.seen flight.read

/-- A document stays known as long as no version is given twice to an object. -/
theorem Known.write {w : World} {id other : ObjectId} {document new : Json} (known : Known w id document)
    (fresh : (other, Store.versionOf new) ∉ w.issued) : Known (w.write other new) id document := by
  refine ⟨known.kept, List.mem_cons_of_mem _ known.issued, fun stored found same => ?_⟩
  rw [World.write, Store.get?_write] at found
  split at found
  · rename_i here
    subst here
    cases found
    exact absurd (same ▸ known.issued) fresh
  · exact known.only stored found same

theorem Known.delete {w : World} {id : ObjectId} {document : Json} (known : Known w id document)
    (other : ObjectId) : Known (w.delete other) id document := by
  refine ⟨known.kept, known.issued, fun stored found same => ?_⟩
  rw [World.delete, Store.get?_delete] at found
  split at found
  · cases found
  · exact known.only stored found same

theorem Known.setPass {w : World} {id : ObjectId} {document : Json} (known : Known w id document)
    (number : Nat) (pass : Option Running) : Known (w.setPass number pass) id document :=
  ⟨known.kept, known.issued, known.only⟩

theorem Known.setFlights {w : World} {id : ObjectId} {document : Json} (known : Known w id document)
    (flights : List Flight) : Known { w with flights } id document :=
  ⟨known.kept, known.issued, known.only⟩

/-- What a pass has read is not forgotten by what happens elsewhere, only overtaken. -/
theorem Remembers.mono {w after : World} (known : ∀ id document, Known w id document → Known after id document)
    {seen : List Observation} {read : Option Json} (remembers : Remembers w seen read) :
    Remembers after seen read := by
  intro name namespaceName site told
  obtain ⟨document, held, decoded, knows⟩ := remembers name namespaceName site told
  exact ⟨document, held, decoded, known _ _ knows⟩

/-- To learn anything but the instance leaves what is remembered of the instance. -/
theorem Remembers.append {w : World} {seen : List Observation} {read : Option Json}
    (remembers : Remembers w seen read) {learnt : Observation}
    (other : ∀ name namespaceName site, learnt ≠ .told (.getInstance name namespaceName) (.ok (some site))) :
    Remembers w (seen ++ [learnt]) read := by
  intro name namespaceName site told
  rcases List.mem_append.mp told with earlier | last
  · exact remembers name namespaceName site earlier
  · exact absurd (List.mem_singleton.mp last).symm (other name namespaceName site)

namespace Sound

theorem empty : Sound .empty :=
  ⟨fun _ _ _ found => (nomatch found), fun _ _ found => (nomatch found), fun _ member => (nomatch member)⟩

/-- A move that leaves the passes and the patches as they are. -/
theorem change {w after : World} (sound : Sound w)
    (known : ∀ id document, Known w id document → Known after id document)
    (stored : ∀ id document, id.resource = .instances → after.store.get? id = some document →
      Known after id document)
    (samePasses : after.passes = w.passes) (sameFlights : after.flights = w.flights) : Sound after := by
  refine ⟨stored, fun number pass running => ?_, fun flight member => ?_⟩
  · obtain ⟨keeps, remembers⟩ := sound.passes number pass (samePasses ▸ running)
    exact ⟨keeps, remembers.mono known⟩
  · obtain ⟨asks, remembers⟩ := sound.flights flight (sameFlights ▸ member)
    exact ⟨asks, remembers.mono known⟩

/-- Anybody may write, if the version of the result was never given before. -/
theorem write {w : World} (sound : Sound w) {id : ObjectId} {document : Json}
    (kept : id.resource = .instances → Kept id document)
    (fresh : (id, Store.versionOf document) ∉ w.issued) : Sound (w.write id document) := by
  refine sound.change (fun _ _ known => known.write fresh) (fun other stored kind found => ?_) rfl rfl
  have lookup := found
  rw [World.write, Store.get?_write] at lookup
  split at lookup
  · rename_i here
    subst here
    cases lookup
    refine ⟨kept kind, List.mem_cons_self .., fun again foundAgain _ => ?_⟩
    exact Option.some.inj (foundAgain.symm.trans found)
  · exact (sound.stored other stored kind lookup).write fresh

theorem delete {w : World} (sound : Sound w) (id : ObjectId) : Sound (w.delete id) := by
  refine sound.change (fun _ _ known => known.delete id) (fun other stored kind found => ?_) rfl rfl
  rw [World.delete, Store.get?_delete] at found
  split at found
  · cases found
  · exact (sound.stored other stored kind found).delete id

theorem setPass {w : World} (sound : Sound w) (number : Nat) {pass? : Option Running}
    (lawful : ∀ pass, pass? = some pass → Lawful w pass) : Sound (w.setPass number pass?) := by
  have known : ∀ id document, Known w id document → Known (w.setPass number pass?) id document :=
    fun _ _ known => known.setPass number pass?
  refine ⟨fun id document kind found => known _ _ (sound.stored id document kind found),
    fun other pass running => ?_, fun flight member => ?_⟩
  · have either : Lawful w pass := by
      simp only [World.setPass, Function.update_apply] at running
      split at running
      · exact lawful pass running
      · exact sound.passes other pass running
    exact ⟨either.1, either.2.mono known⟩
  · obtain ⟨asks, remembers⟩ := sound.flights flight member
    exact ⟨asks, remembers.mono known⟩

/-- A pass under way goes on, and is lawful again after that. -/
theorem advance {w : World} (sound : Sound w) {number : Nat} {pass next : Running}
    (running : w.passes number = some pass) (lawful : Lawful w pass → Lawful w next) :
    Sound (w.setPass number (some next)) := by
  refine sound.setPass number fun changed same => ?_
  rw [← Option.some.inj same]
  exact lawful (sound.passes number pass running)

/-- Patches may be sent, lost and delayed, as long as each was asked for by a pass. -/
theorem setFlights {w : World} (sound : Sound w) {flights : List Flight}
    (lawful : ∀ flight ∈ flights, Pass.Asks flight.trigger flight.seen
      (.patchStatus flight.name flight.namespaceName flight.body) ∧ Remembers w flight.seen flight.read) :
    Sound { w with flights } := by
  have known : ∀ id document, Known w id document → Known { w with flights } id document :=
    fun _ _ known => known.setFlights flights
  refine ⟨fun id document kind found => known _ _ (sound.stored id document kind found),
    fun number pass running => ?_, fun flight member => ?_⟩
  · obtain ⟨keeps, remembers⟩ := sound.passes number pass running
    exact ⟨keeps, remembers.mono known⟩
  · obtain ⟨asks, remembers⟩ := lawful flight member
    exact ⟨asks, remembers.mono known⟩

end Sound

/-- What a patch does that the server takes: it finds the document that its pass has read, and makes of
it the document of the projected status. -/
structure Lands (flight : Flight) (object result : Json) : Prop where
  read : flight.read = some object
  rewritten : ∃ ns deployment site time version,
    flight.seen = [.told (.getDeployment flight.trigger.name ns) (.ok (some deployment)),
      .told (.getInstance flight.name flight.namespaceName) (.ok (some site)), .clock time] ∧
    Kept flight.id object ∧ ClusterInstance.decode object = .ok site ∧
    Api.Rewritten flight.id version object site
      (project deployment site.currentStatus time.truncate) result

/-- Where a server accepts a patch, the object is still the one that the pass has read: the versions are
the same. -/
theorem Sound.lands {w after : World} (sound : Sound w) {flight : Flight} {object result : Json}
    (accepts : Accepts w flight object result after) : Lands flight object result := by
  obtain ⟨sent, stored, matching, ⟨version, _, patched⟩, _⟩ := accepts
  obtain ⟨asks, remembers⟩ := sound.flights flight sent
  obtain ⟨ns, owner, place, deployment, site, time, difference, seen, _, differs, name, home,
    body⟩ := asks.of_patchStatus
  obtain ⟨document, held, decoded, known⟩ := remembers owner place site (by simp [seen])
  have described := known.kept.describes decoded
  have sameName : flight.name = owner := name.trans described.name
  have samePlace : flight.namespaceName = place :=
    Option.some.inj (home.symm.trans described.namespaceName)
  subst sameName samePlace
  -- The version in the patch is that of the document that was read, so this is what is stored.
  rw [body, Api.conflicts_patchBody described.version] at matching
  have same : object = document := known.only object stored matching.symm
  subst same
  refine ⟨held, ns, deployment, site, time, version, seen, known.kept, decoded, ?_⟩
  rw [patched, body]
  exact known.kept.rewritten decoded differs version

/-- A pass that is told of an instance remembers the document that this was read from. -/
theorem Sound.told {w : World} (sound : Sound w) {trigger : ClusterDeployment} {seen : List Observation}
    {name namespaceName : String} {answer : Answer}
    (asks : Pass.Asks trigger seen (.getInstance name namespaceName))
    (truthful : answer.Truthful (w.store.get? ⟨.instances, namespaceName, name⟩)) :
    Remembers w (seen ++ [.told (.getInstance name namespaceName) (answer.found ClusterInstance.decode)])
      answer.document? := by
  intro other place found told
  obtain ⟨ns, deployment, before, _⟩ := asks.of_getInstance
  rw [before] at told
  rcases List.mem_append.mp told with earlier | last
  · cases List.mem_singleton.mp earlier
  · have told := List.mem_singleton.mp last
    injection told with sameCall sameAnswer
    injection sameCall with sameName samePlace
    subst sameName samePlace
    obtain ⟨document, stored, held, decoded⟩ := truthful.found sameAnswer.symm
    exact ⟨document, held, decoded, sound.stored _ document rfl stored⟩

/-- One case for each kind of step, by what it does to the world. -/
theorem Sound.step {w after : World} (sound : Sound w) (move : Step w after) : Sound after := by
  cases move with
  | @begin number trigger free =>
    refine sound.setPass number fun pass same => ?_
    cases same
    exact ⟨Pass.keeps_ofTrigger trigger, fun _ _ _ told => nomatch told⟩
  | report running here =>
    refine sound.advance running fun ⟨keeps, remembers⟩ => ?_
    rw [here] at keeps
    exact ⟨keeps, remembers⟩
  | clock running here time =>
    refine sound.advance running fun ⟨keeps, remembers⟩ => ?_
    rw [here] at keeps
    exact ⟨keeps time, remembers.append fun _ _ _ => nofun⟩
  | deployment running here truthful =>
    refine sound.advance running fun ⟨keeps, remembers⟩ => ?_
    rw [here] at keeps
    exact ⟨keeps.2 _, remembers.append fun _ _ _ => nofun⟩
  | site running here truthful =>
    refine sound.advance running fun ⟨keeps, _⟩ => ?_
    rw [here] at keeps
    exact ⟨keeps.2 _, sound.told keeps.1 truthful⟩
  | fail running here failure =>
    refine sound.advance running fun ⟨keeps, remembers⟩ => ?_
    rw [here] at keeps
    refine ⟨keeps.2 _, remembers.append fun _ _ _ same => ?_⟩
    cases same
  | send running here =>
    obtain ⟨keeps, remembers⟩ := sound.passes _ _ running
    rw [here] at keeps
    refine sound.setFlights fun flight member => ?_
    rcases List.mem_cons.mp member with new | earlier
    · subst new
      exact ⟨keeps.1, remembers⟩
    · exact sound.flights flight earlier
  | confirm running here =>
    refine sound.advance running fun ⟨keeps, remembers⟩ => ?_
    rw [here] at keeps
    exact ⟨keeps.2 _, remembers.append fun _ _ _ => nofun⟩
  | leave number => exact sound.setPass number fun pass same => nomatch same
  | accept accepts =>
    obtain ⟨ns, deployment, site, time, version, _, _, _, rewritten⟩ := (sound.lands accepts).rewritten
    obtain ⟨_, _, _, ⟨given, fresh, patched⟩, written⟩ := accepts
    rw [written]
    refine sound.write (fun _ => rewritten.kept) ?_
    rw [patched, Api.versionOf_patchedAs]
    exact fresh
  | drop fewer => exact sound.setFlights fun flight member => sound.flights flight (fewer member)
  | put kept fresh => exact sound.write kept fresh
  | delete id => exact sound.delete id

/-- The invariant of all that can be reached, from which the main statement follows. -/
theorem Reachable.sound {w : World} (reached : Reachable w) : Sound w := by
  induction reached with
  | empty => exact .empty
  | step _ move ih => exact ih.step move

/-- The first pass stands here, in a world of this store. -/
def Stands (store : Store) (issued : List (ObjectId × String)) (pass : Running) : Prop :=
  ∃ w, Reachable w ∧ w.store = store ∧ w.issued = issued ∧ w.passes 0 = some pass

namespace Stands

variable {store : Store} {issued : List (ObjectId × String)} {trigger : ClusterDeployment}
  {seen : List Observation} {read : Option Json}

theorem move {pass next : Running} (stands : Stands store issued pass)
    (step : ∀ w : World, w.store = store → w.passes 0 = some pass → Step w (w.setPass 0 (some next))) :
    Stands store issued next := by
  obtain ⟨w, reached, rfl, same, running⟩ := stands
  refine ⟨_, reached.step (step w rfl running), rfl, same, ?_⟩
  simp only [World.setPass, Function.update_self]

theorem report {event : Event} {next : Pass (Except Failure Action)}
    (stands : Stands store issued ⟨trigger, seen, read, .report event next⟩) :
    Stands store issued ⟨trigger, seen, read, next⟩ :=
  stands.move fun _ _ running => .report running rfl

theorem reportAll {events : List Event} {next : Pass (Except Failure Action)}
    (stands : Stands store issued ⟨trigger, seen, read, Pass.reportAll events next⟩) :
    Stands store issued ⟨trigger, seen, read, next⟩ := by
  induction events with
  | nil => exact stands
  | cons event rest ih => exact ih stands.report

theorem clock {next : Timestamp → Pass (Except Failure Action)}
    (stands : Stands store issued ⟨trigger, seen, read, .clock next⟩) (time : Timestamp) :
    Stands store issued ⟨trigger, seen ++ [.clock time], read, next time⟩ :=
  stands.move fun _ _ running => .clock running rfl time

theorem deployment {name ns : String}
    {next : Except Failure (Option ClusterDeployment) → Pass (Except Failure Action)}
    (stands : Stands store issued ⟨trigger, seen, read, .call (.getDeployment name ns) next⟩)
    {answer : Answer} (truthful : answer.Truthful (store.get? ⟨.deployments, ns, name⟩))
    {found : Except Failure (Option ClusterDeployment)}
    (told : answer.found ClusterDeployment.decode = found) :
    Stands store issued ⟨trigger, seen ++ [.told (.getDeployment name ns) found], read, next found⟩ := by
  refine stands.move fun w same running => ?_
  subst same told
  exact .deployment running rfl truthful

theorem site {name ns : String}
    {next : Except Failure (Option ClusterInstance) → Pass (Except Failure Action)}
    (stands : Stands store issued ⟨trigger, seen, read, .call (.getInstance name ns) next⟩)
    {answer : Answer} (truthful : answer.Truthful (store.get? ⟨.instances, ns, name⟩))
    {found : Except Failure (Option ClusterInstance)}
    (told : answer.found ClusterInstance.decode = found) :
    Stands store issued
      ⟨trigger, seen ++ [.told (.getInstance name ns) found], answer.document?, next found⟩ := by
  refine stands.move fun w same running => ?_
  subst same told
  exact .site running rfl truthful

/-- A pass that is left alone comes to send its patch. -/
theorem sends {deployment : ClusterDeployment} {id : ObjectId} {found : ClusterInstance}
    {first second : Answer} {time : Timestamp} {difference : Json}
    (stands : Stands store issued ⟨trigger, [], none, Pass.ofTrigger trigger⟩)
    (guides : Api.Guides store trigger deployment id found first second)
    (differs : found.currentStatus.patchTo (project deployment found.currentStatus time.truncate) =
      .ok (some difference))
    (lives : found.metadata.namespaceName = some id.namespaceName) :
    ∃ w seen, Reachable w ∧ w.store = store ∧ w.issued = issued ∧
      ⟨trigger, seen, second.document?, found.name, id.namespaceName,
        Pass.patchBody found difference⟩ ∈ w.flights := by
  obtain ⟨⟨ns, leads, truthful⟩, foundDeployment, truthfulSite, foundSite⟩ := guides
  simp only [Pass.ofTrigger, leads.placed] at stands
  have asked := stands.report.deployment truthful foundDeployment
  change Stands _ _ ⟨_, _, _, (Pass.resolve deployment).andThen _⟩ at asked
  rw [Pass.resolve_of_leads leads] at asked
  have timed := ((asked.site truthfulSite foundSite).clock time).reportAll
  change Stands _ _ ⟨_, _, _, (Pass.write found found.currentStatus
    (project deployment found.currentStatus time.truncate)).andThen _⟩ at timed
  rw [Pass.write_andThen_of_differs differs lives] at timed
  obtain ⟨w, reached, same, issued, running⟩ := timed
  exact ⟨_, _, reached.step (.send running rfl), same, issued, List.mem_cons_self ..⟩

end Stands

/-- No update is lost. Whenever the server takes a patch, the stored document is the one that the pass
has read, and the status in it becomes the projection of the one that was there, for the deployment and
the time that the pass has gone by. So general conditions other than the summary stay as they were, and
so does all of the document that is no part of a status. -/
theorem accepted_patch {w after : World} (reached : Reachable w) {flight : Flight} {object result : Json}
    (accepts : Accepts w flight object result after) :
    flight.read = some object ∧ after.store.get? flight.id = some result ∧
    ∃ ns deployment site time before,
      flight.seen = [.told (.getDeployment flight.trigger.name ns) (.ok (some deployment)),
        .told (.getInstance flight.name flight.namespaceName) (.ok (some site)), .clock time] ∧
      ClusterInstance.decode object = .ok site ∧
      ofStored (object.fields.get? "status") = .ok before ∧
      ofStored (result.fields.get? "status") = .ok (project deployment before time.truncate) ∧
      (∀ type, type ≠ Provisioned.conditionType →
        (project deployment before time.truncate).condition? type = before.condition? type) ∧
      (∀ key, key ∉ ClusterInstanceStatus.record.keys →
        (result.member "status").fields.get? key = (object.member "status").fields.get? key) ∧
      (∀ key, key ≠ "metadata" → key ≠ "status" → result.fields.get? key = object.fields.get? key) ∧
      ∀ other, other ≠ flight.id → after.store.get? other = w.store.get? other := by
  obtain ⟨read, ns, deployment, site, time, version, seen, kept, decoded, rewritten⟩ :=
    reached.sound.lands accepts
  have before := (kept.describes decoded).status
  have status := (rewritten.kept.describes rewritten.decoded).status
  obtain ⟨_, _, _, _, written⟩ := accepts
  refine ⟨read, ?_, ns, deployment, site, time, site.currentStatus, seen, decoded, before, status,
    fun type other => condition?_project deployment site.currentStatus time.truncate other,
    rewritten.statusElsewhere, rewritten.elsewhere, fun other apart => ?_⟩
  · rw [written, World.write, Store.get?_write, if_pos rfl]
  · rw [written, World.write, Store.get?_write, if_neg apart]

/-- A pass that nobody disturbs, over an instance that carries a condition of someone else. -/
theorem accepted_patch_undisturbed : ∃ w after flight result,
    Reachable w ∧ Accepts w flight Api.sampleSite result after ∧ flight.read = some Api.sampleSite ∧
      ∃ status, ofStored (result.fields.get? "status") = .ok status ∧
        (status.condition? "Ready").isSome = true := by
  obtain ⟨d, s, difference, _, _, decodedSite, ready, differs, guides⟩ := Api.guides_sample
  have described := Api.kept_sampleSite.describes decodedSite
  have begun : Stands Api.sampleStore [(Api.sampleSiteId, "4"), (Api.sampleDeploymentId, "3")]
      ⟨d, [], none, Pass.ofTrigger d⟩ := by
    have first : Reachable _ := Reachable.empty.step
      (@Step.put _ Api.sampleDeploymentId Api.sampleDeployment (fun other => nomatch other) (by decide))
    have second : Reachable _ := first.step
      (@Step.put _ Api.sampleSiteId Api.sampleSite (fun _ => Api.kept_sampleSite) (by decide))
    exact ⟨_, second.step (@Step.begin _ 0 d rfl), rfl, rfl, rfl⟩
  obtain ⟨w, seen, reached, store, issued, sent⟩ :=
    begun.sends guides differs described.namespaceName
  rw [described.name] at sent
  have fresh : (Api.sampleSiteId, "5") ∉ w.issued := by
    rw [issued]
    decide
  have takes := Api.takes_sampleSite decodedSite difference
  rw [described.name, ← store] at takes
  have accepts := Accepts.mk sent takes.stored takes.matching ⟨"5", fresh, rfl⟩ rfl
  obtain ⟨read, _, _, _, site, time, before, _, decoded, found, reads, others, _⟩ :=
    accepted_patch reached accepts
  refine ⟨w, _, _, _, reached, accepts, read, _, reads, ?_⟩
  rw [others "Ready" (by decide)]
  rw [described.status] at found
  cases found
  exact ready

end InstallStatus.Interleaving
