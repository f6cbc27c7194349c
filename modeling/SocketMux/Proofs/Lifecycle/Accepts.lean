import SocketMux.Proofs.Lifecycle.Calm

/-!
# Accepts in a run

A run is a course of turns at each of its listeners, whatever is done in it and in whichever order:
closing an endpoint, a factory or everything that is live are turns at listeners like the calls of
accepts and the connections that arrive. Whoever goes on from a run may take single turns, so that
a close is interrupted between its steps, and an accept that was woken is polled as late as it
likes.

Accepts return connections until the close of their listener is announced, and those that look
afterwards are refused (`Run.acceptsUntilClosed`). They are not refused from the close on: an
accept may have looked just before, and as long as it holds the socket the listener is in reach and
its queue stands (`Run.not_closedAtOnce`).
-/

namespace SocketMux

/-- Whether turns at a listener are what an action does there, from rest to rest. -/
structure Moment.TakesAt (moment : Moment) (which : Nat) (turns : List ListenerInstant) : Prop
    where
  course : ListenerCourse which (moment.state.atRest which) turns
    ((moment.state.perform moment.action).atRest which)
  /-- An accept that is tried on the listener returns in these turns what it returns at a stroke. -/
  attempts : moment.action = .accept which → (moment.state.listeners.get? which).isSome →
    Multiplexer.IsCall which moment.state (moment.state.perform moment.action)
      (moment.state.attempted? which) turns
  /-- So does an accept that is begun. -/
  begins : moment.action = .beginAccept which → (moment.state.listeners.get? which).isSome →
    Multiplexer.IsCall which moment.state (moment.state.perform moment.action)
      (moment.state.begun? which) turns

/-- Whether a course at a listener goes through a run: it passes by each moment, and then takes the
turns of the action. -/
structure ListenerTrace (which : Nat) (start : Multiplexer) (history : History)
    (instants : List ListenerInstant) : Prop where
  passes : ∀ moment ∈ history, ∃ later turns earlier, instants = later ++ (turns ++ earlier) ∧
    ListenerCourse which (start.atRest which) earlier (moment.state.atRest which) ∧
    moment.TakesAt which turns

variable {which : Nat} {start mux : Multiplexer} {history : History} {action : Action}
  {instants : List ListenerInstant}

/-- An action is a course at each listener, in which the accepts that it calls are turns. -/
theorem Multiplexer.Calm.perform_takesAt (calm : mux.Calm)
    (approaches : Moment.Approaches ⟨mux, action⟩) (which : Nat) :
    ∃ turns, Moment.TakesAt ⟨mux, action⟩ which turns := by
  by_cases attempts : action = .accept which ∧ (mux.listeners.get? which).isSome
  · obtain ⟨rfl, present⟩ := attempts
    obtain ⟨listener, found⟩ := Option.isSome_iff_exists.mp present
    obtain ⟨state, tends⟩ := (calm.listeners which listener found).tends
    obtain ⟨turns, isCall⟩ := acceptOn_isCall found tends
    exact ⟨turns, isCall.course, fun _ _ => isCall, nofun⟩
  · by_cases begins : action = .beginAccept which ∧ (mux.listeners.get? which).isSome
    · obtain ⟨rfl, present⟩ := begins
      obtain ⟨listener, found⟩ := Option.isSome_iff_exists.mp present
      obtain ⟨state, tends⟩ := (calm.listeners which listener found).tends
      obtain ⟨turns, isCall⟩ := beginAcceptOn_isCall found tends.found
      exact ⟨turns, isCall.course, nofun, fun _ _ => isCall⟩
    · obtain ⟨turns, course⟩ := (calm.steps (perform_steps approaches)).courses which
      exact ⟨turns, course, fun same found => absurd ⟨same, found⟩ attempts,
        fun same found => absurd ⟨same, found⟩ begins⟩

namespace ListenerTrace

theorem nothing : ListenerTrace which start [] [] := ⟨by simp⟩

/-- An action adds its turns to those of a run. -/
theorem more (trace : ListenerTrace which start history instants)
    (course : ListenerCourse which (start.atRest which) instants (mux.atRest which))
    {turns : List ListenerInstant} (takes : Moment.TakesAt ⟨mux, action⟩ which turns) :
    ListenerTrace which start (⟨mux, action⟩ :: history) (turns ++ instants) := by
  refine ⟨?_⟩
  rintro moment (_ | ⟨_, member⟩)
  · exact ⟨[], turns, instants, rfl, course, takes⟩
  · obtain ⟨later, between, earlier, rfl, stands, took⟩ := trace.passes moment member
    exact ⟨turns ++ later, between, earlier, (List.append_assoc _ _ _).symm, stands, took⟩

end ListenerTrace

/-- A run that starts between two actions is a course at each listener. -/
theorem Run.course (run : Run start history mux) (calm : start.Calm)
    (approached : ∀ moment ∈ history, moment.Approaches) (which : Nat) :
    mux.Calm ∧ ∃ instants, ListenerCourse which (start.atRest which) instants (mux.atRest which) ∧
      ListenerTrace which start history instants := by
  refine run.induction (motive := fun history mux => mux.Calm ∧ ∃ instants,
    ListenerCourse which (start.atRest which) instants (mux.atRest which) ∧
      ListenerTrace which start history instants) approached ⟨calm, [], .nothing, .nothing⟩ ?_
  intro history mux action approaches ⟨calm, instants, course, trace⟩
  obtain ⟨turns, takes⟩ := calm.perform_takesAt approaches which
  exact ⟨(calm.steps (Multiplexer.perform_steps approaches)).calm, turns ++ instants,
    course.trans takes.course, trace.more course takes⟩

/-- In whichever order accepts are called, connections arrive, and endpoints, factories and
everything that is live are closed: an accept on a listener that looks for the close returns that
the listener is closed exactly if that was announced, and afterwards only an accept that had looked
before may still return a connection. A listener that is closed stays closed. What is queued is
accepted or reset, and nobody reaches the listener any more, at the latest when all accepts that
held its socket have been polled or given up. -/
theorem Run.acceptsUntilClosed {host : Host} {own : PeerCredentials} {point : ListenerPoint}
    {later : List ListenerInstant} (run : Run (.initial host own) history mux)
    (known : ∀ socket, ∀ pending ∈ host.waitingAt socket, pending < host.accepts.size)
    (approached : ∀ moment ∈ history, moment.Approaches)
    (course : ListenerCourse which (mux.atRest which) later point) :
    ∃ earlier,
      ListenerCourse which ((Multiplexer.initial host own).atRest which) earlier
        (mux.atRest which) ∧
      ListenerTrace which (.initial host own) history earlier ∧
      point.AcceptsUntilClosed which (later ++ earlier) ∧
      (mux.hasClosed which = true → mux.waiters which = [] ∧ mux.IsShut which) := by
  have begins := Multiplexer.Calm.initial own known
  obtain ⟨calm, earlier, former, trace⟩ := run.course begins approached which
  refine ⟨earlier, former, trace, (former.trans course).obeys (begins.tended which),
    fun closed => ?_⟩
  have nobody := calm.nobody closed
  exact ⟨nobody, (calm.tended which).isShut closed nobody⟩

/-- A run in which only the multiplexer itself acts leaves listeners alone otherwise. -/
theorem History.approaches_of_inside (inside : history.all (·.action.isInside) = true) :
    ∀ moment ∈ history, moment.Approaches := fun moment member =>
  Moment.approaches_of_inside (List.all_eq_true.mp inside moment member)

/-- A connection may arrive at a listener whose socket is open. -/
theorem ListenerTurn.arrive_allowed {point : ListenerPoint}
    (isOpen : (point.mux.listeners.get? which).any (fun listener =>
      (point.mux.host.sockets.get? listener.socket).any ListeningSocket.isOpen) = true) :
    ListenerTurn.arrive.Allowed which point := by
  obtain ⟨listener, found, isOpen⟩ := (Option.any_eq_true _ _).mp isOpen
  obtain ⟨state, there, isOpen⟩ := (Option.any_eq_true _ _).mp isOpen
  exact ⟨listener, state, found, there, isOpen⟩

/-- One accept takes a connection. Another one waits, and is yet to be polled with a connection
queued when the listener is closed: it holds the socket until it is polled and refused, and the
connection is then reset. -/
theorem Run.acceptsUntilClosed_unpolled :
    let actions := [.makeRootFactory, .createServer 0 100005, .beginAccept 0]
    let begun := Multiplexer.blank.after actions
    let connected := begun.perform (.outside (begun.host.connectTo 0).2)
    let mux := connected.perform (.beginAccept 0)
    let arrived := (mux.atRest 0).take 0 .arrive
    let announced := (arrived.take 0 .mark).take 0 .announce
    let released := announced.take 0 .release
    let point := released.take 0 (.look 1)
    mux.host.accepts.get? 0 = some (.accepted 0) ∧ released.mux.queued 0 = [1] ∧
      released.returned? 0 (.look 1) = some (.error .closed) ∧
      (point.mux.host.connections.get? 1).map (fun connection => connection.caller.reset) =
        some true ∧
      point.mux.IsShut 0 := by
  intro actions begun connected mux arrived announced released point
  have reads : mux.host.accepts.get? 0 = some (.accepted 0) ∧ released.mux.queued 0 = [1] ∧
      released.mux.waiters 0 = [1] ∧ released.isAnnounced = true ∧
      released.isReleased = true ∧ (arrived.take 0 .mark).mux.hasClosed 0 = true ∧
      (point.mux.host.connections.get? 1).map (fun connection => connection.caller.reset) =
        some true := by decide +kernel
  obtain ⟨accepted, queued, waiters, isAnnounced, isReleased, marked, reset⟩ := reads
  have listens : (begun.host.sockets.get? 0).any ListeningSocket.isOpen = true := by decide +kernel
  obtain ⟨state, found, isOpen⟩ := (Option.any_eq_true _ _).mp listens
  let first := Multiplexer.blank.momentsOf actions []
  let history : History :=
    ⟨connected, .beginAccept 0⟩ :: ⟨begun, .outside (begun.host.connectTo 0).2⟩ :: first
  have run : Run .blank history mux :=
    ((Run.ofActions .blank actions).more (.outside _)).more (.beginAccept 0)
  have approached : ∀ moment ∈ history, moment.Approaches := by
    intro moment member
    simp only [history, List.mem_cons] at member
    obtain rfl | rfl | member := member
    · exact Moment.approaches_of_inside rfl
    · rintro host ⟨⟩
      exact .connected found isOpen
    · exact History.approaches_of_inside (by decide +kernel) moment member
  have arrive : ListenerTurn.arrive.Allowed 0 (mux.atRest 0) :=
    ListenerTurn.arrive_allowed (by decide +kernel)
  have mark : ListenerTurn.mark.Allowed 0 arrived := trivial
  have announce : ListenerTurn.announce.Allowed 0 (arrived.take 0 .mark) := marked
  have release : ListenerTurn.release.Allowed 0 announced :=
    ⟨by decide +kernel, by decide +kernel⟩
  have look : (ListenerTurn.look 1).Allowed 0 released :=
    ⟨waiters ▸ List.mem_cons_self, List.not_mem_nil⟩
  have closed : ListenerCourse 0 (mux.atRest 0) _ released :=
    (((ListenerCourse.nothing.more .arrive arrive).more .mark mark).more .announce announce).more
      .release release
  have course : ListenerCourse 0 (mux.atRest 0) _ point := closed.more (.look 1) look
  obtain ⟨earlier, -, -, obeys, -⟩ := run.acceptsUntilClosed (fun _ _ => nofun) approached course
  refine ⟨accepted, queued, ?_, reset, ?_⟩
  · exact (obeys.looks ⟨released, .look 1⟩ List.mem_cons_self rfl).mpr isAnnounced
  · refine obeys.freed [⟨released, .look 1⟩] ⟨announced, .release⟩ _ rfl isReleased ?_
    intro pending waits
    have same : pending = 1 := List.mem_singleton.mp (waiters ▸ waits)
    exact ⟨_, List.mem_singleton_self _, .inl (same ▸ rfl)⟩

/-- What holds of every course at the first listener that goes on from a run on a bare host. -/
def Run.Always (holds : List ListenerInstant → ListenerPoint → Prop) : Prop :=
  ∀ history mux instants point, Run .blank history mux →
    (∀ moment ∈ history, moment.Approaches) →
    ListenerCourse 0 (mux.atRest 0) instants point → holds instants point

/-- An accept that has looked before the close still returns a connection after it, so neither are
all accepts refused from the close on, nor does an accept return that the listener is closed
whenever it is. Nor is the queue reset with the close, or the listener out of reach then, while an
accept holds the socket. -/
theorem Run.not_closedAtOnce :
    (¬Run.Always fun instants _ => ∀ instant ∈ instants, (instant.returned? 0).isSome = true →
      (instant.returned? 0 = some (.error .closed) ↔
        (instant.after 0).mux.hasClosed 0 = true)) ∧
    (¬Run.Always fun instants _ => instants.Pairwise fun later earlier =>
      (earlier.after 0).isReleased = true →
        ∀ connection, later.returned? 0 ≠ some (.ok connection)) ∧
    (¬Run.Always fun _ point => point.isReleased = true → point.mux.queued 0 = []) ∧
    ¬Run.Always fun _ point => point.isReleased = true → ∀ listener,
      point.mux.listeners.get? 0 = some listener →
        ∀ path, point.mux.host.reach path ≠ .ok listener.socket := by
  let actions : List Action := [.makeRootFactory, .createServer 0 100005, .beginAccept 0]
  let mux := Multiplexer.blank.after actions
  let looked := (mux.atRest 0).take 0 (.look 0)
  let arrived := looked.take 0 .arrive
  let announced := (arrived.take 0 .mark).take 0 .announce
  let released := announced.take 0 .release
  let path := Text.Utf8.bytesOf "/100005.rmi"
  let history := Multiplexer.blank.momentsOf actions []
  have run : Run .blank history mux := .ofActions .blank actions
  have approached : ∀ moment ∈ history, moment.Approaches :=
    History.approaches_of_inside (by decide +kernel)
  have look : (ListenerTurn.look 0).Allowed 0 (mux.atRest 0) :=
    ⟨by decide +kernel, List.not_mem_nil⟩
  have arrive : ListenerTurn.arrive.Allowed 0 looked :=
    ListenerTurn.arrive_allowed (by decide +kernel)
  have mark : ListenerTurn.mark.Allowed 0 arrived := trivial
  have marked : (arrived.take 0 .mark).mux.hasClosed 0 = true := by decide +kernel
  have announce : ListenerTurn.announce.Allowed 0 (arrived.take 0 .mark) := marked
  have release : ListenerTurn.release.Allowed 0 announced :=
    ⟨by decide +kernel, by decide +kernel⟩
  have looking : 0 ∈ released.looking := by decide +kernel
  have take : (ListenerTurn.take 0).Allowed 0 released := looking
  have closed : ListenerCourse 0 (mux.atRest 0) _ released :=
    ((((ListenerCourse.nothing.more (.look 0) look).more .arrive arrive).more .mark mark).more
      .announce announce).more .release release
  have course : ListenerCourse 0 (mux.atRest 0) _ (released.take 0 (.take 0)) :=
    closed.more (.take 0) take
  have accepted : (released.take 0 (.take 0)).mux.host.accepts.get? 0 = some (.accepted 0) := by
    decide +kernel
  have returns : released.returned? 0 (.take 0) = some (.ok 0) := by
    have polled : released.polled? (.take 0) = some 0 := rfl
    rw [ListenerPoint.returned?, polled, Option.bind_some, accepted]
    rfl
  have isReleased : released.isReleased = true := by decide +kernel
  refine ⟨fun always => ?_, fun always => ?_, fun always => ?_, fun always => ?_⟩
  · have refused := always history mux _ _ run approached course ⟨released, .take 0⟩
      List.mem_cons_self (Option.isSome_of_eq_some returns)
    have shut : ((released.take 0 (.take 0)).mux.hasClosed 0) = true := by decide +kernel
    cases (refused.mpr shut).symm.trans returns
  · have refuses := List.pairwise_cons.mp (always history mux _ _ run approached course)
    exact refuses.1 ⟨announced, .release⟩ List.mem_cons_self isReleased 0 returns
  · have empty := always history mux _ _ run approached closed isReleased
    have queued : released.mux.queued 0 = [0] := by decide +kernel
    rw [queued] at empty
    cases empty
  · have stands : (released.mux.listeners.get? 0).any (fun listener =>
        decide (released.mux.host.reach path = .ok listener.socket)) = true := by decide +kernel
    obtain ⟨listener, found, reached⟩ := (Option.any_eq_true _ _).mp stands
    exact always history mux _ _ run approached closed isReleased listener found path
      (of_decide_eq_true reached)

end SocketMux
