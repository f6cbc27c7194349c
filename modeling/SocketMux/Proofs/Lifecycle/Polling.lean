import SocketMux.Proofs.Lifecycle.Turns

/-!
# Listeners, turn by turn

An accept that waits holds the socket of its listener. It is woken by connections and by the
close, but what it finds is only seen when it is polled, and meanwhile anything may happen. A
`ListenerCourse` takes one `ListenerTurn` after another, in whichever order they are allowed.

However the turns follow each other, an accept that looks is refused exactly if the close was
announced, and only an accept that had looked before may still take a connection afterwards. What
is queued stays so until it is accepted or reset, and the listener is out of reach as soon as it
has let go of its socket and no accept holds that any more (`ListenerCourse.obeys`).
-/

namespace SocketMux

/-- A course takes turns one after another. The latest turn comes first. -/
inductive ListenerCourse (which : Nat) (start : ListenerPoint) :
    List ListenerInstant → ListenerPoint → Prop where
  | nothing : ListenerCourse which start [] start
  | more {instants : List ListenerInstant} {point : ListenerPoint}
      (earlier : ListenerCourse which start instants point) (turn : ListenerTurn)
      (allowed : turn.Allowed which point) :
      ListenerCourse which start (⟨point, turn⟩ :: instants) (point.take which turn)

namespace ListenerPoint

/-- What accepts on a listener do in a course that leads to a point. -/
structure AcceptsUntilClosed (point : ListenerPoint) (which : Nat)
    (instants : List ListenerInstant) : Prop where
  /-- An accept that looks returns that the listener is closed exactly if that was announced. -/
  looks : ∀ instant ∈ instants, instant.turn.looks = true →
    (instant.returned? which = some (.error .closed) ↔ instant.point.isAnnounced = true)
  /-- An accept that returns that the listener is closed finds it closed. -/
  tells : ∀ instant ∈ instants, instant.returned? which = some (.error .closed) →
    instant.point.mux.hasClosed which = true
  /-- After the announcement no accept returns a connection, whether it waits or is called later,
  but one that had looked before and was to try the queue next. -/
  refuses : instants.Pairwise fun later earlier => (earlier.after which).isAnnounced = true →
    ∀ connection, later.returned? which = some (.ok connection) →
      ∃ pending ∈ (earlier.after which).looking, later.turn = .take pending
  /-- A listener is marked before the close is announced, and lets go of its socket last. -/
  order : ∀ instant ∈ instants,
    ((instant.after which).isReleased = true → (instant.after which).isAnnounced = true) ∧
      ((instant.after which).isAnnounced = true →
        (instant.after which).mux.hasClosed which = true)
  /-- No step of a close is undone. -/
  stays : (∀ instant ∈ instants, ClosesOn which instant.point (instant.after which) ∧
      ClosesOn which (instant.after which) point) ∧
    instants.Pairwise fun later earlier => ClosesOn which (earlier.after which) later.point
  /-- What is queued is queued still, or was reset or accepted in the meantime. -/
  resets : ∀ later instant earlier, instants = later ++ instant :: earlier →
    ∀ connection ∈ instant.point.mux.queued which, connection ∈ point.mux.queued which ∨
      ∃ next ∈ later ++ [instant], (next.after which).mux.host.HasReset connection ∨
        next.returned? which = some (.ok connection)
  /-- An accept that waits goes on to wait until it returns or is given up. -/
  answers : ∀ later instant earlier, instants = later ++ instant :: earlier →
    ∀ pending ∈ instant.point.mux.waiters which, pending ∈ point.mux.waiters which ∨
      ∃ next ∈ later ++ [instant], next.Ends which pending
  /-- The listener is out of reach as soon as it has let go of its socket and nobody else holds
  it. -/
  shut : point.isReleased = true → point.mux.waiters which = [] → point.mux.IsShut which
  /-- It is so at the latest when all who held the socket have been polled, or have ended in
  another way. -/
  freed : ∀ later instant earlier, instants = later ++ instant :: earlier →
    (instant.after which).isReleased = true →
    (∀ pending ∈ (instant.after which).mux.waiters which,
      ∃ next ∈ later, next.turn = .look pending ∨ next.Ends which pending) →
    point.mux.IsShut which

end ListenerPoint

namespace ListenerCourse

open ListenerPoint

variable {which : Nat} {start point : ListenerPoint} {instants : List ListenerInstant}

theorem trans {after : ListenerPoint} {later : List ListenerInstant}
    (first : ListenerCourse which start instants point)
    (second : ListenerCourse which point later after) :
    ListenerCourse which start (later ++ instants) after := by
  induction second with
  | nothing => exact first
  | more _ turn allowed inductionHypothesis => exact inductionHypothesis.more turn allowed

theorem single {turn : ListenerTurn} (allowed : turn.Allowed which point) :
    ListenerCourse which point [⟨point, turn⟩] (point.take which turn) := nothing.more turn allowed

theorem tended (course : ListenerCourse which start instants point)
    (tended : start.Tended which) :
    point.Tended which ∧ ∀ instant ∈ instants,
      instant.point.Tended which ∧ instant.turn.Allowed which instant.point := by
  induction course with
  | nothing => exact ⟨tended, nofun⟩
  | more _ turn allowed inductionHypothesis =>
    obtain ⟨stands, all⟩ := inductionHypothesis
    refine ⟨stands.take allowed, ?_⟩
    rintro instant (_ | ⟨_, member⟩)
    · exact ⟨stands, allowed⟩
    · exact all instant member

/-- The steps of a close that are taken at some point of a course are taken at each later point. -/
theorem stays (course : ListenerCourse which start instants point)
    (tended : start.Tended which) :
    (∀ instant ∈ instants, ClosesOn which (instant.after which) point) ∧
      instants.Pairwise fun later earlier => ClosesOn which (earlier.after which) later.point := by
  induction course with
  | nothing => exact ⟨nofun, .nil⟩
  | more earlier turn allowed inductionHypothesis =>
    obtain ⟨closes, pairwise⟩ := inductionHypothesis
    have step := (earlier.tended tended).1.closesOn allowed
    refine ⟨?_, List.pairwise_cons.mpr ⟨closes, pairwise⟩⟩
    rintro instant (_ | ⟨_, member⟩)
    · exact .refl which _
    · exact (closes instant member).trans step

/-- What holds at some point of a course, and is kept by each turn from there on that does not end
it, holds at the end or was ended in between. -/
theorem persists (course : ListenerCourse which start instants point)
    (holds : ListenerPoint → Prop) {ends : ListenerInstant → Prop}
    {later earlier : List ListenerInstant} {instant : ListenerInstant}
    (split : instants = later ++ instant :: earlier)
    (kept : ∀ next ∈ instants, holds next.point → holds (next.after which) ∨ ends next)
    (begins : holds instant.point) : holds point ∨ ∃ next ∈ later ++ [instant], ends next := by
  induction course generalizing later with
  | nothing => simp at split
  | more _ turn _ inductionHypothesis =>
    have last := kept _ List.mem_cons_self
    cases later with
    | nil =>
      obtain ⟨rfl, rfl⟩ := List.cons.inj split
      exact (last begins).imp_right fun ended => ⟨_, List.mem_cons_self, ended⟩
    | cons _ between =>
      obtain ⟨rfl, rfl⟩ := List.cons.inj split
      obtain still | ⟨next, member, ended⟩ := inductionHypothesis rfl fun next among =>
        kept next (List.mem_cons_of_mem _ among)
      · exact (last still).imp_right fun ended => ⟨_, List.mem_cons_self, ended⟩
      · exact .inr ⟨next, List.mem_cons_of_mem _ member, ended⟩

/-- Once a listener has let go of its socket, an accept that is polled ends, and so it does not
hold the socket any more. -/
theorem freed (course : ListenerCourse which start instants point) (tended : start.Tended which)
    {later earlier : List ListenerInstant} {instant : ListenerInstant}
    (split : instants = later ++ instant :: earlier)
    (released : (instant.after which).isReleased = true) {pending : Nat}
    (ended : ∃ next ∈ later, next.turn = .look pending ∨ next.Ends which pending) :
    pending ∉ point.mux.waiters which := by
  obtain ⟨next, member, ends⟩ := ended
  obtain ⟨closes, pairwise⟩ := course.stays tended
  obtain ⟨stands, allowed⟩ :=
    (course.tended tended).2 next (split ▸ List.mem_append_left _ member)
  have followed : ClosesOn which (instant.after which) next.point :=
    (List.pairwise_append.mp (split ▸ pairwise)).2.2 next member instant List.mem_cons_self
  have released := followed.released released
  have ends : next.Ends which pending := by
    obtain polled | ends := ends
    · have looks : next.turn.looks = true := by rw [polled]; rfl
      have refused := (stands.returned?_eq_closed_iff allowed looks).mpr (stands.released released)
      exact .inr ⟨by rw [polled]; rfl, Option.isSome_of_eq_some refused⟩
    · exact ends
  have gone := stands.released_of_ends allowed ends
  have onwards := closes next (split ▸ List.mem_append_left _ member)
  exact fun holds => gone (onwards.waiters ((stands.closesOn allowed).released released) holds)

/-- However the turns at a listener follow each other, accepts return connections until the close
is announced, and those that look afterwards are refused. The listener is out of reach once it has
let go of its socket and no accept holds that any more. -/
theorem obeys (course : ListenerCourse which start instants point)
    (tended : start.Tended which) : point.AcceptsUntilClosed which instants := by
  obtain ⟨stands, all⟩ := course.tended tended
  obtain ⟨closes, stays⟩ := course.stays tended
  have after : ∀ instant ∈ instants, (instant.after which).Tended which :=
    fun instant member => (all instant member).1.take (all instant member).2
  have step : ∀ instant ∈ instants, ClosesOn which instant.point (instant.after which) :=
    fun instant member => (all instant member).1.closesOn (all instant member).2
  refine ⟨?_, ?_, ?_, ?_, ⟨fun instant member => ⟨step instant member, closes instant member⟩,
    stays⟩, ?_, ?_, stands.isShut, ?_⟩
  · exact fun instant member =>
      (all instant member).1.returned?_eq_closed_iff (all instant member).2
  · intro instant member refused
    obtain ⟨stands, allowed⟩ := all instant member
    exact stands.announced (stands.announced_of_refused allowed refused)
  · refine stays.imp_of_mem fun {later earlier} member _ closesOn announced connection => ?_
    intro accepted
    obtain ⟨stands, allowed⟩ := all later member
    obtain ⟨pending, looking, takes⟩ := stands.take_of_accepted allowed accepted
    exact ⟨pending, closesOn.looking announced looking, takes⟩
  · exact fun instant member => ⟨(after instant member).released, (after instant member).announced⟩
  · intro later instant earlier split connection waits
    exact course.persists (fun point => connection ∈ point.mux.queued which) split
      (fun next among waits => (all next among).1.queued_take (all next among).2 waits) waits
  · intro later instant earlier split pending waits
    exact course.persists (fun point => pending ∈ point.mux.waiters which) split
      (fun next among waits => (all next among).1.waiters_take (all next among).2 waits) waits
  · intro later instant earlier split released ended
    have onwards := closes instant (split ▸ List.mem_append_right _ List.mem_cons_self)
    refine stands.isShut (onwards.released released) (List.eq_nil_iff_forall_not_mem.mpr ?_)
    intro pending holds
    have held := onwards.waiters released holds
    exact course.freed tended split released (ended pending held) holds

end ListenerCourse

end SocketMux
