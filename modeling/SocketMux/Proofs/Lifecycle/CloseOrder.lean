import SocketMux.Proofs.Lifecycle.FactoryClose
import SocketMux.Proofs.Lifecycle.FileNames
import SocketMux.Proofs.Lifecycle.ListenerClose
import SocketMux.Proofs.Lifecycle.OwnFiles
import SocketMux.Proofs.Lifecycle.SocketFiles

/-!
# Closing listeners in any order

A registry yields its listeners in any order. The close of a factory comes to the same all the
same (`Run.closesInAnyOrder`): the state after it is the same but for the order in which ports
were given back, and its errors are those that the listeners' own closes come to, each once,
without outages. This takes that returned ports are answered alike in any order, which goes
without saying for pools at hand and scripts (`Multiplexer.ReturnsBy.of_local`), and that no
listener clears a link on the way to the files. Only a transport that binds elsewhere makes a
listener take a link for its own file (`Run.leavesWay`), and then the order may matter
(`Run.not_closesInAnyOrder`).

What carries the proof is that two listeners of `Multiplexer.Orderless` may be closed in either
order (`Multiplexer.Orderless.swap`), and that the close of one of them changes nothing of what
the close of the other comes to (`Multiplexer.Orderless.troubleOf`).
-/

namespace SocketMux

theorem MuxError.aggregate_eq_ok {errors : List MuxError} :
    MuxError.aggregate errors = .ok () ↔ errors = [] := by
  match errors with
  | [] => simp [aggregate]
  | [only] => simp [aggregate]
  | first :: second :: others => simp [aggregate]

namespace Multiplexer

/-- In whatever order listeners are closed, what an assigner answers to the return of a port and
which pool takes the port back only depend on the assigner and the port. -/
def ReturnsBy (mux : Multiplexer) (listed : List Nat)
    (outcome : Nat → Port → Except MuxError Unit × Option Nat) : Prop :=
  ∀ before which listener assigner, before ⊆ listed → which ∈ listed → which ∉ before →
    mux.listeners.get? which = some listener → listener.assigner = some assigner →
      let closed := (mux.closeListeners before).2
      closed.returnedAt which listener = (outcome assigner listener.port).1 ∧
        (closed.detach which listener).poolOf? assigner = (outcome assigner listener.port).2

/-- Open listeners that do not get into each other's way. -/
structure Orderless (mux : Multiplexer) (listed : List Nat)
    (outcome : Nat → Port → Except MuxError Unit × Option Nat) : Prop where
  distinct : listed.Nodup
  opened : ∀ which ∈ listed, ∃ listener, mux.listeners.get? which = some listener ∧
    listener.isClosed = false
  beside : ∀ first ∈ listed, ∀ second ∈ listed, ∀ former latter,
    mux.listeners.get? first = some former → mux.listeners.get? second = some latter →
      former.Beside latter
  leaves : ∀ which ∈ listed, ∀ listener, mux.listeners.get? which = some listener →
    mux.host.LeavesWay listener
  returns : mux.ReturnsBy listed outcome

/-- The error that the own close of a listener adds to those of its factory's close. -/
def reported (mux : Multiplexer) (which : Nat) : List MuxError :=
  (errorOf (mux.closeListener which).1).filter fun err => !err.isUnavailable

/-- A listener adds nothing if its own close succeeds or meets but an outage. -/
theorem reported_eq_nil (mux : Multiplexer) (which : Nat) :
    mux.reported which = [] ↔ (mux.closeListener which).1 = .ok () ∨
      ∃ outage, (mux.closeListener which).1 = .error (.unavailable outage) := by
  unfold reported
  cases (mux.closeListener which).1 with
  | ok => simp [errorOf]
  | error err => cases err <;> simp [errorOf, MuxError.isUnavailable]

/-- The registrations of two listeners are dropped in either order. -/
theorem factoriesWithout_comm (mux one other : Multiplexer) (first second : Nat)
    (former latter : MuxListener) (here : one.factories = mux.factoriesWithout first former)
    (there : other.factories = mux.factoriesWithout second latter) :
    one.factoriesWithout second latter = other.factoriesWithout first former := by
  have comm : ∀ factory : Factory,
      (factory.unregisterServer former.port first).unregisterServer latter.port second =
        (factory.unregisterServer latter.port second).unregisterServer former.port first := by
    intro factory
    simp only [Factory.unregisterServer, List.filter_filter, Bool.and_comm]
  unfold factoriesWithout at here there ⊢
  rw [here, there]
  cases former.registered <;> cases latter.registered <;>
    simp only [if_true, if_false, Bool.false_eq_true]
  exact mux.factories.modify_comm _ _ comm

namespace Orderless

variable {mux : Multiplexer} {listed : List Nat}
  {outcome : Nat → Port → Except MuxError Unit × Option Nat}

/-- The order in which the listeners are listed does not matter. -/
theorem of_perm (orderless : mux.Orderless listed outcome) {order : List Nat}
    (perm : order.Perm listed) : mux.Orderless order outcome where
  distinct := perm.nodup_iff.mpr orderless.distinct
  opened which member := orderless.opened which (perm.subset member)
  beside first here second there :=
    orderless.beside first (perm.subset here) second (perm.subset there)
  leaves which member := orderless.leaves which (perm.subset member)
  returns before which listener assigner within member :=
    orderless.returns before which listener assigner (List.Subset.trans within perm.subset)
      (perm.subset member)

section Closed

variable {first second : Nat} {latter : MuxListener}

/-- The close of a listener leaves the row of another one alone. -/
theorem found_after (apart : first ≠ second) (found : mux.listeners.get? second = some latter) :
    (mux.closeListener first).2.listeners.get? second = some latter := by
  obtain ⟨-, unchanged⟩ | ⟨row, pools, assigners, -, -, after⟩ := mux.closeListener_cases first
  · rw [unchanged]
    exact found
  · rw [after]
    simp only [Table.get?_modify, if_neg apart]
    exact found

/-- The pool that takes a port back is known beforehand. -/
theorem takerOf (orderless : mux.Orderless listed outcome) (there : second ∈ listed)
    (found : mux.listeners.get? second = some latter) :
    mux.takerOf second latter =
      latter.assigner.bind fun assigner => (outcome assigner latter.port).2 := by
  unfold Multiplexer.takerOf
  cases assigned : latter.assigner with
  | none => rfl
  | some assigner =>
    exact (orderless.returns [] second latter assigner (List.nil_subset _) there
      List.not_mem_nil found assigned).2

/-- The close of a listener changes nothing of what that of another one comes to. -/
theorem troubleOf (orderless : mux.Orderless listed outcome) (here : first ∈ listed)
    (there : second ∈ listed) (apart : first ≠ second)
    (found : mux.listeners.get? second = some latter) :
    (mux.closeListener first).2.troubleOf second latter = mux.troubleOf second latter := by
  obtain ⟨former, former_found, isOpen⟩ := orderless.opened first here
  have files : errorOf ((mux.closeListener first).2.host.ownEntryOf latter) =
      errorOf (mux.host.ownEntryOf latter) := by
    rw [closeListener_snd former_found isOpen]
    rw [Host.ownEntryOf_withoutListener
      (orderless.beside first here second there former latter former_found found)
      (orderless.leaves first here former former_found)]
    cases mux.host.ownEntryOf latter <;> rfl
  unfold Multiplexer.troubleOf
  rw [files]
  cases assigned : latter.assigner with
  | none => rw [returnedAt_of_unassigned assigned, returnedAt_of_unassigned assigned]
  | some assigner =>
    have before : mux.returnedAt second latter = _ :=
      (orderless.returns [] second latter assigner (List.nil_subset _) there List.not_mem_nil
        found assigned).1
    have after : (mux.closeListener first).2.returnedAt second latter = _ :=
      (orderless.returns [first] second latter assigner
        (List.cons_subset.mpr ⟨here, List.nil_subset _⟩) there (by simpa using Ne.symm apart)
        found assigned).1
    rw [before, after]

end Closed

/-- A listener whose file is not removed and whose port is not taken back adds one error, which
holds both. -/
theorem reported_of_both (orderless : mux.Orderless listed outcome) {which : Nat}
    (member : which ∈ listed) {listener : MuxListener}
    (row : mux.listeners.get? which = some listener) {fault : Fault}
    (unremoved : mux.host.ownEntryOf listener = .error fault) {assigner : Nat}
    (assigned : listener.assigner = some assigner) {err : MuxError}
    (refused : (outcome assigner listener.port).1 = .error err) :
    mux.reported which = [.closeFailed (.fault .removeFile fault) [err]] := by
  obtain ⟨same, row_found, isOpen⟩ := orderless.opened which member
  obtain rfl := Option.some.inj (row_found.symm.trans row)
  have answer : mux.returnedAt which same = .error err :=
    (orderless.returns [] which same assigner (List.nil_subset _) member List.not_mem_nil row
      assigned).1.trans refused
  unfold Multiplexer.reported
  rw [closeListener_fst row isOpen]
  unfold Multiplexer.troubleOf
  rw [unremoved, answer]
  rfl

/-- What is left of the listeners after one of them was closed. -/
theorem next {first : Nat} {others : List Nat}
    (orderless : mux.Orderless (first :: others) outcome) :
    (mux.closeListener first).2.Orderless others outcome := by
  obtain ⟨absent, distinct⟩ := List.nodup_cons.mp orderless.distinct
  have apart : ∀ which ∈ others, first ≠ which := by
    rintro which member rfl
    exact absent member
  have found_before : ∀ which ∈ others, ∀ listener,
      (mux.closeListener first).2.listeners.get? which = some listener →
        mux.listeners.get? which = some listener := by
    intro which member listener found
    obtain ⟨row, row_found, -⟩ := orderless.opened which (List.mem_cons_of_mem _ member)
    rw [found_after (apart which member) row_found] at found
    exact found ▸ row_found
  obtain ⟨former, former_found, isOpen⟩ := orderless.opened first List.mem_cons_self
  refine ⟨distinct, fun which member => ?_, fun one here other there former latter one_found
    other_found => ?_, fun which member listener found => ?_, ?_⟩
  · obtain ⟨listener, found, isOpen⟩ := orderless.opened which (List.mem_cons_of_mem _ member)
    exact ⟨listener, found_after (apart which member) found, isOpen⟩
  · exact orderless.beside one (List.mem_cons_of_mem _ here) other (List.mem_cons_of_mem _ there)
      former latter (found_before one here former one_found)
      (found_before other there latter other_found)
  · have before := found_before which member listener found
    have listed := List.mem_cons_of_mem first member
    rw [closeListener_snd former_found isOpen]
    exact (orderless.leaves which listed listener before).withoutListener
      (orderless.beside first List.mem_cons_self which listed former listener former_found before)
      (orderless.leaves first List.mem_cons_self former former_found)
  · intro before which listener assigner within member unclosed found assigned
    exact orderless.returns (first :: before) which listener assigner
      (List.cons_subset_cons first within) (List.mem_cons_of_mem _ member)
      (by simp [unclosed, Ne.symm (apart which member)]) (found_before which member listener found)
      assigned

/-- Two listeners may be closed in either order. -/
theorem swap {first second : Nat} {others : List Nat}
    (orderless : mux.Orderless (first :: second :: others) outcome) :
    Alike ((mux.closeListener first).2.closeListener second).2
      ((mux.closeListener second).2.closeListener first).2 := by
  have swapped := orderless.of_perm (List.Perm.swap first second others)
  have apart : first ≠ second := by
    rintro rfl
    exact (List.nodup_cons.mp orderless.distinct).1 List.mem_cons_self
  have here : first ∈ first :: second :: others := List.mem_cons_self
  have there : second ∈ first :: second :: others := List.mem_cons_of_mem _ List.mem_cons_self
  obtain ⟨former, former_found, formerOpen⟩ := orderless.opened first here
  obtain ⟨latter, latter_found, latterOpen⟩ := orderless.opened second there
  have latter_after := found_after apart latter_found
  have former_after := found_after (Ne.symm apart) former_found
  rw [closeListener_snd latter_after latterOpen, closeListener_snd former_after formerOpen,
    orderless.next.takerOf List.mem_cons_self latter_after,
    swapped.next.takerOf List.mem_cons_self former_after,
    closeListener_snd former_found formerOpen, closeListener_snd latter_found latterOpen,
    orderless.takerOf here former_found, orderless.takerOf there latter_found]
  have hosts := mux.host.withoutListener_comm former latter
    (orderless.beside first here second there former latter former_found latter_found)
    (orderless.beside second there first here latter former latter_found former_found)
    (orderless.leaves first here former former_found)
    (orderless.leaves second there latter latter_found)
  have listeners : ∀ one other : Nat, (mux.listeners.modify one MuxListener.closed).modify other
      MuxListener.closed = (mux.listeners.modify other MuxListener.closed).modify one
        MuxListener.closed :=
    fun one other => mux.listeners.modify_comm one other fun _ => rfl
  constructor
  · simp only [hosts, listeners first second, takenBack_comm mux.pools]
    congr 1
    exact (mux.factoriesWithout_comm _ _ first second former latter rfl rfl).symm
  · rw [← List.append_assoc, ← List.append_assoc]
    exact List.perm_append_comm.append_right _

/-- All orders lead to the same state, but for the order in which ports were given back. -/
theorem alike {order other : List Nat} (perm : order.Perm other)
    (orderless : mux.Orderless order outcome) :
    Alike (mux.closeListeners order).2 (mux.closeListeners other).2 := by
  induction perm generalizing mux with
  | nil => exact .refl mux
  | cons which _ inductionHypothesis => exact inductionHypothesis orderless.next
  | swap first second others => exact (orderless.swap.closeListeners others).2
  | trans former _ formerAlike latterAlike =>
    exact (formerAlike orderless).trans (latterAlike (orderless.of_perm former.symm))

/-- The close of a listener changes nothing of what another one adds to the errors. -/
theorem reported_after {first : Nat} {others : List Nat}
    (orderless : mux.Orderless (first :: others) outcome) {which : Nat} (member : which ∈ others) :
    (mux.closeListener first).2.reported which = mux.reported which := by
  have apart : first ≠ which := by
    rintro rfl
    exact (List.nodup_cons.mp orderless.distinct).1 member
  have listed := List.mem_cons_of_mem first member
  obtain ⟨listener, found, isOpen⟩ := orderless.opened which listed
  unfold Multiplexer.reported
  rw [closeListener_fst found isOpen, closeListener_fst (found_after apart found) isOpen,
    orderless.troubleOf List.mem_cons_self listed apart found]

/-- The errors are those of the own closes, in the order of the close. -/
theorem errors {order : List Nat} (orderless : mux.Orderless order outcome) :
    (mux.closeListeners order).1 = order.flatMap mux.reported := by
  induction order generalizing mux with
  | nil => rfl
  | cons first others inductionHypothesis =>
    have same : others.flatMap (mux.closeListener first).2.reported =
        others.flatMap mux.reported :=
      List.flatMap_congr fun which member => orderless.reported_after member
    rw [List.flatMap_cons, ← same, ← inductionHypothesis orderless.next]
    rfl

end Orderless

namespace Alike

variable {one other : Multiplexer}

/-- A change that takes no note of the ports that were given back keeps states alike. -/
theorem map (alike : Alike one other) (change : Multiplexer → Multiplexer)
    (blind : ∀ (mux : Multiplexer) (returned : List (Nat × Port)),
      change { mux with returned } = { change mux with returned }) :
    Alike (change one) (change other) := by
  have latter : change other = { change one with returned := other.returned } := by
    conv_lhs => rw [alike.same]
    exact blind one other.returned
  have kept : change one = { change one with returned := one.returned } :=
    blind one one.returned
  constructor
  · rw [latter]
  · rw [latter, kept]
    exact alike.returned

theorem modifyFactory (alike : Alike one other) (number : Nat) (change : Factory → Factory) :
    Alike (one.modifyFactory number change) (other.modifyFactory number change) :=
  alike.map (fun mux => mux.modifyFactory number change) fun _ _ => rfl

theorem closeClient (alike : Alike one other) (client : Nat) :
    Alike (one.closeClient client) (other.closeClient client) := by
  refine alike.map (fun mux => mux.closeClient client) fun mux returned => ?_
  simp only [Multiplexer.closeClient]
  split
  · rfl
  · split <;> rfl

theorem closeClients (alike : Alike one other) (clients : List Nat) :
    Alike (one.closeClients clients) (other.closeClients clients) := by
  induction clients generalizing one other with
  | nil => exact alike
  | cons client others inductionHypothesis =>
    exact inductionHypothesis (alike.closeClient client)

theorem withdraw (alike : Alike one other) (number : Nat) :
    Alike (one.withdraw number) (other.withdraw number) := by
  refine alike.map (fun mux => mux.withdraw number) fun mux returned => ?_
  simp only [Multiplexer.withdraw]
  split <;> rfl

end Alike

/-- A change of a factory does not show. -/
theorem SameView.modifyFactory (mux : Multiplexer) (number : Nat) (change : Factory → Factory) :
    SameView mux (mux.modifyFactory number change) := ⟨rfl, rfl, rfl, rfl, rfl, rfl⟩

/-- Listeners add the same errors in states that look the same. -/
theorem SameView.reported_eq {one other : Multiplexer} (view : SameView one other) :
    other.reported = one.reported := by
  funext which
  unfold Multiplexer.reported
  rw [(view.closeListener which).1]

/-- Listeners that do not get into each other's way in one state do not in another one that
looks the same. -/
theorem Orderless.of_view {one other : Multiplexer} (view : SameView one other)
    {listed : List Nat} {outcome : Nat → Port → Except MuxError Unit × Option Nat}
    (orderless : one.Orderless listed outcome) : other.Orderless listed outcome where
  distinct := orderless.distinct
  opened := by
    rw [view.listeners]
    exact orderless.opened
  beside := by
    rw [view.listeners]
    exact orderless.beside
  leaves := by
    rw [view.listeners, view.host]
    exact orderless.leaves
  returns before which listener assigner within member unclosed found assigned := by
    rw [view.listeners] at found
    have closed := view.closeListeners before
    simp only [closed.returnedAt, (closed.detach which listener).poolOf?]
    exact orderless.returns before which listener assigner within member unclosed found assigned

/-- What the close of a factory comes to, in whatever order its registry yields the listeners. -/
structure ClosesInAnyOrder (mux : Multiplexer) (number : Nat) (listed : List Nat)
    (outcome : Nat → Port → Except MuxError Unit × Option Nat) : Prop where
  /-- All orders lead to the same state, but for the order in which ports were given back. -/
  state : ∀ order, order.Perm listed →
    Alike (mux.closeFactory number).2 (mux.closeFactoryIn number order).2
  /-- The close succeeds exactly if the own close of every listener succeeds or meets but an
  outage. -/
  success : ∀ order, order.Perm listed → ((mux.closeFactoryIn number order).1 = .ok () ↔
    ∀ which ∈ listed, (mux.closeListener which).1 = .ok () ∨
      ∃ outage, (mux.closeListener which).1 = .error (.unavailable outage))
  /-- The errors of the close are those of the own closes without outages, each once. -/
  errors : ∀ order, order.Perm listed →
    (mux.closeFactoryIn number order).1 = MuxError.aggregate (order.flatMap mux.reported) ∧
      (order.flatMap mux.reported).Perm (listed.flatMap mux.reported)
  /-- A listener whose file is not removed and whose port is not taken back adds one error, which
  holds both. -/
  both : ∀ which ∈ listed, ∀ listener file assigner fault err,
    mux.listeners.get? which = some listener → listener.fileNumber = some file →
      listener.assigner = some assigner →
      mux.host.removeNumbered listener.file file = .error fault →
      (outcome assigner listener.port).1 = .error err →
        mux.reported which = [.closeFailed (.fault .removeFile fault) [err]]

/-- Open listeners that do not get into each other's way are closed with their factory in any
order. -/
theorem Orderless.inAnyOrder {mux : Multiplexer} {number : Nat} {factory : Factory}
    (found : mux.factories.get? number = some factory)
    {outcome : Nat → Port → Except MuxError Unit × Option Nat}
    (orderless : mux.Orderless (factory.servers.map Prod.snd) outcome) :
    mux.ClosesInAnyOrder number (factory.servers.map Prod.snd) outcome := by
  let forgetful := fun state : Factory =>
    { state with credentials := .empty, authority := none, servers := [] }
  have view := SameView.modifyFactory mux number forgetful
  have forgotten := fun (order : List Nat)
      (perm : order.Perm (factory.servers.map Prod.snd)) =>
    (orderless.of_perm perm).of_view view
  have errors : ∀ order, order.Perm (factory.servers.map Prod.snd) →
      (mux.closeFactoryIn number order).1 = MuxError.aggregate (order.flatMap mux.reported) := by
    intro order perm
    rw [← view.reported_eq, ← (forgotten order perm).errors]
    rfl
  constructor
  case state =>
    intro order perm
    have closed := (forgotten _ (.refl _)).alike perm.symm
    have clients := congrArg Multiplexer.factories closed.same
    simp only [forgetful] at closed clients
    simp only [closeFactory, found, closeFactoryIn, clients]
    exact ((closed.modifyFactory number _).closeClients _).withdraw number
  case success =>
    intro order perm
    rw [errors order perm, MuxError.aggregate_eq_ok, List.flatMap_eq_nil_iff]
    simp only [perm.mem_iff, mux.reported_eq_nil]
  case errors => exact fun order perm => ⟨errors order perm, perm.flatMap_right _⟩
  case both =>
    intro which member listener file assigner fault err row numbered assigned unremoved refused
    exact orderless.reported_of_both member row (Host.ownEntryOf_of_unremoved numbered unremoved)
      assigned refused

section AtHand

variable {one other : Multiplexer}

/-- Two states with the same assigners and the same pools open. -/
structure SameAssigners (one other : Multiplexer) : Prop where
  assigners : other.assigners = one.assigners
  closed : ∀ pool, (other.pools.get? pool).map PortPool.closed =
    (one.pools.get? pool).map PortPool.closed

/-- A pool at hand takes a port back as long as it is there and open. -/
theorem serveFrom_returnPort (mux : Multiplexer) (pool : Nat) (port : Port) :
    (mux.serveFrom pool (.returnPort port)).1 =
      if (mux.pools.get? pool).map PortPool.closed = some false then .ok .done
      else .error (.unavailable .poolClosed) := by
  unfold serveFrom
  cases mux.pools.get? pool with
  | none => rfl
  | some state =>
    simp only [Authority.Request.serve, PortPool.release, Option.map_some]
    by_cases closed : state.closed = true
    · simp [closed, Except.map]
    · simp [closed, Except.map]

/-- Closing a listener opens and closes no pool. -/
theorem SameAssigners.closeListener (same : SameAssigners one other) (number : Nat) :
    SameAssigners one (other.closeListener number).2 := by
  obtain ⟨listener, found, isOpen⟩ | shut := other.open_or_shut number
  · rw [closeListener_snd found isOpen]
    refine ⟨same.assigners, fun pool => Eq.trans ?_ (same.closed pool)⟩
    cases other.takerOf number listener with
    | none => rw [takenBack_none]
    | some taker =>
      simp only [takenBack, Option.elim_some, Table.get?_modify]
      split
      · cases other.pools.get? pool with
        | none => rfl
        | some state => exact congrArg some (Authority.Request.closed_after _ state)
      · rfl
  · rw [closeListener_idle shut]
    exact same

theorem SameAssigners.closeListeners (same : SameAssigners one other) (order : List Nat) :
    SameAssigners one (other.closeListeners order).2 := by
  induction order generalizing other with
  | nil => exact same
  | cons number others inductionHypothesis =>
    exact inductionHypothesis (same.closeListener number)

/-- An assigner that is not behind a socket takes ports back alike. -/
theorem SameAssigners.returnPort (same : SameAssigners one other) {assigner : Nat}
    (atHand : ∀ path, one.assigners.get? assigner ≠ some (.remote path)) (port : Port) :
    (other.returnPort assigner port).1 = (one.returnPort assigner port).1 ∧
      other.poolOf? assigner = one.poolOf? assigner := by
  unfold Multiplexer.returnPort ask poolOf?
  rw [same.assigners]
  cases assigned : one.assigners.get? assigner with
  | none => exact ⟨rfl, rfl⟩
  | some state =>
    cases state with
    | pooled pool => simp only [serveFrom_returnPort, same.closed, and_self]
    | remote path => exact absurd assigned (atHand path)
    | scripted ports refusal => exact ⟨rfl, rfl⟩

/-- Pools at hand and scripts answer alike in any order. -/
theorem ReturnsBy.of_local {mux : Multiplexer} {listed : List Nat}
    (atHand : ∀ which ∈ listed, ∀ listener assigner path,
      mux.listeners.get? which = some listener → listener.assigner = some assigner →
        mux.assigners.get? assigner ≠ some (.remote path)) :
    mux.ReturnsBy listed fun assigner port =>
      ((mux.returnPort assigner port).1, mux.poolOf? assigner) := by
  intro before which listener assigner _ member _ found assigned
  have here := fun path => atHand which member listener assigner path found assigned
  have closed : SameAssigners mux (mux.closeListeners before).2 :=
    .closeListeners ⟨rfl, fun _ => rfl⟩ before
  have same : SameAssigners mux ((mux.closeListeners before).2.detach which listener) := by
    rw [detach_eq]
    exact ⟨closed.assigners, closed.closed⟩
  have still : ∀ path, (mux.closeListeners before).2.assigners.get? assigner ≠
      some (.remote path) := by
    rw [closed.assigners]
    exact here
  simp only [returnedAt_of_atHand assigned still]
  exact same.returnPort here _

end AtHand

end Multiplexer

/-- The listeners that a factory lists are open listeners of its own, each for another port. -/
theorem Run.listedServer {host : Host} {own : PeerCredentials} {history : History}
    {mux : Multiplexer} (run : Run (.initial host own) history mux) {number : Nat}
    {factory : Factory} (found : mux.factories.get? number = some factory) {which : Nat}
    (member : which ∈ factory.servers.map Prod.snd) :
    ∃ listener, mux.listeners.get? which = some listener ∧ listener.isClosed = false ∧
      (listener.port, which) ∈ factory.servers ∧
        listener.file = factory.profile.fileFor listener.port := by
  have servers := run.listsServers
  obtain ⟨entry, listed, rfl⟩ := List.mem_map.mp member
  have demanded := ((servers.lists number factory found).2 entry).mp listed
  obtain ⟨listener, row, maker, port, -⟩ :=
    servers.records.listener_of_lastRegistered demanded.1
  have isOpen : listener.isClosed = false := by
    simpa [Multiplexer.hasOpen, row] using demanded.2.1
  obtain ⟨same, same_found, named⟩ := run.namesFiles entry.2 listener row
  rw [maker, found] at same_found
  obtain rfl := Option.some.inj same_found
  exact ⟨listener, row, isOpen, by rw [port]; exact listed, named⟩

/-- The listeners of a factory do not get into each other's way. -/
theorem Run.orderless {host : Host} {own : PeerCredentials} {history : History}
    {mux : Multiplexer} (run : Run (.initial host own) history mux) {number : Nat}
    {factory : Factory} (found : mux.factories.get? number = some factory) {directory : Path}
    {namePrefix nameSuffix : String} {registryPort : Port}
    (made : SocketLayout.make directory namePrefix nameSuffix registryPort =
      .ok factory.profile.layout)
    {outcome : Nat → Port → Except MuxError Unit × Option Nat}
    (returns : mux.ReturnsBy (factory.servers.map Prod.snd) outcome)
    (leaves : ∀ which ∈ factory.servers.map Prod.snd, ∀ listener,
      mux.listeners.get? which = some listener → mux.host.LeavesWay listener) :
    mux.Orderless (factory.servers.map Prod.snd) outcome where
  distinct := by
    obtain ⟨nodup, members⟩ := run.listsServers.lists number factory found
    refine List.Nodup.map_on (fun left leftListed right rightListed same => ?_) nodup
    obtain ⟨row, row_found, -⟩ := run.listedServer found (List.mem_map_of_mem leftListed)
    obtain ⟨-, left_eq, -⟩ := run.listsServers.own row_found ((members left).mp leftListed)
    rw [same] at row_found
    obtain ⟨-, right_eq, -⟩ := run.listsServers.own row_found ((members right).mp rightListed)
    rw [left_eq, right_eq, same]
  opened which member := by
    obtain ⟨listener, row, isOpen, -⟩ := run.listedServer found member
    exact ⟨listener, row, isOpen⟩
  beside first here second there former latter former_row latter_row := by
    obtain ⟨one, one_row, -, -, former_named⟩ := run.listedServer found here
    obtain ⟨other, other_row, -, -, latter_named⟩ := run.listedServer found there
    obtain rfl := Option.some.inj (one_row.symm.trans former_row)
    obtain rfl := Option.some.inj (other_row.symm.trans latter_row)
    obtain ⟨neighbours, slash⟩ := SocketLayout.neighbours_of_make made one.port other.port
    constructor
    · rw [former_named, latter_named]
      exact neighbours
    · rw [former_named, latter_named]
      exact slash
  leaves := leaves
  returns := returns

/-- In whatever order its registry yields the listeners, the close of a factory comes to the same,
as long as returned ports are answered alike in any order and no listener clears a link on the
way to the files. -/
theorem Run.closesInAnyOrder {host : Host} {own : PeerCredentials} {history : History}
    {mux : Multiplexer} (run : Run (.initial host own) history mux) {number : Nat}
    {factory : Factory} (found : mux.factories.get? number = some factory) {directory : Path}
    {namePrefix nameSuffix : String} {registryPort : Port}
    (made : SocketLayout.make directory namePrefix nameSuffix registryPort =
      .ok factory.profile.layout)
    {outcome : Nat → Port → Except MuxError Unit × Option Nat}
    (returns : mux.ReturnsBy (factory.servers.map Prod.snd) outcome)
    (leaves : ∀ which ∈ factory.servers.map Prod.snd, ∀ listener,
      mux.listeners.get? which = some listener → mux.host.LeavesWay listener) :
    mux.ClosesInAnyOrder number (factory.servers.map Prod.snd) outcome :=
  (run.orderless found made returns leaves).inAnyOrder found

/-- Five listeners are closed in any order whose assigner answers the return of each port in another
way. Two of their files cannot be removed any more, and the port of one of these two is not taken
back either. Of the others one port is taken back, one meets an outage and one is refused. -/
theorem Run.closesInAnyOrder_unremoved :
    let refusal := fun port : Port =>
      if port = 110000 then some .closed
      else if port = 110001 then some (.unavailable .poolClosed)
      else if port = 110002 then some (.unsupported "return")
      else none
    let mux := (Multiplexer.initial .linked ⟨none, 0, 0⟩).after [
      .makeAssigner (.scripted [110000, 110001, 110002, 110003] refusal),
      .makeFactoryAt (Text.Utf8.bytesOf "/link") Port.defaultRegistry,
      .makeFactoryAt (Text.Utf8.bytesOf "/link") Port.plainFile,
      .createServer 0 Port.anonymous, .createServer 0 100005,
      .changeTransport 0 { Transport.plain with boundPath := some (Text.Utf8.bytesOf "/other") },
      .createServer 0 Port.anonymous, .createServer 0 Port.anonymous,
      .createServer 0 Port.anonymous, .createServer 1 100006]
    (mux.ClosesInAnyOrder 0 [4, 3, 2, 1, 0] fun assigner port =>
      ((mux.returnPort assigner port).1, mux.poolOf? assigner)) ∧
      [0, 1, 2, 3, 4].map (fun which => (mux.reported which).map MuxError.code) =
        [["spark.afmux.close_failed"], ["spark.afmux.remove_file_failed"], [],
          ["spark.afmux.unsupported"], []] := by
  intro refusal mux
  have run : Run (.initial .linked ⟨none, 0, 0⟩) _ mux := .ofActions _ _
  have shown : (mux.factories.get? 0).map (fun factory =>
      (factory.servers.map Prod.snd, factory.profile.layout)) =
        some ([4, 3, 2, 1, 0], ⟨Text.Utf8.bytesOf "/link", "", ".rmi", false⟩) := by decide +kernel
  have unasked : mux.assigners.rows.all (·.authority?.isNone) = true := by decide +kernel
  have apart : mux.listeners.rows.all (fun listener => mux.host.LeavesWay listener) = true := by
    decide +kernel
  obtain ⟨factory, found, same⟩ := Option.map_eq_some_iff.mp shown
  obtain ⟨listed, layout⟩ := Prod.mk.inj same
  have made : SocketLayout.make (Text.Utf8.bytesOf "/link") "" ".rmi" Port.defaultRegistry =
      .ok factory.profile.layout := by
    rw [layout]
    rfl
  have atHand : ∀ assigner path, mux.assigners.get? assigner ≠ some (.remote path) := by
    intro assigner path row
    cases List.all_eq_true.mp unasked _ (List.mem_of_getElem? row)
  have leaves : ∀ which ∈ factory.servers.map Prod.snd, ∀ listener,
      mux.listeners.get? which = some listener → mux.host.LeavesWay listener := fun _ _ _ row =>
    of_decide_eq_true (List.all_eq_true.mp apart _ (List.mem_of_getElem? row))
  have closes := run.closesInAnyOrder found made
    (.of_local fun _ _ _ assigner path _ _ => atHand assigner path) leaves
  rw [listed] at closes
  exact ⟨closes, by decide +kernel⟩

/-- A host with a directory and, beside it, a link that leads to where it stands. -/
def Host.detour : Host :=
  let entries := [([Text.Utf8.bytesOf "100005.rmi"], ⟨1, .link [Path.dot]⟩),
    ([Text.Utf8.bytesOf "100006.rmi"], ⟨2, .directory⟩)]
  { Host.bare with files := ⟨entries, 3⟩ }

/-- The order matters where a listener clears a link on the way to the files. The listener here
has the link for its own file, and the other one the directory, which cannot be removed and
which cannot be found without the link. -/
theorem Run.not_closesInAnyOrder :
    ¬∀ (host : Host) (own : PeerCredentials) (history : History) (mux : Multiplexer)
        (number : Nat) (factory : Factory) (directory : Path) (namePrefix nameSuffix : String)
        (registryPort : Port) (outcome : Nat → Port → Except MuxError Unit × Option Nat),
      Run (.initial host own) history mux → mux.factories.get? number = some factory →
      SocketLayout.make directory namePrefix nameSuffix registryPort =
        .ok factory.profile.layout →
      mux.ReturnsBy (factory.servers.map Prod.snd) outcome →
        mux.ClosesInAnyOrder number (factory.servers.map Prod.snd) outcome := by
  intro always
  let start := Multiplexer.initial .detour ⟨none, 0, 0⟩
  let actions : List Action := [
    .makeFactoryAt (Text.Utf8.bytesOf "/100005.rmi") Port.defaultRegistry,
    .changeTransport 0 { Transport.plain with boundPath := some (Text.Utf8.bytesOf "/other") },
    .createServer 0 100005, .createServer 0 100006]
  let mux := start.after actions
  have shown : (mux.factories.get? 0).map (fun factory =>
      (factory.servers.map Prod.snd, factory.profile.layout)) =
        some ([1, 0], ⟨Text.Utf8.bytesOf "/100005.rmi", "", ".rmi", false⟩) := by decide +kernel
  have unasked : mux.assigners.rows.isEmpty = true := by decide +kernel
  have former : (mux.closeFactoryIn 0 [0, 1]).1.toOption = some () := by decide +kernel
  have latter : (mux.closeFactoryIn 0 [1, 0]).1.toOption = none := by decide +kernel
  obtain ⟨factory, found, same⟩ := Option.map_eq_some_iff.mp shown
  obtain ⟨listed, layout⟩ := Prod.mk.inj same
  have made : SocketLayout.make (Text.Utf8.bytesOf "/100005.rmi") "" ".rmi"
      Port.defaultRegistry = .ok factory.profile.layout := by
    rw [layout]
    rfl
  have atHand : ∀ assigner path, mux.assigners.get? assigner ≠ some (.remote path) := by
    intro assigner path row
    have member := List.mem_of_getElem? row
    rw [List.isEmpty_iff.mp unasked] at member
    cases member
  have closes := always .detour ⟨none, 0, 0⟩ _ mux 0 factory _ "" ".rmi" _ _
    (.ofActions start actions) found made
    (.of_local fun _ _ _ assigner path _ _ => atHand assigner path)
  rw [listed] at closes
  have success := (closes.success [0, 1] (by decide)).trans (closes.success [1, 0] (.refl _)).symm
  have failed : (mux.closeFactoryIn 0 [0, 1]).1 = .ok () := by
    cases first : (mux.closeFactoryIn 0 [0, 1]).1 with
    | error => rw [first] at former; cases former
    | ok => rfl
  rw [success.mp failed] at latter
  cases latter

/-- In an orderly run no listener takes a link for its own file, let alone one on the way. -/
theorem Run.leavesWay {host : Host} {own : PeerCredentials} {history : History}
    {mux : Multiplexer} (run : Run (.initial host own) history mux) (sound : host.Sound)
    (numbered : host.files.Numbered) (orderly : ∀ moment ∈ history, moment.IsOrderly)
    {number : Nat} {listener : MuxListener}
    (found : mux.listeners.get? number = some listener) : mux.host.LeavesWay listener := by
  obtain ⟨settled, knows⟩ := run.knowsFiles sound numbered orderly
  refine .of_noLink fun place node cleared present target isLink => ?_
  unfold Host.ownEntryOf at cleared
  split at cleared
  · cases cleared
  · next file captured =>
    obtain ⟨isOpen, listens⟩ := settled.files found captured
    have owned := knows number listener file isOpen found listens
    obtain ⟨-, -, other, other_present, same, -⟩ := FileTree.ownEntry_eq_some cleared
    obtain rfl := Option.some.inj (other_present.symm.trans present)
    rw [(owned.only place other present same).1] at isLink
    cases isLink

end SocketMux
