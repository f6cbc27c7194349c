import Mathlib.Data.List.Nodup
import SocketMux.Proofs.Lifecycle.Closing
import SocketMux.Proofs.Lifecycle.Quiet

/-!
# Which factories a coordinator lists

A factory is registered in two places: with its coordinator, which lists an entry for it, and
with itself, where it keeps the coordinator and the entry. `Multiplexer.Enrolled` says that the
two agree: a coordinator lists exactly the factories that are registered with it, in the order
in which they were made, and all of them are held, as long as no counter has come around. While
a shutdown is under way the entries that it took out are still pending. Closing a factory,
dropping it and shutting all down take a registration down in both places at once
(`Enrolled.withdraw`), so every action keeps the agreement (`Enrolled.perform`).
-/

namespace SocketMux

/-- The registration of a factory, and whether the factory is held. -/
def Factory.enrolment (factory : Factory) : Option (Nat × HookId) × Bool :=
  (factory.registration, factory.isHeld)

namespace Multiplexer

/-- The coordinator that a factory is registered with, and its entry there. -/
def registration? (mux : Multiplexer) (number : Nat) : Option (Nat × HookId) :=
  (mux.factories.get? number).bind Factory.registration

/-- The entry of a factory that is registered with a coordinator. -/
def entryWith? (mux : Multiplexer) (coordinator number : Nat) : Option (HookId × Nat) :=
  (mux.registration? number).bind fun registration =>
    if registration.1 = coordinator then some (registration.2, number) else none

/-- The entries of all factories that are registered with a coordinator, in the order in which
the factories were made. -/
def enrolledWith (mux : Multiplexer) (coordinator : Nat) : List (HookId × Nat) :=
  (List.range mux.factories.size).filterMap (mux.entryWith? coordinator)

/-- Whether two states agree on coordinators, registrations and on who is held. -/
structure SameEnrolment (before after : Multiplexer) : Prop where
  coordinators : after.coordinators = before.coordinators
  size : after.factories.size = before.factories.size
  rows : ∀ number, (after.factories.get? number).map Factory.enrolment =
    (before.factories.get? number).map Factory.enrolment

namespace SameEnrolment

variable {before between after mux : Multiplexer}

theorem refl (mux : Multiplexer) : mux.SameEnrolment mux := ⟨rfl, rfl, fun _ => rfl⟩

theorem trans (first : before.SameEnrolment between) (second : between.SameEnrolment after) :
    before.SameEnrolment after :=
  ⟨second.coordinators.trans first.coordinators, second.size.trans first.size,
    fun number => (second.rows number).trans (first.rows number)⟩

/-- Factories and coordinators stay as they are. -/
theorem of_eq (coordinators : after.coordinators = before.coordinators)
    (factories : after.factories = before.factories) : before.SameEnrolment after :=
  ⟨coordinators, by rw [factories], fun _ => by rw [factories]⟩

/-- A change of one factory that is not about its registration. -/
theorem of_modify {number : Nat} {change : Factory → Factory}
    (coordinators : after.coordinators = before.coordinators)
    (factories : after.factories = before.factories.modify number change)
    (unseen : ∀ factory, (change factory).enrolment = factory.enrolment) :
    before.SameEnrolment after := by
  refine ⟨coordinators, by rw [factories, Table.size_modify], fun other => ?_⟩
  rw [factories, Table.get?_modify]
  split
  · cases before.factories.get? other with
    | none => rfl
    | some factory => exact congrArg some (unseen factory)
  · rfl

theorem registration? (same : before.SameEnrolment after) (number : Nat) :
    after.registration? number = before.registration? number := by
  have rows := same.rows number
  unfold Multiplexer.registration?
  cases former : before.factories.get? number with
  | none =>
    rw [former] at rows
    rw [Option.map_eq_none_iff.mp rows]
  | some factory =>
    rw [former] at rows
    obtain ⟨latter, found, enrolment⟩ := Option.map_eq_some_iff.mp rows
    rw [found]
    exact congrArg Prod.fst enrolment

theorem holdsFactory (same : before.SameEnrolment after) (number : Nat) :
    after.holdsFactory number = before.holdsFactory number := by
  have rows := same.rows number
  unfold Multiplexer.holdsFactory
  cases former : before.factories.get? number with
  | none =>
    rw [former] at rows
    rw [Option.map_eq_none_iff.mp rows]
  | some factory =>
    rw [former] at rows
    obtain ⟨latter, found, enrolment⟩ := Option.map_eq_some_iff.mp rows
    rw [found]
    exact congrArg Prod.snd enrolment

theorem enrolledWith (same : before.SameEnrolment after) (coordinator : Nat) :
    after.enrolledWith coordinator = before.enrolledWith coordinator := by
  unfold Multiplexer.enrolledWith
  rw [same.size]
  congr 1
  funext number
  unfold entryWith?
  rw [same.registration? number]

end SameEnrolment

section Closing

theorem modifyFactory_sameEnrolment (mux : Multiplexer) (number : Nat) (change : Factory → Factory)
    (unseen : ∀ factory, (change factory).enrolment = factory.enrolment) :
    mux.SameEnrolment (mux.modifyFactory number change) :=
  .of_modify rfl rfl unseen

theorem closeListener_sameEnrolment (mux : Multiplexer) (number : Nat) :
    mux.SameEnrolment (mux.closeListener number).2 := by
  obtain ⟨-, unchanged⟩ | ⟨listener, pools, assigners, -, -, after⟩ :=
    mux.closeListener_cases number
  · rw [unchanged]
    exact .refl mux
  · rw [after]
    by_cases registered : listener.registered = true
    · exact .of_modify rfl (if_pos registered) fun _ => rfl
    · exact .of_eq rfl (if_neg registered)

theorem closeClient_sameEnrolment (mux : Multiplexer) (number : Nat) :
    mux.SameEnrolment (mux.closeClient number) := by
  obtain ⟨-, unchanged⟩ | ⟨client, -, -, after⟩ := mux.closeClient_cases number
  · rw [unchanged]
    exact .refl mux
  · rw [after]
    exact .of_modify rfl rfl fun _ => rfl

theorem closeListeners_sameEnrolment (mux : Multiplexer) (listeners : List Nat) :
    mux.SameEnrolment (mux.closeListeners listeners).2 := by
  induction listeners generalizing mux with
  | nil => exact .refl mux
  | cons listener others inductionHypothesis =>
    exact (mux.closeListener_sameEnrolment listener).trans (inductionHypothesis _)

theorem closeClients_sameEnrolment (mux : Multiplexer) (clients : List Nat) :
    mux.SameEnrolment (mux.closeClients clients) := by
  induction clients generalizing mux with
  | nil => exact .refl mux
  | cons client others inductionHypothesis =>
    exact (mux.closeClient_sameEnrolment client).trans (inductionHypothesis _)

/-- The close of a factory takes its registration down after all else. -/
theorem closeFactory_eq (mux : Multiplexer) (number : Nat) :
    ∃ between, mux.SameEnrolment between ∧
      (mux.closeFactory number).2 = between.withdraw number := by
  unfold closeFactory
  split
  · next absent =>
    refine ⟨mux, .refl mux, ?_⟩
    simp only [withdraw, absent, Option.bind_none]
  · next factory found =>
    simp only [closeFactoryIn]
    have forgotten := mux.modifyFactory_sameEnrolment number (fun state =>
      { state with credentials := .empty, authority := none, servers := [] }) fun _ => rfl
    have serversClosed := forgotten.trans
      (closeListeners_sameEnrolment _ (factory.servers.map Prod.snd))
    have emptied := serversClosed.trans
      (modifyFactory_sameEnrolment _ number (fun state => { state with clients := [] })
        fun _ => rfl)
    exact ⟨_, emptied.trans (closeClients_sameEnrolment _ _), rfl⟩

end Closing

/-- A call for a server registers no factory. -/
theorem Creates.sameEnrolment {mux after : Multiplexer} {number : Nat} {factory : Factory}
    {creation : Option Creation} (creates : Creates mux number factory creation after) :
    mux.SameEnrolment after := by
  have remembering : ∀ {remember}, Remembers remember →
      ∀ factory : Factory, (remember factory).enrolment = factory.enrolment := by
    intro remember remembers factory
    obtain ⟨authority, after⟩ := remembers factory
    rw [after]
    rfl
  cases creates with
  | nothing remembers => exact .of_modify rfl rfl (remembering remembers)
  | @failed port bound issuer ready err host prepared unbound =>
    obtain ⟨pools, assigners, remember, remembers, rfl⟩ := ready_eq prepared
    obtain ⟨morePools, moreAssigners, refunded⟩ := refund_eq
      { mux with host, pools, assigners, factories := mux.factories.modify number remember }
      issuer bound
    rw [refunded]
    exact .of_modify rfl rfl (remembering remembers)
  | @made port bound issuer ready socket host prepared bind =>
    obtain ⟨pools, assigners, remember, remembers, rfl⟩ := ready_eq prepared
    have prepares : mux.SameEnrolment
        { mux with pools, assigners, factories := mux.factories.modify number remember } :=
      .of_modify rfl rfl (remembering remembers)
    refine prepares.trans ?_
    by_cases registered : (issuer.isNone || bound.isMultiplexed) = true
    · exact .of_modify rfl (if_pos registered) fun _ => rfl
    · exact .of_eq rfl (if_neg registered)

end Multiplexer

/-- Whether an action is about coordinators or about who holds factories. -/
def Action.isEnrolling : Action → Bool
  | .makeCoordinator | .countLive .. | .makeFactory .. | .closeFactory .. => true
  | .dropFactory .. | .shutDownAll .. => true
  | _ => false

namespace Multiplexer

/-- All other actions leave coordinators and registrations alone. -/
theorem perform_sameEnrolment (mux : Multiplexer) {action : Action}
    (other : action.isEnrolling = false) : mux.SameEnrolment (mux.perform action) := by
  cases action with
  | makeCoordinator | countLive | makeFactory | closeFactory | dropFactory | shutDownAll =>
    cases other
  | makePool | closePool | makeAssigner | changeAssigner | changeStrangers | outside =>
    exact .of_eq rfl rfl
  | ask assigner request =>
    obtain ⟨pools, assigners, after⟩ := mux.ask_eq assigner request
    simp only [perform, after]
    exact .of_eq rfl rfl
  | changeTransport factory transport => exact .of_modify rfl rfl fun _ => rfl
  | reorder factory servers clients =>
    refine .of_modify rfl rfl fun state => ?_
    unfold Factory.reorder
    split <;> rfl
  | findAssigner factory =>
    obtain ⟨assigners, remember, after, remembers⟩ := mux.assignerOf_eq factory
    simp only [perform, after]
    refine .of_modify rfl rfl fun state => ?_
    obtain ⟨authority, remembered⟩ := remembers state
    rw [remembered]
    rfl
  | createServer number port =>
    cases found : mux.factories.get? number with
    | none =>
      simp only [perform, createServer, found]
      exact .refl mux
    | some factory => exact (createServer_creates port found).sameEnrolment
  | createClient number key =>
    obtain ⟨err, host, -, after⟩ | ⟨credentials, file, connection, host, -, -, after⟩ :=
      mux.createClient_cases number key
    · simp only [perform, after]
      exact .of_eq rfl rfl
    · simp only [perform, after]
      exact .of_modify rfl rfl fun _ => rfl
  | createClientShort number key shortage =>
    obtain ⟨host, forget, forgets, -, after⟩ := mux.createClient_short number key shortage
    simp only [perform, after]
    refine .of_modify rfl rfl fun factory => ?_
    obtain ⟨credentials, forgotten, -⟩ := forgets factory
    rw [forgotten]
    rfl
  | accept listener =>
    obtain ⟨host, -, after⟩ := mux.acceptOn_eq listener
    simp only [perform, after]
    exact .of_eq rfl rfl
  | beginAccept listener =>
    obtain ⟨host, -, after⟩ := mux.beginAcceptOn_eq listener
    simp only [perform, after]
    exact .of_eq rfl rfl
  | closeListener listener => exact mux.closeListener_sameEnrolment listener
  | dropListener listener hasTasks =>
    obtain ⟨-, unchanged⟩ | ⟨row, -, -, after⟩ := mux.dropListener_cases listener hasTasks
    · simp only [perform, unchanged]
      exact .refl mux
    · simp only [perform, after]
      by_cases registered : row.registered = true
      · exact .of_modify rfl (if_pos registered) fun _ => rfl
      · exact .of_eq rfl (if_neg registered)
  | closeClient client => exact mux.closeClient_sameEnrolment client
  | dropClient client =>
    obtain ⟨host, -, after⟩ := mux.dropClient_eq client
    simp only [perform, after]
    exact (mux.closeClient_sameEnrolment client).trans (.of_eq rfl rfl)
  | startAuthority path pool =>
    obtain ⟨host, authorities, after⟩ := mux.startAuthority_eq path pool
    simp only [perform, after]
    exact .of_eq rfl rfl
  | shutDownAuthority authority =>
    obtain ⟨host, authorities, after⟩ := mux.shutDownAuthority_eq authority
    simp only [perform, after]
    exact .of_eq rfl rfl
  | dropAuthority authority =>
    obtain ⟨host, after⟩ := mux.dropAuthority_eq authority
    simp only [perform, after]
    exact .of_eq rfl rfl
  | returnOne index =>
    obtain unchanged | ⟨entry, pools, assigners, -, after⟩ := mux.returnOne_cases index
    · simp only [perform, unchanged]
      exact .refl mux
    · simp only [perform, after]
      exact .of_eq rfl rfl
  | serve =>
    obtain ⟨host, pools, served, -, after⟩ := mux.serveAll_eq
    simp only [perform, after]
    exact .of_eq rfl rfl

/-- Whether coordinators and factories agree on who is registered, where a coordinator that
shuts its factories down has still some entries to visit that it does not list. -/
structure Enrolled (pending : Nat → List (HookId × Nat)) (mux : Multiplexer) : Prop where
  listed : ∀ coordinator state, mux.coordinators.get? coordinator = some state →
    pending coordinator ++ state.entries = mux.enrolledWith coordinator
  /-- No two factories have the same entry. -/
  once : ∀ coordinator, ((mux.enrolledWith coordinator).map Prod.fst).Nodup
  /-- Entries were given by coordinators. -/
  given : ∀ number coordinator id, mux.registration? number = some (coordinator, id) →
    ∃ state, mux.coordinators.get? coordinator = some state ∧ id < state.nextId
  /-- No coordinator gave more entries than factories were made. -/
  counted : ∀ coordinator state, mux.coordinators.get? coordinator = some state →
    state.nextId.toNat ≤ mux.factories.size
  held : ∀ number, (mux.registration? number).isSome → mux.holdsFactory number = true

/-- No entries, while no shutdown is under way. -/
def noEntries : Nat → List (HookId × Nat) := fun _ => []

section Enrolling

variable {mux after : Multiplexer} {pending : Nat → List (HookId × Nat)}

theorem mem_enrolledWith {coordinator : Nat} {entry : HookId × Nat} :
    entry ∈ mux.enrolledWith coordinator ↔
      mux.registration? entry.2 = some (coordinator, entry.1) := by
  unfold enrolledWith entryWith?
  simp only [List.mem_filterMap, List.mem_range]
  constructor
  · rintro ⟨number, -, found⟩
    obtain ⟨registration, registered, chosen⟩ := Option.bind_eq_some_iff.mp found
    split at chosen
    · next same =>
      cases chosen
      rw [registered, ← same]
    · cases chosen
  · intro registered
    refine ⟨entry.2, ?_, ?_⟩
    · unfold registration? at registered
      obtain ⟨factory, found, -⟩ := Option.bind_eq_some_iff.mp registered
      exact (List.getElem?_eq_some_iff.mp found).1
    · rw [registered]
      simp

theorem entryWith?_snd {coordinator number : Nat} {entry : HookId × Nat}
    (found : mux.entryWith? coordinator number = some entry) : entry.2 = number := by
  unfold entryWith? at found
  obtain ⟨registration, -, chosen⟩ := Option.bind_eq_some_iff.mp found
  split at chosen
  · cases chosen
    rfl
  · cases chosen

/-- The numbers of the factories that are registered with a coordinator ascend. -/
theorem enrolledWith_ascending (mux : Multiplexer) (coordinator : Nat) :
    ((mux.enrolledWith coordinator).map Prod.snd).Pairwise (· < ·) := by
  unfold enrolledWith
  rw [List.map_filterMap, List.pairwise_filterMap]
  refine List.pairwise_lt_range.imp fun {left right} less first firstFound second secondFound => ?_
  obtain ⟨former, formerFound, rfl⟩ := Option.map_eq_some_iff.mp firstFound
  obtain ⟨latter, latterFound, rfl⟩ := Option.map_eq_some_iff.mp secondFound
  rw [entryWith?_snd formerFound, entryWith?_snd latterFound]
  exact less

theorem Enrolled.sameEnrolment (enrolled : mux.Enrolled pending)
    (same : mux.SameEnrolment after) : after.Enrolled pending where
  listed coordinator state found := by
    rw [same.coordinators] at found
    rw [same.enrolledWith]
    exact enrolled.listed coordinator state found
  once coordinator := by
    rw [same.enrolledWith]
    exact enrolled.once coordinator
  given number coordinator id registered := by
    rw [same.registration?] at registered
    rw [same.coordinators]
    exact enrolled.given number coordinator id registered
  counted coordinator state found := by
    rw [same.coordinators] at found
    rw [same.size]
    exact enrolled.counted coordinator state found
  held number registered := by
    rw [same.registration?] at registered
    rw [same.holdsFactory]
    exact enrolled.held number registered

/-- What the withdrawal of a factory does to registrations. -/
theorem registration?_withdraw (mux : Multiplexer) (number other : Nat) :
    (mux.withdraw number).registration? other =
      if other = number then none else mux.registration? other := by
  obtain ⟨coordinators, after⟩ := mux.withdraw_eq number
  rw [after]
  unfold registration?
  simp only [Table.get?_modify]
  by_cases same : other = number
  · rw [if_pos same.symm, if_pos same]
    cases mux.factories.get? other <;> rfl
  · rw [if_neg (Ne.symm same), if_neg same]

theorem holdsFactory_withdraw (mux : Multiplexer) (number other : Nat) :
    (mux.withdraw number).holdsFactory other = mux.holdsFactory other := by
  obtain ⟨coordinators, after⟩ := mux.withdraw_eq number
  rw [after]
  unfold holdsFactory
  simp only [Table.get?_modify]
  split
  · cases mux.factories.get? other <;> rfl
  · rfl

/-- Closing factories leaves their number as it is. -/
theorem keptByClosing_size (size : Nat) : KeptByClosing fun mux => mux.factories.size = size where
  listener {mux} number same := (mux.closeListener_sameEnrolment number).size.trans same
  client {mux} number same := (mux.closeClient_sameEnrolment number).size.trans same
  factory _ _ _ same := (Table.size_modify _ _ _).trans same
  coordinators _ same := same

theorem size_withdraw (mux : Multiplexer) (number : Nat) :
    (mux.withdraw number).factories.size = mux.factories.size :=
  (keptByClosing_size _).withdraw rfl number

theorem enrolledWith_withdraw (mux : Multiplexer) (number coordinator : Nat) :
    (mux.withdraw number).enrolledWith coordinator =
      (mux.enrolledWith coordinator).filter fun entry => entry.2 != number := by
  unfold enrolledWith
  rw [List.filter_filterMap, mux.size_withdraw]
  congr 1
  funext other
  unfold entryWith?
  rw [registration?_withdraw]
  cases mux.registration? other with
  | none =>
    rw [ite_self]
    rfl
  | some registration =>
    by_cases same : other = number
    · by_cases chosen : registration.1 = coordinator <;> simp [same, chosen, Option.filter]
    · by_cases chosen : registration.1 = coordinator <;> simp [same, chosen, Option.filter]

/-- What a coordinator lists is registered with it. -/
theorem Enrolled.registered (enrolled : mux.Enrolled pending) {coordinator : Nat}
    {state : ShutdownCoordinator Nat} (found : mux.coordinators.get? coordinator = some state)
    {entry : HookId × Nat} (member : entry ∈ pending coordinator ++ state.entries) :
    mux.registration? entry.2 = some (coordinator, entry.1) := by
  rw [enrolled.listed coordinator state found] at member
  exact mem_enrolledWith.mp member

/-- Factories with the same entry are the same. -/
theorem Enrolled.number_unique (enrolled : mux.Enrolled pending) {coordinator first second : Nat}
    {id : HookId} (former : mux.registration? first = some (coordinator, id))
    (latter : mux.registration? second = some (coordinator, id)) : first = second := by
  have firstMember : (id, first) ∈ mux.enrolledWith coordinator := mem_enrolledWith.mpr former
  have secondMember : (id, second) ∈ mux.enrolledWith coordinator := mem_enrolledWith.mpr latter
  exact congrArg Prod.snd
    (List.inj_on_of_nodup_map (enrolled.once coordinator) firstMember secondMember rfl)

/-- Where a factory is not registered there is nothing to take off. -/
theorem Enrolled.filter_of_unregistered (enrolled : mux.Enrolled pending)
    {number coordinator : Nat} {state : ShutdownCoordinator Nat}
    (found : mux.coordinators.get? coordinator = some state)
    (absent : ∀ id, mux.registration? number ≠ some (coordinator, id)) :
    (state.entries.filter fun entry => entry.2 != number) = state.entries := by
  rw [List.filter_eq_self]
  intro entry member
  have registered := enrolled.registered found (List.mem_append_right _ member)
  rw [bne_iff_ne]
  rintro rfl
  exact absent entry.1 registered

/-- Taking off the number of an entry takes off its factory. -/
theorem Enrolled.entries_deregister (enrolled : mux.Enrolled pending) {number coordinator : Nat}
    {id : HookId} {state : ShutdownCoordinator Nat}
    (found : mux.coordinators.get? coordinator = some state)
    (registered : mux.registration? number = some (coordinator, id)) :
    (state.deregister id).2.entries = state.entries.filter fun entry => entry.2 != number := by
  refine List.filter_congr fun entry member => ?_
  have listed := enrolled.registered found (List.mem_append_right _ member)
  have same : entry.1 = id ↔ entry.2 = number := by
    constructor
    · rintro rfl
      exact enrolled.number_unique listed registered
    · intro same
      rw [same, registered] at listed
      exact (congrArg Prod.snd (Option.some.inj listed)).symm
  simp only [bne, beq_eq_decide, same]

/-- A withdrawal takes the entry of the factory off its coordinator. -/
theorem Enrolled.coordinators_withdraw (enrolled : mux.Enrolled pending)
    (number coordinator : Nat) :
    (mux.withdraw number).coordinators.get? coordinator =
      (mux.coordinators.get? coordinator).map fun state =>
        { state with entries := state.entries.filter fun entry => entry.2 != number } := by
  cases registered : mux.registration? number with
  | none =>
    have unchanged : mux.withdraw number = mux := by
      unfold withdraw
      rw [show (mux.factories.get? number).bind Factory.registration = none from registered]
    rw [unchanged]
    cases found : mux.coordinators.get? coordinator with
    | none => rfl
    | some state =>
      have kept := enrolled.filter_of_unregistered found (by rw [registered]; nofun)
      rw [Option.map_some, kept]
  | some registration =>
    obtain ⟨home, id⟩ := registration
    have changed : (mux.withdraw number).coordinators =
        mux.coordinators.modify home fun state => (state.deregister id).2 := by
      unfold withdraw
      rw [show (mux.factories.get? number).bind Factory.registration = some (home, id) from
        registered]
    rw [changed, Table.get?_modify]
    cases found : mux.coordinators.get? coordinator with
    | none => simp
    | some state =>
      split
      · next same =>
        subst same
        rw [Option.map_some, Option.map_some, ← enrolled.entries_deregister found registered]
        rfl
      · next apart =>
        have kept := enrolled.filter_of_unregistered found fun other same => by
          rw [registered] at same
          cases same
          exact apart rfl
        rw [Option.map_some, kept]

/-- A withdrawal takes a registration down in both places. -/
theorem Enrolled.withdraw (enrolled : mux.Enrolled pending) (number : Nat) :
    (mux.withdraw number).Enrolled fun coordinator =>
      (pending coordinator).filter fun entry => entry.2 != number where
  listed coordinator state found := by
    rw [enrolled.coordinators_withdraw] at found
    obtain ⟨former, formerFound, rfl⟩ := Option.map_eq_some_iff.mp found
    rw [enrolledWith_withdraw, ← enrolled.listed coordinator former formerFound,
      List.filter_append]
  once coordinator := by
    rw [enrolledWith_withdraw]
    exact (enrolled.once coordinator).sublist (List.filter_sublist.map _)
  given other coordinator id registered := by
    rw [registration?_withdraw] at registered
    split at registered
    · cases registered
    · obtain ⟨state, found, less⟩ := enrolled.given other coordinator id registered
      refine ⟨{ state with entries := state.entries.filter fun entry => entry.2 != number }, ?_,
        less⟩
      rw [enrolled.coordinators_withdraw, found]
      rfl
  counted coordinator state found := by
    rw [enrolled.coordinators_withdraw] at found
    obtain ⟨former, formerFound, rfl⟩ := Option.map_eq_some_iff.mp found
    rw [mux.size_withdraw]
    exact enrolled.counted coordinator former formerFound
  held other registered := by
    rw [registration?_withdraw] at registered
    split at registered
    · cases registered
    · rw [holdsFactory_withdraw]
      exact enrolled.held other registered

/-- Nobody is registered with a coordinator that is not there. -/
theorem Enrolled.enrolledWith_of_absent (enrolled : mux.Enrolled pending) {coordinator : Nat}
    (absent : mux.coordinators.get? coordinator = none) : mux.enrolledWith coordinator = [] := by
  refine List.eq_nil_iff_forall_not_mem.mpr fun entry member => ?_
  obtain ⟨state, found, -⟩ := enrolled.given _ _ _ (mem_enrolledWith.mp member)
  rw [absent] at found
  cases found

/-- A coordinator that is made lists nobody. -/
theorem Enrolled.makeCoordinator (enrolled : mux.Enrolled noEntries) :
    mux.makeCoordinator.2.Enrolled noEntries where
  listed coordinator state found := by
    have found : (mux.coordinators.add .empty).2.get? coordinator = some state := found
    rw [Table.get?_add] at found
    split at found
    · next last =>
      cases found
      have absent : mux.coordinators.get? coordinator = none := by
        rw [last]
        exact List.getElem?_eq_none (Nat.le_refl _)
      exact (enrolled.enrolledWith_of_absent absent).symm
    · exact enrolled.listed coordinator state found
  once := enrolled.once
  given number coordinator id registered := by
    obtain ⟨state, found, less⟩ := enrolled.given number coordinator id registered
    have bounded : coordinator < mux.coordinators.size := (List.getElem?_eq_some_iff.mp found).1
    exact ⟨state, (Table.get?_add_of_lt _ _ bounded).trans found, less⟩
  counted coordinator state found := by
    have found : (mux.coordinators.add .empty).2.get? coordinator = some state := found
    rw [Table.get?_add] at found
    split at found
    · cases found
      exact Nat.zero_le _
    · exact enrolled.counted coordinator state found
  held := enrolled.held

/-- All that are listed are held, so none is taken off when they are counted. -/
theorem Enrolled.countLive_eq (enrolled : mux.Enrolled noEntries) (coordinator : Nat) :
    mux.countLive coordinator = ((mux.enrolledWith coordinator).length, mux) := by
  have kept : mux.coordinators.modify coordinator (fun state => state.prune mux.holdsFactory) =
      mux.coordinators := by
    refine Table.modify_eq_self _ _ _ fun state found => ?_
    have all : (state.entries.filter fun entry => mux.holdsFactory entry.2) = state.entries := by
      rw [List.filter_eq_self]
      intro entry member
      refine enrolled.held entry.2 ?_
      rw [enrolled.registered found (List.mem_append_right _ member)]
      rfl
    rw [ShutdownCoordinator.prune, all]
  unfold countLive
  simp only [kept]
  cases found : mux.coordinators.get? coordinator with
  | none =>
    rw [enrolled.enrolledWith_of_absent found]
    rfl
  | some state =>
    rw [← enrolled.listed coordinator state found]
    rfl

/-- A factory that is added has the registration that it was made with. -/
theorem registration?_add {row : Factory} (factories : after.factories = (mux.factories.add row).2)
    (number : Nat) : after.registration? number =
      if number = mux.factories.size then row.registration else mux.registration? number := by
  unfold registration?
  rw [factories, Table.get?_add]
  split
  · rfl
  · rfl

theorem enrolledWith_add {row : Factory} (factories : after.factories = (mux.factories.add row).2)
    (coordinator : Nat) : after.enrolledWith coordinator = mux.enrolledWith coordinator ++
      (row.registration.bind fun registration =>
        if registration.1 = coordinator then some (registration.2, mux.factories.size)
        else none).toList := by
  have size : after.factories.size = mux.factories.size + 1 := by
    rw [factories]
    exact List.length_append
  have others : (List.range mux.factories.size).filterMap (after.entryWith? coordinator) =
      (List.range mux.factories.size).filterMap (mux.entryWith? coordinator) := by
    refine List.filterMap_congr fun number member => ?_
    have apart : number ≠ mux.factories.size := Nat.ne_of_lt (List.mem_range.mp member)
    unfold entryWith?
    rw [registration?_add factories, if_neg apart]
  have last : after.entryWith? coordinator mux.factories.size =
      row.registration.bind fun registration =>
        if registration.1 = coordinator then some (registration.2, mux.factories.size)
        else none := by
    unfold entryWith?
    rw [registration?_add factories, if_pos rfl]
  unfold enrolledWith
  rw [size, List.range_succ, List.filterMap_append, others, List.filterMap_cons, last]
  split
  · next none => rw [none]; rfl
  · next some => rw [some]; rfl

/-- A factory that is made registers with the coordinator that it is given, if it is there. -/
theorem makeFactory_cases (mux : Multiplexer) (profile : FactoryProfile) (naming : Naming)
    (transport : Transport) (coordinator : Option Nat) :
    (∃ home state, coordinator = some home ∧ mux.coordinators.get? home = some state ∧
      (mux.makeFactory profile naming transport coordinator).2 =
        { mux with
          coordinators := mux.coordinators.modify home fun _ =>
            (state.register mux.factories.size).2
          factories := (mux.factories.add ⟨profile, naming, transport, [], [], .empty, none,
            some (home, state.nextId), true⟩).2 }) ∨
    ((coordinator.bind mux.coordinators.get?) = none ∧
      (mux.makeFactory profile naming transport coordinator).2 =
        { mux with
          factories := (mux.factories.add ⟨profile, naming, transport, [], [], .empty, none,
            none, true⟩).2 }) := by
  unfold makeFactory
  cases coordinator with
  | none => exact .inr ⟨rfl, rfl⟩
  | some home =>
    cases found : mux.coordinators.get? home with
    | none =>
      refine .inr ⟨found, ?_⟩
      simp only [Option.bind_eq_bind, Option.bind_some, found]
      rfl
    | some state =>
      refine .inl ⟨home, state, rfl, found, ?_⟩
      simp only [Option.bind_eq_bind, Option.bind_some, found]
      rfl

/-- Where a factory with a handle is added, all that are registered have handles. -/
theorem Enrolled.held_add (enrolled : mux.Enrolled pending) {row : Factory}
    (factories : after.factories = (mux.factories.add row).2) (isHeld : row.isHeld = true)
    (number : Nat) (registered : (after.registration? number).isSome) :
    after.holdsFactory number = true := by
  unfold holdsFactory
  rw [registration?_add factories] at registered
  rw [factories, Table.get?_add]
  split at registered
  · next last => rw [if_pos last, Option.any_some, isHeld]
  · next before =>
    rw [if_neg before]
    exact enrolled.held number registered

/-- The number that a coordinator gives next is nobody's. -/
theorem Enrolled.nextId_fresh (enrolled : mux.Enrolled pending) {home : Nat}
    {state : ShutdownCoordinator Nat} (found : mux.coordinators.get? home = some state) :
    state.nextId ∉ (mux.enrolledWith home).map Prod.fst := by
  intro member
  obtain ⟨entry, listed, same⟩ := List.mem_map.mp member
  obtain ⟨other, otherFound, less⟩ := enrolled.given _ _ _ (mem_enrolledWith.mp listed)
  rw [found] at otherFound
  cases otherFound
  exact UInt64.lt_irrefl _ (same ▸ less)

/-- The entries of a coordinator have numbers before the one that it gives next. -/
theorem Enrolled.entries_given (enrolled : mux.Enrolled noEntries) {home : Nat}
    {state : ShutdownCoordinator Nat} (found : mux.coordinators.get? home = some state) :
    ∀ entry ∈ state.entries, entry.1 < state.nextId := by
  intro entry member
  have registered := enrolled.registered found (List.mem_append_right _ member)
  obtain ⟨other, otherFound, less⟩ := enrolled.given _ _ _ registered
  rw [found] at otherFound
  cases otherFound
  exact less

/-- A coordinator that has not given all numbers counts the next one. -/
theorem Enrolled.toNat_next (enrolled : mux.Enrolled pending) {home : Nat}
    {state : ShutdownCoordinator Nat} (found : mux.coordinators.get? home = some state)
    (few : mux.factories.size + 1 < UInt64.size) :
    (state.nextId + 1).toNat = state.nextId.toNat + 1 :=
  HookId.toNat_next (Nat.lt_of_le_of_lt (Nat.succ_le_succ (enrolled.counted home state found)) few)

/-- A factory that registers takes the next number of its coordinator. -/
theorem Enrolled.register (enrolled : mux.Enrolled noEntries)
    (few : mux.factories.size + 1 < UInt64.size) {home : Nat}
    {state : ShutdownCoordinator Nat} (found : mux.coordinators.get? home = some state)
    {row : Factory} (isHeld : row.isHeld = true)
    (registration : row.registration = some (home, state.nextId)) :
    Enrolled noEntries { mux with
      coordinators := mux.coordinators.modify home fun _ => (state.register mux.factories.size).2
      factories := (mux.factories.add row).2 } where
  listed other otherState otherFound := by
    rw [enrolledWith_add rfl, registration]
    rw [Table.get?_modify] at otherFound
    split at otherFound
    · next same =>
      subst same
      rw [found] at otherFound
      cases otherFound
      rw [← enrolled.listed home state found]
      simp [noEntries, ShutdownCoordinator.register,
        ShutdownCoordinator.insert_last (enrolled.entries_given found)]
    · next apart =>
      rw [enrolled.listed other otherState otherFound]
      simp [apart]
  once other := by
    rw [enrolledWith_add rfl, registration]
    by_cases same : home = other
    · subst same
      simp only [Option.bind_some, if_true, Option.toList_some, List.map_append, List.map_cons,
        List.map_nil]
      exact List.nodup_append.mpr ⟨enrolled.once home, List.nodup_singleton _,
        fun id member last lastMember => by
          rw [List.mem_singleton.mp lastMember]
          rintro rfl
          exact enrolled.nextId_fresh found member⟩
    · simp only [Option.bind_some, if_neg same, Option.toList_none, List.append_nil]
      exact enrolled.once other
  given number other id registered := by
    have up : state.nextId < state.nextId + 1 := by
      rw [UInt64.lt_iff_toNat_lt, enrolled.toNat_next found few]
      exact Nat.lt_succ_self _
    rw [registration?_add rfl, registration] at registered
    split at registered
    · cases registered
      exact ⟨(state.register mux.factories.size).2, by simp [found], up⟩
    · obtain ⟨otherState, otherFound, less⟩ := enrolled.given number other id registered
      by_cases same : home = other
      · subst same
        rw [found] at otherFound
        cases otherFound
        exact ⟨(state.register mux.factories.size).2, by simp [found], UInt64.lt_trans less up⟩
      · exact ⟨otherState, by rw [Table.get?_modify, if_neg same, otherFound], less⟩
  counted other otherState otherFound := by
    have size : (mux.factories.add row).2.size = mux.factories.size + 1 := List.length_append
    rw [size]
    rw [Table.get?_modify] at otherFound
    split at otherFound
    · next same =>
      subst same
      rw [found] at otherFound
      cases otherFound
      have next : (state.register mux.factories.size).2.nextId.toNat = state.nextId.toNat + 1 :=
        enrolled.toNat_next found few
      rw [next]
      exact Nat.succ_le_succ (enrolled.counted home state found)
    · exact Nat.le_succ_of_le (enrolled.counted other otherState otherFound)
  held := enrolled.held_add rfl isHeld

/-- A factory that does not register leaves the coordinators alone. -/
theorem Enrolled.addUnregistered (enrolled : mux.Enrolled noEntries) {row : Factory}
    (isHeld : row.isHeld = true) (registration : row.registration = none) :
    Enrolled noEntries { mux with factories := (mux.factories.add row).2 } := by
  have same : ∀ other, enrolledWith { mux with factories := (mux.factories.add row).2 } other =
      mux.enrolledWith other := by
    intro other
    rw [enrolledWith_add rfl, registration]
    simp
  refine ⟨fun other state found => ?_, fun other => ?_, fun number other id registered => ?_,
    fun other state found => ?_, enrolled.held_add rfl isHeld⟩
  · rw [same]
    exact enrolled.listed other state found
  · rw [same]
    exact enrolled.once other
  · rw [registration?_add rfl, registration] at registered
    split at registered
    · cases registered
    · exact enrolled.given number other id registered
  · have size : (mux.factories.add row).2.size = mux.factories.size + 1 := List.length_append
    rw [size]
    exact Nat.le_succ_of_le (enrolled.counted other state found)

/-- Making a factory registers it in both places, if at all. -/
theorem Enrolled.makeFactory (enrolled : mux.Enrolled noEntries)
    (few : mux.factories.size + 1 < UInt64.size) (profile : FactoryProfile)
    (naming : Naming) (transport : Transport) (coordinator : Option Nat) :
    (mux.makeFactory profile naming transport coordinator).2.Enrolled noEntries := by
  rcases mux.makeFactory_cases profile naming transport coordinator with
    ⟨home, state, -, found, after⟩ | ⟨-, after⟩
  · rw [after]
    exact enrolled.register few found rfl rfl
  · rw [after]
    exact enrolled.addUnregistered rfl rfl

/-- The close of a factory takes its registration down. -/
theorem Enrolled.closeFactory (enrolled : mux.Enrolled pending) (number : Nat) :
    (mux.closeFactory number).2.Enrolled fun coordinator =>
      (pending coordinator).filter fun entry => entry.2 != number := by
  obtain ⟨between, same, after⟩ := mux.closeFactory_eq number
  rw [after]
  exact (enrolled.sameEnrolment same).withdraw number

theorem registration?_closeFactory (mux : Multiplexer) (number other : Nat) :
    (mux.closeFactory number).2.registration? other =
      if other = number then none else mux.registration? other := by
  obtain ⟨between, same, after⟩ := mux.closeFactory_eq number
  rw [after, registration?_withdraw, same.registration?]

theorem holdsFactory_closeFactory (mux : Multiplexer) (number other : Nat) :
    (mux.closeFactory number).2.holdsFactory other = mux.holdsFactory other := by
  obtain ⟨between, same, after⟩ := mux.closeFactory_eq number
  rw [after, holdsFactory_withdraw, same.holdsFactory]

/-- A factory that is let go of is not registered any more. -/
theorem registration?_dropFactory (mux : Multiplexer) (number other : Nat) :
    (mux.dropFactory number).registration? other =
      if other = number then none else mux.registration? other := by
  rw [← registration?_withdraw]
  unfold registration? dropFactory modifyFactory
  rw [Table.get?_modify]
  split
  · cases (mux.withdraw number).factories.get? other <;> rfl
  · rfl

theorem Enrolled.dropFactory (enrolled : mux.Enrolled pending) (number : Nat) :
    (mux.dropFactory number).Enrolled fun coordinator =>
      (pending coordinator).filter fun entry => entry.2 != number := by
  have withdrawn := enrolled.withdraw number
  have registrations : ∀ other, (mux.dropFactory number).registration? other =
      (mux.withdraw number).registration? other := by
    intro other
    rw [registration?_dropFactory, registration?_withdraw]
  have size : (mux.dropFactory number).factories.size = (mux.withdraw number).factories.size :=
    Table.size_modify _ _ _
  have lists : ∀ coordinator, (mux.dropFactory number).enrolledWith coordinator =
      (mux.withdraw number).enrolledWith coordinator := by
    intro coordinator
    unfold enrolledWith
    rw [size]
    congr 1
    funext other
    unfold entryWith?
    rw [registrations]
  refine ⟨fun coordinator state found => ?_, fun coordinator => ?_,
    fun other coordinator id registered => ?_, fun coordinator state found => ?_,
    fun other registered => ?_⟩
  · rw [lists]
    exact withdrawn.listed coordinator state found
  · rw [lists]
    exact withdrawn.once coordinator
  · rw [registrations] at registered
    exact withdrawn.given other coordinator id registered
  · rw [size]
    exact withdrawn.counted coordinator state found
  · have apart : other ≠ number := by
      rintro rfl
      rw [registration?_dropFactory, if_pos rfl] at registered
      cases registered
    rw [registrations] at registered
    have holds := withdrawn.held other registered
    unfold holdsFactory Multiplexer.dropFactory modifyFactory at *
    rwa [Table.get?_modify, if_neg (Ne.symm apart)]

/-- The entries that a shutdown of a coordinator has still to visit. -/
def pendingOf (coordinator : Nat) (entries : List (HookId × Nat)) : Nat → List (HookId × Nat) :=
  fun other => if other = coordinator then entries else []

/-- While a shutdown closes factories in turn, it has still to visit those that are left. -/
theorem Enrolled.closeEntries {coordinator : Nat} {entries : List (HookId × Nat)}
    (enrolled : mux.Enrolled (pendingOf coordinator entries))
    (there : (mux.coordinators.get? coordinator).isSome) (report : ShutdownReport) :
    (mux.closeEntries entries report).2.Enrolled noEntries ∧
      ∀ number, (mux.closeEntries entries report).2.registration? number =
        if number ∈ entries.map Prod.snd then none else mux.registration? number := by
  induction entries generalizing mux report with
  | nil =>
    have nothing : pendingOf coordinator [] = noEntries := by
      funext other
      exact ite_self _
    rw [nothing] at enrolled
    exact ⟨enrolled, fun number => by simp [Multiplexer.closeEntries]⟩
  | cons entry others inductionHypothesis =>
    obtain ⟨id, number⟩ := entry
    obtain ⟨state, found⟩ := Option.isSome_iff_exists.mp there
    have whole := enrolled.listed coordinator state found
    have mine : pendingOf coordinator ((id, number) :: others) coordinator =
        (id, number) :: others := if_pos rfl
    rw [mine] at whole
    have registered : mux.registration? number = some (coordinator, id) :=
      enrolled.registered found (by rw [mine]; exact List.mem_cons_self)
    have holds := enrolled.held number (by rw [registered]; rfl)
    -- The entries that are left are of other factories.
    have apart : (others.filter fun entry => entry.2 != number) = others := by
      have ascending := mux.enrolledWith_ascending coordinator
      rw [← whole, List.cons_append, List.map_cons, List.pairwise_cons] at ascending
      rw [List.filter_eq_self]
      intro entry member
      have less := ascending.1 entry.2
        (List.mem_map_of_mem (List.mem_append_left _ member))
      simpa using Nat.ne_of_gt less
    have next := enrolled.closeFactory number
    have pending : (fun other => (pendingOf coordinator ((id, number) :: others) other).filter
        fun entry => entry.2 != number) = pendingOf coordinator others := by
      funext other
      unfold pendingOf
      split
      · rw [List.filter_cons_of_neg (by simp), apart]
      · rfl
    rw [pending] at next
    have still : ((mux.closeFactory number).2.coordinators.get? coordinator).isSome := by
      obtain ⟨between, same, after⟩ := mux.closeFactory_eq number
      rw [after, (enrolled.sameEnrolment same).coordinators_withdraw, same.coordinators, found]
      rfl
    obtain ⟨factory, factoryFound, isHeld⟩ := (Option.any_eq_true _ _).mp holds
    have alive : (mux.factories.get? number).filter Factory.isHeld = some factory :=
      Option.filter_eq_some_iff.mpr ⟨factoryFound, isHeld⟩
    simp only [Multiplexer.closeEntries, alive]
    obtain ⟨settled, registrations⟩ := inductionHypothesis next still
      (report.add factory.profile.label (errorOf (mux.closeFactory number).1).head?)
    refine ⟨settled, fun other => ?_⟩
    rw [registrations, registration?_closeFactory, List.map_cons]
    by_cases same : other = number
    · simp [same]
    · simp only [same, List.mem_cons, if_false, false_or]

/-- A shutdown takes the registrations of all factories down that its coordinator lists. -/
theorem Enrolled.shutDownAll (enrolled : mux.Enrolled noEntries) (coordinator : Nat) :
    (mux.shutDownAll coordinator).2.Enrolled noEntries ∧
      ∀ number, (mux.shutDownAll coordinator).2.registration? number =
        if number ∈ (mux.enrolledWith coordinator).map Prod.snd then none
        else mux.registration? number := by
  cases found : mux.coordinators.get? coordinator with
  | none =>
    simp only [Multiplexer.shutDownAll, found, enrolled.enrolledWith_of_absent found]
    exact ⟨enrolled, fun number => by simp⟩
  | some state =>
    have listed := enrolled.listed coordinator state found
    have taken : Enrolled (pendingOf coordinator state.entries)
        { mux with
          coordinators := mux.coordinators.modify coordinator fun _ => state.takeAll.2 } := by
      refine ⟨fun other row otherFound => ?_, enrolled.once,
        fun number other id registered => ?_, fun other row otherFound => ?_, enrolled.held⟩
      · rw [Table.get?_modify] at otherFound
        unfold pendingOf
        split at otherFound
        · next same =>
          subst same
          rw [found] at otherFound
          cases otherFound
          rw [if_pos rfl]
          exact (List.append_nil _).trans listed
        · next apart =>
          rw [if_neg (Ne.symm apart)]
          exact enrolled.listed other row otherFound
      · obtain ⟨row, rowFound, less⟩ := enrolled.given number other id registered
        by_cases same : coordinator = other
        · subst same
          rw [found] at rowFound
          cases rowFound
          exact ⟨state.takeAll.2, by simp [found], less⟩
        · exact ⟨row, by rw [Table.get?_modify, if_neg same, rowFound], less⟩
      · rw [Table.get?_modify] at otherFound
        split at otherFound
        · next same =>
          subst same
          rw [found] at otherFound
          cases otherFound
          exact enrolled.counted coordinator state found
        · exact enrolled.counted other row otherFound
    simp only [Multiplexer.shutDownAll, found]
    rw [← listed]
    exact taken.closeEntries (by simp [found]) .empty

/-- No action takes a factory away. -/
theorem size_le_perform (mux : Multiplexer) (action : Action) :
    mux.factories.size ≤ (mux.perform action).factories.size := by
  by_cases other : action.isEnrolling = false
  · exact Nat.le_of_eq (mux.perform_sameEnrolment other).size.symm
  cases action with
  | makeFactory profile naming transport coordinator =>
    have size : (mux.perform (.makeFactory profile naming transport coordinator)).factories.size =
        mux.factories.size + 1 := List.length_append
    rw [size]
    exact Nat.le_succ _
  | closeFactory number => exact Nat.le_of_eq ((keptByClosing_size _).closeFactory rfl number).symm
  | dropFactory number => exact Nat.le_of_eq ((keptByClosing_size _).dropFactory rfl number).symm
  | shutDownAll coordinator =>
    exact Nat.le_of_eq ((keptByClosing_size _).shutDownAll rfl coordinator).symm
  | makeCoordinator | countLive => exact Nat.le_refl _
  | _ => exact absurd rfl other

/-- Every action keeps coordinators and factories in agreement, while fewer factories are made
than a counter has numbers. -/
theorem Enrolled.perform (enrolled : mux.Enrolled noEntries) (action : Action)
    (few : (mux.perform action).factories.size < UInt64.size) :
    (mux.perform action).Enrolled noEntries := by
  by_cases other : action.isEnrolling = false
  · exact enrolled.sameEnrolment (mux.perform_sameEnrolment other)
  cases action with
  | makeCoordinator => exact enrolled.makeCoordinator
  | countLive coordinator =>
    have after : mux.perform (.countLive coordinator) = mux :=
      congrArg Prod.snd (enrolled.countLive_eq coordinator)
    rw [after]
    exact enrolled
  | makeFactory profile naming transport coordinator =>
    have size : (mux.perform (.makeFactory profile naming transport coordinator)).factories.size =
        mux.factories.size + 1 := List.length_append
    exact enrolled.makeFactory (size ▸ few) profile naming transport coordinator
  | closeFactory number => exact enrolled.closeFactory number
  | dropFactory number => exact enrolled.dropFactory number
  | shutDownAll coordinator => exact (enrolled.shutDownAll coordinator).1
  | _ => exact absurd rfl other

/-- Nobody is registered at the start. -/
theorem Enrolled.initial (host : Host) (own : PeerCredentials) :
    (Multiplexer.initial host own).Enrolled noEntries where
  listed coordinator state found := by cases found
  once coordinator := List.nodup_nil
  given number coordinator id registered := by cases registered
  counted coordinator state found := by cases found
  held number registered := by cases registered

end Enrolling

end Multiplexer

/-- In every run coordinators and factories agree on who is registered, as long as fewer
factories were made than a counter of 64 bits has numbers. -/
theorem Run.enrolled {host : Host} {own : PeerCredentials} {history : History}
    {mux : Multiplexer} (run : Run (.initial host own) history mux)
    (few : mux.factories.size < UInt64.size) : mux.Enrolled Multiplexer.noEntries := by
  induction run with
  | nothing => exact .initial host own
  | @more _ mux _ action inductionHypothesis =>
    have before := inductionHypothesis (Nat.lt_of_le_of_lt (mux.size_le_perform action) few)
    exact before.perform action few

end SocketMux
