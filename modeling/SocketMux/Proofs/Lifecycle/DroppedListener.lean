import Mathlib.Data.List.Perm.Basic
import SocketMux.Proofs.Lifecycle.ListenerClose

/-!
# Dropping a listener in the place of closing it

A listener that is dropped takes the same steps off the host and its factory as one that is
closed, but its port is only due to go back. The order in which background tasks give back what is
due makes no difference (`Multiplexer.GivesBackDue.eq`), so once they are done a drop has come to
what a close does (`Multiplexer.drop_as_close`). A drop that finds no background tasks at hand
comes to that, too, but for the port, which has still to go back.
-/

namespace SocketMux

open SocketMux.Authority

namespace Multiplexer

section GivingBack

/-- Background tasks give back all ports that are due, in any order. -/
inductive GivesBackDue : Multiplexer → Multiplexer → Prop where
  | done {mux : Multiplexer} (idle : mux.due = []) : GivesBackDue mux mux
  | next {mux after : Multiplexer} {index : Nat} (bounded : index < mux.due.length)
      (later : GivesBackDue (mux.returnOne index) after) : GivesBackDue mux after

/-- Pools after ports went back to their assigners. -/
def givenBack (pools : Table PortPool) (poolOf? : Nat → Option Nat) (ports : List (Nat × Port)) :
    Table PortPool :=
  ports.foldl (fun pools entry => takenBack pools (poolOf? entry.1) entry.2) pools

variable {pools : Table PortPool} {poolOf? : Nat → Option Nat}

/-- In which order ports go back makes no difference to the pools. -/
theorem givenBack_of_perm {ports others : List (Nat × Port)} (same : ports.Perm others) :
    givenBack pools poolOf? ports = givenBack pools poolOf? others :=
  same.foldl_eq' (fun _ _ _ _ pools => takenBack_comm pools _ _ _ _) pools

theorem givenBack_append (ports others : List (Nat × Port)) :
    givenBack pools poolOf? (ports ++ others) =
      givenBack (givenBack pools poolOf? ports) poolOf? others :=
  List.foldl_append

/-- Nothing more is due where nothing is. -/
theorem due_nil {mux : Multiplexer} (idle : mux.due = []) : { mux with due := [] } = mux := by
  rw [← idle]

theorem returnOne_of_lt {mux : Multiplexer} {index : Nat} (bounded : index < mux.due.length) :
    mux.returnOne index =
      { mux with
        pools := givenBack mux.pools mux.poolOf? [mux.due[index]]
        due := mux.due.eraseIdx index
        returned := mux.due[index] :: mux.returned } := by
  unfold returnOne
  rw [List.getElem?_eq_getElem bounded]
  exact returnPort_after _ _ _

/-- The port of a listener goes back to its pool and is noted down, if it is anonymous. -/
theorem giveBack_after (mux : Multiplexer) (listener : MuxListener) :
    (mux.giveBack listener).2 =
      { mux with
        pools := givenBack mux.pools mux.poolOf? listener.owed?.toList
        returned := listener.owed?.toList ++ mux.returned } := by
  unfold giveBack MuxListener.owed?
  cases listener.assigner with
  | none => rfl
  | some assigner => exact mux.returnPort_after assigner listener.port

/-- Whatever the order, all ports that were due are back in their pools and in the log. -/
theorem GivesBackDue.eq {mux after : Multiplexer} (gives : mux.GivesBackDue after) :
    after = { mux with
        pools := givenBack mux.pools mux.poolOf? mux.due
        due := []
        returned := after.returned } ∧
      after.returned.Perm (mux.due ++ mux.returned) := by
  -- Whichever port goes back first may as well have been due first, as returns commute.
  induction gives with
  | @done mux idle =>
    have unchanged : givenBack mux.pools mux.poolOf? mux.due = mux.pools := by
      rw [idle]
      rfl
    rw [unchanged, idle]
    exact ⟨(due_nil idle).symm, .refl _⟩
  | @next mux after index bounded later inductionHypothesis =>
    obtain ⟨same, returned⟩ := inductionHypothesis
    have first := List.getElem_cons_eraseIdx_perm bounded
    rw [returnOne_of_lt bounded] at same returned
    constructor
    · have pools : givenBack (givenBack mux.pools mux.poolOf? [mux.due[index]]) mux.poolOf?
          (mux.due.eraseIdx index) = givenBack mux.pools mux.poolOf? mux.due := by
        rw [← givenBack_append]
        exact givenBack_of_perm first
      rw [← pools]
      exact same
    · exact returned.trans (List.perm_middle.trans (first.append_right _))

/-- Where background tasks end does not depend on their order. -/
theorem GivesBackDue.alike {mux one other : Multiplexer} (former : mux.GivesBackDue one)
    (latter : mux.GivesBackDue other) : Alike one other where
  same := by
    rw [latter.eq.1, former.eq.1]
  returned := latter.eq.2.trans former.eq.2.symm

/-- Ports may go back in the order in which they fell due. -/
theorem givesBackDue_returnDue (mux : Multiplexer) : mux.GivesBackDue mux.returnDue := by
  generalize fallen : mux.due = due
  induction due generalizing mux with
  | nil =>
    have idle : mux.returnDue = mux := by
      unfold returnDue
      rw [fallen]
      exact due_nil fallen
    rw [idle]
    exact .done fallen
  | cons entry later inductionHypothesis =>
    obtain ⟨assigner, port⟩ := entry
    have bounded : 0 < mux.due.length := by
      rw [fallen]
      exact Nat.succ_pos _
    have one : mux.returnOne 0 = (returnPort { mux with due := later } assigner port).2 := by
      unfold returnOne
      rw [fallen]
      rfl
    have rest : (mux.returnOne 0).due = later := by rw [one, returnPort_after]
    have first : { mux.returnOne 0 with due := [] } =
        (returnPort { mux with due := [] } assigner port).2 := by
      simp only [one, returnPort_after]
      rfl
    have same : (mux.returnOne 0).returnDue = mux.returnDue := by
      unfold returnDue
      rw [rest, fallen, first]
      rfl
    rw [← same]
    exact .next bounded (inductionHypothesis _ rest)

end GivingBack

section Serving

variable (mux : Multiplexer) (returned : List (Nat × Port))

theorem acceptServed_returned (authority : AuthorityServer) :
    acceptServed { mux with returned } authority =
      { mux.acceptServed authority with returned } := by
  unfold acceptServed
  cases mux.host.sockets.get? authority.socket <;> rfl

theorem serveConnection_returned (served : ServedConnection) :
    serveConnection { mux with returned } served =
      ((mux.serveConnection served).1, { (mux.serveConnection served).2 with returned }) := by
  simp only [serveConnection, answerFrom]
  cases mux.host.connections.get? served.connection with
  | none => rfl
  | some connection =>
    cases mux.pools.get? served.pool <;> simp only <;> split <;> rfl

theorem serveConnections_returned (served : List ServedConnection) :
    serveConnections { mux with returned } served =
      ((mux.serveConnections served).1, { (mux.serveConnections served).2 with returned }) := by
  induction served generalizing mux with
  | nil => rfl
  | cons first others inductionHypothesis =>
    simp only [serveConnections, serveConnection_returned, inductionHypothesis]

/-- What was given back so far is of no account to authorities that serve. -/
theorem serveAll_returned :
    serveAll { mux with returned } = { mux.serveAll with returned } := by
  have accepted : ∀ authorities : List AuthorityServer,
      authorities.foldl acceptServed { mux with returned } =
        { authorities.foldl acceptServed mux with returned } := by
    intro authorities
    induction authorities generalizing mux with
    | nil => rfl
    | cons first others inductionHypothesis =>
      rw [List.foldl_cons, List.foldl_cons, acceptServed_returned, inductionHypothesis]
  simp only [serveAll, accepted]
  rw [serveConnections_returned { mux.authorities.rows.foldl acceptServed mux with served := [] }]

end Serving

/-- Authorities serve alike in states that are alike. -/
theorem Alike.serveAll {one other : Multiplexer} (alike : Alike one other) :
    Alike one.serveAll other.serveAll := by
  have kept : ∀ mux : Multiplexer, mux.serveAll.returned = mux.returned := by
    intro mux
    obtain ⟨_, _, _, -, served⟩ := mux.serveAll_eq
    rw [served]
  constructor
  · rw [kept, alike.same, serveAll_returned]
  · rw [kept, kept]
    exact alike.returned

section Dropped

variable {mux dropped closed : Multiplexer} {number : Nat} {listener : MuxListener}

/-- A listener that was closed may be dropped without more ado. -/
theorem dropListener_closeListener (mux : Multiplexer) (number : Nat) (hasTasks : Bool) :
    (mux.closeListener number).2.dropListener number hasTasks = (mux.closeListener number).2 := by
  refine dropListener_of_not_open fun listener found => ?_
  obtain ⟨before, there, isOpen⟩ | shut := mux.open_or_shut number
  · rw [closeListener_snd there isOpen] at found
    simp only [Table.get?_modify, if_true, there, Option.map_some] at found
    cases found
    rfl
  · rw [closeListener_idle shut] at found
    exact shut listener found

/-- After the close of an open listener and all that was due before, everything is as it is when
the listener came off the host and its port went back with the others. -/
theorem closed_eq (found : mux.listeners.get? number = some listener)
    (isOpen : listener.isClosed = false)
    (closes : (mux.closeListener number).2.GivesBackDue closed) :
    closed = { mux.detach number listener with
        pools := givenBack mux.pools (mux.detach number listener).poolOf?
          (listener.owed?.toList ++ mux.due)
        due := []
        returned := closed.returned } ∧
      closed.returned.Perm (mux.due ++ (listener.owed?.toList ++ mux.returned)) := by
  obtain ⟨same, returned⟩ := closes.eq
  rw [closeListener_of_open found isOpen, giveBack_after] at same returned
  simp only [detach_eq] at same returned ⊢
  rw [givenBack_append]
  exact ⟨same, returned⟩

/-- After a drop and all that is due, the port is back if there were background tasks for it. -/
theorem dropped_eq {hasTasks : Bool} (found : mux.listeners.get? number = some listener)
    (isOpen : listener.isClosed = false)
    (drops : (mux.dropListener number hasTasks).GivesBackDue dropped) :
    dropped = { mux.detach number listener with
        pools := givenBack mux.pools (mux.detach number listener).poolOf?
          (mux.due ++ if hasTasks then listener.owed?.toList else [])
        due := []
        returned := dropped.returned } ∧
      dropped.returned.Perm
        ((mux.due ++ if hasTasks then listener.owed?.toList else []) ++ mux.returned) := by
  obtain ⟨same, returned⟩ := drops.eq
  rw [dropListener_of_open found isOpen] at same returned
  simp only [detach_eq] at same returned ⊢
  exact ⟨same, returned⟩

/-- With background tasks at hand the port of a dropped listener goes back like that of a closed
one. -/
theorem alike_of_tasks (found : mux.listeners.get? number = some listener)
    (isOpen : listener.isClosed = false)
    (drops : (mux.dropListener number true).GivesBackDue dropped)
    (closes : (mux.closeListener number).2.GivesBackDue closed) : Alike closed dropped := by
  obtain ⟨closed_is, closedReturned⟩ := closed_eq found isOpen closes
  obtain ⟨dropped_is, droppedReturned⟩ := dropped_eq found isOpen drops
  simp only [if_true] at dropped_is droppedReturned
  constructor
  · rw [dropped_is, closed_is, givenBack_of_perm List.perm_append_comm]
  · rw [List.append_assoc] at droppedReturned
    exact droppedReturned.trans closedReturned.symm

/-- Without background tasks at hand a dropped listener only lacks the return of its port. -/
theorem alike_after_giveBack (found : mux.listeners.get? number = some listener)
    (isOpen : listener.isClosed = false)
    (drops : (mux.dropListener number false).GivesBackDue dropped)
    (closes : (mux.closeListener number).2.GivesBackDue closed) :
    Alike closed (dropped.giveBack listener).2 := by
  obtain ⟨closed_is, closedReturned⟩ := closed_eq found isOpen closes
  obtain ⟨dropped_is, droppedReturned⟩ := dropped_eq found isOpen drops
  simp only [Bool.false_eq_true, if_false, List.append_nil] at dropped_is droppedReturned
  have view : dropped.poolOf? = (mux.detach number listener).poolOf? := by
    rw [dropped_is]
    rfl
  rw [giveBack_after, view]
  constructor
  · rw [closed_is, givenBack_of_perm List.perm_append_comm, givenBack_append, dropped_is]
  · have moved : (listener.owed?.toList ++ (mux.due ++ mux.returned)).Perm
        (mux.due ++ (listener.owed?.toList ++ mux.returned)) := List.perm_append_comm_assoc ..
    exact (droppedReturned.append_left _).trans (moved.trans closedReturned.symm)

end Dropped

/-- Whether a listener is open and has an anonymous port, which has to go back when it ends. -/
def OwesPort (mux : Multiplexer) (number : Nat) : Prop :=
  ∃ listener, mux.listeners.get? number = some listener ∧ listener.isClosed = false ∧
    listener.assigner.isSome

/-- Once background tasks have given back what is due, in whatever order, a listener that was
dropped has come to what one has come to that was closed and then dropped. Only the order may
differ in which ports were given back. Without background tasks at hand at the drop, the
anonymous port of an open listener has still to go back, and nothing else is different. -/
theorem drop_as_close (mux : Multiplexer) (number : Nat) (hasTasks again : Bool) :
    (∃ dropped, (mux.dropListener number hasTasks).GivesBackDue dropped) ∧
    (∃ closed, ((mux.closeListener number).2.dropListener number again).GivesBackDue closed) ∧
    ∀ dropped closed, (mux.dropListener number hasTasks).GivesBackDue dropped →
      ((mux.closeListener number).2.dropListener number again).GivesBackDue closed →
      (hasTasks = true ∨ ¬mux.OwesPort number →
        Alike closed dropped ∧ Alike closed.serveAll dropped.serveAll) ∧
      ∀ listener, mux.listeners.get? number = some listener → listener.isClosed = false →
        hasTasks = false → Alike closed (dropped.giveBack listener).2 := by
  refine ⟨⟨_, givesBackDue_returnDue _⟩, ⟨_, givesBackDue_returnDue _⟩, ?_⟩
  intro dropped closed drops closes
  rw [dropListener_closeListener] at closes
  refine ⟨fun known => ?_, ?_⟩
  · have alike : Alike closed dropped := by
      obtain ⟨listener, found, isOpen⟩ | shut := mux.open_or_shut number
      · cases hasTasks with
        | true => exact alike_of_tasks found isOpen drops closes
        | false =>
          have noAssigner : listener.assigner = none := by
            obtain impossible | nothing := known
            · cases impossible
            · by_contra anonymous
              exact nothing ⟨listener, found, isOpen, Option.isSome_iff_ne_none.mpr anonymous⟩
          have lacking := alike_after_giveBack found isOpen drops closes
          unfold giveBack at lacking
          rw [noAssigner] at lacking
          exact lacking
      · rw [dropListener_of_not_open shut] at drops
        rw [closeListener_idle shut] at closes
        exact closes.alike drops
    exact ⟨alike, alike.serveAll⟩
  · rintro listener found isOpen rfl
    exact alike_after_giveBack found isOpen drops closes

/-- One listener was dropped before another one is dropped or closed, and the two ports go back in
either order. Without background tasks the later one of them does not. -/
theorem drop_as_close_after_drop :
    let mux := blank.after [.makePool, .makeAssigner (.pooled 0), .makeRootFactory,
      .createServer 0 Port.anonymous, .createServer 0 Port.anonymous, .dropListener 1 true]
    let dropped := ((mux.dropListener 0 true).returnOne 0).returnOne 0
    let lost := (mux.dropListener 0 false).returnOne 0
    let closed := ((mux.closeListener 0).2.dropListener 0 false).returnOne 0
    (dropped.returned = [(0, 110000), (0, 110001)] ∧ closed.returned = [(0, 110001), (0, 110000)] ∧
      Alike closed dropped ∧ Alike closed.serveAll dropped.serveAll) ∧
    lost.returned = [(0, 110001)] ∧ ∃ listener, mux.listeners.get? 0 = some listener ∧
      Alike closed (lost.giveBack listener).2 := by
  intro mux dropped lost closed
  obtain ⟨-, -, inTasks⟩ := drop_as_close mux 0 true false
  obtain ⟨-, -, noTasks⟩ := drop_as_close mux 0 false false
  have drops : (mux.dropListener 0 true).GivesBackDue dropped :=
    .next (by decide +kernel) (.next (by decide +kernel) (.done (by decide +kernel)))
  have loses : (mux.dropListener 0 false).GivesBackDue lost :=
    .next (by decide +kernel) (.done (by decide +kernel))
  have closes : ((mux.closeListener 0).2.dropListener 0 false).GivesBackDue closed :=
    .next (by decide +kernel) (.done (by decide +kernel))
  have isOpen : (mux.listeners.get? 0).map MuxListener.isClosed = some false := by decide +kernel
  obtain ⟨listener, found, isOpen⟩ := Option.map_eq_some_iff.mp isOpen
  exact ⟨⟨by decide +kernel, by decide +kernel, (inTasks _ _ drops closes).1 (.inl rfl)⟩,
    by decide +kernel, listener, found, (noTasks _ _ loses closes).2 listener found isOpen rfl⟩

/-- Background tasks that are not there give nothing back. -/
theorem not_drop_as_close_without_tasks :
    ¬∀ (host : Host) (own : PeerCredentials) (history : History) (mux : Multiplexer),
      Run (.initial host own) history mux →
      ∀ number hasTasks again dropped closed,
        (mux.dropListener number hasTasks).GivesBackDue dropped →
        ((mux.closeListener number).2.dropListener number again).GivesBackDue closed →
        dropped.host.files = closed.host.files ∧ dropped.factories = closed.factories ∧
          dropped.pools = closed.pools ∧ dropped.returned.Perm closed.returned := by
  intro always
  have wrong := always .bare ⟨none, 0, 0⟩ _ _
    (.ofActions _ [.makePool, .makeAssigner (.pooled 0), .makeRootFactory,
      .createServer 0 Port.anonymous])
    0 false true _ _ (.done (by decide)) (.done (by decide))
  have unequal := wrong.2.2.2.length_eq
  revert unequal
  decide

end Multiplexer

end SocketMux
