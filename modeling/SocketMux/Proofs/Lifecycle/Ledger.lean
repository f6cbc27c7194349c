import Mathlib.Data.List.Perm.Basic
import SocketMux.Proofs.Lifecycle.Origin

/-!
# The ledger of anonymous ports

Every port that an assigner issued is bound by a creation, and afterwards it is in exactly
one place: with an open listener, due to a background task, given back, or lost. A port is
lost only if its listener is let go of while there are no background tasks, which could
give it back. `Multiplexer.Balanced` is the balance of these places; every run keeps it, in
whatever order listeners are closed, dropped, closed by their factory or shut down, and
whatever becomes of their files.
-/

namespace SocketMux

/-- The port that a closed listener has let go of. -/
def MuxListener.settled? (listener : MuxListener) : Option (Nat × Port) :=
  if listener.isClosed then listener.owed? else none

/-- The port of a creation that failed to bind it. -/
def Creation.refunded? (creation : Creation) : Option (Nat × Port) :=
  if creation.listener.isNone then creation.issued? else none

/-- The port that is lost at a moment. -/
def Moment.lost? (moment : Moment) : Option (Nat × Port) :=
  match moment.action with
  | .dropListener number false =>
    (moment.state.listeners.get? number).bind fun listener =>
      if listener.isClosed then none else listener.owed?
  | _ => none

/-- A listener that is not open loses no port. -/
theorem Moment.lost?_of_not_open {mux : Multiplexer} {number : Nat} (hasTasks : Bool)
    (shut : ∀ listener, mux.listeners.get? number = some listener → listener.isClosed = true) :
    Moment.lost? ⟨mux, .dropListener number hasTasks⟩ = none := by
  cases hasTasks with
  | true => rfl
  | false =>
    simp only [Moment.lost?]
    cases found : mux.listeners.get? number with
    | none => rfl
    | some listener => simp [shut listener found]

namespace History

/-- The ports that were lost, the latest first. -/
def lost (history : History) : List (Nat × Port) := history.filterMap Moment.lost?

theorem lost_cons (moment : Moment) (history : History) :
    lost (moment :: history) = moment.lost?.toList ++ lost history := by
  unfold lost
  rw [List.filterMap_cons]
  cases moment.lost? <;> rfl

/-- How often creations obtained a port. -/
def issues (history : History) (issued : Nat × Port) : Nat :=
  history.creations.countP fun creation => creation.issued? == some issued

/-- How often creations obtained a port and failed to bind it. -/
def failures (history : History) (issued : Nat × Port) : Nat :=
  history.creations.countP fun creation =>
    creation.issued? == some issued && creation.listener.isNone

/-- How many listeners were made for a port and have a property. -/
def listenersWith (history : History) (issued : Nat × Port) (property : Nat → Bool) : Nat :=
  history.creations.countP fun creation =>
    creation.issued? == some issued && creation.listener.any property

end History

namespace Multiplexer

/-- The ports of all closed listeners. -/
def closedPorts (mux : Multiplexer) : List (Nat × Port) :=
  mux.listeners.rows.filterMap MuxListener.settled?

/-- Whether a listener was made and is closed. -/
def hasClosed (mux : Multiplexer) (number : Nat) : Bool :=
  (mux.listeners.get? number).any MuxListener.isClosed

/-- Whether a listener was made and is open. -/
def hasOpen (mux : Multiplexer) (number : Nat) : Bool :=
  (mux.listeners.get? number).any fun listener => !listener.isClosed

/-- All ports that were let go of are given back, due or lost. -/
def Balanced (mux : Multiplexer) (creations : List Creation) (lost : List (Nat × Port)) : Prop :=
  ∀ issued, mux.returned.count issued + mux.due.count issued + lost.count issued =
    (creations.filterMap Creation.refunded?).count issued + mux.closedPorts.count issued

/-- Changing a row takes out what was collected from it and puts in what is collected now. -/
theorem count_filterMap_modify {α β : Type} [BEq β] (collect : α → Option β) (change : α → α)
    (value : β) {rows : List α} {number : Nat} {row : α} (found : rows[number]? = some row) :
    ((rows.modify number change).filterMap collect).count value +
        (collect row).toList.count value =
      (rows.filterMap collect).count value + (collect (change row)).toList.count value := by
  have count_toList : ∀ collected : Option β, ∀ others : List β,
      (collected.toList ++ others).count value =
        collected.toList.count value + others.count value :=
    fun _ _ => List.count_append
  have collects : ∀ first (others : List α), (first :: others).filterMap collect =
      (collect first).toList ++ others.filterMap collect := by
    intro first others
    rw [List.filterMap_cons]
    cases collect first <;> rfl
  induction rows generalizing number with
  | nil => cases found
  | cons first others inductionHypothesis =>
    cases number with
    | zero =>
      have first_is : first = row := Option.some.inj found
      rw [List.modify_zero_cons, collects, collects, count_toList, count_toList, first_is]
      omega
    | succ number =>
      have there : others[number]? = some row := found
      have later := inductionHypothesis there
      rw [List.modify_succ_cons, collects, collects, count_toList, count_toList]
      omega

/-- Closing a listener lets go of its port. -/
theorem count_closedPorts {mux : Multiplexer} {number : Nat} {listener : MuxListener}
    (found : mux.listeners.get? number = some listener) (isOpen : listener.isClosed = false)
    (issued : Nat × Port) :
    (closedPorts { mux with
      listeners := mux.listeners.modify number MuxListener.closed }).count issued =
      mux.closedPorts.count issued + listener.owed?.toList.count issued := by
  have changed := count_filterMap_modify MuxListener.settled? MuxListener.closed issued found
  have unsettled : listener.settled? = none := by simp [MuxListener.settled?, isOpen]
  rw [unsettled] at changed
  exact changed

namespace Balanced

variable {mux : Multiplexer} {creations : List Creation} {lost : List (Nat × Port)}

theorem closeListener (balanced : mux.Balanced creations lost) (number : Nat) :
    (mux.closeListener number).2.Balanced creations lost := by
  obtain ⟨-, unchanged⟩ | ⟨listener, pools, assigners, found, isOpen, after⟩ :=
    mux.closeListener_cases number
  · rw [unchanged]
    exact balanced
  · rw [after]
    intro issued
    have before := balanced issued
    have settled := count_closedPorts found isOpen issued
    simp only [closedPorts] at settled before ⊢
    rw [settled, List.count_append]
    omega

theorem closeClient (balanced : mux.Balanced creations lost) (number : Nat) :
    (mux.closeClient number).Balanced creations lost := by
  obtain ⟨-, unchanged⟩ | ⟨client, -, -, after⟩ := mux.closeClient_cases number
  · rw [unchanged]
    exact balanced
  · rw [after]
    exact balanced

/-- Closing factories keeps the balance. -/
theorem keptByClosing (creations : List Creation) (lost : List (Nat × Port)) :
    KeptByClosing fun mux => mux.Balanced creations lost where
  listener number balanced := closeListener balanced number
  client number balanced := closeClient balanced number
  factory _ _ _ balanced := balanced
  coordinators _ balanced := balanced

/-- A port that is let go of by a drop is due or lost. -/
theorem dropListener (balanced : mux.Balanced creations lost) (number : Nat) (hasTasks : Bool) :
    (mux.dropListener number hasTasks).Balanced creations
      ((Moment.lost? ⟨mux, .dropListener number hasTasks⟩).toList ++ lost) := by
  obtain ⟨shut, unchanged⟩ | ⟨listener, found, isOpen, after⟩ :=
    mux.dropListener_cases number hasTasks
  · rw [unchanged, Moment.lost?_of_not_open hasTasks shut]
    exact balanced
  · rw [after]
    intro issued
    have before := balanced issued
    have settled := count_closedPorts found isOpen issued
    simp only [closedPorts] at settled before ⊢
    rw [settled, List.count_append, List.count_append]
    cases hasTasks with
    | true =>
      simp only [Moment.lost?, Option.toList_none, List.count_nil, if_true]
      omega
    | false =>
      simp only [Moment.lost?, found, Option.bind_some, isOpen, Bool.false_eq_true, if_false,
        List.count_nil]
      omega

/-- A port that is due moves to those that were given back. -/
theorem returnOne (balanced : mux.Balanced creations lost) (index : Nat) :
    (mux.returnOne index).Balanced creations lost := by
  obtain unchanged | ⟨entry, pools, assigners, found, after⟩ := mux.returnOne_cases index
  · rw [unchanged]
    exact balanced
  · rw [after]
    intro issued
    have before := balanced issued
    obtain ⟨bounded, rfl⟩ := List.getElem?_eq_some_iff.mp found
    have moved := (List.getElem_cons_eraseIdx_perm bounded).count_eq issued
    simp only [closedPorts, List.count_cons] at before moved ⊢
    omega

end Balanced

/-- The port of a creation is bound or given back. -/
theorem Creates.balanced {mux after : Multiplexer} {number : Nat} {factory : Factory}
    {creation : Option Creation} {creations : List Creation} {lost : List (Nat × Port)}
    (creates : Creates mux number factory creation after)
    (balanced : mux.Balanced creations lost) :
    after.Balanced (creation.toList ++ creations) lost := by
  cases creates with
  | nothing remembers => exact balanced
  | @failed port bound issuer ready err host prepared unbound =>
    obtain ⟨pools, assigners, remember, remembers, ready_is⟩ := ready_eq prepared
    obtain ⟨morePools, moreAssigners, refunded⟩ := refund_eq { ready with host } issuer bound
    rw [refunded, ready_is]
    intro issued
    have before := balanced issued
    have given : ∀ port? : Option (Nat × Port),
        (port?.toList ++ creations.filterMap Creation.refunded?).count issued =
          port?.toList.count issued + (creations.filterMap Creation.refunded?).count issued :=
      fun _ => List.count_append
    have refund : ∀ creation : Creation, (creation :: creations).filterMap Creation.refunded? =
        creation.refunded?.toList ++ creations.filterMap Creation.refunded? := by
      intro creation
      rw [List.filterMap_cons]
      cases creation.refunded? <;> rfl
    simp only [Option.toList_some, List.singleton_append, refund, given, List.count_append,
      closedPorts] at before ⊢
    simp only [Creation.refunded?, Creation.issued?, Option.isNone_none, if_true]
    omega
  | @made port bound issuer ready socket host prepared bind =>
    obtain ⟨pools, assigners, remember, remembers, ready_is⟩ := ready_eq prepared
    rw [ready_is]
    intro issued
    have before := balanced issued
    have unsettled : ∀ listener : MuxListener, listener.isClosed = false →
        (mux.listeners.rows ++ [listener]).filterMap MuxListener.settled? = mux.closedPorts := by
      intro listener isOpen
      simp [MuxListener.settled?, isOpen, closedPorts]
    simp only [enlist, closedPorts, Table.add, Option.toList_some, List.singleton_append]
    rw [unsettled _ rfl, List.filterMap_cons_none (by rfl)]
    exact before

/-- Every action keeps the balance. -/
theorem Balanced.perform {mux : Multiplexer} {creations : List Creation}
    {lost : List (Nat × Port)} (balanced : mux.Balanced creations lost) (action : Action) :
    (mux.perform action).Balanced ((Moment.creation? ⟨mux, action⟩).toList ++ creations)
      ((Moment.lost? ⟨mux, action⟩).toList ++ lost) := by
  by_cases quiet : action.isQuiet = true
  · obtain ⟨_, _, _, _, _, _, _, _, -, after⟩ := mux.perform_quiet quiet
    have nothing : Moment.lost? ⟨mux, action⟩ = none := by
      cases action <;> first | rfl | cases quiet
    rw [after, Moment.creation?_of_quiet mux quiet, nothing]
    exact balanced
  have closing := Balanced.keptByClosing creations lost
  cases action with
  | createServer number port =>
    cases found : mux.factories.get? number with
    | none =>
      simp only [Moment.creation?, Multiplexer.perform, createServer, found]
      exact balanced
    | some factory => exact (createServer_creates port found).balanced balanced
  | createClient number key =>
    obtain ⟨err, host, -, after⟩ | ⟨credentials, file, connection, host, -, -, after⟩ :=
      mux.createClient_cases number key
    · simp only [Multiplexer.perform, after]
      exact balanced
    · simp only [Multiplexer.perform, after]
      exact balanced
  | createClientShort number key shortage =>
    obtain ⟨host, forget, -, -, after⟩ := mux.createClient_short number key shortage
    simp only [Multiplexer.perform, after]
    exact balanced
  | closeListener number => exact balanced.closeListener number
  | dropListener number hasTasks => exact balanced.dropListener number hasTasks
  | closeClient number => exact balanced.closeClient number
  | dropClient number =>
    obtain ⟨host, -, after⟩ := mux.dropClient_eq number
    simp only [Multiplexer.perform, after]
    exact balanced.closeClient number
  | closeFactory number => exact closing.closeFactory balanced number
  | dropFactory number => exact closing.dropFactory balanced number
  | shutDownAll coordinator => exact closing.shutDownAll balanced coordinator
  | returnOne index => exact balanced.returnOne index
  | _ => exact absurd rfl quiet

end Multiplexer

/-- Every run keeps the balance. -/
theorem Run.balanced {host : Host} {own : PeerCredentials} {history : History}
    {mux : Multiplexer} (run : Run (.initial host own) history mux) :
    mux.Balanced history.creations history.lost := by
  induction run with
  | nothing => exact fun _ => rfl
  | more _ action inductionHypothesis =>
    rw [History.creations_cons, History.lost_cons]
    exact inductionHypothesis.perform action

/-- What is counted over the listeners may be counted over the creations. -/
theorem Multiplexer.Records.countP {mux : Multiplexer} {creations : List Creation}
    (records : mux.Records creations) (property : Nat × Origin → Bool) :
    mux.origins.countP property = creations.countP fun creation => creation.made?.any property := by
  rw [← List.countP_reverse, ← records, List.countP_filterMap]
  congr 1
  funext creation
  cases creation.made? <;> rfl

/-- The ports of closed listeners are counted over the listeners that were made. -/
theorem Run.count_closedPorts {host : Host} {own : PeerCredentials} {history : History}
    {mux : Multiplexer} (run : Run (.initial host own) history mux) (issued : Nat × Port) :
    mux.closedPorts.count issued = history.listenersWith issued mux.hasClosed := by
  let closedFor := fun entry : Nat × Origin =>
    entry.2.issued? == some issued && mux.hasClosed entry.1
  have overListeners : mux.closedPorts.count issued = mux.origins.countP closedFor := by
    have rows : mux.listeners.rows = mux.listeners.rows.zipIdx.map Prod.fst :=
      (List.zipIdx_map_fst 0 _).symm
    unfold Multiplexer.closedPorts
    rw [List.count, List.countP_filterMap, Multiplexer.origins, List.countP_map, rows,
      List.countP_map, ← rows]
    refine List.countP_congr fun entry member => ?_
    obtain ⟨listener, number⟩ := entry
    have found : mux.listeners.get? number = some listener :=
      List.mem_zipIdx_iff_getElem?.mp member
    simp only [closedFor, Multiplexer.hasClosed, Function.comp, found, Option.any_some,
      MuxListener.settled?, Origin.issued?, MuxListener.origin, MuxListener.owed?]
    cases listener.isClosed with
    | false => simp
    | true => cases listener.assigner <;> simp
  -- Each listener has exactly one creation, so the table may be read off the history.
  rw [overListeners, run.records.countP]
  unfold History.listenersWith
  congr 1
  funext creation
  cases made : creation.listener with
  | none => simp [Creation.made?, made]
  | some number =>
    simp [closedFor, Creation.made?, made, Creation.issued?, Origin.issued?]

/-- The port of a failed creation was refunded. -/
theorem History.count_refunded (history : History) (issued : Nat × Port) :
    (history.creations.filterMap Creation.refunded?).count issued = history.failures issued := by
  unfold History.failures
  rw [List.count, List.countP_filterMap]
  congr 1
  funext creation
  simp only [Creation.refunded?]
  cases creation.listener with
  | some number => simp
  | none => cases creation.issued? <;> simp

/-- A count is the sum of three counts if every element is counted once among them. -/
theorem countP_split {α : Type} {all first second third : α → Bool} {elements : List α}
    (split : ∀ element ∈ elements, (all element).toNat =
      (first element).toNat + (second element).toNat + (third element).toNat) :
    elements.countP all =
      elements.countP first + elements.countP second + elements.countP third := by
  induction elements with
  | nil => rfl
  | cons element others inductionHypothesis =>
    have later := inductionHypothesis fun other member =>
      split other (List.mem_cons_of_mem _ member)
    have here := split element List.mem_cons_self
    have number : ∀ condition : Bool, (if condition = true then 1 else 0) = condition.toNat := by
      decide
    simp only [List.countP_cons, number, later, here]
    omega

/-- A creation that obtained a port failed, or its listener is closed or open. -/
theorem Run.issues_eq {host : Host} {own : PeerCredentials} {history : History}
    {mux : Multiplexer} (run : Run (.initial host own) history mux) (issued : Nat × Port) :
    history.issues issued =
      history.failures issued + history.listenersWith issued mux.hasClosed +
        history.listenersWith issued mux.hasOpen := by
  refine countP_split fun creation member => ?_
  cases made : creation.listener with
  | none => cases creation.issued? == some issued <;> rfl
  | some number =>
    obtain ⟨listener, found, -⟩ := run.records.listener_of_creation member made
    simp only [Multiplexer.hasOpen, Multiplexer.hasClosed, Option.any_some, Option.isNone_some,
      found]
    cases creation.issued? == some issued <;> cases listener.isClosed <;> rfl

/-- Once background tasks are idle, every port that an assigner issued went back to it once
for each creation that failed and for each listener that is closed, but for those listeners
that were let go of without background tasks. As long as its listener is open it did not go
back. -/
theorem Run.returned_once {host : Host} {own : PeerCredentials} {history : History}
    {mux : Multiplexer} (run : Run (.initial host own) history mux) (idle : mux.due = [])
    (issued : Nat × Port) :
    mux.returned.count issued + history.lost.count issued =
        history.failures issued + history.listenersWith issued mux.hasClosed ∧
      history.issues issued =
        mux.returned.count issued + history.lost.count issued +
          history.listenersWith issued mux.hasOpen := by
  have balanced := run.balanced issued
  rw [idle, List.count_nil, Nat.add_zero, run.count_closedPorts issued,
    history.count_refunded issued] at balanced
  exact ⟨balanced, by rw [run.issues_eq issued, balanced]⟩

/-- An assigner that hands one port out three times, to two listeners of which the first is
closed and to a creation that fails, has it back twice. -/
theorem Run.returned_twice :
    let actions := [.makeAssigner (.scripted [110000, 110000, 110000] fun _ => none),
      .makeRootFactory, .createServer 0 Port.anonymous, .createServer 0 Port.anonymous,
      .changeTransport 0 { Transport.plain with bindFailure := some .closed },
      .createServer 0 Port.anonymous, .closeListener 0]
    let mux := Multiplexer.blank.after actions
    let history := Multiplexer.blank.momentsOf actions []
    mux.due = [] ∧ mux.returned.count (0, 110000) = 2 ∧
      (mux.returned.count (0, 110000) + history.lost.count (0, 110000) =
          history.failures (0, 110000) + history.listenersWith (0, 110000) mux.hasClosed ∧
        history.issues (0, 110000) =
          mux.returned.count (0, 110000) + history.lost.count (0, 110000) +
            history.listenersWith (0, 110000) mux.hasOpen) :=
  ⟨by decide, by decide, (Run.ofActions _ _).returned_once (by decide) (0, 110000)⟩

/-- A port whose listener is let go of without background tasks does not go back. -/
theorem Run.not_returned_without_tasks :
    ¬∀ (host : Host) (own : PeerCredentials) (history : History) (mux : Multiplexer),
      Run (.initial host own) history mux → mux.due = [] → ∀ issued,
        mux.returned.count issued =
          history.failures issued + history.listenersWith issued mux.hasClosed := by
  intro always
  have wrong := always .bare ⟨none, 0, 0⟩ _ _
    (.ofActions _ [.makeAssigner (.scripted [110000] fun _ => none), .makeRootFactory,
      .createServer 0 Port.anonymous, .dropListener 0 false])
    (by decide) (0, 110000)
  revert wrong
  decide

end SocketMux
