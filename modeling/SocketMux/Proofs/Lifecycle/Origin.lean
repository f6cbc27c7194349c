import SocketMux.Proofs.Lifecycle.Closing
import SocketMux.Proofs.Lifecycle.Quiet

/-!
# Where listeners come from

`Multiplexer.Records` says that the listeners of a multiplexer are exactly those that the
creations of its history have made, in their order, each with the factory, the port and
the assigner of its creation. Every run keeps it (`Run.records`), so what is counted over
the listeners may as well be counted over the history.
-/

namespace SocketMux

/-- What is settled of a listener when it is made: its factory, its port, the assigner of
its port and whether it is registered. -/
structure Origin where
  factory : Nat
  port : Port
  issuer : Option Nat
  registered : Bool
deriving DecidableEq, Repr

namespace Origin

/-- The anonymous port of an origin with the assigner that issued it. -/
def issued? (origin : Origin) : Option (Nat × Port) :=
  origin.issuer.map fun assigner => (assigner, origin.port)

end Origin

/-- The origin of a listener. -/
def MuxListener.origin (listener : MuxListener) : Origin :=
  ⟨listener.factory, listener.port, listener.assigner, listener.registered⟩

/-- The number and the origin of the listener that a creation made. -/
def Creation.made? (creation : Creation) : Option (Nat × Origin) :=
  creation.listener.map fun number =>
    (number, ⟨creation.factory, creation.port, creation.issuer, creation.isRegistered⟩)

theorem Creation.made?_of_listener {creation : Creation} {number : Nat}
    (made : creation.listener = some number) : creation.made? =
      some (number,
        ⟨creation.factory, creation.port, creation.issuer, creation.isRegistered⟩) := by
  rw [Creation.made?, made, Option.map_some]

namespace Multiplexer

/-- The numbers and origins of all listeners. -/
def origins (mux : Multiplexer) : List (Nat × Origin) :=
  mux.listeners.rows.zipIdx.map fun (listener, number) => (number, listener.origin)

/-- The listeners are those that creations have made, the latest creation first. -/
def Records (mux : Multiplexer) (creations : List Creation) : Prop :=
  creations.filterMap Creation.made? = mux.origins.reverse

theorem mem_origins {mux : Multiplexer} {number : Nat} {origin : Origin} :
    (number, origin) ∈ mux.origins ↔
      ∃ listener, mux.listeners.get? number = some listener ∧ listener.origin = origin := by
  simp only [origins, List.mem_map, Prod.exists, List.mem_zipIdx_iff_getElem?, Table.get?,
    Prod.mk.injEq]
  constructor
  · rintro ⟨listener, index, found, rfl, rfl⟩
    exact ⟨listener, found, rfl⟩
  · rintro ⟨listener, found, rfl⟩
    exact ⟨listener, number, found, rfl, rfl⟩

/-- Closing a listener keeps all origins. -/
theorem origins_modify (mux : Multiplexer) (number : Nat) :
    origins { mux with listeners := mux.listeners.modify number MuxListener.closed } =
      mux.origins :=
  mux.listeners.map_zipIdx_modify number _ fun _ _ => rfl

/-- A new listener comes after all others. -/
theorem origins_add (mux : Multiplexer) (listener : MuxListener) :
    origins { mux with listeners := (mux.listeners.add listener).2 } =
      mux.origins ++ [(mux.listeners.size, listener.origin)] := by
  simp [origins, Table.add, Table.size, List.zipIdx_append]

namespace Records

variable {mux : Multiplexer} {creations : List Creation}

/-- A creation that made a listener is found in the table of listeners. -/
theorem listener_of_creation (records : mux.Records creations) {creation : Creation}
    {number : Nat} (member : creation ∈ creations) (made : creation.listener = some number) :
    ∃ listener, mux.listeners.get? number = some listener ∧
      listener.origin =
        ⟨creation.factory, creation.port, creation.issuer, creation.isRegistered⟩ := by
  apply mem_origins.mp
  rw [← List.mem_reverse, ← records]
  exact List.mem_filterMap.mpr ⟨creation, member, Creation.made?_of_listener made⟩

/-- The listener of a creation that has just been made is new. -/
theorem add (records : mux.Records creations) {listener : MuxListener} {creation : Creation}
    (made : creation.listener = some mux.listeners.size)
    (origin : listener.origin =
      ⟨creation.factory, creation.port, creation.issuer, creation.isRegistered⟩) :
    Records { mux with listeners := (mux.listeners.add listener).2 } (creation :: creations) := by
  have made_eq : creation.made? = some (mux.listeners.size, listener.origin) := by
    rw [Creation.made?_of_listener made, origin]
  unfold Records
  rw [List.filterMap_cons_some made_eq, origins_add, List.reverse_append, records]
  rfl

/-- A creation that made nothing is not recorded. -/
theorem skip (records : mux.Records creations) {creation : Creation}
    (failed : creation.listener = none) : mux.Records (creation :: creations) := by
  unfold Records
  rw [List.filterMap_cons_none (by simp [Creation.made?, failed])]
  exact records

end Records

/-- Marking a listener as closed keeps the records, whatever else changes. -/
theorem Records.closed {mux : Multiplexer} {creations : List Creation}
    (records : mux.Records creations) (number : Nat) :
    Records { mux with listeners := mux.listeners.modify number MuxListener.closed } creations :=
  records.trans (congrArg List.reverse (origins_modify mux number).symm)

theorem closeListener_records {mux : Multiplexer} {creations : List Creation} (number : Nat)
    (records : mux.Records creations) : (mux.closeListener number).2.Records creations := by
  obtain ⟨-, unchanged⟩ | ⟨listener, pools, assigners, -, -, after⟩ :=
    mux.closeListener_cases number
  · rw [unchanged]
    exact records
  · rw [after]
    exact records.closed number

theorem closeClient_records {mux : Multiplexer} {creations : List Creation} (number : Nat)
    (records : mux.Records creations) : (mux.closeClient number).Records creations := by
  obtain ⟨-, unchanged⟩ | ⟨client, -, -, after⟩ := mux.closeClient_cases number
  · rw [unchanged]
    exact records
  · rw [after]
    exact records

/-- Closing factories keeps all origins. -/
theorem records_keptByClosing (creations : List Creation) :
    KeptByClosing fun mux => mux.Records creations where
  listener number records := closeListener_records number records
  client number records := closeClient_records number records
  factory _ _ _ records := records
  coordinators _ records := records

/-- The outcome of a call for a server is recorded. -/
theorem Creates.records {mux after : Multiplexer} {number : Nat} {factory : Factory}
    {creation : Option Creation} {creations : List Creation}
    (creates : Creates mux number factory creation after) (records : mux.Records creations) :
    after.Records (creation.toList ++ creations) := by
  cases creates with
  | nothing remembers => exact records
  | @failed port bound issuer ready err host prepared unbound =>
    obtain ⟨pools, assigners, remember, remembers, ready_is⟩ := ready_eq prepared
    obtain ⟨morePools, moreAssigners, refunded⟩ := refund_eq { ready with host } issuer bound
    rw [refunded, ready_is]
    exact records.skip rfl
  | made prepared bind =>
    obtain ⟨pools, assigners, remember, remembers, ready_is⟩ := ready_eq prepared
    rw [ready_is]
    exact records.add rfl rfl

/-- Every action keeps the records. -/
theorem Records.perform {mux : Multiplexer} {creations : List Creation}
    (records : mux.Records creations) (action : Action) :
    (mux.perform action).Records ((Moment.creation? ⟨mux, action⟩).toList ++ creations) := by
  by_cases quiet : action.isQuiet = true
  · obtain ⟨_, _, _, _, _, _, _, _, -, after⟩ := mux.perform_quiet quiet
    rw [after, Moment.creation?_of_quiet mux quiet]
    exact records
  cases action with
  | createServer number port =>
    cases found : mux.factories.get? number with
    | none =>
      simp only [Moment.creation?, Multiplexer.perform, createServer, found]
      exact records
    | some factory => exact (createServer_creates port found).records records
  | createClient number key =>
    obtain ⟨err, host, -, after⟩ | ⟨credentials, file, connection, host, -, -, after⟩ :=
      mux.createClient_cases number key
    · simp only [Multiplexer.perform, after]
      exact records
    · simp only [Multiplexer.perform, after]
      exact records
  | createClientShort number key shortage =>
    obtain ⟨host, forget, -, -, after⟩ := mux.createClient_short number key shortage
    simp only [Multiplexer.perform, after]
    exact records
  | closeListener number => exact closeListener_records number records
  | dropListener number hasTasks =>
    obtain ⟨-, unchanged⟩ | ⟨listener, -, -, after⟩ := mux.dropListener_cases number hasTasks
    · simp only [Multiplexer.perform, unchanged]
      exact records
    · simp only [Multiplexer.perform, after]
      exact records.closed number
  | closeClient number => exact closeClient_records number records
  | dropClient number =>
    obtain ⟨host, -, after⟩ := mux.dropClient_eq number
    simp only [Multiplexer.perform, after]
    exact closeClient_records number records
  | closeFactory number => exact (records_keptByClosing creations).closeFactory records number
  | dropFactory number => exact (records_keptByClosing creations).dropFactory records number
  | shutDownAll coordinator =>
    exact (records_keptByClosing creations).shutDownAll records coordinator
  | returnOne index =>
    obtain unchanged | ⟨entry, pools, assigners, -, after⟩ := mux.returnOne_cases index
    · simp only [Multiplexer.perform, unchanged]
      exact records
    · simp only [Multiplexer.perform, after]
      exact records
  | _ => exact absurd rfl quiet

end Multiplexer

/-- Every run records its creations. -/
theorem Run.records {host : Host} {own : PeerCredentials} {history : History}
    {mux : Multiplexer} (run : Run (.initial host own) history mux) :
    mux.Records history.creations := by
  induction run with
  | nothing => rfl
  | more _ action inductionHypothesis =>
    rw [History.creations_cons]
    exact inductionHypothesis.perform action

end SocketMux
