import SocketMux.Multiplexer.Create

/-!
# Closing factories

Closing a factory forgets what it remembers, closes the listeners and clients that are
registered when the close begins and takes the factory off its coordinator. An outage
of a port authority is no error of the close; all other errors of listeners are
reported together. A second close finds nothing left to do.

A coordinator closes the factories that are registered with it and still held.
-/

namespace SocketMux.Multiplexer

/-- Close listeners in turn. The errors come with the first one first, without those
that are only outages. -/
def closeListeners (mux : Multiplexer) : List Nat → List MuxError × Multiplexer
  | [] => ([], mux)
  | listener :: others =>
    let (outcome, mux) := mux.closeListener listener
    let (errors, mux) := closeListeners mux others
    ((errorOf outcome).filter (fun err => !err.isUnavailable) ++ errors, mux)

/-- Close clients in turn. -/
def closeClients (mux : Multiplexer) (clients : List Nat) : Multiplexer :=
  clients.foldl closeClient mux

/-- Take a factory off the coordinator it is registered with. -/
def withdraw (mux : Multiplexer) (number : Nat) : Multiplexer :=
  match (mux.factories.get? number).bind Factory.registration with
  | none => mux
  | some (coordinator, id) =>
    { mux with
      coordinators := mux.coordinators.modify coordinator fun state => (state.deregister id).2
      factories := mux.factories.modify number fun state => { state with registration := none } }

/-- Close a factory, its listeners in the given order. -/
def closeFactoryIn (mux : Multiplexer) (number : Nat) (order : List Nat) :
    Except MuxError Unit × Multiplexer :=
  let mux := mux.modifyFactory number fun state =>
    { state with credentials := .empty, authority := none, servers := [] }
  let (errors, mux) := mux.closeListeners order
  let clients := (mux.factories.get? number).elim [] Factory.clients
  let mux := mux.modifyFactory number fun state => { state with clients := [] }
  let mux := (mux.closeClients clients).withdraw number
  (MuxError.aggregate errors, mux)

/-- Close a factory. -/
def closeFactory (mux : Multiplexer) (number : Nat) : Except MuxError Unit × Multiplexer :=
  match mux.factories.get? number with
  | none => (.ok (), mux)
  | some factory => mux.closeFactoryIn number (factory.servers.map Prod.snd)

/-- Let go of a factory. Its endpoints stay as they are. -/
def dropFactory (mux : Multiplexer) (number : Nat) : Multiplexer :=
  (mux.withdraw number).modifyFactory number fun state => { state with isHeld := false }

/-- Whether a factory is still held. -/
def holdsFactory (mux : Multiplexer) (number : Nat) : Bool :=
  (mux.factories.get? number).any Factory.isHeld

/-- Make a coordinator. -/
def makeCoordinator (mux : Multiplexer) : Nat × Multiplexer :=
  let (coordinator, coordinators) := mux.coordinators.add .empty
  (coordinator, { mux with coordinators })

/-- Count the factories that are registered with a coordinator and still held. -/
def countLive (mux : Multiplexer) (coordinator : Nat) : Nat × Multiplexer :=
  let mux := { mux with
    coordinators := mux.coordinators.modify coordinator fun state =>
      state.prune mux.holdsFactory }
  ((mux.coordinators.get? coordinator).elim 0 ShutdownCoordinator.size, mux)

/-- Close the factories of entries in turn. -/
def closeEntries (mux : Multiplexer) : List (HookId × Nat) → ShutdownReport →
    ShutdownReport × Multiplexer
  | [], report => (report, mux)
  | (_, number) :: entries, report =>
    match (mux.factories.get? number).filter Factory.isHeld with
    | none => closeEntries mux entries report.prune
    | some factory =>
      let (outcome, mux) := mux.closeFactory number
      closeEntries mux entries (report.add factory.profile.label (errorOf outcome).head?)

/-- Close all factories that are registered with a coordinator. -/
def shutDownAll (mux : Multiplexer) (coordinator : Nat) : ShutdownReport × Multiplexer :=
  match mux.coordinators.get? coordinator with
  | none => (.empty, mux)
  | some state =>
    let (entries, state) := state.takeAll
    { mux with coordinators := mux.coordinators.modify coordinator fun _ => state }.closeEntries
      entries .empty

end SocketMux.Multiplexer
