import SocketMux.Multiplexer.Serve

/-!
# Runs of a multiplexer

`Action` lists all that can happen to a multiplexer between two moments at which nobody
is inside one of its operations, and `Multiplexer.perform` is what each action does. A
`Run` performs actions one after another and keeps its `History`, the latest moment first.

Whoever is outside may do anything: `Action.outside` puts another host in the place of
the present one, `Action.changeAssigner` lets any assigner go on as any other one,
`Action.changeTransport` does the same for transports, `Action.changeStrangers` for all
who listen without being an authority, and `Action.reorder` mixes the tables of a factory,
which yield their entries in no fixed order. Background tasks run in
any order and at any time. Statements about runs restrict these actions where they need
to; nothing is restricted here.
-/

namespace SocketMux

/-- What can happen to a multiplexer. -/
inductive Action where
  | makePool
  | closePool (pool : Nat)
  | makeAssigner (assigner : Assigner)
  /-- An assigner goes on as another one. -/
  | changeAssigner (number : Nat) (assigner : Assigner)
  /-- Somebody who is no factory makes a request of an assigner. -/
  | ask (assigner : Nat) (request : Authority.Request)
  | makeCoordinator
  | countLive (coordinator : Nat)
  | makeFactory (profile : FactoryProfile) (naming : Naming) (transport : Transport)
      (coordinator : Option Nat)
  /-- The transport of a factory goes on as another one. -/
  | changeTransport (factory : Nat) (transport : Transport)
  /-- Whoever listens without being an authority will answer requests in another way. -/
  | changeStrangers (strangers : Path → Authority.Request → Except Fault (List UInt8))
  /-- The registries of a factory will yield their entries in another order. -/
  | reorder (factory : Nat) (servers : List (Port × Nat)) (clients : List Nat)
  | findAssigner (factory : Nat)
  | createServer (factory : Nat) (port : Port)
  | createClient (factory : Nat) (key : HostAndPort)
  /-- A client is asked for while the process is short of descriptors. -/
  | createClientShort (factory : Nat) (key : HostAndPort) (shortage : Fault)
  | accept (listener : Nat)
  | beginAccept (listener : Nat)
  | closeListener (listener : Nat)
  | dropListener (listener : Nat) (hasTasks : Bool)
  | closeClient (client : Nat)
  | dropClient (client : Nat)
  | closeFactory (factory : Nat)
  | dropFactory (factory : Nat)
  | shutDownAll (coordinator : Nat)
  | startAuthority (path : Path) (pool : Nat)
  | shutDownAuthority (authority : Nat)
  | dropAuthority (authority : Nat)
  /-- A background task gives back one of the ports that are due. -/
  | returnOne (index : Nat)
  /-- The authorities accept and answer what waits for them. -/
  | serve
  /-- Something else happens on the host. -/
  | outside (host : Host)

namespace Factory

/-- A factory whose registries yield their entries in another order. Lists that are no
rearrangements change nothing. -/
def reorder (factory : Factory) (servers : List (Port × Nat)) (clients : List Nat) : Factory :=
  if servers.isPerm factory.servers && clients.isPerm factory.clients then
    { factory with servers, clients }
  else factory

end Factory

namespace Multiplexer

/-- Give back one of the ports that are due. -/
def returnOne (mux : Multiplexer) (index : Nat) : Multiplexer :=
  match mux.due[index]? with
  | none => mux
  | some (assigner, port) =>
    ({ mux with due := mux.due.eraseIdx index }.returnPort assigner port).2

/-- What an action makes of a multiplexer. -/
def perform (mux : Multiplexer) : Action → Multiplexer
  | .makePool => { mux with pools := (mux.pools.add .initial).2 }
  | .closePool pool => { mux with pools := mux.pools.modify pool PortPool.close }
  | .makeAssigner assigner => { mux with assigners := (mux.assigners.add assigner).2 }
  | .changeAssigner number assigner =>
    { mux with assigners := mux.assigners.modify number fun _ => assigner }
  | .ask assigner request => (mux.ask assigner request).2
  | .makeCoordinator => mux.makeCoordinator.2
  | .countLive coordinator => (mux.countLive coordinator).2
  | .makeFactory profile naming transport coordinator =>
    (mux.makeFactory profile naming transport coordinator).2
  | .changeTransport factory transport =>
    mux.modifyFactory factory fun state => { state with transport }
  | .changeStrangers strangers => { mux with strangers }
  | .reorder factory servers clients =>
    mux.modifyFactory factory fun state => state.reorder servers clients
  | .findAssigner factory => (mux.assignerOf factory).2
  | .createServer factory port => (mux.createServer factory port).2
  | .createClient factory key => (mux.createClient factory key).2
  | .createClientShort factory key shortage => (mux.createClient factory key (some shortage)).2
  | .accept listener => (mux.acceptOn listener).2
  | .beginAccept listener => (mux.beginAcceptOn listener).2
  | .closeListener listener => (mux.closeListener listener).2
  | .dropListener listener hasTasks => mux.dropListener listener hasTasks
  | .closeClient client => mux.closeClient client
  | .dropClient client => mux.dropClient client
  | .closeFactory factory => (mux.closeFactory factory).2
  | .dropFactory factory => mux.dropFactory factory
  | .shutDownAll coordinator => (mux.shutDownAll coordinator).2
  | .startAuthority path pool => (mux.startAuthority path pool).2
  | .shutDownAuthority authority => (mux.shutDownAuthority authority).2
  | .dropAuthority authority => mux.dropAuthority authority
  | .returnOne index => mux.returnOne index
  | .serve => mux.serveAll
  | .outside host => { mux with host }

end Multiplexer

/-- An action together with the state in which it is performed. -/
structure Moment where
  state : Multiplexer
  action : Action

/-- What has happened, the latest moment first. -/
abbrev History := List Moment

/-- A run performs actions in turn. -/
inductive Run (start : Multiplexer) : History → Multiplexer → Prop where
  | nothing : Run start [] start
  | more {history : History} {mux : Multiplexer} (earlier : Run start history mux)
      (action : Action) : Run start (⟨mux, action⟩ :: history) (mux.perform action)

namespace Multiplexer

/-- The state after actions in turn. -/
def after (mux : Multiplexer) (actions : List Action) : Multiplexer :=
  actions.foldl perform mux

/-- The moments of actions in turn, on top of what has happened before. -/
def momentsOf (mux : Multiplexer) (actions : List Action) (before : History) : History :=
  match actions with
  | [] => before
  | action :: others => (mux.perform action).momentsOf others (⟨mux, action⟩ :: before)

/-- A run may go on with any actions. -/
theorem run_after {start mux : Multiplexer} {before : History} (run : Run start before mux)
    (actions : List Action) : Run start (mux.momentsOf actions before) (mux.after actions) := by
  induction actions generalizing mux before with
  | nil => exact run
  | cons action others inductionHypothesis => exact inductionHypothesis (run.more action)

end Multiplexer

/-- The run of given actions. -/
theorem Run.ofActions (start : Multiplexer) (actions : List Action) :
    Run start (start.momentsOf actions []) (start.after actions) :=
  Multiplexer.run_after .nothing actions

/-- A property that every moment of a run keeps holds at its end. What is known of the
moments may be used on the way. -/
theorem Run.induction {start mux : Multiplexer} {history : History}
    {motive : History → Multiplexer → Prop} {known : Moment → Prop}
    (run : Run start history mux) (all : ∀ moment ∈ history, known moment)
    (initial : motive [] start)
    (kept : ∀ {history mux} action, known ⟨mux, action⟩ → motive history mux →
      motive (⟨mux, action⟩ :: history) (mux.perform action)) :
    motive history mux := by
  induction run with
  | nothing => exact initial
  | more _ action inductionHypothesis =>
    have earlier := inductionHypothesis fun moment member =>
      all moment (List.mem_cons_of_mem _ member)
    exact kept action (all _ List.mem_cons_self) earlier

namespace Action

/-- A factory for a directory, whose ports come from the assigner that was made first. The
port of the plain file makes the directory itself its file. Runs that are given action by
action use it. -/
def makeFactoryAt (directory : Path) (registryPort : Port) : Action :=
  .makeFactory ⟨⟨directory, "", ".rmi", registryPort == Port.plainFile⟩, registryPort, none, none⟩
    (.direct registryPort 0) .plain none

/-- A factory for the directory at the root. -/
def makeRootFactory : Action := makeFactoryAt [Path.separator] Port.defaultRegistry

end Action

namespace Multiplexer

/-- The state in which nothing was made on a bare host. -/
def blank : Multiplexer := .initial .bare ⟨none, 0, 0⟩

end Multiplexer

end SocketMux
