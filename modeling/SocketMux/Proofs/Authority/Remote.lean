import SocketMux.Proofs.Authority.Frames
import SocketMux.Proofs.Lifecycle.Frame

/-!
# A pool at hand and behind a socket

Calling an assigner of a path at which an authority serves a pool is as good as calling one
that has the pool at hand (`ServesBoth.agree`): call by call the outcomes are the same as far
as they can be heard over the way, and the pool is left the same. An outage is heard exactly
where there is one. All that is lost is a listing of more ports than a client accepts, which
leaves the pool as it is.
-/

namespace SocketMux.Multiplexer

open SocketMux.Authority

/-- Call an assigner, with the answer as a grant. -/
def call (mux : Multiplexer) (assigner : Nat) : Request → Except MuxError Grant × Multiplexer
  | .newPort =>
    let (answer, mux) := mux.newPort assigner
    (answer.map .port, mux)
  | .returnPort port =>
    let (answer, mux) := mux.returnPort assigner port
    (answer.map fun () => .done, mux)
  | .openPorts =>
    let (answer, mux) := mux.openPorts assigner
    (answer.map .listing, mux)

/-- The state after calls of an assigner. -/
def afterCalls (mux : Multiplexer) (assigner : Nat) (requests : List Request) : Multiplexer :=
  requests.foldl (fun mux request => (mux.call assigner request).2) mux

/-- A request along a path is answered from the pool that is served there. -/
theorem ask_remote {mux : Multiplexer} {assigner pool : Nat} {path : Path} {state : PortPool}
    (remote : mux.assigners.get? assigner = some (.remote path))
    (reached : ∃ socket, mux.host.reach path = .ok socket ∧ mux.poolBehind? socket = some pool)
    (found : mux.pools.get? pool = some state) (tidy : state.Tidy) (request : Request) :
    ∃ answer, mux.ask assigner request = (answer, mux.setPool pool (request.after state)) ∧
      Heard (request.outcome state) answer := by
  obtain ⟨socket, reached, behind⟩ := reached
  have heard := heard_readReply tidy request []
  rw [List.append_nil] at heard
  refine ⟨_, ?_, heard⟩
  simp only [ask, remote, exchange, reached, behind, answerFrom, found, answerAll_encode]

/-- An assigner that has a pool at hand and one of a path at which an authority serves it. -/
structure ServesBoth (mux : Multiplexer) (near far : Nat) (path : Path) (pool : Nat)
    (state : PortPool) : Prop where
  near : mux.assigners.get? near = some (.pooled pool)
  far : mux.assigners.get? far = some (.remote path)
  reached : ∃ socket, mux.host.reach path = .ok socket ∧ mux.poolBehind? socket = some pool
  state : mux.pools.get? pool = some state

/-- A call makes the request of its assigner; beyond that it only logs a returned port. -/
theorem call_of_ask {mux after : Multiplexer} {assigner : Nat} {request : Request}
    {answer : Except MuxError Grant} (asked : mux.ask assigner request = (answer, after))
    (met : ∀ grant, answer = .ok grant → request.IsMetBy grant) :
    ∃ returned, mux.call assigner request = (answer, { after with returned }) := by
  cases answer with
  | error err =>
    cases request <;> simp only [call, newPort, returnPort, openPorts, asked] <;>
      exact ⟨_, rfl⟩
  | ok grant =>
    obtain ⟨port, rfl, rfl⟩ | ⟨port, rfl, rfl⟩ | ⟨listed, rfl, rfl, -⟩ := (met grant rfl).cases <;>
      simp only [call, newPort, returnPort, openPorts, asked] <;> exact ⟨_, rfl⟩

/-- What a call of an assigner of a pool and one of an authority for it have in common, each
after the same earlier calls. -/
structure CallsAgree (mux : Multiplexer) (near far : Nat) (isClosed : Bool)
    (earlier : List Request) (request : Request) : Prop where
  /-- The far one hears what the near one answers. -/
  heard : Heard ((mux.afterCalls near earlier).call near request).1
    ((mux.afterCalls far earlier).call far request).1
  /-- They leave the same pools. -/
  pools : ((mux.afterCalls far earlier).call far request).2.pools =
    ((mux.afterCalls near earlier).call near request).2.pools
  /-- What is granted is what was asked for. -/
  met : ∀ grant, ((mux.afterCalls near earlier).call near request).1 = .ok grant →
    request.IsMetBy grant
  /-- A closed pool has an outage. -/
  closed : isClosed = true →
    ((mux.afterCalls near earlier).call near request).1 = .error (.unavailable .poolClosed)
  /-- An open pool takes every port back, known or not. -/
  returned : isClosed = false → ∀ port, request = .returnPort port →
    ((mux.afterCalls far earlier).call far request).1 = .ok .done
  /-- A listing changes no pool, also where it is too long to be heard. -/
  listed : request = .openPorts →
    ((mux.afterCalls far earlier).call far request).2.pools = (mux.afterCalls far earlier).pools

namespace ServesBoth

variable {mux : Multiplexer} {near far pool count : Nat} {path : Path} {state : PortPool}

/-- A pool at hand answers a request. -/
theorem ask_near (serves : mux.ServesBoth near far path pool state) (request : Request) :
    mux.ask near request = (request.outcome state, mux.setPool pool (request.after state)) := by
  simp only [ask, serves.near, serveFrom, serves.state, Request.outcome, Request.after]
  cases request.serve state with
  | ok served => rfl
  | error err => exact congrArg (Prod.mk _) (setPool_same serves.state).symm

/-- An authority answers what its pool answers. -/
theorem ask_far (serves : mux.ServesBoth near far path pool state) (tidy : state.Tidy)
    (request : Request) :
    ∃ answer, mux.ask far request = (answer, mux.setPool pool (request.after state)) ∧
      Heard (request.outcome state) answer :=
  ask_remote serves.far serves.reached serves.state tidy request

/-- Another state of the pool is served all the same. -/
theorem setPool (serves : mux.ServesBoth near far path pool state) (after : PortPool)
    (returned : List (Nat × Port)) :
    ServesBoth { mux.setPool pool after with returned } near far path pool after where
  near := serves.near
  far := serves.far
  reached := serves.reached
  state := by simp [Multiplexer.setPool, serves.state]

end ServesBoth

/-- Two states in which the same pool is served, one for each of two assigners to be called. -/
structure Alongside (nearMux farMux : Multiplexer) (near far : Nat) (path : Path) (pool : Nat)
    (state : PortPool) : Prop where
  atHand : nearMux.ServesBoth near far path pool state
  behind : farMux.ServesBoth near far path pool state
  pools : farMux.pools = nearMux.pools
  reached : ∃ count, PortPool.Reached count state

namespace Alongside

variable {nearMux farMux : Multiplexer} {near far pool : Nat} {path : Path} {state : PortPool}

/-- The two calls of a request: what they answer and the states they leave. -/
theorem call (alongside : Alongside nearMux farMux near far path pool state) (request : Request) :
    (nearMux.call near request).1 = request.outcome state ∧
      Heard (request.outcome state) (farMux.call far request).1 ∧
      (farMux.call far request).2.pools = (farMux.setPool pool (request.after state)).pools ∧
        Alongside (nearMux.call near request).2 (farMux.call far request).2 near far path pool
          (request.after state) := by
  obtain ⟨count, reached⟩ := alongside.reached
  have met := request.outcome_met reached.tidy
  obtain ⟨answer, asked, heard⟩ := alongside.behind.ask_far reached.tidy request
  have heardMet : ∀ grant, answer = .ok grant → request.IsMetBy grant := fun grant granted =>
    met grant (heard.of_ok granted)
  obtain ⟨nearReturned, nearCall⟩ := call_of_ask (alongside.atHand.ask_near request) met
  obtain ⟨farReturned, farCall⟩ := call_of_ask asked heardMet
  rw [nearCall, farCall]
  exact ⟨rfl, heard, rfl, alongside.atHand.setPool _ nearReturned,
    alongside.behind.setPool _ farReturned, by simp only [setPool, alongside.pools],
    request.reached_after reached⟩

/-- Calls of the same requests stay alongside. -/
theorem afterCalls (alongside : Alongside nearMux farMux near far path pool state)
    (requests : List Request) :
    ∃ after, after.closed = state.closed ∧
      Alongside (nearMux.afterCalls near requests) (farMux.afterCalls far requests) near far path
        pool after := by
  induction requests generalizing nearMux farMux state with
  | nil => exact ⟨state, rfl, alongside⟩
  | cons request requests inductionHypothesis =>
    obtain ⟨-, -, -, called⟩ := alongside.call request
    obtain ⟨after, closed, further⟩ := inductionHypothesis called
    exact ⟨after, closed.trans (request.closed_after state), further⟩

end Alongside

/-- Calls of an assigner of a pool and of one of an authority for it agree, whatever was called
before. -/
theorem ServesBoth.agree {mux : Multiplexer} {near far pool count : Nat} {path : Path}
    {state : PortPool} (serves : mux.ServesBoth near far path pool state)
    (reached : PortPool.Reached count state) (earlier : List Request) (request : Request) :
    mux.CallsAgree near far state.closed earlier request := by
  have begun : Alongside mux mux near far path pool state := ⟨serves, serves, rfl, _, reached⟩
  obtain ⟨now, closed, alongside⟩ := begun.afterCalls earlier
  obtain ⟨answered, heard, changed, left⟩ := alongside.call request
  obtain ⟨_, further⟩ := alongside.reached
  refine ⟨answered ▸ heard, left.pools, ?_, ?_, ?_, ?_⟩
  · rw [answered]
    exact request.outcome_met further.tidy
  · intro isClosed
    rw [answered]
    exact request.outcome_of_closed (closed.trans isClosed)
  · rintro isOpen port rfl
    rw [Request.outcome_returnPort (closed.trans isOpen)] at heard
    exact heard.of_done
  · rintro rfl
    rw [changed, Request.after_openPorts, setPool_same alongside.behind.state]

/-- A fresh pool behind a socket at the root, with an assigner that has it at hand and one of
the socket. -/
def servedAtRoot : Multiplexer :=
  blank.after [.makePool, .startAuthority [Path.separator, 97] 0, .makeAssigner (.pooled 0),
    .makeAssigner (.remote [Path.separator, 97])]

/-- A listing agrees after a port was taken and an unknown one given back. -/
theorem agree_servedAtRoot :
    servedAtRoot.ServesBoth 0 1 [Path.separator, 97] 0 .initial ∧ PortPool.Reached 0 .initial ∧
      servedAtRoot.CallsAgree 0 1 false [.newPort, .returnPort 7] .openPorts := by
  have serves : servedAtRoot.ServesBoth 0 1 [Path.separator, 97] 0 .initial :=
    ⟨rfl, rfl, ⟨0, by decide +kernel⟩, rfl⟩
  exact ⟨serves, .initial, serves.agree .initial _ _⟩

end SocketMux.Multiplexer
