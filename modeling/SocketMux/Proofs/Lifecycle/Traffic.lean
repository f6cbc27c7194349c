import SocketMux.Proofs.Host.Binding
import SocketMux.Proofs.Lifecycle.Origin

/-!
# Actions that make no socket

Most actions make no socket: they are traffic on connections, or they end listeners, whose
sockets are closed and whose files are removed. `KeptByTraffic.perform` carries a property
of the sockets through all of them. What is left are calls for servers, authorities and
whoever else is on the host.
-/

namespace SocketMux

namespace Action

/-- Whether an action makes no socket and is not about an authority. -/
def isTraffic : Action → Bool
  | .createServer .. | .startAuthority .. | .shutDownAuthority .. => false
  | .dropAuthority .. | .outside .. => false
  | _ => true

end Action

namespace Multiplexer

/-- Two states with the same sockets. -/
structure SameSockets (before after : Multiplexer) : Prop where
  host : before.host.SameListening after.host
  listeners : after.listeners = before.listeners
  authorities : after.authorities = before.authorities

/-- A property of the sockets of a multiplexer that no traffic and no end of a listener
breaks. -/
structure KeptByTraffic (property : Multiplexer → Prop) : Prop where
  same : ∀ {before after : Multiplexer}, property before → before.SameSockets after →
    property after
  ended : ∀ {mux : Multiplexer} {number : Nat} {listener : MuxListener},
    mux.listeners.get? number = some listener → listener.isClosed = false → property mux →
      property { mux with
        host := mux.host.withoutListener listener
        listeners := mux.listeners.modify number MuxListener.closed }

namespace KeptByTraffic

variable {property : Multiplexer → Prop} {mux : Multiplexer}

theorem closeListener (kept : KeptByTraffic property) (number : Nat) (holds : property mux) :
    property (mux.closeListener number).2 := by
  obtain ⟨-, unchanged⟩ | ⟨listener, pools, assigners, found, isOpen, after⟩ :=
    mux.closeListener_cases number
  · rw [unchanged]
    exact holds
  · rw [after]
    exact kept.same (kept.ended found isOpen holds) ⟨.refl _, rfl, rfl⟩

theorem closeClient (kept : KeptByTraffic property) (number : Nat) (holds : property mux) :
    property (mux.closeClient number) := by
  obtain ⟨-, unchanged⟩ | ⟨client, -, -, after⟩ := mux.closeClient_cases number
  · rw [unchanged]
    exact holds
  · rw [after]
    exact kept.same holds ⟨Host.modifyConnection_listening _ _ _, rfl, rfl⟩

theorem keptByClosing (kept : KeptByTraffic property) : KeptByClosing property where
  listener number holds := kept.closeListener number holds
  client number holds := kept.closeClient number holds
  factory _ _ _ holds := kept.same holds ⟨.refl _, rfl, rfl⟩
  coordinators _ holds := kept.same holds ⟨.refl _, rfl, rfl⟩

/-- A property that traffic keeps holds after every action of this kind. -/
theorem perform (kept : KeptByTraffic property) {action : Action}
    (traffic : action.isTraffic = true) (holds : property mux) :
    property (mux.perform action) := by
  have closing := kept.keptByClosing
  cases action with
  | createServer | startAuthority | shutDownAuthority | dropAuthority | outside => cases traffic
  | makePool | closePool | makeAssigner | changeAssigner | makeCoordinator | countLive
  | makeFactory | changeTransport | changeStrangers | reorder =>
    exact kept.same holds ⟨.refl _, rfl, rfl⟩
  | ask assigner request =>
    obtain ⟨pools, assigners, after⟩ := mux.ask_eq assigner request
    simp only [Multiplexer.perform, after]
    exact kept.same holds ⟨.refl _, rfl, rfl⟩
  | findAssigner factory =>
    obtain ⟨assigners, remember, after, -⟩ := mux.assignerOf_eq factory
    simp only [Multiplexer.perform, after]
    exact kept.same holds ⟨.refl _, rfl, rfl⟩
  | createClient number key =>
    obtain ⟨err, host, same, after⟩ | ⟨credentials, file, connection, host, same, -, after⟩ :=
      mux.createClient_cases number key
    · simp only [Multiplexer.perform, after]
      exact kept.same holds ⟨same, rfl, rfl⟩
    · simp only [Multiplexer.perform, after]
      exact kept.same holds ⟨same, rfl, rfl⟩
  | createClientShort number key shortage =>
    obtain ⟨host, forget, -, same, after⟩ := mux.createClient_short number key shortage
    simp only [Multiplexer.perform, after]
    exact kept.same holds ⟨same, rfl, rfl⟩
  | accept listener =>
    obtain ⟨host, same, after⟩ := mux.acceptOn_eq listener
    simp only [Multiplexer.perform, after]
    exact kept.same holds ⟨same, rfl, rfl⟩
  | beginAccept listener =>
    obtain ⟨host, same, after⟩ := mux.beginAcceptOn_eq listener
    simp only [Multiplexer.perform, after]
    exact kept.same holds ⟨same, rfl, rfl⟩
  | closeListener number => exact kept.closeListener number holds
  | dropListener number hasTasks =>
    obtain ⟨-, unchanged⟩ | ⟨listener, found, isOpen, after⟩ :=
      mux.dropListener_cases number hasTasks
    · simp only [Multiplexer.perform, unchanged]
      exact holds
    · simp only [Multiplexer.perform, after]
      exact kept.same (kept.ended found isOpen holds) ⟨.refl _, rfl, rfl⟩
  | closeClient number => exact kept.closeClient number holds
  | dropClient number =>
    obtain ⟨host, same, after⟩ := mux.dropClient_eq number
    simp only [Multiplexer.perform, after]
    exact kept.same (kept.closeClient number holds) ⟨same, rfl, rfl⟩
  | closeFactory number => exact closing.closeFactory holds number
  | dropFactory number => exact closing.dropFactory holds number
  | shutDownAll coordinator => exact closing.shutDownAll holds coordinator
  | returnOne index =>
    obtain unchanged | ⟨entry, pools, assigners, -, after⟩ := mux.returnOne_cases index
    · simp only [Multiplexer.perform, unchanged]
      exact holds
    · simp only [Multiplexer.perform, after]
      exact kept.same holds ⟨.refl _, rfl, rfl⟩
  | serve =>
    obtain ⟨host, pools, served, same, after⟩ := mux.serveAll_eq
    simp only [Multiplexer.perform, after]
    exact kept.same holds ⟨same, rfl, rfl⟩

end KeptByTraffic

end Multiplexer

end SocketMux
