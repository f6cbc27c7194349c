import SocketMux.Proofs.Lifecycle.Frame

/-!
# Induction over closing

Closing a factory, and shutting down all factories of a coordinator, are made of a few
kinds of steps. `Multiplexer.KeptByClosing` collects what a property has to survive;
`KeptByClosing.closeFactory` and `KeptByClosing.shutDownAll` then carry it through the
whole close, whatever the factories have registered.
-/

namespace SocketMux

namespace Factory

/-- A later state of a factory that has registered nothing in the meantime. -/
structure Dwindles (before after : Factory) : Prop where
  servers : after.servers ⊆ before.servers
  clients : after.clients ⊆ before.clients
  peers : after.peers ⊆ before.peers
  registration : after.registration = before.registration ∨ after.registration = none

namespace Dwindles

theorem refl (factory : Factory) : factory.Dwindles factory :=
  ⟨fun _ => id, fun _ => id, fun _ => id, .inl rfl⟩

theorem trans {first second third : Factory} (early : first.Dwindles second)
    (late : second.Dwindles third) : first.Dwindles third where
  servers := List.Subset.trans late.servers early.servers
  clients := List.Subset.trans late.clients early.clients
  peers := List.Subset.trans late.peers early.peers
  registration := by
    obtain same | none := late.registration
    · rw [same]
      exact early.registration
    · exact .inr none

/-- Dropping the registration of a listener. -/
theorem unregisterServer (factory : Factory) (port : Port) (listener : Nat) :
    factory.Dwindles (factory.unregisterServer port listener) :=
  ⟨List.filter_sublist.subset, fun _ => id, fun _ => id, .inl rfl⟩

/-- Dropping the registration of a client. -/
theorem unregisterClient (factory : Factory) (client : Nat) (key : HostAndPort) :
    factory.Dwindles (factory.unregisterClient client key) :=
  ⟨fun _ => id, List.filter_sublist.subset, List.filter_sublist.subset, .inl rfl⟩

end Dwindles

/-- A change that leaves alone how a factory works and registers nothing, though it may
forget its assigner. -/
structure Fades (change : Factory → Factory) : Prop where
  profile : ∀ factory, (change factory).profile = factory.profile
  naming : ∀ factory, (change factory).naming = factory.naming
  transport : ∀ factory, (change factory).transport = factory.transport
  authority : ∀ factory,
    (change factory).authority = factory.authority ∨ (change factory).authority = none
  dwindles : ∀ factory : Factory, factory.Dwindles (change factory)

namespace Fades

/-- What a close forgets at once. -/
theorem forgetServers : Fades fun state =>
    { state with credentials := .empty, authority := none, servers := [] } where
  profile _ := rfl
  naming _ := rfl
  transport _ := rfl
  authority _ := .inr rfl
  dwindles _ := ⟨List.nil_subset _, fun _ => id, List.nil_subset _, .inl rfl⟩

/-- What a close forgets after the listeners are closed. -/
theorem forgetClients : Fades fun state => { state with clients := [] } where
  profile _ := rfl
  naming _ := rfl
  transport _ := rfl
  authority _ := .inl rfl
  dwindles _ := ⟨fun _ => id, List.nil_subset _, fun _ => id, .inl rfl⟩

theorem unlisted : Fades Multiplexer.unlisted where
  profile _ := rfl
  naming _ := rfl
  transport _ := rfl
  authority _ := .inl rfl
  dwindles _ := ⟨fun _ => id, fun _ => id, fun _ => id, .inr rfl⟩

theorem letGo : Fades fun state => { state with isHeld := false } where
  profile _ := rfl
  naming _ := rfl
  transport _ := rfl
  authority _ := .inl rfl
  dwindles _ := ⟨fun _ => id, fun _ => id, fun _ => id, .inl rfl⟩

end Fades

end Factory

namespace Multiplexer

/-- A property that every step of closing factories keeps. -/
structure KeptByClosing (property : Multiplexer → Prop) : Prop where
  listener : ∀ {mux : Multiplexer} (number : Nat), property mux →
    property (mux.closeListener number).2
  client : ∀ {mux : Multiplexer} (number : Nat), property mux → property (mux.closeClient number)
  factory : ∀ {mux : Multiplexer} (number : Nat) (change : Factory → Factory),
    Factory.Fades change → property mux → property (mux.modifyFactory number change)
  coordinators : ∀ {mux : Multiplexer} (coordinators : Table (ShutdownCoordinator Nat)),
    property mux → property { mux with coordinators }

/-- Closing factories in turn keeps what the close of each of them keeps. -/
theorem closeEntries_induction {motive : Multiplexer → Prop}
    (closed : ∀ {mux : Multiplexer} (number : Nat), motive mux →
      motive (mux.closeFactory number).2)
    {mux : Multiplexer} (holds : motive mux) (entries : List (HookId × Nat))
    (report : ShutdownReport) : motive (mux.closeEntries entries report).2 := by
  induction entries generalizing mux report with
  | nil => exact holds
  | cons entry others inductionHypothesis =>
    obtain ⟨id, number⟩ := entry
    unfold Multiplexer.closeEntries
    split
    · exact inductionHypothesis holds _
    · exact inductionHypothesis (closed number holds) _

/-- A shutdown keeps what the close of each factory keeps. -/
theorem shutDownAll_induction {motive : Multiplexer → Prop}
    (closed : ∀ {mux : Multiplexer} (number : Nat), motive mux →
      motive (mux.closeFactory number).2)
    (coordinators : ∀ {mux : Multiplexer} (coordinators : Table (ShutdownCoordinator Nat)),
      motive mux → motive { mux with coordinators })
    {mux : Multiplexer} (holds : motive mux) (coordinator : Nat) :
    motive (mux.shutDownAll coordinator).2 := by
  unfold Multiplexer.shutDownAll
  split
  · exact holds
  · exact closeEntries_induction closed (coordinators _ holds) _ _

namespace KeptByClosing

variable {property : Multiplexer → Prop} {mux : Multiplexer}

theorem closeListeners (kept : KeptByClosing property) (holds : property mux)
    (listeners : List Nat) : property (mux.closeListeners listeners).2 := by
  induction listeners generalizing mux with
  | nil => exact holds
  | cons listener others inductionHypothesis =>
    exact inductionHypothesis (kept.listener listener holds)

theorem closeClients (kept : KeptByClosing property) (holds : property mux)
    (clients : List Nat) : property (mux.closeClients clients) := by
  induction clients generalizing mux with
  | nil => exact holds
  | cons client others inductionHypothesis => exact inductionHypothesis (kept.client client holds)

theorem withdraw (kept : KeptByClosing property) (holds : property mux) (number : Nat) :
    property (mux.withdraw number) := by
  obtain ⟨coordinators, after⟩ := mux.withdraw_eq number
  rw [after]
  exact kept.factory number unlisted .unlisted (kept.coordinators coordinators holds)

theorem closeFactory (kept : KeptByClosing property) (holds : property mux) (number : Nat) :
    property (mux.closeFactory number).2 := by
  unfold Multiplexer.closeFactory
  split
  · exact holds
  · next factory _ =>
    have forgotten := kept.factory number _ .forgetServers holds
    have serversClosed := kept.closeListeners forgotten (factory.servers.map Prod.snd)
    have clientsListed := kept.factory number _ .forgetClients serversClosed
    exact kept.withdraw (kept.closeClients clientsListed _) number

theorem dropFactory (kept : KeptByClosing property) (holds : property mux) (number : Nat) :
    property (mux.dropFactory number) :=
  kept.factory number _ .letGo (kept.withdraw holds number)

theorem shutDownAll (kept : KeptByClosing property) (holds : property mux) (coordinator : Nat) :
    property (mux.shutDownAll coordinator).2 := by
  refine shutDownAll_induction ?_ kept.coordinators holds coordinator
  exact fun number holds => kept.closeFactory holds number

end KeptByClosing

end Multiplexer

end SocketMux
