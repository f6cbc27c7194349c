import SocketMux.Proofs.Lifecycle.Creation

/-!
# Quiet actions

A quiet action makes no endpoint, tries to make no client, ends no endpoint and gives no
port back. It leaves all listeners, all clients and all ports alone that factories have to
account for, and it registers nothing (`Multiplexer.perform_quiet`). Other actions are
creations, closes, drops and the return of ports that are due.
-/

namespace SocketMux

namespace Action

/-- Whether an action makes no endpoint, tries to make no client, ends no endpoint and
gives no port back. -/
def isQuiet : Action → Bool
  | .createServer .. | .createClient .. | .createClientShort .. => false
  | .closeListener .. | .dropListener .. | .closeClient .. | .dropClient .. => false
  | .closeFactory .. | .dropFactory .. | .shutDownAll .. | .returnOne .. => false
  | _ => true

end Action

/-- Tables of factories with the same entries in a registry, up to their order. A factory
that is only in the latter table has none. -/
structure SameEntries {α : Type} (entries : Factory → List α) (before after : Table Factory) :
    Prop where
  size : before.size ≤ after.size
  perm : ∀ number factory, after.get? number = some factory →
    (∃ former, before.get? number = some former ∧ (entries factory).Perm (entries former)) ∨
    (before.size ≤ number ∧ entries factory = [])

namespace SameEntries

variable {α : Type} {entries : Factory → List α}

theorem refl (factories : Table Factory) : SameEntries entries factories factories where
  size := Nat.le_refl _
  perm _ factory found := .inl ⟨factory, found, .refl _⟩

/-- A change of one factory that leaves its entries alone. -/
theorem of_modify (factories : Table Factory) (number : Nat) (change : Factory → Factory)
    (kept : ∀ factory, (entries (change factory)).Perm (entries factory)) :
    SameEntries entries factories (factories.modify number change) where
  size := Nat.le_of_eq (Table.size_modify _ _ _).symm
  perm other factory found := by
    rw [Table.get?_modify] at found
    split at found
    · obtain ⟨former, former_found, rfl⟩ := Option.map_eq_some_iff.mp found
      exact .inl ⟨former, former_found, kept former⟩
    · exact .inl ⟨factory, found, .refl _⟩

/-- A factory that remembers another assigner has the entries that it had. -/
theorem of_remembers (factories : Table Factory) (number : Nat) {remember : Factory → Factory}
    (remembers : Multiplexer.Remembers remember)
    (kept : ∀ factory authority, entries { factory with authority } = entries factory) :
    SameEntries entries factories (factories.modify number remember) := by
  refine .of_modify _ _ _ fun factory => ?_
  obtain ⟨authority, after⟩ := remembers factory
  rw [after, kept]

/-- A factory that remembers other credentials has the entries that it had. -/
theorem of_forgets (factories : Table Factory) (number : Nat) {forget : Factory → Factory}
    (forgets : Multiplexer.Forgets forget)
    (kept : ∀ factory credentials, entries { factory with credentials } = entries factory) :
    SameEntries entries factories (factories.modify number forget) := by
  refine .of_modify _ _ _ fun factory => ?_
  obtain ⟨credentials, after, -⟩ := forgets factory
  rw [after, kept]

/-- A new factory without entries. -/
theorem of_add (factories : Table Factory) (factory : Factory) (none : entries factory = []) :
    SameEntries entries factories (factories.add factory).2 where
  size := by
    simp only [Table.size, Table.add, List.length_append]
    omega
  perm number state found := by
    rw [Table.get?_add] at found
    split at found
    · next last =>
      injection found with same
      exact .inr ⟨Nat.le_of_eq last.symm, same ▸ none⟩
    · exact .inl ⟨state, found, .refl _⟩

end SameEntries

/-- All factories of a table are in another one, with the same profiles. -/
def KeepsProfiles (before after : Table Factory) : Prop :=
  ∀ number former, before.get? number = some former →
    ∃ factory, after.get? number = some factory ∧ factory.profile = former.profile

namespace KeepsProfiles

theorem refl (factories : Table Factory) : KeepsProfiles factories factories :=
  fun _ former found => ⟨former, found, rfl⟩

/-- A change of one factory that leaves its profile alone. -/
theorem of_modify (factories : Table Factory) (number : Nat) (change : Factory → Factory)
    (kept : ∀ factory, (change factory).profile = factory.profile) :
    KeepsProfiles factories (factories.modify number change) := by
  intro other former found
  rw [Table.get?_modify]
  split
  · exact ⟨change former, by rw [found]; rfl, kept former⟩
  · exact ⟨former, found, rfl⟩

theorem of_add (factories : Table Factory) (factory : Factory) :
    KeepsProfiles factories (factories.add factory).2 := by
  intro number former found
  have bounded := (List.getElem?_eq_some_iff.mp found).1
  exact ⟨former, (Table.get?_add_of_lt _ _ bounded).trans found, rfl⟩

end KeepsProfiles

namespace Factory

/-- A factory with the same profile and registrations, perhaps in another order. -/
structure SameRegistrations (before after : Factory) : Prop where
  servers : after.servers.Perm before.servers
  clients : after.clients.Perm before.clients
  peers : after.peers = before.peers
  registration : after.registration = before.registration
  profile : after.profile = before.profile

theorem SameRegistrations.refl (factory : Factory) : factory.SameRegistrations factory :=
  ⟨.refl _, .refl _, rfl, rfl, rfl⟩

end Factory

/-- Tables of factories with the same profiles and registrations. -/
structure SameRegistries (before after : Table Factory) : Prop where
  servers : SameEntries Factory.servers before after
  clients : SameEntries Factory.clients before after
  peers : SameEntries Factory.peers before after
  registration : ∀ number former, before.get? number = some former →
    ∃ factory, after.get? number = some factory ∧ factory.registration = former.registration
  profiles : KeepsProfiles before after

namespace SameRegistries

theorem refl (factories : Table Factory) : SameRegistries factories factories where
  servers := .refl _
  clients := .refl _
  peers := .refl _
  registration _ former found := ⟨former, found, rfl⟩
  profiles := .refl _

/-- A change of one factory that leaves its profile and its registrations alone. -/
theorem of_modify (factories : Table Factory) (number : Nat) (change : Factory → Factory)
    (kept : ∀ factory : Factory, factory.SameRegistrations (change factory)) :
    SameRegistries factories (factories.modify number change) where
  servers := .of_modify _ _ _ fun factory => (kept factory).servers
  clients := .of_modify _ _ _ fun factory => (kept factory).clients
  peers := .of_modify _ _ _ fun factory => .of_eq (kept factory).peers
  registration other former found := by
    rw [Table.get?_modify]
    split
    · exact ⟨change former, by rw [found]; rfl, (kept former).registration⟩
    · exact ⟨former, found, rfl⟩
  profiles := .of_modify _ _ _ fun factory => (kept factory).profile

/-- A new factory that has registered no endpoint. -/
theorem of_add (factories : Table Factory) {factory : Factory} (servers : factory.servers = [])
    (clients : factory.clients = []) (peers : factory.peers = []) :
    SameRegistries factories (factories.add factory).2 where
  servers := .of_add _ _ servers
  clients := .of_add _ _ clients
  peers := .of_add _ _ peers
  registration number former found := by
    have bounded := (List.getElem?_eq_some_iff.mp found).1
    exact ⟨former, (Table.get?_add_of_lt _ _ bounded).trans found, rfl⟩
  profiles := .of_add _ _

end SameRegistries

/-- Dropping the registration of a listener leaves all other entries alone. -/
theorem Multiplexer.factoriesWithout_entries {α : Type} {entries : Factory → List α}
    (mux : Multiplexer) (number : Nat) (listener : MuxListener)
    (kept : ∀ factory servers, entries { factory with servers } = entries factory) :
    SameEntries entries mux.factories (mux.factoriesWithout number listener) := by
  unfold factoriesWithout
  split
  · exact .of_modify _ _ _ fun factory => .of_eq (kept factory _)
  · exact .refl _

/-- A factory that yields its entries in another order has the same entries. -/
theorem Factory.reorder_perm (factory : Factory) (servers : List (Port × Nat))
    (clients : List Nat) :
    factory.SameRegistrations (factory.reorder servers clients) := by
  unfold reorder
  split
  · next rearranged =>
    simp only [Bool.and_eq_true, List.isPerm_iff] at rearranged
    exact ⟨rearranged.1, rearranged.2, rfl, rfl, rfl⟩
  · exact .refl factory

/-- A quiet action leaves everything alone that an account of endpoints and ports reads. -/
theorem Multiplexer.perform_quiet (mux : Multiplexer) {action : Action}
    (quiet : action.isQuiet = true) :
    ∃ host strangers pools assigners authorities served factories coordinators,
      SameRegistries mux.factories factories ∧
      mux.perform action =
        { mux with
          host, strangers, pools, assigners, authorities, served, factories, coordinators } := by
  have same := SameRegistries.refl mux.factories
  cases action with
  | createServer | createClient | createClientShort => cases quiet
  | closeListener | dropListener | closeClient | dropClient => cases quiet
  | closeFactory | dropFactory | shutDownAll | returnOne => cases quiet
  | makePool | closePool | makeAssigner | changeAssigner | makeCoordinator | countLive | outside
  | changeStrangers => exact ⟨_, _, _, _, _, _, _, _, same, rfl⟩
  | ask assigner request =>
    obtain ⟨pools, assigners, after⟩ := mux.ask_eq assigner request
    exact ⟨_, _, pools, assigners, _, _, _, _, same, after⟩
  | makeFactory profile naming transport coordinator =>
    exact ⟨_, _, _, _, _, _, _, _, .of_add _ rfl rfl rfl, rfl⟩
  | changeTransport factory transport =>
    exact ⟨_, _, _, _, _, _, _, _, .of_modify _ _ (fun state => { state with transport })
      fun _ => ⟨.refl _, .refl _, rfl, rfl, rfl⟩, rfl⟩
  | reorder factory servers clients =>
    exact ⟨_, _, _, _, _, _, _, _, .of_modify _ _ _
      fun state => state.reorder_perm servers clients, rfl⟩
  | findAssigner factory =>
    obtain ⟨assigners, remember, after, remembers⟩ := mux.assignerOf_eq factory
    refine ⟨_, _, _, assigners, _, _, _, _, .of_modify _ _ remember fun state => ?_, after⟩
    obtain ⟨authority, remembered⟩ := remembers state
    rw [remembered]
    exact ⟨.refl _, .refl _, rfl, rfl, rfl⟩
  | accept listener =>
    obtain ⟨host, -, after⟩ := mux.acceptOn_eq listener
    exact ⟨host, _, _, _, _, _, _, _, same, after⟩
  | beginAccept listener =>
    obtain ⟨host, -, after⟩ := mux.beginAcceptOn_eq listener
    exact ⟨host, _, _, _, _, _, _, _, same, after⟩
  | startAuthority path pool =>
    obtain ⟨host, authorities, after⟩ := mux.startAuthority_eq path pool
    exact ⟨host, _, _, _, authorities, _, _, _, same, after⟩
  | shutDownAuthority authority =>
    obtain ⟨host, authorities, after⟩ := mux.shutDownAuthority_eq authority
    exact ⟨host, _, _, _, authorities, _, _, _, same, after⟩
  | dropAuthority authority =>
    obtain ⟨host, after⟩ := mux.dropAuthority_eq authority
    exact ⟨host, _, _, _, _, _, _, _, same, after⟩
  | serve =>
    obtain ⟨host, pools, served, -, after⟩ := mux.serveAll_eq
    exact ⟨host, _, pools, _, _, served, _, _, same, after⟩

namespace Moment

/-- Only a call for a server makes a creation. -/
theorem creation?_of_quiet (mux : Multiplexer) {action : Action}
    (quiet : action.isQuiet = true) : Moment.creation? ⟨mux, action⟩ = none := by
  cases action <;> first | rfl | cases quiet

/-- Only a call for a client makes a client. -/
theorem madeClient?_of_quiet (mux : Multiplexer) {action : Action}
    (quiet : action.isQuiet = true) : Moment.madeClient? ⟨mux, action⟩ = none := by
  cases action <;> first | rfl | cases quiet

end Moment

end SocketMux
