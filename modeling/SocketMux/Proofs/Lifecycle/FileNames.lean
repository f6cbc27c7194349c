import SocketMux.Proofs.Lifecycle.Traffic

/-!
# The paths of listeners

The profile of a factory never changes, so every listener has for good the file that its factory
gives to its port (`Multiplexer.NamesFiles`). Every run keeps this (`Run.namesFiles`).
-/

namespace SocketMux

namespace Multiplexer

/-- Dropping the registration of a listener leaves all profiles alone. -/
theorem factoriesWithout_profiles (mux : Multiplexer) (number : Nat) (listener : MuxListener) :
    KeepsProfiles mux.factories (mux.factoriesWithout number listener) := by
  unfold factoriesWithout
  split
  · exact .of_modify _ _ _ fun _ => rfl
  · exact .refl _

/-- So does registering one. -/
theorem enlist_profiles (mux : Multiplexer) (host : Host) (listener : MuxListener) :
    KeepsProfiles mux.factories (mux.enlist host listener).factories := by
  unfold enlist
  simp only
  split
  · exact .of_modify _ _ _ fun _ => rfl
  · exact .refl _

/-- Every listener has the file that its factory gives to its port. -/
def NamesFiles (mux : Multiplexer) : Prop :=
  ∀ number listener, mux.listeners.get? number = some listener →
    ∃ factory, mux.factories.get? listener.factory = some factory ∧
      listener.file = factory.profile.fileFor listener.port

namespace NamesFiles

variable {mux after : Multiplexer}

/-- Factories with the same profiles give the same files. -/
theorem move (names : mux.NamesFiles) (profiles : KeepsProfiles mux.factories after.factories)
    (listeners : after.listeners = mux.listeners) : after.NamesFiles := by
  intro number listener found
  rw [listeners] at found
  obtain ⟨former, former_found, named⟩ := names number listener found
  obtain ⟨factory, factory_found, same⟩ := profiles _ former former_found
  exact ⟨factory, factory_found, by rw [same]; exact named⟩

/-- The end of a listener leaves all files alone. -/
theorem ended (names : mux.NamesFiles) (profiles : KeepsProfiles mux.factories after.factories)
    {ending : Nat} (listeners : after.listeners = mux.listeners.modify ending MuxListener.closed) :
    after.NamesFiles := by
  intro number listener found
  rw [listeners, Table.get?_modify] at found
  have before : ∃ former, mux.listeners.get? number = some former ∧
      former.factory = listener.factory ∧ former.port = listener.port ∧
        former.file = listener.file := by
    split at found
    · obtain ⟨former, former_found, rfl⟩ := Option.map_eq_some_iff.mp found
      exact ⟨former, former_found, rfl, rfl, rfl⟩
    · exact ⟨listener, found, rfl, rfl, rfl⟩
  obtain ⟨row, row_found, maker, port, file⟩ := before
  obtain ⟨former, former_found, named⟩ := names number row row_found
  obtain ⟨factory, factory_found, same⟩ := profiles _ former former_found
  rw [maker] at factory_found
  exact ⟨factory, factory_found, by rw [same, ← port, ← file]; exact named⟩

theorem closeListener (names : mux.NamesFiles) (number : Nat) :
    (mux.closeListener number).2.NamesFiles := by
  obtain ⟨-, unchanged⟩ | ⟨row, pools, assigners, -, -, after⟩ := mux.closeListener_cases number
  · rw [unchanged]
    exact names
  · rw [after]
    exact names.ended (mux.factoriesWithout_profiles number row) rfl

theorem closeClient (names : mux.NamesFiles) (number : Nat) :
    (mux.closeClient number).NamesFiles := by
  obtain ⟨-, unchanged⟩ | ⟨client, -, -, after⟩ := mux.closeClient_cases number
  · rw [unchanged]
    exact names
  · rw [after]
    exact names.move (.of_modify _ _ _ fun _ => rfl) rfl

/-- Closing factories leaves all files alone. -/
theorem keptByClosing : KeptByClosing NamesFiles where
  listener number names := names.closeListener number
  client number names := names.closeClient number
  factory _ change fades names := names.move (.of_modify _ _ change fades.profile) rfl
  coordinators _ names := names.move (.refl _) rfl

end NamesFiles

/-- A call for a server names the file of the listener that it makes. -/
theorem Creates.namesFiles {mux after : Multiplexer} {number : Nat} {factory : Factory}
    {creation : Option Creation} (creates : Creates mux number factory creation after)
    (found : mux.factories.get? number = some factory) (names : mux.NamesFiles) :
    after.NamesFiles := by
  have remembering : ∀ remember, Remembers remember →
      KeepsProfiles mux.factories (mux.factories.modify number remember) := by
    intro remember remembers
    refine .of_modify _ _ _ fun factory => ?_
    obtain ⟨authority, after⟩ := remembers factory
    rw [after]
  cases creates with
  | nothing remembers => exact names.move (remembering _ remembers) rfl
  | @failed port bound issuer ready err host prepared unbound =>
    obtain ⟨pools, assigners, remember, remembers, rfl⟩ := ready_eq prepared
    obtain ⟨morePools, moreAssigners, refunded⟩ := refund_eq
      { mux with host, pools, assigners, factories := mux.factories.modify number remember }
      issuer bound
    rw [refunded]
    exact names.move (remembering _ remembers) rfl
  | @made port bound issuer ready socket host prepared bind =>
    obtain ⟨pools, assigners, remember, remembers, rfl⟩ := ready_eq prepared
    obtain ⟨former, former_found, same⟩ := remembering _ remembers number factory found
    let ready := { mux with pools, assigners, factories := mux.factories.modify number remember }
    have earlier : ready.NamesFiles := names.move (remembering _ remembers) rfl
    have profiles := ready.enlist_profiles host
      (listenerFor number factory issuer bound (issuer.isNone || bound.isMultiplexed) socket host)
    intro other listener listener_found
    simp only [enlist, Table.get?_add] at listener_found
    split at listener_found
    · obtain rfl := Option.some.inj listener_found
      obtain ⟨later, later_found, kept⟩ := profiles number former former_found
      exact ⟨later, later_found, by rw [kept, same]; rfl⟩
    · obtain ⟨maker, maker_found, named⟩ := earlier other listener listener_found
      obtain ⟨later, later_found, kept⟩ := profiles _ maker maker_found
      exact ⟨later, later_found, by rw [kept]; exact named⟩

/-- Every action leaves all files to their listeners. -/
theorem NamesFiles.perform {mux : Multiplexer} (names : mux.NamesFiles) (action : Action) :
    (mux.perform action).NamesFiles := by
  by_cases quiet : action.isQuiet = true
  · obtain ⟨_, _, _, _, _, _, _, _, registries, after⟩ := mux.perform_quiet quiet
    rw [after]
    exact names.move registries.profiles rfl
  cases action with
  | createServer number port =>
    cases found : mux.factories.get? number with
    | none =>
      simp only [Multiplexer.perform, createServer, found]
      exact names
    | some factory => exact (createServer_creates port found).namesFiles found names
  | createClient number key =>
    obtain ⟨err, host, -, after⟩ | ⟨credentials, file, connection, host, -, -, after⟩ :=
      mux.createClient_cases number key
    · simp only [Multiplexer.perform, after]
      exact names.move (.refl _) rfl
    · simp only [Multiplexer.perform, after]
      exact names.move (.of_modify _ _ _ fun _ => rfl) rfl
  | createClientShort number key shortage =>
    obtain ⟨host, forget, forgets, -, after⟩ := mux.createClient_short number key shortage
    simp only [Multiplexer.perform, after]
    refine names.move (.of_modify _ _ _ fun factory => ?_) rfl
    obtain ⟨credentials, forgotten, -⟩ := forgets factory
    rw [forgotten]
  | closeListener number => exact names.closeListener number
  | dropListener number hasTasks =>
    obtain ⟨-, unchanged⟩ | ⟨listener, -, -, after⟩ := mux.dropListener_cases number hasTasks
    · simp only [Multiplexer.perform, unchanged]
      exact names
    · simp only [Multiplexer.perform, after]
      exact names.ended (mux.factoriesWithout_profiles number listener) rfl
  | closeClient number => exact names.closeClient number
  | dropClient number =>
    obtain ⟨host, -, after⟩ := mux.dropClient_eq number
    simp only [Multiplexer.perform, after]
    exact (names.closeClient number).move (.refl _) rfl
  | closeFactory number => exact keptByClosing.closeFactory names number
  | dropFactory number => exact keptByClosing.dropFactory names number
  | shutDownAll coordinator => exact keptByClosing.shutDownAll names coordinator
  | returnOne index =>
    obtain unchanged | ⟨entry, pools, assigners, -, after⟩ := mux.returnOne_cases index
    · simp only [Multiplexer.perform, unchanged]
      exact names
    · simp only [Multiplexer.perform, after]
      exact names.move (.refl _) rfl
  | _ => exact absurd rfl quiet

end Multiplexer

/-- In every run listeners have the files that their factories give to their ports. -/
theorem Run.namesFiles {host : Host} {own : PeerCredentials} {history : History}
    {mux : Multiplexer} (run : Run (.initial host own) history mux) : mux.NamesFiles := by
  induction run with
  | nothing => exact nofun
  | more _ action inductionHypothesis => exact inductionHypothesis.perform action

end SocketMux
