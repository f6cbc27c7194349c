import SocketMux.Proofs.Lifecycle.Ledger

/-!
# The listeners that factories list

A factory lists, for each port, the listener that it registered last for the port, as long
as that listener is open (`Multiplexer.ListsServers`). While a factory closes, it has
already forgotten listeners that are still open; the invariant takes the list of these
listeners, which is empty between operations. Every run keeps it (`Run.listsServers`).
-/

namespace SocketMux

/-- The listener that a factory registered last for a port. -/
def lastRegistered? (creations : List Creation) (factory : Nat) (port : Port) : Option Nat :=
  creations.findSome? fun creation =>
    if creation.factory = factory ∧ creation.port = port ∧ creation.isRegistered then
      creation.listener
    else none

/-- The listener that was registered last was made for the factory and the port. -/
theorem creation_of_lastRegistered {creations : List Creation} {factory : Nat} {port : Port}
    {listener : Nat} (last : lastRegistered? creations factory port = some listener) :
    ∃ creation ∈ creations, creation.factory = factory ∧ creation.port = port ∧
      creation.isRegistered ∧ creation.listener = some listener := by
  obtain ⟨creation, member, chosen⟩ := List.exists_of_findSome?_eq_some last
  split at chosen
  · next matching => exact ⟨creation, member, matching.1, matching.2.1, matching.2.2, chosen⟩
  · cases chosen

/-- A creation that made a listener comes before all earlier ones, if it registered it. -/
theorem lastRegistered?_cons {creations : List Creation} {creation : Creation} {number : Nat}
    (made : creation.listener = some number) (factory : Nat) (port : Port) :
    lastRegistered? (creation :: creations) factory port =
      if creation.factory = factory ∧ creation.port = port ∧ creation.isRegistered then
        some number
      else lastRegistered? creations factory port := by
  unfold lastRegistered?
  rw [List.findSome?_cons, made]
  by_cases registers : creation.factory = factory ∧ creation.port = port ∧ creation.isRegistered
  · simp only [if_pos registers]
  · simp only [if_neg registers]

/-- A creation that made no listener does not count. -/
theorem lastRegistered?_cons_of_failed {creations : List Creation} {creation : Creation}
    (failed : creation.listener = none) :
    lastRegistered? (creation :: creations) = lastRegistered? creations := by
  funext factory port
  unfold lastRegistered?
  rw [List.findSome?_cons, failed, ite_self]

/-- Tables of factories in which each factory lists exactly the entries that it should. -/
def Lists {α : Type} (entries : Factory → List α) (factories : Table Factory)
    (listed : Nat → α → Prop) : Prop :=
  ∀ number factory, factories.get? number = some factory →
    (entries factory).Nodup ∧ ∀ entry, entry ∈ entries factory ↔ listed number entry

namespace Lists

variable {α : Type} {entries : Factory → List α} {before after : Table Factory}
  {listed others : Nat → α → Prop}

/-- The same entries are the right ones for the same demand. -/
theorem same (lists : Lists entries before listed) (same : SameEntries entries before after)
    (existing : ∀ number entry, listed number entry → number < before.size)
    (demand : ∀ number entry, listed number entry ↔ others number entry) :
    Lists entries after others := by
  intro number factory found
  obtain ⟨former, former_found, perm⟩ | ⟨fresh, none⟩ := same.perm number factory found
  · obtain ⟨nodup, members⟩ := lists number former former_found
    exact ⟨perm.nodup_iff.mpr nodup, fun entry =>
      (perm.mem_iff.trans (members entry)).trans (demand number entry)⟩
  · rw [none]
    refine ⟨List.nodup_nil, fun entry => ⟨fun member => (List.not_mem_nil member).elim, ?_⟩⟩
    intro wanted
    have bounded := existing number entry ((demand number entry).mpr wanted)
    omega

/-- One factory changes its entries as the demand changes, and all others need not. -/
theorem modify (lists : Lists entries before listed) (number : Nat) (change : Factory → Factory)
    (here : ∀ factory, (entries factory).Nodup →
      (∀ entry, entry ∈ entries factory ↔ listed number entry) →
        (entries (change factory)).Nodup ∧
          ∀ entry, entry ∈ entries (change factory) ↔ others number entry)
    (elsewhere : ∀ other, other ≠ number → ∀ entry, listed other entry ↔ others other entry) :
    Lists entries (before.modify number change) others := by
  intro other factory found
  rw [Table.get?_modify] at found
  split at found
  · next asked =>
    subst asked
    obtain ⟨former, former_found, rfl⟩ := Option.map_eq_some_iff.mp found
    obtain ⟨nodup, members⟩ := lists number former former_found
    exact here former nodup members
  · next differs =>
    obtain ⟨nodup, members⟩ := lists other factory found
    exact ⟨nodup, fun entry =>
      (members entry).trans (elsewhere other (fun same => differs same.symm) entry)⟩

/-- The same entries are the right ones for whatever demands the same. -/
theorem congr (lists : Lists entries before listed)
    (demand : ∀ number entry, listed number entry ↔ others number entry) :
    Lists entries before others := by
  intro number factory found
  obtain ⟨nodup, members⟩ := lists number factory found
  exact ⟨nodup, fun entry => (members entry).trans (demand number entry)⟩

/-- One factory drops an entry, which is demanded no more. -/
theorem remove [BEq α] [LawfulBEq α] (lists : Lists entries before listed) (number : Nat)
    {change : Factory → Factory} {gone : α}
    (dropped : ∀ factory, entries (change factory) = (entries factory).filter (· != gone))
    (demand : ∀ factory entry,
      others factory entry ↔ listed factory entry ∧ ¬(factory = number ∧ entry = gone)) :
    Lists entries (before.modify number change) others := by
  apply lists.modify
  · intro factory nodup members
    rw [dropped]
    refine ⟨nodup.filter _, fun entry => ?_⟩
    simp [members, demand]
  · intro other elsewhere entry
    simp [demand, elsewhere]

/-- One factory lists an entry more, which is demanded from now on. -/
theorem add (lists : Lists entries before listed) (number : Nat) {change : Factory → Factory}
    {fresh : α} (added : ∀ factory, entries (change factory) = fresh :: entries factory)
    (absent : ¬listed number fresh) (demand : ∀ factory entry,
      others factory entry ↔ (factory = number ∧ entry = fresh) ∨ listed factory entry) :
    Lists entries (before.modify number change) others := by
  apply lists.modify
  · intro factory nodup members
    rw [added]
    refine ⟨List.nodup_cons.mpr ⟨fun member => absent ((members fresh).mp member), nodup⟩, ?_⟩
    intro entry
    simp [members, demand]
  · intro other elsewhere entry
    simp [demand, elsewhere]

/-- One factory forgets all its entries, of which none is demanded any more. -/
theorem forget (lists : Lists entries before listed) (number : Nat)
    {change : Factory → Factory} (emptied : ∀ factory, entries (change factory) = [])
    (nothing : ∀ entry, ¬others number entry)
    (elsewhere : ∀ other, other ≠ number → ∀ entry, listed other entry ↔ others other entry) :
    Lists entries (before.modify number change) others := by
  refine lists.modify number change (fun factory _ _ => ?_) elsewhere
  rw [emptied]
  exact ⟨List.nodup_nil, fun entry => iff_of_false List.not_mem_nil (nothing entry)⟩

variable {κ β : Type} [DecidableEq κ] {keyed : Factory → List (κ × β)}
  {had has : Nat → κ × β → Prop}

/-- One factory puts a value under a key, in the place of the one before. -/
theorem put (lists : Lists keyed before had) (number : Nat) (key : κ) (value : β)
    {change : Factory → Factory}
    (puts : ∀ factory, keyed (change factory) = Keyed.insert (keyed factory) key value)
    (replaced : ∀ other, has number (key, other) ↔ other = value)
    (elsewhere : ∀ factory entry, ¬(factory = number ∧ entry.1 = key) →
      (had factory entry ↔ has factory entry)) :
    Lists keyed (before.modify number change) has := by
  apply lists.modify
  · intro factory nodup members
    have absent : (key, value) ∉ Keyed.erase (keyed factory) key :=
      fun member => (Keyed.mem_erase.mp member).2 rfl
    rw [puts]
    refine ⟨List.nodup_cons.mpr ⟨absent, nodup.filter _⟩, ?_⟩
    rintro ⟨asked, other⟩
    simp only [Keyed.insert, List.mem_cons, Keyed.mem_erase, members]
    by_cases here : asked = key
    · subst here
      simp [replaced]
    · simp [here, elsewhere]
  · exact fun other differs entry => elsewhere other entry fun same => differs same.1

/-- One factory removes what it has under a key. -/
theorem take (lists : Lists keyed before had) (number : Nat) (key : κ)
    {change : Factory → Factory}
    (takes : ∀ factory, keyed (change factory) = Keyed.erase (keyed factory) key)
    (nothing : ∀ value, ¬has number (key, value))
    (elsewhere : ∀ factory entry, ¬(factory = number ∧ entry.1 = key) →
      (had factory entry ↔ has factory entry)) :
    Lists keyed (before.modify number change) has := by
  apply lists.modify
  · intro factory nodup members
    rw [takes]
    refine ⟨nodup.filter _, ?_⟩
    rintro ⟨asked, value⟩
    rw [Keyed.mem_erase, members]
    by_cases here : asked = key
    · subst here
      simp [nothing]
    · simp [here, elsewhere]
  · exact fun other differs entry => elsewhere other entry fun same => differs same.1

end Lists

namespace Multiplexer

/-- Every creation was made by a factory that exists. -/
def KnowsCreators (mux : Multiplexer) (creations : List Creation) : Prop :=
  ∀ creation ∈ creations, creation.factory < mux.factories.size

/-- Factories never disappear. -/
theorem KnowsCreators.mono {mux after : Multiplexer} {creations : List Creation}
    (creators : mux.KnowsCreators creations) (more : mux.factories.size ≤ after.factories.size) :
    after.KnowsCreators creations :=
  fun creation member => Nat.lt_of_lt_of_le (creators creation member) more

/-- The entry that a factory should have for a port. -/
def ServerListed (creations : List Creation) (isOpen : Nat → Bool) (forgotten : List Nat)
    (factory : Nat) (entry : Port × Nat) : Prop :=
  lastRegistered? creations factory entry.1 = some entry.2 ∧ isOpen entry.2 ∧
    entry.2 ∉ forgotten

/-- Factories list their open listeners, but for those that are forgotten already. -/
structure ListsServers (mux : Multiplexer) (creations : List Creation) (forgotten : List Nat) :
    Prop where
  records : mux.Records creations
  creators : mux.KnowsCreators creations
  lists : Lists Factory.servers mux.factories (ServerListed creations mux.hasOpen forgotten)

/-- A listener that was closed is not open, and all others are as before. -/
theorem hasOpen_closed (mux : Multiplexer) (number other : Nat) :
    hasOpen { mux with listeners := mux.listeners.modify number MuxListener.closed } other =
      (mux.hasOpen other && number != other) := by
  unfold hasOpen
  rw [Table.get?_modify]
  by_cases asked : number = other
  · subst asked
    cases mux.listeners.get? number <;> simp [MuxListener.closed]
  · cases mux.listeners.get? other <;> simp [asked]

/-- A new listener is open, and all others are as before. -/
theorem hasOpen_enlist (mux : Multiplexer) (host : Host) {listener : MuxListener}
    (isOpen : listener.isClosed = false) (number : Nat) :
    (mux.enlist host listener).hasOpen number =
      (number == mux.listeners.size || mux.hasOpen number) := by
  unfold hasOpen enlist
  rw [Table.get?_add]
  by_cases asked : number = mux.listeners.size
  · simp [asked, isOpen]
  · simp [asked]

theorem size_factories_enlist (mux : Multiplexer) (host : Host) (listener : MuxListener) :
    (mux.enlist host listener).factories.size = mux.factories.size := by
  unfold enlist
  simp only
  split
  · exact Table.size_modify _ _ _
  · rfl

/-- The listener that was registered last belongs to its factory and port. -/
theorem Records.listener_of_lastRegistered {mux : Multiplexer} {creations : List Creation}
    (records : mux.Records creations) {factory : Nat} {port : Port} {number : Nat}
    (last : lastRegistered? creations factory port = some number) :
    ∃ listener, mux.listeners.get? number = some listener ∧ listener.factory = factory ∧
      listener.port = port ∧ listener.registered := by
  obtain ⟨creation, member, rfl, rfl, registered, made⟩ := creation_of_lastRegistered last
  obtain ⟨listener, found, origin⟩ := records.listener_of_creation member made
  obtain ⟨factory_eq, port_eq, -, registered_eq⟩ := Origin.mk.inj origin
  exact ⟨listener, found, factory_eq, port_eq, registered_eq.trans registered⟩

namespace ListsServers

variable {mux : Multiplexer} {creations : List Creation} {forgotten others : List Nat}

/-- Whatever leaves the listeners and the entries alone keeps the lists. -/
theorem same (lists : mux.ListsServers creations forgotten) {after : Multiplexer}
    (listeners : after.listeners = mux.listeners)
    (entries : SameEntries Factory.servers mux.factories after.factories) :
    after.ListsServers creations forgotten := by
  have origins : after.origins = mux.origins := by
    unfold origins
    rw [listeners]
  have isOpen : after.hasOpen = mux.hasOpen := by
    unfold hasOpen
    rw [listeners]
  refine ⟨?_, ?_, ?_⟩
  · exact lists.records.trans (congrArg List.reverse origins.symm)
  · exact lists.creators.mono entries.size
  · apply lists.lists.same entries
    · rintro number ⟨port, listener⟩ ⟨last, -, -⟩
      obtain ⟨creation, member, made_by, -, -, -⟩ := creation_of_lastRegistered last
      exact made_by ▸ lists.creators creation member
    · intro number entry
      rw [isOpen]

/-- An end of a listener that is not there or already closed changes no demand. -/
theorem unchanged (lists : mux.ListsServers creations forgotten) {number : Nat}
    (shut : ∀ listener, mux.listeners.get? number = some listener → listener.isClosed = true)
    (apart : ∀ other, other ≠ number → (other ∈ forgotten ↔ other ∈ others)) :
    mux.ListsServers creations others := by
  have closed : mux.hasOpen number = false := by
    unfold hasOpen
    cases found : mux.listeners.get? number with
    | none => rfl
    | some listener => simp [shut listener found]
  refine ⟨lists.records, lists.creators, lists.lists.congr fun factory entry => ?_⟩
  unfold ServerListed
  by_cases asked : entry.2 = number
  · simp [asked, closed]
  · rw [apart entry.2 asked]

/-- A listener is only ever listed by its own factory, under its own port. -/
theorem own (lists : mux.ListsServers creations forgotten) {factory : Nat} {entry : Port × Nat}
    {listener : MuxListener} (found : mux.listeners.get? entry.2 = some listener)
    (listed : ServerListed creations mux.hasOpen forgotten factory entry) :
    factory = listener.factory ∧ entry = (listener.port, entry.2) ∧ listener.registered := by
  obtain ⟨row, row_found, factory_eq, port_eq, registered⟩ :=
    lists.records.listener_of_lastRegistered listed.1
  cases found.symm.trans row_found
  exact ⟨factory_eq.symm, by rw [port_eq], registered⟩

/-- The end of an open listener takes its own entry, and no other, off its factory. -/
theorem ended (lists : mux.ListsServers creations forgotten) {number : Nat}
    {listener : MuxListener} (found : mux.listeners.get? number = some listener)
    (apart : ∀ other, other ≠ number → (other ∈ forgotten ↔ other ∈ others)) :
    ListsServers { mux with
      listeners := mux.listeners.modify number MuxListener.closed
      factories := mux.factoriesWithout number listener } creations others := by
  have demand : ∀ factory entry,
      ServerListed creations (fun other => mux.hasOpen other && number != other) others
        factory entry ↔
      ServerListed creations mux.hasOpen forgotten factory entry ∧ entry.2 ≠ number := by
    intro factory entry
    unfold ServerListed
    by_cases asked : entry.2 = number
    · simp [asked]
    · rw [apart entry.2 asked]
      simp [asked, Ne.symm asked]
  have isOpen : hasOpen { mux with
      listeners := mux.listeners.modify number MuxListener.closed
      factories := mux.factoriesWithout number listener } =
        fun other => mux.hasOpen other && number != other :=
    funext fun other => mux.hasOpen_closed number other
  refine ⟨lists.records.closed number, lists.creators.mono ?_, ?_⟩
  · unfold factoriesWithout
    split
    · exact Nat.le_of_eq (Table.size_modify _ _ _).symm
    · exact Nat.le_refl _
  · rw [isOpen]
    unfold factoriesWithout
    split
    · refine lists.lists.remove _ (fun _ => rfl) fun factory entry => ?_
      rw [demand]
      refine and_congr_right fun listed => not_congr ⟨?_, fun same => by rw [same.2]⟩
      rintro rfl
      obtain ⟨factory_eq, entry_eq, -⟩ := lists.own found listed
      exact ⟨factory_eq, entry_eq⟩
    · next unregistered =>
      refine lists.lists.congr fun factory entry => ?_
      rw [demand]
      refine ⟨fun listed => ⟨listed, ?_⟩, And.left⟩
      rintro rfl
      exact unregistered (lists.own found listed).2.2

/-- A creation that made nothing changes no demand. -/
theorem skip (lists : mux.ListsServers creations forgotten) {creation : Creation}
    (failed : creation.listener = none) (known : creation.factory < mux.factories.size) :
    mux.ListsServers (creation :: creations) forgotten := by
  refine ⟨lists.records.skip failed, List.forall_mem_cons.mpr ⟨known, lists.creators⟩, ?_⟩
  unfold ServerListed
  rw [lastRegistered?_cons_of_failed failed]
  exact lists.lists

/-- A new listener takes the place of the one that was registered before it. -/
theorem enlisted (lists : mux.ListsServers creations forgotten) (host : Host)
    {listener : MuxListener} {creation : Creation}
    (made : creation.listener = some mux.listeners.size)
    (origin : listener.origin =
      ⟨creation.factory, creation.port, creation.issuer, creation.isRegistered⟩)
    (known : creation.factory < mux.factories.size)
    (isOpen : listener.isClosed = false)
    (apart : ∀ number ∈ forgotten, number < mux.listeners.size) :
    (mux.enlist host listener).ListsServers (creation :: creations) forgotten := by
  obtain ⟨factory_eq, port_eq, -, registered_eq⟩ := Origin.mk.inj origin
  have last : ∀ factory port, lastRegistered? (creation :: creations) factory port =
      if listener.factory = factory ∧ listener.port = port ∧ listener.registered then
        some mux.listeners.size
      else lastRegistered? creations factory port := by
    rw [factory_eq, port_eq, registered_eq]
    exact lastRegistered?_cons made
  have nowOpen := mux.hasOpen_enlist host isOpen
  -- What was registered earlier is an old listener, so it is open now if it was before.
  have elsewhere : ∀ factory entry,
      ¬(listener.factory = factory ∧ listener.port = entry.1 ∧ listener.registered) →
        (ServerListed creations mux.hasOpen forgotten factory entry ↔
          ServerListed (creation :: creations) (mux.enlist host listener).hasOpen forgotten
            factory entry) := by
    intro factory entry other
    unfold ServerListed
    rw [last, if_neg other, nowOpen]
    refine and_congr_right fun earlier => ?_
    obtain ⟨row, found, -⟩ := lists.records.listener_of_lastRegistered earlier
    have below := (List.getElem?_eq_some_iff.mp found).1
    have differs : entry.2 ≠ mux.listeners.size := Nat.ne_of_lt below
    simp [differs]
  refine ⟨lists.records.add made origin, List.forall_mem_cons.mpr ⟨?_, ?_⟩, ?_⟩
  · rwa [size_factories_enlist]
  · exact lists.creators.mono (Nat.le_of_eq (mux.size_factories_enlist host listener).symm)
  have factories_eq : (mux.enlist host listener).factories =
      if listener.registered then
        mux.factories.modify listener.factory fun factory =>
          factory.registerServer listener.port mux.listeners.size
      else mux.factories := rfl
  rw [factories_eq]
  split
  · next registered =>
    refine lists.lists.put _ _ _ (fun _ => rfl) ?_ ?_
    · intro other
      unfold ServerListed
      rw [last, if_pos ⟨rfl, rfl, registered⟩, nowOpen]
      constructor
      · exact fun listed => (Option.some.inj listed.1).symm
      · rintro rfl
        exact ⟨rfl, by simp, fun member => Nat.lt_irrefl _ (apart _ member)⟩
    · exact fun factory entry other =>
        elsewhere factory entry fun same => other ⟨same.1.symm, same.2.1.symm⟩
  · next unregistered =>
    exact lists.lists.congr fun factory entry =>
      elsewhere factory entry fun same => unregistered same.2.2

/-- A close of a listener that the factory has forgotten, or of any other one. -/
theorem closeListener (lists : mux.ListsServers creations forgotten) (number : Nat)
    (apart : ∀ other, other ≠ number → (other ∈ forgotten ↔ other ∈ others)) :
    (mux.closeListener number).2.ListsServers creations others := by
  obtain ⟨shut, unchanged⟩ | ⟨listener, pools, assigners, found, isOpen, after⟩ :=
    mux.closeListener_cases number
  · rw [unchanged]
    exact lists.unchanged shut apart
  · rw [after]
    exact (lists.ended found apart).same rfl (.refl _)

/-- Closing the forgotten listeners in turn leaves nothing forgotten. -/
theorem closeListeners {listeners : List Nat} (lists : mux.ListsServers creations listeners) :
    (mux.closeListeners listeners).2.ListsServers creations [] := by
  induction listeners generalizing mux with
  | nil => exact lists
  | cons listener rest inductionHypothesis =>
    refine inductionHypothesis (lists.closeListener listener fun other differs => ?_)
    simp [differs]

theorem closeClient (lists : mux.ListsServers creations forgotten) (number : Nat) :
    (mux.closeClient number).ListsServers creations forgotten := by
  obtain ⟨-, unchanged⟩ | ⟨client, -, -, after⟩ := mux.closeClient_cases number
  · rw [unchanged]
    exact lists
  · rw [after]
    exact lists.same rfl (.of_modify _ _ _ fun _ => .refl _)

theorem closeClients (lists : mux.ListsServers creations forgotten) (clients : List Nat) :
    (mux.closeClients clients).ListsServers creations forgotten := by
  induction clients generalizing mux with
  | nil => exact lists
  | cons client rest inductionHypothesis => exact inductionHypothesis (lists.closeClient client)

/-- A change that leaves the entries of a factory alone. -/
theorem modifyFactory (lists : mux.ListsServers creations forgotten) (number : Nat)
    (change : Factory → Factory) (kept : ∀ factory, (change factory).servers = factory.servers) :
    (mux.modifyFactory number change).ListsServers creations forgotten :=
  lists.same rfl (.of_modify _ _ _ fun factory => .of_eq (kept factory))

theorem withdraw (lists : mux.ListsServers creations forgotten) (number : Nat) :
    (mux.withdraw number).ListsServers creations forgotten := by
  obtain ⟨coordinators, after⟩ := mux.withdraw_eq number
  rw [after]
  exact lists.same rfl (.of_modify _ _ _ fun _ => .refl _)

/-- A factory that forgets its listeners has them all in the list. -/
theorem forgetServers (lists : mux.ListsServers creations []) {number : Nat} {factory : Factory}
    (found : mux.factories.get? number = some factory) (change : Factory → Factory)
    (emptied : ∀ factory, (change factory).servers = []) :
    (mux.modifyFactory number change).ListsServers creations (factory.servers.map Prod.snd) := by
  have members := (lists.lists number factory found).2
  -- Other factories miss nothing, since a listener is the last one of one factory at most.
  refine ⟨lists.records, lists.creators.mono ?_, lists.lists.forget number emptied ?_ ?_⟩
  · exact Nat.le_of_eq (Table.size_modify _ _ _).symm
  · rintro entry ⟨last, isOpen, remembered⟩
    have listed := (members entry).mpr ⟨last, isOpen, List.not_mem_nil⟩
    exact remembered (List.mem_map_of_mem listed)
  · rintro other elsewhere ⟨port, listener⟩
    refine and_congr_right fun last => and_congr_right fun isOpen => ?_
    refine iff_of_true List.not_mem_nil fun forgotten => ?_
    obtain ⟨entry, listed, rfl⟩ := List.mem_map.mp forgotten
    obtain ⟨row, row_found, row_factory, -, -⟩ := lists.records.listener_of_lastRegistered last
    obtain ⟨same, same_found, same_factory, -, -⟩ :=
      lists.records.listener_of_lastRegistered ((members entry).mp listed).1
    cases row_found.symm.trans same_found
    exact elsewhere (row_factory.symm.trans same_factory)

theorem closeFactory (lists : mux.ListsServers creations []) (number : Nat) :
    (mux.closeFactory number).2.ListsServers creations [] := by
  unfold Multiplexer.closeFactory
  split
  · exact lists
  · next factory found =>
    have forgotten := lists.forgetServers found
      (fun state => { state with credentials := .empty, authority := none, servers := [] })
      fun _ => rfl
    have unregistered := forgotten.closeListeners.modifyFactory number
      (fun state => { state with clients := [] }) fun _ => rfl
    exact (unregistered.closeClients _).withdraw number

end ListsServers

/-- A call for a server registers what it makes. -/
theorem Creates.listsServers {mux after : Multiplexer} {number : Nat} {factory : Factory}
    {creation : Option Creation} {creations : List Creation}
    (creates : Creates mux number factory creation after)
    (found : mux.factories.get? number = some factory)
    (lists : mux.ListsServers creations []) :
    after.ListsServers (creation.toList ++ creations) [] := by
  have remembered : ∀ remember, Remembers remember →
      SameEntries Factory.servers mux.factories (mux.factories.modify number remember) :=
    fun _ remembers => .of_remembers _ _ remembers fun _ _ => rfl
  have prepares : ∀ {port bound : Port} {issuer : Option Nat} {ready : Multiplexer},
      mux.prepare number factory port = (some (issuer, bound), ready) →
        ready.ListsServers creations [] ∧ ready.listeners = mux.listeners ∧
          number < ready.factories.size := by
    intro port bound issuer ready prepared
    obtain ⟨pools, assigners, remember, remembers, rfl⟩ := ready_eq prepared
    refine ⟨lists.same rfl (remembered _ remembers), rfl, ?_⟩
    rw [Table.size_modify]
    exact (List.getElem?_eq_some_iff.mp found).1
  cases creates with
  | nothing remembers => exact lists.same rfl (remembered _ remembers)
  | @failed port bound issuer ready err host prepared unbound =>
    obtain ⟨readyLists, -, known⟩ := prepares prepared
    obtain ⟨pools, assigners, refunded⟩ := refund_eq { ready with host } issuer bound
    rw [refunded]
    exact (readyLists.skip rfl known).same rfl (.refl _)
  | @made port bound issuer ready socket host prepared bind =>
    obtain ⟨readyLists, listeners, known⟩ := prepares prepared
    rw [← listeners]
    exact readyLists.enlisted host rfl rfl known rfl nofun

/-- Every action keeps the lists. -/
theorem ListsServers.perform {mux : Multiplexer} {creations : List Creation}
    (lists : mux.ListsServers creations []) (action : Action) :
    (mux.perform action).ListsServers
      ((Moment.creation? ⟨mux, action⟩).toList ++ creations) [] := by
  by_cases quiet : action.isQuiet = true
  · obtain ⟨_, _, _, _, _, _, _, _, registries, after⟩ := mux.perform_quiet quiet
    rw [after, Moment.creation?_of_quiet mux quiet]
    exact lists.same rfl registries.servers
  cases action with
  | createServer number port =>
    cases found : mux.factories.get? number with
    | none =>
      simp only [Moment.creation?, Multiplexer.perform, createServer, found]
      exact lists
    | some factory => exact (createServer_creates port found).listsServers found lists
  | createClient number key =>
    obtain ⟨err, host, -, after⟩ | ⟨credentials, file, connection, host, -, -, after⟩ :=
      mux.createClient_cases number key
    · simp only [Multiplexer.perform, after]
      exact lists.same rfl (.refl _)
    · simp only [Multiplexer.perform, after]
      exact lists.same rfl (.of_modify _ _ _ fun _ => .refl _)
  | createClientShort number key shortage =>
    obtain ⟨host, forget, forgets, -, after⟩ := mux.createClient_short number key shortage
    simp only [Multiplexer.perform, after]
    exact lists.same rfl (.of_forgets _ _ forgets fun _ _ => rfl)
  | closeListener number => exact lists.closeListener number fun _ _ => .rfl
  | dropListener number hasTasks =>
    obtain ⟨-, unchanged⟩ | ⟨listener, found, -, after⟩ := mux.dropListener_cases number hasTasks
    · simp only [Multiplexer.perform, unchanged]
      exact lists
    · simp only [Multiplexer.perform, after]
      exact (lists.ended found fun _ _ => .rfl).same rfl (.refl _)
  | closeClient number => exact lists.closeClient number
  | dropClient number =>
    obtain ⟨host, -, after⟩ := mux.dropClient_eq number
    simp only [Multiplexer.perform, after]
    exact (lists.closeClient number).same rfl (.refl _)
  | closeFactory number => exact lists.closeFactory number
  | dropFactory number =>
    exact (lists.withdraw number).modifyFactory number
      (fun state => { state with isHeld := false }) fun _ => rfl
  | shutDownAll coordinator =>
    apply shutDownAll_induction (motive := fun mux => mux.ListsServers creations []) _ _ lists
    · exact fun number lists => lists.closeFactory number
    · exact fun _ lists => lists.same rfl (.refl _)
  | returnOne index =>
    obtain unchanged | ⟨entry, pools, assigners, -, after⟩ := mux.returnOne_cases index
    · simp only [Multiplexer.perform, unchanged]
      exact lists
    · simp only [Multiplexer.perform, after]
      exact lists.same rfl (.refl _)
  | _ => exact absurd rfl quiet

end Multiplexer

/-- In every run factories list their open listeners. -/
theorem Run.listsServers {host : Host} {own : PeerCredentials} {history : History}
    {mux : Multiplexer} (run : Run (.initial host own) history mux) :
    mux.ListsServers history.creations [] := by
  induction run with
  | nothing =>
    refine ⟨rfl, nofun, fun number factory found => ?_⟩
    simp [Multiplexer.initial, Table.get?, Table.empty] at found
  | more _ action inductionHypothesis =>
    rw [History.creations_cons]
    exact inductionHypothesis.perform action

end SocketMux
