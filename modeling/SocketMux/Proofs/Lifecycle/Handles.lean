import SocketMux.Proofs.Lifecycle.Belongings

/-!
# Handles of factories

A factory is used through handles. Whoever makes it has the first one, each may be cloned, and
the last one that is released lets go of the factory. A coordinator counts the factories that
were built with it and that still have a handle, were never closed and never shut down
(`Uses.accounts`); a shutdown closes these factories with their endpoints and nothing else
(`Uses.answersFor`).
-/

namespace SocketMux

/-- What can be done where factories are used through handles. -/
inductive Use where
  /-- Any action. A factory that is made has one handle; one that is dropped has none left. -/
  | perform (action : Action)
  /-- Make another handle from one that is there. -/
  | clone (factory : Nat)
  /-- Let go of a handle, and with the last one of the factory. -/
  | release (factory : Nat)

/-- A multiplexer together with the handles of its factories. -/
structure Holding where
  mux : Multiplexer
  /-- The factory of each handle. -/
  handles : List Nat

namespace Holding

/-- The state in which nothing was made. -/
def initial (host : Host) (own : PeerCredentials) : Holding := ⟨.initial host own, []⟩

/-- The handles that are left after an action. -/
def handlesAfter (holding : Holding) : Action → List Nat
  | .makeFactory .. => holding.mux.factories.size :: holding.handles
  | .dropFactory factory => holding.handles.filter (· != factory)
  | _ => holding.handles

/-- What a use makes of a multiplexer and its handles. -/
def after (holding : Holding) : Use → Holding
  | .perform action => ⟨holding.mux.perform action, holding.handlesAfter action⟩
  | .clone factory =>
    if factory ∈ holding.handles then { holding with handles := factory :: holding.handles }
    else holding
  | .release factory =>
    let left := holding.handles.erase factory
    if factory ∈ holding.handles ∧ factory ∉ left then ⟨holding.mux.dropFactory factory, left⟩
    else { holding with handles := left }

end Holding

/-- A use together with the state in which it happens. -/
structure Used where
  holding : Holding
  use : Use

/-- What was used, the latest use first. -/
abbrev UseHistory := List Used

/-- A run of uses in turn. -/
inductive Uses (start : Holding) : UseHistory → Holding → Prop where
  | nothing : Uses start [] start
  | more {history : UseHistory} {holding : Holding} (earlier : Uses start history holding)
      (use : Use) : Uses start (⟨holding, use⟩ :: history) (holding.after use)

namespace Used

/-- The factory that is built with a coordinator, which has to be there. -/
def builtWith (used : Used) (coordinator : Nat) : List Nat :=
  match used.use with
  | .perform (.makeFactory _ _ _ (some home)) =>
    if home = coordinator ∧ home < used.holding.mux.coordinators.size then
      [used.holding.mux.factories.size]
    else []
  | _ => []

/-- The factory that is closed explicitly. -/
def closed (used : Used) : List Nat :=
  match used.use with
  | .perform (.closeFactory factory) =>
    if factory < used.holding.mux.factories.size then [factory] else []
  | _ => []

/-- The factories that are run by a shutdown. -/
def shutDown (used : Used) : List Nat :=
  match used.use with
  | .perform (.shutDownAll coordinator) => used.holding.mux.liveWith coordinator
  | _ => []

end Used

namespace UseHistory

/-- All factories that were built with a coordinator. -/
def builtWith (history : UseHistory) (coordinator : Nat) : List Nat :=
  history.flatMap fun used => used.builtWith coordinator

/-- All factories that were closed explicitly. -/
def closed (history : UseHistory) : List Nat := history.flatMap Used.closed

/-- All factories that were run by a shutdown. -/
def shutDown (history : UseHistory) : List Nat := history.flatMap Used.shutDown

/-- The factories that were built with a coordinator and still have a handle, were never closed
explicitly and never run by a shutdown. -/
def liveWith (history : UseHistory) (handles : List Nat) (coordinator : Nat) : List Nat :=
  (history.builtWith coordinator).filter fun number =>
    number ∈ handles ∧ number ∉ history.closed ∧ number ∉ history.shutDown

end UseHistory

namespace Multiplexer

/-- The coordinator that a factory is registered with. -/
def home? (mux : Multiplexer) (number : Nat) : Option Nat :=
  (mux.registration? number).map Prod.fst

variable {mux : Multiplexer}

theorem home?_eq_some {coordinator number : Nat} : mux.home? number = some coordinator ↔
    ∃ id, mux.registration? number = some (coordinator, id) := by
  unfold home?
  rw [Option.map_eq_some_iff]
  constructor
  · rintro ⟨⟨_, id⟩, registered, rfl⟩
    exact ⟨id, registered⟩
  · rintro ⟨id, registered⟩
    exact ⟨_, registered, rfl⟩

theorem mem_map_enrolledWith {coordinator number : Nat} :
    number ∈ (mux.enrolledWith coordinator).map Prod.snd ↔
      mux.home? number = some coordinator := by
  rw [home?_eq_some, List.mem_map]
  constructor
  · rintro ⟨⟨id, _⟩, member, rfl⟩
    exact ⟨id, mem_enrolledWith.mp member⟩
  · rintro ⟨id, registered⟩
    exact ⟨(id, number), mem_enrolledWith.mpr registered, rfl⟩

/-- A factory that is made is registered with the coordinator that it is given, if that is there. -/
theorem home?_makeFactory (mux : Multiplexer) (profile : FactoryProfile) (naming : Naming)
    (transport : Transport) (coordinator : Option Nat) (number : Nat) :
    (mux.makeFactory profile naming transport coordinator).2.home? number =
      if number = mux.factories.size then
        coordinator.filter fun home => home < mux.coordinators.size
      else mux.home? number := by
  unfold home?
  rcases mux.makeFactory_cases profile naming transport coordinator with
    ⟨home, state, rfl, found, after⟩ | ⟨absent, after⟩
  · have there : home < mux.coordinators.size := (List.getElem?_eq_some_iff.mp found).1
    rw [after, registration?_add rfl]
    split
    · simp [Option.filter, there]
    · rfl
  · rw [after, registration?_add rfl]
    split
    · cases coordinator with
      | none => rfl
      | some home =>
        have beyond : mux.coordinators.size ≤ home := List.getElem?_eq_none_iff.mp absent
        simp [Option.filter, Nat.not_lt.mpr beyond]
    · rfl

end Multiplexer

namespace Holding

variable {before after : Holding} {history : UseHistory}

/-- Whether registrations are what the history of a multiplexer and its handles tell. -/
structure Accounts (history : UseHistory) (holding : Holding) : Prop where
  homes : ∀ coordinator number, holding.mux.home? number = some coordinator ↔
    number ∈ history.builtWith coordinator ∧ number ∈ holding.handles ∧
      number ∉ history.closed ∧ number ∉ history.shutDown
  /-- No factory is built twice. -/
  once : ∀ coordinator, (history.builtWith coordinator).Nodup
  built : ∀ coordinator, ∀ number ∈ history.builtWith coordinator,
    number < holding.mux.factories.size
  ended : ∀ number ∈ history.closed ++ history.shutDown, number < holding.mux.factories.size
  handled : ∀ number ∈ holding.handles, number < holding.mux.factories.size

namespace Accounts

/-- A registered factory has a handle. -/
theorem hasHandle (accounts : before.Accounts history) {coordinator number : Nat}
    (registered : before.mux.home? number = some coordinator) : number ∈ before.handles :=
  ((accounts.homes coordinator number).mp registered).2.1

/-- A use that builds no factory takes registrations down where it takes the last handle away,
closes a factory or shuts it down. -/
theorem step (accounts : before.Accounts history) {used : Used}
    (size : after.mux.factories.size = before.mux.factories.size)
    (builds : ∀ coordinator, used.builtWith coordinator = [])
    (fewer : after.handles ⊆ before.handles)
    (ends : ∀ number ∈ used.closed ++ used.shutDown, number < before.mux.factories.size)
    (homes : ∀ coordinator number, after.mux.home? number = some coordinator ↔
      before.mux.home? number = some coordinator ∧ number ∈ after.handles ∧
        number ∉ used.closed ∧ number ∉ used.shutDown) :
    after.Accounts (used :: history) := by
  have same : ∀ coordinator, UseHistory.builtWith (used :: history) coordinator =
      history.builtWith coordinator := by
    intro coordinator
    simp only [UseHistory.builtWith, List.flatMap_cons, builds, List.nil_append]
  have closed : UseHistory.closed (used :: history) = used.closed ++ history.closed := rfl
  have shutDown : UseHistory.shutDown (used :: history) = used.shutDown ++ history.shutDown := rfl
  refine ⟨fun coordinator number => ?_, fun coordinator => ?_, fun coordinator => ?_,
    fun number member => ?_, fun number member => ?_⟩
  · rw [homes, accounts.homes, same, closed, shutDown]
    simp only [List.mem_append, not_or]
    constructor
    · rintro ⟨⟨built, -, notClosed, notShut⟩, handle, closedNot, shutNot⟩
      exact ⟨built, handle, ⟨closedNot, notClosed⟩, shutNot, notShut⟩
    · rintro ⟨built, handle, ⟨closedNot, notClosed⟩, shutNot, notShut⟩
      exact ⟨⟨built, fewer handle, notClosed, notShut⟩, handle, closedNot, shutNot⟩
  · rw [same]
    exact accounts.once coordinator
  · rw [same, size]
    exact accounts.built coordinator
  · rw [size]
    rw [closed, shutDown] at member
    simp only [List.mem_append] at member
    rcases member with (member | member) | member | member
    · exact ends number (List.mem_append_left _ member)
    · exact accounts.ended number (List.mem_append_left _ member)
    · exact ends number (List.mem_append_right _ member)
    · exact accounts.ended number (List.mem_append_right _ member)
  · rw [size]
    exact accounts.handled number (fewer member)

/-- A use after which everybody is registered who was, and has a handle if he had one. -/
theorem unchanged (accounts : before.Accounts history) {used : Used}
    (size : after.mux.factories.size = before.mux.factories.size)
    (builds : ∀ coordinator, used.builtWith coordinator = []) (closed : used.closed = [])
    (shutDown : used.shutDown = []) (handles : ∀ number, number ∈ after.handles ↔
      number ∈ before.handles)
    (homes : ∀ number, after.mux.home? number = before.mux.home? number) :
    after.Accounts (used :: history) := by
  refine accounts.step size builds (fun number => (handles number).mp) ?_
    fun coordinator number => ?_
  · rw [closed, shutDown]
    nofun
  · rw [homes, closed, shutDown, handles]
    simp only [List.not_mem_nil, not_false_eq_true, and_true]
    exact ⟨fun registered => ⟨registered, accounts.hasHandle registered⟩, And.left⟩

/-- Nothing is registered at the start. -/
theorem initial (host : Host) (own : PeerCredentials) : (Holding.initial host own).Accounts [] where
  homes _ _ := ⟨nofun, nofun⟩
  once _ := List.nodup_nil
  built _ _ := nofun
  ended _ := nofun
  handled _ := nofun

/-- A factory that is made has not been heard of. -/
theorem makeFactory (accounts : before.Accounts history) (profile : FactoryProfile)
    (naming : Naming) (transport : Transport) (given : Option Nat) :
    let use := Use.perform (.makeFactory profile naming transport given)
    (before.after use).Accounts (⟨before, use⟩ :: history) := by
  intro use
  have size : (before.after use).mux.factories.size = before.mux.factories.size + 1 :=
    List.length_append
  have notEnded : before.mux.factories.size ∉ history.closed ++ history.shutDown :=
    fun member => Nat.lt_irrefl _ (accounts.ended _ member)
  rw [List.mem_append, not_or] at notEnded
  have built : ∀ coordinator, UseHistory.builtWith (⟨before, use⟩ :: history) coordinator =
      (if given.filter (fun home => home < before.mux.coordinators.size) = some coordinator then
        [before.mux.factories.size] else []) ++ history.builtWith coordinator := by
    intro coordinator
    unfold UseHistory.builtWith
    rw [List.flatMap_cons]
    congr 1
    cases given with
    | none => rfl
    | some home =>
      by_cases same : home = coordinator
      · subst same
        simp [Used.builtWith, use]
      · simp [Used.builtWith, use, same]
  refine ⟨fun coordinator number => ?_, fun coordinator => ?_, fun coordinator number member => ?_,
    fun number member => ?_, fun number member => ?_⟩
  · have home := before.mux.home?_makeFactory profile naming transport given number
    have handles : number ∈ (before.after use).handles ↔
        number = before.mux.factories.size ∨ number ∈ before.handles := List.mem_cons
    rw [built, handles]
    change (before.mux.makeFactory profile naming transport given).2.home? number = _ ↔ _ ∧ _ ∧
      number ∉ history.closed ∧ number ∉ history.shutDown
    rw [home]
    by_cases new : number = before.mux.factories.size
    · have notBuilt : number ∉ history.builtWith coordinator := fun member =>
        Nat.lt_irrefl _ (new ▸ accounts.built coordinator number member)
      subst new
      simp [notBuilt, notEnded]
    · rw [if_neg new, accounts.homes]
      simp [new]
  · rw [built]
    split
    · exact List.nodup_cons.mpr ⟨fun member => Nat.lt_irrefl _ (accounts.built coordinator _ member),
        accounts.once coordinator⟩
    · exact accounts.once coordinator
  · rw [size]
    rw [built, List.mem_append] at member
    rcases member with new | old
    · split at new
      · rw [List.mem_singleton.mp new]
        exact Nat.lt_succ_self _
      · cases new
    · exact Nat.lt_succ_of_lt (accounts.built coordinator number old)
  · rw [size]
    exact Nat.lt_succ_of_lt (accounts.ended number member)
  · rw [size]
    rcases List.mem_cons.mp member with rfl | old
    · exact Nat.lt_succ_self _
    · exact Nat.lt_succ_of_lt (accounts.handled number old)

/-- A registered factory is there. -/
theorem home?_of_absent (accounts : before.Accounts history) {number : Nat}
    (absent : before.mux.factories.size ≤ number) : before.mux.home? number = none := by
  cases home : before.mux.home? number with
  | none => rfl
  | some coordinator =>
    have there := accounts.handled number (accounts.hasHandle home)
    omega

/-- A factory of which nobody has a handle any more is taken off its coordinator. -/
theorem dropFactory (accounts : before.Accounts history) {used : Used} {factory : Nat}
    {handles : List Nat} (handled : ∀ number, number ∈ handles ↔
      number ∈ before.handles ∧ number ≠ factory)
    (builds : ∀ coordinator, used.builtWith coordinator = []) (closed : used.closed = [])
    (shutDown : used.shutDown = []) :
    Accounts (used :: history) ⟨before.mux.dropFactory factory, handles⟩ := by
  refine accounts.step ((Multiplexer.keptByClosing_size _).dropFactory rfl factory) builds
    (fun number member => ((handled number).mp member).1) ?_ fun coordinator number => ?_
  · rw [closed, shutDown]
    nofun
  · have home : (before.mux.dropFactory factory).home? number =
        if number = factory then none else before.mux.home? number := by
      unfold Multiplexer.home?
      rw [Multiplexer.registration?_dropFactory]
      split <;> rfl
    rw [home, closed, shutDown, handled]
    by_cases same : number = factory
    · simp [same]
    · simp only [same, if_false, List.not_mem_nil, not_false_eq_true, and_true, ne_eq]
      exact ⟨fun registered => ⟨registered, accounts.hasHandle registered⟩, And.left⟩

/-- The close of a factory takes it off its coordinator. -/
theorem closeFactory (accounts : before.Accounts history) (factory : Nat) :
    let use := Use.perform (.closeFactory factory)
    (before.after use).Accounts (⟨before, use⟩ :: history) := by
  intro use
  have closed : Used.closed ⟨before, use⟩ =
      if factory < before.mux.factories.size then [factory] else [] := rfl
  refine accounts.step ((Multiplexer.keptByClosing_size _).closeFactory rfl factory)
    (fun _ => rfl) (fun _ => id) (fun number member => ?_) fun coordinator number => ?_
  · rw [List.mem_append, closed] at member
    rcases member with member | member
    · split at member
      · next there => rwa [List.mem_singleton.mp member]
      · cases member
    · cases member
  · have home : (before.after use).mux.home? number =
        if number = factory then none else before.mux.home? number := by
      unfold Multiplexer.home?
      change Option.map _ ((before.mux.closeFactory factory).2.registration? number) = _
      rw [Multiplexer.registration?_closeFactory]
      split <;> rfl
    have handles : (before.after use).handles = before.handles := rfl
    have shutDown : Used.shutDown ⟨before, use⟩ = [] := rfl
    rw [home, closed, handles, shutDown]
    by_cases same : number = factory
    · subst same
      by_cases there : number < before.mux.factories.size
      · simp [there]
      · simp [accounts.home?_of_absent (Nat.not_lt.mp there)]
    · have spared : number ∉ if factory < before.mux.factories.size then [factory] else [] := by
        split <;> simp [same]
      rw [if_neg same]
      exact ⟨fun registered => ⟨registered, accounts.hasHandle registered, spared, List.not_mem_nil⟩,
        And.left⟩

/-- A shutdown takes all factories off the coordinator that it runs. -/
theorem shutDownAll (accounts : before.Accounts history)
    (enrolled : before.mux.Enrolled Multiplexer.noEntries) (coordinator : Nat) :
    let use := Use.perform (.shutDownAll coordinator)
    (before.after use).Accounts (⟨before, use⟩ :: history) := by
  intro use
  have shutDown : Used.shutDown ⟨before, use⟩ =
      (before.mux.enrolledWith coordinator).map Prod.snd := enrolled.liveWith_eq coordinator
  refine accounts.step ((Multiplexer.keptByClosing_size _).shutDownAll rfl coordinator)
    (fun _ => rfl) (fun _ => id) (fun number member => ?_) fun other number => ?_
  · rw [shutDown] at member
    have home := Multiplexer.mem_map_enrolledWith.mp member
    exact accounts.handled number (accounts.hasHandle home)
  · have home : (before.after use).mux.home? number =
        if number ∈ (before.mux.enrolledWith coordinator).map Prod.snd then none
        else before.mux.home? number := by
      unfold Multiplexer.home?
      change Option.map _ ((before.mux.shutDownAll coordinator).2.registration? number) = _
      rw [(enrolled.shutDownAll coordinator).2]
      split <;> rfl
    have handles : (before.after use).handles = before.handles := rfl
    have closed : Used.closed ⟨before, use⟩ = [] := rfl
    rw [home, closed, handles, shutDown]
    split
    · next run => simp [run]
    · next spared =>
      exact ⟨fun registered => ⟨registered, accounts.hasHandle registered, List.not_mem_nil, spared⟩,
        And.left⟩

/-- Every use keeps the account. -/
theorem use (accounts : before.Accounts history)
    (enrolled : before.mux.Enrolled Multiplexer.noEntries) (use : Use) :
    (before.after use).Accounts (⟨before, use⟩ :: history) := by
  cases use with
  | clone factory =>
    simp only [Holding.after]
    split
    · next there =>
      refine accounts.unchanged rfl (fun _ => rfl) rfl rfl (fun number => ?_) fun _ => rfl
      rw [List.mem_cons]
      exact ⟨fun member => member.elim (fun same => same ▸ there) id, .inr⟩
    · exact accounts.unchanged rfl (fun _ => rfl) rfl rfl (fun _ => .rfl) fun _ => rfl
  | release factory =>
    have erased : ∀ number, number ≠ factory →
        (number ∈ before.handles.erase factory ↔ number ∈ before.handles) :=
      fun number apart => List.mem_erase_of_ne apart
    simp only [Holding.after]
    split
    · next last =>
      refine accounts.dropFactory (fun number => ?_) (fun _ => rfl) rfl rfl
      by_cases same : number = factory
      · simp [same, last.2]
      · simp [same, erased number same]
    · next more =>
      refine accounts.unchanged rfl (fun _ => rfl) rfl rfl (fun number => ?_) fun _ => rfl
      by_cases same : number = factory
      · subst same
        exact ⟨List.mem_of_mem_erase, fun member => by_contra fun gone => more ⟨member, gone⟩⟩
      · exact erased number same
  | perform action =>
    by_cases other : action.isEnrolling = false
    · have same := before.mux.perform_sameEnrolment other
      have homes : ∀ number, (before.mux.perform action).home? number =
          before.mux.home? number := by
        intro number
        unfold Multiplexer.home?
        rw [same.registration?]
      cases action with
      | makeCoordinator | countLive | makeFactory | closeFactory | dropFactory | shutDownAll =>
        cases other
      | _ => exact accounts.unchanged same.size (fun _ => rfl) rfl rfl (fun _ => .rfl) homes
    cases action with
    | makeFactory profile naming transport coordinator =>
      exact accounts.makeFactory profile naming transport coordinator
    | closeFactory factory => exact accounts.closeFactory factory
    | shutDownAll coordinator => exact accounts.shutDownAll enrolled coordinator
    | dropFactory factory =>
      refine accounts.dropFactory (fun number => ?_) (fun _ => rfl) rfl rfl
      simp [Holding.handlesAfter]
    | makeCoordinator =>
      exact accounts.unchanged rfl (fun _ => rfl) rfl rfl (fun _ => .rfl) fun _ => rfl
    | countLive coordinator =>
      have same : before.mux.perform (.countLive coordinator) = before.mux :=
        congrArg Prod.snd (enrolled.countLive_eq coordinator)
      simp only [Holding.after, same]
      exact accounts.unchanged rfl (fun _ => rfl) rfl rfl (fun _ => .rfl) fun _ => rfl
    | _ => exact absurd rfl other

end Accounts

end Holding

/-- Uses are actions as far as the multiplexer is concerned. -/
theorem Uses.run {host : Host} {own : PeerCredentials} {history : UseHistory} {holding : Holding}
    (uses : Uses (.initial host own) history holding) :
    ∃ moments, Run (.initial host own) moments holding.mux := by
  induction uses with
  | nothing => exact ⟨[], .nothing⟩
  | @more history holding _ use inductionHypothesis =>
    obtain ⟨moments, run⟩ := inductionHypothesis
    cases use with
    | perform action => exact ⟨_, run.more action⟩
    | clone factory =>
      simp only [Holding.after]
      split <;> exact ⟨moments, run⟩
    | release factory =>
      simp only [Holding.after]
      split
      · exact ⟨_, run.more (.dropFactory factory)⟩
      · exact ⟨moments, run⟩

/-- No use takes a factory away. -/
theorem Holding.size_le_after (holding : Holding) (use : Use) :
    holding.mux.factories.size ≤ (holding.after use).mux.factories.size := by
  cases use with
  | perform action => exact holding.mux.size_le_perform action
  | clone factory =>
    simp only [Holding.after]
    split <;> exact Nat.le_refl _
  | release factory =>
    simp only [Holding.after]
    split
    · exact holding.mux.size_le_perform (.dropFactory factory)
    · exact Nat.le_refl _

/-- In every run coordinators list what the history and the handles tell. -/
theorem Uses.accounts {host : Host} {own : PeerCredentials} {history : UseHistory}
    {holding : Holding} (uses : Uses (.initial host own) history holding)
    (few : holding.mux.factories.size < UInt64.size) : holding.Accounts history := by
  induction uses with
  | nothing => exact .initial host own
  | @more _ holding earlier use inductionHypothesis =>
    obtain ⟨moments, run⟩ := earlier.run
    have fewBefore := Nat.lt_of_le_of_lt (holding.size_le_after use) few
    exact (inductionHypothesis fewBefore).use (run.enrolled fewBefore) use

/-- What a coordinator has to say of the factories that were built with it. -/
structure Holding.AnswersFor (history : UseHistory) (holding : Holding) (coordinator : Nat) :
    Prop where
  /-- Each of the live factories stands once among them. -/
  once : (history.liveWith holding.handles coordinator).Nodup
  /-- The coordinator counts the live factories. -/
  count : (holding.mux.countLive coordinator).1 =
    (history.liveWith holding.handles coordinator).length
  /-- A shutdown closes the live factories with all that is registered with them, and nothing
  else. -/
  shutDown : Multiplexer.ShutsDown (history.liveWith holding.handles coordinator) holding.mux
    (holding.mux.shutDownAll coordinator).2

/-- In every run of uses, in any order, a coordinator counts and shuts down the factories that
were built with it, still have a handle, were never closed and never shut down, as long as fewer
factories were made than a counter of 64 bits has numbers. -/
theorem Uses.answersFor {host : Host} {own : PeerCredentials} {history : UseHistory}
    {holding : Holding} (uses : Uses (.initial host own) history holding)
    (few : holding.mux.factories.size < UInt64.size) (coordinator : Nat) :
    holding.AnswersFor history coordinator := by
  have accounts := uses.accounts few
  obtain ⟨moments, run⟩ := uses.run
  have enrolled := run.enrolled few
  have members : ∀ number, number ∈ history.liveWith holding.handles coordinator ↔
      number ∈ (holding.mux.enrolledWith coordinator).map Prod.snd := by
    intro number
    rw [Multiplexer.mem_map_enrolledWith, accounts.homes, UseHistory.liveWith, List.mem_filter,
      decide_eq_true_iff]
  have once : (history.liveWith holding.handles coordinator).Nodup :=
    (accounts.once coordinator).filter _
  have listedOnce : ((holding.mux.enrolledWith coordinator).map Prod.snd).Nodup :=
    (holding.mux.enrolledWith_ascending coordinator).imp Nat.ne_of_lt
  have perm := (List.perm_ext_iff_of_nodup once listedOnce).mpr members
  refine ⟨once, ?_, ?_⟩
  · rw [enrolled.countLive_eq, perm.length_eq, List.length_map]
  · have shuts := run.shutDownAll_shutsDown few coordinator
    rw [enrolled.liveWith_eq] at shuts
    exact shuts.congr fun number => (members number).symm

namespace Holding

/-- The state after uses in turn. -/
def afterAll (holding : Holding) (uses : List Use) : Holding := uses.foldl after holding

/-- The history of uses in turn, on top of what was used before. -/
def historyOf (holding : Holding) (uses : List Use) (before : UseHistory) : UseHistory :=
  match uses with
  | [] => before
  | use :: others => (holding.after use).historyOf others (⟨holding, use⟩ :: before)

end Holding

/-- A run may go on with any uses. -/
theorem Uses.goOn {start holding : Holding} {before : UseHistory}
    (earlier : Uses start before holding) (uses : List Use) :
    Uses start (holding.historyOf uses before) (holding.afterAll uses) := by
  induction uses generalizing holding before with
  | nil => exact earlier
  | cons use others inductionHypothesis => exact inductionHypothesis (earlier.more use)

/-- Build a factory with a coordinator. -/
def Use.build (coordinator : Nat) : Use :=
  .perform (.makeFactory ⟨⟨[Path.separator], "", ".rmi", false⟩, Port.defaultRegistry, none, none⟩
    (.direct Port.defaultRegistry 0) .plain (some coordinator))

/-- Of five factories built with a coordinator one was cloned and released once, one released
for good, one closed and one run by an earlier shutdown; another coordinator has one, too. -/
theorem Uses.answersFor_cloned :
    let start := Holding.initial .bare ⟨none, 0, 0⟩
    let uses : List Use := [.perform .makeCoordinator, .perform .makeCoordinator, .build 0,
      .perform (.shutDownAll 0), .build 0, .build 0, .build 1, .build 0, .build 0, .clone 1,
      .release 1, .clone 2, .release 2, .release 2, .perform (.closeFactory 4),
      .perform (.createServer 1 110000), .perform (.createServer 3 110001)]
    let holding := start.afterAll uses
    let history := start.historyOf uses []
    history.builtWith 0 = [5, 4, 2, 1, 0] ∧ history.liveWith holding.handles 0 = [5, 1] ∧
      holding.mux.listeners.size = 2 ∧ holding.mux.factories.size = 6 ∧
      holding.AnswersFor history 0 := by
  intro start uses holding history
  have ran : Uses start history holding := Uses.goOn .nothing uses
  have made : holding.mux.factories.size = 6 := by decide +kernel
  refine ⟨?_, ?_, ?_, made, ran.answersFor (by rw [made]; decide) 0⟩
  · decide +kernel
  · decide +kernel
  · decide +kernel

end SocketMux
