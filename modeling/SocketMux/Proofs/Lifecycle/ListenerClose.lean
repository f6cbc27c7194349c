import SocketMux.Proofs.File.Removal
import SocketMux.Proofs.Lifecycle.Returns

/-!
# What the close of a listener does

An open listener that is closed takes its socket and at most one entry off the host
(`Host.withoutListener_eq`), its port goes to at most one pool, and what goes wrong on the way is
what the close comes to (`Multiplexer.closeListener_fst`, `Multiplexer.closeListener_snd`). All
this only depends on what `Multiplexer.SameView` compares. Two listeners whose files are
neighbours come off the host in either order (`Host.withoutListener_comm`), unless one of them
clears a link on the way to its own file (`Host.LeavesWay`).
-/

namespace SocketMux

/-- Changes of rows in turn may be made in either order if they are the same everywhere. -/
theorem Table.foldl_modify_comm {α : Type} (table : Table α) (first second : List Nat)
    (change : α → α) :
    second.foldl (fun table number => table.modify number change)
        (first.foldl (fun table number => table.modify number change) table) =
      first.foldl (fun table number => table.modify number change)
        (second.foldl (fun table number => table.modify number change) table) := by
  rw [← List.foldl_append, ← List.foldl_append]
  refine List.Perm.foldl_eq' List.perm_append_comm (fun one _ other _ table => ?_) table
  exact table.modify_comm one other fun _ => rfl

namespace Host

theorem closeSocket_of_absent {host : Host} {socket : Nat}
    (absent : host.sockets.get? socket = none) : host.closeSocket socket = host := by
  simp only [closeSocket, absent]

/-- Closing a socket leaves all others as they are. -/
theorem closeSocket_other (host : Host) {socket other : Nat} (apart : socket ≠ other) :
    (host.closeSocket socket).sockets.get? other = host.sockets.get? other := by
  unfold closeSocket
  split
  · rfl
  · rw [Table.get?_modify, if_neg apart]

/-- Which of two sockets is closed first does not matter. -/
theorem closeSocket_comm (host : Host) (first second : Nat) :
    (host.closeSocket first).closeSocket second = (host.closeSocket second).closeSocket first := by
  by_cases same : first = second
  · rw [same]
  have former := host.closeSocket_other (Ne.symm same)
  have latter := host.closeSocket_other same
  cases there : host.sockets.get? first with
  | none =>
    rw [there] at former
    rw [closeSocket_of_absent there, closeSocket_of_absent former]
  | some one =>
    cases here : host.sockets.get? second with
    | none =>
      rw [here] at latter
      rw [closeSocket_of_absent here, closeSocket_of_absent latter]
    | some other =>
      rw [there] at former
      rw [here] at latter
      unfold closeSocket at former latter ⊢
      simp only [there, here] at former latter ⊢
      simp only [former, latter, Table.foldl_modify_comm]
      rw [Table.modify_comm _ _ _ fun _ => rfl]

/-- The entry that the end of a listener clears, if it clears one. -/
def ownEntryOf (host : Host) (listener : MuxListener) : Except Fault (Option Place) :=
  match listener.fileNumber with
  | none => .ok none
  | some number => host.files.ownEntry listener.file number

/-- The end of a listener closes its socket and clears the entry of its own file. -/
theorem withoutListener_eq (host : Host) (listener : MuxListener) :
    host.withoutListener listener =
      (host.closeSocket listener.socket).cleared (host.ownEntryOf listener).toOption.join := by
  unfold withoutListener ownEntryOf
  cases listener.fileNumber with
  | none => rfl
  | some number =>
    simp only [removeNumbered_eq, closeSocket_files]
    cases host.files.ownEntry listener.file number <;> rfl

/-- What keeps a listener from clearing its own file keeps the file from being removed. -/
theorem ownEntryOf_of_unremoved {host : Host} {listener : MuxListener} {file : Nat} {fault : Fault}
    (numbered : listener.fileNumber = some file)
    (unremoved : host.removeNumbered listener.file file = .error fault) :
    host.ownEntryOf listener = .error fault := by
  rw [removeNumbered_eq] at unremoved
  simp only [ownEntryOf, numbered]
  cases own : host.files.ownEntry listener.file file with
  | error other =>
    rw [own] at unremoved
    exact congrArg Except.error (Except.error.inj unremoved)
  | ok entry => rw [own] at unremoved; cases unremoved

theorem closeSocket_cleared (host : Host) (entry : Option Place) (socket : Nat) :
    (host.cleared entry).closeSocket socket = (host.closeSocket socket).cleared entry := by
  unfold closeSocket cleared
  simp only
  split <;> rfl

/-- The end of a listener clears no entry on the way to this entry itself, as the clearing of a
link may. -/
def LeavesWay (host : Host) (listener : MuxListener) : Prop :=
  ∀ place, host.ownEntryOf listener = .ok (some place) →
    (host.files.erase place).locateEntry listener.file = .ok place

instance (host : Host) (listener : MuxListener) : Decidable (host.LeavesWay listener) :=
  match own : host.ownEntryOf listener with
  | .error _ => .isTrue fun place cleared => by rw [own] at cleared; cases cleared
  | .ok none => .isTrue fun place cleared => by rw [own] at cleared; cases cleared
  | .ok (some place) =>
    decidable_of_iff ((host.files.erase place).locateEntry listener.file = .ok place) <| by
      unfold LeavesWay
      simp [own]

/-- A listener that clears no link leaves the way. -/
theorem LeavesWay.of_noLink {host : Host} {listener : MuxListener}
    (noLink : ∀ place node, host.ownEntryOf listener = .ok (some place) →
      host.files.get? place = some node → ∀ target, node.kind ≠ .link target) :
    host.LeavesWay listener := by
  intro place own
  have cleared : ∃ number, host.files.ownEntry listener.file number = .ok (some place) := by
    unfold ownEntryOf at own
    split at own
    · cases own
    · exact ⟨_, own⟩
  obtain ⟨number, cleared⟩ := cleared
  obtain ⟨-, located, node, present, -, noDirectory⟩ := FileTree.ownEntry_eq_some cleared
  refine FileTree.locateEntry_within (FileTree.passagesWithin_erase ?_) located
  intro other found
  obtain rfl := Option.some.inj (present.symm.trans found)
  have noLink := noLink place node own present
  cases kind : node.kind with
  | directory => exact absurd kind noDirectory
  | link target => exact absurd kind (noLink target)
  | regular | socket => rfl

end Host

/-- Two listeners at neighbouring paths. -/
structure MuxListener.Beside (former latter : MuxListener) : Prop where
  files : FileTree.Neighbours former.file latter.file
  slash : FileTree.endsWithSlash latter.file = FileTree.endsWithSlash former.file

namespace Host

variable {host : Host} {former latter : MuxListener}

/-- The entry that is cleared stands where the path of the listener leads. -/
theorem locateEntry_of_ownEntryOf {listener : MuxListener} {place : Place}
    (own : host.ownEntryOf listener = .ok (some place)) :
    place ≠ [] ∧ host.files.locateEntry listener.file = .ok place := by
  unfold ownEntryOf at own
  split at own
  · cases own
  · exact ⟨FileTree.ownEntry_ne_root own, (FileTree.ownEntry_eq_some own).2.1⟩

/-- After the end of a listener the one beside it has the same entry to clear, unless that is
cleared already. -/
theorem ownEntryOf_withoutListener (beside : former.Beside latter)
    (leaves : host.LeavesWay former) :
    (host.withoutListener former).ownEntryOf latter = (host.ownEntryOf latter).map
      (FileTree.leftToClear (host.ownEntryOf former).toOption.join) := by
  rw [withoutListener_eq]
  unfold LeavesWay at leaves
  unfold ownEntryOf at leaves ⊢
  cases latter.fileNumber with
  | none => simp [Except.map, FileTree.leftToClear]
  | some number =>
    simp only [cleared, closeSocket_files]
    cases numbered : former.fileNumber with
    | none => exact (FileTree.map_leftToClear_none _).symm
    | some own =>
      simp only [numbered] at leaves
      exact beside.files.ownEntry_clear beside.slash leaves number

/-- After the end of a listener the one beside it leaves the way, too. -/
theorem LeavesWay.withoutListener (leaves : host.LeavesWay latter)
    (beside : former.Beside latter) (former_leaves : host.LeavesWay former) :
    (host.withoutListener former).LeavesWay latter := by
  intro place own
  rw [ownEntryOf_withoutListener beside former_leaves] at own
  have before : host.ownEntryOf latter = .ok (some place) := by
    cases there : host.ownEntryOf latter with
    | error fault => rw [there] at own; cases own
    | ok entry =>
      rw [there, Except.map, FileTree.leftToClear] at own
      split at own
      · cases own
      · exact own
  obtain ⟨below, located⟩ := locateEntry_of_ownEntryOf before
  rw [withoutListener_eq]
  simp only [cleared, closeSocket_files]
  cases former_own : (host.ownEntryOf former).toOption.join with
  | none => exact leaves place before
  | some other =>
    have clears : host.ownEntryOf former = .ok (some other) := by
      cases there : host.ownEntryOf former with
      | error fault => rw [there] at former_own; cases former_own
      | ok entry =>
        rw [there] at former_own
        exact congrArg Except.ok former_own
    obtain ⟨below', located'⟩ := locateEntry_of_ownEntryOf clears
    have still : (host.files.erase other).locateEntry latter.file = .ok place := by
      rw [beside.files.locateEntry_erase located' (former_leaves other clears), located]
    exact FileTree.locateEntry_erase_erase below' below still (leaves place before)

theorem toOption_map_leftToClear (own : Except Fault (Option Place)) (cleared : Option Place) :
    (own.map (FileTree.leftToClear cleared)).toOption.join =
      FileTree.leftToClear cleared own.toOption.join := by
  cases own with
  | error fault => exact (ite_self _).symm
  | ok entry => rfl

/-- Two listeners beside each other come off the host in either order. -/
theorem withoutListener_comm (host : Host) (former latter : MuxListener)
    (beside : former.Beside latter) (back : latter.Beside former)
    (leaves : host.LeavesWay former) (leaves' : host.LeavesWay latter) :
    (host.withoutListener former).withoutListener latter =
      (host.withoutListener latter).withoutListener former := by
  rw [withoutListener_eq (host.withoutListener former),
    withoutListener_eq (host.withoutListener latter),
    ownEntryOf_withoutListener beside leaves, ownEntryOf_withoutListener back leaves',
    withoutListener_eq, withoutListener_eq, toOption_map_leftToClear, toOption_map_leftToClear,
    closeSocket_cleared, closeSocket_cleared, closeSocket_comm]
  simp only [cleared, FileTree.clear_comm]

end Host

namespace Multiplexer

/-- What the return of its port comes to when a listener is closed. -/
def returnedAt (mux : Multiplexer) (number : Nat) (listener : MuxListener) :
    Except MuxError Unit :=
  ((mux.detach number listener).giveBackAtClose (mux.returnsToItself listener) listener).1

/-- What goes wrong at the close of an open listener. -/
def troubleOf (mux : Multiplexer) (number : Nat) (listener : MuxListener) : List MuxError :=
  (errorOf (mux.host.ownEntryOf listener)).map (.fault .removeFile) ++
    errorOf (mux.returnedAt number listener)

/-- The pool to which the port of a listener goes when it is closed. -/
def takerOf (mux : Multiplexer) (number : Nat) (listener : MuxListener) : Option Nat :=
  listener.assigner.bind (mux.detach number listener).poolOf?

/-- A close that finds no open listener succeeds and does nothing. -/
theorem closeListener_idle {mux : Multiplexer} {number : Nat}
    (shut : ∀ listener, mux.listeners.get? number = some listener → listener.isClosed = true) :
    mux.closeListener number = (.ok (), mux) := by
  unfold closeListener
  split
  · rfl
  · next listener found => rw [if_pos (shut listener found)]

section Exactly

variable {mux : Multiplexer} {number : Nat} {listener : MuxListener}

/-- A port that nobody has issued goes back to nobody. -/
theorem returnedAt_of_unassigned (assigned : listener.assigner = none) :
    mux.returnedAt number listener = .ok () := by
  simp [returnedAt, giveBackAtClose, giveBack, returnsToItself, assigned]

/-- An assigner that is not behind a socket takes a port back itself. -/
theorem returnedAt_of_atHand {assigner : Nat} (assigned : listener.assigner = some assigner)
    (atHand : ∀ path, mux.assigners.get? assigner ≠ some (.remote path)) :
    mux.returnedAt number listener =
      ((mux.detach number listener).returnPort assigner listener.port).1 := by
  have elsewhere : mux.returnsToItself listener = false := by
    unfold returnsToItself
    rw [assigned, Option.bind_some]
    split
    · next path row => exact absurd row (atHand path)
    · exact Bool.and_false _
  unfold returnedAt giveBackAtClose giveBack
  rw [elsewhere, assigned]
  rfl

/-- The close of an open listener comes to all that goes wrong. -/
theorem closeListener_fst (found : mux.listeners.get? number = some listener)
    (isOpen : listener.isClosed = false) :
    (mux.closeListener number).1 = MuxError.aggregate (mux.troubleOf number listener) := by
  have removed : errorOf ((mux.shutListener number listener).removeOwnFile listener).1 =
      errorOf (mux.host.ownEntryOf listener) := by
    unfold removeOwnFile Host.ownEntryOf
    cases listener.fileNumber with
    | none => rfl
    | some own =>
      simp only [shutListener, Host.removeNumbered_eq, Host.closeSocket_files]
      cases mux.host.files.ownEntry listener.file own <;> rfl
  unfold closeListener troubleOf returnedAt
  simp only [found, isOpen, Bool.false_eq_true, if_false, removed]
  rfl

/-- The state after the close of an open listener. -/
theorem closeListener_snd (found : mux.listeners.get? number = some listener)
    (isOpen : listener.isClosed = false) :
    (mux.closeListener number).2 =
      { mux with
        host := mux.host.withoutListener listener
        listeners := mux.listeners.modify number MuxListener.closed
        factories := mux.factoriesWithout number listener
        pools := takenBack mux.pools (mux.takerOf number listener) listener.port
        returned := listener.owed?.toList ++ mux.returned } := by
  rw [closeListener_of_open found isOpen]
  unfold giveBack takerOf MuxListener.owed?
  cases listener.assigner with
  | none =>
    rw [detach_eq, Option.bind_none, takenBack_none]
    rfl
  | some assigner =>
    simp only [returnPort_after, Option.bind_some, Option.map_some]
    rw [detach_eq]
    rfl

end Exactly

namespace SameView

variable {one other : Multiplexer}

theorem detach (view : SameView one other) (number : Nat) (listener : MuxListener) :
    SameView (one.detach number listener) (other.detach number listener) := by
  rw [detach_eq, detach_eq]
  constructor
  · exact congrArg (fun host => host.withoutListener listener) view.host
  · exact view.strangers
  · exact view.pools
  · exact view.assigners
  · exact view.authorities
  · exact congrArg (fun rows => rows.modify number MuxListener.closed) view.listeners

theorem returnedAt (view : SameView one other) (number : Nat) (listener : MuxListener) :
    other.returnedAt number listener = one.returnedAt number listener := by
  have toItself : other.returnsToItself listener = one.returnsToItself listener := by
    unfold returnsToItself
    rw [view.host, view.assigners]
  unfold Multiplexer.returnedAt giveBackAtClose giveBack
  rw [toItself]
  cases listener.assigner with
  | none => rfl
  | some assigner => simp only [(view.detach number listener).returnPort]

theorem troubleOf (view : SameView one other) (number : Nat) (listener : MuxListener) :
    other.troubleOf number listener = one.troubleOf number listener := by
  unfold Multiplexer.troubleOf
  rw [view.host, view.returnedAt]

theorem takerOf (view : SameView one other) (number : Nat) (listener : MuxListener) :
    other.takerOf number listener = one.takerOf number listener := by
  unfold Multiplexer.takerOf
  rw [funext (view.detach number listener).poolOf?]

/-- The close of a listener comes to the same in states that look the same. -/
theorem closeListener (view : SameView one other) (number : Nat) :
    (other.closeListener number).1 = (one.closeListener number).1 ∧
      SameView (one.closeListener number).2 (other.closeListener number).2 := by
  obtain ⟨listener, found, isOpen⟩ | shut := one.open_or_shut number
  · have found' : other.listeners.get? number = some listener := by
      rw [view.listeners]
      exact found
    rw [closeListener_fst found isOpen, closeListener_fst found' isOpen,
      closeListener_snd found isOpen, closeListener_snd found' isOpen, view.troubleOf,
      view.takerOf]
    refine ⟨rfl, ?_⟩
    constructor
    · exact congrArg (fun host => host.withoutListener listener) view.host
    · exact view.strangers
    · exact congrArg (fun pools => takenBack pools _ _) view.pools
    · exact view.assigners
    · exact view.authorities
    · exact congrArg (fun rows => rows.modify number MuxListener.closed) view.listeners
  · have shut' : ∀ listener, other.listeners.get? number = some listener →
        listener.isClosed = true := by
      rw [view.listeners]
      exact shut
    rw [closeListener_idle shut, closeListener_idle shut']
    exact ⟨rfl, view⟩

theorem closeListeners (view : SameView one other) (order : List Nat) :
    SameView (one.closeListeners order).2 (other.closeListeners order).2 := by
  induction order generalizing one other with
  | nil => exact view
  | cons number others inductionHypothesis =>
    exact inductionHypothesis (view.closeListener number).2

end SameView

/-- Two states that differ at most in the order in which ports were given back. -/
structure Alike (one other : Multiplexer) : Prop where
  same : other = { one with returned := other.returned }
  returned : other.returned.Perm one.returned

namespace Alike

variable {one other : Multiplexer}

theorem refl (mux : Multiplexer) : Alike mux mux := ⟨rfl, .refl _⟩

theorem trans {first second third : Multiplexer} (former : Alike first second)
    (latter : Alike second third) : Alike first third where
  same := by
    rw [latter.same, former.same]
  returned := latter.returned.trans former.returned

theorem view (alike : Alike one other) : SameView one other := by
  rw [alike.same]
  exact ⟨rfl, rfl, rfl, rfl, rfl, rfl⟩

/-- States that are alike are so after the close of a listener. -/
theorem closeListener (alike : Alike one other) (number : Nat) :
    Alike (one.closeListener number).2 (other.closeListener number).2 := by
  obtain ⟨listener, found, isOpen⟩ | shut := one.open_or_shut number
  · have found' : other.listeners.get? number = some listener := by
      rw [alike.view.listeners]
      exact found
    have taker := alike.view.takerOf number listener
    have returned := alike.returned
    rw [closeListener_snd found isOpen, closeListener_snd found' isOpen, taker]
    rw [alike.same]
    exact ⟨rfl, returned.append_left _⟩
  · have shut' : ∀ listener, other.listeners.get? number = some listener →
        listener.isClosed = true := by
      rw [alike.view.listeners]
      exact shut
    rw [closeListener_idle shut, closeListener_idle shut']
    exact alike

/-- Closing listeners comes to the same in states that are alike. -/
theorem closeListeners (alike : Alike one other) (order : List Nat) :
    (other.closeListeners order).1 = (one.closeListeners order).1 ∧
      Alike (one.closeListeners order).2 (other.closeListeners order).2 := by
  induction order generalizing one other with
  | nil => exact ⟨rfl, alike⟩
  | cons number others inductionHypothesis =>
    obtain ⟨errors, further⟩ := inductionHypothesis (alike.closeListener number)
    refine ⟨?_, further⟩
    simp only [Multiplexer.closeListeners, errors, (alike.view.closeListener number).1]

end Alike

end Multiplexer

end SocketMux
