import SocketMux.Proofs.Authority.Frames
import SocketMux.Proofs.Lifecycle.Frame

/-!
# Giving ports back

A port that is given back goes to at most one pool: the one at hand, or the one that is served
behind the assigner's path (`Multiplexer.poolOf?`). This pool no longer holds the port, and
nothing else changes but the log (`Multiplexer.returnPort_after`). So two returns leave the same
pools in either order (`Multiplexer.takenBack_comm`).
-/

namespace SocketMux

open SocketMux.Authority

namespace Authority.Request

/-- An open pool no longer holds a port that was given back, and a closed one stays as it is. -/
theorem after_returnPort (port : Port) (pool : PortPool) :
    (returnPort port).after pool =
      if pool.closed then pool else { pool with held := pool.held.erase port } := by
  unfold after serve PortPool.release
  by_cases closed : pool.closed = true
  · simp only [closed, if_true, Except.map]
  · simp only [closed, if_false, Except.map, Bool.false_eq_true]

/-- Two ports are given back in either order. -/
theorem after_returnPort_comm (first second : Port) (pool : PortPool) :
    (returnPort second).after ((returnPort first).after pool) =
      (returnPort first).after ((returnPort second).after pool) := by
  simp only [after_returnPort]
  by_cases closed : pool.closed = true
  · simp [closed]
  · simp [closed, List.erase_comm]

end Authority.Request

/-- The path of the authority that an assigner asks, unless its ports are at hand. -/
def Assigner.authority? : Assigner → Option Path
  | pooled _ => none
  | remote path => some path
  | scripted _ _ => none

namespace Multiplexer

/-- The pool that answers requests to an assigner. -/
def poolOf? (mux : Multiplexer) (assigner : Nat) : Option Nat :=
  match mux.assigners.get? assigner with
  | some (.pooled pool) => some pool
  | some (.remote path) => (mux.host.reach path).toOption.bind mux.poolBehind?
  | some (.scripted ..) | none => none

/-- Pools after one of them took a port back, or none did. -/
def takenBack (pools : Table PortPool) (taker : Option Nat) (port : Port) : Table PortPool :=
  taker.elim pools fun pool => pools.modify pool (Request.returnPort port).after

theorem takenBack_none (pools : Table PortPool) (port : Port) :
    takenBack pools none port = pools :=
  Option.elim_none ..

/-- A request that a pool answers changes this pool. -/
theorem setPool_after {mux : Multiplexer} {pool : Nat} {state : PortPool}
    (found : mux.pools.get? pool = some state) (request : Request) :
    mux.setPool pool (request.after state) =
      { mux with pools := mux.pools.modify pool request.after } := by
  have same : mux.pools.modify pool (fun _ => request.after state) =
      mux.pools.modify pool request.after :=
    mux.pools.modify_congr pool fun row there => by
      rw [Option.some.inj (found.symm.trans there)]
  rw [setPool, same]

/-- The return of a port changes the pool that takes it back. -/
theorem ask_returnPort (mux : Multiplexer) (assigner : Nat) (port : Port) :
    (mux.ask assigner (.returnPort port)).2 =
      { mux with pools := takenBack mux.pools (mux.poolOf? assigner) port } := by
  unfold ask poolOf?
  cases assigned : mux.assigners.get? assigner with
  | none => rfl
  | some state =>
    cases state with
    | pooled pool =>
      simp only [takenBack, Option.elim_some, serveFrom]
      cases found : mux.pools.get? pool with
      | none => simp only [Table.modify_of_absent found]
      | some state =>
        rw [← setPool_after found]
        simp only [Request.after]
        cases (Request.returnPort port).serve state with
        | ok served => rfl
        | error err => exact (setPool_same found).symm
    | remote path =>
      simp only [exchange]
      cases mux.host.reach path with
      | error fault => rfl
      | ok socket =>
        simp only [Except.toOption, Option.bind_some]
        cases mux.poolBehind? socket with
        | none => rfl
        | some pool =>
          simp only [takenBack, Option.elim_some, answerFrom]
          cases found : mux.pools.get? pool with
          | none => simp only [Table.modify_of_absent found]
          | some state =>
            rw [← setPool_after found]
            simp only [answerAll_encode]
    | scripted ports refusal =>
      have unchanged : (followScript ports refusal (.returnPort port)).2 = ports := by
        cases refused : refusal port <;> simp only [followScript, refused]
      have same : mux.assigners.modify assigner (fun _ => .scripted ports refusal) =
          mux.assigners :=
        mux.assigners.modify_eq_self assigner _ fun row there =>
          Option.some.inj (assigned.symm.trans there)
      simp only [unchanged, same]
      rfl

/-- The return of a port changes the pool that takes it back and is noted down. -/
theorem returnPort_after (mux : Multiplexer) (assigner : Nat) (port : Port) :
    (mux.returnPort assigner port).2 =
      { mux with
        pools := takenBack mux.pools (mux.poolOf? assigner) port
        returned := (assigner, port) :: mux.returned } := by
  unfold returnPort
  simp only [ask_returnPort]

/-- Two returns leave the same pools in either order. -/
theorem takenBack_comm (pools : Table PortPool) (first second : Option Nat)
    (former latter : Port) :
    takenBack (takenBack pools first former) second latter =
      takenBack (takenBack pools second latter) first former := by
  have comm := Request.after_returnPort_comm former latter
  cases first with
  | none => rw [takenBack_none, takenBack_none]
  | some one =>
    cases second with
    | none => rw [takenBack_none, takenBack_none]
    | some other => exact pools.modify_comm one other comm

/-- Two states in which assigners answer alike and listeners are the same. They may differ in
their factories and clients and in what was given back so far. -/
structure SameView (one other : Multiplexer) : Prop where
  host : other.host = one.host
  strangers : other.strangers = one.strangers
  pools : other.pools = one.pools
  assigners : other.assigners = one.assigners
  authorities : other.authorities = one.authorities
  listeners : other.listeners = one.listeners

namespace SameView

variable {one other : Multiplexer}

theorem refl (mux : Multiplexer) : SameView mux mux := ⟨rfl, rfl, rfl, rfl, rfl, rfl⟩

theorem poolBehind? (view : SameView one other) (socket : Nat) :
    other.poolBehind? socket = one.poolBehind? socket := by
  unfold Multiplexer.poolBehind?
  rw [view.authorities]

theorem poolOf? (view : SameView one other) (assigner : Nat) :
    other.poolOf? assigner = one.poolOf? assigner := by
  unfold Multiplexer.poolOf?
  rw [view.assigners, view.host, funext view.poolBehind?]

theorem ask (view : SameView one other) (assigner : Nat) (request : Request) :
    (other.ask assigner request).1 = (one.ask assigner request).1 := by
  unfold Multiplexer.ask
  rw [view.assigners]
  cases one.assigners.get? assigner with
  | none => rfl
  | some state =>
    cases state with
    | pooled pool =>
      simp only [serveFrom, view.pools]
      cases one.pools.get? pool with
      | none => rfl
      | some state =>
        simp only
        cases request.serve state <;> rfl
    | remote path =>
      simp only [exchange, view.host]
      cases one.host.reach path with
      | error fault => rfl
      | ok socket =>
        simp only [view.poolBehind?]
        cases one.poolBehind? socket with
        | none => simp only [askStranger, view.strangers]
        | some pool =>
          simp only [answerFrom, view.pools]
          cases one.pools.get? pool <;> rfl
    | scripted ports refusal => rfl

theorem returnPort (view : SameView one other) (assigner : Nat) (port : Port) :
    (other.returnPort assigner port).1 = (one.returnPort assigner port).1 := by
  unfold Multiplexer.returnPort
  simp only [view.ask]

end SameView

end Multiplexer

end SocketMux
