import SocketMux.Shutdown.Coordinator

/-!
# Scripted hooks

Hooks whose work is a list of actions on their own coordinator: while a shutdown runs a
hook, the hook may register, deregister, drop and count hooks, make new ones and begin
a shutdown inside the running one. The machine takes one action or one visit of an
entry at a time, so that each state between two of them can be spoken about.

A hook is alive while a name holds it or while it runs.
-/

namespace SocketMux.Shutdown

/-- What a script does. -/
inductive Action where
  /-- Make a hook and hold it under a name, in the place of an earlier one. -/
  | create (name label : String) (failure : Option MuxError) (actions : List Action)
  | register (name : String)
  /-- Remove the entry that was registered last under a name. -/
  | deregister (name : String)
  /-- Let go of the hook held under a name. -/
  | drop (name : String)
  | countLive
  | shutdown
deriving Repr

/-- What an action answers. -/
inductive Outcome where
  | nothing
  /-- A registration, and whether it is the first under its name. -/
  | registered (first : Bool)
  | noSuchHook
  | flag (value : Bool)
  | count (value : Nat)
  | report (value : ShutdownReport)
deriving Repr

/-- What a run leaves behind: the entries that ran, each with the name of its hook, and
the answers that hooks got. -/
inductive LogEntry where
  | ran (id : HookId) (name : String)
  | answered (outcome : Outcome)
deriving Repr

/-- A hook and what it does when it runs. -/
structure Hook where
  name : String
  label : String
  failure : Option MuxError
  actions : List Action
deriving Repr

/-- A shutdown that is under way. Hooks are known by their serial numbers. -/
structure Visit where
  waiting : List (HookId × Nat)
  /-- The hook that runs, and the actions that it has left. -/
  running : Option (Nat × List Action)
  report : ShutdownReport
deriving Repr

/-- The state of a script. -/
structure Script where
  coordinator : ShutdownCoordinator Nat
  /-- All hooks ever made, by serial number. -/
  hooks : List Hook
  /-- The hooks held under names. -/
  held : List (String × Nat)
  /-- The entry registered last under each name. -/
  remembered : List (String × HookId)
  /-- The shutdowns under way, the innermost first. -/
  visits : List Visit
  /-- What has happened, the latest first. -/
  log : List LogEntry
deriving Repr

namespace Script

/-- The state before any action. -/
def initial : Script := ⟨.empty, [], [], [], [], []⟩

/-- Whether a hook runs in a shutdown under way. -/
def runs (script : Script) (serial : Nat) : Bool :=
  script.visits.any fun visit => visit.running.any fun running => running.1 == serial

/-- Whether a hook is alive. -/
def isAlive (script : Script) (serial : Nat) : Bool :=
  (script.held.any fun holder => holder.2 == serial) || script.runs serial

/-- Drop the entry of a name. -/
def without {α : Type} (name : String) (entries : List (String × α)) : List (String × α) :=
  entries.filter fun entry => entry.1 != name

/-- Make a hook and hold it. -/
def create (script : Script) (hook : Hook) : Script :=
  { script with
    hooks := script.hooks ++ [hook]
    held := (hook.name, script.hooks.length) :: without hook.name script.held }

/-- Register the hook held under a name. -/
def register (script : Script) (name : String) : Outcome × Script :=
  match script.held.lookup name with
  | none => (.noSuchHook, script)
  | some serial =>
    let (id, coordinator) := script.coordinator.register serial
    (.registered (script.remembered.lookup name).isNone,
      { script with coordinator, remembered := (name, id) :: without name script.remembered })

/-- Remove the entry registered last under a name. -/
def deregister (script : Script) (name : String) : Outcome × Script :=
  match script.remembered.lookup name with
  | none => (.nothing, script)
  | some id =>
    let (found, coordinator) := script.coordinator.deregister id
    (.flag found, { script with coordinator })

/-- Let go of the hook held under a name. -/
def drop (script : Script) (name : String) : Outcome × Script :=
  (.flag (script.held.lookup name).isSome, { script with held := without name script.held })

/-- Count the entries of hooks that are alive, and remove the others. -/
def countLive (script : Script) : Outcome × Script :=
  let coordinator := script.coordinator.prune script.isAlive
  (.count coordinator.size, { script with coordinator })

/-- Begin a shutdown: it is to visit exactly the entries of this moment. -/
def beginShutdown (script : Script) : Script :=
  let (entries, coordinator) := script.coordinator.takeAll
  { script with coordinator, visits := ⟨entries, none, .empty⟩ :: script.visits }

/-- Perform an action. A shutdown is only begun and answers later. -/
def perform (script : Script) : Action → Option Outcome × Script
  | .create name label failure actions =>
    (some .nothing, script.create ⟨name, label, failure, actions⟩)
  | .register name => (script.register name).map some id
  | .deregister name => (script.deregister name).map some id
  | .drop name => (script.drop name).map some id
  | .countLive => script.countLive.map some id
  | .shutdown => (none, script.beginShutdown)

/-- Note an answer that a hook got. -/
def note (script : Script) (outcome : Option Outcome) : Script :=
  { script with log := (outcome.map LogEntry.answered).toList ++ script.log }

/-- Visit the next entry: a hook that is alive starts to run, another one is counted. -/
def visitEntry (script : Script) (id : HookId) (serial : Nat) (visit : Visit)
    (outer : List Visit) : Script :=
  match script.hooks[serial]? with
  | some hook =>
    if script.isAlive serial then
      { script with
        visits := { visit with running := some (serial, hook.actions) } :: outer
        log := .ran id hook.name :: script.log }
    else { script with visits := { visit with report := visit.report.prune } :: outer }
  | none => { script with visits := { visit with report := visit.report.prune } :: outer }

/-- Record a hook that has no actions left. -/
def finishHook (script : Script) (serial : Nat) (visit : Visit) (outer : List Visit) : Script :=
  let report := match script.hooks[serial]? with
    | some hook => visit.report.add hook.label hook.failure
    | none => visit.report
  { script with visits := { visit with running := none, report } :: outer }

/-- Take one step of the innermost shutdown. A shutdown that ends answers the hook that
began it, or the caller if no hook did. -/
def advance (script : Script) : Option Outcome × Script :=
  match script.visits with
  | [] => (none, script)
  | visit :: outer =>
    match visit.running with
    | some (serial, action :: actions) =>
      let resumed :=
        { script with visits := { visit with running := some (serial, actions) } :: outer }
      let (outcome, script) := resumed.perform action
      (none, script.note outcome)
    | some (serial, []) => (none, script.finishHook serial visit outer)
    | none =>
      match visit.waiting with
      | (id, serial) :: waiting =>
        (none, script.visitEntry id serial { visit with waiting } outer)
      | [] =>
        let script := { script with visits := outer }
        let outcome := Outcome.report visit.report
        if outer = [] then (some outcome, script) else (none, script.note (some outcome))

/-- Take steps until the outermost shutdown answers. -/
def finish (fuel : Nat) (script : Script) : Option Outcome × Script :=
  match fuel with
  | 0 => (none, script)
  | fuel + 1 =>
    match script.advance with
    | (some outcome, script) => (some outcome, script)
    | (none, script) => finish fuel script

/-- The number of steps after which a shutdown is given up, since hooks may begin
shutdowns without end. -/
def maxSteps : Nat := 0x20000

/-- Perform an action with all that it sets off. -/
def answer (script : Script) (action : Action) : Option Outcome × Script :=
  match script.perform action with
  | (some outcome, script) => (some outcome, script)
  | (none, script) => script.finish maxSteps

end Script

end SocketMux.Shutdown
