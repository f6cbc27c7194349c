import SocketMux.Shutdown.Script

/-!
# Runs of a coordinator whose hooks may do anything

Scripts fix in advance what their hooks do. A `Move` also lets a hook, or anyone else, do
what no script says: register any hook, deregister any entry, pass handles around, and
decide late what a hook does and whether it fails. A `Run` makes moves one after another and
keeps its `History`, the latest moment first; whatever a script answers is made of moves
(`Run.answer`).

Only part of a script matters to what a coordinator promises: the entries, the shutdowns
under way and the entries that ran. That part is its `View`, and `Script.event` tells what a
move is to it. `View.Step` says all that an event can do, and every move is such a step
(`Script.step_of_move`).
-/

namespace SocketMux.Shutdown

/-- What may happen next. -/
inductive Move where
  /-- An action is performed, by a hook that runs or by anyone else. -/
  | act (action : Action)
  /-- Any hook is registered. -/
  | register (serial : Nat)
  /-- Any entry is deregistered. -/
  | deregister (id : HookId)
  /-- Handles to hooks are made, passed on and let go. -/
  | hold (held : List (String × Nat))
  /-- A hook decides what it will do when it runs, and whether it will fail. -/
  | decide (serial : Nat) (failure : Option MuxError) (actions : List Action)
  /-- The innermost shutdown goes on. -/
  | advance

/-- The script after a move. -/
def Script.move (script : Script) : Move → Script
  | .act action => (script.perform action).2
  | .register serial => { script with coordinator := (script.coordinator.register serial).2 }
  | .deregister id => { script with coordinator := (script.coordinator.deregister id).2 }
  | .hold held => { script with held }
  | .decide serial failure actions =>
    { script with
      hooks := script.hooks.modify serial fun hook => { hook with failure, actions } }
  | .advance => script.advance.2

/-- What a moment is to the coordinator and its shutdowns. -/
inductive Event where
  /-- A hook is listed under a number. -/
  | registers (id : HookId) (serial : Nat)
  /-- A number is to be removed; `found` tells whether it was listed. -/
  | deregisters (id : HookId) (found : Bool)
  /-- The entries are counted. -/
  | counts
  /-- A shutdown begins. -/
  | begins
  /-- It is an entry's turn in the innermost shutdown. Its hook runs, and a record will show
  the label; there is no label if the hook is gone. -/
  | visits (entry : HookId × Nat) (label : Option String)
  /-- The innermost shutdown ends with a report. -/
  | ends (report : ShutdownReport)
  /-- Nothing that matters to them. -/
  | other
deriving Repr

/-- Whether an event is no part of a shutdown under way: no turn and no end. -/
def Event.isCall : Event → Bool
  | visits .. | ends _ => false
  | _ => true

/-- A shutdown under way: the entries that wait for their turn, the labels of the hooks that
had theirs and ran, the one that runs included, and the number of those that were gone. -/
structure Stage where
  waiting : List (HookId × Nat)
  labels : List String
  pruned : Nat
deriving DecidableEq, Repr

/-- What matters to the promises of a coordinator. -/
structure View where
  coordinator : ShutdownCoordinator Nat
  /-- The shutdowns under way, the innermost first. -/
  stages : List Stage
  /-- The entries that ran, the latest first. -/
  ran : List HookId
deriving DecidableEq, Repr

/-- The entry that ran, if that is what an entry of the log notes. -/
def LogEntry.ran? : LogEntry → Option HookId
  | .ran id _ => some id
  | .answered _ => none

/-- The labels of a report's records. -/
def labelsOf (report : ShutdownReport) : List String := report.records.map (·.label)

/-- The label of a hook, if it was made. -/
def label? (hooks : List Hook) (serial : Nat) : Option String := hooks[serial]?.map (·.label)

/-- The stage of a shutdown under way. -/
def Visit.stage (hooks : List Hook) (visit : Visit) : Stage where
  waiting := visit.waiting
  labels := labelsOf visit.report ++
    (visit.running.bind fun running => label? hooks running.1).toList
  pruned := visit.report.pruned

namespace Script

/-- The entries that ran, the latest first. -/
def ran (script : Script) : List HookId := script.log.filterMap LogEntry.ran?

/-- What matters of a script. -/
def view (script : Script) : View :=
  ⟨script.coordinator, script.visits.map (Visit.stage script.hooks), script.ran⟩

/-- What an action is to the coordinator. -/
def eventOf (script : Script) : Action → Event
  | .create .. | .drop _ => .other
  | .register name =>
    match script.held.lookup name with
    | some serial => .registers (script.coordinator.register serial).1 serial
    | none => .other
  | .deregister name =>
    match script.remembered.lookup name with
    | some id => .deregisters id (script.coordinator.deregister id).1
    | none => .other
  | .countLive => .counts
  | .shutdown => .begins

/-- What the next step of the innermost shutdown is. -/
def nextEvent (script : Script) : Event :=
  match script.visits with
  | [] => .other
  | visit :: _ =>
    match visit.running with
    | some (_, action :: _) => script.eventOf action
    | some (_, []) => .other
    | none =>
      match visit.waiting with
      | entry :: _ =>
        .visits entry (if script.isAlive entry.2 then label? script.hooks entry.2 else none)
      | [] => .ends visit.report

/-- What a move is to the coordinator and its shutdowns. -/
def event (script : Script) : Move → Event
  | .act action => script.eventOf action
  | .register serial => .registers (script.coordinator.register serial).1 serial
  | .deregister id => .deregisters id (script.coordinator.deregister id).1
  | .hold _ | .decide .. => .other
  | .advance => script.nextEvent

/-- Whether the hooks that run were made. -/
def RunsMade (script : Script) : Prop :=
  ∀ visit ∈ script.visits, ∀ running, visit.running = some running →
    running.1 < script.hooks.length

end Script

/-- A move together with the script in which it is made. -/
structure Moment where
  script : Script
  move : Move

/-- What has happened, the latest moment first. -/
abbrev History := List Moment

/-- What a moment is to the coordinator and its shutdowns. -/
def Moment.event (moment : Moment) : Event := moment.script.event moment.move

/-- A run makes moves in turn. -/
inductive Run : History → Script → Prop where
  | nothing : Run [] .initial
  | more {history : History} {script : Script} (earlier : Run history script) (move : Move) :
      Run (⟨script, move⟩ :: history) (script.move move)

/-- The number of shutdowns under way. -/
def Moment.level (moment : Moment) : Nat := moment.script.visits.length

/-- Whether the innermost shutdown ends with a report, which the caller gets or, if a hook
began the shutdown, the hook. -/
structure Moment.Answers (moment : Moment) (report : ShutdownReport) : Prop where
  advances : moment.move = .advance
  caller : moment.level = 1 → moment.script.advance.1 = some (.report report)
  hook : 1 < moment.level →
    moment.script.advance.2.log = .answered (.report report) :: moment.script.log

namespace View

/-- What an event can do to a view while some hooks are alive. -/
inductive Step (alive : Nat → Bool) : View → Event → View → Prop where
  | registers (view : View) (serial : Nat) :
      Step alive view (.registers (view.coordinator.register serial).1 serial)
        { view with coordinator := (view.coordinator.register serial).2 }
  | deregisters (view : View) (id : HookId) :
      Step alive view (.deregisters id (view.coordinator.deregister id).1)
        { view with coordinator := (view.coordinator.deregister id).2 }
  | counts (view : View) :
      Step alive view .counts { view with coordinator := view.coordinator.prune alive }
  | begins (view : View) :
      Step alive view .begins
        { view with
          coordinator := view.coordinator.takeAll.2
          stages := ⟨view.coordinator.takeAll.1, [], 0⟩ :: view.stages }
  | runs {coordinator : ShutdownCoordinator Nat} {entry : HookId × Nat}
      {waiting : List (HookId × Nat)} {labels : List String} {pruned : Nat} {outer : List Stage}
      {ran : List HookId} (label : String) :
      Step alive ⟨coordinator, ⟨entry :: waiting, labels, pruned⟩ :: outer, ran⟩
        (.visits entry (some label))
        ⟨coordinator, ⟨waiting, labels ++ [label], pruned⟩ :: outer, entry.1 :: ran⟩
  | prunes {coordinator : ShutdownCoordinator Nat} {entry : HookId × Nat}
      {waiting : List (HookId × Nat)} {labels : List String} {pruned : Nat} {outer : List Stage}
      {ran : List HookId} :
      Step alive ⟨coordinator, ⟨entry :: waiting, labels, pruned⟩ :: outer, ran⟩
        (.visits entry none) ⟨coordinator, ⟨waiting, labels, pruned + 1⟩ :: outer, ran⟩
  | ends {coordinator : ShutdownCoordinator Nat} {outer : List Stage} {ran : List HookId}
      (report : ShutdownReport) :
      Step alive ⟨coordinator, ⟨[], labelsOf report, report.pruned⟩ :: outer, ran⟩
        (.ends report) ⟨coordinator, outer, ran⟩
  | other (view : View) : Step alive view .other view

end View

namespace Script

/-- Actions are calls; turns and ends of shutdowns are not. -/
theorem isCall_eventOf (script : Script) (action : Action) :
    (script.eventOf action).isCall = true := by
  cases action with
  | register name =>
    simp only [eventOf]
    cases script.held.lookup name <;> rfl
  | deregister name =>
    simp only [eventOf]
    cases script.remembered.lookup name <;> rfl
  | _ => rfl

/-- What is no call is the next step of the innermost shutdown between two hooks. -/
theorem exists_visit_of_isCall {script : Script} {move : Move}
    (noCall : (script.event move).isCall = false) :
    move = .advance ∧ ∃ visit outer, script.visits = visit :: outer ∧ visit.running = none := by
  cases move with
  | act action =>
    have call : (script.event (.act action)).isCall = true := isCall_eventOf script action
    rw [call] at noCall
    cases noCall
  | advance =>
    refine ⟨rfl, ?_⟩
    simp only [event, nextEvent] at noCall
    split at noCall
    · cases noCall
    · next visit outer active =>
      refine ⟨visit, outer, active, ?_⟩
      split at noCall
      · rw [isCall_eventOf] at noCall
        cases noCall
      · cases noCall
      · assumption
  | _ => cases noCall

/-- At an entry's turn its hook runs just if it is alive and was made. -/
theorem label_of_visits {script : Script} {move : Move} {entry : HookId × Nat}
    {label : Option String} (visits : script.event move = .visits entry label) :
    label = if script.isAlive entry.2 then label? script.hooks entry.2 else none := by
  obtain ⟨rfl, visit, outer, active, idle⟩ := exists_visit_of_isCall (by rw [visits]; rfl)
  simp only [event, nextEvent, active, idle] at visits
  split at visits
  · cases visits
    rfl
  · cases visits

/-- A shutdown that ends answers with its report. -/
theorem answers_of_ends {moment : Moment} {report : ShutdownReport}
    (ends : moment.event = .ends report) : moment.Answers report := by
  obtain ⟨script, move⟩ := moment
  have ends : script.event move = .ends report := ends
  obtain ⟨rfl, visit, outer, active, idle⟩ := exists_visit_of_isCall (by rw [ends]; rfl)
  simp only [event, nextEvent, active, idle] at ends
  split at ends
  · cases ends
  · next waits =>
    cases ends
    refine ⟨rfl, fun outermost => ?_, fun inner => ?_⟩
    · have alone : outer = [] := by
        simpa [Moment.level, active] using outermost
      simp only [advance, active, idle, waits, if_pos alone]
    · have around : outer ≠ [] := by
        rintro rfl
        simp [Moment.level, active] at inner
      simp only [advance, active, idle, waits, if_neg around]
      rfl

/-- Where the entries, the shutdowns, the log and all labels stay, so does the view. -/
theorem view_eq {script after : Script} (made : script.RunsMade)
    (coordinator : after.coordinator = script.coordinator)
    (visits : after.visits = script.visits) (log : after.log = script.log)
    (labels : ∀ serial < script.hooks.length,
      label? after.hooks serial = label? script.hooks serial) :
    after.view = script.view := by
  have stages : after.visits.map (Visit.stage after.hooks) =
      script.visits.map (Visit.stage script.hooks) := by
    rw [visits]
    apply List.map_congr_left
    intro visit member
    unfold Visit.stage
    cases active : visit.running with
    | none => rfl
    | some running => simp only [Option.bind_some, labels _ (made visit member running active)]
  unfold view ran
  rw [coordinator, stages, log]

/-- What a hook decides leaves its label. -/
theorem label?_decided (hooks : List Hook) (decided : Nat) (failure : Option MuxError)
    (actions : List Action) (serial : Nat) :
    label? (hooks.modify decided fun hook => { hook with failure, actions }) serial =
      label? hooks serial := by
  unfold label?
  rw [List.getElem?_modify]
  cases hooks[serial]? with
  | none => rfl
  | some hook =>
    by_cases same : decided = serial
    · simp [same]
    · simp [same]

/-- An action is the step that its event says. -/
theorem step_of_perform {script : Script} (made : script.RunsMade) (action : Action) :
    View.Step script.isAlive script.view (script.eventOf action)
      (script.perform action).2.view := by
  cases action with
  | create name label failure actions =>
    have kept : (script.perform (.create name label failure actions)).2.view = script.view := by
      refine view_eq made rfl rfl rfl fun serial made => ?_
      simp only [perform, Script.create, label?, List.getElem?_append_left made]
    rw [kept]
    exact .other _
  | register name =>
    simp only [eventOf, perform, Script.register]
    cases script.held.lookup name with
    | none => exact .other _
    | some serial => exact .registers script.view serial
  | deregister name =>
    simp only [eventOf, perform, Script.deregister]
    cases script.remembered.lookup name with
    | none => exact .other _
    | some id => exact .deregisters script.view id
  | drop name => exact .other _
  | countLive => exact .counts script.view
  | shutdown => exact .begins script.view

/-- Notes are of no account. -/
theorem view_note (script : Script) (outcome : Option Outcome) :
    (script.note outcome).view = script.view := by
  cases outcome <;> rfl

section Innermost

variable {script : Script} {visit : Visit} {outer : List Visit}

/-- A hook that goes on with fewer actions. -/
def resumed (script : Script) (visit : Visit) (outer : List Visit) (serial : Nat)
    (actions : List Action) : Script :=
  { script with visits := { visit with running := some (serial, actions) } :: outer }

/-- A hook that has fewer actions left still runs. -/
theorem isAlive_resumed {serial : Nat} {action : Action} {actions : List Action}
    (active : script.visits = visit :: outer)
    (running : visit.running = some (serial, action :: actions)) :
    (script.resumed visit outer serial actions).isAlive = script.isAlive := by
  funext other
  simp [resumed, isAlive, runs, active, running]

theorem view_resumed {serial : Nat} {action : Action} {actions : List Action}
    (active : script.visits = visit :: outer)
    (running : visit.running = some (serial, action :: actions)) :
    (script.resumed visit outer serial actions).view = script.view := by
  unfold view
  rw [active]
  simp only [resumed, List.map_cons, Visit.stage, running]
  rfl

theorem RunsMade.resumed (made : script.RunsMade) {serial : Nat} {action : Action}
    {actions : List Action} (active : script.visits = visit :: outer)
    (running : visit.running = some (serial, action :: actions)) :
    (script.resumed visit outer serial actions).RunsMade := by
  have first := made visit (active ▸ List.mem_cons_self) _ running
  intro other member state runs
  rcases List.mem_cons.mp member with rfl | member
  · cases runs
    exact first
  · exact made other (active ▸ List.mem_cons_of_mem _ member) state runs

/-- The record of a hook shows the label that it ran under. -/
theorem view_finishHook {serial : Nat} (active : script.visits = visit :: outer)
    (running : visit.running = some (serial, [])) :
    (script.finishHook serial visit outer).view = script.view := by
  unfold view finishHook
  rw [active]
  simp only [List.map_cons, Visit.stage, running, label?, Option.bind_some, Option.bind_none]
  cases script.hooks[serial]? with
  | none => rfl
  | some hook =>
    simp only [ShutdownReport.add, labelsOf, List.map_append, Option.toList_none,
      List.append_nil]
    rfl

/-- The turn of an entry. -/
theorem step_of_visitEntry {entry : HookId × Nat} {waiting : List (HookId × Nat)}
    (active : script.visits = visit :: outer) (running : visit.running = none)
    (waits : visit.waiting = entry :: waiting) :
    View.Step script.isAlive script.view
      (.visits entry (if script.isAlive entry.2 then label? script.hooks entry.2 else none))
      (script.visitEntry entry.1 entry.2 ⟨waiting, none, visit.report⟩ outer).view := by
  unfold view visitEntry
  rw [active]
  simp only [List.map_cons, Visit.stage, running, waits, label?, Option.bind_none,
    Option.toList_none, List.append_nil]
  cases found : script.hooks[entry.2]? with
  | none =>
    simp only [Option.map_none, ite_self, List.map_cons, Visit.stage, Option.bind_none,
      Option.toList_none, List.append_nil]
    exact .prunes
  | some hook =>
    cases alive : script.isAlive entry.2 with
    | true =>
      simp only [found, if_true, List.map_cons, Visit.stage, label?, Option.bind_some,
        Option.map_some, Option.toList_some]
      exact .runs hook.label
    | false =>
      simp only [Bool.false_eq_true, if_false, List.map_cons, Visit.stage, Option.bind_none,
        Option.toList_none, List.append_nil]
      exact .prunes

/-- The next step of the innermost shutdown is the step that its event says. -/
theorem step_of_advance (made : script.RunsMade) :
    View.Step script.isAlive script.view script.nextEvent script.advance.2.view := by
  cases active : script.visits with
  | nil =>
    simp only [nextEvent, advance, active]
    exact .other _
  | cons visit outer =>
    cases running : visit.running with
    | some state =>
      obtain ⟨serial, actions⟩ := state
      cases actions with
      | cons action actions =>
        have step := step_of_perform (made.resumed active running) action
        have same : (script.resumed visit outer serial actions).eventOf action =
            script.eventOf action := by
          cases action <;> rfl
        rw [isAlive_resumed active running, view_resumed active running, same] at step
        simp only [nextEvent, advance, active, running, view_note]
        exact step
      | nil =>
        simp only [nextEvent, advance, active, running, view_finishHook active running]
        exact .other _
    | none =>
      cases waits : visit.waiting with
      | cons entry waiting =>
        simp only [nextEvent, advance, active, running, waits]
        exact step_of_visitEntry active running waits
      | nil =>
        have step : View.Step script.isAlive script.view (.ends visit.report)
            ({ script with visits := outer } : Script).view := by
          unfold view
          rw [active]
          simp only [List.map_cons, Visit.stage, running, waits, Option.bind_none,
            Option.toList_none, List.append_nil]
          exact .ends visit.report
        simp only [nextEvent, advance, active, running, waits]
        split
        · exact step
        · rw [view_note]
          exact step

end Innermost

/-- A move is the step that its event says. -/
theorem step_of_move {script : Script} (made : script.RunsMade) (move : Move) :
    View.Step script.isAlive script.view (script.event move) (script.move move).view := by
  cases move with
  | act action => exact step_of_perform made action
  | register serial => exact .registers script.view serial
  | deregister id => exact .deregisters script.view id
  | hold held => exact .other _
  | decide serial failure actions =>
    have kept : (script.move (.decide serial failure actions)).view = script.view :=
      view_eq made rfl rfl rfl fun other _ => label?_decided _ _ _ _ _
    rw [kept]
    exact .other _
  | advance => exact step_of_advance made

theorem runsMade_of_visits {script after : Script} (made : script.RunsMade)
    (hooks : script.hooks.length ≤ after.hooks.length)
    (visits : ∀ visit ∈ after.visits, visit.running = none ∨ visit ∈ script.visits) :
    after.RunsMade := by
  intro visit member running active
  rcases visits visit member with idle | old
  · rw [idle] at active
    cases active
  · exact Nat.lt_of_lt_of_le (made visit old running active) hooks

theorem RunsMade.perform {script : Script} (made : script.RunsMade) (action : Action) :
    (script.perform action).2.RunsMade := by
  cases action with
  | create name label failure actions =>
    refine runsMade_of_visits made ?_ fun visit old => .inr old
    simp only [Script.perform, Script.create, List.length_append]
    exact Nat.le_add_right ..
  | register name =>
    simp only [Script.perform, Script.register]
    cases script.held.lookup name with
    | none => exact made
    | some serial => exact made
  | deregister name =>
    simp only [Script.perform, Script.deregister]
    cases script.remembered.lookup name with
    | none => exact made
    | some id => exact made
  | drop name => exact made
  | countLive => exact made
  | shutdown =>
    refine runsMade_of_visits made (Nat.le_refl _) fun visit member => ?_
    rcases List.mem_cons.mp member with rfl | old
    · exact .inl rfl
    · exact .inr old

theorem RunsMade.advance {script : Script} (made : script.RunsMade) :
    script.advance.2.RunsMade := by
  cases active : script.visits with
  | nil =>
    simp only [Script.advance, active]
    exact made
  | cons visit outer =>
    have inner : ∀ {head : Visit}, head.running = none →
        ({ script with visits := head :: outer } : Script).RunsMade := by
      intro head idle
      refine runsMade_of_visits made (Nat.le_refl _) fun other member => ?_
      rcases List.mem_cons.mp member with rfl | old
      · exact .inl idle
      · exact .inr (active ▸ List.mem_cons_of_mem _ old)
    cases running : visit.running with
    | some state =>
      obtain ⟨serial, actions⟩ := state
      cases actions with
      | cons action actions =>
        simp only [Script.advance, active, running]
        exact (made.resumed active running).perform action
      | nil =>
        simp only [Script.advance, active, running]
        exact inner rfl
    | none =>
      cases waits : visit.waiting with
      | cons entry waiting =>
        simp only [Script.advance, active, running, waits, visitEntry]
        cases found : script.hooks[entry.2]? with
        | none => exact inner rfl
        | some hook =>
          dsimp only
          split
          · intro other member state runs
            rcases List.mem_cons.mp member with rfl | old
            · cases runs
              exact (List.getElem?_eq_some_iff.mp found).1
            · exact made other (active ▸ List.mem_cons_of_mem _ old) state runs
          · exact inner rfl
      | nil =>
        have rest : ({ script with visits := outer } : Script).RunsMade :=
          runsMade_of_visits made (Nat.le_refl _)
            fun other old => .inr (active ▸ List.mem_cons_of_mem _ old)
        simp only [Script.advance, active, running, waits]
        split
        · exact rest
        · exact rest

/-- Hooks that run were made, whatever happens next. -/
theorem RunsMade.move {script : Script} (made : script.RunsMade) (move : Move) :
    (script.move move).RunsMade := by
  cases move with
  | act action => exact made.perform action
  | register serial => exact made
  | deregister id => exact made
  | hold held => exact made
  | decide serial failure actions =>
    refine runsMade_of_visits made ?_ fun visit old => .inr old
    simp only [Script.move, List.length_modify, Nat.le_refl]
  | advance => exact made.advance

end Script

/-- The script after moves in turn. -/
def Script.after (script : Script) (moves : List Move) : Script := moves.foldl Script.move script

/-- The moments of moves in turn, on top of what has happened before. -/
def Script.momentsOf (script : Script) (moves : List Move) (before : History) : History :=
  match moves with
  | [] => before
  | move :: others => (script.move move).momentsOf others (⟨script, move⟩ :: before)

namespace Run

variable {history : History} {script : Script}

/-- A run may go on with any moves. -/
theorem goOn (run : Run history script) (moves : List Move) :
    Run (script.momentsOf moves history) (script.after moves) := by
  induction moves generalizing history script with
  | nil => exact run
  | cons move others inductionHypothesis => exact inductionHypothesis (run.more move)

theorem runsMade (run : Run history script) : script.RunsMade := by
  induction run with
  | nothing =>
    intro visit member
    cases member
  | more _ move inductionHypothesis => exact inductionHypothesis.move move

/-- The steps that finish a shutdown are moves. -/
theorem finish (run : Run history script) (fuel : Nat) :
    ∃ later, Run (later ++ history) (script.finish fuel).2 := by
  induction fuel generalizing history script with
  | zero => exact ⟨[], run⟩
  | succ fuel inductionHypothesis =>
    have next := run.more .advance
    have result : script.move .advance = script.advance.2 := rfl
    unfold Script.finish
    cases advanced : script.advance with
    | mk outcome after =>
      rw [result, advanced] at next
      cases outcome with
      | some outcome => exact ⟨[⟨script, .advance⟩], next⟩
      | none =>
        obtain ⟨later, whole⟩ := inductionHypothesis next
        refine ⟨later ++ [⟨script, .advance⟩], ?_⟩
        rw [List.append_assoc]
        exact whole

/-- An action with all that it sets off is made of moves. -/
theorem answer (run : Run history script) (action : Action) :
    ∃ later, Run (later ++ history) (script.answer action).2 := by
  have next := run.more (.act action)
  have result : script.move (.act action) = (script.perform action).2 := rfl
  unfold Script.answer
  cases performed : script.perform action with
  | mk outcome after =>
    rw [result, performed] at next
    cases outcome with
    | some outcome => exact ⟨[⟨script, .act action⟩], next⟩
    | none =>
      obtain ⟨later, whole⟩ := next.finish Script.maxSteps
      refine ⟨later ++ [⟨script, .act action⟩], ?_⟩
      rw [List.append_assoc]
      exact whole

end Run

end SocketMux.Shutdown
