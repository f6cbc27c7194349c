import SocketMux.Proofs.Shutdown.Run

/-!
# What a coordinator promises

Until the counter of 64 bits comes around, numbers of entries are not given twice, no entry runs
twice, and one that was deregistered never runs (`View.Distinct`, `View.Gone`). A shutdown visits
the entries of the moment at which it began, in their order, however deep the shutdowns are nested
that its hooks begin: `Visiting` is what each step keeps for the shutdown of one level. An entry
stays listed until a later moment removes it (`View.Step.mem_entries`). `Run.visitsOnce` puts this
together for every run with fewer registrations than the counter has numbers.
-/

namespace SocketMux.Shutdown

/-- An entry's turn, with the label of its hook if the hook ran. -/
abbrev Turn := (HookId × Nat) × Option String

namespace Event

/-- The number that an event gives. -/
def given? : Event → Option HookId
  | registers id _ => some id
  | _ => none

/-- The number that an event takes off the list on request. -/
def deregistered? : Event → Option HookId
  | deregisters id true => some id
  | _ => none

/-- The entry that runs. -/
def ran? : Event → Option HookId
  | visits entry (some _) => some entry.1
  | _ => none

/-- The entry whose turn it is, with the label of its hook if the hook runs. -/
def turn? : Event → Option Turn
  | visits entry label => some (entry, label)
  | _ => none

/-- Whether an event takes an entry off the list while some hooks are alive. -/
def removes (alive : Nat → Bool) (entry : HookId × Nat) : Event → Bool
  | deregisters id _ => id == entry.1
  | counts => !alive entry.2
  | begins => true
  | _ => false

end Event

namespace View

variable {alive : Nat → Bool} {view after : View} {event : Event}

/-- The numbers of the entries that are listed, that wait for their turn and that ran. -/
def ids (view : View) : List HookId :=
  view.coordinator.entries.map Prod.fst ++
    (view.stages.flatMap fun stage => stage.waiting.map Prod.fst) ++ view.ran

/-- No number stands twice, and all were given. -/
structure Distinct (view : View) : Prop where
  once : view.ids.Nodup
  given : ∀ id ∈ view.ids, id < view.coordinator.nextId
  ordered : (view.coordinator.entries.map Prod.fst).Pairwise (· < ·)

/-- A number that was given and will not run any more. -/
structure Gone (view : View) (id : HookId) : Prop where
  given : id < view.coordinator.nextId
  absent : id ∉ view.ids

/-- A step counts the number that it gives. -/
theorem Step.counter (step : Step alive view event after) :
    (event.given? = none ∧ after.coordinator.nextId = view.coordinator.nextId) ∨
    (event.given? = some view.coordinator.nextId ∧
      after.coordinator.nextId = view.coordinator.nextId + 1) := by
  cases step with
  | registers _ serial => exact .inr ⟨rfl, rfl⟩
  | _ => exact .inl ⟨rfl, rfl⟩

/-- The entries that are listed were given. -/
theorem Distinct.entries_given (distinct : view.Distinct) :
    ∀ entry ∈ view.coordinator.entries, entry.1 < view.coordinator.nextId := by
  intro entry member
  refine distinct.given _ (List.mem_append_left _ (List.mem_append_left _ ?_))
  exact List.mem_map_of_mem member

/-- A step gives the next number, or it gives none and keeps some of the numbers. -/
theorem Distinct.ids (distinct : view.Distinct) (step : Step alive view event after) :
    (event.given? = none ∧ after.coordinator.nextId = view.coordinator.nextId ∧
      ∃ kept, kept.Sublist view.ids ∧ after.ids.Perm kept) ∨
    (event.given? = some view.coordinator.nextId ∧
      after.coordinator.nextId = view.coordinator.nextId + 1 ∧
      after.ids.Perm (view.coordinator.nextId :: view.ids)) := by
  cases step with
  | registers _ serial =>
    refine .inr ⟨rfl, rfl, ?_⟩
    simp only [View.ids, ShutdownCoordinator.register,
      ShutdownCoordinator.insert_last distinct.entries_given, List.map_append, List.append_assoc]
    exact List.perm_middle
  | deregisters _ id =>
    refine .inl ⟨rfl, rfl, _, ?_, .refl _⟩
    exact ((List.filter_sublist.map _).append_right _).append_right _
  | counts =>
    refine .inl ⟨rfl, rfl, _, ?_, .refl _⟩
    exact ((List.filter_sublist.map _).append_right _).append_right _
  | begins =>
    refine .inl ⟨rfl, rfl, _, .refl _, ?_⟩
    simp only [View.ids, ShutdownCoordinator.takeAll, List.map_nil, List.nil_append,
      List.flatMap_cons, List.append_assoc]
    exact .refl _
  | runs label =>
    refine .inl ⟨rfl, rfl, _, .refl _, ?_⟩
    simp only [View.ids, List.flatMap_cons, List.map_cons, List.append_assoc, List.cons_append]
    refine .append_left _ ?_
    rw [← List.append_assoc, ← List.append_assoc]
    exact List.perm_middle
  | prunes =>
    refine .inl ⟨rfl, rfl, _, ?_, .refl _⟩
    simp only [View.ids, List.flatMap_cons, List.map_cons, List.append_assoc, List.cons_append]
    exact .append_left (List.sublist_cons_self _ _) _
  | ends report =>
    refine .inl ⟨rfl, rfl, _, .refl _, ?_⟩
    simp only [View.ids, List.flatMap_cons, List.map_nil, List.nil_append]
    exact .refl _
  | other => exact .inl ⟨rfl, rfl, _, .refl _, .refl _⟩

/-- A step lists at most the number that it gives. -/
theorem Distinct.entries (distinct : view.Distinct) (step : Step alive view event after) :
    (after.coordinator.entries.map Prod.fst).Sublist
      (view.coordinator.entries.map Prod.fst ++ event.given?.toList) := by
  cases step with
  | registers _ serial =>
    simp only [ShutdownCoordinator.register,
      ShutdownCoordinator.insert_last distinct.entries_given, List.map_append]
    exact .refl _
  | deregisters _ id => exact .trans (List.filter_sublist.map _) (List.sublist_append_left _ _)
  | counts => exact .trans (List.filter_sublist.map _) (List.sublist_append_left _ _)
  | begins => exact List.nil_sublist _
  | _ => exact List.sublist_append_left _ _

/-- A step keeps numbers apart while the counter goes up. -/
theorem Distinct.step (distinct : view.Distinct) (step : Step alive view event after)
    (up : view.coordinator.nextId ≤ after.coordinator.nextId) : after.Distinct := by
  have entries := distinct.entries step
  rcases distinct.ids step with ⟨given, same, kept, part, perm⟩ | ⟨given, next, perm⟩
  · refine ⟨perm.nodup_iff.mpr (distinct.once.sublist part), ?_, ?_⟩
    · intro id member
      rw [same]
      exact distinct.given id (part.subset (perm.mem_iff.mp member))
    · rw [given, Option.toList_none, List.append_nil] at entries
      exact distinct.ordered.sublist entries
  · have fresh : view.coordinator.nextId ∉ view.ids := fun member =>
      UInt64.lt_irrefl _ (distinct.given _ member)
    refine ⟨perm.nodup_iff.mpr (List.nodup_cons.mpr ⟨fresh, distinct.once⟩), ?_, ?_⟩
    · intro id member
      rw [next] at up ⊢
      rcases List.mem_cons.mp (perm.mem_iff.mp member) with rfl | old
      · exact HookId.lt_next up
      · exact UInt64.lt_of_lt_of_le (distinct.given id old) up
    · rw [given, Option.toList_some] at entries
      refine List.Pairwise.sublist entries (List.pairwise_append.mpr ⟨distinct.ordered, ?_, ?_⟩)
      · exact List.pairwise_singleton _ _
      · intro id listed last member
        rw [List.mem_singleton.mp member]
        exact distinct.given id (List.mem_append_left _ (List.mem_append_left _ listed))

/-- A number that is gone stays so while the counter goes up. -/
theorem Gone.step {id : HookId} (gone : view.Gone id) (distinct : view.Distinct)
    (step : Step alive view event after)
    (up : view.coordinator.nextId ≤ after.coordinator.nextId) : after.Gone id := by
  refine ⟨UInt64.lt_of_lt_of_le gone.given up, fun member => ?_⟩
  rcases distinct.ids step with ⟨_, same, kept, part, perm⟩ | ⟨_, next, perm⟩
  · exact gone.absent (part.subset (perm.mem_iff.mp member))
  · rcases List.mem_cons.mp (perm.mem_iff.mp member) with rfl | old
    · exact UInt64.lt_irrefl _ gone.given
    · exact gone.absent old

/-- A number is gone once it was deregistered. -/
theorem Distinct.gone_of_deregistered {id : HookId} (distinct : view.Distinct)
    (step : Step alive view event after) (removed : event.deregistered? = some id) :
    after.Gone id := by
  cases step with
  | deregisters _ other =>
    cases listed : (view.coordinator.deregister other).1 with
    | false =>
      rw [listed] at removed
      cases removed
    | true =>
      rw [listed] at removed
      cases removed
      obtain ⟨entry, member, named⟩ := List.any_eq_true.mp listed
      have same : entry.1 = id := by simpa using named
      have present : id ∈ view.coordinator.entries.map Prod.fst :=
        List.mem_map.mpr ⟨entry, member, same⟩
      have once := distinct.once
      unfold View.ids at once
      rw [List.append_assoc] at once
      refine ⟨distinct.given id ?_, fun left => ?_⟩
      · exact List.mem_append_left _ (List.mem_append_left _ present)
      · unfold View.ids at left
        rw [List.append_assoc] at left
        rcases List.mem_append.mp left with kept | elsewhere
        · simp [ShutdownCoordinator.deregister] at kept
        · exact (List.nodup_append.mp once).2.2 id present id elsewhere rfl
  | _ => cases removed

/-- Entries are listed until an event removes them. -/
theorem Step.mem_entries (step : Step alive view event after) {entry : HookId × Nat}
    (given : entry.1 < view.coordinator.nextId) :
    entry ∈ after.coordinator.entries ↔
      entry ∈ view.coordinator.entries ∧ event.removes alive entry = false := by
  cases step with
  | registers _ serial =>
    have removes : Event.removes alive entry (.registers (view.coordinator.register serial).1 serial)
        = false := rfl
    rw [removes, eq_self_iff_true, and_true]
    exact ShutdownCoordinator.mem_insert_of_lt given serial
  | deregisters _ id =>
    have apart : (entry.1 != id) = true ↔ (id == entry.1) = false := by
      rw [bne_iff_ne, beq_eq_false_iff_ne, ne_comm]
    simp only [ShutdownCoordinator.deregister, List.mem_filter, Event.removes, apart]
  | counts => simp [ShutdownCoordinator.prune, Event.removes]
  | begins => simp [ShutdownCoordinator.takeAll, Event.removes]
  | _ => simp [Event.removes]

/-- A new entry is listed. -/
theorem Step.listed {id : HookId} {serial : Nat}
    (step : Step alive view (.registers id serial) after)
    (up : view.coordinator.nextId ≤ after.coordinator.nextId) :
    (id, serial) ∈ after.coordinator.entries ∧ id < after.coordinator.nextId := by
  cases step with
  | registers _ serial =>
    exact ⟨List.mem_append_right _ List.mem_cons_self, HookId.lt_next up⟩

/-- The log keeps the entries that ran. -/
theorem Step.ran (step : Step alive view event after) :
    after.ran = event.ran?.toList ++ view.ran := by
  cases step <;> rfl

end View

/-- What the turns of a shutdown have come to: the entries that had theirs and those that wait
are the entries of its beginning in their order, and of those that had theirs the hooks that
were alive have their labels on record and the others are counted. -/
structure Visiting (entries : List (HookId × Nat)) (turns : List Turn) (stage : Stage) :
    Prop where
  order : turns.map Prod.fst ++ stage.waiting = entries
  labels : stage.labels = turns.filterMap Prod.snd
  pruned : stage.pruned = turns.countP fun turn => turn.2.isNone

namespace Visiting

variable {entries waiting : List (HookId × Nat)} {turns : List Turn} {entry : HookId × Nat}
  {labels : List String} {pruned : Nat}

/-- The hook of the next entry is alive. -/
theorem runs (visiting : Visiting entries turns ⟨entry :: waiting, labels, pruned⟩)
    (label : String) :
    Visiting entries (turns ++ [(entry, some label)]) ⟨waiting, labels ++ [label], pruned⟩ where
  order := by
    rw [List.map_append, List.append_assoc]
    exact visiting.order
  labels := by
    rw [List.filterMap_append, ← visiting.labels]
    rfl
  pruned := by
    rw [List.countP_append, ← visiting.pruned]
    rfl

/-- The hook of the next entry is gone. -/
theorem prunes (visiting : Visiting entries turns ⟨entry :: waiting, labels, pruned⟩) :
    Visiting entries (turns ++ [(entry, none)]) ⟨waiting, labels, pruned + 1⟩ where
  order := by
    rw [List.map_append, List.append_assoc]
    exact visiting.order
  labels := by
    rw [List.filterMap_append, ← visiting.labels]
    exact (List.append_nil _).symm
  pruned := by
    rw [List.countP_append, ← visiting.pruned]
    rfl

theorem mem_entries {stage : Stage} (visiting : Visiting entries turns stage) {turn : Turn}
    (took : turn ∈ turns) : turn.1 ∈ entries := by
  rw [← visiting.order]
  exact List.mem_append_left _ (List.mem_map_of_mem took)

/-- Each turn has a label or is counted. -/
theorem length_turns (turns : List Turn) :
    (turns.filterMap Prod.snd).length + (turns.countP fun turn => turn.2.isNone) =
      turns.length := by
  induction turns with
  | nil => rfl
  | cons turn others inductionHypothesis =>
    obtain ⟨entry, label⟩ := turn
    cases label with
    | none =>
      simp only [List.filterMap_cons, List.countP_cons, Option.isNone_none, if_true,
        List.length_cons]
      omega
    | some label =>
      simp only [List.filterMap_cons, List.countP_cons, Option.isNone_some, Bool.false_eq_true,
        if_false, List.length_cons]
      omega

/-- A shutdown whose entries all had their turn has as many records and counted entries as
there were entries. -/
theorem total {report : ShutdownReport}
    (visiting : Visiting entries turns ⟨[], labelsOf report, report.pruned⟩) :
    report.records.length + report.pruned = entries.length := by
  have records : report.records.length = (turns.filterMap Prod.snd).length := by
    rw [← visiting.labels]
    exact (List.length_map _).symm
  have pruned : report.pruned = turns.countP fun turn => turn.2.isNone := visiting.pruned
  rw [records, pruned, length_turns, ← visiting.order, List.append_nil, List.length_map]

end Visiting

namespace View

variable {alive : Nat → Bool} {view after : View} {event : Event}

/-- A shutdown that begins has visited nothing. -/
theorem Step.begun (step : Step alive view .begins after) :
    ∃ stage, after.stages = stage :: view.stages ∧
      Visiting view.coordinator.entries [] stage := by
  cases step
  exact ⟨_, rfl, rfl, rfl, rfl⟩

/-- A step of one shutdown leaves those around it, and takes the innermost one turn further,
unless it has had all its turns and ends. -/
theorem Step.visiting (step : Step alive view event after) {inner outer : List Stage}
    {stage : Stage} {entries : List (HookId × Nat)} {turns : List Turn}
    (active : view.stages = inner ++ stage :: outer) (visiting : Visiting entries turns stage) :
    (∃ inner' stage', after.stages = inner' ++ stage' :: outer ∧
      Visiting entries (turns ++ if inner = [] then event.turn?.toList else []) stage') ∨
    ∃ report, event = .ends report ∧ after.stages = outer ∧
      Visiting entries turns ⟨[], labelsOf report, report.pruned⟩ := by
  have still : event.turn? = none → after.stages = view.stages →
      ∃ inner' stage', after.stages = inner' ++ stage' :: outer ∧
        Visiting entries (turns ++ if inner = [] then event.turn?.toList else []) stage' := by
    intro none same
    rw [none, Option.toList_none, ite_self, List.append_nil]
    exact ⟨inner, stage, same.trans active, visiting⟩
  cases step with
  | registers _ serial => exact .inl (still rfl rfl)
  | deregisters _ id => exact .inl (still rfl rfl)
  | counts => exact .inl (still rfl rfl)
  | other => exact .inl (still rfl rfl)
  | begins =>
    refine .inl ⟨_ :: inner, stage, congrArg (_ :: ·) active, ?_⟩
    simpa [Event.turn?] using visiting
  | runs label =>
    cases inner with
    | nil =>
      obtain ⟨rfl, rfl⟩ := List.cons.inj active
      exact .inl ⟨[], _, rfl, visiting.runs label⟩
    | cons first inner =>
      obtain ⟨rfl, rfl⟩ := List.cons.inj active
      refine .inl ⟨_ :: inner, stage, rfl, ?_⟩
      simpa using visiting
  | prunes =>
    cases inner with
    | nil =>
      obtain ⟨rfl, rfl⟩ := List.cons.inj active
      exact .inl ⟨[], _, rfl, visiting.prunes⟩
    | cons first inner =>
      obtain ⟨rfl, rfl⟩ := List.cons.inj active
      refine .inl ⟨_ :: inner, stage, rfl, ?_⟩
      simpa using visiting
  | ends report =>
    cases inner with
    | nil =>
      obtain ⟨rfl, rfl⟩ := List.cons.inj active
      exact .inr ⟨report, rfl, rfl, visiting⟩
    | cons first inner =>
      obtain ⟨rfl, rfl⟩ := List.cons.inj active
      refine .inl ⟨inner, stage, rfl, ?_⟩
      simpa using visiting

end View

/-- Whether a moment takes an entry off the list. -/
def Moment.removes (moment : Moment) (entry : HookId × Nat) : Bool :=
  moment.event.removes moment.script.isAlive entry

/-- What is read off the events of a history, the latest first. -/
def readings {α : Type} (read : Event → Option α) (history : History) : List α :=
  history.filterMap fun moment => read moment.event

theorem readings_cons {α : Type} (read : Event → Option α) (moment : Moment)
    (history : History) :
    readings read (moment :: history) = (read moment.event).toList ++ readings read history := by
  unfold readings
  rw [List.filterMap_cons]
  cases read moment.event <;> rfl

/-- The turns that a shutdown of a level took, the earliest first. -/
def turnsAt (level : Nat) : History → List Turn
  | [] => []
  | moment :: earlier =>
    turnsAt level earlier ++ if moment.level = level then moment.event.turn?.toList else []

/-- What the shutdown that began at a moment has come to, the moments since then being those
during which it was under way. -/
structure VisitsInOrder (begun : Moment) (during : History) (script : Script) : Prop where
  /-- While it is under way, those of the entries of its beginning that had their turn and
  those that wait stand in their order. The labels of the hooks that ran are on record, but
  for the last of them as long as it runs, and the hooks that were gone are counted. -/
  underWay : begun.level < script.visits.length →
    ∃ inner stage outer, script.view.stages = inner ++ stage :: outer ∧
      outer.length = begun.level ∧
      Visiting begun.script.coordinator.entries (turnsAt (begun.level + 1) during) stage
  /-- When it has ended, it has answered with its report, and all entries of its beginning have
  had their turn. -/
  ended : script.visits.length ≤ begun.level →
    ∃ report last, during.head? = some last ∧ last.Answers report ∧
      Visiting begun.script.coordinator.entries (turnsAt (begun.level + 1) during)
        ⟨[], labelsOf report, report.pruned⟩ ∧
      report.records.length + report.pruned = begun.script.coordinator.entries.length
  /-- Entries that were listed after its beginning had no turn in it. -/
  later : ∀ moment ∈ during, ∀ id serial, moment.event = .registers id serial →
    ∀ turn ∈ turnsAt (begun.level + 1) during, turn.1.1 ≠ id

/-- What a coordinator promises. -/
structure VisitsOnce (history : History) (script : Script) : Prop where
  /-- Numbers ascend, so none is given twice. -/
  ascending : (readings Event.given? history).Pairwise (· > ·)
  /-- The hook of an entry runs at its turn just if it is alive and was made. -/
  alive : ∀ moment ∈ history, ∀ entry label, moment.event = .visits entry label →
    label = if moment.script.isAlive entry.2 then label? moment.script.hooks entry.2 else none
  /-- Entries run at their turns, ... -/
  atTurns : script.ran = readings Event.ran? history
  /-- ... each at most once. -/
  once : script.ran.Nodup
  /-- An entry that was deregistered does not run, before or after. -/
  spared : ∀ id ∈ readings Event.deregistered? history, id ∉ script.ran
  /-- Entries are listed in the order of their registration. -/
  ordered : (script.coordinator.entries.map Prod.fst).Pairwise (· < ·)
  /-- An entry stays listed until a later moment removes it. -/
  listed : ∀ later moment earlier id serial, history = later ++ moment :: earlier →
    moment.event = .registers id serial →
    ((id, serial) ∈ script.coordinator.entries ↔
      ∀ moment ∈ later, moment.removes (id, serial) = false)
  /-- A shutdown visits the entries of its beginning. -/
  shutdowns : ∀ during begun earlier, history = during ++ begun :: earlier →
    begun.event = .begins → (∀ moment ∈ during, begun.level < moment.level) →
    VisitsInOrder begun during script

namespace Run

variable {history : History} {script : Script}

/-- Every move of a run is the step that its event says. -/
theorem step (run : Run history script) (move : Move) :
    View.Step script.isAlive script.view (script.event move) (script.move move).view :=
  Script.step_of_move run.runsMade move

/-- Where a later history has few registrations, so has an earlier one. -/
theorem few_before (later : History)
    (few : (readings Event.given? (later ++ history)).length < UInt64.size) :
    (readings Event.given? history).length < UInt64.size := by
  refine Nat.lt_of_le_of_lt ?_ few
  rw [readings, readings, List.filterMap_append, List.length_append]
  exact Nat.le_add_left ..

/-- While the counter has not come around, the numbers that were given are those before the
next one. -/
theorem given_eq (run : Run history script)
    (few : (readings Event.given? history).length < UInt64.size) :
    (readings Event.given? history).map UInt64.toNat =
      (List.range script.coordinator.nextId.toNat).reverse := by
  induction run with
  | nothing => rfl
  | @more history script earlier move inductionHypothesis =>
    have event : Moment.event ⟨script, move⟩ = script.event move := rfl
    have before := inductionHypothesis (few_before [_] few)
    have count := congrArg List.length before
    rw [List.length_map, List.length_reverse, List.length_range] at count
    rw [readings_cons, event] at few ⊢
    rw [List.map_append, before]
    rcases (earlier.step move).counter with ⟨given, same⟩ | ⟨given, next⟩
    · have same : (script.move move).coordinator.nextId = script.coordinator.nextId := same
      rw [given, same]
      rfl
    · have next : (script.move move).coordinator.nextId = script.coordinator.nextId + 1 := next
      have given : (script.event move).given? = some script.coordinator.nextId := given
      rw [given, List.length_append, count, Nat.add_comm] at few
      rw [given, next, HookId.toNat_next few, List.range_succ, List.reverse_append]
      rfl

/-- While few hooks were registered, the counter goes up. -/
theorem up (run : Run history script) (move : Move)
    (few : (readings Event.given? (⟨script, move⟩ :: history)).length < UInt64.size) :
    script.coordinator.nextId ≤ (script.move move).coordinator.nextId := by
  have before := run.given_eq (few_before [_] few)
  have after := (run.more move).given_eq few
  have counts := congrArg List.length before
  have countsAfter := congrArg List.length after
  rw [List.length_map, List.length_reverse, List.length_range] at counts countsAfter
  rw [readings_cons, List.length_append, counts] at countsAfter
  rw [UInt64.le_iff_toNat_le, ← countsAfter]
  exact Nat.le_add_left ..

theorem distinct (run : Run history script)
    (few : (readings Event.given? history).length < UInt64.size) : script.view.Distinct := by
  induction run with
  | nothing => exact ⟨List.nodup_nil, fun _ member => (List.not_mem_nil member).elim, .nil⟩
  | more earlier move inductionHypothesis =>
    have before := inductionHypothesis (few_before [_] few)
    exact before.step (earlier.step move) (earlier.up move few)

theorem ran_eq (run : Run history script) : script.ran = readings Event.ran? history := by
  induction run with
  | nothing => rfl
  | more earlier move inductionHypothesis =>
    rw [readings_cons, ← inductionHypothesis]
    exact (earlier.step move).ran

theorem gone_of_deregistered (run : Run history script)
    (few : (readings Event.given? history).length < UInt64.size) :
    ∀ id ∈ readings Event.deregistered? history, script.view.Gone id := by
  induction run with
  | nothing => exact fun id member => (List.not_mem_nil member).elim
  | more earlier move inductionHypothesis =>
    intro id member
    have step := earlier.step move
    have fewBefore := few_before [_] few
    have distinct := earlier.distinct fewBefore
    rw [readings_cons] at member
    rcases List.mem_append.mp member with now | before
    · exact distinct.gone_of_deregistered step (Option.mem_toList.mp now)
    · exact (inductionHypothesis fewBefore id before).step distinct step (earlier.up move few)

/-- What an entry of the list needs to stay there. -/
theorem listed (run : Run history script)
    (few : (readings Event.given? history).length < UInt64.size) :
    ∀ later moment earlier id serial, history = later ++ moment :: earlier →
    moment.event = .registers id serial →
    id < script.coordinator.nextId ∧ ((id, serial) ∈ script.coordinator.entries ↔
      ∀ moment ∈ later, moment.removes (id, serial) = false) := by
  induction run with
  | nothing =>
    intro later moment earlier id serial whole
    simp at whole
  | @more history script before move inductionHypothesis =>
    intro later moment earlier id serial whole registers
    have step := before.step move
    have up := before.up move few
    cases later with
    | nil =>
      obtain ⟨rfl, rfl⟩ := List.cons.inj whole
      have registers : script.event move = .registers id serial := registers
      rw [registers] at step
      obtain ⟨member, given⟩ := step.listed up
      exact ⟨given, fun _ _ none => (List.not_mem_nil none).elim, fun _ => member⟩
    | cons last later =>
      obtain ⟨rfl, rfl⟩ := List.cons.inj whole
      obtain ⟨given, still⟩ := inductionHypothesis (few_before [_] few) later moment
        earlier id serial rfl registers
      refine ⟨UInt64.lt_of_lt_of_le given up, ?_⟩
      rw [List.forall_mem_cons, and_comm, ← still]
      exact step.mem_entries given

/-- What a shutdown has come to while it was under way. -/
theorem visiting (run : Run history script) :
    ∀ during begun earlier, history = during ++ begun :: earlier → begun.event = .begins →
    (∀ moment ∈ during, begun.level < moment.level) →
    (∃ inner stage outer, script.view.stages = inner ++ stage :: outer ∧
      outer.length = begun.level ∧
      Visiting begun.script.coordinator.entries (turnsAt (begun.level + 1) during) stage) ∨
    (script.view.stages.length = begun.level ∧
      ∃ report last, during.head? = some last ∧ last.event = .ends report ∧
      Visiting begun.script.coordinator.entries (turnsAt (begun.level + 1) during)
        ⟨[], labelsOf report, report.pruned⟩) := by
  induction run with
  | nothing =>
    intro during begun earlier whole
    simp at whole
  | @more history script before move inductionHypothesis =>
    intro during begun earlier whole begins deeper
    have step := before.step move
    cases during with
    | nil =>
      obtain ⟨rfl, rfl⟩ := List.cons.inj whole
      have begins : script.event move = .begins := begins
      rw [begins] at step
      obtain ⟨stage, stages, visiting⟩ := step.begun
      exact .inl ⟨[], stage, script.view.stages, stages, List.length_map _, visiting⟩
    | cons last during =>
      obtain ⟨rfl, rfl⟩ := List.cons.inj whole
      have deep : begun.level < script.view.stages.length := by
        have here := deeper _ List.mem_cons_self
        exact Nat.lt_of_lt_of_eq here (List.length_map _).symm
      rcases inductionHypothesis during begun earlier rfl begins
        fun moment member => deeper moment (List.mem_cons_of_mem _ member) with
        ⟨inner, stage, outer, stages, level, visiting⟩ | ⟨ended, _⟩
      · have innermost : inner = [] ↔ Moment.level ⟨script, move⟩ = begun.level + 1 := by
          have count : script.view.stages.length = script.visits.length := List.length_map _
          rw [stages, List.length_append, List.length_cons, level] at count
          unfold Moment.level at count ⊢
          rw [← count, ← List.length_eq_zero_iff]
          omega
        have own : (if inner = [] then (script.event move).turn?.toList else []) =
            if Moment.level ⟨script, move⟩ = begun.level + 1 then (script.event move).turn?.toList
            else [] := by
          simp only [innermost]
        rcases step.visiting stages visiting with
          ⟨inner', stage', stages', visiting'⟩ | ⟨report, ends, stages', visiting'⟩
        · rw [own] at visiting'
          exact .inl ⟨inner', stage', outer, stages', level, visiting'⟩
        · refine .inr ⟨stages' ▸ level, report, _, rfl, ends, ?_⟩
          have noTurn : turnsAt (begun.level + 1) (⟨script, move⟩ :: during) =
              turnsAt (begun.level + 1) during := by
            have event : Moment.event ⟨script, move⟩ = .ends report := ends
            rw [turnsAt, event]
            simp [Event.turn?]
          rw [noTurn]
          exact visiting'
      · omega

/-- A run was one at each of its moments. -/
theorem before (run : Run history script) : ∀ later moment earlier,
    history = later ++ moment :: earlier → Run earlier moment.script := by
  induction run with
  | nothing =>
    intro later moment earlier whole
    simp at whole
  | more run move inductionHypothesis =>
    intro later moment earlier whole
    cases later with
    | nil =>
      obtain ⟨rfl, rfl⟩ := List.cons.inj whole
      exact run
    | cons last later =>
      obtain ⟨rfl, rfl⟩ := List.cons.inj whole
      exact inductionHypothesis later moment earlier rfl

theorem ascending (run : Run history script)
    (few : (readings Event.given? history).length < UInt64.size) :
    (readings Event.given? history).Pairwise (· > ·) := by
  have numbers : ((readings Event.given? history).map UInt64.toNat).Pairwise (· > ·) := by
    rw [run.given_eq few, List.pairwise_reverse]
    exact List.pairwise_lt_range
  exact (List.pairwise_map.mp numbers).imp UInt64.lt_iff_toNat_lt.mpr

/-- Entries that are listed while a shutdown is under way are none of those it visits. -/
theorem ne_of_given (run : Run history script)
    (few : (readings Event.given? history).length < UInt64.size) {during earlier : History}
    {begun : Moment} (whole : history = during ++ begun :: earlier) {id : HookId}
    (given : id ∈ readings Event.given? during) {entry : HookId × Nat}
    (listed : entry ∈ begun.script.coordinator.entries) : entry.1 ≠ id := by
  have past := run.before during begun earlier whole
  have fewPast : (readings Event.given? earlier).length < UInt64.size := by
    rw [whole, List.append_cons] at few
    exact few_before _ few
  have known := (past.distinct fewPast).entries_given entry listed
  have old : entry.1 ∈ readings Event.given? (begun :: earlier) := by
    rw [readings_cons]
    refine List.mem_append_right _ ?_
    have number : entry.1.toNat ∈ (readings Event.given? earlier).map UInt64.toNat := by
      rw [past.given_eq fewPast]
      exact List.mem_reverse.mpr (List.mem_range.mpr (UInt64.lt_iff_toNat_lt.mp known))
    obtain ⟨same, member, equal⟩ := List.mem_map.mp number
    exact UInt64.toNat_inj.mp equal ▸ member
  have apart := run.ascending few
  rw [whole] at apart
  unfold readings at apart given old
  rw [List.filterMap_append] at apart
  exact UInt64.ne_of_lt ((List.pairwise_append.mp apart).2.2 id given entry.1 old)

/-- In every run a coordinator keeps its promises, as long as its counter of 64 bits has not
come around. -/
theorem visitsOnce (run : Run history script)
    (few : (readings Event.given? history).length < UInt64.size) : VisitsOnce history script where
  ascending := run.ascending few
  alive moment _ entry label visits := Script.label_of_visits visits
  atTurns := run.ran_eq
  once := by
    have distinct := (run.distinct few).once
    exact distinct.sublist (List.sublist_append_right _ _)
  spared id removed member :=
    (run.gone_of_deregistered few id removed).absent (List.mem_append_right _ member)
  ordered := (run.distinct few).ordered
  listed later moment earlier id serial whole registers :=
    (run.listed few later moment earlier id serial whole registers).2
  shutdowns during begun earlier whole begins deeper := by
    have known := run.visiting during begun earlier whole begins deeper
    have count : script.view.stages.length = script.visits.length := List.length_map _
    refine ⟨fun under => ?_, fun ended => ?_, fun moment member id serial registers turn took => ?_⟩
    · rcases known with active | ⟨atTop, _⟩
      · exact active
      · omega
    · rcases known with ⟨inner, stage, outer, stages, level, _⟩ |
        ⟨_, report, last, latest, ends, visiting⟩
      · rw [stages, List.length_append, List.length_cons] at count
        omega
      · exact ⟨report, last, latest, Script.answers_of_ends ends, visiting, visiting.total⟩
    · have entries : turn.1 ∈ begun.script.coordinator.entries := by
        rcases known with ⟨_, _, _, _, _, visiting⟩ | ⟨_, _, _, _, _, visiting⟩
        · exact visiting.mem_entries took
        · exact visiting.mem_entries took
      refine run.ne_of_given few whole ?_ entries
      exact List.mem_filterMap.mpr ⟨moment, member, by rw [registers]; rfl⟩

/-- A shutdown whose first hook registers a failing one and begins a shutdown inside it, whose
second hook is gone, and whose third entry is the failing hook, which is registered again while
it runs; a fourth entry was deregistered before. -/
def nestedMoves : List Move :=
  [.act (.create "a" "first" none [.register "c", .shutdown]), .act (.create "b" "second" none []),
    .act (.create "c" "third" (some .closed) []), .act (.register "a"), .act (.register "b"),
    .act (.drop "b"), .register 2, .act (.register "c"), .act (.deregister "c"), .act .shutdown] ++
  List.replicate 9 .advance ++ [.act (.register "c"), .advance, .advance]

theorem visitsOnce_nested :
    Run (Script.initial.momentsOf nestedMoves []) (Script.initial.after nestedMoves) ∧
    readings Event.given? (Script.initial.momentsOf nestedMoves []) = [5, 4, 3, 2, 1, 0] ∧
    (Script.initial.after nestedMoves).ran = [2, 4, 0] ∧
    (Script.initial.after nestedMoves).coordinator.entries = [(5, 2)] ∧
    readings Event.deregistered? (Script.initial.momentsOf nestedMoves []) = [3] ∧
    VisitsOnce (Script.initial.momentsOf nestedMoves []) (Script.initial.after nestedMoves) := by
  have run := Run.nothing.goOn nestedMoves
  have given : readings Event.given? (Script.initial.momentsOf nestedMoves []) =
      [5, 4, 3, 2, 1, 0] := by decide +kernel
  refine ⟨run, given, by decide +kernel, by decide +kernel, by decide +kernel, ?_⟩
  exact run.visitsOnce (by rw [given]; decide)

end Run

end SocketMux.Shutdown
