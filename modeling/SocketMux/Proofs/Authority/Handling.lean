import SocketMux.Proofs.Authority.Frames

/-!
# Frames that were handled

What a connection sends is cut into complete frames of five bytes (`framesOf`), of which an
authority handles one at a time. `Handled` records one with its reply, and
`effect_of_answer` says what handling it does to a pool: a grant puts the next port in use, a
return takes one out, and nothing else changes anything. Ports that are granted in turn differ
(`nodup_of_in_turn`).
-/

namespace SocketMux

namespace Authority

/-- The first complete frame as a code and an argument, and what follows it. -/
def takeFrame? : List UInt8 → Option ((UInt8 × Port) × List UInt8)
  | code :: first :: second :: third :: fourth :: rest =>
    some ((code, (Wire.ofBytes32 first second third fourth).toInt32), rest)
  | _ => none

/-- All complete frames in turn. -/
def framesOf : List UInt8 → List (UInt8 × Port)
  | code :: first :: second :: third :: fourth :: rest =>
    (code, (Wire.ofBytes32 first second third fourth).toInt32) :: framesOf rest
  | _ => []

theorem takeFrame?_some {bytes rest : List UInt8} {frame : UInt8 × Port}
    (taken : takeFrame? bytes = some (frame, rest)) :
    framesOf bytes = frame :: framesOf rest ∧ rest = bytes.drop 5 := by
  unfold takeFrame? at taken
  split at taken
  · next code first second third fourth others =>
    obtain ⟨rfl, rfl⟩ := Prod.mk.inj (Option.some.inj taken)
    exact ⟨rfl, rfl⟩
  · cases taken

/-- A complete frame has five bytes. -/
theorem length_framesOf (bytes : List UInt8) : (framesOf bytes).length = bytes.length / 5 := by
  fun_induction framesOf bytes with
  | case1 code first second third fourth rest inductionHypothesis =>
    rw [List.length_cons, inductionHypothesis]
    simp only [List.length_cons]
    omega
  | case2 bytes shape =>
    have short : bytes.length < 5 := by
      rcases bytes with - | ⟨code, - | ⟨first, - | ⟨second, - | ⟨third, - | ⟨fourth, rest⟩⟩⟩⟩⟩
      case cons.cons.cons.cons.cons =>
        exact absurd rfl (shape code first second third fourth rest)
      all_goals simp
    rw [List.length_nil, Nat.div_eq_of_lt short]

theorem takeFrame?_eq_none {bytes : List UInt8} (incomplete : takeFrame? bytes = none) :
    framesOf bytes = [] := by
  unfold takeFrame? at incomplete
  split at incomplete
  · cases incomplete
  · next shape =>
    unfold framesOf
    split
    · next code first second third fourth others =>
      exact absurd rfl (shape code first second third fourth others)
    · rfl

/-- Fewer than five bytes are no frame. -/
theorem takeFrame?_of_short {bytes : List UInt8} (short : bytes.length < 5) :
    takeFrame? bytes = none := by
  unfold takeFrame?
  split
  · simp only [List.length_cons] at short
    omega
  · rfl

/-- The first complete frame is answered first. -/
theorem answerAll_of_takeFrame? {bytes rest : List UInt8} {code : UInt8} {argument : Port}
    (pool : PortPool) (taken : takeFrame? bytes = some ((code, argument), rest)) :
    answerAll pool bytes =
      let answered := answer pool code argument
      let others := answerAll answered.2 rest
      (answered.1 ++ others.1, others.2.1, others.2.2) := by
  unfold takeFrame? at taken
  split at taken
  · next first second third fourth others =>
    obtain ⟨frame, rfl⟩ := Prod.mk.inj (Option.some.inj taken)
    obtain ⟨rfl, rfl⟩ := Prod.mk.inj frame
    rfl
  · cases taken

/-- A frame that was handled, and the reply to it. -/
structure Handled where
  /-- The place of its connection among those that are served. -/
  place : Nat
  code : UInt8
  argument : Port
  reply : List UInt8
deriving DecidableEq, Repr

namespace Handled

/-- The frame that was handled. -/
def frame (handled : Handled) : UInt8 × Port := (handled.code, handled.argument)

/-- The port that a request for a new one was granted, as its client reads it. -/
def granted? (handled : Handled) : Option Port :=
  if handled.code = Request.newPort.code then
    match Request.newPort.readReply handled.reply with
    | .ok (.port port, _) => some port
    | _ => none
  else none

/-- Whether a port is in use after a frame was handled: one that was granted is, one that was
returned is not, and all others are as before. -/
def leaves (handled : Handled) (port : Port) (inUse : Prop) : Prop :=
  if handled.granted? = some port then True
  else if handled.code = (Request.returnPort port).code ∧ handled.argument = port then False
  else inUse

end Handled

namespace Handled

/-- Whether a port is in use after frames were handled in turn. -/
def leavesAll (port : Port) (handled : List Handled) (inUse : Prop) : Prop :=
  handled.foldl (fun inUse one => one.leaves port inUse) inUse

end Handled

/-- What handling a frame does to a pool that has handed out a number of ports. -/
structure Effect (count : Nat) (pool after : PortPool) (handled : Handled) : Prop where
  issued : PortPool.Issued (count + handled.granted?.toList.length) after
  granted : ∀ port ∈ handled.granted?, port = PortPool.nth count
  held : ∀ port, port ∈ after.held ↔ handled.leaves port (port ∈ pool.held)

/-- A frame that leaves the pool as it is and grants nothing has no effect. -/
theorem Effect.none {count : Nat} {pool : PortPool} {handled : Handled}
    (issued : PortPool.Issued count pool) (ungranted : handled.granted? = Option.none)
    (other : handled.code ≠ 2) : Effect count pool pool handled := by
  refine ⟨?_, ?_, fun port => ?_⟩
  · rw [ungranted]
    exact issued
  · rw [ungranted]
    rintro port ⟨⟩
  · have unreturned : ¬(handled.code = (Request.returnPort port).code ∧ handled.argument = port) :=
      fun returned => other returned.1
    rw [Handled.leaves, ungranted, if_neg (by rintro ⟨⟩), if_neg unreturned]

theorem Handled.granted?_of_port (place : Nat) (argument port : Port) :
    Handled.granted? ⟨place, 1, argument, (Grant.port port).encode⟩ = some port := by
  have read := readReply_port port []
  rw [List.append_nil] at read
  simp [granted?, Request.code, read]

theorem Handled.granted?_of_failure (place : Nat) (argument : Port) (err : MuxError) :
    Handled.granted? ⟨place, 1, argument, encodeFailure err⟩ = none := by
  have read := readReply_encodeFailure .newPort err []
  rw [List.append_nil] at read
  simp [granted?, Request.code, read]

theorem Handled.granted?_of_code {handled : Handled} (other : handled.code ≠ 1) :
    handled.granted? = none := if_neg other

/-- Granting a port has its effect, as long as no more ports are granted than there are. -/
theorem effect_of_newPort {count : Nat} {pool : PortPool} (issued : PortPool.Issued count pool)
    (place : Nat) (argument : Port)
    (bounded : count + (Handled.granted? ⟨place, 1, argument,
      (answer pool 1 argument).1⟩).toList.length ≤ PortPool.capacity) :
    Effect count pool (answer pool 1 argument).2
      ⟨place, 1, argument, (answer pool 1 argument).1⟩ := by
  have known : Request.ofCode? 1 argument = some .newPort := rfl
  cases granted : pool.allocate with
  | error err =>
    have answered : answer pool 1 argument = (encodeFailure err, pool) := by
      simp only [answer, known, Request.serve, granted, Except.map]
    rw [answered]
    have other : (1 : UInt8) ≠ 2 := by decide
    exact .none issued (Handled.granted?_of_failure place argument err) other
  | ok result =>
    obtain ⟨port, after⟩ := result
    have answered : answer pool 1 argument = ((Grant.port port).encode, after) := by
      simp only [answer, known, Request.serve, granted, Except.map]
    have read := Handled.granted?_of_port place argument port
    rw [answered, read] at bounded
    obtain ⟨other, same, held, further⟩ := issued.allocate bounded
    rw [granted] at same
    obtain ⟨rfl, rfl⟩ := Prod.mk.inj (Except.ok.inj same)
    rw [answered]
    refine ⟨?_, ?_, fun asked => ?_⟩
    · rw [read]
      exact further
    · rw [read]
      rintro _ ⟨⟩
      rfl
    · have kept : ¬((1 : UInt8) = (Request.returnPort asked).code ∧ argument = asked) :=
        fun returned => absurd returned.1 (show (1 : UInt8) ≠ 2 by decide)
      rw [held, List.mem_cons, Handled.leaves, read, if_neg kept]
      split
      · next same => exact iff_of_true (.inl (Option.some.inj same).symm) trivial
      · next apart => exact or_iff_right fun same => apart (congrArg some same.symm)

/-- Returning a port has its effect. -/
theorem effect_of_returnPort {count : Nat} {pool : PortPool} (issued : PortPool.Issued count pool)
    (place : Nat) (argument : Port) :
    Effect count pool (answer pool 2 argument).2
      ⟨place, 2, argument, (answer pool 2 argument).1⟩ := by
  have known : Request.ofCode? 2 argument = some (.returnPort argument) := rfl
  obtain ⟨was, after, returned, held, further⟩ := issued.release argument
  have answered : answer pool 2 argument = (Grant.done.encode, after) := by
    simp only [answer, known, Request.serve, returned, Except.map]
  rw [answered]
  have ungranted : Handled.granted? ⟨place, 2, argument, Grant.done.encode⟩ = none := rfl
  refine ⟨?_, ?_, fun asked => ?_⟩
  · rw [ungranted]
    exact further
  · rw [ungranted]
    rintro _ ⟨⟩
  · rw [held, issued.nodup.mem_erase_iff, Handled.leaves, ungranted, if_neg (by rintro ⟨⟩)]
    split
    · next returned => exact iff_of_false (fun kept => kept.1 returned.2.symm) id
    · next apart => exact and_iff_right fun same => apart ⟨rfl, same.symm⟩

/-- Handling a frame has its effect on the pool, as long as no more ports are granted than
there are. -/
theorem effect_of_answer {count : Nat} {pool : PortPool} (issued : PortPool.Issued count pool)
    (place : Nat) (code : UInt8) (argument : Port)
    (bounded : count + (Handled.granted? ⟨place, code, argument,
      (answer pool code argument).1⟩).toList.length ≤ PortPool.capacity) :
    Effect count pool (answer pool code argument).2
      ⟨place, code, argument, (answer pool code argument).1⟩ := by
  by_cases new : code = 1
  · subst new
    exact effect_of_newPort issued place argument bounded
  · by_cases returning : code = 2
    · subst returning
      exact effect_of_returnPort issued place argument
    · have kept : (answer pool code argument).2 = pool := by
        unfold answer
        by_cases listing : code = 3
        · have known : Request.ofCode? code argument = some .openPorts := by
            rw [listing]
            rfl
          simp only [known, Request.serve]
          cases pool.snapshot <;> rfl
        · simp only [Request.ofCode?, new, returning, listing, if_false]
      rw [kept]
      exact .none issued (Handled.granted?_of_code new) returning

/-- The ports that were granted in turn. -/
def grants (handled : List Handled) : List Port := handled.filterMap Handled.granted?

theorem grants_cons (handled : Handled) (others : List Handled) :
    grants (handled :: others) = handled.granted?.toList ++ grants others := by
  rw [grants, List.filterMap_cons]
  cases handled.granted? <;> rfl

/-- Ports in turn behind the first one are in turn. -/
theorem grants_in_turn {count : Nat} {first : Option Port} {others : List Port}
    (head : ∀ port ∈ first, port = PortPool.nth count)
    (tail : others = (List.range others.length).map fun index =>
      PortPool.nth (count + first.toList.length + index)) :
    first.toList ++ others = (List.range (first.toList ++ others).length).map fun index =>
      PortPool.nth (count + index) := by
  cases first with
  | none => exact tail
  | some port =>
    obtain rfl := head port rfl
    rw [Option.toList_some, List.singleton_append, List.length_cons, List.range_succ_eq_map,
      List.map_cons, List.map_map, Nat.add_zero]
    refine congrArg (List.cons _) (tail.trans (List.map_congr_left fun index _ => ?_))
    simp only [Option.toList_some, List.length_singleton, Function.comp_apply, Nat.succ_eq_add_one]
    rw [Nat.add_assoc, Nat.add_comm 1 index]

/-- Ports in turn differ as long as there are no more than a pool can hand out. -/
theorem nodup_of_in_turn {count : Nat} {ports : List Port}
    (inTurn : ports = (List.range ports.length).map fun index => PortPool.nth (count + index))
    (bounded : count + ports.length ≤ PortPool.capacity) : ports.Nodup := by
  rw [inTurn]
  refine List.Nodup.map_on ?_ List.nodup_range
  intro left leftMember right rightMember same
  have leftBound := List.mem_range.mp leftMember
  have rightBound := List.mem_range.mp rightMember
  have leftValue := PortPool.toInt_nth (show count + left < PortPool.capacity by omega)
  have rightValue := PortPool.toInt_nth (show count + right < PortPool.capacity by omega)
  rw [same, rightValue] at leftValue
  omega

end Authority

end SocketMux
