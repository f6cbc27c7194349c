import SocketMux.Authority.Frame
import SocketMux.Proofs.Pool
import SocketMux.Proofs.Wire
import Mathlib.Data.List.Sort

/-!
# Frames there and back

The frame of a request is taken as this request (`answerAll_frame`), and what comes back is
read as what the pool answered (`Request.heard_readReply`): a grant as the same grant, an
outage as an outage with the same wording. Only a listing of more ports than a client accepts
is read as an error. What follows a frame or a reply does not matter to either.
-/

namespace SocketMux.Authority

open SocketMux.Text

namespace Request

/-- What a pool answers to a request. -/
def outcome (request : Request) (pool : PortPool) : Except MuxError Grant :=
  (request.serve pool).map Prod.fst

/-- The pool after a request. -/
def after (request : Request) (pool : PortPool) : PortPool :=
  match request.serve pool with
  | .ok (_, changed) => changed
  | .error _ => pool

/-- Whether a grant is one for a request: a port for a new one, nothing for a returned one, and
an ascending listing of no more ports than a pool can hand out. -/
def IsMetBy : Request → Grant → Prop
  | newPort, .port _ => True
  | returnPort _, .done => True
  | openPorts, .listing listed =>
    listed.ports.Pairwise (· ≤ ·) ∧ listed.size ≤ PortPool.capacity
  | _, _ => False

@[simp]
theorem ofCode?_code (request : Request) :
    ofCode? request.code request.argument = some request := by
  cases request <;> rfl

theorem IsMetBy.cases {request : Request} {grant : Grant} (met : request.IsMetBy grant) :
    (∃ port, request = .newPort ∧ grant = .port port) ∨
      (∃ port, request = .returnPort port ∧ grant = .done) ∨
        ∃ listed : OpenPorts, request = .openPorts ∧ grant = .listing listed ∧
          listed.ports.Pairwise (· ≤ ·) ∧ listed.size ≤ PortPool.capacity := by
  cases request <;> cases grant <;> simp_all [IsMetBy]

/-- A pool serves a request with a grant for it or has an outage. -/
theorem outcome_cases {pool : PortPool} (tidy : pool.Tidy) (request : Request) :
    (∃ grant, request.outcome pool = .ok grant ∧ request.IsMetBy grant) ∨
      ∃ outage, request.outcome pool = .error (.unavailable outage) ∧
        (outage = .poolClosed ∨ outage = .poolExhausted) := by
  cases request with
  | newPort =>
    simp only [outcome, serve, PortPool.allocate]
    split
    · exact .inr ⟨_, rfl, .inl rfl⟩
    · split
      · exact .inr ⟨_, rfl, .inr rfl⟩
      · exact .inl ⟨_, rfl, trivial⟩
  | returnPort port =>
    simp only [outcome, serve, PortPool.release]
    split
    · exact .inr ⟨_, rfl, .inl rfl⟩
    · exact .inl ⟨_, rfl, trivial⟩
  | openPorts =>
    simp only [outcome, serve, PortPool.snapshot]
    split
    · exact .inr ⟨_, rfl, .inl rfl⟩
    · refine .inl ⟨_, rfl, List.pairwise_reverse.mpr tidy.descending, ?_⟩
      rw [OpenPorts.size, List.length_reverse]
      exact tidy.length_le

theorem outcome_met {pool : PortPool} (tidy : pool.Tidy) (request : Request) (grant : Grant)
    (granted : request.outcome pool = .ok grant) : request.IsMetBy grant := by
  obtain ⟨one, answered, met⟩ | ⟨outage, refused, -⟩ := request.outcome_cases tidy
  · rw [answered] at granted
    exact Except.ok.inj granted ▸ met
  · rw [refused] at granted
    cases granted

/-- Serving a request is one more use of a pool. -/
theorem reached_after {pool : PortPool} {count : Nat} (reached : PortPool.Reached count pool)
    (request : Request) : ∃ more, PortPool.Reached more (request.after pool) := by
  cases request with
  | newPort =>
    simp only [after, serve]
    cases granted : pool.allocate with
    | ok result => exact ⟨_, .allocated reached granted⟩
    | error err => exact ⟨_, reached⟩
  | returnPort port =>
    simp only [after, serve]
    cases returned : pool.release port with
    | ok result => exact ⟨_, .released reached returned⟩
    | error err => exact ⟨_, reached⟩
  | openPorts =>
    simp only [after, serve]
    cases pool.snapshot with
    | ok ports => exact ⟨_, reached⟩
    | error err => exact ⟨_, reached⟩

/-- Serving a request neither opens nor closes a pool. -/
theorem closed_after (request : Request) (pool : PortPool) :
    (request.after pool).closed = pool.closed := by
  cases request with
  | newPort =>
    simp only [after, serve]
    cases granted : pool.allocate with
    | ok result =>
      obtain ⟨unclosed, -, still, -⟩ := PortPool.allocate_ok granted
      exact still.trans unclosed.symm
    | error err => rfl
  | returnPort port =>
    simp only [after, serve]
    cases returned : pool.release port with
    | ok result =>
      obtain ⟨-, changed⟩ := PortPool.release_ok returned
      change result.2.closed = pool.closed
      rw [changed]
    | error err => rfl
  | openPorts =>
    simp only [after, serve]
    cases pool.snapshot <;> rfl

/-- A closed pool serves nothing. -/
theorem outcome_of_closed {pool : PortPool} (closed : pool.closed = true) (request : Request) :
    request.outcome pool = .error (.unavailable .poolClosed) := by
  cases request <;>
    simp [outcome, serve, PortPool.allocate, PortPool.release, PortPool.snapshot, closed,
      Except.map]

/-- An open pool takes every port back. -/
theorem outcome_returnPort {pool : PortPool} (unclosed : pool.closed = false) (port : Port) :
    (returnPort port).outcome pool = .ok .done := by
  simp [outcome, serve, PortPool.release, unclosed, Except.map]

/-- A listing leaves the pool as it is. -/
theorem after_openPorts (pool : PortPool) : openPorts.after pool = pool := by
  simp only [after, serve]
  cases pool.snapshot <;> rfl

end Request

/-- A complete frame at the front is answered first. -/
theorem answerAll_frame (pool : PortPool) (code : UInt8) (argument : Port) (rest : List UInt8) :
    answerAll pool ([code] ++ Wire.int32 argument ++ rest) =
      let answered := answer pool code argument
      let others := answerAll answered.2 rest
      (answered.1 ++ others.1, others.2.1, others.2.2) := by
  have taken := Wire.takeWord32?_word32 argument.toUInt32 rest
  simp only [Wire.word32, List.cons_append, List.nil_append, Wire.takeWord32?,
    Option.some.injEq, Prod.mk.injEq, and_true] at taken
  simp only [Wire.int32, Wire.word32, List.cons_append, List.nil_append, answerAll, taken,
    Int32.toInt32_toUInt32]

/-- The reply to an outcome: the frame of its grant or of its failure. -/
def encodeOutcome (outcome : Except MuxError Grant) : List UInt8 :=
  match outcome with
  | .ok grant => grant.encode
  | .error err => encodeFailure err

/-- The frame of a request is answered with what the pool answers to this request. -/
theorem answer_code (pool : PortPool) (request : Request) :
    answer pool request.code request.argument =
      (encodeOutcome (request.outcome pool), request.after pool) := by
  simp only [answer, Request.ofCode?_code, Request.outcome, Request.after]
  cases request.serve pool <;> rfl

/-- The frame of a request is a complete one, and nothing of it is left over. -/
theorem answerAll_encode (pool : PortPool) (request : Request) :
    answerAll pool request.encode =
      (encodeOutcome (request.outcome pool), request.after pool, []) := by
  have framed := answerAll_frame pool request.code request.argument []
  rw [List.append_nil, answer_code] at framed
  rw [Request.encode, framed]
  simp only [answerAll, List.append_nil]

/-- A step that has succeeded hands its value to the next one. -/
theorem ok_bind {ε α β : Type} (value : α) (next : α → Except ε β) :
    (Except.ok value >>= next) = next value := rfl

/-- The message of a failure as it is read. -/
def writtenMessage (err : MuxError) : String :=
  Utf8.textLossy ((Utf8.bytesOf err.message).take 65535)

/-- A message with its length in front is read to its end. -/
theorem readMessage_append {message : List UInt8} (fits : message.length < 65536)
    (rest : List UInt8) :
    readMessage (Wire.word16 message.length ++ message ++ rest) =
      .ok (Utf8.textLossy message, rest) := by
  rw [List.append_assoc, readMessage, Wire.takeWord16?_word16 fits]
  have enough : ¬(message ++ rest).length < message.length := by
    rw [List.length_append]
    omega
  rw [orEnd, ok_bind]
  dsimp only
  rw [if_neg enough, List.take_left, List.drop_left]
  rfl

/-- A failure is read as one of its kind with its message. -/
theorem readReply_encodeFailure (request : Request) (err : MuxError) (rest : List UInt8) :
    request.readReply (encodeFailure err ++ rest) =
      .error (if err.isUnavailable then .unavailable (.stated (writtenMessage err))
        else .invalidRecord (.stated (writtenMessage err))) := by
  have fits : ((Utf8.bytesOf err.message).take 65535).length < 65536 := by
    rw [List.length_take]
    omega
  have read := readMessage_append fits rest
  rw [Request.readReply, encodeFailure, List.append_assoc, List.append_assoc,
    List.singleton_append, readStatus, ← List.append_assoc, read]
  cases err.isUnavailable <;> rfl

/-- Ports in a row are read to the last one. -/
theorem readPorts_flatMap (ports : List Port) (rest : List UInt8) :
    readPorts (ports.flatMap Wire.int32 ++ rest) ports.length = .ok (ports, rest) := by
  induction ports with
  | nil => rfl
  | cons port ports inductionHypothesis =>
    rw [List.flatMap_cons, List.append_assoc, List.length_cons, readPorts,
      Wire.takeInt32?_int32, orEnd, ok_bind]
    dsimp only
    rw [inductionHypothesis, ok_bind]
    rfl

/-- An ascending listing is not changed by sorting. -/
theorem ofList_of_ascending {ports : List Port} (ascending : ports.Pairwise (· ≤ ·)) :
    OpenPorts.ofList ports = ⟨ports⟩ := by
  rw [OpenPorts.ofList, List.mergeSort_of_pairwise]
  exact ascending.imp fun ordered => decide_eq_true ordered

theorem readReply_port (port : Port) (rest : List UInt8) :
    Request.newPort.readReply ((Grant.port port).encode ++ rest) =
      .ok (.port port, rest) := by
  have status : readStatus ((Grant.port port).encode ++ rest) = .ok (Wire.int32 port ++ rest) := rfl
  rw [Request.readReply, status, ok_bind]
  dsimp only
  rw [Wire.takeInt32?_int32, orEnd, ok_bind]
  rfl

/-- A listing is read as it is unless it has more ports than are accepted. -/
theorem readReply_listing {ports : List Port} (ascending : ports.Pairwise (· ≤ ·))
    (fits : ports.length < 4294967296) (rest : List UInt8) :
    Request.openPorts.readReply ((Grant.listing ⟨ports⟩).encode ++ rest) =
      if maxListed < ports.length then
        .error (.invalidRecord (.tooManyPorts (UInt32.ofNat ports.length)))
      else .ok (.listing ⟨ports⟩, rest) := by
  have count : (UInt32.ofNat ports.length).toNat = ports.length := UInt32.toNat_ofNat_of_lt' fits
  have status : readStatus ((Grant.listing ⟨ports⟩).encode ++ rest) =
      .ok (Wire.word32 (UInt32.ofNat ports.length) ++ (ports.flatMap Wire.int32 ++ rest)) := by
    rw [Grant.encode, List.append_assoc, List.append_assoc]
    rfl
  rw [Request.readReply, status, ok_bind]
  dsimp only
  rw [Wire.takeWord32?_word32, orEnd, ok_bind]
  dsimp only
  rw [count]
  by_cases many : maxListed < ports.length
  · rw [if_pos many, if_pos many]
  · rw [if_neg many, if_neg many, readPorts_flatMap, ok_bind]
    dsimp only
    rw [ofList_of_ascending ascending]
    rfl

/-- What a client hears of what a pool answered. -/
inductive Heard : Except MuxError Grant → Except MuxError Grant → Prop where
  /-- A grant is heard as it is. -/
  | grant {grant : Grant} : Heard (.ok grant) (.ok grant)
  /-- An outage is heard as an outage that repeats the wording. -/
  | outage {outage : Outage} :
    Heard (.error (.unavailable outage))
      (.error (.unavailable (.stated (MuxError.unavailable outage).message)))
  /-- A listing of more ports than are accepted is heard as an error. -/
  | tooMany {listed : OpenPorts} (many : maxListed < listed.size) :
    Heard (.ok (.listing listed))
      (.error (.invalidRecord (.tooManyPorts (UInt32.ofNat listed.size))))

/-- A grant that is heard is the one that was given. -/
theorem Heard.of_ok {given answer : Except MuxError Grant} (heard : Heard given answer)
    {grant : Grant} (granted : answer = .ok grant) : given = .ok grant := by
  cases heard with
  | grant => exact granted
  | outage => cases granted
  | tooMany many => cases granted

theorem Heard.of_done {answer : Except MuxError Grant} (heard : Heard (.ok .done) answer) :
    answer = .ok .done := by
  cases heard
  rfl

/-- The wording of an outage of a pool survives the way. -/
theorem writtenMessage_outage {outage : Outage}
    (ofPool : outage = .poolClosed ∨ outage = .poolExhausted) :
    writtenMessage (.unavailable outage) = (MuxError.unavailable outage).message := by
  rcases ofPool with rfl | rfl <;> decide +kernel

/-- The reply to a request is heard as what the pool answered to it. -/
theorem heard_readReply {pool : PortPool} (tidy : pool.Tidy) (request : Request)
    (rest : List UInt8) :
    Heard (request.outcome pool)
      ((request.readReply (encodeOutcome (request.outcome pool) ++ rest)).map Prod.fst) := by
  obtain ⟨grant, granted, met⟩ | ⟨outage, refused, ofPool⟩ := request.outcome_cases tidy
  · rw [granted, encodeOutcome]
    obtain ⟨port, rfl, rfl⟩ | ⟨port, rfl, rfl⟩ | ⟨listed, rfl, rfl, ascending, few⟩ := met.cases
    · rw [readReply_port]
      exact .grant
    · exact .grant
    · have fits : listed.ports.length < 4294967296 :=
        Nat.lt_of_le_of_lt few (by decide)
      rw [readReply_listing ascending fits]
      split
      · next many => exact .tooMany many
      · exact .grant
  · rw [refused, encodeOutcome, readReply_encodeFailure, writtenMessage_outage ofPool]
    exact .outage

end SocketMux.Authority
