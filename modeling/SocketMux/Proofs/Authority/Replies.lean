import SocketMux.Proofs.Authority.Frames
import SocketMux.Proofs.OpenPorts
import SocketMux.Proofs.Wire.Delimited

/-!
# Replies from anybody

Whoever listens at the path of an authority may send any bytes back. The replies to a request
are a status with exactly the payload that status and request call for (`Request.Reply`). Such a
reply at the front of what was sent decides what the request comes to, whatever follows it, and
everything shorter ends too early (`Request.Reply.delimits`). All else that can be sent ends too
early as well (`Request.exists_reply`).
-/

namespace SocketMux

/-- Whether an error is that of a reply that ends too early. -/
def MuxError.IsEndOfReply (err : MuxError) : Prop :=
  err.code = Operation.authority.code ∧ err.faultKind? = some .unexpectedEnd

namespace Authority

open SocketMux.Text SocketMux.Wire

/-- Whether a reply was found to end too early. -/
def EndsEarly {α : Type} (outcome : Except MuxError α) : Prop :=
  ∃ err, outcome = .error err ∧ err.IsEndOfReply

theorem endsEarly_endOfReply {α : Type} : EndsEarly (.error endOfReply : Except MuxError α) :=
  ⟨endOfReply, rfl, rfl, rfl⟩

theorem endsEarly_endOfMessage {α : Type} : EndsEarly (.error endOfMessage : Except MuxError α) :=
  ⟨endOfMessage, rfl, rfl, rfl⟩

/-- What comes after the end is not read. -/
theorem EndsEarly.bind {α β : Type} {outcome : Except MuxError α} (early : EndsEarly outcome)
    (next : α → Except MuxError β) : EndsEarly (outcome >>= next) := by
  obtain ⟨err, failed, isEnd⟩ := early
  exact ⟨err, Outcome.bind_eq_error_iff.mpr (.inl failed), isEnd⟩

section Parts

/-- A part of fixed size is cut short by every byte that is missing. -/
theorem delimits_orEnd {α : Type} {take : List UInt8 → Option (α × List UInt8)}
    {part : List UInt8} {value : α} (taken : ∀ rest, take (part ++ rest) = some (value, rest))
    (short : ∀ bytes, bytes.length < part.length → take bytes = none) :
    Delimits MuxError.IsEndOfReply (fun bytes => orEnd (take bytes)) part (.ok value) where
  whole rest := congrArg orEnd (taken rest)
  cut front within apart :=
    ⟨_, congrArg orEnd (short front (length_lt_of_cut within apart)), rfl, rfl⟩

theorem delimits_word16 {value : Nat} (bounded : value < 65536) :
    Delimits MuxError.IsEndOfReply (fun bytes => orEnd (takeWord16? bytes)) (word16 value)
      (.ok value) :=
  delimits_orEnd (takeWord16?_word16 bounded) fun _ => takeWord16?_eq_none_iff.mpr

theorem delimits_word32 (value : UInt32) :
    Delimits MuxError.IsEndOfReply (fun bytes => orEnd (takeWord32? bytes)) (word32 value)
      (.ok value) :=
  delimits_orEnd (takeWord32?_word32 value) fun _ => takeWord32?_eq_none_iff.mpr

theorem delimits_int32 (value : Port) :
    Delimits MuxError.IsEndOfReply (fun bytes => orEnd (takeInt32? bytes)) (int32 value)
      (.ok value) :=
  delimits_orEnd (takeInt32?_int32 value) fun _ => takeInt32?_eq_none_iff.mpr

/-- A message is cut short within its length or within its bytes. -/
theorem delimits_readMessage {message : List UInt8} (fits : message.length < 65536) :
    Delimits MuxError.IsEndOfReply readMessage (word16 message.length ++ message)
      (.ok (Utf8.textLossy message)) where
  whole := readMessage_append fits
  cut := by
    refine (delimits_word16 fits).findsCut_bind fun front within apart => ?_
    exact ⟨_, if_pos (length_lt_of_cut within apart), rfl, rfl⟩

/-- Ports in a row are cut short within one of them. -/
theorem delimits_readPorts (ports : List Port) :
    Delimits MuxError.IsEndOfReply (fun bytes => readPorts bytes ports.length)
      (ports.flatMap int32) (.ok ports) := by
  induction ports with
  | nil => exact .pure []
  | cons port ports inductionHypothesis =>
    refine (delimits_int32 port).bind ?_
    exact inductionHypothesis.bind_known fun _ => rfl

/-- Whatever is read as a message ends too early or has a message at its front. -/
theorem readMessage_cases (bytes : List UInt8) :
    EndsEarly (readMessage bytes) ∨ ∃ message : List UInt8, message.length < 65536 ∧
      word16 message.length ++ message <+: bytes := by
  unfold readMessage
  cases taken : takeWord16? bytes with
  | none => exact .inl (endsEarly_endOfReply.bind _)
  | some counted =>
    obtain ⟨length, rest⟩ := counted
    obtain ⟨bounded, rfl⟩ := takeWord16?_eq_some_iff.mp taken
    rw [orEnd, ok_bind]
    dsimp only
    split
    · exact .inl endsEarly_endOfMessage
    · next enough =>
      have whole : (rest.take length).length = length := by
        rw [List.length_take, Nat.min_eq_left (Nat.le_of_not_lt enough)]
      refine .inr ⟨rest.take length, by rw [whole]; exact bounded, ?_⟩
      rw [whole]
      exact (List.prefix_append_right_inj _).mpr (List.take_prefix length rest)

/-- Whatever is read as a number of ports ends too early or has as many at its front. -/
theorem readPorts_cases (count : Nat) (bytes : List UInt8) :
    EndsEarly (readPorts bytes count) ∨
      ∃ ports : List Port, ports.length = count ∧ ports.flatMap int32 <+: bytes := by
  induction count generalizing bytes with
  | zero => exact .inr ⟨[], rfl, List.nil_prefix⟩
  | succ count inductionHypothesis =>
    unfold readPorts
    cases taken : takeInt32? bytes with
    | none => exact .inl (endsEarly_endOfReply.bind _)
    | some first =>
      obtain ⟨port, rest⟩ := first
      obtain rfl := takeInt32?_eq_some_iff.mp taken
      rw [orEnd, ok_bind]
      obtain early | ⟨ports, length, front⟩ := inductionHypothesis rest
      · exact .inl (early.bind _)
      · refine .inr ⟨port :: ports, by rw [List.length_cons, length], ?_⟩
        exact (List.prefix_append_right_inj _).mpr front

end Parts

namespace Request

/-- The replies to a request, each with what the request comes to. -/
inductive Reply : Request → List UInt8 → Except MuxError Grant → Prop where
  | port (granted : Port) : Reply .newPort (0 :: int32 granted) (.ok (.port granted))
  | done (returned : Port) : Reply (.returnPort returned) [0] (.ok .done)
  | listing {ports : List Port} (fits : ports.length ≤ maxListed) :
    Reply .openPorts (0 :: (word32 (UInt32.ofNat ports.length) ++ ports.flatMap int32))
      (.ok (.listing (.ofList ports)))
  /-- A number of ports that is too great is refused before any of them. -/
  | tooMany {count : UInt32} (many : maxListed < count.toNat) :
    Reply .openPorts (0 :: word32 count) (.error (.invalidRecord (.tooManyPorts count)))
  | outage (request : Request) {message : List UInt8} (fits : message.length < 65536) :
    Reply request (1 :: (word16 message.length ++ message))
      (.error (.unavailable (.stated (Utf8.textLossy message))))
  | failure (request : Request) {message : List UInt8} (fits : message.length < 65536) :
    Reply request (2 :: (word16 message.length ++ message))
      (.error (.invalidRecord (.stated (Utf8.textLossy message))))
  | unknown (request : Request) {status : UInt8} (strange : 2 < status) :
    Reply request [status] (.error (.invalidRecord (.unknownStatus status)))

section Statuses

variable (request : Request) (bytes : List UInt8)

theorem readReply_newPort :
    newPort.readReply (0 :: bytes) =
      (orEnd (takeInt32? bytes) >>= fun taken => .ok (.port taken.1, taken.2)) := rfl

theorem readReply_openPorts :
    openPorts.readReply (0 :: bytes) =
      (orEnd (takeWord32? bytes) >>= fun taken =>
        if maxListed < taken.1.toNat then .error (.invalidRecord (.tooManyPorts taken.1))
        else readPorts taken.2 taken.1.toNat >>= fun read =>
          .ok (.listing (.ofList read.1), read.2)) := rfl

theorem readReply_outage :
    request.readReply (1 :: bytes) =
      (readMessage bytes >>= fun taken => .error (.unavailable (.stated taken.1))) := by
  have status : readStatus (1 :: bytes) =
      (readMessage bytes >>= fun taken => .error (.unavailable (.stated taken.1))) := rfl
  rw [readReply, status]
  cases readMessage bytes <;> rfl

theorem readReply_failure :
    request.readReply (2 :: bytes) =
      (readMessage bytes >>= fun taken => .error (.invalidRecord (.stated taken.1))) := by
  have status : readStatus (2 :: bytes) =
      (readMessage bytes >>= fun taken => .error (.invalidRecord (.stated taken.1))) := rfl
  rw [readReply, status]
  cases readMessage bytes <;> rfl

theorem readReply_unknown {status : UInt8} (strange : 2 < status) :
    request.readReply (status :: bytes) = .error (.invalidRecord (.unknownStatus status)) := by
  have apart : status ≠ 0 ∧ status ≠ 1 ∧ status ≠ 2 := by
    refine ⟨?_, ?_, ?_⟩ <;> rintro rfl <;> revert strange <;> decide
  rw [readReply, readStatus, if_neg apart.1, if_neg apart.2.1, if_neg apart.2.2]
  rfl

end Statuses

section Messages

variable {request : Request} {status : UInt8} (refusal : String → MuxError)

/-- A message behind its status decides what a request comes to. -/
theorem delimits_message {message : List UInt8} (fits : message.length < 65536)
    (reads : ∀ bytes, request.readReply (status :: bytes) =
      (readMessage bytes >>= fun taken => .error (refusal taken.1))) :
    Delimits MuxError.IsEndOfReply request.readReply
      (status :: (word16 message.length ++ message))
      (.error (refusal (Utf8.textLossy message))) := by
  refine .cons endsEarly_endOfReply ?_
  simp only [reads]
  exact (delimits_readMessage fits).bind_known fun _ => rfl

/-- Behind the status of a message either the message stands or its bytes end too early. -/
theorem exists_message (payload : List UInt8)
    (reads : ∀ bytes, request.readReply (status :: bytes) =
      (readMessage bytes >>= fun taken => .error (refusal taken.1))) :
    EndsEarly (request.readReply (status :: payload)) ∨
      ∃ message : List UInt8, message.length < 65536 ∧
        status :: (word16 message.length ++ message) <+: status :: payload := by
  rw [reads]
  obtain early | ⟨message, fits, front⟩ := readMessage_cases payload
  · exact .inl (early.bind _)
  · exact .inr ⟨message, fits, List.cons_prefix_cons.mpr ⟨rfl, front⟩⟩

end Messages

/-- A reply at the front decides what a request comes to, and whatever is shorter ends too
early. -/
theorem Reply.delimits {request : Request} {reply : List UInt8} {result : Except MuxError Grant}
    (form : request.Reply reply result) :
    Delimits MuxError.IsEndOfReply request.readReply reply result := by
  have empty : EndsEarly (request.readReply []) := endsEarly_endOfReply
  cases form with
  | port granted => exact .cons empty ((delimits_int32 granted).bind_known fun _ => rfl)
  | done returned => exact .cons empty (.pure Grant.done)
  | @listing ports fits =>
    have size : (UInt32.ofNat ports.length).toNat = ports.length :=
      UInt32.toNat_ofNat_of_lt' (Nat.lt_of_le_of_lt fits (by decide))
    refine .cons empty ((delimits_word32 _).bind ?_)
    simp only [size, if_neg (Nat.not_lt.mpr fits)]
    exact (delimits_readPorts ports).bind_known fun _ => rfl
  | @tooMany count many =>
    refine .cons empty ((delimits_word32 count).bind_known fun rest => ?_)
    exact if_pos many
  | outage _ fits =>
    exact delimits_message (.unavailable ∘ .stated) fits request.readReply_outage
  | failure _ fits =>
    exact delimits_message (.invalidRecord ∘ .stated) fits request.readReply_failure
  | unknown _ strange =>
    exact .cons empty ⟨fun rest => request.readReply_unknown rest strange, .nil⟩

/-- Behind the status of a grant either the grant stands or its bytes end too early. -/
theorem exists_grant (request : Request) (payload : List UInt8) :
    EndsEarly (request.readReply (0 :: payload)) ∨
      ∃ reply result, request.Reply (0 :: reply) result ∧ reply <+: payload := by
  cases request with
  | newPort =>
    rw [readReply_newPort]
    cases taken : takeInt32? payload with
    | none => exact .inl (endsEarly_endOfReply.bind _)
    | some granted =>
      obtain rfl := takeInt32?_eq_some_iff.mp taken
      exact .inr ⟨_, _, .port granted.1, List.prefix_append _ _⟩
  | returnPort returned => exact .inr ⟨[], _, .done returned, List.nil_prefix⟩
  | openPorts =>
    rw [readReply_openPorts]
    cases taken : takeWord32? payload with
    | none => exact .inl (endsEarly_endOfReply.bind _)
    | some counted =>
      obtain ⟨count, rest⟩ := counted
      obtain rfl := takeWord32?_eq_some_iff.mp taken
      rw [orEnd, ok_bind]
      dsimp only
      split
      · next many => exact .inr ⟨_, _, .tooMany many, List.prefix_append _ _⟩
      · next few =>
        obtain early | ⟨ports, length, front⟩ := readPorts_cases count.toNat rest
        · exact .inl (early.bind _)
        · have same : UInt32.ofNat ports.length = count := by rw [length, UInt32.ofNat_toNat]
          have fits : ports.length ≤ maxListed := length ▸ Nat.le_of_not_lt few
          refine .inr ⟨_, _, .listing fits, ?_⟩
          rw [same]
          exact (List.prefix_append_right_inj _).mpr front

/-- Whatever is sent ends too early or has a reply at its front. -/
theorem exists_reply (request : Request) (sent : List UInt8) :
    EndsEarly (request.readReply sent) ∨
      ∃ reply result, request.Reply reply result ∧ reply <+: sent := by
  cases sent with
  | nil => exact .inl endsEarly_endOfReply
  | cons status payload =>
    have statuses : status = 0 ∨ status = 1 ∨ status = 2 ∨ 2 < status := by
      have numbers : status.toNat = 0 ∨ status.toNat = 1 ∨ status.toNat = 2 ∨
          2 < status.toNat := by omega
      simpa [← UInt8.toNat_inj, UInt8.lt_iff_toNat_lt] using numbers
    obtain rfl | rfl | rfl | strange := statuses
    · obtain early | ⟨reply, result, form, front⟩ := request.exists_grant payload
      · exact .inl early
      · exact .inr ⟨_, _, form, List.cons_prefix_cons.mpr ⟨rfl, front⟩⟩
    · obtain early | ⟨_, fits, front⟩ :=
        exists_message (.unavailable ∘ .stated) payload request.readReply_outage
      · exact .inl early
      · exact .inr ⟨_, _, .outage request fits, front⟩
    · obtain early | ⟨_, fits, front⟩ :=
        exists_message (.invalidRecord ∘ .stated) payload request.readReply_failure
      · exact .inl early
      · exact .inr ⟨_, _, .failure request fits, front⟩
    · exact .inr ⟨_, _, .unknown request strange, ⟨payload, rfl⟩⟩

/-- What a request comes to if a byte string is all that comes back, as `Multiplexer.exchange` has
it. -/
def resultOf (request : Request) (sent : List UInt8) : Except MuxError Grant :=
  (request.readReply sent).map Prod.fst

/-- The front of what was sent decides what a request comes to. -/
structure DecidedBy (request : Request) (sent consumed : List UInt8)
    (result : Except MuxError Grant) : Prop where
  reply : request.Reply consumed result
  front : consumed <+: sent
  /-- No other front is a reply to the request. -/
  only : ∀ other answer, request.Reply other answer → other <+: sent → other = consumed
  /-- What stands behind makes no difference, nor what else is sent there. -/
  appended : ∀ more, request.resultOf (sent ++ more) = result
  enough : ∀ more, request.resultOf (consumed ++ more) = result
  /-- Whatever is shorter ends too early. -/
  cut : ∀ part, part <+: consumed → part ≠ consumed → EndsEarly (request.resultOf part)

section Decided

variable {request : Request} {sent consumed : List UInt8} {result : Except MuxError Grant}

/-- No reply comes to what a cut one comes to. -/
theorem Reply.not_endsEarly (form : request.Reply consumed result) : ¬EndsEarly result := by
  rintro ⟨err, failed, -, isEnd⟩
  cases form <;> cases failed <;> cases isEnd

theorem Reply.resultOf_append (form : request.Reply consumed result) (more : List UInt8) :
    request.resultOf (consumed ++ more) = result := by
  rw [resultOf, form.delimits.whole]
  cases result <;> rfl

theorem endsEarly_resultOf (early : EndsEarly (request.readReply sent)) :
    EndsEarly (request.resultOf sent) := by
  obtain ⟨err, failed, isEnd⟩ := early
  exact ⟨err, by rw [resultOf, failed]; rfl, isEnd⟩

/-- Two replies at the front of the same bytes are one. -/
theorem Reply.eq_of_prefix {other : List UInt8} {answer : Except MuxError Grant}
    (form : request.Reply consumed result) (second : request.Reply other answer)
    (front : consumed <+: sent) (within : other <+: sent) : other = consumed := by
  obtain shorter | shorter := List.prefix_or_prefix_of_prefix within front
  · exact second.delimits.eq_of_prefix form.delimits
      (fun err failed isEnd => second.not_endsEarly ⟨err, failed, isEnd⟩) shorter
  · exact (form.delimits.eq_of_prefix second.delimits
      (fun err failed isEnd => form.not_endsEarly ⟨err, failed, isEnd⟩) shorter).symm

theorem Reply.decides (form : request.Reply consumed result) (front : consumed <+: sent) :
    request.DecidedBy sent consumed (request.resultOf sent) := by
  obtain ⟨rest, rfl⟩ := front
  rw [form.resultOf_append]
  refine ⟨form, List.prefix_append _ _, ?_, ?_, form.resultOf_append, ?_⟩
  · exact fun other answer second within =>
      form.eq_of_prefix second (List.prefix_append _ _) within
  · intro more
    rw [List.append_assoc, form.resultOf_append]
  · exact fun part within apart => endsEarly_resultOf (form.delimits.cut part within apart)

/-- Whatever a request comes to, if not to an end too early, is decided by a front. -/
theorem endsEarly_or_decided (request : Request) (sent : List UInt8) :
    EndsEarly (request.resultOf sent) ∨
      ∃ consumed, request.DecidedBy sent consumed (request.resultOf sent) := by
  obtain early | ⟨reply, result, form, front⟩ := request.exists_reply sent
  · exact .inl (endsEarly_resultOf early)
  · exact .inr ⟨reply, form.decides front⟩

/-- A listing was sent as a number of ports and the ports themselves. -/
theorem DecidedBy.sent_of_listing {listed : OpenPorts}
    (decided : openPorts.DecidedBy sent consumed (.ok (.listing listed))) :
    ∃ ports rest, ports.length ≤ maxListed ∧
      sent = 0 :: (word32 (UInt32.ofNat ports.length) ++ (ports.flatMap int32 ++ rest)) ∧
      listed = .ofList ports := by
  obtain ⟨form, ⟨rest, rfl⟩, -⟩ := decided
  cases form with
  | @listing ports fits =>
    exact ⟨ports, rest, fits, by rw [List.cons_append, List.append_assoc], rfl⟩

end Decided

/-- Whatever is sent back, a request comes to an end too early or to what a well-determined
front of the bytes decides, and every reply decides so. Too great a number of ports is refused
whatever follows it, and a listing holds the ports that were sent, in ascending order, and finds
exactly these. -/
theorem decided_whatever_sent :
    (∀ (request : Request) (sent : List UInt8), EndsEarly (request.resultOf sent) ∨
      ∃ consumed, request.DecidedBy sent consumed (request.resultOf sent)) ∧
    (∀ (request : Request) (consumed more : List UInt8) (result : Except MuxError Grant),
      request.Reply consumed result → request.resultOf (consumed ++ more) = result) ∧
    (∀ (count : UInt32) (more : List UInt8), 0x100000 < count.toNat →
      openPorts.resultOf (0 :: (word32 count ++ more)) =
        .error (.invalidRecord (.tooManyPorts count))) ∧
    ∀ (sent : List UInt8) (listed : OpenPorts), openPorts.resultOf sent = .ok (.listing listed) →
      ∃ ports rest, ports.length ≤ 0x100000 ∧
        sent = 0 :: (word32 (UInt32.ofNat ports.length) ++ (ports.flatMap int32 ++ rest)) ∧
        listed.ports.Perm ports ∧ listed.ports.Pairwise (· ≤ ·) ∧
        ∀ port, listed.contains port = true ↔ port ∈ ports := by
  refine ⟨endsEarly_or_decided, fun _ _ more _ form => form.resultOf_append more,
    fun count more many => ?_, fun sent listed granted => ?_⟩
  · exact (Reply.tooMany many).resultOf_append more
  · obtain ⟨err, failed, -⟩ | ⟨consumed, decided⟩ := openPorts.endsEarly_or_decided sent
    · rw [granted] at failed
      cases failed
    · rw [granted] at decided
      obtain ⟨ports, rest, fits, rfl, rfl⟩ := decided.sent_of_listing
      exact ⟨ports, rest, fits, rfl, OpenPorts.perm_ofList ports,
        OpenPorts.ascending_ofList ports, OpenPorts.contains_ofList ports⟩

/-- A listing sent out of order, with a port twice and one below zero, and one byte behind it. -/
theorem decided_shuffled_listing :
    let sent := [0, 0, 0, 0, 3, 0, 0, 0, 5, 255, 255, 255, 255, 0, 0, 0, 5, 9]
    let listed : OpenPorts := ⟨[-1, 5, 5]⟩
    openPorts.resultOf sent = .ok (.listing listed) ∧
      (∃ consumed, openPorts.DecidedBy sent consumed (.ok (.listing listed))) ∧
      (∃ ports, listed.ports.Perm ports ∧ ∀ port, listed.contains port = true ↔ port ∈ ports) ∧
      openPorts.resultOf (0 :: (word32 0x100001 ++ [7])) =
        .error (.invalidRecord (.tooManyPorts 0x100001)) := by
  intro sent listed
  have sorted : OpenPorts.ofList [5, -1, 5] = listed := by
    simp [OpenPorts.ofList, List.mergeSort, List.MergeSort.Internal.splitInTwo, listed]
  have fits : [(5 : Port), -1, 5].length ≤ maxListed := by decide
  obtain ⟨either, decides, tooMany, listing⟩ := decided_whatever_sent
  have granted : openPorts.resultOf sent = .ok (.listing listed) :=
    sorted ▸ decides openPorts _ [9] _ (.listing fits)
  refine ⟨granted, ?_, ?_, tooMany 0x100001 [7] (by decide)⟩
  · obtain ⟨err, failed, -⟩ | decided := either openPorts sent
    · rw [granted] at failed
      cases failed
    · rw [granted] at decided
      exact decided
  · obtain ⟨ports, -, -, -, perm, -, finds⟩ := listing sent listed granted
    exact ⟨ports, perm, finds⟩

end Request
end Authority
end SocketMux
