import SocketMux.Proofs.Authority.Handling
import SocketMux.Proofs.Lifecycle.Frame

/-!
# Conversations with an authority

An authority handles the requests of many connections, each frame in one go and the frames of
a connection in turn, but mixed with those of other connections in any way. `serveNext`
handles the next frame of one connection, and `serveInTurn` as many as an order of connections
says; `Attends.serveConnection_serveInTurn` shows that serving a connection is handling its
frames one by one.

Whatever the order, the conversations stay apart and the pool stays whole
(`Attends.interleaved`): each connection gets the replies to its own complete frames, in order
and one for each; no port is granted twice; the ports in use are those that were granted and
not returned since; what is no request is refused and changes nothing, and so does what is no
complete frame.

All bytes of a connection wait from the beginning here. Bytes that come later only rule out
orders in which they are handled too early.
-/

namespace SocketMux

/-- A connection that was served: its requests are taken, the replies are there, and at the
end of the requests it is let go of. -/
def Connection.served (connection : Connection) (replies : List UInt8) :
    Connection :=
  let replied : Connection :=
    ⟨{ connection.caller with unread := connection.caller.unread ++ replies },
      { connection.callee with unread := [] }⟩
  if connection.callee.reset || connection.callee.readEnded then replied.release .callee true
  else replied

/-- A connection that is served in two goes. -/
theorem Connection.served_append (connection : Connection) (first second : List UInt8) :
    Connection.served ⟨{ connection.caller with unread := connection.caller.unread ++ first },
      { connection.callee with unread := [] }⟩ second = connection.served (first ++ second) := by
  simp only [Connection.served, List.append_assoc]

namespace Multiplexer

open SocketMux.Authority

/-- The state after a reply to a frame on the connection at a place, where `rest` follows the
frame. -/
def advance (mux : Multiplexer) (place : Nat) (served : ServedConnection)
    (connection : Connection) (state : PortPool) (rest reply : List UInt8) : Multiplexer :=
  let emptied := connection.modify .callee fun callee => { callee with unread := [] }
  let (_, answered) := emptied.write .callee reply
  { mux.setPool served.pool state with
    host := mux.host.modifyConnection served.connection fun _ => answered
    served := mux.served.set place { served with partialRequest := rest } }

/-- Handle the next complete frame of the connection at a place among those that are served,
and tell what was handled. -/
def serveNext (mux : Multiplexer) (place : Nat) : List Handled × Multiplexer :=
  match mux.served[place]? with
  | none => ([], mux)
  | some served =>
    match mux.host.connections.get? served.connection, mux.pools.get? served.pool with
    | some connection, some state =>
      match takeFrame? (served.partialRequest ++ connection.callee.unread) with
      | none => ([], mux)
      | some ((code, argument), rest) =>
        let (reply, state) := answer state code argument
        ([⟨place, code, argument, reply⟩],
          mux.advance place served connection state rest reply)
    | _, _ => ([], mux)

/-- Handle frames of connections in an order. -/
def serveInTurn (mux : Multiplexer) : List Nat → List Handled × Multiplexer
  | [] => ([], mux)
  | place :: places =>
    let (handled, mux) := mux.serveNext place
    let (others, mux) := serveInTurn mux places
    (handled ++ others, mux)

/-- The connection at a place among those that are served. -/
def connectionAt? (mux : Multiplexer) (place : Nat) : Option Connection :=
  mux.served[place]?.bind fun served => mux.host.connections.get? served.connection

/-- The bytes of a connection that have not been handled. -/
def waitingAt (mux : Multiplexer) (place : Nat) : List UInt8 :=
  (mux.served[place]?.elim [] ServedConnection.partialRequest) ++
    (mux.connectionAt? place).elim [] fun connection => connection.callee.unread

/-- The bytes that have come back on a connection. -/
def repliedAt (mux : Multiplexer) (place : Nat) : List UInt8 :=
  (mux.connectionAt? place).elim [] fun connection => connection.caller.unread

/-- What was handled for one connection. -/
def handledAt (mux : Multiplexer) (order : List Nat) (place : Nat) : List Handled :=
  (mux.serveInTurn order).1.filter fun handled => handled.place == place

/-- An authority that serves a pool to connections that are apart from each other and read
their replies. -/
structure Attends (mux : Multiplexer) (pool : Nat) (state : PortPool) : Prop where
  state : mux.pools.get? pool = some state
  apart : (mux.served.map ServedConnection.connection).Nodup
  served : ∀ (place : Nat) (served : ServedConnection), mux.served[place]? = some served →
    served.pool = pool ∧ ∃ connection, mux.connectionAt? place = some connection ∧
      connection.callee.writeEnded = false

/-- What handling a frame does to its own connection and to the others. -/
structure Advances (mux after : Multiplexer) (place : Nat) (rest reply : List UInt8) : Prop where
  waiting : after.waitingAt place = rest
  replied : after.repliedAt place = mux.repliedAt place ++ reply
  others : ∀ other, other ≠ place → after.waitingAt other = mux.waitingAt other ∧
    after.repliedAt other = mux.repliedAt other

/-- What was handled for a connection: its first frames, each with its reply. -/
structure Answers (mux : Multiplexer) (order : List Nat) (place : Nat) : Prop where
  /-- The frames are the first ones that were waiting, as many as it was the place's turn. -/
  frames : (mux.handledAt order place).map Handled.frame =
    (framesOf (mux.waitingAt place)).take (order.count place)
  /-- What has come back are the replies to them. -/
  replied : (mux.serveInTurn order).2.repliedAt place =
    mux.repliedAt place ++ (mux.handledAt order place).flatMap Handled.reply
  /-- What waits are the bytes after them. -/
  waiting : (mux.serveInTurn order).2.waitingAt place =
    (mux.waitingAt place).drop (5 * (mux.handledAt order place).length)

theorem handledAt_cons (mux : Multiplexer) (first : Nat) (order : List Nat) (place : Nat) :
    mux.handledAt (first :: order) place =
      (mux.serveNext first).1.filter (fun handled => handled.place == place) ++
        (mux.serveNext first).2.handledAt order place := by
  rw [handledAt, Multiplexer.serveInTurn, List.filter_append]
  rfl

/-- What is known of the pool after frames were handled in any order. -/
structure Keeps (mux : Multiplexer) (pool count : Nat) (state after : PortPool)
    (order : List Nat) : Prop where
  attends : (mux.serveInTurn order).2.Attends pool after
  replies : ∀ handled ∈ (mux.serveInTurn order).1, ∃ now : PortPool, now.closed = false ∧
    handled.reply = (answer now handled.code handled.argument).1
  issued : PortPool.Issued (count + (grants (mux.serveInTurn order).1).length) after
  granted : grants (mux.serveInTurn order).1 =
    (List.range (grants (mux.serveInTurn order).1).length).map fun index =>
      PortPool.nth (count + index)
  held : ∀ port, port ∈ after.held ↔
    Handled.leavesAll port (mux.serveInTurn order).1 (port ∈ state.held)

/-- What is written to a caller that reads comes to it. -/
theorem write_callee {connection : Connection} (unended : connection.callee.writeEnded = false)
    (reply : List UInt8) :
    ((connection.modify .callee fun callee => { callee with unread := [] }).write .callee
        reply).2 =
      ⟨{ connection.caller with unread := connection.caller.unread ++ reply },
        { connection.callee with unread := [] }⟩ := by
  unfold Connection.write
  split
  · next nothing =>
    subst nothing
    rw [List.append_nil]
    rfl
  · simp [Connection.send, Connection.modify, Connection.terminal, Side.other, unended]

namespace Attends

variable {mux : Multiplexer} {pool count : Nat} {state : PortPool}

/-- The connection at a place, whose caller reads. -/
theorem connection (attends : mux.Attends pool state) {place : Nat} {served : ServedConnection}
    (found : mux.served[place]? = some served) :
    ∃ connection, mux.host.connections.get? served.connection = some connection ∧
      connection.callee.writeEnded = false := by
  obtain ⟨-, connection, present, unended⟩ := attends.served place served found
  rw [connectionAt?, found] at present
  exact ⟨connection, present, unended⟩

/-- Where no complete frame waits nothing happens. -/
theorem serveNext_of_incomplete (attends : mux.Attends pool state) {place : Nat}
    (incomplete : takeFrame? (mux.waitingAt place) = none) : mux.serveNext place = ([], mux) := by
  unfold serveNext
  split
  · rfl
  · next served found =>
    obtain ⟨rfl, -⟩ := attends.served place served found
    obtain ⟨connection, present, -⟩ := attends.connection found
    simp only [waitingAt, connectionAt?, found, Option.bind_some, present, Option.elim_some]
      at incomplete
    simp only [present, attends.state, incomplete]

/-- A reply changes the connection at its place and no other. -/
theorem connectionAt?_advance (attends : mux.Attends pool state) {place : Nat}
    {served : ServedConnection} {connection : Connection}
    (found : mux.served[place]? = some served)
    (present : mux.host.connections.get? served.connection = some connection)
    (unended : connection.callee.writeEnded = false) (after : PortPool) (rest reply : List UInt8)
    (other : Nat) :
    (mux.advance place served connection after rest reply).connectionAt? other =
      if other = place then
        some ⟨{ connection.caller with unread := connection.caller.unread ++ reply },
          { connection.callee with unread := [] }⟩
      else mux.connectionAt? other := by
  have bounded : place < mux.served.length := (List.getElem?_eq_some_iff.mp found).1
  by_cases own : other = place
  · subst own
    simp [connectionAt?, advance, bounded, Host.modifyConnection, present, write_callee unended]
  · have kept : (mux.advance place served connection after rest reply).served[other]? =
        mux.served[other]? := List.getElem?_set_ne (Ne.symm own)
    simp only [connectionAt?, kept, if_neg own]
    cases asked : mux.served[other]? with
    | none => rfl
    | some another =>
      have apart : served.connection ≠ another.connection := by
        intro same
        have inside : other < (mux.served.map ServedConnection.connection).length := by
          rw [List.length_map]
          exact (List.getElem?_eq_some_iff.mp asked).1
        refine own ((List.getElem?_inj inside attends.apart).mp ?_)
        rw [List.getElem?_map, List.getElem?_map, asked, found, Option.map_some,
          Option.map_some, same]
      simp [advance, Host.modifyConnection, apart]

/-- Replies leave the connections apart and read. -/
theorem advance (attends : mux.Attends pool state) {place : Nat}
    {served : ServedConnection} {connection : Connection}
    (found : mux.served[place]? = some served)
    (present : mux.host.connections.get? served.connection = some connection)
    (unended : connection.callee.writeEnded = false) (after : PortPool)
    (rest reply : List UInt8) :
    (mux.advance place served connection after rest reply).Attends pool after := by
  obtain ⟨rfl, -⟩ := attends.served place served found
  have bounded : place < mux.served.length := (List.getElem?_eq_some_iff.mp found).1
  have connections := attends.connectionAt?_advance found present unended after rest reply
  refine ⟨by simp [Multiplexer.advance, setPool, attends.state], ?_, ?_⟩
  · have kept : (mux.advance place served connection after rest reply).served.map
        ServedConnection.connection = mux.served.map ServedConnection.connection := by
      apply List.ext_getElem?
      intro other
      simp only [Multiplexer.advance, List.getElem?_map, List.getElem?_set]
      split
      · next own =>
        rw [← own, found]
        rfl
      · rfl
    rw [kept]
    exact attends.apart
  · intro other another asked
    rw [connections other]
    by_cases own : other = place
    · subst own
      have changed : (mux.advance other served connection after rest reply).served[other]? =
          some { served with partialRequest := rest } := List.getElem?_set_self bounded
      obtain rfl := Option.some.inj (changed.symm.trans asked)
      rw [if_pos rfl]
      exact ⟨rfl, _, rfl, unended⟩
    · have kept : (mux.advance place served connection after rest reply).served[other]? =
          mux.served[other]? := List.getElem?_set_ne (Ne.symm own)
      rw [if_neg own]
      exact attends.served other another (kept.symm.trans asked)

/-- Where a complete frame waits it is answered from the pool. -/
theorem serveNext_of_frame (attends : mux.Attends pool state) {place : Nat} {code : UInt8}
    {argument : Port} {rest : List UInt8}
    (taken : takeFrame? (mux.waitingAt place) = some ((code, argument), rest)) :
    ∃ after, mux.serveNext place =
        ([⟨place, code, argument, (answer state code argument).1⟩], after) ∧
      after.pools = (mux.setPool pool (answer state code argument).2).pools ∧
      after.Attends pool (answer state code argument).2 ∧
      Advances mux after place rest (answer state code argument).1 := by
  cases found : mux.served[place]? with
  | none => simp [waitingAt, connectionAt?, found, takeFrame?] at taken
  | some served =>
    obtain ⟨rfl, -⟩ := attends.served place served found
    obtain ⟨connection, present, unended⟩ := attends.connection found
    simp only [waitingAt, connectionAt?, found, Option.bind_some, present, Option.elim_some]
      at taken
    refine ⟨mux.advance place served connection (answer state code argument).2 rest
      (answer state code argument).1, ?_, rfl, ?_, ?_⟩
    · simp only [serveNext, found, present, attends.state, taken]
    · exact attends.advance found present unended _ _ _
    · have connections := attends.connectionAt?_advance found present unended
        (answer state code argument).2 rest (answer state code argument).1
      have bounded : place < mux.served.length := (List.getElem?_eq_some_iff.mp found).1
      refine ⟨?_, ?_, fun other apart => ⟨?_, ?_⟩⟩
      · have own : (mux.advance place served connection (answer state code argument).2 rest
            (answer state code argument).1).served[place]? =
              some { served with partialRequest := rest } := List.getElem?_set_self bounded
        rw [waitingAt, connections, if_pos rfl, own]
        exact List.append_nil rest
      · have before : mux.connectionAt? place = some connection := by
          rw [connectionAt?, found]
          exact present
        rw [repliedAt, connections, if_pos rfl, repliedAt, before]
        rfl
      · have kept : (mux.advance place served connection (answer state code argument).2 rest
            (answer state code argument).1).served[other]? = mux.served[other]? :=
          List.getElem?_set_ne (Ne.symm apart)
        rw [waitingAt, connections, if_neg apart, kept, waitingAt]
      · rw [repliedAt, connections, if_neg apart, repliedAt]

/-- The authority goes on to attend its connections, whatever it handles. -/
theorem serveNext (attends : mux.Attends pool state) (place : Nat) :
    ∃ after, (mux.serveNext place).2.Attends pool after := by
  cases taken : takeFrame? (mux.waitingAt place) with
  | none =>
    rw [attends.serveNext_of_incomplete taken]
    exact ⟨state, attends⟩
  | some found =>
    obtain ⟨⟨code, argument⟩, rest⟩ := found
    obtain ⟨after, served, -, further, -⟩ := attends.serveNext_of_frame taken
    rw [served]
    exact ⟨_, further⟩

theorem serveInTurn (attends : mux.Attends pool state) (order : List Nat) :
    ∃ after, (mux.serveInTurn order).2.Attends pool after := by
  induction order generalizing mux state with
  | nil => exact ⟨state, attends⟩
  | cons place order inductionHypothesis =>
    obtain ⟨next, further⟩ := attends.serveNext place
    exact inductionHypothesis further

/-- Each connection is answered its own frames in turn, in whatever order they are handled. -/
theorem answers (attends : mux.Attends pool state) (order : List Nat) (place : Nat) :
    Answers mux order place := by
  induction order generalizing mux state with
  | nil => exact ⟨rfl, (List.append_nil _).symm, rfl⟩
  | cons first order inductionHypothesis =>
    cases taken : takeFrame? (mux.waitingAt first) with
    | none =>
      have idle := attends.serveNext_of_incomplete taken
      obtain ⟨frames, replied, waiting⟩ := inductionHypothesis attends
      have handled : mux.handledAt (first :: order) place = mux.handledAt order place := by
        rw [handledAt_cons, idle]
        rfl
      have after : (mux.serveInTurn (first :: order)).2 = (mux.serveInTurn order).2 := by
        rw [Multiplexer.serveInTurn, idle]
      refine ⟨?_, by rw [handled, after, replied], by rw [handled, after, waiting]⟩
      rw [handled, frames, List.count_cons]
      split
      · next own =>
        obtain rfl := eq_of_beq own
        rw [takeFrame?_eq_none taken, List.take_nil, List.take_nil]
      · rfl
    | some found =>
      obtain ⟨⟨code, argument⟩, rest⟩ := found
      obtain ⟨next, served, -, further, moved⟩ := attends.serveNext_of_frame taken
      obtain ⟨frames, replied, waiting⟩ := inductionHypothesis further
      have after : (mux.serveInTurn (first :: order)).2 = (next.serveInTurn order).2 := by
        rw [Multiplexer.serveInTurn, served]
      by_cases own : first = place
      · subst own
        have handled : mux.handledAt (first :: order) first =
            ⟨first, code, argument, (answer state code argument).1⟩ ::
              next.handledAt order first := by
          rw [handledAt_cons, served]
          simp
        obtain ⟨split, dropped⟩ := takeFrame?_some taken
        refine ⟨?_, ?_, ?_⟩
        · rw [handled, List.map_cons, frames, moved.waiting, split, List.count_cons_self,
            List.take_succ_cons]
          rfl
        · rw [handled, after, replied, moved.replied, List.flatMap_cons, List.append_assoc]
        · rw [handled, after, waiting, moved.waiting, dropped, List.drop_drop, List.length_cons,
            Nat.mul_succ, Nat.add_comm]
      · obtain ⟨sameWaiting, sameReplied⟩ := moved.others place (Ne.symm own)
        have handled : mux.handledAt (first :: order) place = next.handledAt order place := by
          rw [handledAt_cons, served]
          simp [own]
        refine ⟨?_, ?_, ?_⟩
        · rw [handled, frames, sameWaiting, List.count_cons_of_ne own]
        · rw [handled, after, replied, sameReplied]
        · rw [handled, after, waiting, sameWaiting]

/-- The pool hands out its ports in turn and knows which ones are in use. -/
theorem keeps (attends : mux.Attends pool state) (issued : PortPool.Issued count state)
    (order : List Nat)
    (bounded : count + (grants (mux.serveInTurn order).1).length ≤ PortPool.capacity) :
    ∃ after, Keeps mux pool count state after order := by
  induction order generalizing mux state count with
  | nil => exact ⟨state, attends, by rintro _ ⟨⟩, issued, rfl, fun port => Iff.rfl⟩
  | cons first order inductionHypothesis =>
    cases taken : takeFrame? (mux.waitingAt first) with
    | none =>
      have idle := attends.serveNext_of_incomplete taken
      have same : mux.serveInTurn (first :: order) = mux.serveInTurn order := by
        rw [Multiplexer.serveInTurn, idle]
        rfl
      rw [same] at bounded
      obtain ⟨after, facts⟩ := inductionHypothesis attends issued bounded
      exact ⟨after, same ▸ facts.attends, same ▸ facts.replies, same ▸ facts.issued,
        same ▸ facts.granted, same ▸ facts.held⟩
    | some found =>
      obtain ⟨⟨code, argument⟩, rest⟩ := found
      obtain ⟨next, served, -, further, -⟩ := attends.serveNext_of_frame taken
      let handled : Handled := ⟨first, code, argument, (answer state code argument).1⟩
      have same : mux.serveInTurn (first :: order) =
          (handled :: (next.serveInTurn order).1, (next.serveInTurn order).2) := by
        rw [Multiplexer.serveInTurn, served]
        rfl
      have split := grants_cons handled (next.serveInTurn order).1
      rw [same, split, List.length_append, ← Nat.add_assoc] at bounded
      have effect := effect_of_answer issued first code argument (Nat.le_of_add_right_le bounded)
      obtain ⟨after, facts⟩ := inductionHypothesis further effect.issued bounded
      refine ⟨after, same ▸ facts.attends, ?_, ?_, ?_, fun port => ?_⟩
      · rw [same]
        intro one member
        obtain rfl | later := List.mem_cons.mp member
        · exact ⟨state, issued.unclosed, rfl⟩
        · exact facts.replies one later
      · rw [same, split, List.length_append, ← Nat.add_assoc]
        exact facts.issued
      · rw [same, split]
        exact grants_in_turn effect.granted facts.granted
      · rw [facts.held port, same, propext (effect.held port)]
        rfl

end Attends

/-- Conversations of an authority whose requests are mixed in some order. -/
structure Interleaved (mux : Multiplexer) (pool : Nat) (state : PortPool) (order : List Nat) :
    Prop where
  /-- Each connection gets the replies to its own frames, in order and one for each. -/
  answers : ∀ place, Answers mux order place
  /-- Once it was its turn often enough, these are all its complete frames, five bytes each. -/
  complete : ∀ place, (mux.waitingAt place).length / 5 ≤ order.count place →
    (mux.handledAt order place).map Handled.frame = framesOf (mux.waitingAt place)
  /-- A reply is what the pool answers to the frame at its turn. -/
  replies : ∀ handled ∈ (mux.serveInTurn order).1, ∃ now : PortPool, now.closed = false ∧
    handled.reply = (answer now handled.code handled.argument).1
  /-- No port is granted twice. -/
  granted : (grants (mux.serveInTurn order).1).Nodup
  /-- The ports in use are those that were granted and not returned since. -/
  held : ∃ after, (mux.serveInTurn order).2.pools.get? pool = some after ∧
    after.closed = false ∧ ∀ port, port ∈ after.held ↔
      Handled.leavesAll port (mux.serveInTurn order).1 (port ∈ state.held)
  /-- What is no request is refused with status 2 and changes no pool, and the frames behind it
  wait to be handled. -/
  refused : ∀ place code argument rest,
    takeFrame? ((mux.serveInTurn order).2.waitingAt place) = some ((code, argument), rest) →
    Request.ofCode? code argument = none →
    ∃ message after, (mux.serveInTurn order).2.serveNext place =
        ([⟨place, code, argument, 2 :: message⟩], after) ∧
      after.pools = (mux.serveInTurn order).2.pools ∧ after.waitingAt place = rest
  /-- An incomplete frame gets no reply and changes nothing. -/
  incomplete : ∀ place, ((mux.serveInTurn order).2.waitingAt place).length < 5 →
    (mux.serveInTurn order).2.serveNext place = ([], (mux.serveInTurn order).2)

namespace Attends

variable {mux : Multiplexer} {pool count : Nat} {state : PortPool}

/-- Serving a connection answers all its complete frames at once, and lets go of it at its
end. -/
theorem serveConnection_eq {served : ServedConnection} {connection : Connection}
    {answered : List UInt8 × PortPool × List UInt8}
    (found : mux.pools.get? served.pool = some state)
    (present : mux.host.connections.get? served.connection = some connection)
    (unended : connection.callee.writeEnded = false)
    (all : answerAll state (served.partialRequest ++ connection.callee.unread) = answered) :
    (mux.serveConnection served).2 =
      { mux.setPool served.pool answered.2.1 with
        host := mux.host.modifyConnection served.connection fun _ =>
          connection.served answered.1 } := by
  simp only [serveConnection, present, answerFrom, found, all, Connection.served]
  rw [← write_callee unended]
  split <;> rfl

/-- Serving a connection handles its next frame first. -/
theorem serveConnection_serveNext (attends : mux.Attends pool state) {place : Nat}
    {served : ServedConnection} (found : mux.served[place]? = some served) :
    ∃ later, (mux.serveNext place).2.served[place]? = some later ∧
      (mux.serveConnection served).2 =
        { ((mux.serveNext place).2.serveConnection later).2 with served := mux.served } := by
  obtain ⟨rfl, -⟩ := attends.served place served found
  obtain ⟨connection, present, unended⟩ := attends.connection found
  have waiting : mux.waitingAt place = served.partialRequest ++ connection.callee.unread := by
    simp only [waitingAt, connectionAt?, found, Option.bind_some, present, Option.elim_some]
  cases taken : takeFrame? (mux.waitingAt place) with
  | none =>
    rw [attends.serveNext_of_incomplete taken]
    refine ⟨served, found, ?_⟩
    rw [serveConnection_eq attends.state present unended rfl]
    rfl
  | some frame =>
    obtain ⟨⟨code, argument⟩, rest⟩ := frame
    rw [waiting] at taken
    let answered := answer state code argument
    let next := mux.advance place served connection answered.2 rest answered.1
    have stepped : (mux.serveNext place).2 = next := by
      simp only [Multiplexer.serveNext, found, present, attends.state, taken]
      rfl
    have further : next.Attends served.pool answered.2 :=
      attends.advance found present unended answered.2 rest answered.1
    have changed := attends.connectionAt?_advance found present unended answered.2 rest
      answered.1 place
    have own : next.served[place]? = some { served with partialRequest := rest } :=
      List.getElem?_set_self (List.getElem?_eq_some_iff.mp found).1
    rw [if_pos rfl, connectionAt?, own] at changed
    have all : answerAll answered.2 (rest ++ []) = answerAll answered.2 rest := by
      rw [List.append_nil]
    have later : (next.serveConnection { served with partialRequest := rest }).2 = _ :=
      serveConnection_eq further.state changed unended all
    rw [stepped]
    refine ⟨_, own, ?_⟩
    rw [serveConnection_eq attends.state present unended (answerAll_of_takeFrame? state taken),
      later]
    simp only [next, Multiplexer.advance, setPool, Host.modifyConnection, Table.modify_modify]
    rw [Connection.served_append]

/-- Serving a connection is handling its frames one by one, at least the first ones. -/
theorem serveConnection_serveInTurn (attends : mux.Attends pool state) {place : Nat}
    {served : ServedConnection} (found : mux.served[place]? = some served) (times : Nat) :
    ∃ later, (mux.serveInTurn (List.replicate times place)).2.served[place]? = some later ∧
      (mux.serveConnection served).2 =
        { ((mux.serveInTurn (List.replicate times place)).2.serveConnection later).2 with
          served := mux.served } := by
  induction times generalizing mux state served with
  | zero =>
    obtain ⟨rfl, -⟩ := attends.served place served found
    obtain ⟨connection, present, unended⟩ := attends.connection found
    refine ⟨served, found, ?_⟩
    rw [List.replicate_zero, Multiplexer.serveInTurn,
      serveConnection_eq attends.state present unended rfl]
    rfl
  | succ times inductionHypothesis =>
    obtain ⟨next, there, first⟩ := attends.serveConnection_serveNext found
    obtain ⟨_, further⟩ := attends.serveNext place
    obtain ⟨later, last, others⟩ := inductionHypothesis further there
    refine ⟨later, last, ?_⟩
    rw [first, others]
    rfl

/-- However the requests of its connections are mixed, an authority of an open pool keeps the
conversations apart and the pool whole. -/
theorem interleaved (attends : mux.Attends pool state) (reached : PortPool.Reached count state)
    (unclosed : state.closed = false) (order : List Nat)
    (bounded : count + (grants (mux.serveInTurn order).1).length ≤ PortPool.capacity) :
    Interleaved mux pool state order := by
  have issued := reached.issued (Nat.le_of_add_right_le bounded) unclosed
  obtain ⟨after, kept⟩ := attends.keeps issued order bounded
  refine ⟨attends.answers order, fun place enough => ?_, ?_, ?_, ?_, ?_, ?_⟩
  · rw [(attends.answers order place).frames]
    exact List.take_of_length_le (by rwa [length_framesOf])
  · exact kept.replies
  · exact nodup_of_in_turn kept.granted bounded
  · exact ⟨after, kept.attends.state, kept.issued.unclosed, kept.held⟩
  · intro place code argument rest taken unknown
    obtain ⟨next, served, pools, -, moved⟩ := kept.attends.serveNext_of_frame taken
    have refused : answer after code argument =
        (encodeFailure (.invalidRecord (.unknownOperation code)), after) := by
      simp only [answer, unknown]
    rw [refused] at served pools
    refine ⟨_, next, served, ?_, moved.waiting⟩
    rw [pools, setPool_same kept.attends.state]
  · intro place short
    exact kept.attends.serveNext_of_incomplete (takeFrame?_of_short short)

end Attends

/-- Clients that have sent bytes to an authority at the root and ended their writing, all of
them accepted. -/
def conversing (texts : List (List UInt8)) : Multiplexer :=
  let begun := texts.foldl
    (fun mux bytes =>
      (mux.beginConversation [Path.separator, 97] bytes).toOption.elim mux Prod.snd)
    (blank.after [.makePool, .startAuthority [Path.separator, 97] 0])
  begun.authorities.rows.foldl acceptServed begun

/-- Two clients: one asks for a port, makes an unknown request and breaks off, the other one asks
for a port and returns it. -/
def twoClients : Multiplexer :=
  conversing [[1, 0, 0, 0, 0, 9, 0, 0, 0, 0, 1, 0, 0], [1, 0, 0, 0, 0, 2, 0, 1, 0xAD, 0xB1]]

/-- The two clients are answered in turn. -/
theorem interleaved_twoClients :
    twoClients.Attends 0 .initial ∧ PortPool.Reached 0 .initial ∧
      PortPool.initial.closed = false ∧ Interleaved twoClients 0 .initial [0, 1, 0, 1, 0] := by
  have served : twoClients.served = [⟨0, 0, []⟩, ⟨1, 0, []⟩] := by decide +kernel
  have attends : twoClients.Attends 0 .initial := by
    refine ⟨by decide +kernel, by decide +kernel, fun place one found => ?_⟩
    rw [served] at found
    rcases place with - | - | place
    · obtain rfl := Option.some.inj found
      exact ⟨rfl, _, rfl, by decide +kernel⟩
    · obtain rfl := Option.some.inj found
      exact ⟨rfl, _, rfl, by decide +kernel⟩
    · cases found
  exact ⟨attends, .initial, rfl,
    attends.interleaved .initial rfl [0, 1, 0, 1, 0] (by decide +kernel)⟩

end Multiplexer

end SocketMux
