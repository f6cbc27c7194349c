import SocketMux.Session.State

/-!
# Steps on ports

Making pools, assigners and namings, asking for ports, and looking assigners up. A step
that names a thing that is not there changes nothing.
-/

namespace SocketMux.Session

/-- Use a thing that a step names, if it is there. -/
def withThing {α : Type} (session : Session) (found : Option α)
    (use : α → Answer × Session) : Answer × Session :=
  match found with
  | none => (.absent, session)
  | some thing => use thing

/-- Use a thing that a step may name, if it does so and it is there. -/
def withChosen {α : Type} (session : Session) (find : Label → Option α) (chosen : Option Label)
    (use : Option α → Answer × Session) : Answer × Session :=
  match chosen with
  | none => use none
  | some label => session.withThing (find label) fun thing => use (some thing)

/-- Go on with another state of the multiplexer. -/
def withMux (session : Session) (mux : Multiplexer) : Session := { session with mux }

/-- The answer of an outcome that has nothing to show. -/
def doneOr (outcome : Except MuxError Unit) : Answer :=
  match outcome with
  | .ok () => .done
  | .error err => .failed err

/-- The answer of a request for ports. -/
def granted : Except MuxError Authority.Grant → Answer
  | .ok (.port port) => .port port
  | .ok .done => .done
  | .ok (.listing listed) => .listing listed.ports
  | .error err => .failed err

/-- Add a pool that has given out no ports. -/
def addPool (session : Session) (label : Label) : Nat × Session :=
  let (number, pools) := session.mux.pools.add .initial
  (number, (session.withMux { session.mux with pools }).name label (.pool number))

/-- Make a pool. -/
def makePool (session : Session) (label : Label) : Answer × Session :=
  (.nothing, (session.addPool label).2)

/-- Take a port from a pool. -/
def allocate (session : Session) (pool : Label) : Answer × Session :=
  session.withThing (session.pool? pool) fun number =>
    let (outcome, mux) := session.mux.serveFrom number .newPort
    (granted outcome, session.withMux mux)

/-- Close a pool. -/
def closePool (session : Session) (pool : Label) : Answer × Session :=
  session.withThing (session.pool? pool) fun number =>
    let mux := session.mux
    (.nothing, session.withMux { mux with pools := mux.pools.modify number PortPool.close })

/-- Add an assigner. -/
def addAssigner (session : Session) (label : Label) (assigner : Assigner) : Answer × Session :=
  let (number, assigners) := session.mux.assigners.add assigner
  (.nothing, (session.withMux { session.mux with assigners }).name label (.assigner number))

/-- The label of the pool that is made for an assigner. -/
def ownPoolLabel (assigner : Label) : Label := assigner ++ ".pool"

/-- Make an assigner. -/
def makeAssigner (session : Session) (label : Label) : AssignerPlan → Answer × Session
  | .pooled none =>
    let (number, session) := session.addPool (ownPoolLabel label)
    session.addAssigner label (.pooled number)
  | .pooled (some pool) =>
    session.withThing (session.pool? pool) fun number =>
      session.addAssigner label (.pooled number)
  | .remote path => session.addAssigner label (.remote path)
  | .scripted ports refusal => session.addAssigner label (.scripted ports fun _ => refusal)

/-- Make a request of an assigner. -/
def ask (session : Session) (assigner : Label) (request : Authority.Request) : Answer × Session :=
  session.withThing (session.assigner? assigner) fun number =>
    match request with
    | .returnPort port =>
      let (outcome, mux) := session.mux.returnPort number port
      (doneOr outcome, session.withMux mux)
    | request =>
      let (outcome, mux) := session.mux.ask number request
      (granted outcome, session.withMux mux)

/-- Make a naming. -/
def makeNaming (session : Session) (label : Label) : NamingPlan → Answer × Session
  | .direct registryPort assigner =>
    session.withThing (session.assigner? assigner) fun number =>
      (.nothing, session.name label (.naming (.direct registryPort number)))
  | .socket registryPort path =>
    (.nothing, session.name label (.naming (.socket registryPort path)))
  | .layout directory namePrefix nameSuffix registryPort =>
    match SocketLayout.make directory namePrefix nameSuffix registryPort with
    | .error err => (.failed err, session)
    | .ok layout =>
      (.path (layout.fileFor registryPort),
        session.name label (.naming (Naming.ofLayout layout registryPort)))

/-- Keep an assigner that was looked up. -/
def keepFound (session : Session) (label : Label) (found : Except MuxError Nat × Multiplexer) :
    Answer × Session :=
  match found with
  | (.error err, mux) => (.failed err, session.withMux mux)
  | (.ok number, mux) => (.done, (session.withMux mux).name label (.found number))

/-- Look up the assigner of a naming. -/
def lookUp (session : Session) (label naming : Label) : Answer × Session :=
  session.withThing (session.naming? naming) fun naming =>
    session.keepFound label (session.mux.lookUp naming)

/-- Look up the assigner of a factory. -/
def lookUpOf (session : Session) (label factory : Label) : Answer × Session :=
  session.withThing (session.factory? factory) fun (number, _) =>
    session.keepFound label (session.mux.assignerOf number)

/-- Tell whether two labels stand for one assigner. -/
def sameAssigner (session : Session) (left right : Label) : Answer × Session :=
  session.withThing (session.assigner? left) fun left =>
    session.withThing (session.assigner? right) fun right => (.flag (left == right), session)

end SocketMux.Session
