import SocketMux.Session.Ports

/-!
# Steps on factories

Making, sharing and copying factories, reading what they show, and shutting them down
through a coordinator. A factory answers with its text when it is made.
-/

namespace SocketMux.Session

/-- The directory in which the program runs. -/
def working : Path := [Path.separator]

/-- Make a transport. -/
def makeTransport (session : Session) (label : Label) (transport : Transport) :
    Answer × Session :=
  (.nothing, session.name label (.transport transport))

/-- Make a coordinator. -/
def makeCoordinator (session : Session) (label : Label) : Answer × Session :=
  let (number, mux) := session.mux.makeCoordinator
  (.nothing, (session.withMux mux).name label (.coordinator number))

/-- Count the factories that a coordinator can close. -/
def countLive (session : Session) (coordinator : Label) : Answer × Session :=
  session.withThing (session.coordinator? coordinator) fun number =>
    let (count, mux) := session.mux.countLive number
    (.count count, session.withMux mux)

/-- Close all factories of a coordinator. -/
def shutDownAll (session : Session) (coordinator : Label) : Answer × Session :=
  session.withThing (session.coordinator? coordinator) fun number =>
    let (report, mux) := session.mux.shutDownAll number
    (.report report, session.withMux mux)

/-- Add a factory. -/
def addFactory (session : Session) (label : Label) (profile : FactoryProfile) (naming : Naming)
    (transport : Transport) (coordinator : Option Nat) : Answer × Session :=
  let (number, mux) := session.mux.makeFactory profile naming transport coordinator
  (.text profile.display, (session.withMux mux).name label (.factory number))

/-- Make a factory. -/
def makeFactory (session : Session) (label : Label) (plan : FactoryPlan) : Answer × Session :=
  session.withThing (session.naming? plan.naming) fun naming =>
    session.withChosen session.transport? plan.transport fun transport =>
      session.withChosen session.coordinator? plan.coordinator fun coordinator =>
        let made := FactoryProfile.make naming.registryPort plan.directory plan.namePrefix
          plan.nameSuffix plan.clientHost plan.serverHost
        match made with
        | .error err => (.failed err, session)
        | .ok profile =>
          session.addFactory label profile naming (transport.getD .plain) coordinator

/-- Make a factory from a configuration. -/
def configureFactory (session : Session) (label : Label) (text : List Char) : Answer × Session :=
  match MuxConfig.ofText text >>= FactoryProfile.ofConfig with
  | .error err => (.failed err, session)
  | .ok (naming, profile) => session.addFactory label profile naming .plain none

/-- Give a factory one more label. -/
def shareFactory (session : Session) (label factory : Label) : Answer × Session :=
  session.withThing (session.factory? factory) fun (number, state) =>
    (.text state.profile.display, session.name label (.factory number))

/-- Make a factory from the record of another one. -/
def copyFactory (session : Session) (label factory naming : Label) : Answer × Session :=
  session.withThing (session.factory? factory) fun (_, state) =>
    session.withThing (session.naming? naming) fun naming =>
      let restored := do
        let bytes ← state.profile.encode working
        FactoryProfile.restore bytes (fun _ _ => .ok naming) Naming.registryPort
      match restored with
      | .error err => (.failed err, session)
      | .ok (naming, profile) => session.addFactory label profile naming .plain none

/-- Write the record of a factory and read it again. -/
def recordOf (session : Session) (factory : Label) : Answer × Session :=
  session.withThing (session.factory? factory) fun (_, state) =>
    match state.profile.encode working >>= FactoryRecord.decode with
    | .error err => (.failed err, session)
    | .ok record => (.record record, session)

/-- Tell whether two factories are equal. -/
def equalFactories (session : Session) (left right : Label) : Answer × Session :=
  session.withThing (session.factory? left) fun (_, left) =>
    session.withThing (session.factory? right) fun (_, right) =>
      (.flag (left.profile.sameDirectory right.profile), session)

/-- What a factory knows of a port. -/
def queryOf (session : Session) (state : Factory) (key : HostAndPort) : PortQuery :=
  let file := state.profile.fileFor key.port
  let hasFile := match session.mux.host.files.leadsToFile file with
    | .ok present => present
    | .error _ => false
  ⟨state.isLocalServer key.port, hasFile, file, state.credentials.get? key⟩

/-- Ask a factory what it knows of a port. -/
def query (session : Session) (factory : Label) (key : HostAndPort) : Answer × Session :=
  session.withThing (session.factory? factory) fun (_, state) =>
    (.query (session.queryOf state key), session)

end SocketMux.Session
