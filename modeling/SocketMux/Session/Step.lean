import SocketMux.Multiplexer.Serve

/-!
# Steps of a session

A session drives a multiplexer by steps that name what they make and what they use.
Each step has an answer, and each answer comes with what can be seen from outside.
-/

namespace SocketMux.Session

/-- The name of a thing in a session. -/
abbrev Label := String

/-- What an assigner is to be made of. -/
inductive AssignerPlan where
  /-- A pool that is named, or a new one. -/
  | pooled (pool : Option Label)
  | remote (path : Path)
  | scripted (ports : List Port) (refusal : Option MuxError)
deriving Repr

/-- What a naming is to be made of. -/
inductive NamingPlan where
  | direct (registryPort : Port) (assigner : Label)
  | socket (registryPort : Port) (path : Path)
  | layout (directory : Path) (namePrefix nameSuffix : String) (registryPort : Port)
deriving Repr

/-- What a factory is to be made of. -/
structure FactoryPlan where
  naming : Label
  directory : Path
  namePrefix : String
  nameSuffix : String
  clientHost : Option String
  serverHost : Option String
  transport : Option Label
  coordinator : Option Label
deriving Repr

/-- A change to files from outside. -/
inductive FileChange where
  | write (path : Path)
  | makeDirectories (path : Path)
  | remove (path : Path)
  | rename (path target : Path)
  | link (path target : Path)
deriving Repr

/-- An address that is bound or connected directly. -/
inductive DirectAddress where
  | path (path : Path)
  /-- An abstract name that is kept apart from those of other sessions. -/
  | privateName (name : List UInt8)
deriving Repr

/-- A step. Where a step makes something, its label comes first. -/
inductive Step where
  | makePool (label : Label)
  | allocate (pool : Label)
  | closePool (pool : Label)
  | makeAssigner (label : Label) (plan : AssignerPlan)
  | ask (assigner : Label) (request : Authority.Request)
  | makeNaming (label : Label) (plan : NamingPlan)
  | lookUp (label naming : Label)
  | lookUpOf (label factory : Label)
  | sameAssigner (left right : Label)
  | makeTransport (label : Label) (transport : Transport)
  | makeCoordinator (label : Label)
  | countLive (coordinator : Label)
  | shutDownAll (coordinator : Label)
  | makeFactory (label : Label) (plan : FactoryPlan)
  | configureFactory (label : Label) (text : List Char)
  | shareFactory (label factory : Label)
  | copyFactory (label factory naming : Label)
  | record (factory : Label)
  | equalFactories (left right : Label)
  | query (factory : Label) (key : HostAndPort)
  | makeServer (label factory : Label) (port : Port)
  /-- A client that may be turned into its bare stream. -/
  | makeClient (label factory : Label) (key : HostAndPort) (bare : Bool)
  | accept (label server : Label)
  | beginAccept (label server : Label)
  | finishAccept (label task : Label)
  | read (stream : Label) (limit : Nat)
  | beginRead (stream : Label) (limit : Nat)
  | finishRead (stream : Label)
  | write (stream : Label) (bytes : List UInt8)
  | writeParts (stream : Label) (parts : List (List UInt8))
  | endWriting (stream : Label)
  | isClosed (endpoint : Label)
  | close (thing : Label)
  /-- Let go of a thing, with or without background tasks at hand. -/
  | drop (thing : Label) (hasTasks : Bool)
  | startAuthority (label : Label) (path : Path) (pool : Label)
  | shutDownAuthority (authority : Label)
  | converse (path : Path) (bytes : List UInt8)
  | bindDirectly (label : Label) (address : DirectAddress) (reuse : Bool)
  | connectDirectly (label : Label) (address : DirectAddress)
  | connectCluster (label : Label) (uri : String)
  | changeFiles (change : FileChange)
deriving Repr

/-- What an accept on a server hands out. -/
inductive AcceptKind where
  /-- By a factory's server. -/
  | endpoint
  /-- By a socket that was bound directly. -/
  | direct
deriving DecidableEq, Repr

/-- What is known of a port at a factory. -/
structure PortQuery where
  isLocalServer : Bool
  hasFile : Bool
  file : Path
  credentials : Option PeerCredentials
deriving Repr

/-- The answer of a step. -/
inductive Answer where
  | nothing
  | done
  /-- A thing that the step names is not there. -/
  | absent
  | pending
  | failed (err : MuxError)
  | faulted (fault : Fault)
  | text (text : String)
  | path (path : Path)
  | port (port : Port)
  | listing (ports : List Port)
  | flag (value : Bool)
  | count (value : Nat)
  | report (report : ShutdownReport)
  | record (record : FactoryRecord)
  | query (query : PortQuery)
  | listener (port : Port) (file : Path) (isClosed : Bool)
  | networkServer (port : Nat)
  | client (key : HostAndPort) (file : Path) (credentials : PeerCredentials)
  | peer (credentials : PeerCredentials)
  | accepted (kind : AcceptKind)
  | data (bytes : List UInt8)
  | ended
  | written (count : Nat) (allParts : Bool)
  | authority (path : Path) (ports : Except MuxError (List Port))
  | replies (bytes : List UInt8)
deriving Repr

/-- What can be seen of a factory. -/
structure FactoryView where
  servers : List Port
  clients : Nat
deriving Repr

/-- The answer of a step with what can be seen after it. -/
structure Observation where
  answer : Answer
  files : List Path
  factories : List (Label × FactoryView)
  /-- The ports in use of each pool; a closed pool has none to show. -/
  pools : List (Label × Option (List Port))
  /-- The ports ever given back to each script. -/
  returned : List (Label × List Port)
deriving Repr

end SocketMux.Session
