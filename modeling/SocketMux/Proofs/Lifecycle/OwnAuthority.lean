import SocketMux.Proofs.Lifecycle.SharedDirectory
import SocketMux.Proofs.Lifecycle.Supply

/-!
# Factories and the authority of their directory

A configuration finds its authority at the file of the registry port, and the factories of the
configuration put the files of anonymous ports beside it. A file of theirs takes the place of the
authority's only if their port is the registry port. Pools hand out no port below the anonymous
ones, so an authority with a lower registry port outlasts all anonymous servers of its factories,
and one with another registry port does as long as this port itself is not handed out
(`AuthorityCourse.authority_outlasts_servers`). Nothing but a link with the name of a port that was
handed out can get lost on the way to the authority.
-/

namespace SocketMux

open SocketMux.Authority

namespace MuxConfig

variable {config : MuxConfig} {layout : SocketLayout}

theorem validate_eq_ok : config.validate = .ok () ↔ ∃ layout, config.layout = .ok layout := by
  unfold validate
  cases config.layout with
  | error err => exact ⟨nofun, nofun⟩
  | ok layout => exact ⟨fun _ => ⟨layout, rfl⟩, fun _ => rfl⟩

/-- A configuration with a layout makes a naming and a profile of it. -/
theorem ofConfig_of_layout (made : config.layout = .ok layout) : FactoryProfile.ofConfig config =
    .ok (Naming.ofLayout layout config.registryPort,
      ⟨layout, config.registryPort, config.conventionalHost, config.conventionalHost⟩) := by
  have profiled : FactoryProfile.make config.registryPort config.directory config.namePrefix
      config.nameSuffix config.conventionalHost config.conventionalHost =
        .ok ⟨layout, config.registryPort, config.conventionalHost, config.conventionalHost⟩ :=
    congrArg (Except.map _) made
  rw [FactoryProfile.ofConfig, made, ok_bind, profiled]
  rfl

/-- Every directory has a layout with the default names. -/
theorem layout_of_directory {directory : Path} (nonempty : directory ≠ []) (registryPort : Port) :
    (⟨directory, "", ".rmi", registryPort, none⟩ : MuxConfig).layout =
      .ok ⟨directory, "", ".rmi", registryPort == Port.plainFile⟩ := by
  have beginning : SocketLayout.isNamePart "" = true := rfl
  have ending : SocketLayout.isNamePart ".rmi" = true := rfl
  simp only [layout, SocketLayout.make, nonempty, beginning, ending, Bool.true_eq_false, if_false]

end MuxConfig

/-- No link of a tree has the name of the file of a port. -/
def SocketLayout.NamesNoLink (layout : SocketLayout) (tree : FileTree) (port : Port) : Prop :=
  ∀ place node target, tree.get? place = some node → node.kind = .link target →
    place.getLast? ≠ some (layout.fileName port)

theorem SocketLayout.NamesNoLink.of_entries {layout : SocketLayout} {tree : FileTree} {port : Port}
    (unnamed : ∀ entry ∈ tree.entries, ∀ target, entry.2.kind = .link target →
      entry.1.getLast? ≠ some (layout.fileName port)) : layout.NamesNoLink tree port := by
  intro place node target present isLink
  obtain rfl | listed := FileTree.eq_root_or_mem present
  · cases isLink
  · exact unnamed _ listed target isLink

namespace Action

/-- Whether an action asks for no servers but on anonymous ports and leaves authorities and
assigners alone. -/
def asksOnly : Action → Bool
  | .createServer _ port => port == Port.anonymous
  | .startAuthority .. | .shutDownAuthority .. | .dropAuthority .. | .changeAssigner .. => false
  | _ => true

end Action

/-- At such a moment nobody makes servers but factories of one naming and profile, and these only
on anonymous ports. Authorities and assigners are left alone. -/
structure Moment.AsksFor (naming : Naming) (profile : FactoryProfile) (moment : Moment) : Prop
    extends moment.IsOrderly where
  asks : moment.action.asksOnly = true
  asker : ∀ {number port factory}, moment.action = .createServer number port →
    moment.state.factories.get? number = some factory →
      factory.naming = naming ∧ factory.profile = profile

/-- Whether at a moment all factories have one naming and profile, servers are asked for on
anonymous ports only and nobody else does anything on the host. -/
def Moment.asksFor (naming : Naming) (profile : FactoryProfile) (moment : Moment) : Bool :=
  moment.staysInside && moment.action.asksOnly &&
    moment.state.factories.rows.all fun factory =>
      decide (factory.naming = naming) && decide (factory.profile = profile)

theorem Moment.AsksFor.of_asksFor {naming : Naming} {profile : FactoryProfile} {moment : Moment}
    (asks : moment.asksFor naming profile = true) : moment.AsksFor naming profile := by
  obtain ⟨both, rows⟩ := Bool.and_eq_true_iff.mp asks
  obtain ⟨stays, only⟩ := Bool.and_eq_true_iff.mp both
  refine ⟨.of_staysInside stays, only, fun _ found => ?_⟩
  simpa using List.all_eq_true.mp rows _ (List.mem_of_getElem? found)

namespace Moment.AsksFor

variable {naming : Naming} {profile : FactoryProfile} {mux : Multiplexer} {action : Action}

theorem keepsAssigners (asks : AsksFor naming profile ⟨mux, action⟩) :
    action.keepsAssigners = true := by
  have asking := asks.asks
  cases action with
  | changeAssigner => cases asking
  | _ => rfl

/-- A creation at such a moment is for a port that pools hand out, and what it clears is the
entry of this port. -/
theorem creation (asks : AsksFor naming profile ⟨mux, action⟩) (provides : mux.Provides)
    {registryPort : Port} {path : Path} (remote : naming = .socket registryPort path)
    (only : mux.OnlyAuthoritiesAt path) {creation : Creation}
    (made : creation? ⟨mux, action⟩ = some creation) :
    Port.anonymousBase ≤ creation.port ∧ ∀ place, creation.place = some place →
      mux.host.files.locateEntry (profile.fileFor creation.port) = .ok place := by
  cases action with
  | createServer number port =>
    have asking := asks.asks
    obtain rfl : port = Port.anonymous := by simpa [Action.asksOnly] using asking
    cases found : mux.factories.get? number with
    | none =>
      simp only [Moment.creation?, found] at made
      cases made
    | some factory =>
      obtain ⟨named, profiled⟩ := asks.asker rfl found
      refine ⟨provides.base_le_creation found (named.trans remote) only made, fun place here => ?_⟩
      simp only [Moment.creation?, found, Option.bind_some] at made
      obtain ⟨⟨issuer, bound⟩, -, rfl⟩ := Option.map_eq_some_iff.mp made
      rw [← profiled]
      exact Factory.locateEntry_of_clearedPlace? here
  | _ => cases made

/-- The entry of the registry port's file is left alone unless this port is handed out. -/
theorem leaves (asks : AsksFor naming profile ⟨mux, action⟩) (provides : mux.Provides)
    (divided : profile.layout.IsDivided) {registryPort : Port} {path : Path}
    (remote : naming = .socket registryPort path) (only : mux.OnlyAuthoritiesAt path)
    {tree : FileTree} {place : Place}
    (led : tree.locateEntry (profile.fileFor registryPort) = .ok place)
    (apart : ∀ creation, creation? ⟨mux, action⟩ = some creation →
      Port.anonymousBase ≤ creation.port → creation.port ≠ registryPort) (number : Nat) :
    Leaves ⟨mux, action⟩ place number where
  toIsOrderly := asks.toIsOrderly
  goesOn := by
    have asking := asks.asks
    cases action with
    | shutDownAuthority | dropAuthority => cases asking
    | _ => rfl
  unbound made there here := by
    obtain ⟨least, cleared⟩ := asks.creation provides remote only there
    exact apart made there least (divided.port_unique (cleared place here) led)
  unremoved path removed := by
    have asking := asks.asks
    cases action with
    | startAuthority | shutDownAuthority => cases asking
    | _ => cases removed

/-- No link is cleared unless a port with its name is handed out. -/
theorem keepsLinks (asks : AsksFor naming profile ⟨mux, action⟩) {start : Host}
    (settled : mux.Settled start) (knows : mux.KnowsFiles start) (provides : mux.Provides)
    (divided : profile.layout.IsDivided) {registryPort : Port} {path : Path}
    (remote : naming = .socket registryPort path) (only : mux.OnlyAuthoritiesAt path)
    {tree : FileTree}
    (apart : ∀ creation, creation? ⟨mux, action⟩ = some creation →
      Port.anonymousBase ≤ creation.port → profile.layout.NamesNoLink tree creation.port)
    (links : tree.KeepsLinks mux.host.files) :
    tree.KeepsLinks (mux.perform action).host.files := by
  by_cases traffic : action.isTraffic = true
  · exact ((Multiplexer.keepsLinks_keptByTraffic start tree).perform traffic
      ⟨⟨settled, knows⟩, links⟩).2
  have asking := asks.asks
  cases action with
  | createServer number port =>
    cases found : mux.factories.get? number with
    | none =>
      simp only [Multiplexer.perform, Multiplexer.createServer, found]
      exact links
    | some factory =>
      refine (Multiplexer.createServer_creates port found).keepsLinks (asks.inPlace found)
        (fun made there place node target here present isLink => ?_) links
      obtain ⟨least, cleared⟩ := asks.creation provides remote only there
      exact apart made there least place node target present isLink
        (divided.last_of_locateEntry (cleared place here))
  | startAuthority | shutDownAuthority | dropAuthority => cases asking
  | outside host =>
    simp only [Multiplexer.perform]
    rw [(asks.outside rfl).files]
    exact links
  | _ => exact absurd rfl traffic

end Moment.AsksFor

namespace Multiplexer

/-- Factories ask for ports and put their files elsewhere, and the authority abides. -/
theorem Abides.perform {start : Host} {mux : Multiplexer} {place : Place} {standing : Nat}
    {authority : AuthorityServer} {file : Nat}
    (abides : Abides start mux place standing authority file) (numbered : start.files.Numbered)
    {action : Action} {naming : Naming} {profile : FactoryProfile}
    (asks : Moment.AsksFor naming profile ⟨mux, action⟩)
    (leaves : Moment.Leaves ⟨mux, action⟩ place standing) :
    Abides start (mux.perform action) place standing authority file where
  settled := abides.settled.perform asks.toIsOrderly
  knows := abides.knows.perform abides.settled numbered asks.toIsOrderly
  provides := abides.provides.perform asks.keepsAssigners
  serves := abides.serves.perform abides.settled leaves

/-- Along a path that led to an authority nobody reaches anybody else, even if the path leads
astray by now. -/
theorem Abides.onlyAuthoritiesAt {start recent : Host} {mux : Multiplexer} {path : Path}
    {place : Place} {standing file : Nat} {authority : AuthorityServer}
    (abides : mux.Abides start place standing authority file) (evolves : recent.Evolves mux.host)
    (led : recent.files.locateEntry path = .ok place)
    (noSlash : FileTree.endsWithSlash path = false) (fits : Host.checkPath path = .ok ()) :
    mux.OnlyAuthoritiesAt path := by
  intro socket reached
  have isPath := Host.abstractName?_of_locateEntry led
  obtain ⟨other, located⟩ := Host.exists_entry_of_reach reached isPath noSlash
  have same : other = place :=
    Except.ok.inj ((evolves.erodes.locateEntry located).symm.trans led)
  obtain ⟨own, found, behind⟩ :=
    abides.serves.answers abides.settled (same ▸ located) noSlash fits
  cases found.symm.trans reached
  exact Option.isSome_of_eq_some behind

/-- What outlasts all requests: an authority that goes on at its entry, and that supplies the
factories of a naming as long as its path leads there. -/
structure Outlasts (mux : Multiplexer) (naming : Naming) (path : Path) (place : Place)
    (number pool : Nat) (start : FileTree) : Prop
    extends mux.GoesOn place number path pool start where
  leads : start.KeepsLinks mux.host.files → mux.host.files.locateEntry path = .ok place
  supplies : mux.host.files.locateEntry path = .ok place → mux.SuppliedFrom naming place pool

/-- An authority that abides outlasts what was asked of it since a host whose path led there. -/
theorem Abides.outlasts {start recent : Host} {mux : Multiplexer} {path : Path} {place : Place}
    {number pool socket file : Nat}
    (abides : mux.Abides start place number ⟨path, pool, socket, false⟩ file)
    (evolves : recent.Evolves mux.host) (led : recent.files.locateEntry path = .ok place)
    (noSlash : FileTree.endsWithSlash path = false) (fits : Host.checkPath path = .ok ())
    (registryPort : Port) :
    mux.Outlasts (.socket registryPort path) path place number pool recent.files := by
  have answers (way : Path) (there : mux.host.files.locateEntry way = .ok place) :=
    abides.serves.answers abides.settled there
  have leads (links : recent.files.KeepsLinks mux.host.files) :=
    (evolves.erodes.locateEntry_iff links).mpr led
  refine ⟨⟨⟨_, file, abides.serves, rfl, rfl, rfl⟩, answers, ?_⟩, leads, fun located => ?_⟩
  · exact fun links => answers path (leads links) noSlash fits
  · exact StandsAt.suppliedFrom ⟨abides, located, noSlash, fits⟩ registryPort

end Multiplexer

/-- The anonymous ports that calls for servers came by. -/
def History.anonymousPorts (history : History) : List Port :=
  (history.creations.map Creation.port).filter (Port.anonymousBase ≤ ·)

theorem History.mem_anonymousPorts_cons {moment : Moment} {history : History} {port : Port} :
    port ∈ anonymousPorts (moment :: history) ↔
      (∃ creation, moment.creation? = some creation ∧ Port.anonymousBase ≤ creation.port ∧
        creation.port = port) ∨ port ∈ history.anonymousPorts := by
  simp only [anonymousPorts, creations_cons, List.map_append, List.filter_append, List.mem_append,
    List.mem_filter, List.mem_map, Option.mem_toList, decide_eq_true_eq]
  refine or_congr_left ⟨?_, ?_⟩
  · rintro ⟨⟨creation, made, rfl⟩, least⟩
    exact ⟨creation, made, least, rfl⟩
  · rintro ⟨creation, made, least, rfl⟩
    exact ⟨⟨creation, made, rfl⟩, least⟩

/-- An authority abides while factories ask for ports other than its own, and no link is cleared
but one with the name of a port that they came by. -/
theorem Run.abides {start : Host} {mux after : Multiplexer} {later : History} {path : Path}
    {profile : FactoryProfile} {registryPort : Port} {place : Place} {standing file : Nat}
    {authority : AuthorityServer} (run : Run mux later after)
    (asks : ∀ moment ∈ later, moment.AsksFor (.socket registryPort path) profile)
    (apart : registryPort ∉ later.anonymousPorts)
    (numbered : start.files.Numbered) (divided : profile.layout.IsDivided)
    (led : mux.host.files.locateEntry (profile.fileFor registryPort) = .ok place)
    (located : mux.host.files.locateEntry path = .ok place)
    (noSlash : FileTree.endsWithSlash path = false) (fits : Host.checkPath path = .ok ())
    (begins : mux.Abides start place standing authority file) :
    after.Abides start place standing authority file ∧ after.Settled mux.host ∧
      ((∀ port ∈ later.anonymousPorts, profile.layout.NamesNoLink mux.host.files port) →
        mux.host.files.KeepsLinks after.host.files) := by
  refine run.induction
    (motive := fun history now => registryPort ∉ history.anonymousPorts →
      now.Abides start place standing authority file ∧ now.Settled mux.host ∧
        ((∀ port ∈ history.anonymousPorts, profile.layout.NamesNoLink mux.host.files port) →
          mux.host.files.KeepsLinks now.host.files))
    asks (fun _ => ⟨begins, begins.settled.fromNow, fun _ _ _ _ present _ => present⟩) ?_ apart
  intro history now action asks kept apart
  simp only [History.mem_anonymousPorts_cons, not_or, not_exists, not_and] at apart
  obtain ⟨abides, settled, links⟩ := kept apart.2
  have only := abides.onlyAuthoritiesAt settled.evolves located noSlash fits
  refine ⟨abides.perform numbered asks ?_, settled.perform asks.toIsOrderly, fun unnamed => ?_⟩
  · exact asks.leaves abides.provides divided rfl only led apart.1 standing
  · refine asks.keepsLinks abides.settled abides.knows abides.provides divided rfl only
      (fun made there least => unnamed _ ?_) (links fun port member => unnamed port ?_)
    · exact History.mem_anonymousPorts_cons.mpr (.inl ⟨made, there, least, rfl⟩)
    · exact History.mem_anonymousPorts_cons.mpr (.inr member)

/-- A run in which an authority is started at a path, and after which nobody makes servers but the
factories of one profile whose authority is at this path. -/
structure AuthorityCourse (registryPort : Port) (path : Path) (profile : FactoryProfile) where
  host : Host
  own : PeerCredentials
  earlier : History
  /-- The state in which the authority is started. -/
  mux : Multiplexer
  pool : Nat
  number : Nat
  later : History
  /-- The state at the end. -/
  after : Multiplexer
  begins : Run (.initial host own) earlier mux
  sound : host.Sound
  numbered : host.files.Numbered
  orderly : ∀ moment ∈ earlier, moment.IsOrderly
  keepsAssigners : ∀ moment ∈ earlier, moment.action.keepsAssigners = true
  started : (mux.startAuthority path pool).1 = .ok number
  continues : Run (mux.startAuthority path pool).2 later after
  asks : ∀ moment ∈ later, moment.AsksFor (.socket registryPort path) profile

namespace AuthorityCourse

section

variable {registryPort : Port} {path : Path} {profile : FactoryProfile}

/-- The files once the authority was started. -/
def tree (course : AuthorityCourse registryPort path profile) : FileTree :=
  (course.mux.startAuthority path course.pool).2.host.files

/-- The course of actions before and after an authority is started. -/
def ofActions (host : Host) (sound : host.Sound) (numbered : host.files.Numbered)
    (first second : List Action) (pool number : Nat)
    (stays : ((Multiplexer.initial host ⟨none, 0, 0⟩).momentsOf first []).all (fun moment =>
      moment.staysInside && moment.action.keepsAssigners) = true)
    (started : (((Multiplexer.initial host ⟨none, 0, 0⟩).after first).startAuthority path
      pool).1.toOption = some number)
    (asks : ((((Multiplexer.initial host ⟨none, 0, 0⟩).after first).startAuthority path
      pool).2.momentsOf second []).all
        (Moment.asksFor (.socket registryPort path) profile) = true) :
    AuthorityCourse registryPort path profile where
  host
  own := ⟨none, 0, 0⟩
  earlier := _
  mux := _
  pool
  number
  later := _
  after := _
  begins := .ofActions _ first
  continues := .ofActions _ second
  sound
  numbered
  orderly moment member :=
    .of_staysInside (Bool.and_eq_true_iff.mp (List.all_eq_true.mp stays moment member)).1
  keepsAssigners moment member :=
    (Bool.and_eq_true_iff.mp (List.all_eq_true.mp stays moment member)).2
  started := by
    generalize (Multiplexer.startAuthority _ path pool).1 = answer at started ⊢
    cases answer with
    | error => cases started
    | ok number => cases started; rfl
  asks moment member := .of_asksFor (List.all_eq_true.mp asks moment member)

end

/-- An accepted configuration that has no authority in a plain file has it in the file of its
registry port. The entry of an authority that is started there stays its own while the factories
of the configuration make anonymous servers, unless they come by the registry port itself, and
all their ports come from its pool and go back to it while the path leads to the entry. The path
does so unless one of the ports has the name of a link. -/
theorem authority_outlasts_servers {config : MuxConfig} (accepted : config.validate = .ok ())
    (normal : config.registryPort ≠ Port.plainFile) :
    ∃ path profile,
      FactoryProfile.ofConfig config = .ok (.socket config.registryPort path, profile) ∧
        ∀ course : AuthorityCourse config.registryPort path profile,
          config.registryPort ∉ course.later.anonymousPorts →
            ∃ place, course.tree.locateEntry path = .ok place ∧
              course.after.Outlasts (.socket config.registryPort path) path place course.number
                course.pool course.tree ∧
              ((∀ port ∈ course.later.anonymousPorts,
                profile.layout.NamesNoLink course.tree port) →
                  course.tree.KeepsLinks course.after.host.files) := by
  obtain ⟨layout, made⟩ := MuxConfig.validate_eq_ok.mp accepted
  have divided := SocketLayout.isDivided_of_make made normal
  have nonempty := divided.fileFor_ne_nil config.registryPort
  refine ⟨_, _, MuxConfig.ofConfig_of_layout made, fun course apart => ?_⟩
  obtain ⟨settled, knows⟩ := course.begins.knowsFiles course.sound course.numbered course.orderly
  have provides := course.begins.provides (.initial _ _) course.keepsAssigners
  obtain ⟨place, located, led⟩ := Multiplexer.startAuthority_located nonempty course.started
  obtain ⟨-, noSlash, fits⟩ :=
    Multiplexer.startAuthority_ok (Prod.ext course.started rfl) located
  have begins := Multiplexer.Abides.started settled knows provides course.started located
  obtain ⟨abides, recent, links⟩ :=
    course.continues.abides course.asks apart course.numbered divided led led noSlash fits begins
  exact ⟨place, led, abides.outlasts recent.evolves led noSlash fits _, links⟩

/-- The authority of the directory at the root outlasts two servers, of which one is closed. -/
theorem authority_outlasts_two :
    let path := Text.Utf8.bytesOf "/1099.rmi"
    let profile : FactoryProfile := ⟨⟨[Path.separator], "", ".rmi", false⟩, 1099, none, none⟩
    (MuxConfig.ofDirectory [Path.separator]).validate = .ok () ∧
      ∃ course : AuthorityCourse Port.defaultRegistry path profile,
        course.later.anonymousPorts = [110001, 110000] ∧ course.after.listenedPorts = [110001] ∧
          ∃ place, course.tree.locateEntry path = .ok place ∧
            course.after.Outlasts (.socket Port.defaultRegistry path) path place course.number
              course.pool course.tree ∧ course.tree.KeepsLinks course.after.host.files := by
  intro path profile
  obtain ⟨course, ports, listened, plain⟩ :
      ∃ course : AuthorityCourse Port.defaultRegistry path profile,
        course.later.anonymousPorts = [110001, 110000] ∧ course.after.listenedPorts = [110001] ∧
          course.tree.entries.all (fun entry => entry.2.kind = .socket) = true :=
    ⟨ofActions .bare .bare .bare [.makePool] [.makeFactory profile (.socket 1099 path) .plain none,
      .createServer 0 Port.anonymous, .createServer 0 Port.anonymous, .closeListener 0] 0 0
      (by decide +kernel) (by decide +kernel) (by decide +kernel), by decide +kernel,
      by decide +kernel, by decide +kernel⟩
  have accepted : (MuxConfig.ofDirectory [Path.separator]).validate = .ok () := rfl
  obtain ⟨way, makers, both, outlasts⟩ := authority_outlasts_servers accepted (by decide)
  have given : FactoryProfile.ofConfig (MuxConfig.ofDirectory [Path.separator]) =
    .ok (.socket Port.defaultRegistry path, profile) := rfl
  obtain ⟨same, rfl⟩ := Prod.mk.inj (Except.ok.inj (given.symm.trans both))
  obtain ⟨-, rfl⟩ := Naming.socket.inj same
  obtain ⟨place, led, stands, links⟩ := outlasts course (by rw [ports]; decide)
  refine ⟨accepted, course, ports, listened, place, led, stands, links fun port _ =>
    .of_entries fun entry member target isLink => ?_⟩
  have socket := of_decide_eq_true (List.all_eq_true.mp plain entry member)
  cases socket.symm.trans isLink

/-- A server in plain-file mode takes the file of the authority, as does a server that comes by the
registry port, and a server that takes a link on the way leaves no way to the authority. -/
theorem not_authority_outlasts_always :
    (¬∀ {config : MuxConfig} {path : Path} {profile : FactoryProfile},
      config.validate = .ok () →
      FactoryProfile.ofConfig config = .ok (.socket config.registryPort path, profile) →
      ∀ course : AuthorityCourse config.registryPort path profile,
        config.registryPort ∉ course.later.anonymousPorts → ∀ place,
          course.tree.locateEntry path = .ok place →
            course.after.host.files.get? place = course.tree.get? place) ∧
    (¬∀ {config : MuxConfig} {path : Path} {profile : FactoryProfile},
      config.validate = .ok () → config.registryPort ≠ Port.plainFile →
      FactoryProfile.ofConfig config = .ok (.socket config.registryPort path, profile) →
      ∀ course : AuthorityCourse config.registryPort path profile, ∀ place,
        course.tree.locateEntry path = .ok place →
          course.after.host.files.get? place = course.tree.get? place) ∧
    ¬∀ {config : MuxConfig} {path : Path} {profile : FactoryProfile},
      config.validate = .ok () → config.registryPort ≠ Port.plainFile →
      FactoryProfile.ofConfig config = .ok (.socket config.registryPort path, profile) →
      ∀ course : AuthorityCourse config.registryPort path profile,
        config.registryPort ∉ course.later.anonymousPorts →
          course.after.AnswersFrom path course.pool := by
  refine ⟨fun always => ?_, fun always => ?_, fun always => ?_⟩
  · let directory := Text.Utf8.bytesOf "/app.sock"
    let layout : SocketLayout := ⟨directory, "", ".rmi", true⟩
    let profile : FactoryProfile := ⟨layout, Port.plainFile, none, none⟩
    let place : Place := [Text.Utf8.bytesOf "app.sock"]
    obtain ⟨course, ports, located, replaced⟩ :
        ∃ course : AuthorityCourse Port.plainFile (layout.fileFor Port.plainFile) profile,
          course.later.anonymousPorts = [110000] ∧
            course.tree.locateEntry (layout.fileFor Port.plainFile) = .ok place ∧
              course.after.host.files.get? place ≠ course.tree.get? place :=
      ⟨ofActions .bare .bare .bare [.makePool] [.makeFactory profile
        (Naming.ofLayout layout Port.plainFile) .plain none, .createServer 0 Port.anonymous] 0 0
        (by decide +kernel) (by decide +kernel) (by decide +kernel), by decide +kernel,
        by decide +kernel, by decide +kernel⟩
    have made := MuxConfig.layout_of_directory (by decide +kernel : directory ≠ []) Port.plainFile
    have unequal : Port.plainFile ∉ course.later.anonymousPorts := by
      rw [ports]
      decide
    exact replaced (always (MuxConfig.validate_eq_ok.mpr ⟨_, made⟩)
      (MuxConfig.ofConfig_of_layout made) course unequal place located)
  · let layout : SocketLayout := ⟨[Path.separator], "", ".rmi", false⟩
    let profile : FactoryProfile := ⟨layout, 110000, none, none⟩
    let place : Place := [Text.Utf8.bytesOf "110000.rmi"]
    obtain ⟨course, located, replaced⟩ :
        ∃ course : AuthorityCourse 110000 (layout.fileFor 110000) profile,
          course.tree.locateEntry (layout.fileFor 110000) = .ok place ∧
            course.after.host.files.get? place ≠ course.tree.get? place :=
      ⟨ofActions .bare .bare .bare [.makePool] [.makeFactory profile
        (Naming.ofLayout layout 110000) .plain none, .createServer 0 Port.anonymous] 0 0
        (by decide +kernel) (by decide +kernel) (by decide +kernel), by decide +kernel,
        by decide +kernel⟩
    have made := MuxConfig.layout_of_directory (List.cons_ne_nil Path.separator []) 110000
    exact replaced (always (MuxConfig.validate_eq_ok.mpr ⟨_, made⟩) (by decide)
      (MuxConfig.ofConfig_of_layout made) course place located)
  · let directory := Text.Utf8.bytesOf "/110001.rmi"
    let layout : SocketLayout := ⟨directory, "", ".rmi", false⟩
    let profile : FactoryProfile := ⟨layout, Port.defaultRegistry, none, none⟩
    obtain ⟨course, ports, astray⟩ : ∃ course : AuthorityCourse Port.defaultRegistry
        (layout.fileFor Port.defaultRegistry) profile,
          course.later.anonymousPorts = [110001, 110000] ∧
            (course.after.host.reach (layout.fileFor Port.defaultRegistry)).toOption = none :=
      ⟨ofActions .looped (.of_noSockets rfl) (.of_entries (by decide) (by decide +kernel))
        [.makePool] [.makeFactory profile (Naming.ofLayout layout Port.defaultRegistry) .plain none,
        .createServer 0 Port.anonymous, .createServer 0 Port.anonymous] 0 0 (by decide +kernel)
        (by decide +kernel) (by decide +kernel), by decide +kernel, by decide +kernel⟩
    have made := MuxConfig.layout_of_directory (by decide +kernel : directory ≠ [])
      Port.defaultRegistry
    have unequal : Port.defaultRegistry ∉ course.later.anonymousPorts := by
      rw [ports]
      decide
    obtain ⟨socket, reached, -⟩ := always (MuxConfig.validate_eq_ok.mpr ⟨_, made⟩) (by decide)
      (MuxConfig.ofConfig_of_layout made) course unequal
    cases (congrArg Except.toOption reached).symm.trans astray

end AuthorityCourse

end SocketMux
