import Mathlib.Data.List.Dedup
import SocketMux.Naming.Cache
import SocketMux.Proofs.Outcome

/-!
# Namings that are asked for again

A cache is asked for the namings of directories in any order, and a run of requests keeps what
came of each (`NamingCache.Used`). What would be made for a request may differ from one time to
the next, and may fail. What a cache keeps and answers is read off the requests before: it keeps
for each directory what the last request that was met was answered with (`NamingCache.last?`),
and makes a new instance whenever another port is asked for, also for a port that the directory
had before (`Used.serves_requests`).

An instance is known by its number, so that two instances of one naming are told apart.
-/

namespace SocketMux

/-- A source makes namings that report the port they are made for. -/
theorem NamingSource.registryPort_of_make {source : NamingSource} {directory : Path}
    {registryPort : Port} {naming : Naming}
    (made : source.make directory registryPort = .ok naming) :
    naming.registryPort = registryPort := by
  cases source with
  | sockets namePrefix nameSuffix =>
    obtain ⟨layout, -, rfl⟩ := Outcome.map_eq_ok_iff.mp made
    rfl
  | direct assigner =>
    unfold make at made
    dsimp only at made
    split at made
    · cases made
    · cases made
      rfl

namespace NamingCache

/-- A request for the naming of a directory, and what can be made at the time. -/
structure Request where
  directory : Path
  registryPort : Port
  make : Path → Port → Except MuxError Naming

/-- What is made for a request if nothing kept will do. -/
def Request.made (request : Request) : Except MuxError Naming :=
  request.make request.directory request.registryPort

/-- Whether a naming that is made for a request reports the port that was asked for. -/
def Request.Reports (request : Request) : Prop :=
  ∀ naming, request.made = .ok naming → naming.registryPort = request.registryPort

/-- What a cache answers to a request, and what it keeps then. -/
def answer (cache : NamingCache) (request : Request) :
    Except MuxError NamingInstance × NamingCache :=
  cache.resolve request.make request.directory request.registryPort

/-- A request and what came of it. -/
structure Resolved where
  request : Request
  outcome : Except MuxError NamingInstance

/-- A cache after requests in turn, the latest first. -/
inductive Used : List Resolved → NamingCache → Prop where
  | fresh : Used [] empty
  | more {past : List Resolved} {cache : NamingCache} (earlier : Used past cache)
      (request : Request) :
      Used (⟨request, (cache.answer request).1⟩ :: past) (cache.answer request).2

/-- What the last request for a directory that was met was answered with. -/
def last? (past : List Resolved) (directory : Path) : Option NamingInstance :=
  past.findSome? fun resolved =>
    if resolved.request.directory.components = directory.components then
      resolved.outcome.toOption
    else none

/-- The directories of the requests that were met. -/
def directories (past : List Resolved) : List (List Path.Component) :=
  past.filterMap fun resolved =>
    resolved.outcome.toOption.map fun _ => resolved.request.directory.components

/-- Whether a request asks for the port that the last answer for the directory reports. -/
def AsksAgain (past : List Resolved) (request : Request) : Prop :=
  ∃ kept, last? past request.directory = some kept ∧
    kept.naming.registryPort = request.registryPort

variable {past : List Resolved} {cache : NamingCache} {request : Request}
  {made : NamingInstance} {err : MuxError}

section Reading

/-- Another answer for a directory takes the place of the one before. -/
theorem last?_cons_ok (directory : Path) : last? (⟨request, .ok made⟩ :: past) directory =
    if directory.components = request.directory.components then some made
    else last? past directory := by
  unfold last?
  rw [List.findSome?_cons]
  by_cases same : directory.components = request.directory.components
  · rw [if_pos same, if_pos same.symm]
    rfl
  · rw [if_neg same, if_neg fun other => same other.symm]

/-- A request that failed is passed over. -/
theorem last?_cons_error (directory : Path) :
    last? (⟨request, .error err⟩ :: past) directory = last? past directory := by
  unfold last?
  rw [List.findSome?_cons]
  split
  · next found => split at found <;> cases found
  · rfl

theorem directories_cons_ok : directories (⟨request, .ok made⟩ :: past) =
    request.directory.components :: directories past := rfl

theorem exists_of_last? {directory : Path} (found : last? past directory = some made) :
    ∃ resolved ∈ past, resolved.outcome = .ok made := by
  obtain ⟨resolved, member, answered⟩ := List.exists_of_findSome?_eq_some found
  split at answered
  · exact ⟨resolved, member, Outcome.toOption_eq_some_iff.mp answered⟩
  · cases answered

end Reading

section Steps

/-- The kept port is asked for: the kept instance is the answer, and nothing is made. -/
theorem resolve_of_kept {directory : Path} {kept : NamingInstance}
    (found : cache.cached? directory = some kept) (make : Path → Port → Except MuxError Naming) :
    cache.resolve make directory kept.naming.registryPort = (.ok kept, cache) := by
  unfold resolve
  dsimp only
  rw [found]
  exact if_pos rfl

/-- Nothing is kept for the directory, or with another port: what is made is the answer. -/
theorem answer_of_not_kept (missing : ∀ kept, cache.cached? request.directory = some kept →
      kept.naming.registryPort ≠ request.registryPort) :
    cache.answer request = match request.made with
      | .ok naming => (.ok ⟨cache.made, naming⟩, (cache.keep request.directory naming).2)
      | .error err => (.error err, cache) := by
  unfold answer resolve Request.made
  dsimp only
  split
  · next kept found =>
    rw [if_neg (missing kept found)]
    rfl
  · rfl

/-- A request is answered with what is kept, with what is made or with the error of that. -/
theorem answer_cases (cache : NamingCache) (request : Request) :
    (∃ kept, cache.cached? request.directory = some kept ∧
      kept.naming.registryPort = request.registryPort ∧
      cache.answer request = (.ok kept, cache)) ∨
    (∃ naming, request.made = .ok naming ∧ cache.answer request =
      (.ok ⟨cache.made, naming⟩, (cache.keep request.directory naming).2)) ∨
    (∃ err, request.made = .error err ∧ cache.answer request = (.error err, cache)) := by
  by_cases again : ∃ kept, cache.cached? request.directory = some kept ∧
      kept.naming.registryPort = request.registryPort
  · obtain ⟨kept, found, same⟩ := again
    have answered := resolve_of_kept found request.make
    rw [same] at answered
    exact .inl ⟨kept, found, same, answered⟩
  · have answered := cache.answer_of_not_kept fun kept found same => again ⟨kept, found, same⟩
    cases outcome : request.made with
    | ok naming =>
      rw [outcome] at answered
      exact .inr (.inl ⟨naming, rfl, answered⟩)
    | error err =>
      rw [outcome] at answered
      exact .inr (.inr ⟨err, rfl, answered⟩)

end Steps

namespace Used

/-- A cache keeps what the last request for a directory was answered with. -/
theorem cached?_eq (used : Used past cache) (directory : Path) :
    cache.cached? directory = last? past directory := by
  induction used with
  | fresh => rfl
  | @more past cache earlier request inductionHypothesis =>
    obtain ⟨kept, found, -, answered⟩ | ⟨naming, -, answered⟩ | ⟨err, -, answered⟩ :=
      cache.answer_cases request
    · rw [answered, last?_cons_ok]
      split
      · next same =>
        rw [← found]
        exact congrArg (Keyed.get? cache.entries) same
      · exact inductionHypothesis
    · rw [answered, last?_cons_ok, cached?_keep, inductionHypothesis]
    · rw [answered, last?_cons_error]
      exact inductionHypothesis

/-- Another port than the one of the last answer is asked for, or a directory for the first time:
what is made is the answer. -/
theorem answer_of_not_asksAgain (used : Used past cache) (other : ¬AsksAgain past request) :
    cache.answer request = match request.made with
      | .ok naming => (.ok ⟨cache.made, naming⟩, (cache.keep request.directory naming).2)
      | .error err => (.error err, cache) := by
  apply answer_of_not_kept
  intro kept found same
  rw [used.cached?_eq] at found
  exact other ⟨kept, found, same⟩

/-- The instances that were given out have numbers below the next one. -/
theorem serial_lt (used : Used past cache) {resolved : Resolved} (member : resolved ∈ past)
    (given : resolved.outcome = .ok made) : made.serial < cache.made := by
  induction used generalizing resolved made with
  | fresh => cases member
  | @more past cache earlier request inductionHypothesis =>
    obtain ⟨kept, found, -, answered⟩ | ⟨naming, -, answered⟩ | ⟨err, -, answered⟩ :=
      cache.answer_cases request
    all_goals
      rw [answered] at member ⊢
      rcases List.mem_cons.mp member with rfl | before
    · obtain rfl := Except.ok.inj given
      rw [earlier.cached?_eq] at found
      obtain ⟨resolved, member, given⟩ := exists_of_last? found
      exact inductionHypothesis member given
    · exact inductionHypothesis before given
    · obtain rfl := Except.ok.inj given
      exact Nat.lt_succ_self _
    · exact Nat.lt_succ_of_lt (inductionHypothesis before given)
    · cases given
    · exact inductionHypothesis before given

/-- Directories are kept once each, and they are those of the requests that were met. -/
theorem keys (used : Used past cache) : Keyed.Distinct cache.entries ∧
    ∀ components, components ∈ cache.entries.map Prod.fst ↔ components ∈ directories past := by
  induction used with
  | fresh => exact ⟨List.nodup_nil, fun _ => Iff.rfl⟩
  | @more past cache earlier request inductionHypothesis =>
    obtain ⟨distinct, same⟩ := inductionHypothesis
    obtain ⟨kept, found, -, answered⟩ | ⟨naming, -, answered⟩ | ⟨err, -, answered⟩ :=
      cache.answer_cases request
    · rw [answered]
      refine ⟨distinct, fun components => ?_⟩
      have listed : request.directory.components ∈ directories past :=
        (same _).mp (List.mem_map.mpr ⟨_, Keyed.mem_of_get? found, rfl⟩)
      rw [same, directories_cons_ok, List.mem_cons]
      refine (or_iff_right_of_imp ?_).symm
      rintro rfl
      exact listed
    · rw [answered]
      refine ⟨distinct.insert _ _, fun components => ?_⟩
      rw [directories_cons_ok, List.mem_cons, ← same]
      exact Keyed.mem_keys_insert
    · rw [answered]
      exact ⟨distinct, same⟩

/-- What was given out reports the port that was asked for. -/
theorem reports (used : Used past cache)
    (reporting : ∀ resolved ∈ past, resolved.request.Reports) {resolved : Resolved}
    (member : resolved ∈ past) (given : resolved.outcome = .ok made) :
    made.naming.registryPort = resolved.request.registryPort := by
  induction used generalizing resolved made with
  | fresh => cases member
  | @more past cache earlier request inductionHypothesis =>
    obtain ⟨own, others⟩ := List.forall_mem_cons.mp reporting
    rcases List.mem_cons.mp member with rfl | before
    · obtain ⟨kept, -, same, answered⟩ | ⟨naming, written, answered⟩ | ⟨err, -, answered⟩ :=
        cache.answer_cases request
      all_goals rw [answered] at given
      · obtain rfl := Except.ok.inj given
        exact same
      · obtain rfl := Except.ok.inj given
        exact own naming written
      · cases given
    · exact inductionHypothesis others before given

end Used

/-- What a cache keeps and answers after some requests, whatever they were. -/
structure Serves (past : List Resolved) (cache : NamingCache) : Prop where
  /-- What is kept for a directory, however it is spelled, is what the last request for it that
  was met was answered with. -/
  kept : ∀ directory, cache.cached? directory = last? past directory
  /-- Who asks for the port of that answer gets the same instance, whatever could be made. -/
  again : ∀ directory kept, last? past directory = some kept →
    ∀ make, cache.resolve make directory kept.naming.registryPort = (.ok kept, cache)
  /-- Who asks for another port, or for the first time, gets what is made, as an instance that
  nobody had before. -/
  renewed : ∀ request, ¬AsksAgain past request → ∀ naming, request.made = .ok naming →
    ∃ made, (cache.answer request).1 = .ok made ∧ made.naming = naming ∧
      ∀ resolved ∈ past, resolved.outcome ≠ .ok made
  /-- Or the error, if nothing can be made. -/
  failed : ∀ request, ¬AsksAgain past request → ∀ err, request.made = .error err →
    (cache.answer request).1 = .error err
  /-- A request that fails changes nothing. -/
  unchanged : ∀ request err, (cache.answer request).1 = .error err →
    (cache.answer request).2 = cache
  reports : ∀ resolved ∈ past, ∀ made, resolved.outcome = .ok made →
    made.naming.registryPort = resolved.request.registryPort
  /-- The directories that are kept are as many as were ever resolved. -/
  size : cache.size = (directories past).dedup.length

/-- In the course of any requests, for whose ports namings are made, a cache keeps for each
directory the last answer, gives it out again as long as the same port is asked for, and a new
one for another port. -/
theorem Used.serves_requests (used : Used past cache)
    (reporting : ∀ resolved ∈ past, resolved.request.Reports) : Serves past cache where
  kept := used.cached?_eq
  again directory kept found make := resolve_of_kept ((used.cached?_eq directory).trans found) make
  renewed request other naming written := by
    have answered := used.answer_of_not_asksAgain other
    rw [written] at answered
    refine ⟨⟨cache.made, naming⟩, congrArg Prod.fst answered, rfl, ?_⟩
    intro resolved member given
    exact absurd (used.serial_lt member given) (Nat.lt_irrefl _)
  failed request other err failing := by
    have answered := used.answer_of_not_asksAgain other
    rw [failing] at answered
    exact congrArg Prod.fst answered
  unchanged request err fails := by
    obtain ⟨kept, -, -, answered⟩ | ⟨naming, -, answered⟩ | ⟨err, -, answered⟩ :=
      cache.answer_cases request
    · rw [answered]
    · rw [answered] at fails
      cases fails
    · rw [answered]
  reports _ member _ given := used.reports reporting member given
  size := by
    obtain ⟨distinct, same⟩ := used.keys
    have permuted : (cache.entries.map Prod.fst).Perm (directories past).dedup :=
      (List.perm_ext_iff_of_nodup distinct (List.nodup_dedup _)).mpr fun components =>
        (same components).trans List.mem_dedup.symm
    exact (List.length_map Prod.fst).symm.trans permuted.length_eq

/-- One directory in three spellings, asked for with one port, another one, a port that is
refused and the first port again, for which a third instance is made. -/
theorem Used.serves_requests_renewed :
    let asks : List (String × Port × NamingSource) := [("/a/./b/", 1099, .sockets "" ".rmi"),
      ("/a/b", -3, .direct 0), ("/a/b", 2000, .sockets "" ".rmi"),
      ("/a//b", 1099, .sockets "" ".rmi"), ("/a/b", 1099, .sockets "" ".rmi")]
    ∃ past cache, Used past cache ∧ past.map Resolved.request =
        (asks.map fun (text, port, source) => ⟨Path.ofText text, port, source.make⟩) ∧
      (∀ resolved ∈ past, resolved.request.Reports) ∧ Serves past cache ∧
      (past.map fun resolved => resolved.outcome.toOption.map NamingInstance.serial) =
        [some 2, none, some 1, some 0, some 0] ∧
      (cache.cached? (Path.ofText "/a/b")).map NamingInstance.serial = some 2 ∧
      cache.size = 1 := by
  intro asks
  let request : String × Port × NamingSource → Request := fun (text, port, source) =>
    ⟨Path.ofText text, port, source.make⟩
  have used := ((((Used.fresh.more (request ("/a/b", 1099, .sockets "" ".rmi"))).more
    (request ("/a//b", 1099, .sockets "" ".rmi"))).more
    (request ("/a/b", 2000, .sockets "" ".rmi"))).more (request ("/a/b", -3, .direct 0))).more
    (request ("/a/./b/", 1099, .sockets "" ".rmi"))
  have reporting : ∀ asked ∈ asks.map request, asked.Reports :=
    List.forall_mem_map.mpr fun _ _ _ made => NamingSource.registryPort_of_make made
  have serves := used.serves_requests (List.forall_mem_map.mp reporting)
  refine ⟨_, _, used, rfl, List.forall_mem_map.mp reporting, serves, rfl, ?_, ?_⟩
  · rw [serves.kept]
    rfl
  · rw [serves.size]
    rfl

end NamingCache

end SocketMux
