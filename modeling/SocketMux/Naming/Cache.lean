import SocketMux.Keyed
import SocketMux.Naming

/-!
# Cached namings

A cache keeps one naming for each directory, compared by path components. It makes a
new one when a directory is asked for the first time or with another registry port;
the new one takes the place of the old.
-/

namespace SocketMux

/-- A naming together with the number under which the cache made it. -/
structure NamingInstance where
  serial : Nat
  naming : Naming
deriving DecidableEq, Repr

/-- The namings kept for directories. -/
structure NamingCache where
  entries : List (List Path.Component × NamingInstance)
  /-- The number of namings made so far. -/
  made : Nat
deriving DecidableEq, Repr

namespace NamingCache

/-- The cache that keeps nothing. -/
def empty : NamingCache := ⟨[], 0⟩

/-- The naming kept for a directory. -/
def cached? (cache : NamingCache) (directory : Path) : Option NamingInstance :=
  Keyed.get? cache.entries directory.components

/-- Keep a new naming for a directory, in the place of another one. -/
def keep (cache : NamingCache) (directory : Path) (naming : Naming) : NamingInstance × NamingCache :=
  let made : NamingInstance := ⟨cache.made, naming⟩
  (made, ⟨Keyed.insert cache.entries directory.components made, cache.made + 1⟩)

/-- The naming of a directory and registry port, kept or made. A failure leaves the
cache as it is. -/
def resolve (cache : NamingCache) (make : Path → Port → Except MuxError Naming)
    (directory : Path) (registryPort : Port) : Except MuxError NamingInstance × NamingCache :=
  let fresh :=
    match make directory registryPort with
    | .ok naming =>
      let (made, cache) := cache.keep directory naming
      (.ok made, cache)
    | .error err => (.error err, cache)
  match cache.cached? directory with
  | some kept => if kept.naming.registryPort = registryPort then (.ok kept, cache) else fresh
  | none => fresh

/-- The number of directories for which a naming is kept. -/
def size (cache : NamingCache) : Nat := cache.entries.length

/-- What is kept after keeping a naming. -/
theorem cached?_keep (cache : NamingCache) (directory other : Path) (naming : Naming) :
    (cache.keep directory naming).2.cached? other =
      if other.components = directory.components then some ⟨cache.made, naming⟩
      else cache.cached? other :=
  Keyed.get?_insert cache.entries directory.components other.components ⟨cache.made, naming⟩

/-- A cache as text. -/
def display (cache : NamingCache) : String :=
  s!"CachingNamingResolver \x7b cached_dirs: {cache.size}, .. \x7d"

end NamingCache

end SocketMux
