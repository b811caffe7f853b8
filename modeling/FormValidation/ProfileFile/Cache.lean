import FormValidation.Number.Binary64
import FormValidation.ProfileFile.Set

/-!
# The cache of profile files

Sets of profiles are kept by the canonical path of their file, together with the time of the last change that the file
had when the set was put. An entry is valid as long as the file has no later change and the entry is not too old. When
a full cache takes in another file, the one goes that was used the longest time ago; `accessOrder` lists the paths by
their last use, the oldest first.

The operations are scripts, because they look at the files and at the clock; each gives the cache afterwards.
-/

set_option autoImplicit false

namespace FormValidation

/-- The nanoseconds of a second. -/
def second : Timestamp := 1000000000

/-- How a cache behaves. The age is in nanoseconds; without one entries never are too old. -/
structure CacheSettings where
  maxEntries : Nat := 64
  maxAge : Option Timestamp := some (3600 * second)
  enabled : Bool := true
  deriving DecidableEq, Repr

/-- The settings as data, the age in whole seconds. -/
def CacheSettings.toJson (settings : CacheSettings) : Json :=
  .object [
    ("max_entries", .ofNat settings.maxEntries),
    ("enabled", .bool settings.enabled),
    ("max_age", (settings.maxAge.map fun age => Json.number (.integer (age / second))).getD .null)]

/-- A set of profiles and the state of the file that it was put for. -/
structure CacheEntry where
  profiles : ProfileSet
  cachedAt : Timestamp
  fileTime : Timestamp
  filePath : String

namespace CacheEntry

/-- How long ago the entry was made; unknown when that lies ahead. -/
def age (entry : CacheEntry) (now : Timestamp) : Option Timestamp :=
  if entry.cachedAt ≤ now then some (now - entry.cachedAt) else none

/-- Whether the entry may still be used, given the time of the last change of the file. -/
def isValid (entry : CacheEntry) (fileTime now : Timestamp) (maxAge : Option Timestamp) : Bool :=
  if entry.fileTime < fileTime then false
  else
    match maxAge, entry.age now with
    | some limit, some age => age ≤ limit
    | _, _ => true

end CacheEntry

/-- Cached sets by canonical path. -/
structure ProfileCache where
  settings : CacheSettings := {}
  entries : FieldMap CacheEntry := FieldMap.empty
  accessOrder : List String := []

/-- What is told about a cache as a whole. -/
structure CacheStats where
  total : Nat
  maxEntries : Nat
  averageAge : Option Timestamp
  enabled : Bool
  deriving DecidableEq, Repr

/-- How full the cache is, in percent. -/
def CacheStats.utilization (s : CacheStats) : Number.Binary64 :=
  let share := do
    let total ← Number.Magnitude.ofNat s.total
    let limit ← Number.Magnitude.ofNat s.maxEntries
    let hundred ← Number.Magnitude.ofNat 100
    (← total.div limit).mul hundred
  ⟨false, if s.maxEntries = 0 then Number.Magnitude.zero else share.getD Number.Magnitude.zero⟩

/-- The figures as data; of the average age only whether there is one. -/
def CacheStats.toJson (s : CacheStats) : Json :=
  .object [
    ("total_entries", .ofNat s.total),
    ("max_entries", .ofNat s.maxEntries),
    ("enabled", .bool s.enabled),
    ("has_average_age", .bool s.averageAge.isSome),
    ("utilization", .number (.float s.utilization))]

namespace ProfileCache

/-- The empty cache. -/
def new (settings : CacheSettings) : ProfileCache := { settings }

/-- Notes that a path was used. -/
def touch (cache : ProfileCache) (path : String) : ProfileCache :=
  { cache with accessOrder := cache.accessOrder.filter (fun p => p ≠ path) ++ [path] }

/-- The cache without a canonical path. -/
def drop (cache : ProfileCache) (path : String) : ProfileCache :=
  { cache with
    entries := cache.entries.erase path, accessOrder := cache.accessOrder.filter fun p => p ≠ path }

/-- The cache without the path that was used the longest time ago. -/
def evictOldest (cache : ProfileCache) : ProfileCache :=
  match cache.accessOrder with
  | [] => cache
  | oldest :: _ => cache.drop oldest

/-- Makes room for a path that is not cached, if there is none left. -/
def makeRoom (cache : ProfileCache) (path : String) : ProfileCache :=
  if !cache.entries.contains path && cache.settings.maxEntries ≤ cache.entries.size then cache.evictOldest else cache

/-- The cache with an entry as the one used last. -/
def store (cache : ProfileCache) (entry : CacheEntry) : ProfileCache :=
  { cache with entries := cache.entries.insert entry.filePath entry }.touch entry.filePath

/-- The cache without entries. -/
def clear (cache : ProfileCache) : ProfileCache := { cache with entries := FieldMap.empty, accessOrder := [] }

/-- The canonical path of a path. -/
def canonical (path : String) : HostScript (Except LoadFault String) := do
  return (← HostScript.askPath path).mapError (.unreadable path)

/-- The time of the last change of the file at a path. -/
def lastChange (path : String) : HostScript (Except LoadFault Timestamp) := do
  return (← HostScript.askModified path).mapError (.unreadable path)

/-- The valid set of a path. An entry that is not valid any more is dropped. -/
def get (cache : ProfileCache) (path : String) :
    HostScript (ProfileCache × Except LoadFault (Option ProfileSet)) := do
  if !cache.settings.enabled then return (cache, .ok none)
  match ← canonical path with
  | .error fault => return (cache, .error fault)
  | .ok place =>
    match cache.entries.get? place with
    | none => return (cache, .ok none)
    | some entry =>
      match ← lastChange path with
      | .error fault => return (cache, .error fault)
      | .ok fileTime =>
        if entry.isValid fileTime (← HostScript.askTime) cache.settings.maxAge then
          return (cache.touch place, .ok (some entry.profiles))
        else return (cache.drop place, .ok none)

/-- Puts the set of a path. -/
def put (cache : ProfileCache) (path : String) (profiles : ProfileSet) :
    HostScript (ProfileCache × Except LoadFault Unit) := do
  if !cache.settings.enabled then return (cache, .ok ())
  match ← canonical path with
  | .error fault => return (cache, .error fault)
  | .ok place =>
    match ← lastChange path with
    | .error fault => return (cache, .error fault)
    | .ok fileTime =>
      return ((cache.makeRoom place).store ⟨profiles, ← HostScript.askTime, fileTime, place⟩, .ok ())

/-- Removes the set of a path and tells whether there was one. -/
def remove (cache : ProfileCache) (path : String) : HostScript (ProfileCache × Except LoadFault Bool) := do
  match ← canonical path with
  | .error fault => return (cache, .error fault)
  | .ok place => return (cache.drop place, .ok (cache.entries.contains place))

/-- Whether there is a set of a path, valid or not. -/
def contains (cache : ProfileCache) (path : String) : HostScript (Except LoadFault Bool) := do
  match ← canonical path with
  | .error fault => return .error fault
  | .ok place => return .ok (cache.entries.contains place)

/-- Whether an entry has to go: its file cannot be found, or it is not valid any more. -/
def isExpired (cache : ProfileCache) (entry : CacheEntry) : HostScript Bool := do
  match ← HostScript.askModified entry.filePath with
  | .error _ => return true
  | .ok fileTime => return !entry.isValid fileTime (← HostScript.askTime) cache.settings.maxAge

/-- The paths of those entries that have to go. -/
def expiredPaths (cache : ProfileCache) : List (String × CacheEntry) → HostScript (List String)
  | [] => return []
  | (path, entry) :: rest => do
    let expired ← cache.isExpired entry
    let others ← cache.expiredPaths rest
    return if expired then path :: others else others

/-- Drops all entries that have to go, and tells how many there were. -/
def cleanup (cache : ProfileCache) : HostScript (ProfileCache × Nat) := do
  if !cache.settings.enabled then return (cache, 0)
  let paths ← cache.expiredPaths cache.entries.entries
  return (paths.foldl drop cache, paths.length)

/-- The average of ages, if there are any. -/
def averageAge (ages : List Timestamp) : Option Timestamp :=
  if ages.isEmpty then none else some (ages.foldl (· + ·) 0 / ages.length)

/-- The figures of the cache. -/
def stats (cache : ProfileCache) : HostScript CacheStats := do
  let now ← HostScript.askTime
  return {
    total := cache.entries.size
    maxEntries := cache.settings.maxEntries
    averageAge := averageAge (cache.entries.values.filterMap fun entry => entry.age now)
    enabled := cache.settings.enabled }

end ProfileCache

end FormValidation
