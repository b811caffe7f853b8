import FormValidation.ProfileFile.Cache

/-!
# Loading profile files

A loader answers with the profiles of a file, from its cache where the file has not changed since. A file whose
profiles cannot be had is not cached.
-/

set_option autoImplicit false

namespace FormValidation

/-- The profiles of the file at a path as it is now. -/
def ProfileSet.readFile (path : String) : HostScript (Except LoadFault ProfileSet) := do
  match ProfileFormat.ofPath path with
  | .error fault => return .error fault
  | .ok format =>
    match ← HostScript.askText path with
    | .error fault => return .error (.unreadable path fault)
    | .ok text => return ProfileSet.ofText format path text

/-- A loader is the cache of what it has loaded. -/
structure ProfileLoader where
  cache : ProfileCache := {}

namespace ProfileLoader

/-- A loader that has loaded nothing yet. -/
def new (settings : CacheSettings) : ProfileLoader := ⟨ProfileCache.new settings⟩

/-- The settings of the loader's cache. -/
def settings (loader : ProfileLoader) : CacheSettings := loader.cache.settings

/-- Reads a file that is not cached, and caches its profiles. -/
def loadFresh (cache : ProfileCache) (path : String) :
    HostScript (ProfileLoader × Except LoadFault ProfileSet) := do
  match ← ProfileSet.readFile path with
  | .error fault => return (⟨cache⟩, .error fault)
  | .ok profiles =>
    let (cache, stored) ← cache.put path profiles
    return (⟨cache⟩, stored.map fun _ => profiles)

/-- The profiles of a file. -/
def load (loader : ProfileLoader) (path : String) :
    HostScript (ProfileLoader × Except LoadFault ProfileSet) := do
  let (cache, found) ← loader.cache.get path
  match found with
  | .error fault => return (⟨cache⟩, .error fault)
  | .ok (some profiles) => return (⟨cache⟩, .ok profiles)
  | .ok none => loadFresh cache path

/-- One profile of a file. -/
def loadProfile (loader : ProfileLoader) (path name : String) :
    HostScript (ProfileLoader × Except LoadFault Profile) := do
  let (loader, loaded) ← loader.load path
  return (loader, loaded.bind fun profiles => profiles.get name)

/-- The profiles of a file, read anew. -/
def reload (loader : ProfileLoader) (path : String) :
    HostScript (ProfileLoader × Except LoadFault ProfileSet) := do
  let (cache, removed) ← loader.cache.remove path
  match removed with
  | .error fault => return (⟨cache⟩, .error fault)
  | .ok _ => ProfileLoader.load ⟨cache⟩ path

/-- Whether the profiles of a file are cached. -/
def isCached (loader : ProfileLoader) (path : String) : HostScript (Except LoadFault Bool) :=
  loader.cache.contains path

/-- The loader with nothing cached. -/
def clear (loader : ProfileLoader) : ProfileLoader := ⟨loader.cache.clear⟩

/-- Drops cached sets that are not valid any more, and tells how many there were. -/
def cleanup (loader : ProfileLoader) : HostScript (ProfileLoader × Nat) := do
  let (cache, count) ← loader.cache.cleanup
  return (⟨cache⟩, count)

/-- The figures of the loader's cache. -/
def stats (loader : ProfileLoader) : HostScript CacheStats := loader.cache.stats

end ProfileLoader

end FormValidation
