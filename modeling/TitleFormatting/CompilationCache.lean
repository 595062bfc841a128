import TitleFormatting.Compiled

/-!
A cache of compiled templates, keyed by their source. Each compilation gets a
serial number, by which two requests can tell whether they were handed the
same object.
-/

namespace TitleFormatting

/-- A compiled template and the serial number of its compilation. -/
structure CachedTemplate where
  compiled : Compiled
  serial : Nat

/-- Compiled templates by their source, and the serial number of the next
compilation. -/
structure CompilationCache where
  entries : List (String × CachedTemplate)
  next : Nat

namespace CompilationCache

def empty : CompilationCache := ⟨[], 0⟩

def get? (cache : CompilationCache) (source : String) : Option CachedTemplate :=
  cache.entries.lookup source

/-- The cached template for a source, compiled with the options when it is
missing. A template that cannot be read leaves the cache unchanged. -/
def compile (cache : CompilationCache) (source : String) (options : Options) :
    Except SyntaxError CachedTemplate × CompilationCache :=
  match cache.get? source with
  | some cached => (.ok cached, cache)
  | none =>
    match Compiled.compile source options with
    | .ok compiled =>
      let cached := ⟨compiled, cache.next⟩
      (.ok cached, ⟨(source, cached) :: cache.entries, cache.next + 1⟩)
    | .error error => (.error error, cache)

def size (cache : CompilationCache) : Nat := cache.entries.length

def isEmpty (cache : CompilationCache) : Bool := cache.entries.isEmpty

def clear (cache : CompilationCache) : CompilationCache := { cache with entries := [] }

end CompilationCache

end TitleFormatting
