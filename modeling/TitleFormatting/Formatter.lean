import TitleFormatting.CompilationCache

/-!
Formatting with fixed options: each distinct template is compiled once.
-/

namespace TitleFormatting

structure Formatter where
  options : Options
  cache : CompilationCache := .empty

/-- Why a template yields no result. -/
inductive FormatError where
  /-- The source cannot be read. -/
  | malformed (error : SyntaxError)
  /-- The evaluation came to a halt. -/
  | halted (fault : Fault)
deriving DecidableEq, Repr

namespace Formatter

/-- Compile a template or fetch it from the cache. -/
def compile (formatter : Formatter) (source : String) :
    Except SyntaxError CachedTemplate × Formatter :=
  let (result, cache) := formatter.cache.compile source formatter.options
  (result, { formatter with cache })

/-- Format one track; also yields the markers that were written into the
result. -/
def formatWithMarkers (formatter : Formatter) (source : String) (track : Track)
    (draw : Nat → UInt32) :
    Except FormatError (Atom × List Marker) × Formatter :=
  let (result, formatter) := formatter.compile source
  match result with
  | .ok cached =>
    ((cached.compiled.applyWithMarkers track formatter.options draw).mapError .halted,
      formatter)
  | .error error => (.error (.malformed error), formatter)

def format (formatter : Formatter) (source : String) (track : Track)
    (draw : Nat → UInt32) : Except FormatError Atom × Formatter :=
  let (result, formatter) := formatter.formatWithMarkers source track draw
  (result.map Prod.fst, formatter)

def clear (formatter : Formatter) : Formatter :=
  { formatter with cache := formatter.cache.clear }

end Formatter

/-- Format one track with default options. -/
def formatOnce (source : String) (track : Track) (draw : Nat → UInt32) :
    Except FormatError Atom :=
  match Compiled.compile source {} with
  | .ok compiled => (compiled.apply track {} draw).mapError .halted
  | .error error => .error (.malformed error)

end TitleFormatting
