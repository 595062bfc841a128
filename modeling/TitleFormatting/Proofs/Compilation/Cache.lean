import Mathlib.Data.List.Dedup
import TitleFormatting.CompilationCache
import TitleFormatting.Proofs.Template.Limit

/-!
# Caches after any requests

A cache hands out what it has compiled before, whatever limit a request comes
with. This is right because a source is read alike within every limit that it
keeps to. Whatever was requested before, a cache lists each source once that
could be read since it was last cleared, with the template that reading the
source yields and a serial number of its own.
-/

namespace TitleFormatting

/-! ## Compiling within different limits -/

def SyntaxFault.isDepthExceeded : SyntaxFault → Bool
  | .depthExceeded _ _ => true
  | _ => false

namespace Compiled

variable {source : String} {options : Options} {compiled : Compiled}

theorem compile_eq_ok_iff :
    Compiled.compile source options = .ok compiled ↔
      compiled.source = source ∧
        Template.parse options.maxDepth source = .ok compiled.template := by
  rw [compile, Except.bind_eq_ok_iff]
  constructor
  · rintro ⟨template, accepted, returned⟩
    obtain rfl := Except.ok.inj returned
    exact ⟨rfl, accepted⟩
  · rintro ⟨rfl, accepted⟩
    exact ⟨compiled.template, accepted, rfl⟩

/-- With other options a source is compiled to the same, unless it is nested
too deep for them. -/
theorem compile_of_compile_eq_ok (other : Options)
    (read : Compiled.compile source options = .ok compiled) :
    Compiled.compile source other = .ok compiled ∨
      ∃ error, Compiled.compile source other = .error error ∧
        error.fault.isDepthExceeded := by
  obtain ⟨named, accepted⟩ := compile_eq_ok_iff.mp read
  rcases Template.parse_of_parse_eq_ok other.maxDepth accepted with
    same | ⟨_, opener, location, stopped⟩
  · exact Or.inl (compile_eq_ok_iff.mpr ⟨named, same⟩)
  · refine Or.inr
      ⟨⟨.depthExceeded opener other.maxDepth, location⟩, ?_, rfl⟩
    rw [compile, stopped]
    rfl

end Compiled

namespace CompilationCache

/-! ## Requests -/

/-- What is asked of a cache. -/
inductive Request where
  | compile (source : String) (options : Options)
  | clear

def Request.isClear : Request → Bool
  | .compile _ _ => false
  | .clear => true

/-- The source of a request that can be read with the options of the
request. -/
def Request.readable? : Request → Option String
  | .compile source options =>
      match Compiled.compile source options with
      | .ok _ => some source
      | .error _ => none
  | .clear => none

/-- The cache behind a request. -/
def serve (cache : CompilationCache) : Request → CompilationCache
  | .compile source options => (cache.compile source options).2
  | .clear => cache.clear

/-- The cache that was empty before these requests, the first one first. -/
def after (history : List Request) : CompilationCache :=
  history.foldl serve .empty

/-- The sources that were compiled since the last clearing, the latest
first. -/
def recentSources (history : List Request) : List String :=
  (history.reverse.takeWhile fun request => !request.isClear).filterMap
    Request.readable?

theorem after_append (first second : List Request) :
    after (first ++ second) = second.foldl serve (after first) :=
  List.foldl_append

theorem recentSources_concat_clear (history : List Request) :
    recentSources (history ++ [.clear]) = [] := by
  simp [recentSources, Request.isClear]

theorem recentSources_concat_compile_of_ok {source : String} {options : Options}
    {compiled : Compiled} (history : List Request)
    (read : Compiled.compile source options = .ok compiled) :
    recentSources (history ++ [.compile source options]) =
      source :: recentSources history := by
  simp [recentSources, Request.isClear, Request.readable?, read]

theorem recentSources_concat_compile_of_error {source : String}
    {options : Options} {error : SyntaxError} (history : List Request)
    (failed : Compiled.compile source options = .error error) :
    recentSources (history ++ [.compile source options]) =
      recentSources history := by
  simp [recentSources, Request.isClear, Request.readable?, failed]

/-- A source is found, or it is compiled and listed, or it cannot be read and
nothing changes. -/
theorem compile_cases (cache : CompilationCache) (source : String)
    (options : Options) :
    (∃ cached, cache.get? source = some cached ∧
      cache.compile source options = (.ok cached, cache)) ∨
    (∃ compiled, cache.get? source = none ∧
      Compiled.compile source options = .ok compiled ∧
      cache.compile source options =
        (.ok ⟨compiled, cache.next⟩,
          ⟨(source, ⟨compiled, cache.next⟩) :: cache.entries, cache.next + 1⟩)) ∨
    ∃ error, cache.get? source = none ∧
      Compiled.compile source options = .error error ∧
      cache.compile source options = (.error error, cache) := by
  cases known : cache.get? source with
  | some cached =>
      refine Or.inl ⟨cached, rfl, ?_⟩
      rw [compile, known]
  | none =>
      cases read : Compiled.compile source options with
      | ok compiled =>
          refine Or.inr (Or.inl ⟨compiled, rfl, rfl, ?_⟩)
          rw [compile, known, read]
      | error error =>
          refine Or.inr (Or.inr ⟨error, rfl, rfl, ?_⟩)
          rw [compile, known, read]

theorem snd_compile_of_fst_eq_error {cache : CompilationCache} {source : String}
    {options : Options} {error : SyntaxError}
    (failed : (cache.compile source options).1 = .error error) :
    (cache.compile source options).2 = cache := by
  rcases cache.compile_cases source options with
    ⟨cached, _, done⟩ | ⟨compiled, _, _, done⟩ | ⟨error, _, _, done⟩
  · rw [done] at failed
    contradiction
  · rw [done] at failed
    contradiction
  · rw [done]

/-! ## What a cache lists -/

/-- The cache lists these sources, each once, as they are compiled, and with
serial numbers that were issued and are all different. -/
structure Lists (cache : CompilationCache) (sources : List String) : Prop where
  keys : (cache.entries.map Prod.fst).Nodup
  known : ∀ source, source ∈ cache.entries.map Prod.fst ↔ source ∈ sources
  read : ∀ entry ∈ cache.entries, ∃ options,
    Compiled.compile entry.1 options = .ok entry.2.compiled
  serials : (cache.entries.map fun entry => entry.2.serial).Nodup
  issued : ∀ entry ∈ cache.entries, entry.2.serial < cache.next

theorem mem_entries_of_get?_eq_some {cache : CompilationCache} {source : String}
    {cached : CachedTemplate} (found : cache.get? source = some cached) :
    (source, cached) ∈ cache.entries := by
  obtain ⟨before, after, equality, _⟩ := List.lookup_eq_some_iff.mp found
  rw [equality]
  exact List.mem_append_right _ List.mem_cons_self

theorem get?_eq_none_iff {cache : CompilationCache} {source : String} :
    cache.get? source = none ↔ source ∉ cache.entries.map Prod.fst := by
  rw [get?, List.lookup_eq_none_iff]
  constructor
  · intro different member
    obtain ⟨entry, listed, rfl⟩ := List.mem_map.mp member
    simpa using different entry listed
  · intro absent entry listed
    have different : source ≠ entry.1 := by
      rintro rfl
      exact absent (List.mem_map_of_mem listed)
    simpa using different

namespace Lists

variable {cache : CompilationCache} {sources : List String}

theorem isSome_get?_iff (lists : Lists cache sources) (source : String) :
    (cache.get? source).isSome ↔ source ∈ sources := by
  rw [← lists.known source, Option.isSome_iff_ne_none, ne_eq, get?_eq_none_iff,
    not_not]

theorem get?_of_mem (lists : Lists cache sources) {source : String}
    {cached : CachedTemplate} (listed : (source, cached) ∈ cache.entries) :
    cache.get? source = some cached := by
  obtain ⟨before, after, equality⟩ := List.append_of_mem listed
  refine List.lookup_eq_some_iff.mpr ⟨before, after, equality, ?_⟩
  intro entry member
  have keys := lists.keys
  rw [equality, List.map_append, List.map_cons] at keys
  have disjoint := (List.nodup_append.mp keys).2.2
  have different : source ≠ entry.1 := fun same =>
    disjoint entry.1 (List.mem_map_of_mem member) source List.mem_cons_self
      same.symm
  simpa using different

theorem size_eq (lists : Lists cache sources) :
    cache.size = sources.dedup.length := by
  have same : (cache.entries.map Prod.fst).Perm sources.dedup := by
    refine (List.perm_ext_iff_of_nodup lists.keys (List.nodup_dedup _)).mpr ?_
    intro source
    rw [lists.known, List.mem_dedup]
  rw [size, ← same.length_eq, List.length_map]

theorem nil (next : Nat) : Lists ⟨[], next⟩ [] where
  keys := List.nodup_nil
  known _ := Iff.rfl
  read _ listed := absurd listed List.not_mem_nil
  serials := List.nodup_nil
  issued _ listed := absurd listed List.not_mem_nil

/-- A source that was not listed can be, with the next serial number. -/
theorem cons (lists : Lists cache sources) {source : String} {options : Options}
    {compiled : Compiled} (missing : cache.get? source = none)
    (read : Compiled.compile source options = .ok compiled) :
    Lists ⟨(source, ⟨compiled, cache.next⟩) :: cache.entries, cache.next + 1⟩
      (source :: sources) where
  keys := List.nodup_cons.mpr ⟨get?_eq_none_iff.mp missing, lists.keys⟩
  known other := by
    rw [List.map_cons, List.mem_cons, List.mem_cons, lists.known]
  read := List.forall_mem_cons.mpr ⟨⟨options, read⟩, lists.read⟩
  serials := by
    refine List.nodup_cons.mpr ⟨?_, lists.serials⟩
    intro member
    obtain ⟨entry, listed, same⟩ := List.mem_map.mp member
    exact absurd same (Nat.ne_of_lt (lists.issued entry listed))
  issued := by
    refine List.forall_mem_cons.mpr ⟨Nat.lt_succ_self _, ?_⟩
    intro entry listed
    exact Nat.lt_succ_of_lt (lists.issued entry listed)

theorem cons_of_mem (lists : Lists cache sources) {source : String}
    (listed : source ∈ sources) : Lists cache (source :: sources) where
  keys := lists.keys
  known other := by
    rw [lists.known, List.mem_cons]
    constructor
    · exact Or.inr
    · rintro (rfl | member)
      · exact listed
      · exact member
  read := lists.read
  serials := lists.serials
  issued := lists.issued

/-! ## Replies -/

variable {source : String} {options : Options}

/-- What a cache has found was compiled with some options. -/
theorem exists_compile_of_get?_eq_some (lists : Lists cache sources)
    {cached : CachedTemplate} (found : cache.get? source = some cached) :
    ∃ earlier, Compiled.compile source earlier = .ok cached.compiled := by
  have listed := mem_entries_of_get?_eq_some found
  exact lists.read (source, cached) listed

theorem reply_of_compile_eq_ok (lists : Lists cache sources)
    {compiled : Compiled}
    (read : Compiled.compile source options = .ok compiled) :
    ∃ serial, (cache.compile source options).1 = .ok ⟨compiled, serial⟩ := by
  rcases cache.compile_cases source options with
    ⟨cached, found, reply⟩ | ⟨fresh, _, again, reply⟩ | ⟨error, _, failed, _⟩
  · obtain ⟨earlier, readEarlier⟩ := lists.exists_compile_of_get?_eq_some found
    rcases Compiled.compile_of_compile_eq_ok options readEarlier with
      same | ⟨error, failed, _⟩
    · obtain rfl := Except.ok.inj (read.symm.trans same)
      exact ⟨cached.serial, by rw [reply]⟩
    · rw [read] at failed
      contradiction
  · obtain rfl := Except.ok.inj (read.symm.trans again)
    exact ⟨cache.next, by rw [reply]⟩
  · rw [read] at failed
    contradiction

theorem reply_of_get?_eq_none {error : SyntaxError}
    (missing : cache.get? source = none)
    (failed : Compiled.compile source options = .error error) :
    (cache.compile source options).1 = .error error := by
  rw [compile, missing, failed]

/-- A source is not listed when it cannot be read for another reason than its
nesting. -/
theorem get?_eq_none_of_compile_eq_error (lists : Lists cache sources)
    {error : SyntaxError}
    (failed : Compiled.compile source options = .error error)
    (otherReason : error.fault.isDepthExceeded = false) :
    cache.get? source = none := by
  cases found : cache.get? source with
  | none =>
      rfl
  | some cached =>
      obtain ⟨earlier, readEarlier⟩ := lists.exists_compile_of_get?_eq_some found
      rcases Compiled.compile_of_compile_eq_ok options readEarlier with
        same | ⟨tooDeep, failedAgain, isTooDeep⟩
      · rw [failed] at same
        contradiction
      · obtain rfl := Except.error.inj (failed.symm.trans failedAgain)
        rw [otherReason] at isTooDeep
        contradiction

/-- A source that is found is answered with what every limit yields that is
large enough. -/
theorem reply_of_get?_eq_some (lists : Lists cache sources)
    {cached : CachedTemplate} (found : cache.get? source = some cached) :
    (cache.compile source options).1 = .ok cached ∧
      cached.compiled.source = source ∧
      ∀ limit, cached.compiled.template.nesting ≤ limit →
        Template.parse limit source = .ok cached.compiled.template := by
  obtain ⟨earlier, readEarlier⟩ := lists.exists_compile_of_get?_eq_some found
  obtain ⟨named, accepted⟩ := Compiled.compile_eq_ok_iff.mp readEarlier
  refine ⟨?_, named, fun limit fits => Template.parse_of_nesting_le accepted fits⟩
  rw [compile, found]

end Lists

/-- The step: a request changes what is listed as it changes the sources that
were compiled. -/
theorem Lists.serve {history : List Request} {cache : CompilationCache}
    (lists : Lists cache (recentSources history)) (request : Request) :
    Lists (cache.serve request) (recentSources (history ++ [request])) := by
  cases request with
  | clear =>
      rw [recentSources_concat_clear]
      exact Lists.nil cache.next
  | compile source options =>
      rw [CompilationCache.serve]
      rcases cache.compile_cases source options with
        ⟨cached, found, reply⟩ | ⟨compiled, missing, read, reply⟩ |
        ⟨error, missing, failed, reply⟩
      · rw [reply]
        -- What is found may be nested too deep for the options at hand, and
        -- then the request compiles nothing.
        cases read : Compiled.compile source options with
        | ok compiled =>
            rw [recentSources_concat_compile_of_ok history read]
            refine lists.cons_of_mem ((lists.isSome_get?_iff source).mp ?_)
            rw [found]
            rfl
        | error error =>
            rw [recentSources_concat_compile_of_error history read]
            exact lists
      · rw [reply, recentSources_concat_compile_of_ok history read]
        exact lists.cons missing read
      · rw [reply, recentSources_concat_compile_of_error history failed]
        exact lists

/-- After any requests a cache lists the sources that were compiled since the
last clearing. -/
theorem lists_after (history : List Request) :
    Lists (after history) (recentSources history) := by
  induction history using List.reverseRecOn with
  | nil =>
      exact Lists.nil 0
  | append_singleton history request inductionHypothesis =>
      rw [after_append]
      exact inductionHypothesis.serve request

/-! ## The same object -/

/-- The object was handed out for the source. While it is kept it is listed,
and no other entry ever bears its serial number. -/
structure Tracks (cache : CompilationCache) (source : String)
    (object : CachedTemplate) (kept : Prop) : Prop where
  issued : object.serial < cache.next
  listed : kept → (source, object) ∈ cache.entries
  alone : ∀ entry ∈ cache.entries, entry.2.serial = object.serial →
    kept ∧ entry = (source, object)

theorem mem_entries_of_compile_eq_ok {cache : CompilationCache} {source : String}
    {options : Options} {object : CachedTemplate}
    (reply : (cache.compile source options).1 = .ok object) :
    (source, object) ∈ (cache.compile source options).2.entries := by
  rcases cache.compile_cases source options with
    ⟨cached, found, done⟩ | ⟨compiled, _, _, done⟩ | ⟨error, _, _, done⟩
  · rw [done] at reply ⊢
    obtain rfl := Except.ok.inj reply
    exact mem_entries_of_get?_eq_some found
  · rw [done] at reply ⊢
    obtain rfl := Except.ok.inj reply
    exact List.mem_cons_self
  · rw [done] at reply
    contradiction

namespace Tracks

variable {cache : CompilationCache} {source : String} {object : CachedTemplate}
  {kept : Prop}

theorem of_mem {sources : List String} (lists : Lists cache sources)
    (listed : (source, object) ∈ cache.entries) :
    Tracks cache source object True where
  issued := lists.issued _ listed
  listed _ := listed
  alone _ member same :=
    ⟨trivial, List.inj_on_of_nodup_map lists.serials member listed same⟩

theorem serve (tracks : Tracks cache source object kept) (request : Request) :
    Tracks (cache.serve request) source object (kept ∧ request ≠ .clear) := by
  cases request with
  | clear =>
      refine ⟨tracks.issued, fun keeps => absurd rfl keeps.2, ?_⟩
      intro _ member
      contradiction
  | compile other options =>
      have keeps : (kept ∧ Request.compile other options ≠ .clear) ↔ kept := by
        simp
      rw [CompilationCache.serve, keeps]
      rcases cache.compile_cases other options with
        ⟨cached, _, done⟩ | ⟨compiled, _, _, done⟩ | ⟨error, _, _, done⟩
      · rw [done]
        exact tracks
      · rw [done]
        refine ⟨Nat.lt_succ_of_lt tracks.issued,
          fun isKept => List.mem_cons_of_mem _ (tracks.listed isKept), ?_⟩
        -- The new entry bears the next serial number, which is not issued yet.
        refine List.forall_mem_cons.mpr ⟨?_, tracks.alone⟩
        intro same
        have issued := tracks.issued
        simp only at same
        omega
      · rw [done]
        exact tracks

theorem foldl_serve (tracks : Tracks cache source object kept)
    (requests : List Request) :
    Tracks (requests.foldl CompilationCache.serve cache) source object
      (kept ∧ .clear ∉ requests) := by
  induction requests generalizing cache kept with
  | nil =>
      simpa using tracks
  | cons request rest inductionHypothesis =>
      have later := inductionHypothesis (tracks.serve request)
      have keeps :
          ((kept ∧ request ≠ .clear) ∧ .clear ∉ rest) ↔
            (kept ∧ .clear ∉ request :: rest) := by
        rw [List.mem_cons, not_or, and_assoc, ne_comm]
      rw [keeps] at later
      exact later

/-- An object is handed out again just for its own source, and while it is
kept. -/
theorem serial_eq_iff (tracks : Tracks cache source object kept)
    {sources : List String} (lists : Lists cache sources) {other : String}
    {options : Options} {second : CachedTemplate}
    (reply : (cache.compile other options).1 = .ok second) :
    (object.serial = second.serial ↔ other = source ∧ kept) ∧
      (object.serial = second.serial → object = second) := by
  have behind := tracks.serve (.compile other options)
  have listed := mem_entries_of_compile_eq_ok reply
  have found (same : object.serial = second.serial) :
      kept ∧ (other, second) = (source, object) := by
    obtain ⟨⟨isKept, _⟩, equal⟩ := behind.alone _ listed same.symm
    exact ⟨isKept, equal⟩
  refine ⟨⟨?_, ?_⟩, ?_⟩
  · intro same
    obtain ⟨isKept, equal⟩ := found same
    exact ⟨(Prod.mk.inj equal).1, isKept⟩
  · rintro ⟨rfl, isKept⟩
    have known := lists.get?_of_mem (tracks.listed isKept)
    rw [(lists.reply_of_get?_eq_some known).1] at reply
    rw [Except.ok.inj reply]
  · intro same
    exact (Prod.mk.inj (found same).2).2.symm

end Tracks

/-- Two requests that succeed are handed the same object just if they are for
one source and the cache was not cleared between them. -/
theorem serial_eq_iff_of_compile_eq_ok {history between : List Request}
    {source other : String} {options otherOptions : Options}
    {first second : CachedTemplate}
    (firstReply : ((after history).compile source options).1 = .ok first)
    (secondReply :
      ((after (history ++ .compile source options :: between)).compile other
        otherOptions).1 = .ok second) :
    (first.serial = second.serial ↔ other = source ∧ .clear ∉ between) ∧
      (first.serial = second.serial → first = second) := by
  have behindFirst := lists_after (history ++ [.compile source options])
  rw [after_append] at behindFirst
  have tracks :=
    (Tracks.of_mem behindFirst
      (mem_entries_of_compile_eq_ok firstReply)).foldl_serve between
  have split : after (history ++ .compile source options :: between) =
      between.foldl serve ((after history).compile source options).2 :=
    after_append history (.compile source options :: between)
  have lists := lists_after (history ++ .compile source options :: between)
  rw [split] at lists secondReply
  have decided := tracks.serial_eq_iff lists secondReply
  rwa [true_and] at decided

end CompilationCache

end TitleFormatting
