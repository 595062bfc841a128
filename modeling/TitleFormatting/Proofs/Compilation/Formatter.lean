import TitleFormatting.Formatter
import TitleFormatting.Proofs.Compilation.Cache

/-!
# Formatting after any requests

The options of a formatter are fixed. Its cache therefore lists only sources
that can be read with them, and every reply is what compiling the source
afresh would lead to.
-/

namespace TitleFormatting

namespace Formatter

/-- What is asked of a formatter. -/
inductive Request where
  | compile (source : String)
  | format (source : String) (track : Track) (draw : Nat → UInt32)
  | formatWithMarkers (source : String) (track : Track) (draw : Nat → UInt32)
  | clear

/-- The formatter behind a request. -/
def serve (formatter : Formatter) : Request → Formatter
  | .compile source => (formatter.compile source).2
  | .format source track draw => (formatter.format source track draw).2
  | .formatWithMarkers source track draw =>
      (formatter.formatWithMarkers source track draw).2
  | .clear => formatter.clear

/-- The formatter that was new before these requests, the first one first. -/
def after (options : Options) (requests : List Request) : Formatter :=
  requests.foldl serve { options }

/-- What compiling the source for this one result leads to. -/
def formatAfresh (options : Options) (source : String) (track : Track)
    (draw : Nat → UInt32) : Except FormatError (Atom × List Marker) :=
  match Compiled.compile source options with
  | .ok compiled =>
      (compiled.applyWithMarkers track options draw).mapError .halted
  | .error error => .error (.malformed error)

/-! ## Requests to the cache -/

/-- What a request asks of the cache. -/
def Request.ofCache (options : Options) : Request → CompilationCache.Request
  | .compile source => .compile source options
  | .format source _ _ => .compile source options
  | .formatWithMarkers source _ _ => .compile source options
  | .clear => .clear

theorem formatWithMarkers_snd (formatter : Formatter) (source : String)
    (track : Track) (draw : Nat → UInt32) :
    (formatter.formatWithMarkers source track draw).2 =
      (formatter.compile source).2 := by
  rw [formatWithMarkers]
  rcases formatter.compile source with ⟨reply, behind⟩
  cases reply <;> rfl

theorem serve_eq (formatter : Formatter) (request : Request) :
    formatter.serve request =
      { formatter with
        cache := formatter.cache.serve (request.ofCache formatter.options) } := by
  cases request with
  | compile source =>
      rfl
  | format source track draw =>
      exact formatWithMarkers_snd formatter source track draw
  | formatWithMarkers source track draw =>
      exact formatWithMarkers_snd formatter source track draw
  | clear =>
      rfl

theorem foldl_serve (formatter : Formatter) (requests : List Request) :
    requests.foldl serve formatter =
      { formatter with
        cache := (requests.map (Request.ofCache formatter.options)).foldl
          CompilationCache.serve formatter.cache } := by
  induction requests generalizing formatter with
  | nil =>
      rfl
  | cons request rest inductionHypothesis =>
      rw [List.foldl_cons, serve_eq, inductionHypothesis]
      rfl

theorem after_eq (options : Options) (requests : List Request) :
    after options requests =
      { options
        cache :=
          CompilationCache.after (requests.map (Request.ofCache options)) } :=
  foldl_serve { options } requests

/-- Whatever is listed for a formatter can be read with its options. -/
theorem exists_compile_of_mem_recentSources {options : Options}
    {requests : List Request} {source : String}
    (recent : source ∈ CompilationCache.recentSources
      (requests.map (Request.ofCache options))) :
    ∃ compiled, Compiled.compile source options = .ok compiled := by
  obtain ⟨asked, member, readable⟩ := List.mem_filterMap.mp recent
  have inHistory := (List.takeWhile_sublist _).mem member
  obtain ⟨request, _, rfl⟩ :=
    List.mem_map.mp (List.mem_reverse.mp inHistory)
  have readableWith (name : String)
      (accepted : (CompilationCache.Request.compile name options).readable? =
        some source) :
      ∃ compiled, Compiled.compile source options = .ok compiled := by
    cases read : Compiled.compile name options with
    | ok compiled =>
        rw [CompilationCache.Request.readable?, read] at accepted
        obtain rfl := Option.some.inj accepted
        exact ⟨compiled, read⟩
    | error error =>
        rw [CompilationCache.Request.readable?, read] at accepted
        contradiction
  cases request with
  | compile name =>
      exact readableWith name readable
  | format name track draw =>
      exact readableWith name readable
  | formatWithMarkers name track draw =>
      exact readableWith name readable
  | clear =>
      contradiction

/-! ## Replies -/

variable (options : Options) (requests : List Request) (source : String)

theorem compile_after_eq :
    ((after options requests).compile source).1.map CachedTemplate.compiled =
      Compiled.compile source options := by
  have lists :=
    CompilationCache.lists_after (requests.map (Request.ofCache options))
  rw [after_eq, compile]
  cases read : Compiled.compile source options with
  | ok compiled =>
      obtain ⟨serial, reply⟩ := lists.reply_of_compile_eq_ok read
      rw [reply]
      rfl
  | error error =>
      have missing : CompilationCache.get? (CompilationCache.after
          (requests.map (Request.ofCache options))) source = none := by
        rw [← Option.not_isSome_iff_eq_none, lists.isSome_get?_iff]
        intro recent
        obtain ⟨compiled, accepted⟩ := exists_compile_of_mem_recentSources recent
        rw [read] at accepted
        contradiction
      rw [CompilationCache.Lists.reply_of_get?_eq_none missing read]
      rfl

variable (track : Track) (draw : Nat → UInt32)

theorem formatWithMarkers_after_eq :
    ((after options requests).formatWithMarkers source track draw).1 =
      formatAfresh options source track draw := by
  have fixed : ((after options requests).compile source).2.options = options := by
    rw [after_eq]
    rfl
  have alike := compile_after_eq options requests source
  rw [formatWithMarkers, formatAfresh]
  rcases asked : (after options requests).compile source with ⟨reply, behind⟩
  rw [asked] at fixed alike
  rw [← alike]
  cases reply with
  | ok cached =>
      rw [← fixed]
      rfl
  | error error =>
      rfl

theorem format_after_eq :
    ((after options requests).format source track draw).1 =
      (formatAfresh options source track draw).map Prod.fst := by
  rw [← formatWithMarkers_after_eq options requests]
  rfl

end Formatter

/-! ## After any history -/

/-- A cache answers, after any requests to it, as compiling the source afresh
would, except that it may know a source that is nested too deep for the options
at hand. A formatter has just one limit, and so without exception. -/
theorem CompilationCache.compile_after_as_afresh (history : List Request)
    (source : String) (options : Options) :
    (∀ compiled, Compiled.compile source options = .ok compiled →
      ∃ serial,
        ((after history).compile source options).1 = .ok ⟨compiled, serial⟩) ∧
    (∀ error, Compiled.compile source options = .error error →
      error.fault.isDepthExceeded = false →
      ((after history).compile source options).1 = .error error) ∧
    (∀ error, Compiled.compile source options = .error error →
      error.fault.isDepthExceeded = true →
      ((after history).get? source = none →
        ((after history).compile source options).1 = .error error) ∧
      ∀ cached, (after history).get? source = some cached →
        ((after history).compile source options).1 = .ok cached ∧
        cached.compiled.source = source ∧
        ∀ limit, cached.compiled.template.nesting ≤ limit →
          Template.parse limit source = .ok cached.compiled.template) ∧
    (∀ error, ((after history).compile source options).1 = .error error →
      after (history ++ [.compile source options]) = after history) ∧
    (∀ between other otherOptions first second,
      ((after history).compile source options).1 = .ok first →
      ((after (history ++ .compile source options :: between)).compile other
        otherOptions).1 = .ok second →
      (first.serial = second.serial ↔ other = source ∧ .clear ∉ between) ∧
      (other = source → .clear ∉ between → first = second)) ∧
    (after history).size = (recentSources history).dedup.length ∧
    ((after history).get? source ≠ none ↔ source ∈ recentSources history) ∧
    ∀ requests track draw,
      ((Formatter.after options requests).compile source).1.map
          CachedTemplate.compiled =
        Compiled.compile source options ∧
      ((Formatter.after options requests).formatWithMarkers source track draw).1 =
        Formatter.formatAfresh options source track draw ∧
      ((Formatter.after options requests).format source track draw).1 =
        (Formatter.formatAfresh options source track draw).map Prod.fst := by
  have lists := lists_after history
  refine ⟨?fresh, ?refused, ?tooDeep, ?unchanged, ?identity, lists.size_eq,
    ?listed, ?formatter⟩
  case fresh =>
    intro compiled read
    exact lists.reply_of_compile_eq_ok read
  case refused =>
    intro error failed otherReason
    have missing := lists.get?_eq_none_of_compile_eq_error failed otherReason
    exact Lists.reply_of_get?_eq_none missing failed
  case tooDeep =>
    intro error failed _
    refine ⟨fun missing => Lists.reply_of_get?_eq_none missing failed, ?_⟩
    intro cached found
    exact lists.reply_of_get?_eq_some found
  case unchanged =>
    intro error failed
    rw [after_append]
    exact snd_compile_of_fst_eq_error failed
  case identity =>
    intro between other otherOptions first second firstReply secondReply
    obtain ⟨decided, same⟩ :=
      serial_eq_iff_of_compile_eq_ok firstReply secondReply
    exact ⟨decided, fun named kept => same (decided.mpr ⟨named, kept⟩)⟩
  case listed =>
    rw [← Option.isSome_iff_ne_none]
    exact lists.isSome_get?_iff source
  case formatter =>
    intro requests track draw
    exact ⟨Formatter.compile_after_eq options requests source,
      Formatter.formatWithMarkers_after_eq options requests source track draw,
      Formatter.format_after_eq options requests source track draw⟩

/-- A source that was compiled within a larger limit is still handed out when
the limit has become too small for it. -/
theorem CompilationCache.compile_after_as_afresh_beyond_limit :
    Compiled.compile "[[x]]" { maxDepth := 1 } =
        .error ⟨.depthExceeded '[' 1, ⟨1, 1⟩⟩ ∧
      ∃ cached,
        ((after [.compile "[[x]]" { maxDepth := 2 }]).compile "[[x]]"
          { maxDepth := 1 }).1 = .ok cached ∧
        Template.parse 5 "[[x]]" = .ok cached.compiled.template := by
  have failed :
      Compiled.compile "[[x]]" { maxDepth := 1 } =
        .error ⟨.depthExceeded '[' 1, ⟨1, 1⟩⟩ :=
    rfl
  obtain ⟨_, _, tooDeep, _⟩ :=
    compile_after_as_afresh [.compile "[[x]]" { maxDepth := 2 }] "[[x]]"
      { maxDepth := 1 }
  obtain ⟨_, handedOut⟩ := tooDeep _ failed rfl
  obtain ⟨reply, _, read⟩ := handedOut _ rfl
  exact ⟨failed, _, reply, read 5 (by decide)⟩

end TitleFormatting
