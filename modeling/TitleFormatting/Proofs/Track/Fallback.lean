import Mathlib
import TitleFormatting.Proofs.Text.Casing
import TitleFormatting.Track.Resolution

/-!
# Fields behind fallback rules

The rule of a name is found by its small letters, and the field of that name by its capitals.
Both are the same in whatever case an ASCII name is written.  A rule that tries other fields
tries the field itself first, so that it hides none.  Only the two rules that compute what
they yield may show something else in its place.
-/

namespace TitleFormatting

/-! ## ASCII texts in any case -/

namespace Text

theorem upper_of_ascii {text : List Char} (ascii : ∀ c ∈ text, c.toNat < 128) :
    upper text = text.map Char.toUpper := by
  rw [upper, List.map_eq_flatMap]
  apply List.flatMap_congr
  intro c member
  exact if_pos (ascii c member)

theorem toNat_toLower_lt_iff {c : Char} : c.toLower.toNat < 128 ↔ c.toNat < 128 := by
  constructor
  · intro ascii
    by_cases capital : c.isUpper = true
    · simp only [Char.isUpper, decide_eq_true_eq, UInt32.le_iff_toNat_le] at capital
      exact lt_of_le_of_lt capital.2 (by decide)
    · rwa [Char.toLower_eq_of_not_isUpper capital] at ascii
  · intro ascii
    have each : ∀ code < 128, (Char.ofNat code).toLower.toNat < 128 := by
      decide
    have small := each c.toNat ascii
    rwa [Char.ofNat_toNat] at small

/-- The texts differ in the case of ASCII letters, if at all. -/
def IsVariantOf (variant name : String) : Prop :=
  variant.toList.map Char.toLower = name.toList.map Char.toLower

instance (variant name : String) : Decidable (IsVariantOf variant name) :=
  inferInstanceAs (Decidable (_ = _))

namespace IsVariantOf

variable {variant name : String}

theorem map_toUpper (isVariant : IsVariantOf variant name) :
    variant.toList.map Char.toUpper = name.toList.map Char.toUpper := by
  have raised := congrArg (List.map Char.toUpper) isVariant
  simpa [Function.comp_def] using raised

section Ascii

variable (isVariant : IsVariantOf variant name) (ascii : ∀ c ∈ name.toList, c.toNat < 128)

include isVariant ascii

theorem isAscii : ∀ c ∈ variant.toList, c.toNat < 128 := by
  have small : ∀ c ∈ variant.toList.map Char.toLower, c.toNat < 128 := by
    rw [isVariant, List.forall_mem_map]
    intro c member
    exact toNat_toLower_lt_iff.mpr (ascii c member)
  intro c member
  exact toNat_toLower_lt_iff.mp (small c.toLower (List.mem_map_of_mem member))

theorem lowerString_eq : lowerString variant = lowerString name := by
  have lowered : lower variant.toList = lower name.toList := by
    rw [lower, lower, Casing.lowerAfter_of_ascii (isVariant.isAscii ascii),
      Casing.lowerAfter_of_ascii ascii]
    exact isVariant
  rw [lowerString, lowerString, lowered]

theorem upperString_eq : upperString variant = upperString name := by
  rw [upperString, upperString, upper_of_ascii (isVariant.isAscii ascii),
    upper_of_ascii ascii, isVariant.map_toUpper]

end Ascii

end IsVariantOf

/-- The small letters of an ASCII text are a way to write it. -/
theorem isVariantOf_lowerString {name : String} (ascii : ∀ c ∈ name.toList, c.toNat < 128) :
    IsVariantOf (lowerString name) name := by
  rw [IsVariantOf, lowerString, String.toList_ofList, lower, Casing.lowerAfter_of_ascii ascii]
  simp [Function.comp_def]

end Text

/-! ## Rules that try the field itself first -/

namespace FallbackRule

/-- The field that a rule tries first, if it shows the fields as they are. -/
def first? : FallbackRule → Option String
  | candidates (name :: _) => some name
  | _ => none

/-- The rules for all names but two try first the field of the name. -/
theorem first?_of_mem_table : ∀ entry ∈ table,
    entry.1 = "tracknumber" ∨ entry.1 = "track artist" ∨
      entry.2.first? = some (Text.upperString entry.1) := by
  decide

theorem mem_table_of_find?_eq_some {name : String} {rule : FallbackRule}
    (found : find? name = some rule) : (name, rule) ∈ table := by
  obtain ⟨before, after, listed, -⟩ := List.lookup_eq_some_iff.mp found
  rw [listed]
  exact List.mem_append_right before List.mem_cons_self

theorem apply_of_first? {rule : FallbackRule} {track : Track} {options : Options}
    {name value : String} (first : rule.first? = some name)
    (fetched : track.fetch name options = some value) :
    rule.apply track options = .found value := by
  match rule, first with
  | candidates (_ :: others), rfl =>
      rw [apply, Track.fetchFirst, List.findSome?_cons, fetched]

end FallbackRule

/-! ## Fields with and without rules -/

namespace Track

section Fallbacks

variable (track : Track) (name : String) (options : Options)

/-- What the rule of a name yields, and nothing for a name without a rule. -/
def fallback : Atom :=
  match FallbackRule.find? (Text.lowerString name) with
  | some rule => rule.apply track options
  | none => .absent

theorem resolve_with_magic :
    track.resolve name { options with magic := true } =
      if (track.fallback name { options with magic := true }).isPresent then
        track.fallback name { options with magic := true }
      else track.direct name { options with magic := true } :=
  rfl

theorem resolve_without_magic :
    track.resolve name { options with magic := false } =
      track.direct name { options with magic := true } :=
  rfl

end Fallbacks

variable {track : Track} {name : String} {options : Options}

theorem direct_of_isVariantOf {variant : String} (isVariant : Text.IsVariantOf variant name)
    (ascii : ∀ c ∈ name.toList, c.toNat < 128) (anyCase : options.caseSensitive = false) :
    track.direct variant options = track.direct name options := by
  have key : fieldKey variant false = fieldKey name false := isVariant.upperString_eq ascii
  rw [direct, direct, anyCase, key]

theorem resolve_of_isVariantOf {variant : String} (isVariant : Text.IsVariantOf variant name)
    (ascii : ∀ c ∈ name.toList, c.toNat < 128) (anyCase : options.caseSensitive = false) :
    track.resolve variant options = track.resolve name options := by
  rw [resolve, resolve, isVariant.lowerString_eq ascii,
    direct_of_isVariantOf isVariant ascii anyCase]

/-- A field that is there is what the rule of its name tries first. -/
theorem fallback_eq_direct {rule : FallbackRule} (anyCase : options.caseSensitive = false)
    (found : FallbackRule.find? (Text.lowerString name) = some rule)
    (first : rule.first? = some (Text.upperString name))
    (present : (track.direct name options).isPresent = true) :
    track.fallback name options = track.direct name options := by
  rw [direct, anyCase] at present ⊢
  cases held : track.get? (fieldKey name false) with
  | none =>
      rw [held] at present
      contradiction
  | some value =>
      have inCapitals : track.get? (Text.upperString name) = some value := held
      have fetched : track.fetch (Text.upperString name) options = some value := by
        rw [fetch, inCapitals]
      rw [fallback, found]
      exact FallbackRule.apply_of_first? first fetched

theorem resolve_with_magic_eq_direct (anyCase : options.caseSensitive = false)
    (ascii : ∀ c ∈ name.toList, c.toNat < 128)
    (notNumber : ¬ Text.IsVariantOf name "tracknumber")
    (notArtist : ¬ Text.IsVariantOf name "track artist")
    (present : (track.direct name { options with magic := true }).isPresent = true) :
    track.resolve name { options with magic := true } =
      track.direct name { options with magic := true } := by
  rw [resolve_with_magic]
  cases found : FallbackRule.find? (Text.lowerString name) with
  | none =>
      have nothing : track.fallback name { options with magic := true } = .absent := by
        rw [fallback, found]
      rw [nothing]
      rfl
  | some rule =>
      have lowered := Text.isVariantOf_lowerString ascii
      have first : rule.first? = some (Text.upperString name) := by
        rcases FallbackRule.first?_of_mem_table _
            (FallbackRule.mem_table_of_find?_eq_some found) with number | artist | first
        · exact absurd (number ▸ lowered.symm) notNumber
        · exact absurd (artist ▸ lowered.symm) notArtist
        · rw [first, lowered.upperString_eq ascii]
      have shown : track.fallback name { options with magic := true } =
          track.direct name { options with magic := true } :=
        fallback_eq_direct anyCase found first present
      rw [shown, ite_self]

/-- A field that is there shows with fallback rules as without.  Where names are in any case,
an ASCII name shows the very same with the rules, unless its rule is one of the two that
compute what they yield; and all ways to write the name show the same. -/
theorem fallbacks_hide_nothing (track : Track) (name : String) (options : Options) :
    ((track.resolve name { options with magic := false }).isPresent = true →
      (track.resolve name { options with magic := true }).isPresent = true) ∧
    (options.caseSensitive = false → (∀ c ∈ name.toList, c.toNat < 128) →
      (¬ Text.IsVariantOf name "tracknumber" → ¬ Text.IsVariantOf name "track artist" →
        (track.resolve name { options with magic := false }).isPresent = true →
          track.resolve name { options with magic := true } =
            track.resolve name { options with magic := false }) ∧
      ∀ (variant : String) (magic : Bool), Text.IsVariantOf variant name →
        track.resolve variant { options with magic } =
          track.resolve name { options with magic }) := by
  rw [resolve_without_magic]
  refine ⟨?shows, fun anyCase ascii => ⟨?same, ?anyCase⟩⟩
  case shows =>
    intro present
    rw [resolve_with_magic]
    split
    · assumption
    · exact present
  case same =>
    intro notNumber notArtist present
    exact resolve_with_magic_eq_direct anyCase ascii notNumber notArtist present
  case anyCase =>
    intro variant magic isVariant
    exact resolve_of_isVariantOf isVariant ascii anyCase

/-- On a track whose artist and album artist differ, `%Artist%` shows the artist with and
without fallbacks, in any case, and `%TrackNumber%` shows with both, but not the same. -/
theorem fallbacks_hide_nothing_sample :
    let track : Track := .ofFields
      ⟨[("ALBUM ARTIST", "Various"), ("ARTIST", "Ride"), ("TRACKNUMBER", "3/12")]⟩
    let options : Options := {}
    (track.resolve "TrackNumber" { options with magic := false } = .found "3/12" ∧
      track.resolve "TrackNumber" { options with magic := true } = .found "03" ∧
      (track.resolve "TrackNumber" { options with magic := true }).isPresent = true) ∧
    (¬ Text.IsVariantOf "Artist" "tracknumber" ∧ ¬ Text.IsVariantOf "Artist" "track artist" ∧
      track.resolve "Artist" { options with magic := false } = .found "Ride" ∧
      track.resolve "Artist" { options with magic := true } =
        track.resolve "Artist" { options with magic := false }) ∧
    Text.IsVariantOf "aRTIST" "Artist" ∧
      track.resolve "aRTIST" { options with magic := true } =
        track.resolve "Artist" { options with magic := true } := by
  intro track options
  have number : track.resolve "TrackNumber" { options with magic := false } = .found "3/12" := by
    cbv
  have padded : track.resolve "TrackNumber" { options with magic := true } = .found "03" := by
    cbv
  have artist : track.resolve "Artist" { options with magic := false } = .found "Ride" := by
    cbv
  have numberPresent :
      (track.resolve "TrackNumber" { options with magic := false }).isPresent = true := by
    rw [number]
    rfl
  have artistPresent :
      (track.resolve "Artist" { options with magic := false }).isPresent = true := by
    rw [artist]
    rfl
  have notNumber : ¬ Text.IsVariantOf "Artist" "tracknumber" := by
    decide
  have notArtist : ¬ Text.IsVariantOf "Artist" "track artist" := by
    decide
  have isVariant : Text.IsVariantOf "aRTIST" "Artist" := by
    decide
  have ascii : ∀ c ∈ "Artist".toList, c.toNat < 128 := by
    simp
  obtain ⟨shows, -⟩ := fallbacks_hide_nothing track "TrackNumber" options
  obtain ⟨-, anyCase⟩ := fallbacks_hide_nothing track "Artist" options
  obtain ⟨same, variants⟩ := anyCase rfl ascii
  exact ⟨⟨number, padded, shows numberPresent⟩,
    ⟨notNumber, notArtist, artist, same notNumber notArtist artistPresent⟩,
    isVariant, variants "aRTIST" true isVariant⟩

end Track

end TitleFormatting
