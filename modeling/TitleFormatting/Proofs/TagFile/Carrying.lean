import TitleFormatting.CommandLine.Eval
import TitleFormatting.Proofs.Except
import TitleFormatting.Proofs.Json.Members
import TitleFormatting.Proofs.Track.Fields

/-!
# Fields that carry over

A tag file is read from its first track to its last with one set of fields, and a
track gets what is in the set when its object ends.  The value of a field on a track
is therefore decided by the last member, in the objects up to that track, whose name
stands for the field.  Fields of the command line come after all of these.
-/

namespace List

theorem isSome_mapM {α β : Type} (f : α → Option β) (items : List α) :
    (items.mapM f).isSome = items.all fun item => (f item).isSome := by
  induction items with
  | nil =>
      rfl
  | cons item rest inductionHypothesis =>
      rw [mapM_cons, all_cons, ← inductionHypothesis]
      cases f item with
      | none =>
          rfl
      | some produced =>
          cases rest.mapM f <;> rfl

theorem mapM_eq_some_map {α β : Type} {f : α → Option β} {g : α → β} {items : List α}
    (each : ∀ item ∈ items, f item = some (g item)) : items.mapM f = some (items.map g) := by
  induction items with
  | nil =>
      rfl
  | cons item rest inductionHypothesis =>
      obtain ⟨first, others⟩ := forall_mem_cons.mp each
      rw [mapM_cons, first, inductionHypothesis others]
      rfl

end List

namespace TitleFormatting

/-! ## Supported values -/

namespace JsonValue

/-- A text, a number or a truth value. -/
def isScalar : JsonValue → Bool
  | .string _ | .number _ | .bool _ => true
  | .null | .array _ | .object _ => false

/-- A value that a member of a track's object may have. -/
def isSupported : JsonValue → Bool
  | .null => true
  | .array items => items.all isScalar
  | value => value.isScalar

/-- The text that a scalar stands for. -/
def scalarText : JsonValue → String
  | .string text => text
  | .number (.integer value) => toString value
  | .number float => float.text
  | .bool true => "true"
  | .bool false => "false"
  | .null | .array _ | .object _ => ""

/-- What a supported value does to a field.  Null and an empty array erase the field, a
scalar sets it to its text, and the texts of an array are joined by commas and blanks. -/
def change : JsonValue → FieldChange
  | .null | .array [] => .erase
  | .array items => .set (", ".intercalate (items.map scalarText))
  | scalar => .set scalar.scalarText

def members : JsonValue → List JsonMember
  | .object members => members
  | _ => []

/-- An object whose values are all supported. -/
def describesTrack : JsonValue → Bool
  | .object members => members.all (·.value.isSupported)
  | _ => false

theorem Ordered.ascending_members {value : JsonValue} (ordered : value.Ordered) :
    JsonMember.Ascending value.members := by
  cases ordered with
  | object _ ascending =>
      exact ascending
  | null | bool | number | string | array =>
      exact .nil

end JsonValue

theorem JsonNumber.text_integer (value : Int) : (integer value).text = toString value := by
  cases value with
  | ofNat n =>
      have unsigned : ¬ (n : Int) < 0 := Int.not_lt.mpr (Int.natCast_nonneg n)
      simp [text, Number.decimal, unsigned, toString, Int.repr, Nat.repr]
  | negSucc n =>
      simp [text, Number.decimal, toString, Int.repr, Nat.repr, Int.negSucc_lt_zero]

namespace FieldChange

theorem isSome_plainText? (value : JsonValue) :
    (plainText? value).isSome = value.isScalar := by
  cases value <;> rfl

/-- The supported values are those that stand for a change. -/
theorem isSome_ofValue? (value : JsonValue) :
    (ofValue? value).isSome = value.isSupported := by
  cases value with
  | null | bool flag | number number | string text | object members =>
      rfl
  | array items =>
      cases items with
      | nil =>
          rfl
      | cons item rest =>
          rw [ofValue?, Option.isSome_map, List.isSome_mapM, JsonValue.isSupported]
          · simp only [isSome_plainText?]
          · simp

theorem plainText?_eq (value : JsonValue) (scalar : value.isScalar = true) :
    plainText? value = some value.scalarText := by
  cases value with
  | string text =>
      rfl
  | number number =>
      cases number with
      | integer value =>
          exact congrArg some (JsonNumber.text_integer value)
      | float negative magnitude =>
          rfl
  | bool flag =>
      cases flag <;> rfl
  | null | array items | object members =>
      contradiction

theorem ofValue?_eq {value : JsonValue} (supported : value.isSupported = true) :
    ofValue? value = some value.change := by
  cases value with
  | null =>
      rfl
  | string text =>
      rfl
  | number number =>
      exact congrArg (Option.map set) (plainText?_eq (.number number) rfl)
  | bool flag =>
      exact congrArg (Option.map set) (plainText?_eq (.bool flag) rfl)
  | object members =>
      contradiction
  | array items =>
      cases items with
      | nil =>
          rfl
      | cons item rest =>
          have each : ∀ scalar ∈ item :: rest, plainText? scalar = some scalar.scalarText :=
            fun scalar member => plainText?_eq scalar (List.all_eq_true.mp supported scalar member)
          rw [ofValue?, List.mapM_eq_some_map each]
          · rfl
          · simp

end FieldChange

namespace TagFile

/-! ## Updates by members -/

/-- The update that a member with a supported value stands for. -/
def updateOf (caseSensitive : Bool) (member : JsonMember) : FieldUpdate :=
  ⟨fieldKey member.name caseSensitive, member.value.change⟩

/-- The updates of fields by the members of objects, object by object. -/
def updates (caseSensitive : Bool) (entries : List JsonValue) : List FieldUpdate :=
  entries.flatMap fun entry => entry.members.map (updateOf caseSensitive)

variable (caseSensitive : Bool)

theorem applyMember_eq {member : JsonMember} (supported : member.value.isSupported = true)
    (track : Nat) (fields : Fields) :
    applyMember caseSensitive track fields member =
      .ok (fields.updated (updateOf caseSensitive member)) := by
  rw [applyMember, FieldChange.ofValue?_eq supported]
  rfl

theorem foldlM_applyMember_eq {members : List JsonMember}
    (supported : ∀ member ∈ members, member.value.isSupported = true)
    (track : Nat) (fields : Fields) :
    members.foldlM (applyMember caseSensitive track) fields =
      .ok ((members.map (updateOf caseSensitive)).foldl Fields.updated fields) := by
  induction members generalizing fields with
  | nil =>
      rfl
  | cons member rest inductionHypothesis =>
      rw [List.forall_mem_cons] at supported
      rw [List.foldlM_cons, applyMember_eq caseSensitive supported.1, List.map_cons,
        List.foldl_cons]
      exact inductionHypothesis supported.2 (fields.updated (updateOf caseSensitive member))

/-- The object of a track carries out its own updates. -/
theorem applyEntry_eq {entry : JsonValue} (supported : entry.describesTrack = true)
    (track : Nat) (fields : Fields) :
    applyEntry caseSensitive track fields entry =
      .ok ((updates caseSensitive [entry]).foldl Fields.updated fields) := by
  cases entry with
  | object members =>
      have valued := List.all_eq_true.mp supported
      rw [applyEntry, foldlM_applyMember_eq caseSensitive valued, updates, List.flatMap_singleton]
      rfl
  | null | bool flag | number number | string text | array items =>
      contradiction

/-! ## Sets of fields -/

/-- The fields of tracks whose objects are these, when the track before them has the
given fields. -/
def fieldSets (caseSensitive : Bool) (fields : Fields) : List JsonValue → List Fields
  | [] => []
  | entry :: rest =>
      let carried := (updates caseSensitive [entry]).foldl Fields.updated fields
      carried :: fieldSets caseSensitive carried rest

theorem tracksFrom_eq {entries : List JsonValue}
    (supported : ∀ entry ∈ entries, entry.describesTrack = true)
    (track : Nat) (fields : Fields) :
    tracksFrom caseSensitive track fields entries =
      .ok (fieldSets caseSensitive fields entries) := by
  induction entries generalizing track fields with
  | nil =>
      rfl
  | cons entry rest inductionHypothesis =>
      rw [List.forall_mem_cons] at supported
      have later := inductionHypothesis supported.2 (track + 1)
        ((updates caseSensitive [entry]).foldl Fields.updated fields)
      rw [tracksFrom, applyEntry_eq caseSensitive supported.1]
      change (tracksFrom caseSensitive (track + 1) _ rest >>= _) = _
      rw [later]
      rfl

theorem length_fieldSets (fields : Fields) (entries : List JsonValue) :
    (fieldSets caseSensitive fields entries).length = entries.length := by
  induction entries generalizing fields with
  | nil =>
      rfl
  | cons entry rest inductionHypothesis =>
      exact congrArg Nat.succ (inductionHypothesis _)

/-- The fields of the first tracks do not depend on those that follow. -/
theorem fieldSets_take (fields : Fields) (entries : List JsonValue) (count : Nat) :
    fieldSets caseSensitive fields (entries.take count) =
      (fieldSets caseSensitive fields entries).take count := by
  induction entries generalizing fields count with
  | nil =>
      rw [List.take_nil, fieldSets, List.take_nil]
  | cons entry rest inductionHypothesis =>
      cases count with
      | zero =>
          rfl
      | succ count =>
          rw [List.take_succ_cons, fieldSets, fieldSets, List.take_succ_cons,
            inductionHypothesis]

theorem updates_cons (entry : JsonValue) (entries : List JsonValue) :
    updates caseSensitive (entry :: entries) =
      updates caseSensitive [entry] ++ updates caseSensitive entries := by
  rw [updates, updates, updates, List.flatMap_cons, List.flatMap_singleton]

/-- A track has what all updates up to its own have made of the fields. -/
theorem getElem?_fieldSets {fields : Fields} {entries : List JsonValue} {index : Nat}
    (within : index < entries.length) :
    (fieldSets caseSensitive fields entries)[index]? =
      some ((updates caseSensitive (entries.take (index + 1))).foldl
        Fields.updated fields) := by
  induction entries generalizing fields index with
  | nil =>
      exact absurd within (Nat.not_lt_zero index)
  | cons entry rest inductionHypothesis =>
      rw [fieldSets, List.take_succ_cons, updates_cons caseSensitive entry (rest.take index),
        List.foldl_append]
      cases index with
      | zero =>
          rfl
      | succ index =>
          exact inductionHypothesis (Nat.lt_of_succ_lt_succ within)

end TagFile

/-! ## Fields of the command line -/

namespace CommandLine

/-- The value of the last pair whose name stands for the field. -/
def lastValue? (caseSensitive : Bool) (key : String) (pairs : List (String × String)) :
    Option String :=
  (pairs.reverse.find? (fieldKey ·.1 caseSensitive = key)).map Prod.snd

/-- The update that a pair stands for. -/
def updateOf (caseSensitive : Bool) (pair : String × String) : FieldUpdate :=
  ⟨fieldKey pair.1 caseSensitive, .set pair.2⟩

theorem withFields_eq (caseSensitive : Bool) (pairs : List (String × String))
    (fields : Fields) :
    withFields caseSensitive pairs fields =
      (pairs.map (updateOf caseSensitive)).foldl Fields.updated fields := by
  rw [List.foldl_map]
  rfl

theorem lastChange?_map_updateOf (caseSensitive : Bool) (key : String)
    (pairs : List (String × String)) :
    lastChange? key (pairs.map (updateOf caseSensitive)) =
      (lastValue? caseSensitive key pairs).map .set := by
  rw [lastChange?, lastValue?, ← List.map_reverse, List.find?_map, Option.map_map,
    Option.map_map]
  rfl

/-- The fields of a track with those of the command line put over them. -/
theorem get?_withFields {fields : Fields} (distinct : fields.Distinct)
    (caseSensitive : Bool) (pairs : List (String × String)) (key : String) :
    (withFields caseSensitive pairs fields).get? key =
      (lastValue? caseSensitive key pairs).or (fields.get? key) := by
  rw [withFields_eq, Fields.get?_foldl_updated distinct, lastChange?_map_updateOf]
  cases lastValue? caseSensitive key pairs <;> rfl

end CommandLine

/-! ## Evaluations on a track of a file -/

/-- Without fallback rules a name yields the field that is kept under its key. -/
theorem Track.resolve_ofFields {options : Options} (plain : options.magic = false)
    (fields : Fields) (name : String) :
    (Track.ofFields fields).resolve name options =
      match fields.get? (fieldKey name options.caseSensitive) with
      | some value => .found value
      | none => .absent := by
  rw [resolve, plain]
  rfl

theorem CommandLine.EvalRequest.allFields_of_load {request : EvalRequest}
    {options : Options} {files : String → Option String} {file : String}
    {sets : List Fields} {fields : Fields} (named : request.tagFile = some file)
    (loaded : TagFile.load files options.caseSensitive file = .ok sets)
    (selected : selectTrack? request.track sets = some fields) :
    request.allFields options files =
      .ok (withFields options.caseSensitive request.fields fields) := by
  have filed : request.filedFields options files = .ok fields := by
    rw [filedFields, named]
    refine Except.bind_eq_ok_iff.mpr ⟨sets, congrArg (Except.mapError _) loaded, ?_⟩
    rw [selected]
    rfl
  rw [allFields, filed]
  rfl

theorem CommandLine.EvalRequest.allFields_eq {request : EvalRequest} {options : Options}
    {files : String → Option String} {file content : String} {sets : List Fields}
    {fields : Fields} (named : request.tagFile = some file)
    (stored : files file = some content)
    (read : TagFile.tracks options.caseSensitive content = .ok sets)
    (selected : selectTrack? request.track sets = some fields) :
    request.allFields options files =
      .ok (withFields options.caseSensitive request.fields fields) := by
  have loaded : TagFile.load files options.caseSensitive file = .ok sets := by
    rw [TagFile.load, stored]
    exact congrArg (Except.mapError _) read
  exact allFields_of_load named loaded selected

theorem CommandLine.selectTrack?_fieldSets (caseSensitive : Bool) {entries : List JsonValue}
    {number : Nat} (positive : 1 ≤ number) (within : number ≤ entries.length) :
    selectTrack? number (TagFile.fieldSets caseSensitive .empty entries) =
      some ((TagFile.updates caseSensitive (entries.take number)).foldl
        Fields.updated .empty) := by
  obtain ⟨index, rfl⟩ := Nat.exists_eq_add_of_le' positive
  rw [selectTrack?, if_neg (Nat.succ_ne_zero index), Nat.add_sub_cancel]
  exact TagFile.getElem?_fieldSets caseSensitive within

/-- On a file whose tracks have supported values only, `%name%` yields what the command
line sets the field to last; failing that, what is made of it by the last member, up to
the track that is asked for, whose name stands for the field.  There is one set of
fields for each object, the first sets are those of the first objects by themselves,
and the members of an object come in ascending order. -/
theorem CommandLine.EvalRequest.resolve_allFields {content : String}
    {entries : List JsonValue} (caseSensitive : Bool)
    (document : JsonValue.parse? content = some (.array entries))
    (supported : ∀ entry ∈ entries, entry.describesTrack = true) :
    ∃ sets, TagFile.tracks caseSensitive content = .ok sets ∧
      sets.length = entries.length ∧
      (∀ count, TagFile.tracksOfValue caseSensitive (.array (entries.take count)) =
        .ok (sets.take count)) ∧
      (∀ entry ∈ entries, JsonMember.Ascending entry.members) ∧
      ∀ (request : EvalRequest) (options : Options) (files : String → Option String)
        (file : String),
        request.tagFile = some file → files file = some content →
        options.caseSensitive = caseSensitive → options.magic = false →
        1 ≤ request.track → request.track ≤ entries.length →
        ∃ fields, request.allFields options files = .ok fields ∧ ∀ name,
          (Track.ofFields fields).resolve name options =
            match lastValue? caseSensitive (fieldKey name caseSensitive) request.fields with
            | some value => .found value
            | none =>
                match lastChange? (fieldKey name caseSensitive)
                  (TagFile.updates caseSensitive (entries.take request.track)) with
                | some (.set text) => .found text
                | some .erase | none => .absent := by
  have read : TagFile.tracks caseSensitive content =
      .ok (TagFile.fieldSets caseSensitive .empty entries) := by
    rw [TagFile.tracks, document]
    exact TagFile.tracksFrom_eq caseSensitive supported 1 .empty
  refine ⟨_, read, TagFile.length_fieldSets caseSensitive .empty entries, ?_, ?_, ?_⟩
  · intro count
    have firstSupported : ∀ entry ∈ entries.take count, entry.describesTrack = true :=
      fun entry member => supported entry (List.mem_of_mem_take member)
    rw [TagFile.tracksOfValue, TagFile.tracksFrom_eq caseSensitive firstSupported,
      TagFile.fieldSets_take]
  · intro entry member
    cases JsonValue.ordered_of_parse?_eq_some document with
    | array ordered =>
        exact (ordered entry member).ascending_members
  · rintro request options files file named stored rfl plain positive within
    have selected := selectTrack?_fieldSets options.caseSensitive positive within
    refine ⟨_, allFields_eq named stored read selected, fun name => ?_⟩
    have distinct := Fields.distinct_empty.foldl_updated
      (TagFile.updates options.caseSensitive (entries.take request.track))
    rw [Track.resolve_ofFields plain, get?_withFields distinct,
      Fields.get?_foldl_updated Fields.distinct_empty]
    cases lastValue? options.caseSensitive (fieldKey name options.caseSensitive)
        request.fields with
    | some value =>
        rfl
    | none =>
        cases lastChange? (fieldKey name options.caseSensitive)
            (TagFile.updates options.caseSensitive (entries.take request.track)) with
        | none =>
            rfl
        | some change =>
            cases change <;> rfl

/-- In the first object `mood` comes after `Mood`, although it is written before. The
second object erases what both stand for as well as what `live` does. -/
def TagFile.sample : String :=
  "[\x7b\"mood\":\"calm\",\"Mood\":[\"low\",true,-7],\"year\":1999,\"live\":false\x7d," ++
    "\x7b\"MOOD\":null,\"live\":[]\x7d]"

def TagFile.sampleEntries : List JsonValue :=
  [.object [⟨"Mood", .array [.string "low", .bool true, .number (.integer (-7))]⟩,
      ⟨"live", .bool false⟩, ⟨"mood", .string "calm"⟩, ⟨"year", .natural 1999⟩],
    .object [⟨"MOOD", .null⟩, ⟨"live", .array []⟩]]

theorem TagFile.parse?_sample :
    JsonValue.parse? sample = some (.array sampleEntries) := by
  rfl

theorem TagFile.load_sample {caseSensitive : Bool} {sets : List Fields}
    (read : tracksOfValue caseSensitive (.array sampleEntries) = .ok sets) (file : String) :
    load (fun _ => some sample) caseSensitive file = .ok sets := by
  have whole : tracks caseSensitive sample = .ok sets := by
    rw [tracks, parse?_sample]
    exact read
  rw [load]
  dsimp only
  rw [whole]
  rfl

theorem CommandLine.EvalRequest.resolve_allFields_sample :
    let shown (caseSensitive : Bool) (track : Nat) (pairs : List (String × String))
        (name : String) : Except Failure Atom :=
      let options : Options := { caseSensitive, magic := false }
      (allFields ⟨"", pairs, some "tags.json", track, false⟩ options
        fun _ => some TagFile.sample).map fun fields =>
          (Track.ofFields fields).resolve name options
    shown true 1 [] "Mood" = .ok (.found "low, true, -7") ∧
      shown true 2 [] "year" = .ok (.found "1999") ∧
      shown false 1 [] "LIVE" = .ok (.found "false") ∧
      shown false 2 [] "LIVE" = .ok .absent ∧
      shown false 1 [] "mood" = .ok (.found "calm") ∧
      shown false 2 [] "mood" = .ok .absent ∧
      shown false 2 [("mood", "loud"), ("Mood", "soft")] "mood" = .ok (.found "soft") := by
  intro shown
  have resolved (caseSensitive : Bool) (track : Nat) (positive : 1 ≤ track) (within : track ≤ 2)
      (pairs : List (String × String)) (name : String) :
      shown caseSensitive track pairs name =
        .ok (match lastValue? caseSensitive (fieldKey name caseSensitive) pairs with
          | some value => .found value
          | none =>
              match lastChange? (fieldKey name caseSensitive)
                (TagFile.updates caseSensitive (TagFile.sampleEntries.take track)) with
              | some (.set text) => .found text
              | some .erase | none => .absent) := by
    obtain ⟨sets, -, -, -, -, each⟩ :=
      resolve_allFields caseSensitive TagFile.parse?_sample (by decide)
    obtain ⟨fields, all, value⟩ :=
      each ⟨"", pairs, some "tags.json", track, false⟩ { caseSensitive, magic := false }
        (fun _ => some TagFile.sample) "tags.json" rfl rfl rfl rfl positive within
    simp only [shown, all, Except.map, value]
  have first := resolved false 1 (by decide) (by decide)
  have second := resolved false 2 (by decide) (by decide)
  refine ⟨?_, ?_, (first _ _).trans ?_, (second _ _).trans ?_, (first _ _).trans ?_,
    (second _ _).trans ?_, (second _ _).trans ?_⟩
  · exact (resolved true 1 (by decide) (by decide) [] "Mood").trans (by rfl)
  · exact (resolved true 2 (by decide) (by decide) [] "year").trans (by rfl)
  · rfl
  · rfl
  · rfl
  · rfl
  · rfl

end TitleFormatting
