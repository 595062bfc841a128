import TitleFormatting.Proofs.TagFile.Carrying
import TitleFormatting.Proofs.Text.ByteOrder

/-!
# Where a tag file is refused

The fields are carried from member to member and from track to track, but whether a member
or an entry is refused does not depend on them.  A document is therefore refused at the
first entry that does not describe a track, and in its object at the first member in the
order of the names.  What comes before is accepted, and what comes after is not looked at.
-/

namespace TitleFormatting

/-! ## First faults of lists -/

/-- Some item is wrong at its place, and all items before it are valid. -/
def FirstWrong {α : Type} (valid : α → Prop) (wrong : Nat → α → Prop) (items : List α) : Prop :=
  ∃ before item after, items = before ++ item :: after ∧ (∀ earlier ∈ before, valid earlier) ∧
    wrong before.length item

section FirstWrong

variable {α : Type} {valid : α → Prop} {wrong : Nat → α → Prop} {first : α} {rest : List α}

theorem not_firstWrong_nil : ¬ FirstWrong valid wrong [] := by
  rintro ⟨before, item, after, equality, -⟩
  exact List.append_ne_nil_of_right_ne_nil before (List.cons_ne_nil item after) equality.symm

theorem firstWrong_cons_iff :
    FirstWrong valid wrong (first :: rest) ↔
      wrong 0 first ∨ valid first ∧ FirstWrong valid (fun place => wrong (place + 1)) rest := by
  constructor
  · rintro ⟨before, item, after, equality, accepted, refused⟩
    cases before with
    | nil =>
        obtain ⟨rfl, -⟩ := List.cons.inj equality
        exact .inl refused
    | cons head more =>
        obtain ⟨rfl, remaining⟩ := List.cons.inj equality
        obtain ⟨own, others⟩ := List.forall_mem_cons.mp accepted
        exact .inr ⟨own, more, item, after, remaining, others, refused⟩
  · rintro (refused | ⟨own, before, item, after, rfl, others, refused⟩)
    · exact ⟨[], first, rest, rfl, List.forall_mem_nil _, refused⟩
    · exact ⟨first :: before, item, after, rfl, List.forall_mem_cons.mpr ⟨own, others⟩, refused⟩

/-- If some item is not valid, one of them is the first. -/
theorem firstWrong_of_mem (valid : α → Prop) {items : List α} {item : α}
    (member : item ∈ items) (refused : ¬ valid item) :
    FirstWrong valid (fun _ item => ¬ valid item) items := by
  induction items with
  | nil =>
      contradiction
  | cons first rest inductionHypothesis =>
      rw [firstWrong_cons_iff]
      by_cases accepted : valid first
      · rcases List.mem_cons.mp member with rfl | later
        · contradiction
        · exact .inr ⟨accepted, inductionHypothesis later⟩
      · exact .inl accepted

/-- What stands behind an item that is not valid does not matter. -/
theorem firstWrong_append_cons_iff (valid : α → Prop) {before : List α} {item : α}
    (refused : ¬ valid item) (after later : List α) :
    FirstWrong valid wrong (before ++ item :: after) ↔
      FirstWrong valid wrong (before ++ item :: later) := by
  induction before generalizing wrong with
  | nil =>
      rw [List.nil_append, List.nil_append, firstWrong_cons_iff, firstWrong_cons_iff]
      simp [refused]
  | cons head rest inductionHypothesis =>
      rw [List.cons_append, List.cons_append, firstWrong_cons_iff, firstWrong_cons_iff,
        inductionHypothesis]

end FirstWrong

namespace TagFile

open Text

/-- What is wrong with an entry that stands for the track with this number. In an object
the first of the unsupported members is meant, by the bytes of the names. -/
inductive EntryFault (track : Nat) : JsonValue → TagFileFault → Prop
  | notAnObject {entry : JsonValue} : (∀ members, entry ≠ .object members) →
      EntryFault track entry (.notAnObject track)
  | unsupportedValue {members : List JsonMember} {member : JsonMember} : member ∈ members →
      member.value.isSupported = false →
      (∀ other ∈ members, utf8Bytes other.name < utf8Bytes member.name →
        other.value.isSupported = true) →
      EntryFault track (.object members) (.unsupportedValue track member.name)

variable {caseSensitive : Bool} {track : Nat} {fields : Fields} {fault : TagFileFault}

/-! ## Members -/

theorem applyMember_of_unsupported {member : JsonMember}
    (unsupported : member.value.isSupported = false) :
    applyMember caseSensitive track fields member =
      .error (.unsupportedValue track member.name) := by
  rw [← FieldChange.isSome_ofValue?, Option.isSome_eq_false_iff, Option.isNone_iff_eq_none]
    at unsupported
  rw [applyMember, unsupported]

/-- Members are refused at the first one whose value is not supported. -/
theorem foldlM_applyMember_eq_error_iff {members : List JsonMember} :
    members.foldlM (applyMember caseSensitive track) fields = .error fault ↔
      FirstWrong (fun member => member.value.isSupported = true)
        (fun _ member => member.value.isSupported = false ∧
          .unsupportedValue track member.name = fault) members := by
  induction members generalizing fields with
  | nil =>
      exact iff_of_false nofun not_firstWrong_nil
  | cons member rest inductionHypothesis =>
      rw [List.foldlM_cons, firstWrong_cons_iff]
      cases supported : member.value.isSupported with
      | false =>
          rw [applyMember_of_unsupported supported]
          simp [bind, Except.bind]
      | true =>
          rw [applyMember_eq caseSensitive supported]
          change rest.foldlM _ _ = _ ↔ _
          rw [inductionHypothesis]
          simp

/-- The member at which ascending members are refused is the first of those that are not
supported. -/
theorem entryFault_object_iff {members : List JsonMember}
    (ascending : JsonMember.Ascending members) :
    FirstWrong (fun member => member.value.isSupported = true)
        (fun _ member => member.value.isSupported = false ∧
          .unsupportedValue track member.name = fault) members ↔
      EntryFault track (.object members) fault := by
  constructor
  · rintro ⟨before, member, after, rfl, accepted, unsupported, rfl⟩
    refine .unsupportedValue (List.mem_append_right before List.mem_cons_self) unsupported ?_
    intro other inside earlier
    rw [utf8Bytes_lt_iff] at earlier
    rcases List.mem_append.mp inside with inFront | inRest
    · exact accepted other inFront
    · obtain ⟨-, behind, -⟩ := List.pairwise_append.mp ascending
      rcases List.mem_cons.mp inRest with rfl | later
      · exact absurd earlier (String.lt_irrefl _)
      · have order := (List.pairwise_cons.mp behind).1 other later
        exact absurd earlier (String.lt_asymm order)
  · intro wrong
    cases wrong with
    | notAnObject notObject =>
        exact absurd rfl (notObject members)
    | unsupportedValue inside unsupported accepted =>
        obtain ⟨before, after, rfl⟩ := List.append_of_mem inside
        obtain ⟨-, -, across⟩ := List.pairwise_append.mp ascending
        refine ⟨before, _, after, rfl, ?_, unsupported, rfl⟩
        intro other inFront
        have earlier := across other inFront _ List.mem_cons_self
        exact accepted other (List.mem_append_left _ inFront) (utf8Bytes_lt_iff.mpr earlier)

/-! ## Entries -/

theorem applyEntry_eq_error_iff {entry : JsonValue} (ordered : entry.Ordered) :
    applyEntry caseSensitive track fields entry = .error fault ↔
      EntryFault track entry fault := by
  cases entry with
  | object members =>
      exact foldlM_applyMember_eq_error_iff.trans
        (entryFault_object_iff ordered.ascending_members)
  | null | bool flag | number number | string text | array items =>
      constructor
      · intro refused
        rw [← Except.error.inj refused]
        exact .notAnObject nofun
      · rintro (_ | _)
        rfl

/-- An entry that does not describe a track is refused. -/
theorem exists_applyEntry_eq_error {entry : JsonValue} (refused : entry.describesTrack = false)
    (caseSensitive : Bool) (track : Nat) (fields : Fields) :
    ∃ fault, applyEntry caseSensitive track fields entry = .error fault := by
  cases entry with
  | object members =>
      rw [JsonValue.describesTrack, List.all_eq_false] at refused
      obtain ⟨member, inside, unsupported⟩ := refused
      obtain ⟨before, first, after, equality, accepted, firstUnsupported⟩ :=
        firstWrong_of_mem (fun member => member.value.isSupported = true) inside unsupported
      rw [Bool.not_eq_true] at firstUnsupported
      exact ⟨_, foldlM_applyMember_eq_error_iff.mpr
        ⟨before, first, after, equality, accepted, firstUnsupported, rfl⟩⟩
  | null | bool flag | number number | string text | array items =>
      exact ⟨_, rfl⟩

theorem tracksFrom_eq_error_iff {entries : List JsonValue}
    (ordered : ∀ entry ∈ entries, entry.Ordered) :
    tracksFrom caseSensitive track fields entries = .error fault ↔
      FirstWrong (fun entry => entry.describesTrack = true)
        (fun place entry => EntryFault (track + place) entry fault) entries := by
  induction entries generalizing track fields with
  | nil =>
      exact iff_of_false nofun not_firstWrong_nil
  | cons entry rest inductionHypothesis =>
      obtain ⟨own, others⟩ := List.forall_mem_cons.mp ordered
      have refusal : applyEntry caseSensitive track fields entry = .error fault ↔
          EntryFault track entry fault :=
        applyEntry_eq_error_iff own
      have places : (fun place entry => EntryFault (track + (place + 1)) entry fault) =
          fun place entry => EntryFault (track + 1 + place) entry fault := by
        funext place entry
        rw [Nat.add_right_comm]
        rfl
      rw [tracksFrom, firstWrong_cons_iff, places, Nat.add_zero track, ← refusal]
      cases described : entry.describesTrack with
      | false =>
          obtain ⟨other, refused⟩ :=
            exists_applyEntry_eq_error described caseSensitive track fields
          rw [refused]
          simp [bind, Except.bind]
      | true =>
          have later := @inductionHypothesis (track + 1)
            ((updates caseSensitive [entry]).foldl Fields.updated fields) others
          rw [applyEntry_eq caseSensitive described track fields, ← later]
          simp [Except.bind_eq_error_iff, pure, Except.pure]

/-! ## Documents -/

/-- What is wrong with the first of the entries that does not describe a track. -/
def FirstFault (entries : List JsonValue) (fault : TagFileFault) : Prop :=
  FirstWrong (fun entry => entry.describesTrack = true)
    (fun place entry => EntryFault (place + 1) entry fault) entries

theorem exists_firstFault {entries : List JsonValue}
    (ordered : ∀ entry ∈ entries, entry.Ordered) {entry : JsonValue} (member : entry ∈ entries)
    (refused : entry.describesTrack = false) : ∃ fault, FirstFault entries fault := by
  obtain ⟨before, first, after, rfl, accepted, firstBad⟩ :=
    firstWrong_of_mem (fun entry : JsonValue => entry.describesTrack = true) member
      (ne_true_of_eq_false refused)
  rw [Bool.not_eq_true] at firstBad
  obtain ⟨fault, failed⟩ :=
    exists_applyEntry_eq_error firstBad false (before.length + 1) .empty
  have own := ordered first (List.mem_append_right before List.mem_cons_self)
  exact ⟨fault, before, first, after, rfl, accepted, (applyEntry_eq_error_iff own).mp failed⟩

variable {content : String} {entries : List JsonValue}

theorem ordered_entries (document : JsonValue.parse? content = some (.array entries)) :
    ∀ entry ∈ entries, entry.Ordered := by
  cases JsonValue.ordered_of_parse?_eq_some document with
  | array ordered =>
      exact ordered

theorem tracks_eq (document : JsonValue.parse? content = some (.array entries)) :
    tracks caseSensitive content = tracksFrom caseSensitive 1 .empty entries := by
  rw [tracks, document]
  rfl

theorem tracks_eq_error_iff (document : JsonValue.parse? content = some (.array entries)) :
    tracks caseSensitive content = .error fault ↔ FirstFault entries fault := by
  have places : (fun place entry => EntryFault (place + 1) entry fault) =
      fun place entry => EntryFault (1 + place) entry fault := by
    funext place entry
    rw [Nat.add_comm]
  rw [tracks_eq document, tracksFrom_eq_error_iff (ordered_entries document), FirstFault, places]

/-- A document is accepted exactly if every entry is an object with supported values
only.  Otherwise it is refused for the first entry of another kind, whatever stands behind
that entry and however names are compared. -/
theorem refused_at_first_fault (caseSensitive : Bool)
    (document : JsonValue.parse? content = some (.array entries)) :
    ((∃ sets, tracks caseSensitive content = .ok sets) ↔
      ∀ entry ∈ entries, entry.describesTrack = true) ∧
    (∀ fault, tracks caseSensitive content = .error fault ↔ FirstFault entries fault) ∧
    ∀ before entry after, entries = before ++ entry :: after → entry.describesTrack = false →
      ∃ fault, tracks caseSensitive content = .error fault ∧
        ∀ (other : String) (later : List JsonValue) (otherSensitive : Bool),
          JsonValue.parse? other = some (.array (before ++ entry :: later)) →
            tracks otherSensitive other = .error fault := by
  have ordered := ordered_entries document
  refine ⟨⟨?accepted, ?described⟩, fun _ => tracks_eq_error_iff document, ?unseen⟩
  case accepted =>
    rintro ⟨sets, read⟩ entry member
    by_contra refused
    rw [Bool.not_eq_true] at refused
    obtain ⟨fault, firstFault⟩ := exists_firstFault ordered member refused
    rw [(tracks_eq_error_iff document).mpr firstFault] at read
    contradiction
  case described =>
    intro described
    exact ⟨_, (tracks_eq document).trans (tracksFrom_eq caseSensitive described 1 .empty)⟩
  case unseen =>
    rintro before entry after rfl refused
    have member : entry ∈ before ++ entry :: after :=
      List.mem_append_right before List.mem_cons_self
    obtain ⟨fault, firstFault⟩ := exists_firstFault ordered member refused
    refine ⟨fault, (tracks_eq_error_iff document).mpr firstFault, ?_⟩
    intro other later otherSensitive otherDocument
    apply (tracks_eq_error_iff otherDocument).mpr
    exact (firstWrong_append_cons_iff (fun entry : JsonValue => entry.describesTrack = true)
      (ne_true_of_eq_false refused) after later).mp firstFault

/-- The object has two members that are not supported.  The one that is written last
comes first by its name. -/
theorem refused_at_first_fault_sample :
    tracks true "[\x7b\"b\":\x7b\x7d,\"a\":true,\"B\":[null]\x7d,true]" =
        .error (.unsupportedValue 1 "B") ∧
      tracks false "[\x7b\"b\":\x7b\x7d,\"a\":true,\"B\":[null]\x7d]" =
        .error (.unsupportedValue 1 "B") := by
  have document :
      JsonValue.parse? "[\x7b\"b\":\x7b\x7d,\"a\":true,\"B\":[null]\x7d,true]" = some (.array
        ([] ++ .object [⟨"B", .array [.null]⟩, ⟨"a", .bool true⟩, ⟨"b", .object []⟩] ::
          [.bool true])) := by
    rfl
  have otherDocument :
      JsonValue.parse? "[\x7b\"b\":\x7b\x7d,\"a\":true,\"B\":[null]\x7d]" = some (.array
        ([] ++ .object [⟨"B", .array [.null]⟩, ⟨"a", .bool true⟩, ⟨"b", .object []⟩] :: [])) := by
    rfl
  obtain ⟨-, exactly, unseen⟩ := refused_at_first_fault true document
  have firstFault : FirstFault
      ([] ++ .object [⟨"B", .array [.null]⟩, ⟨"a", .bool true⟩, ⟨"b", .object []⟩] ::
        [.bool true]) (.unsupportedValue 1 "B") := by
    refine ⟨[], _, _, rfl, List.forall_mem_nil _, ?_⟩
    refine @EntryFault.unsupportedValue 1 _ ⟨"B", .array [.null]⟩ List.mem_cons_self rfl ?_
    simp only [utf8Bytes_lt_iff, String.lt_iff_toList_lt]
    decide
  have refused := (exactly _).mpr firstFault
  obtain ⟨fault, failed, same⟩ := unseen [] _ _ rfl rfl
  obtain rfl := Except.error.inj (refused.symm.trans failed)
  exact ⟨refused, same _ [] false otherDocument⟩

end TagFile

end TitleFormatting
