import TitleFormatting.Json.Document

/-!
# The order of members

Every object in a document that was read has its members in ascending order of their
names, each name once, however they are written.  The reader sees to it when it
puts a value into an open object, so this holds of whatever it keeps on its stack.
-/

namespace List

theorem mem_of_lookup_eq_some {α β : Type} [BEq α] [LawfulBEq α] {key : α} {value : β}
    {entries : List (α × β)} (found : entries.lookup key = some value) :
    (key, value) ∈ entries := by
  obtain ⟨before, after, rfl, -⟩ := lookup_eq_some_iff.mp found
  exact mem_append_right before mem_cons_self

/-- What every step preserves, a run preserves. -/
theorem preserved_by_run {α β : Type} {step : β → α → Option β} {invariant : β → Prop}
    {items : List α} {start finish : β}
    (preserved : ∀ item ∈ items, ∀ state next, invariant state →
      step state item = some next → invariant next)
    (initially : invariant start) (run : items.foldlM step start = some finish) :
    invariant finish := by
  induction items generalizing start with
  | nil =>
      exact Option.some.inj run ▸ initially
  | cons item rest inductionHypothesis =>
      rw [foldlM_cons] at run
      obtain ⟨next, stepped, run⟩ := Option.bind_eq_some_iff.mp run
      rw [forall_mem_cons] at preserved
      exact inductionHypothesis preserved.2 (preserved.1 start next initially stepped) run

end List

namespace TitleFormatting

namespace JsonMember

/-- The names of the members ascend. -/
def Ascending (members : List JsonMember) : Prop :=
  members.Pairwise fun first second => first.name < second.name

theorem mem_insert {member other : JsonMember} {members : List JsonMember}
    (inside : other ∈ insert member members) : other = member ∨ other ∈ members := by
  induction members with
  | nil =>
      exact .inl (List.mem_singleton.mp inside)
  | cons head rest inductionHypothesis =>
      rw [insert] at inside
      split at inside
      · exact (List.mem_cons.mp inside).imp_right (List.mem_cons_of_mem head)
      · split at inside
        · exact List.mem_cons.mp inside
        · rcases List.mem_cons.mp inside with rfl | later
          · exact .inr List.mem_cons_self
          · exact (inductionHypothesis later).imp_right (List.mem_cons_of_mem head)

theorem Ascending.insert {member : JsonMember} {members : List JsonMember}
    (ascending : Ascending members) : Ascending (insert member members) := by
  induction members with
  | nil =>
      exact List.pairwise_singleton _ member
  | cons head rest inductionHypothesis =>
      obtain ⟨above, restAscending⟩ := List.pairwise_cons.mp ascending
      rw [JsonMember.insert]
      by_cases same : member.name = head.name
      · rw [if_pos same]
        exact List.pairwise_cons.mpr ⟨fun other inside => same ▸ above other inside,
          restAscending⟩
      · rw [if_neg same]
        by_cases before : member.name < head.name
        · rw [if_pos before]
          refine List.pairwise_cons.mpr ⟨fun other inside => ?_, ascending⟩
          rcases List.mem_cons.mp inside with rfl | later
          · exact before
          · exact String.lt_trans before (above other later)
        · rw [if_neg before]
          have behind : head.name < member.name :=
            Std.lt_of_le_of_ne (String.not_lt.mp before) (Ne.symm same)
          refine List.pairwise_cons.mpr
            ⟨fun other inside => ?_, inductionHypothesis restAscending⟩
          rcases mem_insert inside with rfl | later
          · exact behind
          · exact above other later

end JsonMember

namespace JsonValue

/-- In every object within the value the names of the members ascend. -/
inductive Ordered : JsonValue → Prop
  | null : Ordered .null
  | bool (flag : Bool) : Ordered (.bool flag)
  | number (number : JsonNumber) : Ordered (.number number)
  | string (text : String) : Ordered (.string text)
  | array {items : List JsonValue} : (∀ item ∈ items, Ordered item) → Ordered (.array items)
  | object {members : List JsonMember} : (∀ member ∈ members, Ordered member.value) →
      JsonMember.Ascending members → Ordered (.object members)

end JsonValue

/-! ## Tokens -/

namespace JsonToken

/-- A value that makes a token by itself has its members in order. -/
def Ordered (token : JsonToken) : Prop := ∀ value, token = .scalar value → value.Ordered

theorem ordered_scalar {value : JsonValue} (ordered : value.Ordered) :
    (scalar value).Ordered := by
  intro other equality
  rwa [← scalar.inj equality]

theorem ordered_of_mem_punctuation :
    ∀ entry ∈ punctuation, entry.2.Ordered := by
  simp [punctuation, Ordered]

theorem ordered_of_word?_eq_some {letters : List Char} {value : JsonValue}
    (named : word? letters = some value) : value.Ordered := by
  have member := List.mem_of_lookup_eq_some named
  simp only [List.mem_cons, Prod.mk.injEq, List.not_mem_nil, or_false] at member
  rcases member with ⟨-, rfl⟩ | ⟨-, rfl⟩ | ⟨-, rfl⟩
  · exact .null
  · exact .bool true
  · exact .bool false

namespace Reader

/-- Every token that was read is in order. -/
def Ordered (reader : Reader) : Prop := ∀ token ∈ reader.tokens, token.Ordered

variable {reader after : Reader} {tokens : List JsonToken} {c : Char}

theorem Ordered.ended? (ordered : reader.Ordered) (ended : reader.ended? = some tokens) :
    ∀ token ∈ tokens, token.Ordered := by
  unfold Reader.ended? at ended
  split at ended
  · obtain rfl := Option.some.inj ended
    exact ordered
  · obtain ⟨value, named, rfl⟩ := Option.map_eq_some_iff.mp ended
    exact List.forall_mem_cons.mpr
      ⟨ordered_scalar (ordered_of_word?_eq_some named), ordered⟩
  · obtain ⟨number, -, rfl⟩ := Option.map_eq_some_iff.mp ended
    exact List.forall_mem_cons.mpr ⟨ordered_scalar (.number number), ordered⟩
  · contradiction

theorem ordered_of_begin?_eq_some (ordered : ∀ token ∈ tokens, token.Ordered)
    (begun : begin? tokens c = some after) : after.Ordered := by
  unfold begin? at begun
  split at begun
  · obtain rfl := Option.some.inj begun
    exact ordered
  · split at begun
    · obtain rfl := Option.some.inj begun
      exact ordered
    · split at begun
      · obtain rfl := Option.some.inj begun
        exact ordered
      · split at begun
        · obtain rfl := Option.some.inj begun
          exact ordered
        · obtain ⟨token, found, rfl⟩ := Option.map_eq_some_iff.mp begun
          have single := ordered_of_mem_punctuation _ (List.mem_of_lookup_eq_some found)
          exact List.forall_mem_cons.mpr ⟨single, ordered⟩

theorem Ordered.endThenBegin (ordered : reader.Ordered)
    (stepped : reader.ended?.bind (begin? · c) = some after) : after.Ordered := by
  obtain ⟨tokens, ended, begun⟩ := Option.bind_eq_some_iff.mp stepped
  exact ordered_of_begin?_eq_some (ordered.ended? ended) begun

/-- A reader in another mode has read the same tokens. -/
theorem Ordered.withMode (ordered : reader.Ordered) (mode : Mode) :
    Ordered { reader with mode } :=
  ordered

theorem Ordered.step? (ordered : reader.Ordered) (stepped : reader.step? c = some after) :
    after.Ordered := by
  unfold Reader.step? at stepped
  split at stepped
  case h_1 =>
    exact ordered_of_begin?_eq_some ordered stepped
  case h_2 | h_3 =>
    split at stepped
    · obtain rfl := Option.some.inj stepped
      exact ordered.withMode _
    · exact ordered.endThenBegin stepped
  case h_4 read mode =>
    split at stepped
    · obtain rfl := Option.some.inj stepped
      exact List.forall_mem_cons.mpr ⟨nofun, ordered⟩
    · split at stepped
      · obtain rfl := Option.some.inj stepped
        exact ordered.withMode _
      · split at stepped
        · contradiction
        · obtain rfl := Option.some.inj stepped
          exact ordered.withMode _
  case h_5 read mode =>
    split at stepped
    · obtain rfl := Option.some.inj stepped
      exact ordered.withMode _
    · obtain ⟨meant, -, rfl⟩ := Option.map_eq_some_iff.mp stepped
      exact ordered.withMode _
  case h_6 =>
    obtain ⟨digit, -, stepped⟩ := Option.bind_eq_some_iff.mp stepped
    dsimp only at stepped
    split at stepped
    · obtain ⟨mode, -, stepped⟩ := Option.bind_eq_some_iff.mp stepped
      obtain rfl := Option.some.inj stepped
      exact ordered.withMode mode
    · obtain rfl := Option.some.inj stepped
      exact ordered.withMode _
  case h_7 | h_8 =>
    split at stepped
    · obtain rfl := Option.some.inj stepped
      exact ordered.withMode _
    · contradiction

end Reader

theorem ordered_of_scan?_eq_some {source : List Char} {tokens : List JsonToken}
    (scanned : scan? source = some tokens) : ∀ token ∈ tokens, token.Ordered := by
  obtain ⟨reader, run, scanned⟩ := Option.bind_eq_some_iff.mp scanned
  obtain ⟨read, ended, scanned⟩ := Option.bind_eq_some_iff.mp scanned
  obtain rfl := Option.some.inj scanned
  have initially : Reader.Ordered ⟨.between, []⟩ := List.forall_mem_nil _
  have ordered : reader.Ordered :=
    List.preserved_by_run (fun _ _ _ _ => Reader.Ordered.step?) initially run
  intro token inside
  exact ordered.ended? ended token (List.mem_reverse.mp inside)

end JsonToken

/-! ## Documents -/

namespace JsonValue

/-- What was read into an open array or object is in order. -/
def Container.Ordered : Container → Prop
  | array items => ∀ item ∈ items, item.Ordered
  | object members | naming _ members =>
      (∀ member ∈ members, member.value.Ordered) ∧ JsonMember.Ascending members

theorem Container.ordered_array_nil : (Container.array []).Ordered :=
  List.forall_mem_nil _

theorem Container.ordered_object_nil : (Container.object []).Ordered :=
  ⟨List.forall_mem_nil _, .nil⟩

namespace Progress

/-- Whatever was read so far is in order. -/
structure Ordered (progress : Progress) : Prop where
  containers : ∀ container ∈ progress.containers, container.Ordered
  document : ∀ value, progress.document? = some value → value.Ordered

theorem ordered_of_containers {due : Due} {containers : List Container}
    (ordered : ∀ container ∈ containers, container.Ordered)
    (incomplete : document? ⟨due, containers⟩ = none) : Ordered ⟨due, containers⟩ where
  containers := ordered
  document value complete := by
    rw [incomplete] at complete
    contradiction

theorem ordered_start : start.Ordered :=
  ordered_of_containers (List.forall_mem_nil _) rfl

variable {progress after : Progress} {value : JsonValue} {containers : List Container}

theorem ordered_of_deliver?_eq_some (valueOrdered : value.Ordered)
    (ordered : ∀ container ∈ containers, container.Ordered)
    (delivered : deliver? value containers = some after) : after.Ordered := by
  unfold deliver? at delivered
  split at delivered
  · obtain rfl := Option.some.inj delivered
    refine ⟨List.forall_mem_nil _, fun document complete => ?_⟩
    exact Option.some.inj complete ▸ valueOrdered
  · obtain rfl := Option.some.inj delivered
    obtain ⟨itemsOrdered, restOrdered⟩ := List.forall_mem_cons.mp ordered
    refine ordered_of_containers (List.forall_mem_cons.mpr ⟨?_, restOrdered⟩) rfl
    exact List.forall_mem_cons.mpr ⟨valueOrdered, itemsOrdered⟩
  · obtain rfl := Option.some.inj delivered
    obtain ⟨⟨valuesOrdered, ascending⟩, restOrdered⟩ := List.forall_mem_cons.mp ordered
    refine ordered_of_containers (List.forall_mem_cons.mpr ⟨⟨?_, ?_⟩, restOrdered⟩) rfl
    · intro member inside
      rcases JsonMember.mem_insert inside with rfl | older
      · exact valueOrdered
      · exact valuesOrdered member older
    · exact ascending.insert
  · contradiction

theorem ordered_of_open?_eq_some {container : Container} {due : Due}
    (ordered : progress.Ordered) (empty : container.Ordered)
    (incomplete : ∀ containers, document? ⟨due, containers⟩ = none)
    (opened : progress.open? container due = some after) : after.Ordered := by
  unfold open? at opened
  split at opened
  · obtain rfl := Option.some.inj opened
    have kept := List.forall_mem_cons.mpr ⟨empty, ordered.containers⟩
    exact ordered_of_containers kept (incomplete _)
  · contradiction

theorem Ordered.step? {token : JsonToken} (ordered : progress.Ordered)
    (plain : token.Ordered) (stepped : progress.step? token = some after) :
    after.Ordered := by
  have kept := ordered.containers
  unfold Progress.step? at stepped
  split at stepped
  all_goals try rw [‹progress.containers = _›, List.forall_mem_cons] at kept
  case h_1 =>
    exact ordered_of_open?_eq_some ordered Container.ordered_array_nil (fun _ => rfl) stepped
  case h_2 =>
    exact ordered_of_open?_eq_some ordered Container.ordered_object_nil (fun _ => rfl) stepped
  case h_3 =>
    exact ordered_of_deliver?_eq_some (.string _) kept stepped
  case h_4 =>
    exact ordered_of_deliver?_eq_some (plain _ rfl) kept stepped
  case h_5 =>
    exact ordered_of_deliver?_eq_some (.array (List.forall_mem_nil _)) kept.2 stepped
  case h_6 | h_9 | h_10 =>
    obtain rfl := Option.some.inj stepped
    exact ordered_of_containers (List.forall_mem_cons.mpr kept) rfl
  case h_7 =>
    exact ordered_of_deliver?_eq_some (.object (List.forall_mem_nil _) .nil) kept.2 stepped
  case h_8 =>
    obtain rfl := Option.some.inj stepped
    exact ordered_of_containers kept rfl
  case h_11 =>
    have items := fun item inside => kept.1 item (List.mem_reverse.mp inside)
    exact ordered_of_deliver?_eq_some (.array items) kept.2 stepped
  case h_12 =>
    exact ordered_of_deliver?_eq_some (.object kept.1.1 kept.1.2) kept.2 stepped
  case h_13 =>
    contradiction

end Progress

/-- A document that was read is in order. -/
theorem ordered_of_parse?_eq_some {source : String} {document : JsonValue}
    (read : parse? source = some document) : document.Ordered := by
  obtain ⟨tokens, scanned, read⟩ := Option.bind_eq_some_iff.mp read
  obtain ⟨progress, run, complete⟩ := Option.bind_eq_some_iff.mp read
  have plain := JsonToken.ordered_of_scan?_eq_some scanned
  have ordered : progress.Ordered :=
    List.preserved_by_run (fun token inside _ _ kept => kept.step? (plain token inside))
      Progress.ordered_start run
  exact ordered.document document complete

end JsonValue

end TitleFormatting
