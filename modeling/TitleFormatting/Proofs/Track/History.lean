import Mathlib.Data.Set.Card
import TitleFormatting.Proofs.Evaluation.Reads
import TitleFormatting.Proofs.Track.Fields

/-!
# Fields after a history

Fields that were set and erased any number of times answer from their whole history: a
field has the value of its last setting unless it was erased after that, and the names
stand in the order in which the fields came into being.  A field that is set again keeps
its place, one that is erased and set again goes to the end.  What one update does is
described first, and a history is then gone through from its start to its end.
-/

namespace TitleFormatting

/-! ## Histories -/

/-- The update that sets a field. -/
def FieldUpdate.setting (pair : String × String) : FieldUpdate := ⟨pair.1, .set pair.2⟩

/-- The value that a history leaves a field with: that of the last setting, unless the
field is erased later. -/
def valueAfter? (history : List FieldUpdate) (name : String) : Option String :=
  (lastChange? name history).bind FieldChange.value?

/-- At this place of the history the field is set and does not exist yet. -/
def ArrivesAt (history : List FieldUpdate) (name : String) (place : Nat) : Prop :=
  (∃ value, history[place]? = some ⟨name, .set value⟩) ∧
    valueAfter? (history.take place) name = none

def LastArrivesAt (history : List FieldUpdate) (name : String) (place : Nat) : Prop :=
  ArrivesAt history name place ∧ ∀ other, ArrivesAt history name other → other ≤ place

/-- The first field came into being before the second one did. -/
def ArrivesBefore (history : List FieldUpdate) (first second : String) : Prop :=
  ∃ earlier later, LastArrivesAt history first earlier ∧
    LastArrivesAt history second later ∧ earlier < later

variable {history : List FieldUpdate} {update : FieldUpdate} {name : String} {place : Nat}

theorem valueAfter?_concat :
    valueAfter? (history ++ [update]) name =
      if name = update.key then update.change.value? else valueAfter? history name := by
  rw [valueAfter?, lastChange?, List.reverse_append, List.reverse_singleton,
    List.find?_append, List.find?_singleton]
  by_cases same : update.key = name
  · rw [if_pos (decide_eq_true same), if_pos same.symm]
    rfl
  · rw [if_neg (by simpa using same), if_neg (Ne.symm same)]
    rfl

theorem ArrivesAt.lt_length (arrives : ArrivesAt history name place) :
    place < history.length := by
  obtain ⟨⟨value, found⟩, -⟩ := arrives
  exact (List.getElem?_eq_some_iff.mp found).1

/-- An update adds at most its own arrival. -/
theorem arrivesAt_concat_iff :
    ArrivesAt (history ++ [update]) name place ↔
      ArrivesAt history name place ∨
        place = history.length ∧ (∃ value, update = ⟨name, .set value⟩) ∧
          valueAfter? history name = none := by
  rcases Nat.lt_trichotomy place history.length with earlier | rfl | beyond
  · have kept : (history ++ [update])[place]? = history[place]? :=
      List.getElem?_append_left earlier
    have before : (history ++ [update]).take place = history.take place :=
      List.take_append_of_le_length earlier.le
    rw [ArrivesAt, kept, before, or_iff_left fun last => earlier.ne last.1]
    rfl
  · have here : (history ++ [update])[history.length]? = some update :=
      List.getElem?_concat_length
    have before : (history ++ [update]).take history.length = history :=
      List.take_left
    rw [ArrivesAt, here, before, or_iff_right fun inside => (inside.lt_length).ne rfl]
    simp only [Option.some.injEq, true_and]
  · have outside : ¬ ArrivesAt (history ++ [update]) name place := by
      intro arrives
      have within := arrives.lt_length
      rw [List.length_append, List.length_singleton] at within
      omega
    refine iff_of_false outside ?_
    rintro (inside | ⟨rfl, -⟩)
    · exact absurd inside.lt_length beyond.not_gt
    · exact beyond.ne rfl

/-- An update by which the field does not come into being. -/
theorem lastArrivesAt_concat_iff
    (existing : ∀ value, update = ⟨name, .set value⟩ → valueAfter? history name ≠ none) :
    LastArrivesAt (history ++ [update]) name place ↔ LastArrivesAt history name place := by
  have same (place : Nat) :
      ArrivesAt (history ++ [update]) name place ↔ ArrivesAt history name place := by
    rw [arrivesAt_concat_iff, or_iff_left]
    rintro ⟨-, ⟨value, equality⟩, absent⟩
    exact existing value equality absent
  simp only [LastArrivesAt, same]

/-- A field that does not exist comes into being when it is set. -/
theorem lastArrivesAt_concat_setting (value : String)
    (absent : valueAfter? history name = none) :
    LastArrivesAt (history ++ [⟨name, .set value⟩]) name history.length := by
  refine ⟨arrivesAt_concat_iff.mpr (.inr ⟨rfl, ⟨value, rfl⟩, absent⟩), ?_⟩
  intro other arrives
  have within := arrives.lt_length
  rw [List.length_append, List.length_singleton] at within
  omega

namespace Fields

variable {fields : Fields}

theorem mem_names_iff : name ∈ fields.names ↔ (fields.get? name).isSome = true := by
  rw [get?, List.lookup_isSome_iff, names, List.mem_map]
  simp only [beq_iff_eq, @eq_comm _ name]

theorem names_insert (value : String) :
    (fields.insert name value).names =
      if name ∈ fields.names then fields.names else fields.names ++ [name] :=
  map_fst_insertEntry name value fields.entries

theorem remove_eq (fields : Fields) (name : String) :
    fields.remove name = (fields.get? name, fields.erase name) := by
  obtain ⟨entries⟩ := fields
  have value : entries.lookup name =
      (entries.findIdx? (·.1 = name)).bind fun index => entries[index]?.map Prod.snd := by
    induction entries with
    | nil =>
        rfl
    | cons entry rest inductionHypothesis =>
        obtain ⟨key, held⟩ := entry
        rw [lookup_cons, List.findIdx?_cons]
        by_cases here : key = name
        · rw [if_pos here.symm, if_pos (decide_eq_true here)]
          rfl
        · rw [if_neg (Ne.symm here), if_neg (by simpa using here), inductionHypothesis,
            Option.bind_map]
          rfl
  rw [remove, get?, erase, List.eraseP_eq_eraseIdx, value]
  cases entries.findIdx? (·.1 = name) <;> rfl

/-! ## Going through a history -/

/-- The fields are those that the history has led to. -/
structure Records (fields : Fields) (history : List FieldUpdate) : Prop where
  distinct : fields.Distinct
  get?_eq : ∀ name, fields.get? name = valueAfter? history name
  arrived : ∀ name ∈ fields.names, ∃ place, LastArrivesAt history name place
  inOrder : fields.names.Pairwise (ArrivesBefore history)

namespace Records

theorem mem_names_iff (records : fields.Records history) :
    name ∈ fields.names ↔ valueAfter? history name ≠ none := by
  rw [Fields.mem_names_iff, records.get?_eq, Option.isSome_iff_ne_none]

theorem empty : Fields.empty.Records [] where
  distinct := distinct_empty
  get?_eq _ := rfl
  arrived _ member := absurd member List.not_mem_nil
  inOrder := .nil

theorem get?_updated (records : fields.Records history) (update : FieldUpdate)
    (name : String) :
    (fields.updated update).get? name = valueAfter? (history ++ [update]) name := by
  rw [Fields.get?_updated records.distinct, records.get?_eq, valueAfter?_concat]

/-- No name of the fields comes into being by the update. -/
theorem arrivals_kept (records : fields.Records history) (update : FieldUpdate)
    {names : List String} (kept : names.Sublist fields.names) :
    (∀ name ∈ names, ∃ place < history.length,
        LastArrivesAt (history ++ [update]) name place) ∧
      names.Pairwise (ArrivesBefore (history ++ [update])) := by
  have same (name : String) (member : name ∈ names) (place : Nat) :
      LastArrivesAt (history ++ [update]) name place ↔ LastArrivesAt history name place :=
    lastArrivesAt_concat_iff fun _ _ => records.mem_names_iff.mp (kept.subset member)
  constructor
  · intro name member
    obtain ⟨place, arrives⟩ := records.arrived name (kept.subset member)
    exact ⟨place, arrives.1.lt_length, (same name member place).mpr arrives⟩
  · refine (records.inOrder.sublist kept).imp_of_mem ?_
    rintro first second firstMember secondMember ⟨earlier, later, before, behind, order⟩
    exact ⟨earlier, later, (same first firstMember earlier).mpr before,
      (same second secondMember later).mpr behind, order⟩

theorem updated_of_sublist (records : fields.Records history) (update : FieldUpdate)
    (kept : (fields.updated update).names.Sublist fields.names) :
    (fields.updated update).Records (history ++ [update]) := by
  obtain ⟨arrived, inOrder⟩ := records.arrivals_kept update kept
  refine ⟨records.distinct.updated update, records.get?_updated update, ?_, inOrder⟩
  intro name member
  obtain ⟨place, -, arrives⟩ := arrived name member
  exact ⟨place, arrives⟩

/-- A new field goes to the end. -/
theorem inserted (records : fields.Records history) (new : name ∉ fields.names)
    (value : String) : (fields.insert name value).Records (history ++ [⟨name, .set value⟩]) := by
  have absent : valueAfter? history name = none := by
    by_contra existing
    exact new (records.mem_names_iff.mpr existing)
  have last := lastArrivesAt_concat_setting value absent
  have listed := @names_insert name fields value
  rw [if_neg new] at listed
  obtain ⟨arrived, inOrder⟩ :=
    records.arrivals_kept ⟨name, .set value⟩ (List.Sublist.refl fields.names)
  refine ⟨records.distinct.updated ⟨name, .set value⟩,
    records.get?_updated ⟨name, .set value⟩, ?arrived, ?inOrder⟩
  case arrived =>
    rw [listed]
    intro other member
    rcases List.mem_append.mp member with older | own
    · obtain ⟨place, -, arrives⟩ := arrived other older
      exact ⟨place, arrives⟩
    · obtain rfl := List.mem_singleton.mp own
      exact ⟨history.length, last⟩
  case inOrder =>
    rw [listed]
    refine List.pairwise_append.mpr ⟨inOrder, List.pairwise_singleton _ name, ?_⟩
    intro older member own single
    obtain rfl := List.mem_singleton.mp single
    obtain ⟨place, before, arrives⟩ := arrived older member
    exact ⟨place, history.length, arrives, last, before⟩

theorem updated (records : fields.Records history) (update : FieldUpdate) :
    (fields.updated update).Records (history ++ [update]) := by
  obtain ⟨key, change⟩ := update
  cases change with
  | erase =>
      exact records.updated_of_sublist ⟨key, .erase⟩ (List.eraseP_sublist.map Prod.fst)
  | set value =>
      by_cases known : key ∈ fields.names
      · apply records.updated_of_sublist
        change (fields.insert key value).names.Sublist fields.names
        rw [fields.names_insert, if_pos known]
      · exact records.inserted known value

theorem foldl_updated (records : fields.Records history) (updates : List FieldUpdate) :
    (updates.foldl Fields.updated fields).Records (history ++ updates) := by
  induction updates generalizing fields history with
  | nil =>
      rw [List.append_nil]
      exact records
  | cons update rest inductionHypothesis =>
      rw [List.append_cons]
      exact inductionHypothesis (records.updated update)

theorem size_eq (records : fields.Records history) :
    fields.size = {name | valueAfter? history name ≠ none}.ncard := by
  have present : {name | valueAfter? history name ≠ none} =
      (fields.names.toFinset : Set String) := by
    ext name
    rw [Set.mem_ofPred_eq, List.coe_toFinset, Set.mem_ofPred_eq, records.mem_names_iff]
  rw [present, Set.ncard_coe_finset, List.toFinset_card_of_nodup records.distinct, names,
    List.length_map, size]

end Records

theorem ofList_eq (pairs : List (String × String)) :
    ofList pairs = (pairs.map FieldUpdate.setting).foldl updated empty := by
  rw [List.foldl_map]
  rfl

end Fields

/-! ## Other stores -/

/-- Stores that set names one after the other answer as fields do. -/
theorem Fields.get?_foldl_insert_eq {σ : Type} (read : σ → String → Option String)
    {insert : σ → String → String → σ} {insertMany : σ → List (String × String) → σ}
    (nil : ∀ store, insertMany store [] = store)
    (cons : ∀ store name value rest,
      insertMany store ((name, value) :: rest) = insertMany (insert store name value) rest)
    (setting : ∀ store name value key, read (insert store name value) key =
      if key = name then some value else read store key)
    (pairs : List (String × String)) {store : σ} {fields : Fields}
    (alike : ∀ key, read store key = fields.get? key) (key : String) :
    read (insertMany store pairs) key =
      (pairs.foldl (fun fields pair => fields.insert pair.1 pair.2) fields).get? key := by
  induction pairs generalizing store fields with
  | nil =>
      rw [nil, alike]
      rfl
  | cons pair rest inductionHypothesis =>
      rw [cons, List.foldl_cons]
      apply inductionHypothesis
      intro other
      rw [setting, alike, Fields.get?_insert]

namespace Track

theorem ofHashMap_ofList (pairs : List (String × String)) :
    ofHashMap (.ofList pairs) = ofFields (.ofList pairs) := by
  have alike (name : String) :
      (Std.HashMap.ofList pairs)[name]? = (Fields.ofList pairs).get? name := by
    rw [Std.HashMap.ofList_eq_insertMany_empty, Fields.ofList]
    refine Fields.get?_foldl_insert_eq (fun map name => map[name]?)
      (fun _ => Std.HashMap.insertMany_nil) (fun _ _ _ _ => Std.HashMap.insertMany_cons)
      ?_ pairs ?_ name
    · intro map name value key
      simp only [Std.HashMap.getElem?_insert, beq_iff_eq, @eq_comm _ key]
    · intro key
      exact Std.HashMap.getElem?_empty
  have contained (name : String) :
      (Std.HashMap.ofList pairs).contains name = (Fields.ofList pairs).contains name := by
    rw [Std.HashMap.contains_eq_isSome_getElem?, alike]
    rfl
  rw [ofHashMap, ofFields, funext alike, funext contained]

theorem ofTreeMap_ofList (pairs : List (String × String)) :
    ofTreeMap (.ofList pairs) = ofFields (.ofList pairs) := by
  have alike (name : String) :
      (Std.TreeMap.ofList pairs)[name]? = (Fields.ofList pairs).get? name := by
    rw [Std.TreeMap.ofList_eq_insertMany_empty, Fields.ofList]
    refine Fields.get?_foldl_insert_eq (fun map name => map[name]?)
      (fun _ => Std.TreeMap.insertMany_nil) (fun _ _ _ _ => Std.TreeMap.insertMany_cons)
      ?_ pairs ?_ name
    · intro map name value key
      simp only [Std.TreeMap.getElem?_insert, compare_eq_iff_eq, @eq_comm _ key]
    · intro key
      exact Std.TreeMap.getElem?_emptyc
  have contained (name : String) :
      (Std.TreeMap.ofList pairs).contains name = (Fields.ofList pairs).contains name := by
    rw [Std.TreeMap.contains_eq_isSome_getElem?, alike]
    rfl
  rw [ofTreeMap, ofFields, funext alike, funext contained]

end Track

/-- Fields that start from a list of pairs, or from none, and are then set and removed in
any order answer from their history.  A hash map and a search tree of the same pairs
cannot be told from them. -/
theorem Fields.recall_history (pairs : List (String × String)) (updates : List FieldUpdate) :
    let history := pairs.map FieldUpdate.setting ++ updates
    let fields := updates.foldl Fields.updated (.ofList pairs)
    fields.names.Nodup ∧
      (∀ name, fields.get? name = valueAfter? history name ∧
        (fields.contains name = true ↔ fields.get? name ≠ none) ∧
        fields.remove name = (fields.get? name, fields.updated ⟨name, .erase⟩)) ∧
      (∀ name, name ∈ fields.names ↔ valueAfter? history name ≠ none) ∧
      fields.names.Pairwise (ArrivesBefore history) ∧
      fields.size = {name | valueAfter? history name ≠ none}.ncard ∧
      (∀ names, (Track.ofHashMap (.ofList pairs)).AgreeOn (.ofFields (.ofList pairs)) names ∧
        (Track.ofTreeMap (.ofList pairs)).AgreeOn (.ofFields (.ofList pairs)) names) ∧
      ∀ template : Template, (∀ call ∈ template.calls, call.isRandom = false) →
        ∀ (options : Options) (draw another third : Nat → UInt32) (markers : List Marker),
          template.outcome ⟨.ofHashMap (.ofList pairs), options, another, markers⟩ =
              template.outcome ⟨.ofFields (.ofList pairs), options, draw, markers⟩ ∧
            template.outcome ⟨.ofTreeMap (.ofList pairs), options, third, markers⟩ =
              template.outcome ⟨.ofFields (.ofList pairs), options, draw, markers⟩ := by
  intro history fields
  have records : fields.Records history := by
    have started := Records.empty.foldl_updated (pairs.map FieldUpdate.setting)
    rw [← ofList_eq] at started
    exact started.foldl_updated updates
  refine ⟨records.distinct, ?answers, fun _ => records.mem_names_iff, records.inOrder,
    records.size_eq, ?stores, ?evaluations⟩
  case answers =>
    intro name
    exact ⟨records.get?_eq name, Option.isSome_iff_ne_none, fields.remove_eq name⟩
  case stores =>
    intro names
    rw [Track.ofHashMap_ofList, Track.ofTreeMap_ofList]
    exact ⟨fun _ _ => ⟨rfl, rfl⟩, fun _ _ => ⟨rfl, rfl⟩⟩
  case evaluations =>
    intro template undrawn options draw another third markers
    rw [Track.ofHashMap_ofList, Track.ofTreeMap_ofList]
    exact ⟨template.outcome_drawing undrawn _ options draw another markers,
      template.outcome_drawing undrawn _ options draw third markers⟩

/-- The artist is given twice at the start, then removed, and set again behind the album. -/
theorem Fields.recall_history_sample :
    let pairs := [("ARTIST", "Ana"), ("TITLE", "One"), ("ARTIST", "Bea")]
    let updates : List FieldUpdate :=
      [⟨"ARTIST", .erase⟩, ⟨"ALBUM", .set "First"⟩, ⟨"ARTIST", .set "Cleo"⟩]
    let history := pairs.map FieldUpdate.setting ++ updates
    let fields := updates.foldl Fields.updated (.ofList pairs)
    let template : Template := ⟨[.field "title", .call "len" [⟨[.field "artist"]⟩] 7]⟩
    fields.names = ["TITLE", "ALBUM", "ARTIST"] ∧
      fields.remove "ARTIST" = (some "Cleo", fields.updated ⟨"ARTIST", .erase⟩) ∧
      ArrivesBefore history "ALBUM" "ARTIST" ∧
      (∀ call ∈ template.calls, call.isRandom = false) ∧
      template.outcome ⟨.ofHashMap (.ofList pairs), {}, fun _ => 1, []⟩ =
        template.outcome ⟨.ofFields (.ofList pairs), {}, fun _ => 0, []⟩ := by
  intro pairs updates history fields template
  obtain ⟨-, answers, -, inOrder, -, -, evaluations⟩ := recall_history pairs updates
  have listed : fields.names = ["TITLE", "ALBUM", "ARTIST"] := by
    rfl
  have held : fields.get? "ARTIST" = some "Cleo" := by
    rfl
  have undrawn : ∀ call ∈ template.calls, call.isRandom = false := by
    have called : (Call.mk "len" [⟨[.field "artist"]⟩] 7).isRandom = false := by
      cbv
    exact List.forall_mem_singleton.mpr called
  have removed := (answers "ARTIST").2.2
  have order : ArrivesBefore history "ALBUM" "ARTIST" := by
    change fields.names.Pairwise _ at inOrder
    rw [listed, List.pairwise_cons, List.pairwise_cons] at inOrder
    exact inOrder.2.1 "ARTIST" List.mem_cons_self
  refine ⟨listed, ?_, order, undrawn, ?_⟩
  · exact held ▸ removed
  · exact (evaluations template undrawn {} (fun _ => 0) (fun _ => 1) (fun _ => 2) []).1

end TitleFormatting
