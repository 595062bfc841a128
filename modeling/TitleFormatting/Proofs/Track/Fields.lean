import TitleFormatting.TagFile

/-!
# Fields after changes

Looking up a field after others were set and erased.  Erasing takes away one entry
only, so its lemmas need that no name is set twice; every change keeps this up.  After
any number of changes a field is what the last change of it made of it.
-/

namespace TitleFormatting

/-! ## One change -/

namespace Fields

theorem lookup_cons (name value key : String) (rest : List (String × String)) :
    ((name, value) :: rest).lookup key =
      if key = name then some value else rest.lookup key := by
  rw [List.lookup_cons]
  by_cases same : key = name
  · rw [if_pos same, beq_iff_eq.mpr same]
  · rw [if_neg same, beq_false_of_ne same]

theorem lookup_eq_none_of_notMem {key : String} {entries : List (String × String)}
    (unset : key ∉ entries.map Prod.fst) : entries.lookup key = none := by
  induction entries with
  | nil =>
      rfl
  | cons entry rest inductionHypothesis =>
      rw [List.map_cons, List.mem_cons, not_or] at unset
      rw [lookup_cons, if_neg unset.1, inductionHypothesis unset.2]

theorem lookup_insertEntry (name value key : String) (entries : List (String × String)) :
    (insertEntry name value entries).lookup key =
      if key = name then some value else entries.lookup key := by
  induction entries with
  | nil =>
      rw [insertEntry, lookup_cons]
  | cons entry rest inductionHypothesis =>
      obtain ⟨head, old⟩ := entry
      rw [insertEntry]
      by_cases here : head = name
      · rw [if_pos here, lookup_cons, lookup_cons, here]
        by_cases same : key = name
        · rw [if_pos same, if_pos same]
        · rw [if_neg same, if_neg same, if_neg same]
      · rw [if_neg here, lookup_cons, lookup_cons, inductionHypothesis]
        by_cases headed : key = head
        · have different : key ≠ name := headed ▸ here
          rw [if_pos headed, if_neg different, if_pos headed]
        · rw [if_neg headed, if_neg headed]

theorem get?_insert (fields : Fields) (name value key : String) :
    (fields.insert name value).get? key =
      if key = name then some value else fields.get? key :=
  lookup_insertEntry name value key fields.entries

theorem map_fst_insertEntry (name value : String) (entries : List (String × String)) :
    (insertEntry name value entries).map Prod.fst =
      if name ∈ entries.map Prod.fst then entries.map Prod.fst
      else entries.map Prod.fst ++ [name] := by
  induction entries with
  | nil =>
      rfl
  | cons entry rest inductionHypothesis =>
      obtain ⟨head, old⟩ := entry
      rw [insertEntry, List.map_cons]
      by_cases here : head = name
      · have known : name ∈ head :: rest.map Prod.fst := here ▸ List.mem_cons_self
        rw [if_pos here, if_pos known]
        rfl
      · rw [if_neg here, List.map_cons, inductionHypothesis]
        by_cases later : name ∈ rest.map Prod.fst
        · have known : name ∈ head :: rest.map Prod.fst := List.mem_cons_of_mem head later
          rw [if_pos later, if_pos known]
        · have unset : name ∉ head :: rest.map Prod.fst :=
            List.not_mem_cons_of_ne_of_not_mem (Ne.symm here) later
          rw [if_neg later, if_neg unset]
          rfl

/-- No name is set twice. -/
def Distinct (fields : Fields) : Prop := fields.names.Nodup

theorem distinct_empty : empty.Distinct :=
  List.nodup_nil

theorem Distinct.insert {fields : Fields} (distinct : fields.Distinct)
    (name value : String) : (fields.insert name value).Distinct := by
  rw [Distinct, names, Fields.insert, map_fst_insertEntry]
  by_cases known : name ∈ fields.entries.map Prod.fst
  · rw [if_pos known]
    exact distinct
  · rw [if_neg known]
    refine List.nodup_append.mpr ⟨distinct, List.pairwise_singleton _ name, ?_⟩
    intro old member new single equality
    have same : old = name := equality.trans (List.mem_singleton.mp single)
    exact known (same ▸ member)

theorem Distinct.erase {fields : Fields} (distinct : fields.Distinct) (name : String) :
    (fields.erase name).Distinct :=
  distinct.sublist (List.eraseP_sublist.map Prod.fst)

theorem lookup_eraseP {entries : List (String × String)}
    (distinct : (entries.map Prod.fst).Nodup) (name key : String) :
    (entries.eraseP (·.1 = name)).lookup key =
      if key = name then none else entries.lookup key := by
  induction entries with
  | nil =>
      exact (ite_self none).symm
  | cons entry rest inductionHypothesis =>
      obtain ⟨head, old⟩ := entry
      obtain ⟨unset, restDistinct⟩ := List.nodup_cons.mp distinct
      by_cases here : head = name
      · have erased : ((head, old) :: rest).eraseP (·.1 = name) = rest :=
          List.eraseP_cons_of_pos (decide_eq_true here)
        rw [erased, lookup_cons]
        by_cases same : key = name
        · have elsewhere : key ∉ rest.map Prod.fst := same ▸ here ▸ unset
          rw [if_pos same, lookup_eq_none_of_notMem elsewhere]
        · rw [if_neg same, if_neg (here ▸ same)]
      · have passed : ((head, old) :: rest).eraseP (·.1 = name) =
            (head, old) :: rest.eraseP (·.1 = name) :=
          List.eraseP_cons_of_neg (by simpa using here)
        rw [passed, lookup_cons, lookup_cons, inductionHypothesis restDistinct]
        by_cases headed : key = head
        · have different : key ≠ name := headed ▸ here
          rw [if_pos headed, if_pos headed, if_neg different]
        · rw [if_neg headed, if_neg headed]

theorem get?_erase {fields : Fields} (distinct : fields.Distinct) (name key : String) :
    (fields.erase name).get? key = if key = name then none else fields.get? key :=
  lookup_eraseP distinct name key

end Fields

/-! ## Changes in order -/

/-- The value of a field after the change. -/
def FieldChange.value? : FieldChange → Option String
  | set value => some value
  | erase => none

/-- A change of the field that is kept under a key. -/
structure FieldUpdate where
  key : String
  change : FieldChange
deriving DecidableEq

/-- The last change of the field. -/
def lastChange? (key : String) (updates : List FieldUpdate) : Option FieldChange :=
  (updates.reverse.find? (·.key = key)).map FieldUpdate.change

theorem lastChange?_cons (key : String) (update : FieldUpdate)
    (later : List FieldUpdate) :
    lastChange? key (update :: later) =
      (lastChange? key later).or (if key = update.key then some update.change else none) := by
  rw [lastChange?, List.reverse_cons, List.find?_append, Option.map_or,
    List.find?_singleton]
  by_cases same : update.key = key
  · rw [if_pos same.symm, if_pos (decide_eq_true same)]
    rfl
  · rw [if_neg (Ne.symm same), if_neg (by simpa using same)]
    rfl

namespace Fields

/-- The fields after one update. -/
def updated (fields : Fields) (update : FieldUpdate) : Fields :=
  update.change.apply update.key fields

variable {fields : Fields}

theorem get?_updated (distinct : fields.Distinct) (update : FieldUpdate) (key : String) :
    (fields.updated update).get? key =
      if key = update.key then update.change.value? else fields.get? key := by
  obtain ⟨name, change⟩ := update
  cases change with
  | set value =>
      exact fields.get?_insert name value key
  | erase =>
      exact get?_erase distinct name key

theorem Distinct.updated (distinct : fields.Distinct) (update : FieldUpdate) :
    (fields.updated update).Distinct := by
  obtain ⟨name, change⟩ := update
  cases change with
  | set value =>
      exact distinct.insert name value
  | erase =>
      exact distinct.erase name

theorem Distinct.foldl_updated (distinct : fields.Distinct) (updates : List FieldUpdate) :
    (updates.foldl Fields.updated fields).Distinct := by
  induction updates generalizing fields with
  | nil =>
      exact distinct
  | cons update rest inductionHypothesis =>
      exact inductionHypothesis (distinct.updated update)

/-- A field is what its last change made of it, or what it was. -/
theorem get?_foldl_updated (distinct : fields.Distinct) (updates : List FieldUpdate)
    (key : String) :
    (updates.foldl updated fields).get? key =
      ((lastChange? key updates).map FieldChange.value?).getD (fields.get? key) := by
  induction updates generalizing fields with
  | nil =>
      rfl
  | cons update rest inductionHypothesis =>
      rw [List.foldl_cons, inductionHypothesis (distinct.updated update),
        get?_updated distinct, lastChange?_cons]
      cases lastChange? key rest with
      | some change =>
          rfl
      | none =>
          by_cases same : key = update.key
          · rw [if_pos same, if_pos same]
            rfl
          · rw [if_neg same, if_neg same]
            rfl

end Fields

end TitleFormatting
