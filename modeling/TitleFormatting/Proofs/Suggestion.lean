import Mathlib.Data.List.Permutation
import Mathlib.Data.List.Sort
import Mathlib.Data.Prod.Lex
import Mathlib.Data.String.Basic
import TitleFormatting.Proofs.Text.EditDistance
import TitleFormatting.Suggestion

/-!
# The closest names

Names are ranked by their distance from the key and, at equal distances, by the alphabet.
No two different names have one rank, so the ranks put the names within reach into one
sequence, whatever order they are given in.  The suggestions are the beginning of that
sequence.
-/

namespace TitleFormatting.Suggestion

/-- The rank of a name: its distance from the key, and then the name itself.  The order of
names is that of their bytes, by `Text.utf8Bytes_lt_iff`. -/
def rank (key name : String) : ℕ ×ₗ String :=
  toLex (Text.editDistance key.toList name.toList, name)

theorem rank_injective (key : String) : Function.Injective (rank key) := by
  intro first second same
  exact congrArg (fun ranked => (ofLex ranked).2) same

theorem before_iff (first second : ℕ × String) :
    before first second = true ↔ toLex first ≤ toLex second := by
  simp [before, Prod.Lex.toLex_le_toLex]

section Reach

variable (key : String) (available : List String)

/-- The names within reach, in the order of their ranks. -/
def ranked : List String := ((inReach key available).mergeSort before).map Prod.snd

theorem closest_eq_take : closest key available = (ranked key available).take 3 := by
  rw [closest, ranked, List.map_take]

theorem eq_distance_of_mem_inReach {key : String} {available : List String}
    {scored : ℕ × String} (member : scored ∈ inReach key available) :
    toLex scored = rank key scored.2 := by
  rw [inReach, List.mem_filter, List.mem_map] at member
  obtain ⟨⟨name, -, rfl⟩, -⟩ := member
  rfl

theorem map_snd_inReach :
    (inReach key available).map Prod.snd = available.filter fun name =>
      Text.editDistance key.toList name.toList ≤ maxDistance key := by
  rw [inReach, List.filter_map, List.map_map]
  exact List.map_id _

theorem ranked_perm :
    (ranked key available).Perm (available.filter fun name =>
      Text.editDistance key.toList name.toList ≤ maxDistance key) := by
  rw [← map_snd_inReach]
  exact (List.mergeSort_perm (inReach key available) before).map Prod.snd

theorem pairwise_ranked :
    (ranked key available).Pairwise fun first second => rank key first ≤ rank key second := by
  have sorted : ((inReach key available).mergeSort before).Pairwise
      (fun first second => before first second = true) := by
    apply List.pairwise_mergeSort
    · intro first second third
      simp only [before_iff]
      exact le_trans
    · intro first second
      simp only [Bool.or_eq_true, before_iff]
      exact le_total _ _
  rw [ranked, List.pairwise_map]
  apply sorted.imp_of_mem
  intro first second firstMember secondMember ordered
  rw [← eq_distance_of_mem_inReach (List.mem_mergeSort.mp firstMember),
    ← eq_distance_of_mem_inReach (List.mem_mergeSort.mp secondMember)]
  exact (before_iff first second).mp ordered

end Reach

/-- The order in which the names are given does not matter. -/
theorem ranked_eq_of_perm {available other : List String} (key : String)
    (reordered : available.Perm other) : ranked key other = ranked key available := by
  have together : (ranked key other).Perm (ranked key available) :=
    (ranked_perm key other).trans
      ((reordered.symm.filter _).trans (ranked_perm key available).symm)
  refine together.eq_of_pairwise ?_ (pairwise_ranked key other) (pairwise_ranked key available)
  intro first second _ _ le ge
  exact rank_injective key (le_antisymm le ge)

/-- The suggestions are the names of least rank, three at most, among those within one edit
of a key of up to three characters and within two of a longer key.  They do not depend on
the order in which the names are given. -/
theorem closest_of_least_rank (key : String) (available : List String) :
    (∀ name, IsLeast {count | Text.Edits key.toList count name.toList} (ofLex (rank key name)).1) ∧
    (∃ omitted : List String,
      (closest key available ++ omitted).Perm (available.filter fun name =>
        (ofLex (rank key name)).1 ≤ if key.length ≤ 3 then 1 else 2) ∧
      (closest key available).length ≤ 3 ∧
      ((closest key available).Pairwise fun first second => rank key first ≤ rank key second) ∧
      (∀ left ∈ omitted, ∀ chosen ∈ closest key available, rank key chosen ≤ rank key left) ∧
      ((closest key available).length < 3 → omitted = [])) ∧
    ∀ other, available.Perm other → closest key other = closest key available := by
  have split : closest key available ++ (ranked key available).drop 3 = ranked key available := by
    rw [closest_eq_take, List.take_append_drop]
  have ordered := pairwise_ranked key available
  rw [← split, List.pairwise_append] at ordered
  obtain ⟨chosenOrdered, -, between⟩ := ordered
  refine ⟨?least, ⟨(ranked key available).drop 3, ?all, ?three, chosenOrdered, ?smallest, ?few⟩,
    ?reordered⟩
  case least =>
    intro name
    exact Text.isLeast_editDistance key.toList name.toList
  case all =>
    rw [split]
    exact ranked_perm key available
  case three =>
    rw [closest_eq_take]
    exact List.length_take_le 3 _
  case smallest =>
    intro left isLeft chosen isChosen
    exact between chosen isChosen left isLeft
  case few =>
    intro fewer
    rw [closest_eq_take, List.length_take] at fewer
    exact List.drop_eq_nil_of_le (by omega)
  case reordered =>
    intro other reordered
    rw [closest_eq_take, closest_eq_take, ranked_eq_of_perm key reordered]

/-- One name goes as far as another and follows it in the alphabet, and the fourth is left
out, in whatever order the names are given. -/
theorem closest_of_least_rank_sample :
    closest "lefr" ["right", "len", "lower", "left", "let", "lef"] = ["lef", "left", "len"] ∧
      ["right", "len", "lower", "left", "let", "lef"].Perm
        ["left", "lef", "let", "len", "lower", "right"] ∧
      closest "lefr" ["left", "lef", "let", "len", "lower", "right"] =
        closest "lefr" ["right", "len", "lower", "left", "let", "lef"] := by
  have reordered : ["right", "len", "lower", "left", "let", "lef"].Perm
      ["left", "lef", "let", "len", "lower", "right"] := by
    decide
  obtain ⟨-, -, anyOrder⟩ :=
    closest_of_least_rank "lefr" ["right", "len", "lower", "left", "let", "lef"]
  have chosen : closest "lefr" ["right", "len", "lower", "left", "let", "lef"] =
      ["lef", "left", "len"] := by
    cbv
  exact ⟨chosen, reordered, anyOrder _ reordered⟩

end TitleFormatting.Suggestion
