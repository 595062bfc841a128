import TitleFormatting.Fault

/-!
# Computations that may fail

What a computation in two parts comes to, where a run over a list fails, and
properties that every result of a computation has.
-/

namespace Except

variable {ε α β γ : Type}

theorem bind_ok (produced : α) (next : α → Except ε β) :
    (.ok produced : Except ε α) >>= next = next produced :=
  rfl

theorem bind_eq_ok_iff {action : Except ε α} {next : α → Except ε β} {result : β} :
    action >>= next = .ok result ↔
      ∃ produced, action = .ok produced ∧ next produced = .ok result := by
  cases action with
  | error fault =>
      simp [Bind.bind, Except.bind]
  | ok produced =>
      simp [Bind.bind, Except.bind]

theorem bind_eq_error_iff {action : Except ε α} {next : α → Except ε β} {fault : ε} :
    action >>= next = .error fault ↔
      action = .error fault ∨
        ∃ produced, action = .ok produced ∧ next produced = .error fault := by
  cases action with
  | error earlier =>
      simp [Bind.bind, Except.bind]
  | ok produced =>
      simp [Bind.bind, Except.bind]

theorem bind_congr_of_ok {action : Except ε α} {next other : α → Except ε β}
    (alike : ∀ produced, action = .ok produced → next produced = other produced) :
    action >>= next = action >>= other := by
  cases action with
  | error fault =>
      rfl
  | ok produced =>
      exact alike produced rfl

theorem map_map (action : Except ε α) (f : α → β) (g : β → γ) :
    (action.map f).map g = action.map fun result => g (f result) := by
  cases action <;> rfl

section Alike

variable {δ : Type} {f : α → γ} {g : β → δ} {action other : Except ε α}
  {next nextOther : α → Except ε β}

/-- Two computations go on alike when what follows does, for results that look the same. -/
theorem bind_congr_of_map (alike : action.map f = other.map f)
    (later : ∀ a b, action = .ok a → f a = f b → next a = nextOther b) :
    action >>= next = other >>= nextOther := by
  cases action with
  | error fault =>
      cases other with
      | error otherFault =>
          obtain rfl := Except.error.inj alike
          rfl
      | ok b =>
          contradiction
  | ok a =>
      cases other with
      | error fault =>
          contradiction
      | ok b =>
          exact later a b rfl (Except.ok.inj alike)

theorem map_bind_congr (alike : action.map f = other.map f)
    (later : ∀ a b, action = .ok a → f a = f b →
      (next a).map g = (nextOther b).map g) :
    (action >>= next).map g = (other >>= nextOther).map g := by
  have mapped (action : Except ε α) (next : α → Except ε β) :
      (action >>= next).map g = action >>= fun a => (next a).map g := by
    cases action <;> rfl
  rw [mapped, mapped]
  exact bind_congr_of_map alike later

end Alike

/-- To do the same twice is to do it once. -/
theorem bind_bind_self (action : Except ε α) (next : α → α → Except ε β) :
    (do let first ← action; let second ← action; next first second) =
      action >>= fun produced => next produced produced := by
  cases action <;> rfl

/-- Two computations that fail in one way only may be done in either order. -/
theorem bind_comm_of_error {first : Except ε α} {second : Except ε β}
    (alike : ∀ fault other, first = .error fault → second = .error other → fault = other)
    (next : α → β → Except ε γ) :
    (do let a ← first; let b ← second; next a b) =
      (do let b ← second; let a ← first; next a b) := by
  cases first with
  | ok a =>
      cases second <;> rfl
  | error fault =>
      cases second with
      | ok b =>
          rfl
      | error other =>
          exact congrArg Except.error (alike fault other rfl rfl)

/-- A run fails at one of its steps, all steps before it done. -/
theorem exists_step_of_foldlM_eq_error {step : β → α → Except ε β} {items : List α}
    {start : β} {fault : ε} (failed : items.foldlM step start = .error fault) :
    ∃ before item after middle, items = before ++ item :: after ∧
      before.foldlM step start = .ok middle ∧ step middle item = .error fault := by
  induction items generalizing start with
  | nil =>
      contradiction
  | cons item rest inductionHypothesis =>
      rw [List.foldlM_cons, bind_eq_error_iff] at failed
      rcases failed with here | ⟨next, stepped, later⟩
      · exact ⟨[], item, rest, start, rfl, rfl, here⟩
      · obtain ⟨before, culprit, after, middle, equality, ran, failed⟩ :=
          inductionHypothesis later
        refine ⟨item :: before, culprit, after, middle, by rw [equality]; rfl, ?_,
          failed⟩
        rw [List.foldlM_cons, stepped]
        exact ran

end Except

namespace TitleFormatting

theorem difference_eq {size taken : Nat} (fits : taken ≤ size) :
    difference size taken = .ok ⟨size - taken, Nat.sub_add_cancel fits⟩ :=
  dif_pos fits

variable {ε α β : Type}

/-- Every result of the computation has the property. -/
def Ensures (property : α → Prop) (action : Except ε α) : Prop :=
  ∀ result, action = .ok result → property result

namespace Ensures

variable {premise : α → Prop} {property : β → Prop}

theorem ok {result : β} (holds : property result) :
    Ensures property (.ok result : Except ε β) := by
  intro other equality
  rwa [← Except.ok.inj equality]

theorem error (fault : ε) : Ensures property (.error fault) := by
  intro result equality
  contradiction

theorem bind_of {action : Except ε α} {next : α → Except ε β}
    (first : Ensures premise action)
    (later : ∀ result, premise result → Ensures property (next result)) :
    Ensures property (action >>= next) := by
  cases action with
  | error fault =>
      exact error fault
  | ok result =>
      exact later result (first result rfl)

/-- Whatever comes first, what is done with its result decides. -/
theorem bind {action : Except ε α} {next : α → Except ε β}
    (later : ∀ result, Ensures property (next result)) :
    Ensures property (action >>= next) :=
  have unconditional : Ensures (fun _ => True) action := fun _ _ => trivial
  bind_of unconditional fun result _ => later result

end Ensures

end TitleFormatting
