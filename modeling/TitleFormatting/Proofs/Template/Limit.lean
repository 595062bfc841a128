import TitleFormatting.Proofs.Except
import TitleFormatting.Proofs.Template.RoundTrip

/-!
# Reading within different limits

The limit decides whether something may be opened, and nothing else. What can
be read within one limit is read alike within every other limit, unless the
other one is lower and stops the reading at something nested too deep.
-/

namespace TitleFormatting

namespace Assembly

variable {limit : Nat} {assembly after : Assembly}

theorem openFrame_of_openFrame_eq_ok {opener : Opener} {character : Char}
    {location : Location} (other : Nat)
    (opened : assembly.openFrame limit opener character location = .ok after) :
    assembly.openFrame other opener character location = .ok after ∨
      other < limit ∧
        assembly.openFrame other opener character location =
          .error ⟨.depthExceeded character other, location⟩ := by
  unfold openFrame at opened ⊢
  split at opened
  · rename_i room
    by_cases otherRoom : assembly.frames.length < other
    · rw [if_pos otherRoom]
      exact Or.inl opened
    · rw [if_neg otherRoom]
      exact Or.inr ⟨by omega, rfl⟩
  · contradiction

theorem step_of_step_eq_ok {placed : PlacedToken} (other : Nat)
    (stepped : step limit assembly placed = .ok after) :
    step other assembly placed = .ok after ∨
      other < limit ∧ ∃ opener,
        step other assembly placed =
          .error ⟨.depthExceeded opener other, placed.location⟩ := by
  obtain ⟨token, location⟩ := placed
  cases token with
  | plain c | quoted text | field name | closeBlock =>
      exact Or.inl stepped
  | openCall name =>
      rcases openFrame_of_openFrame_eq_ok other stepped with opened | ⟨lower, stopped⟩
      · exact Or.inl opened
      · exact Or.inr ⟨lower, '$', stopped⟩
  | openBlock =>
      rcases openFrame_of_openFrame_eq_ok other stepped with opened | ⟨lower, stopped⟩
      · exact Or.inl opened
      · exact Or.inr ⟨lower, '[', stopped⟩

theorem foldlM_step_of_eq_ok {placed : List PlacedToken} (other : Nat)
    (ran : placed.foldlM (step limit) assembly = .ok after) :
    placed.foldlM (step other) assembly = .ok after ∨
      other < limit ∧ ∃ opener location,
        placed.foldlM (step other) assembly =
          .error ⟨.depthExceeded opener other, location⟩ := by
  induction placed generalizing assembly with
  | nil =>
      exact Or.inl ran
  | cons first rest inductionHypothesis =>
      rw [List.foldlM_cons, Except.bind_eq_ok_iff] at ran
      obtain ⟨middle, stepped, ran⟩ := ran
      rw [List.foldlM_cons]
      rcases step_of_step_eq_ok other stepped with same | ⟨lower, opener, stopped⟩
      · rw [same]
        exact inductionHypothesis ran
      · rw [stopped]
        exact Or.inr ⟨lower, opener, first.location, rfl⟩

/-- What is taken within one limit is taken within every higher one. -/
theorem foldlM_step_of_le {placed : List PlacedToken} {higher : Nat}
    (atMost : limit ≤ higher)
    (ran : placed.foldlM (step limit) assembly = .ok after) :
    placed.foldlM (step higher) assembly = .ok after := by
  rcases foldlM_step_of_eq_ok higher ran with same | ⟨lower, _⟩
  · exact same
  · omega

end Assembly

namespace Template

variable {limit : Nat} {source : String} {template : Template}

/-- What is read within one limit is read alike within another one, unless
that one is lower and is exceeded. -/
theorem parse_of_parse_eq_ok (other : Nat)
    (accepted : Template.parse limit source = .ok template) :
    Template.parse other source = .ok template ∨
      other < limit ∧ ∃ opener location,
        Template.parse other source =
          .error ⟨.depthExceeded opener other, location⟩ := by
  simp only [Template.parse, Except.bind_eq_ok_iff] at accepted
  obtain ⟨assembly, ran, finished⟩ := accepted
  rcases Assembly.foldlM_step_of_eq_ok other ran with
    same | ⟨lower, opener, location, stopped⟩
  · refine Or.inl ?_
    simp only [Template.parse, Except.bind_eq_ok_iff]
    exact ⟨assembly, same, finished⟩
  · refine Or.inr ⟨lower, opener, location, ?_⟩
    simp only [Template.parse, Except.bind_eq_error_iff]
    exact Or.inl stopped

/-- A template that was read is read again within every limit that its nesting
keeps to. -/
theorem parse_of_nesting_le {other : Nat}
    (accepted : Template.parse limit source = .ok template)
    (fits : template.nesting ≤ other) :
    Template.parse other source = .ok template := by
  obtain ⟨canonical, _, written⟩ := isCanonical_of_parse accepted
  have again := parse_source canonical fits
  rwa [written, placed_of_parse accepted] at again

end Template

end TitleFormatting
