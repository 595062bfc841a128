import TitleFormatting.Proofs.Evaluation.Joining
import TitleFormatting.Proofs.Functions.Calls

/-!
# What calls make of their arguments

A call sees each argument as it is held: its atom, whether its source is quoted and
the markers that were recorded for it.  A call is itself an argument that is never
quoted.  For the control functions and those that stand in their conditions, this
gives one equation each, in which the arguments are evaluated in turn.
-/

namespace TitleFormatting

/-! ## Held arguments -/

namespace HeldArgument

def truth (held : HeldArgument) : Bool :=
  held.argument.truth

/-- A call that passes on this argument. -/
def passedOn (held : HeldArgument) : HeldArgument :=
  ⟨⟨held.argument.atom, false⟩, held.markers⟩

theorem passedOn_passedOn (held : HeldArgument) : held.passedOn.passedOn = held.passedOn :=
  rfl

/-- A call that computes this atom from these arguments. -/
def computed (held : List HeldArgument) (atom : Atom) : HeldArgument :=
  ⟨⟨atom, false⟩, held.flatMap markers⟩

/-- A call for the number of characters of this argument. -/
def measured (held : HeldArgument) : HeldArgument :=
  computed [held] (held.argument.atom.deriveText fun t => Functions.numeral t.length)

/-- A call with these arguments and this reply. -/
def settled (held : List HeldArgument) (reply : Reply) : HeldArgument :=
  ⟨⟨reply.atom, false⟩, reply.markers (held.map markers)⟩

theorem settled_picked {held : List HeldArgument} {index : Nat} {chosen : HeldArgument}
    (present : held[index]? = some chosen) :
    settled held (Functions.picked (held.map argument) (some index)) =
      chosen.passedOn := by
  have argumentPresent : (held.map argument)[index]? = some chosen.argument := by
    rw [List.getElem?_map, present]
    rfl
  have markersPresent : (held.map markers)[index]? = some chosen.markers := by
    rw [List.getElem?_map, present]
    rfl
  rw [settled, Functions.picked]
  simp only [argumentPresent, Reply.atom, Reply.markers, markersPresent]
  rfl

theorem settled_branch (first second onTrue onFalse : HeldArgument) (condition : Bool) :
    let held := [first, second, onTrue, onFalse]
    settled held (Functions.choose (held.map argument) (Functions.branch condition)) =
      (if condition then onTrue else onFalse).passedOn := by
  apply settled_picked
  cases condition <;> rfl

theorem settled_all (held : List HeldArgument) (atom : Atom) :
    settled held (.value atom .all) = computed held atom := by
  rw [settled, Reply.markers, computed, List.flatMap_def]
  rfl

end HeldArgument

namespace Functions

theorem if3_concat {arguments : List Argument} (nonempty : arguments ≠ [])
    (last : Argument) :
    if3 (arguments ++ [last]) =
      some ((arguments.findIdx? Argument.truth).getD arguments.length) := by
  obtain ⟨first, rest, rfl⟩ := List.exists_cons_of_ne_nil nonempty
  have several : ∃ second others, rest ++ [last] = second :: others :=
    List.exists_cons_of_ne_nil (List.append_ne_nil_of_right_ne_nil rest (List.cons_ne_nil _ _))
  obtain ⟨second, others, equality⟩ := several
  have candidates : (first :: second :: others).dropLast = first :: rest := by
    rw [← equality, ← List.cons_append, List.dropLast_concat]
  rw [List.cons_append, equality, ← candidates]
  rfl

theorem getElem?_firstTrue (candidates : List HeldArgument) (last : HeldArgument) :
    (candidates ++ [last])[(candidates.findIdx? HeldArgument.truth).getD
        candidates.length]? =
      some ((candidates.find? HeldArgument.truth).getD last) := by
  induction candidates with
  | nil =>
      rfl
  | cons candidate rest inductionHypothesis =>
      cases holds : candidate.truth with
      | true =>
          simp [List.findIdx?_cons, holds]
      | false =>
          have later : ((rest.findIdx? HeldArgument.truth).map (· + 1)).getD
                (rest.length + 1) =
              (rest.findIdx? HeldArgument.truth).getD rest.length + 1 := by
            cases rest.findIdx? HeldArgument.truth <;> rfl
          simp [List.findIdx?_cons, holds, later, inductionHypothesis]

end Functions

namespace Template

/-- The template as an argument. -/
def held (environment : Environment) (template : Template) :
    Except Fault HeldArgument :=
  (template.value environment).map fun value =>
    ⟨⟨value.atom, template.startsQuoted⟩, template.markers environment⟩

/-- A template that is one call. -/
def call (name : String) (arguments : List Template) (position : Nat) : Template :=
  ⟨[.call name arguments position]⟩

theorem mapM_held (environment : Environment) (arguments : List Template) :
    arguments.mapM (held environment) =
      (argumentValues environment arguments).map fun values =>
        heldArguments values (argumentMarkers environment arguments) := by
  induction arguments with
  | nil =>
      rfl
  | cons argument rest inductionHypothesis =>
      rw [List.mapM_cons, inductionHypothesis, held, argumentValues, argumentMarkers]
      cases argument.value environment with
      | error fault =>
          rfl
      | ok value =>
          cases argumentValues environment rest <;> rfl

theorem value_singleton (environment : Environment) (segment : Segment) :
    (Template.mk [segment]).value environment = segment.value environment := by
  have nonempty : (Template.mk [segment]).segments ≠ [] := List.cons_ne_nil _ _
  rw [value_eq_segmentsValue environment nonempty, segmentsValue, segmentsValue]
  cases segment.value environment with
  | error fault =>
      rfl
  | ok value =>
      simp only [bind, Except.bind, pure, Except.pure, Atom.append_absent, Nat.add_zero]

theorem markers_singleton (environment : Environment) (segment : Segment) :
    (Template.mk [segment]).markers environment = segment.markers environment := by
  rw [markers, segmentsMarkers, segmentsMarkers, List.append_nil]

theorem held_field (environment : Environment) (name : String) :
    (Template.mk [.field name]).held environment =
      .ok ⟨⟨environment.track.resolve name environment.options, false⟩, []⟩ := by
  rw [held, value_singleton, markers_singleton]
  rfl

theorem held_quoted (environment : Environment) (text : String) :
    (Template.mk [.quoted text]).held environment = .ok ⟨⟨.literal text, true⟩, []⟩ := by
  rw [held, value_singleton, markers_singleton]
  rfl

/-- A call evaluates its arguments, asks its function for a reply and holds what the
reply makes of the arguments. -/
theorem held_call (environment : Environment) (name : String) (arguments : List Template)
    (position : Nat) :
    (call name arguments position).held environment = do
      let values ← arguments.mapM (held environment)
      let reply ←
        invoke (environment.draw position) name (values.map HeldArgument.argument)
      return .settled values reply := by
  rw [held, call, value_singleton, markers_singleton, Segment.value_call, Segment.markers,
    Environment.reply, mapM_held]
  cases valued : argumentValues environment arguments with
  | error fault =>
      rfl
  | ok values =>
      have lengths : values.length = (argumentMarkers environment arguments).length := by
        rw [length_argumentValues valued, length_argumentMarkers]
      simp only [Except.map, bind, Except.bind, map_argument_heldArguments lengths]
      cases invoke (environment.draw position) name values with
      | error fault =>
          rfl
      | ok reply =>
          simp only [pure, Except.pure, HeldArgument.settled,
            map_markers_heldArguments lengths]
          rfl

/-! ## Control functions -/

section Control

variable (environment : Environment) (position : Nat)

theorem held_if (condition onTrue onFalse : Template) :
    (call "if" [condition, onTrue, onFalse] position).held environment = do
      let c ← condition.held environment
      let x ← onTrue.held environment
      let y ← onFalse.held environment
      return (if c.truth then x else y).passedOn := by
  have member : ⟨"if", .ifThen, .atLeast 0, .control⟩ ∈ Catalog.entries := by
    decide
  rw [held_call]
  simp only [List.mapM_cons, List.mapM_nil, bind_assoc, pure_bind, List.map_cons, List.map_nil]
  refine bind_congr fun c => bind_congr fun x => bind_congr fun y => ?_
  have present : [c, x, y][if c.truth then 1 else 2]? = some (if c.truth then x else y) := by
    cases c.truth <;> rfl
  rw [invoke_of_mem _ member rfl]
  exact congrArg Except.ok (HeldArgument.settled_picked present)

theorem held_if2 (first last : Template) :
    (call "if2" [first, last] position).held environment = do
      let a ← first.held environment
      let b ← last.held environment
      return (if a.truth then a else b).passedOn := by
  have member : ⟨"if2", .if2, .atLeast 0, .control⟩ ∈ Catalog.entries := by
    decide
  rw [held_call]
  simp only [List.mapM_cons, List.mapM_nil, bind_assoc, pure_bind, List.map_cons, List.map_nil]
  refine bind_congr fun a => bind_congr fun b => ?_
  have present : [a, b][if a.truth then 0 else 1]? = some (if a.truth then a else b) := by
    cases a.truth <;> rfl
  rw [invoke_of_mem _ member rfl]
  exact congrArg Except.ok (HeldArgument.settled_picked present)

theorem held_if3 {candidates : List Template} (nonempty : candidates ≠ [])
    (last : Template) :
    (call "if3" (candidates ++ [last]) position).held environment = do
      let before ← candidates.mapM (held environment)
      let e ← last.held environment
      return ((before.find? HeldArgument.truth).getD e).passedOn := by
  have member : ⟨"if3", .if3, .atLeast 0, .control⟩ ∈ Catalog.entries := by
    decide
  -- The first candidate is split off, for a single argument has no other branch.
  obtain ⟨candidate, rest, rfl⟩ := List.exists_cons_of_ne_nil nonempty
  rw [held_call]
  simp only [List.mapM_append, List.mapM_cons, List.mapM_nil, bind_assoc, pure_bind]
  refine bind_congr fun first => bind_congr fun others => bind_congr fun e => ?_
  have picked : Functions.if3 (((first :: others) ++ [e]).map HeldArgument.argument) =
      some (((first :: others).findIdx? HeldArgument.truth).getD (first :: others).length) := by
    rw [List.map_append, List.map_singleton, Functions.if3_concat (by simp),
      List.findIdx?_map, List.length_map]
    rfl
  rw [invoke_of_mem _ member rfl, Functions.run, picked]
  exact congrArg Except.ok
    (HeldArgument.settled_picked (Functions.getElem?_firstTrue (first :: others) e))

theorem held_ifGreater (first second onTrue onFalse : Template) :
    (call "ifgreater" [first, second, onTrue, onFalse] position).held environment = do
      let a ← first.held environment
      let b ← second.held environment
      let x ← onTrue.held environment
      let y ← onFalse.held environment
      return (if b.argument.number < a.argument.number then x else y).passedOn := by
  have member : ⟨"ifgreater", .ifGreater, .atLeast 0, .control⟩ ∈ Catalog.entries := by
    decide
  rw [held_call]
  simp only [List.mapM_cons, List.mapM_nil, bind_assoc, pure_bind, List.map_cons, List.map_nil]
  refine bind_congr fun a => bind_congr fun b => bind_congr fun x => bind_congr fun y => ?_
  rw [invoke_of_mem _ member rfl]
  have settled := HeldArgument.settled_branch a b x y (b.argument.number < a.argument.number)
  rw [if_congr decide_eq_true_iff rfl rfl] at settled
  exact congrArg Except.ok settled

theorem held_ifLonger (text limit onTrue onFalse : Template) :
    (call "iflonger" [text, limit, onTrue, onFalse] position).held environment = do
      let s ← text.held environment
      let n ← limit.held environment
      let x ← onTrue.held environment
      let y ← onFalse.held environment
      return (if n.argument.number.toInt < s.argument.length then x else y).passedOn := by
  have member : ⟨"iflonger", .ifLonger, .atLeast 0, .control⟩ ∈ Catalog.entries := by
    decide
  rw [held_call]
  simp only [List.mapM_cons, List.mapM_nil, bind_assoc, pure_bind, List.map_cons, List.map_nil]
  refine bind_congr fun s => bind_congr fun n => bind_congr fun x => bind_congr fun y => ?_
  rw [invoke_of_mem _ member rfl]
  have settled :=
    HeldArgument.settled_branch s n x y (n.argument.number.toInt < (s.argument.length : Int))
  rw [if_congr decide_eq_true_iff rfl rfl] at settled
  exact congrArg Except.ok settled

end Control

/-! ## Functions in conditions -/

section Conditions

variable (environment : Environment) (position : Nat)

theorem held_not (condition : Template) :
    (call "not" [condition] position).held environment = do
      let c ← condition.held environment
      return .computed [c] (.boolean (!c.truth)) := by
  have member : ⟨"not", .not, .exact 1, .boolean⟩ ∈ Catalog.entries := by
    decide
  rw [held_call]
  simp only [List.mapM_cons, List.mapM_nil, bind_assoc, pure_bind, List.map_cons, List.map_nil]
  refine bind_congr fun c => ?_
  rw [invoke_of_mem _ member rfl]
  exact congrArg Except.ok (HeldArgument.settled_all [c] _)

theorem held_greater (first second : Template) :
    (call "greater" [first, second] position).held environment = do
      let a ← first.held environment
      let b ← second.held environment
      return .computed [a, b] (.boolean (b.argument.number < a.argument.number)) := by
  have member : ⟨"greater", .greater, .exact 2, .arithmetic⟩ ∈ Catalog.entries := by
    decide
  rw [held_call]
  simp only [List.mapM_cons, List.mapM_nil, bind_assoc, pure_bind, List.map_cons, List.map_nil]
  refine bind_congr fun a => bind_congr fun b => ?_
  rw [invoke_of_mem _ member rfl]
  exact congrArg Except.ok (HeldArgument.settled_all [a, b] _)

theorem held_len (text : Template) :
    (call "len" [text] position).held environment = do
      let s ← text.held environment
      return s.measured := by
  have member : ⟨"len", .len, .exact 1, .string⟩ ∈ Catalog.entries := by
    decide
  rw [held_call]
  simp only [List.mapM_cons, List.mapM_nil, bind_assoc, pure_bind, List.map_cons, List.map_nil]
  refine bind_congr fun s => ?_
  rw [invoke_of_mem _ member rfl]
  exact congrArg Except.ok (HeldArgument.settled_all [s] _)

theorem held_longer (first second : Template) :
    (call "longer" [first, second] position).held environment = do
      let a ← first.held environment
      let b ← second.held environment
      return .computed [a, b] (.boolean (b.argument.length < a.argument.length)) := by
  have member : ⟨"longer", .longer, .exact 2, .string⟩ ∈ Catalog.entries := by
    decide
  rw [held_call]
  simp only [List.mapM_cons, List.mapM_nil, bind_assoc, pure_bind, List.map_cons, List.map_nil]
  refine bind_congr fun a => bind_congr fun b => ?_
  rw [invoke_of_mem _ member rfl]
  exact congrArg Except.ok (HeldArgument.settled_all [a, b] _)

end Conditions

end Template

end TitleFormatting
