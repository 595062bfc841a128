import TitleFormatting.Lint
import TitleFormatting.Proofs.Template.Depth

/-!
# Calls in the order of their source

The calls of a template are listed once each, in the order of the ways that lead to
them through the tree: an outer call comes before those in its arguments.  In a template
that was read from a source this is also the order of the positions, so that warnings
come from left to right.
-/

namespace TitleFormatting

/-! ## Ways through a template -/

mutual

/-- This way leads from the segment to the call.  A way has the number of a segment for
every template that it enters, and the number of an argument for every call that it
passes; the body of a block is entered without a number of its own. -/
inductive Segment.LeadsTo : Segment → List Nat → Call → Prop
  | self (name : String) (arguments : List Template) (position : Nat) :
      Segment.LeadsTo (.call name arguments position) [] ⟨name, arguments, position⟩
  | argument {name : String} {arguments : List Template} {position index : Nat}
      {argument : Template} {way : List Nat} {call : Call}
      (listed : arguments[index]? = some argument) (inside : argument.LeadsTo way call) :
      Segment.LeadsTo (.call name arguments position) (index :: way) call
  | body {body : Template} {way : List Nat} {call : Call}
      (inside : body.LeadsTo way call) : Segment.LeadsTo (.conditional body) way call

inductive Template.LeadsTo : Template → List Nat → Call → Prop
  | segment {segments : List Segment} {index : Nat} {segment : Segment} {way : List Nat}
      {call : Call} (listed : segments[index]? = some segment)
      (inside : segment.LeadsTo way call) : Template.LeadsTo ⟨segments⟩ (index :: way) call

end

/-- The calls are those that some way leads to, each listed once for each of its ways, in
the order of the ways. -/
def ListsByWay (calls : List Call) (leadsTo : List Nat → Call → Prop) : Prop :=
  ∃ visits : List (List Nat × Call),
    visits.map Prod.snd = calls ∧
      visits.Pairwise (fun first second => first.1 < second.1) ∧
      ∀ way call, (way, call) ∈ visits ↔ leadsTo way call

/-- The way leads to the call through one of the items, which are numbered from here. -/
def LeadsThrough {α : Type} (leadsTo : α → List Nat → Call → Prop) (items : List α)
    (start : Nat) (way : List Nat) (call : Call) : Prop :=
  ∃ index item inner, items[index]? = some item ∧ leadsTo item inner call ∧
    way = (start + index) :: inner

namespace ListsByWay

variable {calls others : List Call} {leadsTo same : List Nat → Call → Prop}

theorem of_iff (lists : ListsByWay calls leadsTo)
    (equivalent : ∀ way call, leadsTo way call ↔ same way call) : ListsByWay calls same := by
  obtain ⟨visits, listed, ordered, complete⟩ := lists
  exact ⟨visits, listed, ordered, fun way call => (complete way call).trans (equivalent way call)⟩

theorem of_nowhere (nowhere : ∀ way call, ¬ leadsTo way call) : ListsByWay [] leadsTo := by
  refine ⟨[], rfl, .nil, fun way call => ?_⟩
  simp [nowhere way call]

/-- A call is listed before all calls that are reached by way of it. -/
theorem self (call : Call) (lists : ListsByWay calls leadsTo)
    (further : ∀ inner, ¬ leadsTo [] inner) :
    ListsByWay (call :: calls)
      fun way inner => way = [] ∧ inner = call ∨ leadsTo way inner := by
  obtain ⟨visits, listed, ordered, complete⟩ := lists
  refine ⟨([], call) :: visits, by rw [List.map_cons, listed], ?_, fun way inner => ?_⟩
  · refine List.pairwise_cons.mpr ⟨fun visit member => ?_, ordered⟩
    rcases visit with ⟨_ | ⟨index, way⟩, inner⟩
    · exact absurd ((complete [] inner).mp member) (further inner)
    · exact List.nil_lt_cons index way
  · rw [List.mem_cons, Prod.mk.injEq, complete]

variable {α : Type} {through : α → List Nat → Call → Prop} {item : α} {rest : List α}
  {start : Nat}

theorem leadsThrough_cons {way : List Nat} {call : Call} :
    LeadsThrough through (item :: rest) start way call ↔
      (∃ inner, through item inner call ∧ way = start :: inner) ∨
        LeadsThrough through rest (start + 1) way call := by
  constructor
  · rintro ⟨_ | index, found, inner, listed, leads, rfl⟩
    · obtain rfl := Option.some.inj listed
      exact Or.inl ⟨inner, leads, rfl⟩
    · refine Or.inr ⟨index, found, inner, listed, leads, ?_⟩
      rw [Nat.add_right_comm, Nat.add_assoc]
  · rintro (⟨inner, leads, rfl⟩ | ⟨index, found, inner, listed, leads, rfl⟩)
    · exact ⟨0, item, inner, rfl, leads, rfl⟩
    · refine ⟨index + 1, found, inner, listed, leads, ?_⟩
      rw [Nat.add_right_comm, Nat.add_assoc]

/-- Items one after the other are visited one after the other. -/
theorem cons (first : ListsByWay calls (through item))
    (behind : ListsByWay others (LeadsThrough through rest (start + 1))) :
    ListsByWay (calls ++ others) (LeadsThrough through (item :: rest) start) := by
  obtain ⟨visits, listed, ordered, complete⟩ := first
  obtain ⟨later, laterListed, laterOrdered, laterComplete⟩ := behind
  refine ⟨visits.map (fun visit => (start :: visit.1, visit.2)) ++ later, ?_, ?_, ?_⟩
  · rw [List.map_append, List.map_map, laterListed, ← listed]
    rfl
  · -- Ways into the item go on as before; those behind it begin with a greater number.
    refine List.pairwise_append.mpr ⟨?_, laterOrdered, ?_⟩
    · refine ordered.map _ fun first second before => ?_
      exact List.cons_lt_cons_iff.mpr (Or.inr ⟨rfl, before⟩)
    · rintro _ member ⟨way, call⟩ laterMember
      obtain ⟨visit, -, rfl⟩ := List.mem_map.mp member
      obtain ⟨index, -, inner, -, -, rfl⟩ := (laterComplete way call).mp laterMember
      exact List.cons_lt_cons_iff.mpr (Or.inl (by omega))
  · intro way call
    rw [List.mem_append, laterComplete, leadsThrough_cons, List.mem_map]
    refine or_congr_left ⟨?_, ?_⟩
    · rintro ⟨⟨inner, found⟩, member, equality⟩
      obtain ⟨rfl, rfl⟩ := Prod.mk.inj equality
      exact ⟨inner, (complete inner found).mp member, rfl⟩
    · rintro ⟨inner, leads, rfl⟩
      exact ⟨(inner, call), (complete inner call).mpr leads, rfl⟩

end ListsByWay

mutual

theorem Segment.listsByWay :
    ∀ segment : Segment, ListsByWay segment.calls segment.LeadsTo
  | .literal _ | .quoted _ | .field _ =>
      .of_nowhere fun way call leads => by cases leads
  | .call name arguments position => by
      have inner := (listsByWay_arguments arguments 0).self ⟨name, arguments, position⟩
        (fun call ⟨index, argument, way, _, _, impossible⟩ => List.cons_ne_nil _ _ impossible.symm)
      refine inner.of_iff fun way call => ⟨?_, ?_⟩
      · rintro (⟨rfl, rfl⟩ | ⟨index, argument, way, listed, leads, rfl⟩)
        · exact .self name arguments position
        · rw [Nat.zero_add]
          exact .argument listed leads
      · intro leads
        cases leads with
        | self =>
            exact Or.inl ⟨rfl, rfl⟩
        | argument listed inside =>
            exact Or.inr ⟨_, _, _, listed, inside, by rw [Nat.zero_add]⟩
  | .conditional body => by
      refine body.listsByWay.of_iff fun way call => ⟨.body, ?_⟩
      intro leads
      cases leads with
      | body inside =>
          exact inside

theorem Template.listsByWay :
    ∀ template : Template, ListsByWay template.calls template.LeadsTo
  | ⟨segments⟩ => by
      refine (listsByWay_segments segments 0).of_iff fun way call => ⟨?_, ?_⟩
      · rintro ⟨index, segment, inner, listed, leads, rfl⟩
        rw [Nat.zero_add]
        exact .segment listed leads
      · intro leads
        cases leads with
        | segment listed inside =>
            exact ⟨_, _, _, listed, inside, by rw [Nat.zero_add]⟩

theorem listsByWay_segments :
    ∀ (segments : List Segment) (start : Nat),
      ListsByWay (callsInSegments segments) (LeadsThrough Segment.LeadsTo segments start)
  | [], _ => .of_nowhere fun way call ⟨_, _, _, listed, _⟩ => by simp at listed
  | segment :: rest, start => segment.listsByWay.cons (listsByWay_segments rest (start + 1))

theorem listsByWay_arguments :
    ∀ (arguments : List Template) (start : Nat),
      ListsByWay (callsInArguments arguments) (LeadsThrough Template.LeadsTo arguments start)
  | [], _ => .of_nowhere fun way call ⟨_, _, _, listed, _⟩ => by simp at listed
  | argument :: rest, start => argument.listsByWay.cons (listsByWay_arguments rest (start + 1))

end

/-! ## Positions of placed calls -/

/-- The positions of the dollar signs among openings. -/
def dollarPositions (openings : List Opening) : List Nat :=
  (openings.filter fun opening => opening.character = '$').map (·.location.position)

theorem dollarPositions_append (first second : List Opening) :
    dollarPositions (first ++ second) = dollarPositions first ++ dollarPositions second := by
  rw [dollarPositions, List.filter_append, List.map_append, dollarPositions, dollarPositions]

mutual

/-- Placing gives a call the position of its dollar sign. -/
theorem Segment.positions_calls_placed :
    ∀ (segment : Segment) (depth : Nat) (here : Location),
      (segment.placed here.position).calls.map Call.position =
        dollarPositions (segment.openings depth here)
  | .literal _, _, _ | .quoted _, _, _ | .field _, _, _ => rfl
  | .call name arguments _, depth, here => by
      have inner := positions_callsInArguments_placed arguments (depth + 1)
        (here.after ('$' :: name.toList ++ ['(']))
      have opened : (here.after ('$' :: name.toList ++ ['('])).position =
          here.position + name.toList.length + 2 := by
        simp only [Location.position_after, List.length_append, List.length_cons,
          List.length_nil]
        omega
      rw [opened] at inner
      rw [Segment.placed, Segment.calls, List.map_cons, inner, Segment.openings]
      rfl
  | .conditional body, depth, here => by
      have inner := body.positions_calls_placed (depth + 1) (here.next '[')
      rw [Location.position_next] at inner
      rw [Segment.placed, Segment.calls, inner, Segment.openings]
      rfl

theorem Template.positions_calls_placed :
    ∀ (template : Template) (depth : Nat) (here : Location),
      (template.placed here.position).calls.map Call.position =
        dollarPositions (template.openings depth here)
  | ⟨segments⟩, depth, here => positions_callsInSegments_placed segments depth here

theorem positions_callsInSegments_placed :
    ∀ (segments : List Segment) (depth : Nat) (here : Location),
      (callsInSegments (placedSegments segments here.position)).map Call.position =
        dollarPositions (segmentOpenings segments depth here)
  | [], _, _ => rfl
  | segment :: rest, depth, here => by
      have others := positions_callsInSegments_placed rest depth (here.after segment.characters)
      rw [Location.position_after] at others
      rw [placedSegments, callsInSegments, List.map_append,
        segment.positions_calls_placed depth here, others, segmentOpenings,
        dollarPositions_append]

theorem positions_callsInArguments_placed :
    ∀ (arguments : List Template) (depth : Nat) (here : Location),
      (callsInArguments (placedArguments arguments here.position)).map Call.position =
        dollarPositions (argumentOpenings arguments depth here)
  | [], _, _ => rfl
  | argument :: rest, depth, here => by
      have others := positions_callsInArguments_placed rest depth
        ((here.after argument.characters).next ',')
      rw [Location.position_next, Location.position_after] at others
      rw [placedArguments, callsInArguments, List.map_append,
        argument.positions_calls_placed depth here, others, argumentOpenings,
        dollarPositions_append]

end

/-- The calls of a placed template are listed from left to right. -/
theorem Template.pairwise_calls_placed (template : Template) :
    (template.placed 0).calls.Pairwise fun first second =>
      first.position < second.position := by
  have positions := template.positions_calls_placed 0 .start
  -- All openings ascend, and with them those that are dollar signs.
  have ordered := (template.pairwise_openings 0 .start).filter
    fun opening => opening.character = '$'
  rw [← List.pairwise_map (f := fun opening : Opening => opening.location.position)
      (R := (· < ·)), ← dollarPositions, ← positions, List.pairwise_map] at ordered
  exact ordered

/-! ## Warnings -/

namespace Warning

def name : Warning → String
  | unknownFunction name _ _ => name
  | argumentCount name _ _ _ => name

def position : Warning → Nat
  | unknownFunction _ position _ => position
  | argumentCount _ position _ _ => position

/-- At the position of the warning stands a dollar sign, directly followed by the name of
the function and a parenthesis. -/
def PointsInto (warning : Warning) (source : List Char) : Prop :=
  ∃ before after,
    source = before ++ '$' :: warning.name.toList ++ '(' :: after ∧
      before.length = warning.position

theorem pointsInto_of_standsIn {warning : Warning} {call : Call} {source : List Char}
    (name : warning.name = call.name) (position : warning.position = call.position)
    (stands : call.StandsIn source) : warning.PointsInto source := by
  obtain ⟨before, after, split, length⟩ := stands
  refine ⟨before, argumentCharacters call.arguments ++ ')' :: after, ?_, ?_⟩
  · rw [split, name]
    simp [Call.segment, Segment.characters]
  · rw [length, position]

end Warning

/-- A warning has the name and the position of its call. -/
theorem Lint.of_warning?_eq_some {call : Call} {warning : Warning}
    (warned : warning? call = some warning) :
    warning.name = call.name ∧ warning.position = call.position := by
  rw [warning?] at warned
  by_cases known : Catalog.isKnown (Catalog.canonicalName call.name)
  · rw [if_pos known, Option.map_eq_some_iff] at warned
    obtain ⟨expected, -, rfl⟩ := warned
    exact ⟨rfl, rfl⟩
  · rw [if_neg known, Option.some.injEq] at warned
    rw [← warned]
    exact ⟨rfl, rfl⟩

namespace Template

theorem pairwise_warnings {template : Template}
    (ordered : template.calls.Pairwise fun first second => first.position < second.position) :
    template.warnings.Pairwise fun first second => first.position < second.position := by
  refine ordered.filterMap _ fun first second before warning warned other otherWarned => ?_
  rw [(Lint.of_warning?_eq_some warned).2, (Lint.of_warning?_eq_some otherWarned).2]
  exact before

/-- A template that is read from a source lists each of its calls once, whatever blocks
and arguments they lie in, and lists them from left to right.  So its warnings come from
left to right, and each points at a call of the function that it names.  Within the
default limit these are the warnings about the source. -/
theorem calls_in_source_order {limit : Nat} {source : String} {template : Template}
    (accepted : Template.parse limit source = .ok template) :
    ListsByWay template.calls template.LeadsTo ∧
      template.calls.Pairwise (fun first second => first.position < second.position) ∧
      template.warnings.Pairwise (fun first second => first.position < second.position) ∧
      (∀ warning ∈ template.warnings, warning.PointsInto source.toList) ∧
      (limit = defaultDepth → Template.lint source = .ok template.warnings) := by
  obtain ⟨-, -, written⟩ := isCanonical_of_parse accepted
  have placed := placed_of_parse accepted
  have ordered := template.pairwise_calls_placed
  rw [placed] at ordered
  refine ⟨template.listsByWay, ordered, pairwise_warnings ordered, ?points, ?linted⟩
  case points =>
    intro warning member
    obtain ⟨call, called, warned⟩ := List.mem_filterMap.mp member
    obtain ⟨name, position⟩ := Lint.of_warning?_eq_some warned
    have stands := template.standsIn_source_of_mem_calls_placed call (placed.symm ▸ called)
    rw [written] at stands
    exact Warning.pointsInto_of_standsIn name position stands
  case linted =>
    rintro rfl
    rw [Template.lint, accepted]
    rfl

/-- All three calls of `[$if($len())]$len(a,b)` have warnings, and the second one lies in
an argument inside a block. -/
theorem calls_in_source_order_sample :
    let template : Template := ⟨[.conditional ⟨[.call "if" [⟨[.call "len" [] 5]⟩] 1]⟩,
      .call "len" [⟨[.literal "a"]⟩, ⟨[.literal "b"]⟩] 13]⟩
    Template.parse defaultDepth "[$if($len())]$len(a,b)" = .ok template ∧
      ListsByWay template.calls template.LeadsTo ∧
      template.LeadsTo [0, 0, 0, 0] ⟨"len", [], 5⟩ ∧
      template.calls.Pairwise (fun first second => first.position < second.position) ∧
      Template.lint "[$if($len())]$len(a,b)" = .ok
        [.argumentCount "if" 1 1 "2 or 3", .argumentCount "len" 5 0 "1",
          .argumentCount "len" 13 2 "1"] ∧
      (Warning.argumentCount "len" 5 0 "1").PointsInto "[$if($len())]$len(a,b)".toList := by
  intro template
  have accepted : Template.parse defaultDepth "[$if($len())]$len(a,b)" = .ok template := rfl
  have warnings : template.warnings =
      [.argumentCount "if" 1 1 "2 or 3", .argumentCount "len" 5 0 "1",
        .argumentCount "len" 13 2 "1"] := by
    decide +kernel
  have inside : template.LeadsTo [0, 0, 0, 0] ⟨"len", [], 5⟩ :=
    .segment rfl (.body (.segment rfl (.argument rfl (.segment rfl (.self "len" [] 5)))))
  obtain ⟨lists, ordered, -, points, linted⟩ := calls_in_source_order accepted
  rw [warnings] at points linted
  exact ⟨accepted, lists, inside, ordered, linted rfl, points _ (by simp)⟩

end Template

end TitleFormatting
