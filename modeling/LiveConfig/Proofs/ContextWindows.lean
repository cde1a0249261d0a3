import LiveConfig.Proofs.RecorderTraces
import LiveConfig.Proofs.WrittenContexts
import Mathlib.Data.List.DropRight

/-!
# Contexts are reported by windows

A recorder that keeps examples and shapes reports them for the contexts that it has been shown since
the part in question was last emptied. Draining, submitting and clearing empty a part; looking at it
does not. The examples are the first contexts of their identities, in the order in which they came,
and contexts without an identity are not among them. The shapes name the groups of all these
contexts, those without properties included, and give each property the type of its first value.

Each part has a window of its own, so emptying one part is not felt in the report of another. Times
are not kept, and parts are looked at one by one.
-/

namespace LiveConfig

namespace Telemetry

/-- A context stands at a place of a list and is the first one there of its identity. -/
structure StandsFirst (contexts : List Context) (place : Nat) (c : Context) : Prop where
  here : contexts[place]? = some c
  identified : c.identity ≠ ""
  fresh : ∀ earlier ∈ contexts.take place, earlier.identity ≠ c.identity

/-- The contexts of a list that are the first ones of their identities, in the order of the list. -/
def FirstOfEach (contexts kept : List Context) : Prop :=
  ∃ places : List Nat, places.Pairwise (· < ·) ∧
    (∀ place, place ∈ places ↔ ∃ c, StandsFirst contexts place c) ∧
    places.map (contexts[·]?) = kept.map some

/-- What stands first stands within the list. -/
theorem StandsFirst.inside {contexts : List Context} {place : Nat} {c : Context}
    (first : StandsFirst contexts place c) : place < contexts.length :=
  (List.getElem?_eq_some_iff.mp first.here).1

/-- At the end of a list, a context stands first if it has an identity that did not occur. The
places before are as they were. -/
theorem standsFirst_concat (contexts : List Context) (last c : Context) (place : Nat) :
    StandsFirst (contexts ++ [last]) place c ↔ StandsFirst contexts place c ∨
      place = contexts.length ∧ c = last ∧ last.identity ≠ "" ∧
        ∀ earlier ∈ contexts, earlier.identity ≠ last.identity := by
  rcases Nat.lt_trichotomy place contexts.length with before | rfl | beyond
  · have within : contexts.take place = (contexts ++ [last]).take place :=
      (List.take_append_of_le_length (Nat.le_of_lt before)).symm
    have value : contexts[place]? = (contexts ++ [last])[place]? :=
      (List.getElem?_append_left before).symm
    constructor
    · rintro ⟨here, identified, fresh⟩
      exact .inl ⟨value.trans here, identified, within ▸ fresh⟩
    · rintro (⟨here, identified, fresh⟩ | ⟨same, -⟩)
      · exact ⟨value.symm.trans here, identified, within ▸ fresh⟩
      · exact absurd same (Nat.ne_of_lt before)
  · have within : (contexts ++ [last]).take contexts.length = contexts := List.take_left
    constructor
    · rintro ⟨here, identified, fresh⟩
      rw [List.getElem?_concat_length, Option.some.injEq] at here
      subst here
      rw [within] at fresh
      exact .inr ⟨rfl, rfl, identified, fresh⟩
    · rintro (first | ⟨-, rfl, identified, fresh⟩)
      · exact absurd first.inside (Nat.lt_irrefl _)
      · exact ⟨List.getElem?_concat_length, identified, within.symm ▸ fresh⟩
  · constructor
    · intro first
      have inside := first.inside
      rw [List.length_append, List.length_singleton] at inside
      omega
    · rintro (first | ⟨rfl, -⟩)
      · exact absurd first.inside (Nat.not_lt.mpr (Nat.le_of_lt beyond))
      · exact absurd beyond (Nat.lt_irrefl _)

/-- Every identity that occurs has a context that stands first. -/
theorem exists_standsFirst (contexts : List Context) (c : Context) (member : c ∈ contexts)
    (identified : c.identity ≠ "") :
    ∃ place first, StandsFirst contexts place first ∧ first.identity = c.identity := by
  induction contexts using List.reverseRecOn generalizing c with
  | nil => simp at member
  | append_singleton contexts last inductionHypothesis =>
    have earlier (d : Context) (among : d ∈ contexts) (same : d.identity = c.identity) :
        ∃ place first, StandsFirst (contexts ++ [last]) place first ∧
          first.identity = c.identity := by
      obtain ⟨place, first, stands, named⟩ := inductionHypothesis d among (same ▸ identified)
      exact ⟨place, first, (standsFirst_concat ..).mpr (.inl stands), named.trans same⟩
    obtain among | isLast := List.mem_append.mp member
    · exact earlier c among rfl
    obtain rfl := List.mem_singleton.mp isLast
    by_cases known : ∃ d ∈ contexts, d.identity = c.identity
    · obtain ⟨d, among, same⟩ := known
      exact earlier d among same
    · refine ⟨contexts.length, c, (standsFirst_concat ..).mpr (.inr ?_), rfl⟩
      exact ⟨rfl, rfl, identified, fun d among same => known ⟨d, among, same⟩⟩

/-- The identities of the first contexts are those that occur. -/
theorem FirstOfEach.identity_kept {contexts kept : List Context} (first : FirstOfEach contexts kept)
    (identity : String) (identified : identity ≠ "") :
    (∃ c ∈ kept, c.identity = identity) ↔ ∃ c ∈ contexts, c.identity = identity := by
  obtain ⟨places, -, standing, shown⟩ := first
  constructor
  · rintro ⟨c, member, same⟩
    have listed : some c ∈ places.map (contexts[·]?) := shown ▸ List.mem_map_of_mem member
    obtain ⟨place, -, here⟩ := List.mem_map.mp listed
    exact ⟨c, List.mem_of_getElem? here, same⟩
  · rintro ⟨d, member, rfl⟩
    obtain ⟨place, c, stands, same⟩ := exists_standsFirst contexts d member identified
    have listed : some c ∈ kept.map some := by
      rw [← shown, ← stands.here]
      exact List.mem_map_of_mem ((standing place).mpr ⟨c, stands⟩)
    obtain ⟨e, among, equal⟩ := List.mem_map.mp listed
    obtain rfl := Option.some.inj equal
    exact ⟨e, among, same⟩

/-- Nothing has come first at first. -/
theorem firstOfEach_nil : FirstOfEach [] [] :=
  ⟨[], .nil, fun place => by simpa using fun c first => by simpa using first.inside, rfl⟩

/-- Recording a context preserves that the first ones are kept. -/
theorem FirstOfEach.record {contexts kept : List Context} (first : FirstOfEach contexts kept)
    (last : Context) : FirstOfEach (contexts ++ [last]) (Examples.record kept last) := by
  have known := first.identity_kept last.identity
  obtain ⟨places, ascending, standing, shown⟩ := first
  have inside (place : Nat) (member : place ∈ places) : place < contexts.length := by
    obtain ⟨c, stands⟩ := (standing place).mp member
    exact stands.inside
  have still : places.map ((contexts ++ [last])[·]?) = kept.map some := by
    rw [← shown]
    exact List.map_congr_left fun place member => List.getElem?_append_left (inside place member)
  unfold Examples.record
  split
  -- A context is left out if it has no identity or its identity is kept; by `known`, an identity is
  -- kept exactly if it has occurred.
  · next skipped =>
    refine ⟨places, ascending, fun place => ?_, still⟩
    rw [standing]
    refine exists_congr fun c => ?_
    rw [standsFirst_concat, iff_self_or]
    rintro ⟨-, -, identified, fresh⟩
    have found : ∃ c ∈ kept, c.identity = last.identity := by
      simpa [identified] using skipped
    obtain ⟨d, member, same⟩ := (known identified).mp found
    exact absurd same (fresh d member)
  · next kept' =>
    have identified : last.identity ≠ "" := fun empty => kept' (by simp [empty])
    have fresh : ∀ earlier ∈ contexts, earlier.identity ≠ last.identity := by
      intro d member same
      obtain ⟨c, among, equal⟩ := (known identified).mpr ⟨d, member, same⟩
      refine kept' ?_
      rw [Bool.or_eq_true, List.any_eq_true]
      exact .inr ⟨c, among, beq_iff_eq.mpr equal⟩
    refine ⟨places ++ [contexts.length], ?_, fun place => ?_, ?_⟩
    · rw [List.pairwise_append]
      refine ⟨ascending, List.pairwise_singleton .., fun place member end' isEnd => ?_⟩
      obtain rfl := List.mem_singleton.mp isEnd
      exact inside place member
    · simp only [standsFirst_concat, List.mem_append, List.mem_singleton, standing, exists_or,
        exists_and_left, exists_eq_left]
      exact or_congr_right ⟨fun same => ⟨same, identified, fresh⟩, And.left⟩
    · rw [List.map_append, still, List.map_append, List.map_singleton, List.map_singleton,
        List.getElem?_concat_length]

namespace Shapes

/-- The type that is known of a property of a group. -/
def codeAt? (shapes : Shapes) (group property : String) : Option Nat :=
  shapes[group]? >>= fun codes => codes[property]?

/-- Recording a group makes it known, and no other one. -/
theorem mem_recordGroup (shapes : Shapes) (group name : String) (properties : Properties) :
    name ∈ shapes.recordGroup group properties ↔ name ∈ shapes ∨ group = name := by
  rw [recordGroup, Std.ExtTreeMap.mem_alter]
  by_cases same : group = name
  · simp [same]
  · simp [same, or_false]

/-- Recording a group makes the types of its properties known that were not known before. -/
theorem codeAt?_recordGroup (shapes : Shapes) (name group property : String)
    (properties : Properties) : (shapes.recordGroup name properties).codeAt? group property =
      (shapes.codeAt? group property).or
        (if name = group then properties[property]?.map shapeCode else none) := by
  rw [recordGroup, codeAt?, codeAt?, Std.ExtTreeMap.getElem?_alter]
  by_cases same : name = group
  · subst same
    rw [if_pos Std.ReflCmp.compare_self, if_pos rfl, Option.bind_eq_bind, Option.bind_some,
      Std.ExtTreeMap.getElem?_union, Std.ExtTreeMap.getElem?_map]
    cases shapes[name]? <;> simp
  · rw [if_neg (by simpa using same), if_neg same, Option.or_none]

/-- A context is recorded group by group. -/
theorem record_eq (shapes : Shapes) (context : Context) : shapes.record context =
    context.toList.foldl (fun shapes entry => shapes.recordGroup entry.1 entry.2) shapes :=
  rfl

/-- The groups that are known after a context are those known before and those of the context. -/
theorem mem_record (shapes : Shapes) (context : Context) (group : String) :
    group ∈ shapes.record context ↔ group ∈ shapes ∨ group ∈ context := by
  have listed (groups : List (String × Properties)) (shapes : Shapes) :
      group ∈ groups.foldl (fun shapes entry => shapes.recordGroup entry.1 entry.2) shapes ↔
        group ∈ shapes ∨ group ∈ groups.map Prod.fst := by
    induction groups generalizing shapes with
    | nil => simp
    | cons entry groups inductionHypothesis =>
      rw [List.foldl_cons, inductionHypothesis, mem_recordGroup, List.map_cons, List.mem_cons,
        or_assoc, eq_comm]
  rw [record_eq, listed, Std.ExtTreeMap.map_fst_toList_eq_keys, Std.ExtTreeMap.mem_keys]

/-- Looking for a group in the listing of a context is looking it up. -/
theorem findSome?_groups {β : Type} (context : Context) (group : String)
    (view : Properties → Option β) :
    (context.toList.findSome? fun entry => if entry.1 = group then view entry.2 else none) =
      context[group]?.bind view := by
  have listed (name : String) (properties : Properties) :
      (name, properties) ∈ context.toList ↔ context[name]? = some properties :=
    Std.ExtTreeMap.mem_toList_iff_getElem?_eq_some
  cases result : context.toList.findSome? fun entry =>
    if entry.1 = group then view entry.2 else none with
  | some b =>
    obtain ⟨⟨name, properties⟩, member, answer⟩ := List.exists_of_findSome?_eq_some result
    obtain ⟨rfl, found⟩ := Option.ite_none_right_eq_some.mp answer
    rw [(listed name properties).mp member, Option.bind_some, found]
  | none =>
    rw [List.findSome?_eq_none_iff] at result
    cases held : context[group]? with
    | none => rfl
    | some properties =>
      have unanswered := result (group, properties) ((listed group properties).mpr held)
      rw [if_pos rfl] at unanswered
      exact unanswered.symm

/-- The types that are known after a context are those known before and those of the values in the
context. -/
theorem codeAt?_record (shapes : Shapes) (context : Context) (group property : String) :
    (shapes.record context).codeAt? group property =
      (shapes.codeAt? group property).or ((context.valueAt? group property).map shapeCode) := by
  have listed (groups : List (String × Properties)) (shapes : Shapes) :
      (groups.foldl (fun shapes entry => shapes.recordGroup entry.1 entry.2)
          shapes).codeAt? group property =
        (shapes.codeAt? group property).or (groups.findSome? fun entry =>
          if entry.1 = group then entry.2[property]?.map shapeCode else none) := by
    induction groups generalizing shapes with
    | nil => simp
    | cons entry groups inductionHypothesis =>
      rw [List.foldl_cons, inductionHypothesis, codeAt?_recordGroup, Option.or_assoc,
        List.findSome?_cons]
      congr 1
      cases (if entry.1 = group then entry.2[property]?.map shapeCode else none) <;> rfl
  have here := findSome?_groups context group fun properties => properties[property]?.map shapeCode
  rw [record_eq, listed, here, Context.valueAt?, Option.bind_eq_bind, Option.map_bind]
  rfl

end Shapes

/-- What shapes say of contexts: their groups in ascending order, and the type of the first value of
each property. -/
structure ShapesOf (contexts : List Context) (shapes : Shapes) : Prop where
  groups : ∀ group, group ∈ shapes ↔ ∃ context ∈ contexts, group ∈ context
  ascending : shapes.keys.Pairwise (· < ·)
  types : ∀ group property, shapes.codeAt? group property =
    (contexts.findSome? (·.valueAt? group property)).map shapeCode

/-- Nothing is known of no contexts. -/
theorem shapesOf_nil : ShapesOf [] ∅ where
  groups group := by simp
  ascending := KeyedTable.keys_pairwise_lt ∅
  types group property := by simp [Shapes.codeAt?]

/-- Recording a context preserves what shapes say. -/
theorem ShapesOf.record {contexts : List Context} {shapes : Shapes}
    (said : ShapesOf contexts shapes) (last : Context) :
    ShapesOf (contexts ++ [last]) (shapes.record last) where
  groups group := by
    rw [Shapes.mem_record, said.groups]
    simp [or_and_right, exists_or]
  ascending := KeyedTable.keys_pairwise_lt _
  types group property := by
    rw [Shapes.codeAt?_record, said.types, List.findSome?_append, List.findSome?_singleton]
    cases contexts.findSome? (·.valueAt? group property) <;> rfl

/-- What happens to a recorder whose parts are also cleared and looked at. -/
inductive Move where
  /-- The recorder observes something, or is drained. -/
  | acted (act : Act)
  /-- A part is cleared. -/
  | cleared (part : Part)
  /-- A part is looked at: its report is taken and it is kept. -/
  | viewed (part : Part)

namespace Move

/-- Whether nothing is kept of a part after a move. -/
def empties : Move → Part → Bool
  | acted act, part => act.drains part
  | cleared one, part => one = part
  | viewed _, _ => false

/-- Whether a move takes a report of a part. -/
def reports : Move → Part → Bool
  | acted act, part => act.drains part
  | cleared _, _ => false
  | viewed one, part => one = part

/-- Whether a move drains or clears only parts other than a given one, or only looks at parts. -/
def spares : Move → Part → Bool
  | acted (.drainedPart one), part | cleared one, part => one ≠ part
  | viewed _, _ => true
  | acted _, _ => false

/-- The contexts that a move shows. -/
def contexts : Move → List Context
  | acted act => act.contexts
  | cleared _ | viewed _ => []

/-- The resolutions that a move shows. -/
def resolutions : Move → List Resolution
  | acted act => act.answers
  | cleared _ | viewed _ => []

/-- A move that spares a part shows nothing, and does not empty the part. -/
theorem spared (move : Move) (part : Part) (spares : move.spares part = true) :
    move.empties part = false ∧ move.contexts = [] ∧ move.resolutions = [] := by
  cases move with
  | acted act =>
    cases act with
    | drainedPart one => exact ⟨by simpa [Move.spares, empties, Act.drains] using spares, rfl, rfl⟩
    | resolved | asked | drained | submitted => simp [Move.spares] at spares
  | cleared one => exact ⟨by simpa [Move.spares, empties] using spares, rfl, rfl⟩
  | viewed one => exact ⟨rfl, rfl, rfl⟩

end Move

/-- The contexts that have been shown since a part was last emptied. -/
def contextsSince (part : Part) (moves : List Move) : List Context :=
  (moves.rtakeWhile fun move => !move.empties part).flatMap Move.contexts

/-- A move that empties a part begins a window, and any other one adds to it what it shows. -/
theorem contextsSince_concat (part : Part) (moves : List Move) (move : Move) :
    contextsSince part (moves ++ [move]) =
      if move.empties part then [] else contextsSince part moves ++ move.contexts := by
  rw [contextsSince, List.rtakeWhile_concat]
  cases move.empties part with
  | true => rfl
  | false => simp [contextsSince]

namespace Recorder

/-- The recorder after a move. -/
def move (r : Recorder) : Move → Recorder
  | .acted act => r.perform act
  | .cleared part => r.forget part
  | .viewed _ => r

/-- The reports that a move takes. -/
def answer (r : Recorder) : Move → List Report
  | .acted act => r.reported act
  | .cleared _ => []
  | .viewed part => (r.reportOf? part).toList

/-- The recorder after moves in turn. -/
def after (r : Recorder) (moves : List Move) : Recorder :=
  moves.foldl move r

/-- The reports that moves take in turn, move by move. -/
def answers (r : Recorder) : List Move → List (List Report)
  | [] => []
  | move :: moves => r.answer move :: (r.move move).answers moves

/-- A move of a trace takes what it would take after the moves before it. -/
theorem getElem?_answers (r : Recorder) (moves : List Move) (n : Nat) :
    (r.answers moves)[n]? = moves[n]?.map (r.after (moves.take n)).answer := by
  induction moves generalizing r n with
  | nil => rfl
  | cons move moves inductionHypothesis =>
    cases n with
    | zero => rfl
    | succ n =>
      rw [answers, List.getElem?_cons_succ, List.getElem?_cons_succ, inductionHypothesis]
      rfl

/-- What a move leaves of each part: nothing if it empties the part, and otherwise what is kept with
what the move shows. -/
theorem move_eq (r : Recorder) (move : Move) : r.move move =
    { summaries := if move.empties .summaries then r.summaries.map fun _ => ∅
        else r.summaries.map (move.resolutions.foldl Tallies.record)
      examples := if move.empties .examples then r.examples.map fun _ => []
        else r.examples.map (move.contexts.foldl Examples.record)
      shapes := if move.empties .shapes then r.shapes.map fun _ => ∅
        else r.shapes.map (move.contexts.foldl Shapes.record) } := by
  cases move with
  | acted act => exact r.perform_eq act
  | cleared part =>
    cases part <;> simp [Recorder.move, forget, clearSummaries, clearExamples, clearShapes,
      Move.empties, Move.contexts, Move.resolutions]
  | viewed part =>
    simp [Recorder.move, Move.empties, Move.contexts, Move.resolutions]

/-- Looking at a part takes what draining it would take. -/
theorem answer_viewed (r : Recorder) (part : Part) :
    r.answer (.viewed part) = r.reported (.drainedPart part) :=
  rfl

/-- Where acts take a part by its report, moves do. -/
theorem answer_part {α : Type} (r : Recorder) (part : Part) (read : Report → Option α)
    (report : Option α)
    (taken : ∀ act, (r.reported act).filterMap read = (act.taken part report).toList)
    (move : Move) : (r.answer move).filterMap read =
      if move.reports part then report.toList else [] := by
  have acted (act : Act) : (r.reported act).filterMap read =
      if act.drains part then report.toList else [] := by
    rw [taken, Act.taken]
    split <;> rfl
  cases move with
  | acted act => exact acted act
  | cleared part => rfl
  | viewed one => exact r.answer_viewed one ▸ acted (.drainedPart one)

/-- Two recorders keep the same of a part. -/
def KeepSame : Part → Recorder → Recorder → Prop
  | .summaries, r, r' => r.summaries = r'.summaries
  | .examples, r, r' => r.examples = r'.examples
  | .shapes, r, r' => r.shapes = r'.shapes

/-- What is reported of a part depends on what is kept of it. -/
theorem KeepSame.reportOf? {part : Part} {r r' : Recorder} (same : KeepSame part r r') :
    r.reportOf? part = r'.reportOf? part := by
  cases part <;> simp only [KeepSame] at same <;>
    simp only [Recorder.reportOf?, summaryReport?, exampleReport?, shapeReport?, same]

/-- A move preserves that the same is kept of a part, whatever is kept of the others. -/
theorem KeepSame.move {part : Part} {r r' : Recorder} (same : KeepSame part r r') (move : Move) :
    KeepSame part (r.move move) (r'.move move) := by
  rw [move_eq, move_eq]
  cases part <;> simp only [KeepSame] at same ⊢ <;> rw [same]

/-- A move that spares a part preserves that the same is kept of it. -/
theorem KeepSame.spared {part : Part} {r r' : Recorder} (same : KeepSame part r r') (move : Move)
    (spares : move.spares part = true) : KeepSame part r (r'.move move) := by
  obtain ⟨kept, contexts, resolutions⟩ := move.spared part spares
  rw [move_eq]
  cases part <;> simp only [KeepSame] at same ⊢ <;>
    simp only [kept, contexts, resolutions, List.foldl_nil, Option.map_id_fun', Bool.false_eq_true,
      if_false, same, id]

/-- Moves that spare a part may be left out: what is kept of the part is the same. -/
theorem keepSame_after (part : Part) (moves : List Move) (r r' : Recorder)
    (same : KeepSame part r r') :
    KeepSame part (r.after (moves.filter fun move => !move.spares part)) (r'.after moves) := by
  induction moves generalizing r r' with
  | nil => exact same
  | cons move moves inductionHypothesis =>
    cases spares : move.spares part with
    | true =>
      rw [List.filter_cons_of_neg (by simp [spares])]
      exact inductionHypothesis r (r'.move move) (same.spared move spares)
    | false =>
      rw [List.filter_cons_of_pos (by simp [spares])]
      exact inductionHypothesis _ _ (same.move move)

/-- What holds of what is kept of a part when nothing has been shown, and what showing a context
preserves, holds at every moment for the contexts since the part was last emptied. -/
theorem kept_since {σ : Type} (part : Part) (view : Recorder → Option σ) (nothing : σ)
    (record : σ → Context → σ) (moved : ∀ (r : Recorder) (move : Move), view (r.move move) =
      if move.empties part then (view r).map fun _ => nothing
      else (view r).map (move.contexts.foldl record))
    (P : List Context → σ → Prop) (vacant : P [] nothing)
    (preserved : ∀ contexts kept last, P contexts kept → P (contexts ++ [last]) (record kept last))
    (r : Recorder) (begun : view r = some nothing) (moves : List Move) :
    ∃ kept, view (r.after moves) = some kept ∧ P (contextsSince part moves) kept := by
  have recorded (contexts more : List Context) (kept : σ) (holds : P contexts kept) :
      P (contexts ++ more) (more.foldl record kept) := by
    induction more generalizing contexts kept with
    | nil => rwa [List.append_nil]
    | cons first more inductionHypothesis =>
      have rest := inductionHypothesis _ _ (preserved contexts kept first holds)
      rwa [List.append_assoc, List.singleton_append] at rest
  -- The last move decides whether the window ends here, so the induction is from that end.
  induction moves using List.reverseRecOn with
  | nil => exact ⟨nothing, begun, vacant⟩
  | append_singleton moves move inductionHypothesis =>
    obtain ⟨kept, here, holds⟩ := inductionHypothesis
    rw [after, List.foldl_append, List.foldl_cons, List.foldl_nil, ← after, moved,
      contextsSince_concat, here]
    cases move.empties part with
    | true => exact ⟨nothing, rfl, vacant⟩
    | false => exact ⟨_, rfl, recorded _ move.contexts kept holds⟩

end Recorder

/-- What a move takes after other moves: the first contexts of the examples' window and the shapes
of the shapes' window, where the move reports the part and there is anything to report. -/
structure ReportsWindows (past : List Move) (move : Move) (answer : List Report) : Prop where
  examples : ∃ kept, FirstOfEach (contextsSince .examples past) kept ∧
    answer.filterMap Report.examples? =
      if move.reports .examples ∧ kept ≠ [] then [kept.map WrittenContext.of] else []
  shapes : ∃ shapes, ShapesOf (contextsSince .shapes past) shapes ∧
    answer.filterMap Report.shapes? =
      if move.reports .shapes ∧ ¬shapes.isEmpty then [shapes] else []

/-- At every moment, a recorder that keeps examples and shapes reports their windows. -/
theorem reportsWindows_after (summaries : Bool) (past : List Move) (move : Move) :
    ReportsWindows past move (((Recorder.start summaries .examples).after past).answer move) where
  examples := by
    obtain ⟨kept, here, first⟩ := Recorder.kept_since .examples Recorder.examples [] Examples.record
      (fun r move => by rw [r.move_eq]) FirstOfEach firstOfEach_nil
      (fun _ _ last first => first.record last) (.start summaries .examples) rfl past
    refine ⟨kept, first, ?_⟩
    rw [Recorder.answer_part _ .examples Report.examples? _ (Recorder.reported_examples _),
      Recorder.exampleReport?, here]
    cases move.reports .examples <;> cases kept <;> rfl
  shapes := by
    obtain ⟨shapes, here, said⟩ := Recorder.kept_since .shapes Recorder.shapes ∅ Shapes.record
      (fun r move => by rw [r.move_eq]) ShapesOf shapesOf_nil
      (fun _ _ last said => said.record last) (.start summaries .examples) rfl past
    refine ⟨shapes, said, ?_⟩
    rw [Recorder.answer_part _ .shapes Report.shapes? _ (Recorder.reported_shapes _),
      Recorder.shapeReport?, here]
    show (if _ then (Shapes.report? shapes).toList else []) = _
    rw [Shapes.report?]
    cases move.reports .shapes <;> cases shapes.isEmpty <;> rfl

/-- Contexts are reported by windows. In every trace of a recorder that keeps examples and shapes,
each move takes what the windows of the two parts hold at that moment. Looking at a part changes
nothing, and a trace without the moves that look at parts or empty others than a given one leaves
the same report of that part. An example tells which context it was written of, and a receiver gets
that context itself if its properties can be read at all. -/
theorem contexts_reported_by_window (summaries : Bool) (moves : List Move) :
    (∀ n move, moves[n]? = some move →
      ∃ answer, ((Recorder.start summaries .examples).answers moves)[n]? = some answer ∧
        ReportsWindows (moves.take n) move answer) ∧
    (∀ part, (Recorder.start summaries .examples).after (moves ++ [.viewed part]) =
      (Recorder.start summaries .examples).after moves) ∧
    (∀ part, ((Recorder.start summaries .examples).after
        (moves.filter fun move => !move.spares part)).reportOf? part =
      ((Recorder.start summaries .examples).after moves).reportOf? part) ∧
    (∀ context other, WrittenContext.of context = WrittenContext.of other → context = other) ∧
    ∀ context : Context, context.Readable → WrittenContext.read (.of context) = context := by
  refine ⟨fun n move here => ?_, fun part => ?_, fun part => ?_,
    fun _ _ same => WrittenContext.of_injective same, WrittenContext.read_of⟩
  · refine ⟨_, ?_, reportsWindows_after summaries (moves.take n) move⟩
    rw [Recorder.getElem?_answers, here, Option.map_some]
  · rw [Recorder.after, List.foldl_append]
    rfl
  · have same : Recorder.KeepSame part (.start summaries .examples)
        (.start summaries .examples) := by
      cases part <;> rfl
    exact (Recorder.keepSame_after part moves _ _ same).reportOf?

/-- The first contexts of a list are determined. -/
theorem FirstOfEach.unique {contexts kept others : List Context} (first : FirstOfEach contexts kept)
    (second : FirstOfEach contexts others) : kept = others := by
  obtain ⟨places, ascending, standing, shown⟩ := first
  obtain ⟨places', ascending', standing', shown'⟩ := second
  have same : places = places' := ascending.eq_of_mem_iff ascending' fun place =>
    (standing place).trans (standing' place).symm
  rw [same, shown'] at shown
  exact (Option.some_injective _).list_map shown.symm

/-- A user who states an age. -/
def visitor (age : Payload) : Context :=
  .ofGroups [("user", .ofPairs [("key", { payload := .text "u-1" }), ("age", { payload := age })])]

/-- The user states an age in two ways. The shapes are drained in between, and everything after. -/
def visits : List Move :=
  [.acted (.asked (visitor (.int 30))), .acted (.drainedPart .shapes), .viewed .examples,
    .acted (.asked (visitor (.text "thirty"))), .acted .drained]

/-- What is known of a visitor can be read, if the age can be. -/
theorem visitor_readable (age : Payload) (readable : Value.Readable { payload := age }) :
    (visitor age).Readable := by
  have key : Value.Readable { payload := .text "u-1" } :=
    Value.readable_of_wellFormed _ (by decide) (Nat.zero_le _) (by decide +kernel)
  intro group property v held
  obtain ⟨properties, there, found⟩ := Option.bind_eq_some_iff.mp held
  have properties_eq : properties =
      .ofPairs [("key", { payload := .text "u-1" }), ("age", { payload := age })] := by
    simp [visitor, Context.ofGroups, Std.ExtTreeMap.ofList_singleton,
      Std.ExtTreeMap.getElem?_insert] at there
    exact there.2.symm
  rw [properties_eq, Properties.ofPairs] at found
  have member := KeyedTable.mem_of_getElem?_ofList _ _ _ found
  simp only [List.mem_cons, Prod.mk.injEq, List.not_mem_nil, or_false] at member
  rcases member with ⟨-, rfl⟩ | ⟨-, rfl⟩
  · exact key
  · exact readable

/-- The last drain takes the first visit as the example, and the type of the second age. -/
theorem visits_reported : ∃ answer,
    ((Recorder.start false .examples).answers visits)[4]? = some answer ∧
      answer.filterMap Report.examples? = [[.of (visitor (.int 30))]] ∧
      WrittenContext.read (.of (visitor (.int 30))) = visitor (.int 30) ∧
      ∃ shapes, answer.filterMap Report.shapes? = [shapes] ∧
        shapes.codeAt? "user" "age" = some 2 := by
  obtain ⟨windows, -, -, -, read⟩ := contexts_reported_by_window false visits
  obtain ⟨answer, here, ⟨kept, first, examples⟩, shapes, said, shown⟩ :=
    windows 4 (.acted .drained) rfl
  refine ⟨answer, here, ?_, read _ ?_, shapes, ?_, said.types "user" "age"⟩
  · have known : FirstOfEach [visitor (.int 30), visitor (.text "thirty")] [visitor (.int 30)] :=
      (firstOfEach_nil.record (visitor (.int 30))).record (visitor (.text "thirty"))
    obtain rfl := first.unique known
    simpa [Move.reports, Act.drains] using examples
  · have age : Value.Readable { payload := .int 30 } :=
      Value.readable_of_wellFormed _ (by decide) (Nat.zero_le _) (by decide +kernel)
    exact visitor_readable _ age
  · have user : "user" ∈ shapes := (said.groups "user").mpr ⟨_, List.mem_singleton_self _, rfl⟩
    have filled : ¬shapes.isEmpty := fun empty =>
      Std.ExtTreeMap.ne_empty_of_mem user (Std.ExtTreeMap.isEmpty_iff.mp empty)
    rw [shown, if_pos ⟨rfl, filled⟩]

end Telemetry

end LiveConfig
