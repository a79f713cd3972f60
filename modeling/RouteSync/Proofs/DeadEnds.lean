import RouteSync.Proofs.Places

/-!
# Where steps end

Steps lead from the root of a tree by slot keys. Each of them can be taken or not, whatever the steps
after it are: `RouteTree.Passes` says so of one step by the place that the keys before it name. Steps
can be taken when each of them passes, and otherwise they fail at the first one that does not, for a
reason that lies in the node at its place.
-/

namespace RouteSync.RouteTree

/-- The step of an index can be taken: the slot keys before it name a node that matches the step and
has its slot. -/
def Passes (t : RouteTree) (steps : List Step) (i : Nat) : Prop :=
  ∃ step node, steps[i]? = some step ∧ t.place? ((steps.take i).map Step.key) = some node ∧
    node.segment.matchesSegment step.segment = true ∧ step.key ∈ node.slots.keys

/-- Why a step cannot be taken from a node; the segment is looked at before the slot. -/
inductive Blocks (node : RouteTree) (step : Step) : DeadEnd → Prop
  | segment (differs : node.segment.matchesSegment step.segment = false) :
      Blocks node step (.segmentDiffers step.segment node.segment)
  | slot (agrees : node.segment.matchesSegment step.segment = true)
      (missing : step.key ∉ node.slots.keys) : Blocks node step (.slotMissing step.key node.segment)

/-- The step of an index is the first that cannot be taken, for a reason that lies in the node that
the slot keys before it name. -/
structure StopsAt (t : RouteTree) (steps : List Step) (i : Nat) (reason : DeadEnd) : Prop where
  before : ∀ j < i, t.Passes steps j
  fails : ¬t.Passes steps i
  blocked : ∃ step node, steps[i]? = some step ∧
    t.place? ((steps.take i).map Step.key) = some node ∧ node.Blocks step reason

section Cons

variable {t child : RouteTree} {step : Step} {steps : List Step} {i : Nat} {reason other : DeadEnd}

/-- A step is blocked for one reason, or it can be taken. -/
theorem blocks_or_found (t : RouteTree) (step : Step) :
    (∃ reason, t.Blocks step reason) ∨ t.segment.matchesSegment step.segment = true ∧
      ∃ child, t.slots.get? step.key = some child := by
  cases agrees : t.segment.matchesSegment step.segment with
  | false => exact .inl ⟨_, .segment agrees⟩
  | true =>
    by_cases member : step.key ∈ t.slots.keys
    · exact .inr ⟨rfl, (Dict.mem_keys_iff ..).1 member⟩
    · exact .inl ⟨_, .slot agrees member⟩

theorem checkSteps_of_blocks (blocks : t.Blocks step reason) (depth : Nat) (steps : List Step) :
    t.checkSteps depth (step :: steps) = .error (.unresolved depth reason) := by
  rw [checkSteps]
  cases blocks with
  | segment differs => rw [if_neg (by simp [differs])]
  | slot agrees missing => rw [if_pos agrees, (Dict.get?_eq_none_iff ..).2 missing]

theorem checkSteps_of_found (agrees : t.segment.matchesSegment step.segment = true)
    (found : t.slots.get? step.key = some child) (depth : Nat) (steps : List Step) :
    t.checkSteps depth (step :: steps) = child.checkSteps (depth + 1) steps := by
  rw [checkSteps, if_pos agrees, found]

theorem passes_zero_iff : t.Passes (step :: steps) 0 ↔
    t.segment.matchesSegment step.segment = true ∧ step.key ∈ t.slots.keys := by
  simp [Passes]

theorem passes_zero_of_found (agrees : t.segment.matchesSegment step.segment = true)
    (found : t.slots.get? step.key = some child) : t.Passes (step :: steps) 0 :=
  passes_zero_iff.2 ⟨agrees, (Dict.mem_keys_iff ..).2 ⟨child, found⟩⟩

theorem not_passes_of_blocks (blocks : t.Blocks step reason) : ¬t.Passes (step :: steps) 0 := by
  rw [passes_zero_iff]
  rintro ⟨agrees, member⟩
  cases blocks with
  | segment differs => exact Bool.noConfusion (agrees.symm.trans differs)
  | slot _ missing => exact missing member

theorem passes_succ_iff (found : t.slots.get? step.key = some child) :
    t.Passes (step :: steps) (i + 1) ↔ child.Passes steps i := by
  simp [Passes, place?_cons_of_get? found]

theorem Blocks.unique (blocks : t.Blocks step reason) (blocks' : t.Blocks step other) :
    reason = other := by
  cases blocks with
  | segment differs =>
    cases blocks' with
    | segment => rfl
    | slot agrees => exact Bool.noConfusion (agrees.symm.trans differs)
  | slot agrees =>
    cases blocks' with
    | segment differs => exact Bool.noConfusion (agrees.symm.trans differs)
    | slot => rfl

/-- Steps stop at a first one that is blocked. -/
theorem stopsAt_iff_of_blocks (blocks : t.Blocks step reason) :
    t.StopsAt (step :: steps) i other ↔ i = 0 ∧ other = reason := by
  constructor
  · intro stops
    have first : i = 0 := by
      apply Nat.eq_zero_of_not_pos
      intro later
      exact not_passes_of_blocks blocks (stops.before 0 later)
    subst first
    obtain ⟨_, _, named, root, blocks'⟩ := stops.blocked
    cases named
    cases root
    exact ⟨rfl, blocks'.unique blocks⟩
  · rintro ⟨rfl, rfl⟩
    exact ⟨fun j earlier => absurd earlier (Nat.not_lt_zero j), not_passes_of_blocks blocks,
      step, t, rfl, rfl, blocks⟩

theorem not_stopsAt_zero (agrees : t.segment.matchesSegment step.segment = true)
    (found : t.slots.get? step.key = some child) : ¬t.StopsAt (step :: steps) 0 reason :=
  fun stops => stops.fails (passes_zero_of_found agrees found)

/-- After a first step that can be taken, the others stop as they do in the slot. -/
theorem stopsAt_succ_iff (agrees : t.segment.matchesSegment step.segment = true)
    (found : t.slots.get? step.key = some child) :
    t.StopsAt (step :: steps) (i + 1) reason ↔ child.StopsAt steps i reason := by
  constructor
  · rintro ⟨before, fails, blocked⟩
    refine ⟨?_, ?_, ?_⟩
    · intro j earlier
      exact (passes_succ_iff found).1 (before (j + 1) (Nat.succ_lt_succ earlier))
    · rwa [passes_succ_iff found] at fails
    · simpa [place?_cons_of_get? found] using blocked
  · rintro ⟨before, fails, blocked⟩
    refine ⟨?_, ?_, ?_⟩
    · intro j earlier
      cases j with
      | zero => exact passes_zero_of_found agrees found
      | succ j => exact (passes_succ_iff found).2 (before j (Nat.lt_of_succ_lt_succ earlier))
    · rwa [passes_succ_iff found]
    · simpa [place?_cons_of_get? found] using blocked

end Cons

theorem not_stopsAt_nil (t : RouteTree) (i : Nat) (reason : DeadEnd) : ¬t.StopsAt [] i reason := by
  intro stops
  obtain ⟨_, _, named, -⟩ := stops.blocked
  simp at named

/-- Steps can be taken when each of them can. -/
theorem follows_iff_passes (t : RouteTree) (steps : List Step) :
    t.Follows steps ↔ ∀ i < steps.length, t.Passes steps i := by
  induction steps generalizing t with
  | nil => simp
  | cons step steps ih =>
    rw [follows_cons_iff]
    constructor
    · rintro ⟨agrees, child, found, follows⟩ i inside
      cases i with
      | zero => exact passes_zero_of_found agrees found
      | succ i =>
        exact (passes_succ_iff found).2 ((ih child).1 follows i (Nat.lt_of_succ_lt_succ inside))
    · intro passes
      obtain ⟨agrees, member⟩ := passes_zero_iff.1 (passes 0 (Nat.zero_lt_succ _))
      obtain ⟨child, found⟩ := (Dict.mem_keys_iff ..).1 member
      refine ⟨agrees, child, found, (ih child).2 ?_⟩
      intro i inside
      exact (passes_succ_iff found).1 (passes (i + 1) (Nat.succ_lt_succ inside))

/-- Steps fail at the first one that cannot be taken, counted from the depth of the root. -/
theorem checkSteps_eq_error_iff (t : RouteTree) (depth : Nat) (steps : List Step) (fault : Fault) :
    t.checkSteps depth steps = .error fault ↔
      ∃ i reason, fault = .unresolved (depth + i) reason ∧ t.StopsAt steps i reason := by
  induction steps generalizing t depth with
  | nil => simp [checkSteps, not_stopsAt_nil]
  | cons step steps ih =>
    -- A blocked first step is reported at once. Otherwise the index is counted from the slot, one
    -- step further down.
    rcases t.blocks_or_found step with ⟨reason, blocks⟩ | ⟨agrees, child, found⟩
    · simp [checkSteps_of_blocks blocks, stopsAt_iff_of_blocks blocks, eq_comm]
    · rw [checkSteps_of_found agrees found, ih child]
      constructor
      · rintro ⟨i, reason, rfl, stops⟩
        refine ⟨i + 1, reason, ?_, (stopsAt_succ_iff agrees found).2 stops⟩
        rw [Nat.add_assoc, Nat.add_comm 1]
      · rintro ⟨i, reason, rfl, stops⟩
        cases i with
        | zero => exact absurd stops (not_stopsAt_zero agrees found)
        | succ i =>
          refine ⟨i, reason, ?_, (stopsAt_succ_iff agrees found).1 stops⟩
          rw [Nat.add_assoc, Nat.add_comm 1]

/-- Some node is found along steps, whatever segment it is to have, when the steps can be taken. -/
theorem exists_nodeAt?_iff (t : RouteTree) (steps : List Step) :
    (∃ target node, t.nodeAt? ⟨steps, target⟩ = some node) ↔ t.Follows steps := by
  constructor
  · rintro ⟨target, node, found⟩
    exact ((nodeAt?_eq_some_iff ..).1 found).1
  · intro follows
    obtain ⟨node, found⟩ := follows.exists_place?
    refine ⟨node.segment, node, (nodeAt?_eq_some_iff ..).2 ⟨follows, found, ?_⟩⟩
    exact Segment.matchesSegment_refl node.segment

/-- Steps that cannot be taken are reported as such. -/
theorem exists_unresolved_of_checkSteps {t : RouteTree} {depth : Nat} {steps : List Step}
    {fault : Fault} (fails : t.checkSteps depth steps = .error fault) :
    ∃ place reason, fault = .unresolved place reason := by
  obtain ⟨i, reason, equal, -⟩ := (checkSteps_eq_error_iff ..).1 fails
  exact ⟨depth + i, reason, equal⟩

end RouteSync.RouteTree
