import RouteSync.Proofs.Runs
import RouteSync.Render.Scripted

/-!
# The depth of a client's tree

The limits of a client bound the trees it reads, each counted from its own root, and not the tree
that comes of putting them into place. So the client's tree can grow deeper than the limits allow,
but no deeper than the data paths it has applied reach from the root.
-/

namespace RouteSync

namespace DataPath

/-- The depth, counted from the root of the patched tree, to which a data path reaches. -/
def reach (d : DataPath) : Nat := d.steps.length + d.patch.tree.depth

theorem length_place (d : DataPath) : d.place.length = d.steps.length := List.length_map ..

/-- A data path makes a tree no deeper than it reaches. -/
theorem depth_put_le_of_reach {d : DataPath} {base : RouteTree} {most : Nat}
    (start : base.depth ≤ most) (short : d.reach ≤ most) (follows : base.Follows d.steps) :
    (base.put d.place d.patch.tree).depth ≤ most := by
  obtain ⟨old, found⟩ := follows.exists_place?
  have depth : (base.put d.place d.patch.tree).depth ≤ max base.depth d.reach := by
    unfold reach
    rw [← length_place]
    exact RouteTree.depth_put_le d.patch.tree found
  omega

/-- A data path makes a tree as deep as it reaches, unless a later one gets in its way. -/
theorem reach_le_of_applyAll {front back : List DataPath} {d : DataPath} {base result : RouteTree}
    (applied : applyAll (front ++ d :: back) base = .ok result)
    (separate : ∀ e ∈ back, d.Separate e) : d.reach ≤ result.depth := by
  have deep := RouteTree.add_depth_le_of_place? (place?_of_applyAll applied separate)
  rwa [length_place] at deep

end DataPath

namespace Session

/-- A run makes the client's tree no deeper than its data paths reach. -/
theorem depth_receiveAll_le_of_reach {s : Session} {messages : List (Context × Json)} {most : Nat}
    (start : s.tree.depth ≤ most) (short : ∀ d ∈ s.appliedAll messages, d.reach ≤ most) :
    (s.receiveAll messages).tree.depth ≤ most := by
  apply receiveAll_induction (P := fun tree => tree.depth ≤ most) start
  intro base d member bounded follows
  exact DataPath.depth_put_le_of_reach bounded (short d member) follows

/-- In every run the trees that a client applies are no deeper than its limit, and its own tree is
no deeper than that unless a data path has reached so deep. A data path with no later one of its
response in its way makes the client's tree as deep as it reaches, whatever the limit. -/
theorem depth_receiveAll (s : Session) (messages : List (Context × Json))
    (start : s.tree.depth ≤ s.client.limits.maxDepth.toNat) :
    (∀ d ∈ s.appliedAll messages, d.patch.tree.depth ≤ s.client.limits.maxDepth.toNat) ∧
      ((s.receiveAll messages).tree.depth ≤ s.client.limits.maxDepth.toNat ∨
        ∃ d ∈ s.appliedAll messages, s.client.limits.maxDepth.toNat < d.reach ∧
          (s.receiveAll messages).tree.depth ≤ d.reach) ∧
      ∀ context raw front d back,
        (s.receiveAll messages).applied context raw = front ++ d :: back →
        (∀ e ∈ back, d.Separate e) →
          d.reach ≤ ((s.receiveAll messages).receive context raw).2.tree.depth := by
  refine ⟨?_, ?_, ?_⟩
  · intro d member
    exact RouteTree.depth_le_of_checkWithin (checkWithin_of_mem_appliedAll d member)
  · apply Classical.byContradiction
    intro deeper
    simp only [not_or, not_exists, not_and, Nat.not_le] at deeper
    obtain ⟨exceeds, reaches⟩ := deeper
    -- Then every data path reaches less deep than the tree, and so is the tree itself.
    have less : (s.receiveAll messages).tree.depth ≤ (s.receiveAll messages).tree.depth - 1 := by
      apply depth_receiveAll_le_of_reach (by omega)
      intro d member
      by_cases limit : s.client.limits.maxDepth.toNat < d.reach
      · have short := reaches d member limit
        omega
      · omega
    omega
  · intro context raw front d back same separate
    rcases (s.receiveAll messages).receive_cases context raw with
      ⟨-, none⟩ | ⟨tree, outcome, patched, -⟩
    · rw [none] at same
      cases front <;> cases same
    · rw [same] at outcome
      rw [patched]
      exact DataPath.reach_le_of_applyAll outcome separate

/-- A client of depth limit one, whose tree is as deep as that. -/
def shallow : Session where
  server := ⟨.ofBuildId "b1", Script.echo.toSource⟩
  client := ⟨"b1", { Limits.standard with maxDepth := 1 }⟩
  tree := (RouteTree.leaf (.fixed "")).withSlot "children" (.leaf (.fixed "a"))

/-- A data path into a slot of the root, of a tree of depth one. -/
def deepening : DataPath :=
  ⟨[⟨.fixed "", "children"⟩],
    .ofTree ((RouteTree.leaf (.fixed "a")).withSlot "children" (.leaf (.fixed "b")))⟩

/-- The data path in a response to a navigation. -/
def deepeningResponse : Context × Json :=
  (.navigation, (Envelope.navigation .navigation "b1" (.paths [deepening])).toJson)

/-- The data path that is applied reaches beyond the limit, and the tree becomes as deep. -/
theorem depth_receiveAll_deepening :
    shallow.tree.depth ≤ shallow.client.limits.maxDepth.toNat ∧
      (∀ d ∈ shallow.appliedAll [deepeningResponse], d.patch.tree.depth ≤ 1) ∧
      (shallow.receiveAll [deepeningResponse]).tree.depth ≤ 2 ∧
      2 ≤ (shallow.receive deepeningResponse.1 deepeningResponse.2).2.tree.depth := by
  have start : shallow.tree.depth ≤ shallow.client.limits.maxDepth.toNat := by decide
  refine ⟨start, (depth_receiveAll shallow [deepeningResponse] start).1, ?_, ?_⟩
  · rcases (depth_receiveAll shallow [deepeningResponse] start).2.1 with
      short | ⟨d, member, -, deep⟩
    · exact Nat.le_trans short (by decide)
    · have only : shallow.appliedAll [deepeningResponse] = [deepening] := rfl
      rw [only, List.mem_singleton] at member
      subst member
      exact deep
  · exact (depth_receiveAll shallow [] start).2.2 _ _ [] deepening [] rfl (by simp)

/-- One response can make the client's tree deeper than its limit. -/
theorem not_depth_receiveAll_le :
    ¬∀ (s : Session) (messages : List (Context × Json)),
      s.tree.depth ≤ s.client.limits.maxDepth.toNat →
        (s.receiveAll messages).tree.depth ≤ s.client.limits.maxDepth.toNat := by
  intro invariant
  have short := invariant shallow [deepeningResponse] (by decide)
  have deep : (shallow.receiveAll [deepeningResponse]).tree.depth = 2 := rfl
  rw [deep] at short
  exact absurd short (by decide)

end Session

end RouteSync
