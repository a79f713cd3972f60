import RouteSync.Proofs.Messages

/-!
# Data paths in flat form

A data path is written as one list, which is taken apart from its end: the last three elements are
the tree, the content and the head, and the elements before them are those of a path. What is read
from such a list is written again as the same list, but for the tree, which may have been spelled in
another way; and what is written is read again, but for content that is null, if the path ends on the
tree's own segment.
-/

namespace RouteSync.DataPath

/-- Content arrives unless it is null. -/
theorem content?_getD_eq_some_iff (content : Option Json) (v : Json) :
    content? (content.getD .null) = some v ↔ content = some v ∧ v ≠ .null := by
  cases content with
  | none => simp [content?]
  | some w =>
    cases w with
    | null =>
      constructor
      · intro equal
        cases equal
      · rintro ⟨equal, present⟩
        cases equal
        exact absurd rfl present
    | _ =>
      constructor
      · intro equal
        cases equal
        exact ⟨rfl, by simp⟩
      · rintro ⟨equal, -⟩
        cases equal
        rfl

/-- What stands for content that was read from a value is that value. -/
theorem getD_content? (v : Json) : (content? v).getD .null = v := by
  cases v <;> rfl

/-- A data path whose tree keeps within limits is read from its own wire form if the path ends on the
tree's own segment, and is refused at that segment otherwise. -/
theorem ofJsonWithin_toJson_of_checkWithin {limits : Limits} {d : DataPath}
    (passes : d.patch.tree.checkWithin limits = .ok ()) :
    ofJsonWithin limits d.toJson =
      if d.patch.segment = d.patch.tree.segment then .ok d.arrived
      else .error (.misshapen [.index (2 * d.steps.length)]
        (.segmentDiffers d.patch.segment d.patch.tree.segment)) := by
  rw [toJson, ofJsonWithin_elements, RouteTree.ofJsonWithin_toJson, passes]
  rfl

/-- What is read is written again as it was, but for the tree. -/
theorem exists_toJson_of_ofJsonWithin {limits : Limits} {v : Json} {d : DataPath}
    (read : ofJsonWithin limits v = .ok d) : ∃ front spelled content head,
      v = .array (front ++ [spelled, content, head]) ∧
        RouteTree.ofJsonWithin limits spelled = .ok d.patch.tree ∧
        d.toJson = .array (front ++ [d.patch.tree.toJson, content, head]) := by
  obtain ⟨spelled, content, head, rfl, treeRead, -, contentRead, headRead⟩ :=
    (ofJsonWithin_eq_ok_iff ..).1 read
  refine ⟨d.path.toJsonItems, spelled, content, head, rfl, treeRead, ?_⟩
  rw [toJson, contentRead, headRead, getD_content?, getD_content?]

/-- A list is read as a data path if it can be cut into a path, a tree with the segment on which the
path ends, and two more values. Its length is then even, and at least four. -/
theorem exists_ofJsonWithin_eq_ok_iff (limits : Limits) (v : Json) :
    (∃ d, ofJsonWithin limits v = .ok d) ↔
      ∃ items, v = .array items ∧ 4 ≤ items.length ∧ items.length % 2 = 0 ∧
        ∃ front spelled content head path tree, items = front ++ [spelled, content, head] ∧
          SegmentPath.ofJsonItems front = .ok path ∧
          RouteTree.ofJsonWithin limits spelled = .ok tree ∧ path.target = tree.segment := by
  constructor
  · rintro ⟨d, read⟩
    obtain ⟨spelled, content, head, rfl, treeRead, own, -⟩ := (ofJsonWithin_eq_ok_iff ..).1 read
    have length : (d.path.toJsonItems ++ [spelled, content, head]).length =
        2 * d.steps.length + 4 := by
      rw [List.length_append, SegmentPath.length_toJsonItems]
      rfl
    exact ⟨_, rfl, by omega, by omega, _, spelled, content, head, d.path, d.patch.tree, rfl,
      SegmentPath.ofJsonItems_toJsonItems d.path, treeRead, own⟩
  · rintro ⟨_, rfl, -, -, front, spelled, content, head, path, tree, rfl, pathRead, treeRead, own⟩
    obtain rfl := (SegmentPath.ofJsonItems_eq_ok_iff ..).1 pathRead
    refine ⟨⟨path.steps, ⟨path.target, tree, content? content, content? head⟩⟩, ?_⟩
    rw [ofJsonWithin_elements, treeRead, ok_bind, if_pos own]

/-- A data path whose tree words can count is read from its wire form, with content that is null as
none, if it carries its tree's own segment; otherwise it is refused at the segment before the tree.
And a value is read exactly if it is a list of even length, at least four, that can be cut into a
path, a tree with the segment on which the path ends, and two more values; what is read is then
written as the same list, but for the tree. -/
theorem ofJson_flat :
    (∀ d : DataPath, d.patch.tree.Countable →
      (d.patch.segment = d.patch.tree.segment → ∃ e, ofJson d.toJson = .ok e ∧
        e.steps = d.steps ∧ e.patch.segment = d.patch.segment ∧ e.patch.tree = d.patch.tree ∧
        (∀ v, e.patch.content = some v ↔ d.patch.content = some v ∧ v ≠ .null) ∧
        ∀ v, e.patch.head = some v ↔ d.patch.head = some v ∧ v ≠ .null) ∧
      (d.patch.segment ≠ d.patch.tree.segment → ofJson d.toJson =
        .error (.misshapen [.index (2 * d.steps.length)]
          (.segmentDiffers d.patch.segment d.patch.tree.segment)))) ∧
    ∀ v : Json,
      ((∃ d, ofJson v = .ok d) ↔
        ∃ items, v = .array items ∧ 4 ≤ items.length ∧ items.length % 2 = 0 ∧
          ∃ front spelled content head path tree, items = front ++ [spelled, content, head] ∧
            SegmentPath.ofJsonItems front = .ok path ∧ RouteTree.ofJson spelled = .ok tree ∧
            path.target = tree.segment) ∧
      ∀ d, ofJson v = .ok d → ∃ front spelled content head,
        v = .array (front ++ [spelled, content, head]) ∧
          RouteTree.ofJson spelled = .ok d.patch.tree ∧
          d.toJson = .array (front ++ [d.patch.tree.toJson, content, head]) := by
  constructor
  · intro d countable
    have read := ofJsonWithin_toJson_of_checkWithin
      ((RouteTree.countable_iff_checkWithin _).1 countable)
    constructor
    · intro own
      rw [if_pos own] at read
      exact ⟨d.arrived, read, rfl, rfl, rfl, content?_getD_eq_some_iff _,
        content?_getD_eq_some_iff _⟩
    · intro foreign
      rwa [if_neg foreign] at read
  · intro v
    exact ⟨exists_ofJsonWithin_eq_ok_iff .permissive v, fun _ => exists_toJson_of_ofJsonWithin⟩

/-- A patch below a slot, with content that is null: it is read back without content, and refused if
the kind of its segment is not that of its tree. In short form it is read as well, and written in
full. -/
theorem ofJson_flat_slug :
    let slug (kind : ParamKind) : Segment := .param "slug" "a/b" kind
    let tree : RouteTree := .leaf (slug .rest)
    let d (kind : ParamKind) : DataPath :=
      ⟨[⟨.fixed "", "children"⟩], ⟨slug kind, tree, some .null, some (.string "t")⟩⟩
    let front : List Json := [.string "", .string "children", (slug .rest).toJson]
    let short : Json := .array [(slug .rest).toJson, .ofMembers []]
    tree.Countable ∧
      (∃ e, ofJson (d .rest).toJson = .ok e ∧ e.patch.content = none ∧
        e.patch.head = some (.string "t")) ∧
      ofJson (d .single).toJson =
        .error (.misshapen [.index 2] (.segmentDiffers (slug .single) (slug .rest))) ∧
      ∃ e, ofJson (.array (front ++ [short, .null, .string "t"])) = .ok e ∧
        e.toJson = .array (front ++ [tree.toJson, .null, .string "t"]) := by
  intro slug tree d front short
  have countable : tree.Countable := (RouteTree.countable_iff_checkWithin _).2 rfl
  obtain ⟨e, read, -, -, -, content, head⟩ := (ofJson_flat.1 (d .rest) countable).1 rfl
  have none : e.patch.content = none := by
    apply Option.eq_none_iff_forall_ne_some.2
    intro v present
    obtain ⟨equal, some⟩ := (content v).1 present
    exact some (Option.some.inj equal).symm
  have foreign : (d .single).patch.segment ≠ (d .single).patch.tree.segment := by decide
  obtain ⟨accepted, written⟩ := ofJson_flat.2 (.array (front ++ [short, .null, .string "t"]))
  let path : SegmentPath := ⟨[⟨.fixed "", "children"⟩], slug .rest⟩
  obtain ⟨e', read'⟩ := accepted.2 ⟨_, rfl, by decide, by decide, front, short, .null, .string "t",
    path, tree, rfl, SegmentPath.ofJsonItems_toJsonItems path, rfl, rfl⟩
  obtain ⟨front', spelled, content', head', same, treeRead, again⟩ := written e' read'
  obtain ⟨rfl, last⟩ := List.append_inj' (Json.array.inj same) rfl
  cases last
  have equal : RouteTree.ofJson short = .ok tree := rfl
  rw [treeRead] at equal
  rw [Except.ok.inj equal] at again
  exact ⟨countable, ⟨e, read, none, (head _).2 ⟨rfl, nofun⟩⟩,
    (ofJson_flat.1 (d .single) countable).2 foreign, e', read', again⟩

end RouteSync.DataPath
