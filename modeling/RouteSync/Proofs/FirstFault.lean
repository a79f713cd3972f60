import RouteSync.Proofs.Reading

/-!
# The first fault of a tree

A tree can exceed limits in many places at once. `RouteTree.faults` lists all of them in depth-first
order of places, each with where it stands in the wire form of the whole tree. The check of a tree
stops at the first of them, and reading the wire form stops at the same one: a sender that checks
its trees refuses what a reader with its limits would refuse, for the same reason.
-/

namespace RouteSync

/-! ### Stopping at the first fault -/

/-- What a check comes to that finds these faults one after another. -/
def firstFault : List Fault → Except Fault Unit
  | [] => .ok ()
  | fault :: _ => .error fault

theorem firstFault_append (first second : List Fault) :
    firstFault (first ++ second) = firstFault first >>= fun _ => firstFault second := by
  cases first <;> rfl

theorem firstFault_flatMap {α : Type} (xs : List α) (faults : α → List Fault) :
    firstFault (xs.flatMap faults) = forM xs fun x => firstFault (faults x) := by
  induction xs with
  | nil => rfl
  | cons x rest ih => rw [List.flatMap_cons, firstFault_append, ih, List.forM_cons]

theorem firstFault_eq_error_iff (faults : List Fault) (fault : Fault) :
    firstFault faults = .error fault ↔ faults.head? = some fault := by
  cases faults <;> simp [firstFault]

namespace RouteTree

/-! ### All faults of a tree -/

/-- Where the node at a place stands in the wire form of the tree. -/
def locationOf (keys : List String) : Location := keys.flatMap fun key => [.index 1, .name key]

/-- What limits forbid of the slot in which a place is. -/
def slotFaults (limits : Limits) (keys : List String) : List Fault :=
  match keys.reverse with
  | [] => []
  | key :: above =>
    if limits.allowsSlot key then []
    else [.misshapen (locationOf above.reverse ++ [.index 1]) (.slotNotAllowed key)]

/-- What limits forbid of a node at a place by itself: how deep it stands, how long its segment is,
and how many slots it has. -/
def nodeFaults (limits : Limits) (keys : List String) (node : RouteTree) : List Fault :=
  (if limits.maxDepth.toNat < keys.length then
    [.overLimit (.depth limits.maxDepth (locationOf keys))] else []) ++
  ((if limits.maxSegmentBytes.toNat < node.segment.byteLength then
    [.overLimit (.segmentLength (locationOf keys ++ [.index 0]) node.segment.byteLength
      limits.maxSegmentBytes)] else []) ++
  if limits.maxSlots.toNat < node.slots.size then
    [.overLimit (.slotCount node.slots.size (locationOf keys ++ [.index 1]) limits.maxSlots)]
  else [])

/-- Everything that limits forbid of the tree at a place, in depth-first order of slots. -/
def faultsBelow (limits : Limits) (above : List String) (t : RouteTree) : List Fault :=
  t.places.flatMap fun keys =>
    slotFaults limits (above ++ keys) ++ (t.place? keys).elim [] (nodeFaults limits (above ++ keys))

/-- Everything that limits forbid of a tree, in depth-first order of slots. -/
def faults (limits : Limits) (t : RouteTree) : List Fault := t.faultsBelow limits []

/-! ### The check as a search for the first fault -/

theorem locationOf_concat (above : List String) (key : String) :
    locationOf (above ++ [key]) = locationOf above ++ [.index 1, .name key] := by
  simp [locationOf]

theorem firstFault_slotFaults_concat (limits : Limits) (above : List String) (key : String) :
    firstFault (slotFaults limits (above ++ [key])) =
      Fault.locate (locationOf above ++ [.index 1]) (limits.checkSlotKey key) := by
  rw [slotFaults, List.reverse_concat, Limits.checkSlotKey]
  cases allowed : limits.allowsSlot key with
  | true => simp [firstFault, allowed]
  | false => simp [firstFault, allowed, Fault.locate_error, Fault.within]

theorem firstFault_nodeFaults (limits : Limits) (keys : List String) (node : RouteTree) :
    firstFault (nodeFaults limits keys node) = Fault.locate (locationOf keys) (do
      limits.checkDepth keys.length
      Fault.locate [.index 0] (limits.checkSegment node.segment)
      Fault.locate [.index 1] (limits.checkSlotCount node.slots.size)) := by
  have depth : firstFault (if limits.maxDepth.toNat < keys.length then
        [.overLimit (.depth limits.maxDepth (locationOf keys))] else []) =
      Fault.locate (locationOf keys) (limits.checkDepth keys.length) := by
    rw [Limits.checkDepth]
    split <;> simp [firstFault, Fault.locate_error, Fault.within, Excess.within]
  have segment : firstFault (if limits.maxSegmentBytes.toNat < node.segment.byteLength then
        [.overLimit (.segmentLength (locationOf keys ++ [.index 0]) node.segment.byteLength
          limits.maxSegmentBytes)] else []) =
      Fault.locate (locationOf keys ++ [.index 0]) (limits.checkSegment node.segment) := by
    rw [Limits.checkSegment]
    split <;> simp [firstFault, Fault.locate_error, Fault.within, Excess.within]
  have slots : firstFault (if limits.maxSlots.toNat < node.slots.size then
        [.overLimit (.slotCount node.slots.size (locationOf keys ++ [.index 1]) limits.maxSlots)]
        else []) =
      Fault.locate (locationOf keys ++ [.index 1]) (limits.checkSlotCount node.slots.size) := by
    rw [Limits.checkSlotCount]
    split <;> simp [firstFault, Fault.locate_error, Fault.within, Excess.within]
  rw [nodeFaults, firstFault_append, firstFault_append, depth, segment, slots]
  simp only [Fault.locate_bind, Fault.locate_locate]

/-- Below a place the check finds the first fault that there is, after that of the slot. -/
theorem firstFault_faultsBelow (limits : Limits) (above : List String) (t : RouteTree) :
    firstFault (t.faultsBelow limits above) = (do
      firstFault (slotFaults limits above)
      Fault.locate (locationOf above) (t.checkFrom limits above.length)) := by
  induction t using slotInduction generalizing above with
  | node t ih =>
    have inSlot : ∀ key ∈ t.slots.keys,
        firstFault ((((t.slots.get? key).elim [] places).map (key :: ·)).flatMap fun keys =>
          slotFaults limits (above ++ keys) ++
            (t.place? keys).elim [] (nodeFaults limits (above ++ keys))) =
        Fault.locate (locationOf above) (t.checkSlot limits above.length key) := by
      intro key inside
      obtain ⟨child, found⟩ := (Dict.mem_keys_iff ..).1 inside
      have below := ih key child found (above ++ [key])
      rw [firstFault_slotFaults_concat, locationOf_concat, List.length_append] at below
      simp only [checkSlot, found, Option.elim_some, Fault.locate_bind, Fault.locate_locate,
        List.flatMap_map, place?_cons_of_get? found]
      simpa [faultsBelow] using below
    rw [faultsBelow, places_eq, List.flatMap_cons, List.flatMap_assoc, firstFault_append,
      firstFault_flatMap, forM_congr inSlot, ← Fault.locate_forM, checkFrom_eq, List.append_nil,
      firstFault_append, place?_nil, Option.elim_some, firstFault_nodeFaults]
    simp only [Fault.locate_bind, bind_assoc]

theorem checkWithin_eq_firstFault (limits : Limits) (t : RouteTree) :
    t.checkWithin limits = firstFault (t.faults limits) := by
  have below := firstFault_faultsBelow limits [] t
  rw [faults, below]
  exact (Fault.locate_nil _).symm

/-- Checking a tree and reading its wire form come to the same: both succeed, or both fail with the
first fault of the tree in depth-first order. -/
theorem ofJsonWithin_toJson_eq_checkWithin (limits : Limits) (t : RouteTree) :
    (ofJsonWithin limits t.toJson).map (fun _ => ()) = t.checkWithin limits ∧
      ∀ fault, t.checkWithin limits = .error fault ↔ (t.faults limits).head? = some fault := by
  constructor
  · rw [ofJsonWithin_toJson, map_map]
    cases t.checkWithin limits <;> rfl
  · intro fault
    rw [checkWithin_eq_firstFault, firstFault_eq_error_iff]

/-- Too many slots, too long a segment, a node that is too deep and a slot that is not allowed. -/
example :
    let limits : Limits := ⟨1, 1, 3, some (.ofList ["children"])⟩
    let shop := (RouteTree.leaf (.fixed "shop")).withSlot "children" (.leaf .page)
    let t := ((RouteTree.leaf (.fixed "")).withSlot "children" shop).withSlot "cart" (.leaf .page)
    (t.faults limits).map Fault.message =
      ["Limit exceeded: 2 parallel routes at /1 (max 1)",
        "Limit exceeded: segment at /1/children/0 is 4 bytes (max 3)",
        "Limit exceeded: tree depth exceeds 1 at /1/children/1/children",
        "Limit exceeded: segment at /1/children/1/children/0 is 8 bytes (max 3)",
        "Schema error at /1: slot key \"cart\" is not part of the allowed vocabulary",
        "Limit exceeded: segment at /1/cart/0 is 8 bytes (max 3)"] := by
  decide +kernel

end RouteTree

end RouteSync
