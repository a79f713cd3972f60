import RouteSync.Proofs.FirstFault
import RouteSync.Proofs.Grammar

/-!
# The first fault of a value

The value of a tree has a position for everything that a reader looks at: nodes, segments, the texts
in a segment, the objects of slots, and what stands behind them. `RouteTree.positions` lists them in
the order in which a reader comes to them, each with its location and with the role in which its value
stands there. A value is no tree exactly if some position does not fit its role, and what is reported
of the value is then the fault of the first such position.
-/

namespace RouteSync

/-- The value at a location. -/
def Json.at? : Json → Location → Option Json
  | v, [] => some v
  | .array items, .index i :: rest =>
    match items[i]? with
    | some item => item.at? rest
    | none => none
  | .object members, .name key :: rest =>
    match members.get? key with
    | some member => member.at? rest
    | none => none
  | _, _ => none

namespace RouteTree

/-! ### Roles -/

/-- What a value stands for in the value of a tree. -/
inductive Role where
  | node
  | segment
  | text
  | kind
  | slots
  | url
  | refetch
  | flag

namespace Role

/-- Whether a value is what its role asks for. What is inside it has roles of its own. -/
def fits : Role → Json → Bool
  | node, .array items => 2 ≤ items.length && items.length ≤ 5
  | segment, .string _ => true
  | segment, .array items => items.length == 3
  | text, .string _ => true
  | kind, .string code => ["d", "oc", "c"].contains code
  | slots, .object _ => true
  | url, .null => true
  | url, .string _ => true
  | refetch, .null => true
  | refetch, .string word => word == "refetch"
  | flag, .bool _ => true
  | _, _ => false

/-- What is wrong with a value that is not what its role asks for. -/
def problem : Role → Json → Problem
  | node, .array items => .nodeSize items.length
  | node, v => .nodeExpected v.kind
  | segment, .array items => .segmentSize items.length
  | segment, v => .segmentExpected v.kind
  | text, v => .stringExpected v.kind
  | kind, v => .stringExpected v.kind
  | slots, v => .slotsExpected v.kind
  | url, v => .urlExpected v.kind
  | refetch, v => .refetchExpected v
  | flag, v => .flagExpected v.kind

end Role

/-- A value in a role, and where it stands. -/
structure Position where
  location : Location
  role : Role
  value : Json

namespace Position

/-- A position in a part, as one in the whole that holds the part at a place. -/
def within (location : Location) (p : Position) : Position :=
  { p with location := location ++ p.location }

/-- Whether the value fits its role. -/
def fits (p : Position) : Bool := p.role.fits p.value

/-- What is reported of a value that does not fit its role: the code of an unknown kind, and the
location of anything else. -/
def fault (p : Position) : Fault :=
  match p.role, p.value with
  | .kind, .string code => .unknownKind code
  | role, v => .misshapen p.location (role.problem v)

/-- Fails if the value does not fit its role. -/
def check (p : Position) : Except Fault Unit := if p.fits then .ok () else .error p.fault

end Position

/-! ### The positions of a value -/

/-- The positions of a segment: itself, the elements of a triple, and its kind if they are texts. -/
def segmentPositions (v : Json) : List Position :=
  ⟨[], .segment, v⟩ ::
    match v with
    | .array [name, value, code] =>
      [⟨[.index 0], .text, name⟩, ⟨[.index 1], .text, value⟩, ⟨[.index 2], .text, code⟩] ++
        match name, value, code with
        | .string _, .string _, .string _ => [⟨[.index 2], .kind, code⟩]
        | _, _, _ => []
    | _ => []

/-- The positions of the elements of a node behind its slots, as far as they are there. -/
def restPositions (rest : List Json) : List Position :=
  rest[0]?.toList.map (⟨[.index 2], .url, ·⟩) ++
    (rest[1]?.toList.map (⟨[.index 3], .refetch, ·⟩) ++
      rest[2]?.toList.map (⟨[.index 4], .flag, ·⟩))

/-- The positions of a tree: the node at its root, the node's segment, the object of its slots, the
trees in them, slot after slot, and then the elements behind. -/
def positions : Json → List Position
  | .array (first :: second :: rest) =>
    ⟨[], .node, .array (first :: second :: rest)⟩ ::
      ((segmentPositions first).map (.within [.index 0]) ++
        (⟨[.index 1], .slots, second⟩ ::
          (match second with
            | .object ⟨keys, _, member⟩ => keys.attach.flatMap fun key =>
              (positions (member key.1 key.2)).map (.within [.index 1, .name key.1])
            | _ => []) ++
          restPositions rest))
  | v => [⟨[], .node, v⟩]
termination_by structural v => v

/-- The positions of the trees in the slots of a node. -/
def slotPositions : Json → List Position
  | .object members => members.keys.flatMap fun key =>
    (members.get? key).elim [] fun child => (positions child).map (.within [.index 1, .name key])
  | _ => []

theorem positions_array (first second : Json) (rest : List Json) :
    positions (.array (first :: second :: rest)) =
      ⟨[], .node, .array (first :: second :: rest)⟩ ::
        ((segmentPositions first).map (.within [.index 0]) ++
          (⟨[.index 1], .slots, second⟩ :: slotPositions second ++ restPositions rest)) := by
  cases second with
  | object members =>
    rw [slotPositions, ← Dict.flatMap_attach members fun key child =>
      (positions child).map (Position.within [.index 1, .name key])]
    obtain ⟨_, _, _⟩ := members
    rfl
  | _ => rfl

theorem positions_single {v : Json}
    (single : ∀ first second rest, v ≠ .array (first :: second :: rest)) :
    positions v = [⟨[], .node, v⟩] := by
  cases v with
  | array items =>
    match items, single with
    | [], _ | [_], _ => rfl
    | first :: second :: rest, single => exact absurd rfl (single first second rest)
  | _ => rfl

/-! ### Where positions are -/

/-- A position of a value is at its location, and that of a kind ends three texts that are the segment
of a node. -/
structure Position.Stands (v : Json) (p : Position) : Prop where
  found : v.at? p.location = some p.value
  triple : p.role = .kind → ∃ keys name value code rest,
    formAt? v keys = some (.array (.array [.string name, .string value, .string code] :: rest)) ∧
      p.location = locationOf keys ++ [.index 0, .index 2] ∧ p.value = .string code

theorem mem_segmentPositions {v : Json} {p : Position} (member : p ∈ segmentPositions v) :
    v.at? p.location = some p.value ∧ (p.role = .kind → ∃ name value code,
      v = .array [.string name, .string value, .string code] ∧
        p = ⟨[.index 2], .kind, .string code⟩) := by
  rcases List.mem_cons.1 member with rfl | member
  · exact ⟨rfl, nofun⟩
  · split at member
    · rcases List.mem_append.1 member with text | kind
      · simp only [List.mem_cons, List.not_mem_nil, or_false] at text
        rcases text with rfl | rfl | rfl <;> exact ⟨rfl, nofun⟩
      · split at kind
        · obtain rfl := List.mem_singleton.1 kind
          exact ⟨rfl, fun _ => ⟨_, _, _, rfl, rfl⟩⟩
        · cases kind
    · cases member

theorem mem_slotPositions {v : Json} {p : Position} (member : p ∈ slotPositions v) :
    ∃ members key child, v = .object members ∧ members.get? key = some child ∧
      ∃ q ∈ positions child, q.within [.index 1, .name key] = p := by
  unfold slotPositions at member
  split at member
  · rename_i members
    obtain ⟨key, inside, member⟩ := List.mem_flatMap.1 member
    obtain ⟨child, found⟩ := (Dict.mem_keys_iff ..).1 inside
    rw [found, Option.elim_some] at member
    exact ⟨members, key, child, rfl, found, List.mem_map.1 member⟩
  · cases member

theorem Position.Stands.within {first child : Json} {members : Dict Json} {rest : List Json}
    {key : String} {p : Position} (found : members.get? key = some child) (stands : p.Stands child) :
    (p.within [.index 1, .name key]).Stands (.array (first :: .object members :: rest)) := by
  constructor
  · change (match members.get? key with | some w => w.at? p.location | none => none) = _
    rw [found]
    exact stands.found
  · intro kind
    obtain ⟨keys, name, value, code, more, place, location, last⟩ := stands.triple kind
    refine ⟨key :: keys, name, value, code, more, ?_, ?_, last⟩
    · rw [formAt?, found]
      exact place
    · change [.index 1, .name key] ++ p.location = _
      rw [location]
      rfl

theorem stands_of_mem_positions {v : Json} {p : Position} (member : p ∈ positions v) :
    p.Stands v := by
  induction v using formInduction generalizing p with
  | array first second rest ih =>
    simp only [positions_array, List.mem_cons, List.mem_append, List.mem_map, or_assoc] at member
    rcases member with rfl | ⟨q, inSegment, rfl⟩ | rfl | inSlots | inRest
    · exact ⟨rfl, nofun⟩
    · obtain ⟨found, triple⟩ := mem_segmentPositions inSegment
      refine ⟨found, ?_⟩
      intro kind
      obtain ⟨name, value, code, rfl, rfl⟩ := triple kind
      exact ⟨[], name, value, code, _, rfl, rfl, rfl⟩
    · exact ⟨rfl, nofun⟩
    · obtain ⟨members, key, child, rfl, found, q, below, rfl⟩ := mem_slotPositions inSlots
      exact (ih members key child rfl found below).within found
    · simp only [restPositions, List.mem_append, List.mem_map, Option.mem_toList] at inRest
      rcases inRest with ⟨v, found, rfl⟩ | ⟨v, found, rfl⟩ | ⟨v, found, rfl⟩ <;>
        exact ⟨by simp [Json.at?, found], nofun⟩
  | single v single =>
    rw [positions_single single, List.mem_singleton] at member
    subst member
    exact ⟨rfl, nofun⟩

/-! ### Checking positions -/

theorem Position.check_eq_ok_iff (p : Position) : p.check = .ok () ↔ p.fits = true := by
  rw [check]
  cases p.fits <;> simp

theorem Position.check_eq_error_iff (p : Position) (fault : Fault) :
    p.check = .error fault ↔ p.fits = false ∧ fault = p.fault := by
  rw [check]
  cases p.fits <;> simp [eq_comm]

theorem Position.check_within (location : Location) (p : Position) :
    (p.within location).check = Fault.locate location p.check := by
  obtain ⟨inner, role, v⟩ := p
  have moved : (Position.within location ⟨inner, role, v⟩).fault =
      (Position.fault ⟨inner, role, v⟩).within location := by
    unfold fault within
    dsimp only
    split <;> rfl
  rw [check, check, moved]
  change (if role.fits v then _ else _) = Fault.locate location (if role.fits v then _ else _)
  split <;> rfl

theorem forM_within (location : Location) (ps : List Position) :
    forM (ps.map (.within location)) Position.check =
      Fault.locate location (forM ps Position.check) := by
  rw [List.forM_map, Fault.locate_forM]
  exact forM_congr fun p _ => p.check_within location

/-- A text is that of a kind if it is the code of one. -/
theorem check_kind (location : Location) (code : String) :
    Position.check ⟨location, .kind, .string code⟩ =
      match ParamKind.ofCode? code with
      | some _ => .ok ()
      | none => .error (.unknownKind code) := by
  have known : Position.fits ⟨location, .kind, .string code⟩ = (ParamKind.ofCode? code).isSome := by
    rw [Position.fits, Role.fits, ParamKind.ofCode?]
    split_ifs <;> simp_all
  rw [Position.check, known]
  cases ParamKind.ofCode? code <;> rfl

/-- Reading a segment is checking its positions. -/
theorem map_ofJson_segment (v : Json) :
    (Segment.ofJson v).map (fun _ => ()) = forM (segmentPositions v) Position.check := by
  cases v with
  | array items =>
    match items with
    | [name, value, code] =>
      -- The kind is looked up only behind three texts.
      cases name with
      | string name =>
        cases value with
        | string value =>
          cases code with
          | string code =>
            have positions : forM (segmentPositions (.array [.string name, .string value,
                .string code])) Position.check =
                (Position.check ⟨[.index 2], .kind, .string code⟩ >>= fun _ => .ok ()) := rfl
            have read : Segment.ofJson (.array [.string name, .string value, .string code]) =
                match ParamKind.ofCode? code with
                | some kind => .ok (.param name value kind)
                | none => .error (.unknownKind code) := rfl
            rw [positions, read, check_kind]
            cases ParamKind.ofCode? code <;> rfl
          | _ => rfl
        | _ => rfl
      | _ => rfl
    | [] | [_] | [_, _] | _ :: _ :: _ :: _ :: _ => rfl
  | _ => rfl

theorem map_urlOfJson (element : Option Json) :
    (Fault.locate [.index 2] (urlOfJson element)).map (fun _ => ()) =
      forM (element.toList.map (⟨[.index 2], .url, ·⟩)) Position.check := by
  cases element with
  | none => rfl
  | some v => cases v <;> rfl

theorem map_refetchOfJson (element : Option Json) :
    (Fault.locate [.index 3] (refetchOfJson element)).map (fun _ => ()) =
      forM (element.toList.map (⟨[.index 3], .refetch, ·⟩)) Position.check := by
  cases element with
  | none => rfl
  | some v =>
    cases v with
    | string word =>
      by_cases known : word = refetchWord
      · subst known
        rfl
      · have unknown : (word == "refetch") = false := beq_eq_false_iff_ne.2 known
        simp only [refetchOfJson, if_neg known, Option.toList_some, List.map_cons, List.map_nil,
          List.forM_cons, Position.check, Position.fits, Role.fits, unknown]
        rfl
    | _ => rfl

theorem map_flagOfJson (element : Option Json) :
    (Fault.locate [.index 4] (flagOfJson element)).map (fun _ => ()) =
      forM (element.toList.map (⟨[.index 4], .flag, ·⟩)) Position.check := by
  cases element with
  | none => rfl
  | some v => cases v <;> rfl

/-- Reading what stands behind the slots is checking its positions. -/
theorem forM_restPositions (rest : List Json) :
    forM (restPositions rest) Position.check = (do
      let _ ← Fault.locate [.index 2] (urlOfJson rest[0]?)
      let _ ← Fault.locate [.index 3] (refetchOfJson rest[1]?)
      let _ ← Fault.locate [.index 4] (flagOfJson rest[2]?)
      .ok ()) := by
  rw [restPositions, List.forM_append, List.forM_append, ← map_urlOfJson, ← map_refetchOfJson,
    ← map_flagOfJson, bind_of_map, bind_of_map]
  rfl

/-! ### Reading a value without limits in the way -/

/-- What limits ask of the value of a node by itself. -/
structure AllowsForm (limits : Limits) (v : Json) : Prop where
  segment : ∀ (segment : Segment) rest, v = .array (segment.toJson :: rest) →
    ∀ text ∈ segment.texts, text.utf8ByteSize ≤ limits.maxSegmentBytes.toNat
  slots : ∀ first members rest, v = .array (first :: .object members :: rest) →
    members.size ≤ limits.maxSlots.toNat ∧ ∀ key ∈ members.keys, limits.allowsSlot key = true

/-- Limits are kept at every place of a value, whose root stands at a depth. -/
def FormWithin (limits : Limits) (depth : Nat) (v : Json) : Prop :=
  ∀ keys w, formAt? v keys = some w →
    depth + keys.length ≤ limits.maxDepth.toNat ∧ AllowsForm limits w

theorem formWithin_array_iff (limits : Limits) (depth : Nat) (first second : Json)
    (rest : List Json) :
    FormWithin limits depth (.array (first :: second :: rest)) ↔
      depth ≤ limits.maxDepth.toNat ∧ AllowsForm limits (.array (first :: second :: rest)) ∧
        ∀ members key child, second = .object members → members.get? key = some child →
          FormWithin limits (depth + 1) child := by
  constructor
  · intro within
    obtain ⟨atDepth, allowed⟩ := within [] _ rfl
    refine ⟨atDepth, allowed, ?_⟩
    rintro members key child rfl found keys w place
    have below := within (key :: keys) w (by rw [formAt?, found]; exact place)
    rw [List.length_cons] at below
    exact ⟨by omega, below.2⟩
  · rintro ⟨atDepth, allowed, children⟩ keys w place
    cases keys with
    | nil =>
      cases place
      exact ⟨atDepth, allowed⟩
    | cons key keys =>
      unfold formAt? at place
      split at place
      · rename_i members _ equal
        cases equal
        cases found : members.get? key with
        | none => simp [found] at place
        | some child =>
          rw [found] at place
          have below := children members key child rfl found keys w place
          rw [List.length_cons]
          exact ⟨by omega, below.2⟩
      · cases place

theorem countableForm_iff (v : Json) : CountableForm v ↔ FormWithin .permissive 0 v := by
  have widest (n : Nat) : n < UInt64.size ↔ n ≤ (0xFFFFFFFFFFFFFFFF : UInt64).toNat :=
    Nat.lt_succ_iff
  constructor
  · intro countable keys w place
    refine ⟨?_, ?_, ?_⟩
    · rw [Nat.zero_add]
      exact (widest _).1 (countable.depth keys w place)
    · rintro segment rest rfl
      exact (segment.byteLength_le_iff _).1 ((widest _).1 (countable.segments keys segment rest place))
    · rintro first members rest rfl
      exact ⟨(widest _).1 (countable.slots keys first members rest place), fun _ _ => rfl⟩
  · intro within
    refine ⟨?_, ?_, ?_⟩
    · intro keys w place
      have atDepth := (within keys w place).1
      rw [Nat.zero_add] at atDepth
      exact (widest _).2 atDepth
    · intro keys first members rest place
      exact (widest _).2 ((within keys _ place).2.slots first members rest rfl).1
    · intro keys segment rest place
      exact (widest _).2 ((segment.byteLength_le_iff _).2
        ((within keys _ place).2.segment segment rest rfl))

/-- Reading the slots of a node is checking the positions of the trees in them. -/
theorem map_readSlots {limits : Limits} {depth : Nat} {first second : Json} {rest : List Json}
    (allowed : AllowsForm limits (.array (first :: second :: rest)))
    (children : ∀ members key child, second = .object members → members.get? key = some child →
      (readFrom limits child (depth + 1)).map (fun _ => ()) = forM (positions child) Position.check) :
    (readSlots limits depth second).map (fun _ => ()) =
      forM (⟨[.index 1], .slots, second⟩ :: slotPositions second) Position.check := by
  cases second with
  | object members =>
    obtain ⟨count, keys⟩ := allowed.slots first members rest rfl
    have slots : (Dict.traverse members.keys fun key h => do
          Fault.locate [.index 1] (limits.checkSlotKey key)
          Fault.locate [.index 1, .name key]
            (readFrom limits (members.value key h) (depth + 1))).map (fun _ => ()) =
        forM (slotPositions (.object members)) Position.check := by
      rw [slotPositions, forM_flatMap]
      apply Dict.traverse_eq_forM
      intro key member
      have found := Dict.get?_value members member
      rw [(limits.checkSlotKey_eq_ok_iff key).2 (keys key member), found, Option.elim_some,
        forM_within, ← children members key _ rfl found, Fault.locate_ok, ok_bind, Fault.locate_map]
    rw [readSlots, (limits.checkSlotCount_eq_ok_iff _).2 count, Fault.locate_ok, ok_bind, map_bind,
      List.forM_cons, ← slots]
    rfl
  | _ => rfl

theorem check_node (first second : Json) (rest : List Json) :
    Position.check ⟨[], .node, .array (first :: second :: rest)⟩ =
      if 3 < rest.length then .error (.misshapen [] (.nodeSize (rest.length + 2))) else .ok () := by
  have fits : Position.fits ⟨[], .node, .array (first :: second :: rest)⟩ =
      decide (rest.length ≤ 3) := by
    rw [Bool.eq_iff_iff, Position.fits]
    simp only [Role.fits, List.length_cons, Bool.and_eq_true, decide_eq_true_eq]
    omega
  rw [Position.check, fits]
  by_cases size : 3 < rest.length
  · rw [if_pos size, decide_eq_false (Nat.not_le.2 size)]
    rfl
  · rw [if_neg size, decide_eq_true (Nat.not_lt.1 size)]
    rfl

/-- Where it keeps within limits, reading a value is checking its positions. -/
theorem map_readFrom {limits : Limits} {depth : Nat} {v : Json} (within : FormWithin limits depth v) :
    (readFrom limits v depth).map (fun _ => ()) = forM (positions v) Position.check := by
  induction v using formInduction generalizing depth with
  | array first second rest ih =>
    obtain ⟨atDepth, allowed, children⟩ := (formWithin_array_iff ..).1 within
    have slots := map_readSlots allowed fun members key child equal found =>
      ih members key child equal found (children members key child equal found)
    rw [readFrom_array, positions_array, (limits.checkDepth_eq_ok_iff depth).2 atDepth, ok_bind,
      List.forM_cons, check_node]
    by_cases size : 3 < rest.length
    · rw [if_pos size, if_pos size]
      rfl
    · rw [if_neg size, if_neg size, ok_bind, List.forM_append, List.forM_append, forM_within,
        ← map_ofJson_segment, ← slots, forM_restPositions]
      cases read : Segment.ofJson first with
      | error fault => rfl
      | ok segment =>
        have spelled := (Segment.ofJson_eq_ok_iff ..).1 read
        have short := (limits.checkSegment_eq_ok_iff segment).2
          (allowed.segment segment _ (by rw [spelled]))
        simp only [Fault.locate_ok, ok_bind, short, map_bind, bind_of_map, map_ok]
  | single v single =>
    obtain ⟨atDepth, -⟩ := within [] _ rfl
    rw [readFrom_single limits depth single, positions_single single,
      (limits.checkDepth_eq_ok_iff depth).2 atDepth]
    cases v with
    | array items =>
      match items, single with
      | [], _ | [_], _ => rfl
      | first :: second :: rest, single => exact absurd rfl (single first second rest)
    | _ => rfl

/-! ### The first position that does not fit -/

theorem Position.fault_of_kind {p : Position} {code : String} (kind : p.role = .kind)
    (last : p.value = .string code) : p.fault = .unknownKind code := by
  rw [fault, kind, last]

theorem Position.fault_of_ne_kind {p : Position} (other : p.role ≠ .kind) :
    p.fault = .misshapen p.location (p.role.problem p.value) := by
  unfold fault
  split
  · rename_i kind _
    exact absurd kind other
  · rfl

theorem Position.not_mem_of_kind {p : Position} {code : String} (kind : p.role = .kind)
    (last : p.value = .string code) (unfit : p.fits = false) : code ∉ ["d", "oc", "c"] := by
  rw [fits, kind, last, Role.fits] at unfit
  intro known
  rw [List.contains_iff_mem.2 known] at unfit
  cases unfit

/-- A value that words can count is no tree exactly if some position does not fit its role, and the
fault is that of the first such position: the code of a kind, if it ends three texts that are the
segment of a node and is not that of a kind that there is; and otherwise what is wrong with the value
at the position's location, which the message shows with a slash before each index and key. -/
theorem ofJson_eq_error_iff_first {v : Json} (countable : CountableForm v) (fault : Fault) :
    ofJson v = .error fault ↔ ∃ front p back, positions v = front ++ p :: back ∧
      (∀ q ∈ front, q.fits = true) ∧ p.fits = false ∧ v.at? p.location = some p.value ∧
      ((p.role = .kind ∧ ∃ keys name value code rest, formAt? v keys =
            some (.array (.array [.string name, .string value, .string code] :: rest)) ∧
          p.location = locationOf keys ++ [.index 0, .index 2] ∧ p.value = .string code ∧
          code ∉ ["d", "oc", "c"] ∧ fault = .unknownKind code) ∨
        p.role ≠ .kind ∧ fault = .misshapen p.location (p.role.problem p.value) ∧
          fault.message = "Schema error at " ++ p.location.display ++ ": " ++
            (p.role.problem p.value).message) := by
  have read : ofJson v = .error fault ↔ forM (positions v) Position.check = .error fault := by
    rw [← map_readFrom ((countableForm_iff v).1 countable), map_eq_error_iff]
    rfl
  rw [read, forM_eq_error_iff]
  simp only [Position.check_eq_ok_iff, Position.check_eq_error_iff]
  constructor
  · rintro ⟨front, p, back, split, before, unfit, rfl⟩
    have stands : p.Stands v := stands_of_mem_positions (by simp [split])
    refine ⟨front, p, back, split, before, unfit, stands.found, ?_⟩
    by_cases kind : p.role = .kind
    · obtain ⟨keys, name, value, code, rest, place, location, last⟩ := stands.triple kind
      exact .inl ⟨kind, keys, name, value, code, rest, place, location, last,
        Position.not_mem_of_kind kind last unfit, Position.fault_of_kind kind last⟩
    · have fault := Position.fault_of_ne_kind kind
      exact .inr ⟨kind, fault, by rw [fault]; rfl⟩
  · rintro ⟨front, p, back, split, before, unfit, -, reported⟩
    refine ⟨front, p, back, split, before, unfit, ?_⟩
    rcases reported with ⟨kind, _, _, _, code, _, -, -, last, -, rfl⟩ | ⟨other, rfl, -⟩
    · exact (Position.fault_of_kind kind last).symm
    · exact (Position.fault_of_ne_kind other).symm

theorem formWithin_fixed {limits : Limits} {depth : Nat} {name : String} {members : Dict Json}
    {rest : List Json} (atDepth : depth ≤ limits.maxDepth.toNat)
    (short : name.utf8ByteSize ≤ limits.maxSegmentBytes.toNat)
    (count : members.size ≤ limits.maxSlots.toNat)
    (slots : ∀ key child, (key, child) ∈ members.entries →
      limits.allowsSlot key = true ∧ FormWithin limits (depth + 1) child) :
    FormWithin limits depth (.array (.string name :: .object members :: rest)) := by
  refine (formWithin_array_iff ..).2 ⟨atDepth, ⟨?_, ?_⟩, ?_⟩
  · intro segment rest equal
    cases segment with
    | fixed other =>
      cases equal
      exact List.forall_mem_singleton.2 short
    | param => cases equal
  · rintro first _ rest ⟨⟩
    refine ⟨count, ?_⟩
    intro key inside
    obtain ⟨child, found⟩ := (Dict.mem_keys_iff ..).1 inside
    exact (slots key child ((Dict.mem_entries_iff ..).2 found)).1
  · rintro _ key child ⟨⟩ found
    exact (slots key child ((Dict.mem_entries_iff ..).2 found)).2

/-- Three faults at different depths: a URL that is a number, the flag of the node above it, and the
URL of the root. The deepest of them comes first. -/
theorem ofJson_eq_error_iff_first_modal :
    let modal : Json := .array [.string "c", .ofMembers [], .word 5]
    let shop : Json := .array [.string "b", .ofMembers [("modal", modal)], .null, .null, .null]
    let v : Json := .array [.string "a", .ofMembers [("children", shop)], .bool true]
    let location : Location :=
      [.index 1, .name "children", .index 1, .name "modal", .index 2]
    CountableForm v ∧ ofJson v = .error (.misshapen location (.urlExpected .number)) ∧
      ((positions v).filter fun p => !p.fits).map (fun p => p.location.display) =
        ["/1/children/1/modal/2", "/1/children/4", "/2"] ∧
      ∃ front p back, positions v = front ++ p :: back ∧ (∀ q ∈ front, q.fits = true) ∧
        p.fits = false ∧ p.location = location ∧ v.at? location = some p.value := by
  intro modal shop v location
  have countable : CountableForm v := by
    rw [countableForm_iff]
    refine formWithin_fixed (by decide) (by decide) (by decide) fun key child member => ?_
    cases List.mem_singleton.1 member
    refine ⟨rfl, formWithin_fixed (by decide) (by decide) (by decide) fun key child member => ?_⟩
    cases List.mem_singleton.1 member
    exact ⟨rfl, formWithin_fixed (by decide) (by decide) (by decide) nofun⟩
  have rejected : ofJson v = .error (.misshapen location (.urlExpected .number)) := rfl
  obtain ⟨front, p, back, split, before, unfit, found, reported⟩ :=
    (ofJson_eq_error_iff_first countable _).1 rejected
  refine ⟨countable, rejected, by decide +kernel, front, p, back, split, before, unfit, ?_⟩
  rcases reported with ⟨-, _, _, _, _, _, -, -, -, -, other⟩ | ⟨-, fault, -⟩
  · cases other
  · have same : p.location = location := (Fault.misshapen.inj fault).1.symm
    exact ⟨same, same ▸ found⟩

end RouteTree

end RouteSync
