import RouteSync.Proofs.DeadEnds
import RouteSync.Proofs.Messages
import RouteSync.Proofs.Patching

/-!
# What a client can recover from

A client fetches its tree again after a patch that leads nowhere, loads everything anew after a
response of another build, and gives up after anything else. Reading a value never fails for a path
that leads nowhere, whatever the value is and whatever is read from it; only patching does. So the
fault alone tells the client which of the three it has to do.
-/

namespace RouteSync

/-! ### Faults of values -/

namespace Fault

/-- A fault of what is read, and not of a path that leads nowhere. -/
def OfValue (fault : Fault) : Prop := ∀ depth reason, fault ≠ .unresolved depth reason

@[simp] theorem ofValue_unknownKind (code : String) : (unknownKind code).OfValue := nofun

@[simp] theorem ofValue_misshapen (location : Location) (problem : Problem) :
    (misshapen location problem).OfValue := nofun

@[simp] theorem ofValue_overLimit (excess : Excess) : (overLimit excess).OfValue := nofun

/-- What is a fault of a value stays one when its place becomes known. -/
theorem failsWith_locate {α : Type} (location : Location) {result : Except Fault α}
    (fails : FailsWith OfValue result) : FailsWith OfValue (locate location result) := by
  cases result with
  | ok a => exact failsWith_ok a
  | error fault =>
    rw [locate_error, failsWith_error_iff]
    cases fault with
    | unresolved depth reason => exact absurd rfl (fails _ rfl depth reason)
    | _ => exact nofun

end Fault

theorem Segment.failsWith_stringOfJson (v : Json) : FailsWith Fault.OfValue (stringOfJson v) := by
  cases v <;> simp [stringOfJson]

theorem Segment.failsWith_ofJson (v : Json) : FailsWith Fault.OfValue (ofJson v) := by
  have part (i : Nat) (v : Json) :
      FailsWith Fault.OfValue (Fault.locate [.index i] (stringOfJson v)) :=
    Fault.failsWith_locate _ (failsWith_stringOfJson v)
  unfold ofJson
  split
  · simp
  · refine (part 0 _).bind fun name => (part 1 _).bind fun value => (part 2 _).bind fun code => ?_
    split <;> simp
  · simp
  · simp

namespace SegmentPath

theorem failsWith_keyOfJson (v : Json) : FailsWith Fault.OfValue (keyOfJson v) := by
  cases v <;> simp [keyOfJson]

theorem failsWith_ofItemsFrom (index : Nat) (items : List Json) :
    FailsWith Fault.OfValue (ofItemsFrom index items) := by
  have segment (i : Nat) (v : Json) :
      FailsWith Fault.OfValue (Fault.locate [.index i] (Segment.ofJson v)) :=
    Fault.failsWith_locate _ (Segment.failsWith_ofJson v)
  induction index, items using ofItemsFrom.induct with
  | case1 index => simp [ofItemsFrom]
  | case2 index target => exact (segment index target).bind fun _ => failsWith_ok _
  | case3 index first key rest ih =>
    refine (segment index first).bind fun _ => .bind ?_ fun _ => ih.bind fun _ => failsWith_ok _
    exact Fault.failsWith_locate _ (failsWith_keyOfJson key)

theorem failsWith_ofJsonItems (items : List Json) :
    FailsWith Fault.OfValue (ofJsonItems items) := by
  rw [ofJsonItems]
  split
  · simp
  · exact failsWith_ofItemsFrom 0 items

end SegmentPath

namespace Limits

variable (limits : Limits)

theorem failsWith_checkDepth (depth : Nat) : FailsWith Fault.OfValue (limits.checkDepth depth) := by
  rw [checkDepth]
  split <;> simp

theorem failsWith_checkSegment (segment : Segment) :
    FailsWith Fault.OfValue (limits.checkSegment segment) := by
  rw [checkSegment]
  split <;> simp

theorem failsWith_checkSlotCount (count : Nat) :
    FailsWith Fault.OfValue (limits.checkSlotCount count) := by
  rw [checkSlotCount]
  split <;> simp

theorem failsWith_checkSlotKey (key : String) :
    FailsWith Fault.OfValue (limits.checkSlotKey key) := by
  rw [checkSlotKey]
  split <;> simp

end Limits

namespace RouteTree

theorem failsWith_urlOfJson (v : Option Json) : FailsWith Fault.OfValue (urlOfJson v) := by
  unfold urlOfJson
  split <;> simp

theorem failsWith_refetchOfJson (v : Option Json) : FailsWith Fault.OfValue (refetchOfJson v) := by
  unfold refetchOfJson
  split
  · simp
  · simp
  · split <;> simp
  · simp

theorem failsWith_flagOfJson (v : Option Json) : FailsWith Fault.OfValue (flagOfJson v) := by
  unfold flagOfJson
  split <;> simp

/-- Slots are read with faults of the value alone, if what is in them is. -/
theorem failsWith_readSlots {limits : Limits} {depth : Nat} {v : Json}
    (children : ∀ members key child, v = .object members → members.get? key = some child →
      FailsWith Fault.OfValue (readFrom limits child (depth + 1))) :
    FailsWith Fault.OfValue (readSlots limits depth v) := by
  cases v with
  | object members =>
    refine (Fault.failsWith_locate _ (limits.failsWith_checkSlotCount _)).bind fun _ => ?_
    refine FailsWith.bind (.traverse fun key inside => ?_) fun _ => failsWith_ok _
    refine (Fault.failsWith_locate _ (limits.failsWith_checkSlotKey key)).bind fun _ => ?_
    exact Fault.failsWith_locate _ (children members key _ rfl (Dict.get?_value members inside))
  | _ => simp [readSlots]

theorem failsWith_readFrom (limits : Limits) (v : Json) (depth : Nat) :
    FailsWith Fault.OfValue (readFrom limits v depth) := by
  induction v using formInduction generalizing depth with
  | array first second rest ih =>
    have slots : FailsWith Fault.OfValue (readSlots limits depth second) :=
      failsWith_readSlots fun members key child equal found =>
        ih members key child equal found (depth + 1)
    rw [readFrom_array]
    refine (limits.failsWith_checkDepth depth).bind fun _ => ?_
    split
    · simp
    · refine (Fault.failsWith_locate _ (Segment.failsWith_ofJson first)).bind fun segment => ?_
      refine (Fault.failsWith_locate _ (limits.failsWith_checkSegment segment)).bind fun _ => ?_
      refine slots.bind fun slots => ?_
      refine (Fault.failsWith_locate _ (failsWith_urlOfJson _)).bind fun url => ?_
      refine (Fault.failsWith_locate _ (failsWith_refetchOfJson _)).bind fun refetch => ?_
      exact (Fault.failsWith_locate _ (failsWith_flagOfJson _)).bind fun _ => failsWith_ok _
  | single v single =>
    rw [readFrom_single limits depth single]
    exact (limits.failsWith_checkDepth depth).bind fun _ => by simp

end RouteTree

theorem DataPath.failsWith_ofJsonWithin (limits : Limits) (v : Json) :
    FailsWith Fault.OfValue (ofJsonWithin limits v) := by
  unfold ofJsonWithin
  split
  · split
    · split
      · simp
      · refine (SegmentPath.failsWith_ofJsonItems _).bind fun path => ?_
        refine (RouteTree.failsWith_readFrom limits _ 0).bind fun tree => ?_
        split <;> simp
    · simp
  · simp

namespace FlightData

theorem failsWith_pathsOfJson (limits : Limits) (items : List Json) :
    FailsWith Fault.OfValue (pathsOfJson limits items) := by
  induction items with
  | nil => exact failsWith_ok _
  | cons item items ih =>
    exact (DataPath.failsWith_ofJsonWithin limits item).bind fun _ => ih.bind fun _ => failsWith_ok _

theorem failsWith_ofJsonWithin (limits : Limits) (v : Json) :
    FailsWith Fault.OfValue (ofJsonWithin limits v) := by
  unfold ofJsonWithin
  split
  · simp
  · exact (failsWith_pathsOfJson limits _).bind fun _ => failsWith_ok _
  · simp

end FlightData

/-! ### Faults of responses -/

namespace ExchangeFault

/-- A fault that a response has by itself: neither a path that leads nowhere in the client's tree
nor a build that is not the client's. -/
def OfResponse (fault : ExchangeFault) : Prop :=
  fault.isRecoverable = false ∧ fault.requiresReload = false

@[simp] theorem ofResponse_ambiguous (why : Ambiguity) : (ambiguous why).OfResponse := ⟨rfl, rfl⟩

theorem isRecoverable_iff (fault : ExchangeFault) :
    fault.isRecoverable = true ↔ ∃ depth reason, fault = .route (.unresolved depth reason) := by
  unfold isRecoverable
  split <;> simp_all

theorem requiresReload_iff (fault : ExchangeFault) :
    fault.requiresReload = true ↔ ∃ expected received, fault = .staleBuild expected received := by
  unfold requiresReload
  split <;> simp_all

theorem ofResponse_route {fault : Fault} (ofValue : fault.OfValue) : (route fault).OfResponse := by
  refine ⟨?_, rfl⟩
  rw [Bool.eq_false_iff, ne_eq, isRecoverable_iff]
  rintro ⟨depth, reason, equal⟩
  exact ofValue depth reason (route.inj equal)

theorem failsWith_mapError_route {α : Type} {result : Except Fault α}
    (fails : FailsWith Fault.OfValue result) : FailsWith OfResponse (result.mapError route) := by
  cases result with
  | ok a => exact failsWith_ok a
  | error fault => exact (failsWith_error_iff _).2 (ofResponse_route (fails fault rfl))

end ExchangeFault

namespace Envelope

theorem failsWith_pairAt (location : Location) (v : Json) :
    FailsWith ExchangeFault.OfResponse (pairAt location v) := by
  unfold pairAt
  split <;> simp [ExchangeFault.ofResponse_route]

theorem failsWith_navigationOf (limits : Limits) (asked : Context) (first second : Json) :
    FailsWith Fault.OfValue (navigationOf limits asked first second) := by
  unfold navigationOf
  split
  · exact (FlightData.failsWith_ofJsonWithin limits second).bind fun _ => failsWith_ok _
  · simp

theorem failsWith_actionOf (limits : Limits) (first second : Json) :
    FailsWith ExchangeFault.OfResponse (actionOf limits first second) := by
  unfold actionOf
  split
  · split
    · simp
    · rename_i fault refused
      split
      · simp
      · exact (failsWith_error_iff _).2
          (ExchangeFault.ofResponse_route (failsWith_navigationOf _ _ _ _ fault refused))
  · refine (failsWith_pairAt _ _).bind fun pair => ?_
    split
    · simp
    · split
      · simp
      · rename_i fault refused
        exact (failsWith_error_iff _).2
          (ExchangeFault.ofResponse_route (FlightData.failsWith_ofJsonWithin _ _ fault refused))
    · simp

/-- Whatever is wrong with a response is wrong with it for every client and every tree. -/
theorem failsWith_ofJsonWithin (limits : Limits) (context : Context) (raw : Json) :
    FailsWith ExchangeFault.OfResponse (ofJsonWithin limits context raw) := by
  refine (failsWith_pairAt [] raw).bind fun pair => ?_
  cases context with
  | navigation =>
    exact ExchangeFault.failsWith_mapError_route (failsWith_navigationOf limits _ pair.1 pair.2)
  | action => exact failsWith_actionOf limits pair.1 pair.2

end Envelope

/-! ### Patches that lead nowhere -/

/-- One of the data paths leads nowhere in the tree that those before it have made. -/
def DataPath.Stuck (ds : List DataPath) (base : RouteTree) : Prop :=
  ∃ front d back tree, ds = front ++ d :: back ∧ applyAll front base = .ok tree ∧
    tree.descend? d.steps = none

theorem DataPath.exists_applyTo_eq_error_iff (d : DataPath) (base : RouteTree) :
    (∃ fault, d.applyTo base = .error fault) ↔ base.descend? d.steps = none := by
  rw [← Option.not_isSome_iff_eq_none]
  change _ ↔ ¬base.Follows d.steps
  rw [← applies_iff]
  cases d.applyTo base <;> simp

/-- Data paths fail to apply only where one of them leads nowhere, and that is the fault. -/
theorem DataPath.exists_applyAll_eq_error_iff (ds : List DataPath) (base : RouteTree) :
    (∃ depth reason, applyAll ds base = .error (.unresolved depth reason)) ↔ Stuck ds base := by
  constructor
  · rintro ⟨depth, reason, fails⟩
    obtain ⟨front, d, back, tree, split, before, last⟩ := (applyAll_eq_error_iff ..).1 fails
    exact ⟨front, d, back, tree, split, before, (exists_applyTo_eq_error_iff ..).1 ⟨_, last⟩⟩
  · rintro ⟨front, d, back, tree, split, before, nowhere⟩
    obtain ⟨fault, last⟩ := (exists_applyTo_eq_error_iff ..).2 nowhere
    obtain ⟨depth, reason, rfl⟩ :=
      RouteTree.exists_unresolved_of_checkSteps ((applyTo_eq_error_iff ..).1 last)
    exact ⟨depth, reason, (applyAll_eq_error_iff ..).2 ⟨front, d, back, tree, split, before, last⟩⟩

namespace FlightData

theorem applyTo_eq_redirect_iff (data : FlightData) (base : RouteTree) (url : String) :
    data.applyTo base = .ok (.redirect url) ↔ data = .redirect url := by
  cases data with
  | redirect other => simp [applyTo]
  | paths ds => simp [applyTo_paths_eq_ok_iff]

theorem applyTo_eq_patched_iff (data : FlightData) (base tree : RouteTree)
    (contents : List PlacedContent) :
    data.applyTo base = .ok (.patched tree contents) ↔ ∃ ds, data = .paths ds ∧
      DataPath.applyAll ds base = .ok tree ∧ contents = ds.map DataPath.placedContent := by
  cases data with
  | redirect other => simp [applyTo]
  | paths ds => simp [applyTo_paths_eq_ok_iff]

theorem applyTo_eq_error_iff (data : FlightData) (base : RouteTree) (fault : Fault) :
    data.applyTo base = .error fault ↔
      ∃ ds, data = .paths ds ∧ DataPath.applyAll ds base = .error fault := by
  cases data with
  | redirect other => simp [applyTo]
  | paths ds => simp [applyTo_paths_eq, map_eq_error_iff]

end FlightData

namespace Client

variable {client : Client} {base : RouteTree} {context : Context} {raw : Json}

/-! ### What a client makes of a response -/

theorem read_eq_error_iff (fault : ExchangeFault) :
    client.read context raw = .error fault ↔
      Envelope.ofJsonWithin client.limits context raw = .error fault ∨
        ∃ e, Envelope.ofJsonWithin client.limits context raw = .ok e ∧
          e.buildId ≠ client.buildId ∧ fault = .staleBuild client.buildId e.buildId := by
  rw [read, bind_eq_error_iff]
  apply or_congr_right
  apply exists_congr
  intro e
  split
  · simp_all
  · simp_all [eq_comm]

/-- A response is of another build exactly if it can be read and has another build's id. -/
theorem read_eq_staleBuild_iff (expected received : String) :
    client.read context raw = .error (.staleBuild expected received) ↔
      expected = client.buildId ∧ received ≠ client.buildId ∧
        ∃ e, Envelope.ofJsonWithin client.limits context raw = .ok e ∧ e.buildId = received := by
  rw [read_eq_error_iff]
  constructor
  · rintro (refused | ⟨e, decoded, other, equal⟩)
    · exact nomatch (Envelope.failsWith_ofJsonWithin _ _ _ _ refused).2
    · cases equal
      exact ⟨rfl, other, e, decoded, rfl⟩
  · rintro ⟨rfl, other, e, decoded, rfl⟩
    exact .inr ⟨e, decoded, other, rfl⟩

theorem read_eq_error_iff_of_current {fault : ExchangeFault} (current : fault.requiresReload = false) :
    client.read context raw = .error fault ↔
      Envelope.ofJsonWithin client.limits context raw = .error fault := by
  rw [read_eq_error_iff, or_iff_left]
  rintro ⟨e, -, -, rfl⟩
  cases current

theorem isRecoverable_of_read {fault : ExchangeFault}
    (refused : client.read context raw = .error fault) : fault.isRecoverable = false := by
  rcases (read_eq_error_iff fault).1 refused with refused | ⟨e, -, -, rfl⟩
  · exact (Envelope.failsWith_ofJsonWithin _ _ _ fault refused).1
  · rfl

theorem navigate_eq_ok_iff (outcome : Option Navigation) :
    client.navigate base context raw = .ok outcome ↔ ∃ e, client.read context raw = .ok e ∧
      (e.data? = none ∧ outcome = none ∨ ∃ data reached, e.data? = some data ∧
        data.applyTo base = .ok reached ∧ outcome = some reached) := by
  rw [navigate, bind_eq_ok_iff]
  apply exists_congr
  intro e
  apply and_congr_right
  intro _
  cases e.data? with
  | none => simp [eq_comm]
  | some data =>
    rw [mapError_eq_ok_iff, map_eq_ok_iff]
    simp [eq_comm]

theorem navigate_eq_error_iff (fault : ExchangeFault) :
    client.navigate base context raw = .error fault ↔ client.read context raw = .error fault ∨
      ∃ e data inner, client.read context raw = .ok e ∧ e.data? = some data ∧
        data.applyTo base = .error inner ∧ fault = .route inner := by
  rw [navigate, bind_eq_error_iff]
  apply or_congr_right
  apply exists_congr
  intro e
  cases e.data? with
  | none => simp
  | some data =>
    simp only [mapError_eq_error_iff, map_eq_error_iff]
    constructor
    · rintro ⟨read, inner, fails, rfl⟩
      exact ⟨data, inner, read, rfl, fails, rfl⟩
    · rintro ⟨_, inner, read, equal, fails, rfl⟩
      cases equal
      exact ⟨read, inner, fails, rfl⟩

/-- There is nothing to navigate to only after an action without flight data. -/
theorem navigate_eq_none_iff :
    client.navigate base context raw = .ok none ↔
      ∃ result buildId, client.read context raw = .ok (.actionResult result buildId none) := by
  rw [navigate_eq_ok_iff]
  constructor
  · rintro ⟨e, read, ⟨missing, -⟩ | ⟨_, _, -, -, equal⟩⟩
    · cases e with
      | navigation asked buildId data => cases missing
      | actionResult result buildId data =>
        cases missing
        exact ⟨result, buildId, read⟩
    · cases equal
  · rintro ⟨result, buildId, read⟩
    exact ⟨_, read, .inl ⟨rfl, rfl⟩⟩

theorem navigate_eq_some_iff (reached : Navigation) :
    client.navigate base context raw = .ok (some reached) ↔ ∃ e data,
      client.read context raw = .ok e ∧ e.data? = some data ∧ data.applyTo base = .ok reached := by
  rw [navigate_eq_ok_iff]
  constructor
  · rintro ⟨e, read, ⟨-, equal⟩ | ⟨data, _, carries, applied, equal⟩⟩
    · cases equal
    · cases equal
      exact ⟨e, data, read, carries, applied⟩
  · rintro ⟨e, data, read, carries, applied⟩
    exact ⟨e, read, .inr ⟨data, reached, carries, applied, rfl⟩⟩

/-- A client recovers exactly from data paths one of which leads nowhere. -/
theorem exists_navigate_eq_recoverable_iff :
    (∃ fault, client.navigate base context raw = .error fault ∧ fault.isRecoverable = true) ↔
      ∃ e ds, client.read context raw = .ok e ∧ e.data? = some (.paths ds) ∧
        DataPath.Stuck ds base := by
  simp only [navigate_eq_error_iff, ← DataPath.exists_applyAll_eq_error_iff]
  constructor
  · rintro ⟨fault, refused | ⟨e, data, inner, read, carries, fails, rfl⟩, recoverable⟩
    · rw [isRecoverable_of_read refused] at recoverable
      cases recoverable
    · obtain ⟨ds, rfl, stuck⟩ := (FlightData.applyTo_eq_error_iff ..).1 fails
      obtain ⟨depth, reason, equal⟩ := (ExchangeFault.isRecoverable_iff _).1 recoverable
      rw [ExchangeFault.route.inj equal] at stuck
      exact ⟨e, ds, read, carries, depth, reason, stuck⟩
  · rintro ⟨e, ds, read, carries, depth, reason, fails⟩
    have stuck := (FlightData.applyTo_eq_error_iff ..).2 ⟨ds, rfl, fails⟩
    exact ⟨_, .inr ⟨e, _, _, read, carries, stuck, rfl⟩, rfl⟩

/-- What a client cannot recover from was wrong with the response. -/
theorem navigate_eq_error_iff_of_unrecoverable {fault : ExchangeFault}
    (unrecoverable : fault.isRecoverable = false) :
    client.navigate base context raw = .error fault ↔ client.read context raw = .error fault := by
  rw [navigate_eq_error_iff, or_iff_left]
  rintro ⟨e, data, inner, -, -, fails, rfl⟩
  obtain ⟨ds, -, fails⟩ := (FlightData.applyTo_eq_error_iff ..).1 fails
  obtain ⟨_, d, _, tree, -, -, last⟩ := (DataPath.applyAll_eq_error_iff ..).1 fails
  obtain ⟨depth, reason, rfl⟩ :=
    RouteTree.exists_unresolved_of_checkSteps ((DataPath.applyTo_eq_error_iff ..).1 last)
  cases unrecoverable

/-- Each outcome of reading a response, and of navigating by it, has its own cause. -/
structure Classifies (client : Client) (base : RouteTree) (context : Context) (raw : Json) :
    Prop where
  accepted : ∀ e, client.read context raw = .ok e ↔
    Envelope.ofJsonWithin client.limits context raw = .ok e ∧ e.buildId = client.buildId
  stale : ∀ expected received,
    client.read context raw = .error (.staleBuild expected received) ↔
      expected = client.buildId ∧ received ≠ client.buildId ∧
        ∃ e, Envelope.ofJsonWithin client.limits context raw = .ok e ∧ e.buildId = received
  refused : ∀ fault, fault.requiresReload = false →
    (client.read context raw = .error fault ↔
      Envelope.ofJsonWithin client.limits context raw = .error fault)
  stamped : ∀ e, Envelope.ofJsonWithin client.limits context raw = .ok e →
    ∀ buildId, Envelope.Stamped buildId raw ↔ buildId = e.buildId
  reload : ∀ fault : ExchangeFault,
    fault.requiresReload = true ↔ ∃ expected received, fault = .staleBuild expected received
  faulty : ∀ fault, Envelope.ofJsonWithin client.limits context raw = .error fault →
    fault.isRecoverable = false ∧ fault.requiresReload = false
  unrecoverable : ∀ fault, client.read context raw = .error fault → fault.isRecoverable = false
  nothing : client.navigate base context raw = .ok none ↔
    ∃ result buildId, client.read context raw = .ok (.actionResult result buildId none)
  redirect : ∀ url, client.navigate base context raw = .ok (some (.redirect url)) ↔
    ∃ e, client.read context raw = .ok e ∧ e.data? = some (.redirect url)
  patched : ∀ tree contents,
    client.navigate base context raw = .ok (some (.patched tree contents)) ↔
      ∃ e ds, client.read context raw = .ok e ∧ e.data? = some (.paths ds) ∧
        DataPath.applyAll ds base = .ok tree ∧ contents = ds.map DataPath.placedContent
  recoverable :
    (∃ fault, client.navigate base context raw = .error fault ∧ fault.isRecoverable = true) ↔
      ∃ e ds, client.read context raw = .ok e ∧ e.data? = some (.paths ds) ∧ DataPath.Stuck ds base
  otherwise : ∀ fault, fault.isRecoverable = false →
    (client.navigate base context raw = .error fault ↔ client.read context raw = .error fault)

/-- Whatever a client receives, and whatever its tree is, the fault tells it what to do: to fetch
the tree again if data paths lead nowhere in it, to load the build that the response comes from if
that is another one, and nothing if the response itself is faulty. -/
theorem navigate_classified (client : Client) (base : RouteTree) (context : Context) (raw : Json) :
    client.Classifies base context raw where
  accepted := client.read_eq_ok_iff context raw
  stale := read_eq_staleBuild_iff
  refused := fun _ current => read_eq_error_iff_of_current current
  stamped := fun _ => Envelope.stamped_iff_of_ofJsonWithin
  reload := ExchangeFault.requiresReload_iff
  faulty := Envelope.failsWith_ofJsonWithin client.limits context raw
  unrecoverable := fun _ refused => isRecoverable_of_read refused
  nothing := navigate_eq_none_iff
  redirect := by
    intro url
    simp only [navigate_eq_some_iff, FlightData.applyTo_eq_redirect_iff]
    constructor
    · rintro ⟨e, _, read, carries, rfl⟩
      exact ⟨e, read, carries⟩
    · rintro ⟨e, read, carries⟩
      exact ⟨e, _, read, carries, rfl⟩
  patched := by
    intro tree contents
    simp only [navigate_eq_some_iff, FlightData.applyTo_eq_patched_iff]
    constructor
    · rintro ⟨e, _, read, carries, ds, rfl, applied⟩
      exact ⟨e, ds, read, carries, applied⟩
    · rintro ⟨e, ds, read, carries, applied⟩
      exact ⟨e, _, read, carries, ds, rfl, applied⟩
  recoverable := exists_navigate_eq_recoverable_iff
  otherwise := fun _ unrecoverable => navigate_eq_error_iff_of_unrecoverable unrecoverable

/-- After a change of build a response of the old one is stale, after an action too. One of the new
build patches the tree, unless its second data path leads to what the first one has replaced; and an
action without flight data changes nothing. -/
theorem navigate_classified_builds :
    let shop := (RouteTree.leaf (.fixed "shop")).withSlot "children" (.leaf .page)
    let base := (RouteTree.leaf (.fixed "")).withSlot "children" shop
    let below : List Step := [⟨.fixed "", "children"⟩]
    let blog : DataPath := ⟨below, .ofTree (.leaf (.fixed "blog"))⟩
    let inShop : DataPath := ⟨below ++ [⟨.fixed "shop", "children"⟩], .ofTree (.leaf .page)⟩
    let response (buildId : String) (ds : List DataPath) : Json :=
      (Envelope.navigation .navigation buildId (.paths ds)).toJson
    let answer (buildId : String) : Json := .array [.bool true, .array [.string buildId, .null]]
    let patched := base.withSlot "children" (.leaf (.fixed "blog"))
    let client : Client := ⟨"b2", .standard⟩
    client.navigate base .navigation (response "b1" [blog]) = .error (.staleBuild "b2" "b1") ∧
      client.navigate base .action (answer "b1") = .error (.staleBuild "b2" "b1") ∧
      client.navigate base .navigation (response "b2" [blog]) =
        .ok (some (.patched patched [blog.placedContent])) ∧
      (∃ fault, client.navigate base .navigation (response "b2" [blog, inShop]) = .error fault ∧
        fault.isRecoverable = true) ∧
      client.navigate base .action (answer "b2") = .ok none := by
  intro shop base below blog inShop response answer patched client
  have classified := navigate_classified client base
  have reads (buildId : String) (ds : List DataPath) (sound : ∀ d ∈ ds,
      d.patch.segment = d.patch.tree.segment ∧ d.patch.tree.checkWithin .standard = .ok ()) :
      Envelope.ofJsonWithin client.limits .navigation (response buildId ds) =
        .ok (.navigation .navigation buildId (.paths (ds.map DataPath.arrived))) := by
    rw [Envelope.ofJsonWithin_navigation, FlightData.ofJsonWithin_toJson
      (fun d member => (sound d member).1) fun d member => (sound d member).2]
    rfl
  have one (buildId : String) := reads buildId [blog] (List.forall_mem_singleton.2 ⟨rfl, rfl⟩)
  have two := reads "b2" [blog, inShop]
    (List.forall_mem_cons.2 ⟨⟨rfl, rfl⟩, List.forall_mem_singleton.2 ⟨rfl, rfl⟩⟩)
  have stale (context : Context) (raw : Json) (e : Envelope)
      (read : Envelope.ofJsonWithin client.limits context raw = .ok e)
      (stamped : Envelope.Stamped "b1" raw) :
      client.navigate base context raw = .error (.staleBuild "b2" "b1") := by
    have build := ((classified context raw).stamped e read "b1").1 stamped
    apply ((classified context raw).otherwise _ rfl).2
    exact ((classified context raw).stale "b2" "b1").2 ⟨rfl, by decide, e, read, build.symm⟩
  refine ⟨stale _ _ _ (one "b1") (.inl ⟨_, rfl⟩), ?_, ?_, ?_, ?_⟩
  · exact stale _ _ (.actionResult (.bool true) "b1" none) rfl
      (.inr ⟨.bool true, .null, rfl, nofun⟩)
  · have accepted := ((classified ..).accepted _).2 ⟨one "b2", rfl⟩
    exact ((classified ..).patched _ _).2 ⟨_, _, accepted, rfl, rfl, rfl⟩
  · have accepted := ((classified ..).accepted _).2 ⟨two, rfl⟩
    exact (classified ..).recoverable.2
      ⟨_, _, accepted, rfl, [blog.arrived], inShop.arrived, [], patched, rfl, rfl, rfl⟩
  · exact (classified ..).nothing.2 ⟨.bool true, "b2", rfl⟩

end Client

end RouteSync
