import RouteSync.Exchange.Client
import RouteSync.Proofs.Reading

/-!
# Reading messages

Reading the wire form of data paths is checking their trees: within the reader's limits they arrive,
but for content that is null, which arrives as no content. Whatever is read from a value can be told
from its own wire form, and its trees are within the limits.
-/

namespace RouteSync

/-! ### Paths of segments -/

namespace SegmentPath

theorem toJsonItems_root (target : Segment) : (root target).toJsonItems = [target.toJson] := rfl

theorem toJsonItems_cons (step : Step) (steps : List Step) (target : Segment) :
    toJsonItems ⟨step :: steps, target⟩ =
      step.segment.toJson :: .string step.key :: toJsonItems ⟨steps, target⟩ := rfl

theorem ofItemsFrom_toJsonItems (index : Nat) (path : SegmentPath) :
    ofItemsFrom index path.toJsonItems = .ok path := by
  obtain ⟨steps, target⟩ := path
  induction steps generalizing index with
  | nil => simp [toJsonItems, ofItemsFrom, Segment.ofJson_toJson, ok_bind, root]
  | cons step steps ih =>
    obtain ⟨item, rest, more⟩ : ∃ item rest, toJsonItems ⟨steps, target⟩ = item :: rest :=
      List.exists_cons_of_ne_nil (by simp [toJsonItems])
    rw [toJsonItems_cons, more, ofItemsFrom, ← more, ih]
    simp [Segment.ofJson_toJson, keyOfJson, ok_bind]

/-- A path alternates segments with slot keys, and ends as it begins. -/
theorem length_toJsonItems (path : SegmentPath) :
    path.toJsonItems.length = 2 * path.steps.length + 1 := by
  simp [toJsonItems, List.length_flatMap]
  omega

theorem ofJsonItems_toJsonItems (path : SegmentPath) :
    ofJsonItems path.toJsonItems = .ok path := by
  have odd : ¬path.toJsonItems.length % 2 = 0 := by
    rw [length_toJsonItems]
    omega
  rw [ofJsonItems, if_neg odd, ofItemsFrom_toJsonItems]

theorem keyOfJson_eq_ok_iff (v : Json) (key : String) : keyOfJson v = .ok key ↔ v = .string key := by
  cases v <;> simp [keyOfJson]

theorem eq_toJsonItems_of_ofItemsFrom {index : Nat} {items : List Json} {path : SegmentPath}
    (read : ofItemsFrom index items = .ok path) : items = path.toJsonItems := by
  fun_induction ofItemsFrom index items generalizing path with
  | case1 => cases read
  | case2 index target =>
    simp only [bind_eq_ok_iff, Fault.locate_eq_ok_iff, Segment.ofJson_eq_ok_iff] at read
    obtain ⟨target, rfl, equal⟩ := read
    cases equal
    rfl
  | case3 index segment key rest ih =>
    simp only [bind_eq_ok_iff, Fault.locate_eq_ok_iff, Segment.ofJson_eq_ok_iff,
      keyOfJson_eq_ok_iff] at read
    obtain ⟨segment, rfl, key, rfl, path, others, equal⟩ := read
    cases equal
    rw [ih others]
    rfl

/-- A path is read from nothing but its own elements. -/
theorem ofJsonItems_eq_ok_iff (items : List Json) (path : SegmentPath) :
    ofJsonItems items = .ok path ↔ items = path.toJsonItems := by
  constructor
  · intro read
    rw [ofJsonItems] at read
    split at read
    · cases read
    · exact eq_toJsonItems_of_ofItemsFrom read
  · rintro rfl
    exact ofJsonItems_toJsonItems path

end SegmentPath

/-! ### Data paths -/

namespace DataPath

/-- The data path as it arrives: content that is null is none. -/
def arrived (d : DataPath) : DataPath :=
  ⟨d.steps, ⟨d.patch.segment, d.patch.tree, content? (d.patch.content.getD .null),
    content? (d.patch.head.getD .null)⟩⟩

/-- A data path that can be told from its wire form: it carries its tree's own segment, and no
content that is null. -/
structure Canonical (d : DataPath) : Prop where
  own : d.patch.segment = d.patch.tree.segment
  content : d.patch.content ≠ some .null
  head : d.patch.head ≠ some .null

theorem content?_getD {content : Option Json} (present : content ≠ some .null) :
    content? (content.getD .null) = content := by
  cases content with
  | none => rfl
  | some v =>
    cases v with
    | null => exact absurd rfl present
    | _ => rfl

theorem content?_ne_null (v : Json) : content? v ≠ some .null := by
  cases v <;> simp [content?]

theorem Canonical.arrived_eq {d : DataPath} (canonical : d.Canonical) : d.arrived = d := by
  rw [arrived, content?_getD canonical.content, content?_getD canonical.head]

/-- Behind the elements of a path, a data path is read as its tree is, if the path ends on the tree's
own segment. -/
theorem ofJsonWithin_elements (limits : Limits) (path : SegmentPath) (spelled content head : Json) :
    ofJsonWithin limits (.array (path.toJsonItems ++ [spelled, content, head])) = (do
      let tree ← RouteTree.ofJsonWithin limits spelled
      if path.target = tree.segment then
        .ok ⟨path.steps, ⟨path.target, tree, content? content, content? head⟩⟩
      else .error (.misshapen [.index (2 * path.steps.length)]
        (.segmentDiffers path.target tree.segment))) := by
  have odd : ¬(2 * path.steps.length + 1) % 2 = 0 := by omega
  simp only [ofJsonWithin, List.reverse_append, List.reverse_cons, List.reverse_nil,
    List.nil_append, List.cons_append, List.length_reverse, List.reverse_reverse,
    SegmentPath.length_toJsonItems, if_neg odd, SegmentPath.ofJsonItems_toJsonItems, ok_bind,
    Nat.add_sub_cancel]

/-- Reading a data path that carries its tree's own segment is checking the tree. -/
theorem ofJsonWithin_toJson (limits : Limits) {d : DataPath}
    (own : d.patch.segment = d.patch.tree.segment) :
    ofJsonWithin limits d.toJson = (d.patch.tree.checkWithin limits).map fun _ => d.arrived := by
  have same : d.path.target = d.patch.tree.segment := own
  rw [toJson, ofJsonWithin_elements, RouteTree.ofJsonWithin_toJson, bind_of_map]
  simp only [if_pos same]
  cases d.patch.tree.checkWithin limits <;> rfl

/-- A data path is read from the elements of its path, a value that is read as its tree, and two
values for its content and its head, if the path ends on the tree's own segment. -/
theorem ofJsonWithin_eq_ok_iff (limits : Limits) (v : Json) (d : DataPath) :
    ofJsonWithin limits v = .ok d ↔ ∃ spelled content head,
      v = .array (d.path.toJsonItems ++ [spelled, content, head]) ∧
        RouteTree.ofJsonWithin limits spelled = .ok d.patch.tree ∧
        d.patch.segment = d.patch.tree.segment ∧ d.patch.content = content? content ∧
        d.patch.head = content? head := by
  constructor
  · intro found
    cases v with
    | array items =>
      rw [ofJsonWithin] at found
      split at found
      · rename_i head content spelled places reversed
        split at found
        · cases found
        · simp only [bind_eq_ok_iff, SegmentPath.ofJsonItems_eq_ok_iff] at found
          obtain ⟨path, elements, tree, treeRead, found⟩ := found
          split at found
          · rename_i own
            cases found
            refine ⟨spelled, content, head, ?_, treeRead, own, rfl, rfl⟩
            rw [← List.reverse_reverse items, reversed]
            simp [elements, DataPath.path]
          · cases found
      · cases found
    | _ => cases found
  · rintro ⟨spelled, content, head, rfl, treeRead, own, contentRead, headRead⟩
    have same : d.path.target = d.patch.tree.segment := own
    rw [ofJsonWithin_elements, treeRead, ok_bind, if_pos same, ← contentRead, ← headRead]
    rfl

/-- A data path that is read is canonical, and its tree keeps within the limits. -/
theorem sound_of_ofJsonWithin {limits : Limits} {v : Json} {d : DataPath}
    (found : ofJsonWithin limits v = .ok d) :
    d.Canonical ∧ d.patch.tree.checkWithin limits = .ok () := by
  obtain ⟨_, content, head, -, treeRead, own, contentRead, headRead⟩ :=
    (ofJsonWithin_eq_ok_iff ..).1 found
  refine ⟨⟨own, ?_, ?_⟩, RouteTree.checkWithin_of_ofJsonWithin treeRead⟩
  · rw [contentRead]
    exact content?_ne_null content
  · rw [headRead]
    exact content?_ne_null head

end DataPath

/-! ### Flight data -/

namespace FlightData

/-- The data paths of flight data. -/
def dataPaths : FlightData → List DataPath
  | paths ds => ds
  | redirect _ => []

/-- Reading data paths that carry their trees' own segments is checking the trees in turn. -/
theorem pathsOfJson_map_toJson (limits : Limits) {ds : List DataPath}
    (own : ∀ d ∈ ds, d.patch.segment = d.patch.tree.segment) :
    pathsOfJson limits (ds.map DataPath.toJson) =
      (forM ds fun d : DataPath => d.patch.tree.checkWithin limits).map fun _ =>
        ds.map DataPath.arrived := by
  induction ds with
  | nil => rfl
  | cons d rest ih =>
    obtain ⟨first, others⟩ := List.forall_mem_cons.1 own
    rw [List.map_cons, pathsOfJson, DataPath.ofJsonWithin_toJson limits first, ih others,
      List.forM_cons, bind_of_map, map_bind]
    simp only [bind_of_map]
    cases d.patch.tree.checkWithin limits with
    | error fault => rfl
    | ok =>
      rw [ok_bind, ok_bind]
      cases (forM rest fun e : DataPath => e.patch.tree.checkWithin limits) <;> rfl

theorem ofJsonWithin_toJson {limits : Limits} {ds : List DataPath}
    (own : ∀ d ∈ ds, d.patch.segment = d.patch.tree.segment)
    (pass : ∀ d ∈ ds, d.patch.tree.checkWithin limits = .ok ()) :
    ofJsonWithin limits (FlightData.paths ds).toJson = .ok (.paths (ds.map DataPath.arrived)) := by
  rw [toJson, ofJsonWithin, pathsOfJson_map_toJson limits own, (forM_eq_ok_iff ..).2 pass]
  rfl

/-- Reading flight data with canonical data paths is checking their trees. -/
theorem ofJsonWithin_toJson_of_canonical (limits : Limits) {data : FlightData}
    (canonical : ∀ d ∈ data.dataPaths, d.Canonical) :
    ofJsonWithin limits data.toJson =
      (forM data.dataPaths fun d : DataPath => d.patch.tree.checkWithin limits).map fun _ =>
        data := by
  cases data with
  | redirect url => rfl
  | paths ds =>
    have own : ∀ d ∈ ds, d.patch.segment = d.patch.tree.segment :=
      fun d member => (canonical d member).own
    have same : ds.map DataPath.arrived = ds :=
      (List.map_congr_left fun d member => (canonical d member).arrived_eq).trans (List.map_id ds)
    rw [toJson, ofJsonWithin, pathsOfJson_map_toJson limits own, same, dataPaths]
    cases (forM ds fun d : DataPath => d.patch.tree.checkWithin limits) <;> rfl

theorem sound_of_pathsOfJson {limits : Limits} {items : List Json} {ds : List DataPath}
    (found : pathsOfJson limits items = .ok ds) :
    ∀ d ∈ ds, d.Canonical ∧ d.patch.tree.checkWithin limits = .ok () := by
  induction items generalizing ds with
  | nil =>
    cases found
    simp
  | cons item items ih =>
    simp only [pathsOfJson, bind_eq_ok_iff] at found
    obtain ⟨first, firstRead, rest, restRead, equal⟩ := found
    cases equal
    exact List.forall_mem_cons.2 ⟨DataPath.sound_of_ofJsonWithin firstRead, ih restRead⟩

/-- All data paths that are read are canonical, and their trees keep within the limits. -/
theorem sound_of_ofJsonWithin {limits : Limits} {v : Json} {data : FlightData}
    (found : ofJsonWithin limits v = .ok data) :
    ∀ d ∈ data.dataPaths, d.Canonical ∧ d.patch.tree.checkWithin limits = .ok () := by
  cases v with
  | array items =>
    simp only [ofJsonWithin, bind_eq_ok_iff] at found
    obtain ⟨_, read, equal⟩ := found
    cases equal
    exact sound_of_pathsOfJson read
  | string url =>
    cases found
    simp [dataPaths]
  | _ => cases found

/-- Flight data does not look like the second element of an action's result: its elements are
arrays. -/
theorem looksLikeResult_toJson (data : FlightData) :
    Envelope.looksLikeResult data.toJson = false := by
  cases data with
  | redirect url => rfl
  | paths ds =>
    match ds with
    | [] | [_] | [_, _] | _ :: _ :: _ :: _ => rfl

end FlightData

/-! ### Envelopes -/

namespace Envelope

theorem pairAt_eq_ok_iff (location : Location) (v : Json) (pair : Json × Json) :
    pairAt location v = .ok pair ↔ v = .array [pair.1, pair.2] := by
  constructor
  · intro paired
    unfold pairAt at paired
    split at paired <;> cases paired
    rfl
  · rintro rfl
    rfl

/-- A navigation is read as its flight data is, and as the answer to what is asked for. -/
theorem ofJsonWithin_navigation (limits : Limits) (asked context : Context) (buildId : String)
    (data : FlightData) :
    ofJsonWithin limits context (navigation asked buildId data).toJson =
      ((FlightData.ofJsonWithin limits data.toJson).map
        (navigation context buildId)).mapError .route := by
  cases context with
  | navigation =>
    simp only [toJson, ofJsonWithin, pairAt, ok_bind, navigationOf]
    cases FlightData.ofJsonWithin limits data.toJson <;> rfl
  | action =>
    simp only [toJson, ofJsonWithin, pairAt, ok_bind, actionOf, navigationOf,
      FlightData.looksLikeResult_toJson]
    cases FlightData.ofJsonWithin limits data.toJson <;> rfl

/-- The result of an action is read as the flight data with it is. -/
theorem ofJsonWithin_actionResult (limits : Limits) {result : Json}
    (noString : result.kind ≠ .string) (buildId : String) (data : FlightData) :
    ofJsonWithin limits .action (actionResult result buildId (some data)).toJson =
      ((FlightData.ofJsonWithin limits data.toJson).map fun data =>
        actionResult result buildId (some data)).mapError .route := by
  cases result with
  | string s => exact absurd rfl noString
  | _ =>
    cases data with
    | redirect url => rfl
    | paths ds =>
      cases read : FlightData.ofJsonWithin limits (FlightData.paths ds).toJson with
      | error fault =>
        rw [FlightData.toJson] at read
        simp only [toJson, ofJsonWithin, pairAt, ok_bind, actionOf, FlightData.toJson, read]
        rfl
      | ok data =>
        rw [FlightData.toJson] at read
        simp only [toJson, ofJsonWithin, pairAt, ok_bind, actionOf, FlightData.toJson, read]
        rfl

theorem navigationOf_eq_ok_iff (limits : Limits) (asked : Context) (first second : Json)
    (envelope : Envelope) :
    navigationOf limits asked first second = .ok envelope ↔
      ∃ buildId data, first = .string buildId ∧
        FlightData.ofJsonWithin limits second = .ok data ∧
        envelope = navigation asked buildId data := by
  cases first with
  | string buildId =>
    rw [navigationOf, bind_eq_ok_iff]
    constructor
    · rintro ⟨data, read, equal⟩
      cases equal
      exact ⟨buildId, data, rfl, read, rfl⟩
    · rintro ⟨_, data, equal, read, rfl⟩
      cases equal
      exact ⟨data, read, rfl⟩
  | _ => simp [navigationOf]

/-- The response to an action is read as a navigation, or as a result that is no string, with the
build id in front of the pair beside it. -/
theorem actionOf_cases {limits : Limits} {first second : Json} {envelope : Envelope}
    (found : actionOf limits first second = .ok envelope) :
    navigationOf limits .action first second = .ok envelope ∨
      first.kind ≠ .string ∧ ∃ buildId data inner, second = .array [.string buildId, inner] ∧
        envelope = actionResult first buildId data ∧
        ∀ carried, data = some carried → FlightData.ofJsonWithin limits inner = .ok carried := by
  unfold actionOf at found
  split at found
  · split at found
    · rename_i navigation
      cases found
      exact .inl navigation
    · split at found <;> cases found
  · rename_i noString
    have kind : first.kind ≠ .string := (Json.kind_ne_string_iff first).2 noString
    obtain ⟨pair, paired, found⟩ := (bind_eq_ok_iff ..).1 found
    have second := (pairAt_eq_ok_iff ..).1 paired
    split at found
    · cases found
      exact .inr ⟨kind, _, none, _, second, rfl, nofun⟩
    · split at found
      · rename_i read
        cases found
        refine .inr ⟨kind, _, some _, _, second, rfl, ?_⟩
        intro carried equal
        cases equal
        exact read
      · cases found
    · cases found

/-- An envelope is read from a pair with the build id in front, or from a pair of an action's
result, which is no string, and such a pair; its flight data is read from what stands behind the
build id. -/
theorem ofJsonWithin_cases {limits : Limits} {context : Context} {raw : Json} {envelope : Envelope}
    (found : ofJsonWithin limits context raw = .ok envelope) :
    (∃ buildId data inner, raw = .array [.string buildId, inner] ∧
        envelope = navigation context buildId data ∧
        FlightData.ofJsonWithin limits inner = .ok data) ∨
      context = .action ∧ ∃ result buildId data inner,
        raw = .array [result, .array [.string buildId, inner]] ∧ result.kind ≠ .string ∧
        envelope = actionResult result buildId data ∧
        ∀ carried, data = some carried → FlightData.ofJsonWithin limits inner = .ok carried := by
  rw [ofJsonWithin, bind_eq_ok_iff] at found
  obtain ⟨⟨first, second⟩, paired, found⟩ := found
  have pair : raw = .array [first, second] := (pairAt_eq_ok_iff ..).1 paired
  have plain (found : navigationOf limits context first second = .ok envelope) :
      ∃ buildId data inner, raw = .array [.string buildId, inner] ∧
        envelope = navigation context buildId data ∧
        FlightData.ofJsonWithin limits inner = .ok data := by
    obtain ⟨buildId, data, rfl, read, equal⟩ := (navigationOf_eq_ok_iff ..).1 found
    exact ⟨buildId, data, second, pair, equal, read⟩
  cases context with
  | navigation => exact .inl (plain ((mapError_eq_ok_iff ..).1 found))
  | action =>
    rcases actionOf_cases found with navigation | ⟨kind, buildId, data, inner, rfl, equal, read⟩
    · exact .inl (plain navigation)
    · exact .inr ⟨rfl, first, buildId, data, inner, pair, kind, equal, read⟩

/-- What has been read answers what was asked for. -/
theorem asked_of_ofJsonWithin {limits : Limits} {context : Context} {raw : Json}
    {envelope : Envelope} (found : ofJsonWithin limits context raw = .ok envelope) :
    envelope.asked = context := by
  rcases ofJsonWithin_cases found with ⟨_, _, _, -, rfl, -⟩ | ⟨rfl, _, _, _, _, -, -, rfl, -⟩
  · rfl
  · rfl

/-- Where the build id of a response stands: in front of it, or, where the result of an action stands
there, in front of the pair beside the result. -/
def Stamped (buildId : String) (raw : Json) : Prop :=
  (∃ data, raw = .array [.string buildId, data]) ∨
    ∃ result data, raw = .array [result, .array [.string buildId, data]] ∧ result.kind ≠ .string

/-- No response bears two build ids. -/
theorem Stamped.unique {buildId other : String} {raw : Json} (one : Stamped buildId raw)
    (two : Stamped other raw) : buildId = other := by
  rcases one with ⟨_, rfl⟩ | ⟨_, _, rfl, noString⟩ <;>
    rcases two with ⟨_, equal⟩ | ⟨_, _, equal, noString'⟩ <;> cases equal
  · rfl
  · exact absurd rfl noString'
  · exact absurd rfl noString
  · rfl

/-- The build of an envelope that is read is the one whose id its value bears. -/
theorem stamped_iff_of_ofJsonWithin {limits : Limits} {context : Context} {raw : Json}
    {envelope : Envelope} (found : ofJsonWithin limits context raw = .ok envelope)
    (buildId : String) : Stamped buildId raw ↔ buildId = envelope.buildId := by
  have own : Stamped envelope.buildId raw := by
    rcases ofJsonWithin_cases found with
      ⟨_, _, inner, pair, rfl, -⟩ | ⟨-, result, _, _, inner, pair, noString, rfl, -⟩
    · exact .inl ⟨inner, pair⟩
    · exact .inr ⟨result, inner, pair, noString⟩
  constructor
  · intro stamped
    exact stamped.unique own
  · rintro rfl
    exact own

/-- The data paths of an envelope. -/
def dataPaths (envelope : Envelope) : List DataPath :=
  envelope.data?.elim [] FlightData.dataPaths

/-- The data paths of an envelope that is read are canonical, and their trees keep within the
limits. -/
theorem sound_of_ofJsonWithin {limits : Limits} {context : Context} {raw : Json}
    {envelope : Envelope} (found : ofJsonWithin limits context raw = .ok envelope) :
    ∀ d ∈ envelope.dataPaths, d.Canonical ∧ d.patch.tree.checkWithin limits = .ok () := by
  rcases ofJsonWithin_cases found with
    ⟨_, _, _, -, rfl, read⟩ | ⟨-, _, _, data, _, -, -, rfl, read⟩
  · exact FlightData.sound_of_ofJsonWithin read
  · cases data with
    | none => simp [dataPaths, data?]
    | some data => exact FlightData.sound_of_ofJsonWithin (read data rfl)

end Envelope

/-! ### Clients -/

namespace Client

/-- A client reads the envelopes of its own build. -/
theorem read_eq_ok_iff (client : Client) (context : Context) (raw : Json) (envelope : Envelope) :
    client.read context raw = .ok envelope ↔
      Envelope.ofJsonWithin client.limits context raw = .ok envelope ∧
        envelope.buildId = client.buildId := by
  rw [read, bind_eq_ok_iff]
  constructor
  · intro holds
    rcases holds with ⟨_, decoded, own⟩
    split at own
    · cases own
      exact ⟨decoded, ‹_›⟩
    · cases own
  · intro holds
    rcases holds with ⟨decoded, own⟩
    exact ⟨envelope, decoded, if_pos own⟩

/-- A client applies the data paths that it has read. -/
theorem navigate_of_applyAll {client : Client} {context : Context} {raw : Json}
    {envelope : Envelope} {ds : List DataPath} {base tree : RouteTree}
    (read : client.read context raw = .ok envelope) (carries : envelope.data? = some (.paths ds))
    (applied : DataPath.applyAll ds base = .ok tree) :
    client.navigate base context raw =
      .ok (some (.patched tree (ds.map DataPath.placedContent))) := by
  rw [navigate, read, ok_bind, carries]
  simp only [FlightData.applyTo, applied]
  rfl

end Client

end RouteSync
