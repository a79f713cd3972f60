import RouteSync.Proofs.Messages

/-!
# Envelopes on the wire

Reading the wire form of an envelope is checking the trees in it: the envelope comes back as it was
if they are within the reader's limits, and is refused if not. The result of an action is the one
thing that can stand in the way: a string there is taken for a build id, and the response is then
ambiguous. What has been read from any value is such an envelope, so that it is read back from its
own wire form.
-/

namespace RouteSync.Envelope

/-- The result of the action, if the envelope has one. -/
def result? : Envelope → Option Json
  | navigation .. => none
  | actionResult result .. => some result

variable {limits : Limits} {context : Context} {e : Envelope}

/-- Reading an envelope with canonical data paths is checking their trees. -/
theorem ofJsonWithin_toJson (canonical : ∀ d ∈ e.dataPaths, d.Canonical)
    (plain : ∀ text, e.result? ≠ some (.string text)) :
    ofJsonWithin limits e.asked e.toJson =
      ((forM e.dataPaths fun d : DataPath => d.patch.tree.checkWithin limits).map fun _ =>
        e).mapError .route := by
  cases e with
  | navigation context buildId data =>
    rw [asked, ofJsonWithin_navigation, FlightData.ofJsonWithin_toJson_of_canonical limits canonical,
      map_map]
    rfl
  | actionResult result buildId data =>
    have noString : result.kind ≠ .string :=
      (Json.kind_ne_string_iff result).2 fun text equal => plain text (by rw [result?, equal])
    cases data with
    | none =>
      cases result with
      | string text => exact absurd rfl noString
      | _ => rfl
    | some data =>
      rw [asked, ofJsonWithin_actionResult limits noString,
        FlightData.ofJsonWithin_toJson_of_canonical limits canonical, map_map]
      rfl

/-- Where the result of an action is a string, the array beside it would have to be data paths, the
first of which is the build id. -/
theorem ofJsonWithin_stringResult (limits : Limits) (text buildId : String)
    (data : Option FlightData) :
    ofJsonWithin limits .action (actionResult (.string text) buildId data).toJson =
      .error (.ambiguous (.stringResult (.misshapen [] .dataPathExpected))) := rfl

/-- No result that has been read is a string. -/
theorem result?_of_ofJsonWithin {raw : Json} (found : ofJsonWithin limits context raw = .ok e)
    (text : String) : e.result? ≠ some (.string text) := by
  rcases ofJsonWithin_cases found with
    ⟨_, _, _, -, rfl, -⟩ | ⟨-, _, _, _, _, -, noString, rfl, -⟩
  · exact nofun
  · intro equal
    cases equal
    exact noString rfl

/-- In answer to the same request, an envelope whose data paths are canonical is read back from its
wire form exactly if all its trees are within the limits; but one that brings a string as the result
of an action is never told from a navigation, and refused as ambiguous. What is read from any value
is read back, and is the same. -/
theorem roundTrip (limits : Limits) (context : Context) :
    (∀ e : Envelope, e.asked = context → (∀ d ∈ e.dataPaths, d.Canonical) →
      (∀ text, e.result? ≠ some (.string text)) →
        ((∀ d ∈ e.dataPaths, d.patch.tree.checkWithin limits = .ok ()) →
          ofJsonWithin limits context e.toJson = .ok e) ∧
        ((¬∀ d ∈ e.dataPaths, d.patch.tree.checkWithin limits = .ok ()) →
          ∃ fault, ofJsonWithin limits context e.toJson = .error (.route fault))) ∧
      (∀ text buildId data, ∃ why,
        ofJsonWithin limits .action (actionResult (.string text) buildId data).toJson =
          .error (.ambiguous why)) ∧
      ∀ raw e, ofJsonWithin limits context raw = .ok e →
        ofJsonWithin limits context e.toJson = .ok e := by
  refine ⟨?_, ?_, ?_⟩
  · rintro e rfl canonical plain
    rw [ofJsonWithin_toJson canonical plain, ← forM_eq_ok_iff]
    cases (forM e.dataPaths fun d : DataPath => d.patch.tree.checkWithin limits) with
    | error fault =>
      refine ⟨?_, fun _ => ⟨fault, rfl⟩⟩
      intro passes
      cases passes
    | ok => exact ⟨fun _ => rfl, fun fails => absurd rfl fails⟩
  · intro text buildId data
    exact ⟨_, ofJsonWithin_stringResult limits text buildId data⟩
  · intro raw e found
    have answers : e.asked = context := asked_of_ofJsonWithin found
    have sound := sound_of_ofJsonWithin found
    have passes := (forM_eq_ok_iff (fun d : DataPath => d.patch.tree.checkWithin limits)
      e.dataPaths).2 fun d member => (sound d member).2
    rw [← answers, ofJsonWithin_toJson (fun d member => (sound d member).1)
      (result?_of_ofJsonWithin found), passes]
    rfl

/-- The result of an action with a data path below a slot: a reader with the standard limits reads
it back, and one that allows no slots refuses it. With a string for the result it is ambiguous. A
redirect that answers an action comes back as the answer to one. -/
theorem roundTrip_actionResult :
    let d : DataPath := ⟨[⟨.fixed "", "children"⟩],
      ⟨.fixed "a", (RouteTree.leaf (.fixed "a")).withSlot "modal" (.leaf .page), some (.bool true),
        none⟩⟩
    let e := actionResult (.bool false) "b1" (some (.paths [d]))
    let redirect := navigation .action "b1" (.redirect "/login")
    let narrow : Limits := { Limits.standard with maxSlots := 0 }
    e.asked = .action ∧ (∀ d ∈ e.dataPaths, d.Canonical) ∧
      (∀ text, e.result? ≠ some (.string text)) ∧
      ofJsonWithin .standard .action e.toJson = .ok e ∧
      (∃ fault, ofJsonWithin narrow .action e.toJson = .error (.route fault)) ∧
      (∃ why, ofJsonWithin .standard .action
        (actionResult (.string "b0") "b1" (some (.paths [d]))).toJson =
          .error (.ambiguous why)) ∧
      ofJsonWithin .standard .action redirect.toJson = .ok redirect := by
  intro d e redirect narrow
  have canonical : ∀ d ∈ e.dataPaths, d.Canonical := by
    intro d' member
    have only : d' = d := List.mem_singleton.1 member
    subst only
    exact ⟨rfl, by simp [d], by simp [d]⟩
  have plain : ∀ text, e.result? ≠ some (.string text) := by simp [e, result?]
  have passes : ∀ d ∈ e.dataPaths, d.patch.tree.checkWithin .standard = .ok () := by
    intro d' member
    have only : d' = d := List.mem_singleton.1 member
    subst only
    rfl
  have fails : ¬∀ d ∈ e.dataPaths, d.patch.tree.checkWithin narrow = .ok () := by
    intro passes
    exact nomatch passes d (List.mem_singleton_self d)
  exact ⟨rfl, canonical, plain, ((roundTrip .standard .action).1 e rfl canonical plain).1 passes,
    ((roundTrip narrow .action).1 e rfl canonical plain).2 fails,
    (roundTrip .standard .action).2.1 "b0" "b1" (some (.paths [d])),
    ((roundTrip .standard .action).1 redirect rfl nofun nofun).1 nofun⟩

end RouteSync.Envelope
