import RouteSync.Proofs.Transport

/-!
# Trees as text

A tree by itself is read back from its text, in the order of its slots, exactly if it is at most 62
deep: each node on the way down opens an array and an object, and the deepest node opens both too,
so that a tree of depth 62 is nested 126 deep and the next one 128, where the reader takes 127. This
is one step more than a response can carry, which has three arrays around its trees. As with
responses, it holds for every printer and reader of which the one takes back what the other makes.
-/

namespace RouteSync.RouteTree

section AnyText

variable {print : Json → String} {read? : String → Option Json}

/-- Reading the text of a tree is reading its wire form, and beyond a depth of 62 there is no JSON
to read. -/
theorem ofTextBy_toJson_print (roundTrips : Json.RoundTrips print read?) {ε α : Type}
    (read : Json → Except ε α) (t : RouteTree) :
    Json.ofTextBy read read? (print t.toJson) =
      if t.depth ≤ 62 then (read t.toJson).mapError .refused else .error .notJson := by
  have fits : t.toJson.nesting ≤ Json.Document.maxNesting ↔ t.depth ≤ 62 := by
    rw [nesting_toJson, Json.Document.maxNesting]
    omega
  rw [roundTrips.ofTextBy_print read t.exact_toJson]
  simp only [fits]

/-- A tree whose numbers of slots and lengths of segments words can count is what is read from its
text, slots in order, exactly if it is at most 62 deep; the text of a deeper one is no JSON for the
reader. -/
theorem ofTextBy_eq_ok_iff (roundTrips : Json.RoundTrips print read?) (t : RouteTree)
    (slots : ∀ keys node, t.place? keys = some node → node.slots.size < UInt64.size)
    (segments : ∀ keys node, t.place? keys = some node →
      node.segment.byteLength < UInt64.size) :
    (Json.ofTextBy ofJson read? (print t.toJson) = .ok t ↔ t.depth ≤ 62) ∧
      (62 < t.depth → Json.ofTextBy ofJson read? (print t.toJson) = .error .notJson) := by
  rw [ofTextBy_toJson_print roundTrips]
  by_cases shallow : t.depth ≤ 62
  · have depth : t.depth < UInt64.size := Nat.lt_of_le_of_lt shallow (by decide)
    have read : ofJson t.toJson = .ok t := by
      rw [ofJson, ofJsonWithin_toJson, (countable_iff_checkWithin t).1 ⟨depth, slots, segments⟩]
      rfl
    rw [if_pos shallow, read]
    exact ⟨iff_of_true rfl shallow, fun deep => absurd shallow (Nat.not_le.2 deep)⟩
  · rw [if_neg shallow]
    exact ⟨iff_of_false nofun shallow, fun _ => rfl⟩

end AnyText

/-- A tree is what is read from the text that this library makes of it, slots in order, exactly if
it is at most 62 deep; the text of a deeper one is no JSON for the reader. -/
theorem ofText_toJson_text (t : RouteTree)
    (slots : ∀ keys node, t.place? keys = some node → node.slots.size < UInt64.size)
    (segments : ∀ keys node, t.place? keys = some node →
      node.segment.byteLength < UInt64.size) :
    (Json.ofTextWith ofJson t.toJson.text = .ok t ↔ t.depth ≤ 62) ∧
      (62 < t.depth → Json.ofTextWith ofJson t.toJson.text = .error .notJson) := by
  rw [Json.ofTextWith_text ofJson t.exact_toJson]
  exact t.ofTextBy_eq_ok_iff Json.roundTrips_text slots segments

/-- Slots that are not in alphabetical order come back in their own order, and so does a chain of
depth 62; a chain of depth 63 does not come back. -/
theorem ofText_toJson_text_chain :
    let t := ((leaf (.fixed "a")).withSlot "zeta" (leaf (.param "id" "42" .rest))).withSlot "alpha"
      (leaf .page)
    t.slots.keys = ["zeta", "alpha"] ∧ Json.ofTextWith ofJson t.toJson.text = .ok t ∧
      Json.ofTextWith ofJson (Server.chain 62).toJson.text = .ok (Server.chain 62) ∧
      Json.ofTextWith ofJson (Server.chain 63).toJson.text = .error .notJson := by
  intro t
  have countable : t.Countable := (countable_iff_checkWithin t).2 rfl
  have allows (n : Nat) (short : n ≤ 64) (keys : List String) (node : RouteTree)
      (found : (Server.chain n).place? keys = some node) : Limits.standard.Allows node := by
    have passes : (Server.chain n).checkWithin .standard = .ok () :=
      Server.checkFrom_chain (by omega)
    exact ((checkWithin_eq_ok_iff ..).1 passes).2 keys node found
  have chain (n : Nat) (short : n ≤ 64) := ofText_toJson_text (Server.chain n)
    (fun keys node found => Nat.lt_of_le_of_lt (allows n short keys node found).slots (by decide))
    (fun keys node found =>
      Nat.lt_of_le_of_lt (allows n short keys node found).byteLength_le (by decide))
  have depth : (Server.chain 62).depth = 62 ∧ (Server.chain 63).depth = 63 := by decide +kernel
  refine ⟨by decide, ?_, (chain 62 (by decide)).1.2 ?_, (chain 63 (by decide)).2 ?_⟩
  · exact (ofText_toJson_text t countable.slots countable.segments).1.2 (by decide)
  · exact Nat.le_of_eq depth.1
  · rw [depth.2]
    decide

end RouteSync.RouteTree
