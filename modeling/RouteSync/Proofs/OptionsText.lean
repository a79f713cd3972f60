import RouteSync.Proofs.Faithful
import RouteSync.Proofs.Printed
import RouteSync.Proofs.Records
import RouteSync.Render.Options

/-!
# Options as text

Limits and options are records with fields that are always written, fields that are left out where
they have no value, and fields that may be missing when they are read. Whatever is left out is what
a missing field is read as, so limits come back from their text as they were, and so do options, but
for a manifest that is null: it stands in the text and is read as none. The manifests stand one
level inside the options and may be nested up to 126 deep. This is so for every printer whose texts
are read as documents of what was printed.
-/

namespace RouteSync

open Json (ReadsBack)

/-! ### Limits -/

namespace Limits

theorem proper_fields : Json.Record.Proper fields := ⟨by decide, by decide⟩

theorem exact_toJson (limits : Limits) : limits.toJson.Exact := by
  apply Json.Record.exact_present proper_fields rfl
  simp only [members, List.forall_mem_cons, Option.mem_some_iff, forall_eq', List.not_mem_nil,
    false_implies, implies_true, and_true]
  have word (n : UInt64) := Json.readsBack_word.exact n
  exact ⟨word _, word _, word _,
    Json.exact_of_mem_map (fun keys : SortedSet => Json.readsBack_strings.exact keys.keys) _⟩

/-- Limits are read back as they were, with the same vocabulary or none. -/
theorem readsBack : ReadsBack toJson ofDocument? where
  exact := exact_toJson
  reads := by
    intro limits document written
    obtain ⟨record, found, holds⟩ := Json.Record.exists_record proper_fields rfl written
    have word (n : UInt64) := Json.readsBack_word.reads n
    have slots : record.field? "allowedSlots" (Json.Document.nullable? Json.Document.strings?)
        (some none) = some (limits.allowedSlots.map SortedMap.keys) := by
      apply holds.optional "allowedSlots" Json.readsBack_strings (fun _ => nofun)
      rw [Option.map_map]
      rfl
    have vocabulary : (limits.allowedSlots.map SortedMap.keys).map SortedSet.ofList =
        limits.allowedSlots := by
      cases limits.allowedSlots with
      | none => rfl
      | some keys => exact congrArg some (SortedSet.ofList_keys keys)
    rw [ofDocument?, found, Option.bind_some, ofRecord?]
    simp only [holds.always "maxDepth" (word limits.maxDepth) rfl,
      holds.always "maxParallelRoutes" (word limits.maxSlots) rfl,
      holds.always "maxSegmentLen" (word limits.maxSegmentBytes) rfl, slots]
    exact congrArg (fun slots => some { limits with allowedSlots := slots }) vocabulary

end Limits

/-! ### Fields of options -/

theorem Runtime.ofWord?_word (runtime : Runtime) : ofWord? runtime.word = some runtime := by
  cases runtime <;> rfl

theorem OutputMode.ofWord?_word (mode : OutputMode) : ofWord? mode.word = some mode := by
  cases mode <;> rfl

theorem BodySizeLimit.readsBack : ReadsBack toJson ofDocument? where
  exact := by
    intro limit
    cases limit with
    | bytes count => exact Json.readsBack_word.exact count
    | size text => exact .string text
  reads := by
    intro limit document written
    have shallow : limit.toJson.nesting ≤ Json.Document.maxNesting - 1 := by
      cases limit <;> exact Nat.zero_le _
    rw [ofDocument?, written.value?_eq shallow]
    cases limit with
    | bytes count => exact congrArg (fun n => some (bytes n)) UInt64.ofNat_toNat
    | size text => rfl

namespace RenderOptions

open DataPath (content?)

theorem content?_of_ne_null {v : Json} (present : v ≠ .null) : content? v = some v := by
  cases v with
  | null => exact absurd rfl present
  | _ => rfl

/-- A manifest is read back if it is nested at most 126 deep, and null as no manifest. -/
theorem field?_manifest {record : Json.Record} {members : List (String × Option Json)}
    (holds : record.Holds members) (name : String) {manifest : Option Json}
    (found : members.lookup name = some manifest) :
    record.field? name (Json.Document.nullable? manifest?) (some none) =
      if ∀ v ∈ manifest, v.nesting ≤ 126 then some (manifest.bind content?) else none := by
  cases manifest with
  | none =>
    rw [holds.missing name found, if_pos nofun]
    rfl
  | some v =>
    simp only [Option.bind_some, Option.mem_some_iff, forall_eq']
    refine holds.always name (fun document written => ?_) found
    -- A null never reaches the reader of manifests.
    by_cases null : v = .null
    · subst null
      cases written
      exact (if_pos (Nat.zero_le _)).symm
    · rw [written.nullable?_eq null, manifest?, written.hasValue, content?_of_ne_null null]
      exact apply_ite (Option.map some) ..

theorem proper_fields : Json.Record.Proper fields := ⟨by decide, by decide⟩

/-- The manifests of the options. -/
def manifests (o : RenderOptions) : List Json :=
  o.clientReferenceManifest.toList ++ o.fontManifest.toList

theorem forall_mem_manifests_iff (o : RenderOptions) (P : Json → Prop) :
    (∀ manifest ∈ o.manifests, P manifest) ↔
      (∀ v ∈ o.clientReferenceManifest, P v) ∧ ∀ v ∈ o.fontManifest, P v := by
  simp only [manifests, List.forall_mem_append, Option.mem_toList, Option.mem_def]

theorem distinct_params (o : RenderOptions) : (o.params.entries.map Prod.fst).Nodup :=
  o.params.sorted.imp fun below => String.ne_of_lt below

/-- Options are without doubles if their manifests are. -/
theorem exact_toJson {o : RenderOptions} (exact : ∀ manifest ∈ o.manifests, manifest.Exact) :
    o.toJson.Exact := by
  obtain ⟨clientReference, font⟩ := (o.forall_mem_manifests_iff Json.Exact).1 exact
  apply Json.Record.exact_present proper_fields rfl
  simp only [members, List.forall_mem_cons, Option.mem_some_iff, forall_eq', List.not_mem_nil,
    false_implies, implies_true, and_true, true_and, Json.Exact.string, Json.Exact.bool,
    Json.exact_stringMembers o.distinct_params, o.limits.exact_toJson]
  exact ⟨Json.exact_of_mem_map .string _, Json.exact_of_mem_map .string _,
    Json.exact_of_mem_map (fun _ => .string _) _,
    Json.exact_of_mem_map BodySizeLimit.readsBack.exact _, clientReference, font⟩

/-- The options without the manifests that are null. -/
def withoutNulls (o : RenderOptions) : RenderOptions :=
  { o with
    clientReferenceManifest := o.clientReferenceManifest.bind content?
    fontManifest := o.fontManifest.bind content? }

/-- However they are written, options are read back without the manifests that are null, unless a
manifest is nested deeper than the 126 arrays and objects that may be open inside the options. -/
theorem ofDocument?_of_written (o : RenderOptions) {document : Json.Document}
    (written : Json.WrittenAs o.toJson document) :
    ofDocument? document =
      if ∀ manifest ∈ o.manifests, manifest.nesting ≤ 126 then some o.withoutNulls else none := by
  obtain ⟨record, found, holds⟩ := Json.Record.exists_record proper_fields rfl written
  have text (s : String) := Json.readsBack_string.reads s
  have flag (b : Bool) := Json.readsBack_bool.reads b
  rw [ofDocument?, found, Option.bind_some, ofRecord?]
  simp only [holds.always "buildId" (text o.buildId) rfl,
    holds.always "basePath" (text o.basePath) rfl,
    holds.always "assetPrefix" (text o.assetPrefix) rfl, holds.always "dev" (flag o.dev) rfl,
    holds.always "supportsDynamicHtml" (flag o.supportsDynamicHtml) rfl,
    holds.always "isBot" (flag o.isBot) rfl, holds.always "isRevalidate" (flag o.revalidates) rfl,
    holds.always "isDraftMode" (flag o.draftMode) rfl,
    holds.always "nextExport" (flag o.staticExport) rfl,
    holds.optional "deploymentId" Json.readsBack_string (fun _ => nofun) rfl,
    holds.optional "originalPathname" Json.readsBack_string (fun _ => nofun) rfl,
    holds.always "runtime" ((Json.readsBack_choice Runtime.ofWord?_word).reads o.runtime) rfl,
    holds.optional "output" (Json.readsBack_choice OutputMode.ofWord?_word) (fun _ => nofun) rfl,
    holds.optional "serverActionsBodySizeLimit" BodySizeLimit.readsBack
      (fun limit => by cases limit <;> nofun) rfl,
    holds.always "params" (fun _ => Json.stringMembers?_of_written o.distinct_params) rfl,
    field?_manifest holds "clientReferenceManifest" rfl, field?_manifest holds "fontManifest" rfl,
    holds.always "limits" (Limits.readsBack.reads o.limits) rfl]
  -- Only the manifests can be refused.
  simp only [o.forall_mem_manifests_iff, ite_and]
  by_cases clientReferenceFits : ∀ v ∈ o.clientReferenceManifest, v.nesting ≤ 126
  · by_cases fontFits : ∀ v ∈ o.fontManifest, v.nesting ≤ 126
    · simp only [if_pos clientReferenceFits, if_pos fontFits, Option.bind_eq_bind, Option.bind_some,
        SortedMap.ofList_entries]
      rfl
    · rw [if_pos clientReferenceFits, if_pos clientReferenceFits, if_neg fontFits, if_neg fontFits]
      rfl
  · rw [if_neg clientReferenceFits, if_neg clientReferenceFits]
    rfl

/-- What is found in the text of options is read back without the manifests that are null, unless
one of the others is nested too deep. -/
theorem ofDocument?_print {print : Json → String} {document? : String → Option Json.Document}
    (legible : Json.Legible print document?) (o : RenderOptions)
    (exact : ∀ manifest ∈ o.manifests, manifest.Exact) :
    (document? (print o.toJson)).bind ofDocument? =
      if ∀ manifest ∈ o.manifests, manifest.nesting ≤ 126 then some o.withoutNulls else none := by
  obtain ⟨document, found, written⟩ := legible o.toJson (exact_toJson exact)
  rw [found, Option.bind_some, o.ofDocument?_of_written written]

/-! ### Null manifests -/

theorem bind_content?_eq_iff (manifest : Option Json) :
    manifest.bind content? = manifest ↔ manifest ≠ some .null := by
  cases manifest with
  | none => exact iff_of_true rfl nofun
  | some v =>
    cases v with
    | null => exact iff_of_false nofun fun other => other rfl
    | _ => exact iff_of_true rfl nofun

theorem sameContent_bind_content?_iff (manifest : Option Json) :
    Patch.sameContent (manifest.bind content?) manifest = true ↔
      manifest.bind content? = manifest := by
  cases manifest with
  | none => exact iff_of_true rfl rfl
  | some v =>
    cases v with
    | null => exact iff_of_false nofun nofun
    | _ => exact iff_of_true (Json.same_refl _) rfl

/-- Only a null makes a difference, and it makes one also where order does not matter. -/
theorem same_withoutNulls_iff (o : RenderOptions) :
    o.withoutNulls.same o = true ↔ o.withoutNulls = o := by
  cases o
  simp only [same, withoutNulls, mk.injEq, beq_self_eq_true, Bool.true_and, Bool.and_true,
    Bool.and_eq_true, true_and, and_true, sameContent_bind_content?_iff]

theorem withoutNulls_eq_iff (o : RenderOptions) : o.withoutNulls = o ↔ .null ∉ o.manifests := by
  have absent : .null ∉ o.manifests ↔
      o.clientReferenceManifest ≠ some .null ∧ o.fontManifest ≠ some .null := by
    simp only [manifests, List.mem_append, Option.mem_toList, not_or, ne_eq]
  rw [absent, ← bind_content?_eq_iff, ← bind_content?_eq_iff]
  cases o
  simp only [withoutNulls, mk.injEq, true_and, and_true]

/-- Options whose manifests have only integers in them and are nested at most 126 deep come back
from what is found in their text, but for the manifests that are null, and so as they were just if
none is. -/
theorem print_roundTrip {print : Json → String} {document? : String → Option Json.Document}
    (legible : Json.Legible print document?) (o : RenderOptions)
    (exact : ∀ manifest ∈ o.manifests, manifest.Exact)
    (shallow : ∀ manifest ∈ o.manifests, manifest.nesting ≤ 126) :
    (document? (print o.toJson)).bind ofDocument? = some o.withoutNulls ∧
      (o.withoutNulls.same o = true ↔ .null ∉ o.manifests) ∧
      (o.withoutNulls = o ↔ .null ∉ o.manifests) := by
  have read := ofDocument?_print legible o exact
  rw [if_pos shallow] at read
  exact ⟨read, o.same_withoutNulls_iff.trans o.withoutNulls_eq_iff, o.withoutNulls_eq_iff⟩

/-- Options come back from the text that this library makes of them, but for the manifests that are
null, and so as they were just if none is. -/
theorem text_roundTrip (o : RenderOptions) (exact : ∀ manifest ∈ o.manifests, manifest.Exact)
    (shallow : ∀ manifest ∈ o.manifests, manifest.nesting ≤ 126) :
    ofText? o.toJson.text = some o.withoutNulls ∧
      (o.withoutNulls.same o = true ↔ .null ∉ o.manifests) ∧
      (o.withoutNulls = o ↔ .null ∉ o.manifests) :=
  print_roundTrip Json.legible_text o exact shallow

/-- Options with the widest limits, a vocabulary and a nested manifest come back with their second
manifest missing where it was null, and as they were where it was missing. -/
theorem text_roundTrip_null :
    let manifest := Json.ofMembers [("fonts", .array [.word 0xFFFFFFFFFFFFFFFF, .null])]
    let o : RenderOptions := { ofBuildId "b1" with
      deploymentId := some "d1"
      output := some .exported
      bodySizeLimit := some (.bytes 0xFFFFFFFFFFFFFFFF)
      params := SortedMap.ofList [("lang", "en"), ("id", "7")]
      clientReferenceManifest := some manifest
      limits := Limits.permissive.withAllowedSlots ["modal"] }
    let written : RenderOptions := { o with fontManifest := some .null }
    ofText? o.toJson.text = some o ∧ ofText? written.toJson.text = some o ∧
      o.same written = false := by
  intro manifest o written
  have exact : manifest.Exact := by
    refine Json.exact_ofMembers (by decide) (List.forall_mem_singleton.2 (.array ?_))
    exact List.forall_mem_cons.2 ⟨.integer _ _, List.forall_mem_singleton.2 .null⟩
  have shallow : manifest.nesting ≤ 126 := by decide
  have one := text_roundTrip o (List.forall_mem_singleton.2 exact)
    (List.forall_mem_singleton.2 shallow)
  have two := text_roundTrip written
    (List.forall_mem_cons.2 ⟨exact, List.forall_mem_singleton.2 .null⟩)
    (List.forall_mem_cons.2 ⟨shallow, List.forall_mem_singleton.2 (Nat.zero_le _)⟩)
  refine ⟨one.1, two.1, ?_⟩
  have differs := mt two.2.1.1 (not_not_intro (List.mem_cons_of_mem _ List.mem_cons_self))
  exact Bool.eq_false_of_not_eq_true differs

end RenderOptions

end RouteSync
