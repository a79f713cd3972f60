import RouteSync.Fault

/-!
# Sequences of computations that may fail

What a sequence comes to in terms of its parts: when it succeeds, and how results are mapped and
faults are placed along it.
-/

namespace RouteSync

section Sequence

variable {ε α β γ : Type}

/-- A sequence of two computations succeeds when both do. -/
theorem bind_eq_ok_iff (first : Except ε α) (second : α → Except ε β) (b : β) :
    (first >>= second) = .ok b ↔ ∃ a, first = .ok a ∧ second a = .ok b := by
  cases first with
  | error fault =>
    constructor
    · intro equal
      cases equal
    · intro holds
      rcases holds with ⟨a, equal, -⟩
      cases equal
  | ok a =>
    constructor
    · intro equal
      exact ⟨a, rfl, equal⟩
    · intro holds
      rcases holds with ⟨_, equal, found⟩
      cases equal
      exact found

theorem check_bind_eq_ok_iff (check : Except ε Unit) (next : Except ε β) (b : β) :
    (check >>= fun _ => next) = .ok b ↔ check = .ok () ∧ next = .ok b := by
  rw [bind_eq_ok_iff]
  constructor
  · rintro ⟨_, passes, others⟩
    exact ⟨passes, others⟩
  · rintro ⟨passes, others⟩
    exact ⟨(), passes, others⟩

/-- A sequence of two computations fails as the one of them does that fails first. -/
theorem bind_eq_error_iff (first : Except ε α) (second : α → Except ε β) (fault : ε) :
    (first >>= second) = .error fault ↔
      first = .error fault ∨ ∃ a, first = .ok a ∧ second a = .error fault := by
  cases first with
  | error other =>
    constructor
    · intro equal
      cases equal
      exact .inl rfl
    · rintro (equal | ⟨_, equal, -⟩) <;> cases equal
      rfl
  | ok a =>
    constructor
    · intro equal
      exact .inr ⟨a, rfl, equal⟩
    · rintro (equal | ⟨_, equal, fails⟩) <;> cases equal
      exact fails

theorem ok_bind (a : α) (second : α → Except ε β) : (Except.ok a >>= second) = second a := rfl

/-- Mapping the result of a sequence is mapping the result of its end. -/
theorem map_bind (first : Except ε α) (second : α → Except ε β) (f : β → γ) :
    (first >>= second).map f = first >>= fun a => (second a).map f := by
  cases first <;> rfl

theorem bind_of_map (first : Except ε α) (f : α → β) (second : β → Except ε γ) :
    (first.map f >>= second) = first >>= fun a => second (f a) := by
  cases first <;> rfl

theorem map_ok (a : α) (f : α → β) : (Except.ok a : Except ε α).map f = .ok (f a) := rfl

theorem map_map (result : Except ε α) (f : α → β) (g : β → γ) :
    (result.map f).map g = result.map fun a => g (f a) := by
  cases result <;> rfl

/-- The result of a check tells nothing. -/
theorem map_check (check : Except ε Unit) : check.map (fun _ => ()) = check := by
  cases check <;> rfl

theorem map_eq_ok_iff (result : Except ε α) (f : α → β) (b : β) :
    result.map f = .ok b ↔ ∃ a, result = .ok a ∧ f a = b := by
  cases result <;> simp [Except.map]

theorem map_eq_error_iff (result : Except ε α) (f : α → β) (fault : ε) :
    result.map f = .error fault ↔ result = .error fault := by
  cases result <;> simp [Except.map]

theorem mapError_eq_ok_iff {δ : Type} (result : Except ε α) (f : ε → δ) (a : α) :
    result.mapError f = .ok a ↔ result = .ok a := by
  cases result with
  | error fault =>
    constructor
    · intro equal
      cases equal
    · intro equal
      cases equal
  | ok value =>
    constructor
    · intro equal
      cases equal
      rfl
    · intro equal
      cases equal
      rfl

theorem mapError_eq_error_iff {δ : Type} (result : Except ε α) (f : ε → δ) (other : δ) :
    result.mapError f = .error other ↔ ∃ fault, result = .error fault ∧ f fault = other := by
  cases result with
  | error fault =>
    constructor
    · intro equal
      exact ⟨fault, rfl, Except.error.inj equal⟩
    · rintro ⟨_, equal, rfl⟩
      cases equal
      rfl
  | ok a =>
    constructor
    · intro equal
      cases equal
    · rintro ⟨_, equal, -⟩
      cases equal

/-! ### One check after another -/

theorem forM_congr {check other : α → Except ε Unit} {xs : List α}
    (equal : ∀ x ∈ xs, check x = other x) : forM xs check = forM xs other := by
  induction xs with
  | nil => rfl
  | cons x rest ih =>
    obtain ⟨first, others⟩ := List.forall_mem_cons.1 equal
    rw [List.forM_cons, List.forM_cons, first, ih others]

theorem forM_flatMap (check : β → Except ε Unit) (f : α → List β) (xs : List α) :
    forM (xs.flatMap f) check = forM xs fun x => forM (f x) check := by
  induction xs with
  | nil => rfl
  | cons x rest ih => rw [List.flatMap_cons, List.forM_append, ih, List.forM_cons]

/-- Checks in turn succeed when each of them does. -/
theorem forM_eq_ok_iff (check : α → Except ε Unit) (xs : List α) :
    forM xs check = .ok () ↔ ∀ x ∈ xs, check x = .ok () := by
  induction xs with
  | nil => simp [pure, Except.pure]
  | cons x rest ih => rw [List.forM_cons, check_bind_eq_ok_iff, List.forall_mem_cons, ih]

/-- Checks in turn fail as the first one does that fails. -/
theorem forM_eq_error_iff (check : α → Except ε Unit) (xs : List α) (fault : ε) :
    forM xs check = .error fault ↔ ∃ front x back, xs = front ++ x :: back ∧
      (∀ y ∈ front, check y = .ok ()) ∧ check x = .error fault := by
  induction xs with
  | nil => simp [pure, Except.pure]
  | cons first rest ih =>
    rw [List.forM_cons]
    simp only [List.cons_eq_append_iff]
    cases outcome : check first with
    | error found =>
      constructor
      · intro equal
        cases equal
        exact ⟨[], first, rest, .inl ⟨rfl, rfl⟩, by simp, outcome⟩
      · rintro ⟨front, x, back, ⟨rfl, same⟩ | ⟨others, rfl, -⟩, before, fails⟩
        · cases same
          rw [← fails, outcome]
          rfl
        · have passes := before first List.mem_cons_self
          rw [outcome] at passes
          cases passes
    | ok =>
      rw [ok_bind, ih]
      constructor
      · rintro ⟨front, x, back, rfl, before, fails⟩
        exact ⟨first :: front, x, back, .inr ⟨front, rfl, rfl⟩,
          List.forall_mem_cons.2 ⟨outcome, before⟩, fails⟩
      · rintro ⟨front, x, back, ⟨rfl, same⟩ | ⟨others, rfl, same⟩, before, fails⟩
        · cases same
          rw [outcome] at fails
          cases fails
        · exact ⟨others, x, back, same, (List.forall_mem_cons.1 before).2, fails⟩

/-! ### What a computation can fail with -/

/-- If the computation fails, it does so with a fault of the kind. -/
def FailsWith (kind : ε → Prop) (result : Except ε α) : Prop :=
  ∀ fault, result = .error fault → kind fault

variable {kind : ε → Prop}

@[simp] theorem failsWith_ok (a : α) : FailsWith kind (.ok a) := nofun

@[simp] theorem failsWith_error_iff (fault : ε) :
    FailsWith kind (.error fault : Except ε α) ↔ kind fault := by
  constructor
  · intro fails
    exact fails fault rfl
  · intro holds _ equal
    cases equal
    exact holds

theorem FailsWith.bind {first : Except ε α} {second : α → Except ε β}
    (fails : FailsWith kind first) (others : ∀ a, FailsWith kind (second a)) :
    FailsWith kind (first >>= second) := by
  cases first with
  | error fault => exact (failsWith_error_iff fault).2 (fails fault rfl)
  | ok a => exact others a

theorem FailsWith.traverse {keys : List String} {f : (key : String) → key ∈ keys → Except ε α}
    (each : ∀ key member, FailsWith kind (f key member)) :
    FailsWith kind (Dict.traverse keys f) := by
  induction keys with
  | nil => exact failsWith_ok _
  | cons first rest ih =>
    rw [Dict.traverse]
    refine (each first List.mem_cons_self).bind fun _ => .bind (ih ?_) fun _ => failsWith_ok _
    exact fun key member => each key (List.mem_cons_of_mem first member)

end Sequence

namespace Fault

variable {α β : Type}

@[simp] theorem locate_ok (location : Location) (a : α) : locate location (.ok a) = .ok a := rfl

theorem locate_eq_ok_iff (location : Location) (result : Except Fault α) (a : α) :
    locate location result = .ok a ↔ result = .ok a :=
  mapError_eq_ok_iff result _ a

theorem locate_map (location : Location) (result : Except Fault α) (f : α → β) :
    locate location (result.map f) = (locate location result).map f := by
  cases result <;> rfl

theorem locate_error (location : Location) (fault : Fault) :
    locate location (.error fault : Except Fault α) = .error (fault.within location) := rfl

/-- A fault of the whole is where it is. -/
theorem locate_nil (result : Except Fault α) : locate [] result = result := by
  cases result with
  | ok => rfl
  | error fault =>
    cases fault with
    | overLimit excess => cases excess <;> rfl
    | _ => rfl

/-- A place in a part, and the part in the whole. -/
theorem within_within (outer inner : Location) (fault : Fault) :
    (fault.within inner).within outer = fault.within (outer ++ inner) := by
  cases fault with
  | overLimit excess => cases excess <;> simp [within, Excess.within]
  | _ => simp [within]

theorem locate_locate (outer inner : Location) (result : Except Fault α) :
    locate outer (locate inner result) = locate (outer ++ inner) result := by
  cases result with
  | ok => rfl
  | error fault => rw [locate_error, locate_error, locate_error, within_within]

theorem locate_bind (location : Location) (first : Except Fault α) (second : α → Except Fault β) :
    locate location (first >>= second) =
      locate location first >>= fun a => locate location (second a) := by
  cases first <;> rfl

theorem locate_forM (location : Location) (xs : List α) (check : α → Except Fault Unit) :
    locate location (forM xs check) = forM xs fun x => locate location (check x) := by
  induction xs with
  | nil => rfl
  | cons x rest ih => simp only [List.forM_cons, locate_bind, ih]

end Fault

end RouteSync
