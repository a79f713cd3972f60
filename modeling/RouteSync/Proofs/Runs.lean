import RouteSync.Exchange.Session
import RouteSync.Proofs.Messages

/-!
# Runs of responses

A client receives one response after another, from a server or from anyone else. Each either leaves
the client's tree alone, or has its data paths, read within the client's limits, applied to it. What
is to hold of the tree after every run has only to survive a single replacement.
-/

namespace RouteSync

namespace Session

/-! ### One response -/

/-- The data paths of a response that the client reads and applies in full. -/
def applied (s : Session) (context : Context) (raw : Json) : List DataPath :=
  match s.client.read context raw with
  | .ok envelope =>
    match envelope.data? with
    | some (.paths ds) =>
      match DataPath.applyAll ds s.tree with
      | .ok _ => ds
      | .error _ => []
    | _ => []
  | .error _ => []

/-- A response leaves the client's tree alone, or its data paths, read within the client's limits,
are applied to it. -/
theorem receive_cases (s : Session) (context : Context) (raw : Json) :
    ((s.receive context raw).2 = s ∧ s.applied context raw = []) ∨
      ∃ tree, DataPath.applyAll (s.applied context raw) s.tree = .ok tree ∧
        (s.receive context raw).2 = { s with tree := tree } ∧
        ∀ d ∈ s.applied context raw, d.patch.tree.checkWithin s.client.limits = .ok () := by
  rw [receive, applied]
  cases read : s.client.read context raw with
  | error fault =>
    rw [Client.navigate, read]
    exact .inl ⟨rfl, rfl⟩
  | ok envelope =>
    cases carries : envelope.data? with
    | none =>
      rw [Client.navigate, read, ok_bind, carries]
      simp only [carries]
      exact .inl ⟨rfl, trivial⟩
    | some data =>
      cases data with
      | redirect url =>
        rw [Client.navigate, read, ok_bind, carries]
        simp only [carries]
        exact .inl ⟨rfl, trivial⟩
      | paths ds =>
        cases outcome : DataPath.applyAll ds s.tree with
        | error fault =>
          rw [Client.navigate, read, ok_bind, carries]
          simp only [carries, FlightData.applyTo, outcome]
          exact .inl ⟨rfl, trivial⟩
        | ok tree =>
          rw [Client.navigate_of_applyAll read carries outcome]
          simp only [carries, outcome]
          refine .inr ⟨tree, rfl, rfl, ?_⟩
          have decoded := ((Client.read_eq_ok_iff ..).1 read).1
          have sound := Envelope.sound_of_ofJsonWithin decoded
          rw [Envelope.dataPaths, carries] at sound
          exact fun d member => (sound d member).2

/-! ### A run of responses -/

/-- The session after responses, each received in the context of its request. -/
def receiveAll (s : Session) : List (Context × Json) → Session
  | [] => s
  | (context, raw) :: rest => (s.receive context raw).2.receiveAll rest

/-- The data paths that the client applies in a run of responses. -/
def appliedAll (s : Session) : List (Context × Json) → List DataPath
  | [] => []
  | (context, raw) :: rest => s.applied context raw ++ (s.receive context raw).2.appliedAll rest

@[simp] theorem client_receive (s : Session) (context : Context) (raw : Json) :
    (s.receive context raw).2.client = s.client := by
  rcases s.receive_cases context raw with ⟨same, -⟩ | ⟨tree, -, patched, -⟩
  · rw [same]
  · rw [patched]

/-- The trees that a client applies keep within its limits. -/
theorem checkWithin_of_mem_appliedAll {s : Session} {messages : List (Context × Json)} :
    ∀ d ∈ s.appliedAll messages, d.patch.tree.checkWithin s.client.limits = .ok () := by
  induction messages generalizing s with
  | nil => simp [appliedAll]
  | cons message rest ih =>
    obtain ⟨context, raw⟩ := message
    intro d member
    rcases List.mem_append.1 member with first | later
    · rcases s.receive_cases context raw with ⟨-, none⟩ | ⟨tree, -, -, pass⟩
      · rw [none] at first
        cases first
      · exact pass d first
    · rw [← s.client_receive context raw]
      exact ih d later

/-- What holds of the client's tree, and survives the replacement by each data path of a run where
its steps can be taken, holds after the run. -/
theorem receiveAll_induction {P : RouteTree → Prop} {s : Session}
    {messages : List (Context × Json)} (start : P s.tree)
    (step : ∀ base, ∀ d ∈ s.appliedAll messages, P base → base.Follows d.steps →
      P (base.put d.place d.patch.tree)) :
    P (s.receiveAll messages).tree := by
  induction messages generalizing s with
  | nil => exact start
  | cons message rest ih =>
    obtain ⟨context, raw⟩ := message
    have first : P (s.receive context raw).2.tree := by
      rcases s.receive_cases context raw with ⟨same, -⟩ | ⟨tree, outcome, patched, -⟩
      · rwa [same]
      · rw [patched]
        apply DataPath.applyAll_induction outcome start
        intro base d member
        exact step base d (List.mem_append_left _ member)
    apply ih first
    intro base d member
    exact step base d (List.mem_append_right _ member)

end Session

end RouteSync
