import BrokerWire.Proofs.Wire.Framing
import BrokerWire.Session.Client

namespace BrokerWire

namespace Need

theorem mem_when {condition : Bool} {since : ServerVersion} {feature : String} {need : Need} :
    need ∈ Need.when condition since feature ↔ condition = true ∧ need = ⟨since, feature⟩ := by
  unfold Need.when
  cases condition <;> simp

/-- A need under a condition is met if the version is reached or the condition fails. -/
theorem isMet_when {condition : Bool} {since sv : ServerVersion} {feature : String} :
    (∀ need ∈ Need.when condition since feature, need.isMet sv = true) ↔
      (sv < since → condition = false) := by
  constructor
  · intro h hlt
    cases hc : condition with
    | false => rfl
    | true =>
      have hmet := h ⟨since, feature⟩ (mem_when.mpr ⟨hc, rfl⟩)
      simp only [isMet, decide_eq_true_eq] at hmet
      exact absurd hlt (Int.not_lt.mpr hmet)
  · intro h need hm
    obtain ⟨hc, rfl⟩ := mem_when.mp hm
    simp only [isMet, decide_eq_true_eq]
    by_contra hlt
    rw [h (Int.not_le.mp hlt)] at hc
    cases hc

end Need

theorem Request.unmet?_eq_none_iff (r : Request) (sv : ServerVersion) :
    r.unmet? sv = none ↔ ∀ need ∈ r.needs, need.isMet sv = true := by
  rw [unmet?, List.find?_eq_none]
  simp

namespace Client

theorem request_eq_ok_iff {c : Client} {queueOpen : Bool} {r : Request} {frame : Bytes} :
    c.request queueOpen r = .ok frame ↔
      queueOpen = true ∧ ∃ s, c.live? = some s ∧
        (∀ need ∈ r.needs, need.isMet s.serverVersion = true) ∧
        (r.message s.serverVersion).payload.length ≤ maxPayload ∧
        frame = Frame.octets (r.message s.serverVersion).payload := by
  unfold request
  cases hlive : c.live? with
  | none => simp
  | some s =>
    simp only [Option.some.injEq, exists_eq_left', ← Request.unmet?_eq_none_iff,
      ← Frame.encode_eq_ok_iff, ← Message.encode_eq]
    cases r.unmet? s.serverVersion with
    | some need => simp
    | none =>
      cases (r.message s.serverVersion).encode with
      | error fault => simp
      | ok octets => cases queueOpen <;> simp

end Client

end BrokerWire
