import BrokerWire.Proofs.Session.Acknowledgement
import BrokerWire.Proofs.Session.Awaiting

namespace BrokerWire

/-- What is told in a deed, and by whom. -/
def Deed.tells (deed : Deed) (line : Line) (c : Counters) : List (Teller × Notice) :=
  match deed with
  | .pay => line.due.toList.map fun notice => (.opener, notice)
  | .refuse notice => [(.caller, notice)]
  | .finish write =>
    (Outbox.step { queue := line.writing.toList, counters := c } write).notices.map fun notice =>
      (.writer, notice)
  | .say => line.saying.head?.toList.map fun notice => (.reader, notice)
  | _ => []

namespace Line

theorem told_enqueue (line : Line) (frame : Bytes) : (line.enqueue frame).told = line.told := by
  unfold enqueue
  split <;> rfl

/-- What a deed tells is told behind what was told before. -/
theorem told_after (line : Line) (number : Nat) (c : Counters) (deed : Deed) :
    (line.after number c deed).line.told = line.told ++ deed.tells line c := by
  have hnothing : line.told = line.told ++ [] := (List.append_nil _).symm
  cases deed with
  | pay | refuse _ | finish _ | say => rfl
  | greet options =>
    simp only [after]
    split <;> exact hnothing
  | hearAnswer chunks =>
    simp only [after]
    split <;> exact hnothing
  | queueStart agreed clientId capabilities =>
    simp only [after]
    split
    · exact hnothing
    · exact (line.told_enqueue _).trans hnothing
  | enqueue frame => exact (line.told_enqueue frame).trans hnothing
  | receive =>
    simp only [after]
    split <;> exact hnothing
  | lose reason =>
    simp only [after]
    split <;> exact hnothing
  | _ => exact hnothing

end Line

/-- The call that connects tells nothing but what it owes, and that in a deed of its own. -/
theorem ConnectCall.tells_deed? {call : ConnectCall} {next : Stage} {lives : Bool}
    {met : Encounter} {deed : Deed} (h : call.deed? next lives met = some deed) (line : Line)
    (c : Counters) : deed.tells line c = [] := by
  unfold deed? at h
  split at h
  · cases h
    rfl
  · cases h
    rfl
  · split at h <;> cases h <;> rfl
  · cases h

namespace Traffic

theorem told_isPrefix_act {t t' : Traffic} {number : Nat} {deed : Deed}
    (h : t.act number deed = some t') (n : Nat) : (t.lines n).told <+: (t'.lines n).told := by
  obtain ⟨-, rfl⟩ := act_eq_some h
  dsimp only
  rw [Function.update_apply]
  split
  · next hn =>
    subst hn
    rw [Line.told_after]
    exact List.prefix_append _ _
  · exact List.prefix_rfl

theorem outside_act {t t' : Traffic} {number : Nat} {deed : Deed}
    (h : t.act number deed = some t') : t'.outside = t.outside := by
  obtain ⟨-, rfl⟩ := act_eq_some h
  rfl

/-- What is told is told behind what was told before, in a session and outside of all of them; and
what is told outside is that a request was refused. -/
theorem told_step {t t' : Traffic} {move : Move} (hs : t.step move = some t') (n : Nat) :
    (t.lines n).told <+: (t'.lines n).told ∧
      (t'.outside = t.outside ∨
        ∃ notice, IsRefusal notice ∧ t'.outside = t.outside ++ [notice]) := by
  have hact {v : Traffic} {number : Nat} {deed : Deed} (h : v.act number deed = some t')
      (hlines : v.lines = t.lines) (houtside : v.outside = t.outside) :
      (t.lines n).told <+: (t'.lines n).told ∧
        (t'.outside = t.outside ∨
          ∃ notice, IsRefusal notice ∧ t'.outside = t.outside ++ [notice]) := by
    refine ⟨?_, .inl ((outside_act h).trans houtside)⟩
    rw [← hlines]
    exact told_isPrefix_act h n
  cases move with
  | call action =>
    obtain ⟨world, -, hdeed⟩ := Option.bind_eq_some_iff.mp hs
    split at hdeed
    · cases hdeed
      exact ⟨List.prefix_rfl, .inl rfl⟩
    · exact hact hdeed rfl rfl
  | issue r =>
    cases hs
    exact ⟨List.prefix_rfl, .inl rfl⟩
  | submit index =>
    simp only [step] at hs
    split at hs
    · cases hs
    next asking _ =>
    split at hs
    · split at hs
      · next notice hrequest =>
        cases hs
        refine ⟨List.prefix_rfl, .inr ⟨notice, ?_, rfl⟩⟩
        obtain ⟨payload, hok, -⟩ | ⟨code, text, herror, hrefuses⟩ :=
          asking.seen.request_cases true asking.request
        · rw [hok] at hrequest
          cases hrequest
        · rw [herror] at hrequest
          cases hrequest
          exact ⟨_, _, _, _, _, hrefuses, rfl⟩
      · cases hs
    · split at hs <;> exact hact hs rfl rfl
  | task number deed =>
    simp only [step] at hs
    split at hs
    · exact hact hs rfl rfl
    · cases hs
  | reset =>
    cases hs
    exact ⟨List.prefix_rfl, .inl rfl⟩

end Traffic

end BrokerWire
