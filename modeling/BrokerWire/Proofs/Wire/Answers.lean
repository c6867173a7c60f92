import BrokerWire.Proofs.Wire.Cursor
import BrokerWire.Wire.Value
import Mathlib.Algebra.Group.Nat.Defs

namespace BrokerWire.FieldReader

variable {α β : Type}

/-- Whether each answer that a reader gives has a property. -/
def Ensures (r : FieldReader α) (P : α → Prop) : Prop :=
  ∀ payload value unread, r.run payload = (.ok value, unread) → P value

namespace Ensures

variable {P Q : α → Prop} {R : β → Prop} {r : FieldReader α}

theorem done {value : α} (h : P value) : Ensures (.done value) P := by
  intro payload other unread hr
  cases hr
  exact h

theorem fail (fault : FieldFault) : Ensures (.fail fault) P := by
  intro payload value unread hr
  cases hr

/-- Nothing is asked of the answer. -/
theorem any (r : FieldReader α) : r.Ensures fun _ => True :=
  fun _ _ _ _ => trivial

theorem mono (h : r.Ensures P) (hPQ : ∀ value, P value → Q value) : r.Ensures Q := by
  intro payload value unread hr
  exact hPQ value (h payload value unread hr)

theorem bind {next : α → FieldReader β} (h : r.Ensures P)
    (hnext : ∀ value, P value → (next value).Ensures R) : (r >>= next).Ensures R := by
  intro payload answer unread hr
  change (r.bind next).run payload = _ at hr
  rw [run_bind] at hr
  cases hfirst : r.run payload with
  | mk outcome rest =>
    rw [hfirst] at hr
    cases outcome with
    | error fault => cases hr
    | ok value => exact hnext value (h payload value rest hfirst) rest answer unread hr

theorem whenever {condition : Bool} {other : α} (h : condition = true → r.Ensures P)
    (hother : condition = false → P other) :
    (FieldReader.whenever condition r other).Ensures P := by
  cases condition with
  | true => exact h rfl
  | false => exact done (hother rfl)

/-- Fields end at zero octets, so no text that was read has a zero character. -/
theorem text : FieldReader.text.Ensures Utf8.IsTerminable := by
  intro payload value unread hr
  rw [FieldReader.text, run] at hr
  cases hfield : nextField payload with
  | error fault =>
    rw [hfield] at hr
    cases hr
  | ok step =>
    obtain ⟨read, rest⟩ := step
    rw [hfield] at hr
    cases hr
    obtain ⟨piece, -, hzero, hdecode⟩ := nextField_eq_ok hfield
    have hread := Utf8.isTerminable_of_decode hdecode hzero
    rwa [String.ofList_toList] at hread

theorem count : FieldReader.count.Ensures (· < 2 ^ 31) := by
  refine (any FieldReader.int).bind fun n _ => ?_
  by_cases hnegative : n < 0
  · rw [if_pos hnegative]
    exact fail _
  · rw [if_neg hnegative]
    apply done
    have hbound := n.toInt_lt
    omega

theorem listFrom (h : r.Ensures P) (before : List α) (hbefore : ∀ value ∈ before, P value)
    (n : Nat) :
    (FieldReader.listFrom r before n).Ensures fun values =>
      values.length = before.length + n ∧ ∀ value ∈ values, P value := by
  induction n generalizing before with
  | zero =>
    apply done
    exact ⟨List.length_reverse, fun value hm => hbefore value (List.mem_reverse.mp hm)⟩
  | succ n ih =>
    refine h.bind fun value hvalue => ?_
    have hmore := ih (value :: before) (List.forall_mem_cons.mpr ⟨hvalue, hbefore⟩)
    refine hmore.mono fun values hvalues => ⟨?_, hvalues.2⟩
    have hlength := hvalues.1
    rw [List.length_cons] at hlength
    omega

theorem list (h : r.Ensures P) (n : Nat) :
    (FieldReader.list n r).Ensures fun values =>
      values.length = n ∧ ∀ value ∈ values, P value := by
  refine (listFrom h [] nofun n).mono fun values hvalues => ⟨?_, hvalues.2⟩
  rw [hvalues.1, List.length_nil, Nat.zero_add]

/-- The number of items in front of a list is an integer. -/
theorem counted (h : r.Ensures P) :
    (FieldReader.counted r).Ensures fun values =>
      values.length < 2 ^ 31 ∧ ∀ value ∈ values, P value := by
  refine count.bind fun n hn => ?_
  refine (list h n).mono fun values hvalues => ⟨?_, hvalues.2⟩
  rw [hvalues.1]
  exact hn

end Ensures

end BrokerWire.FieldReader
