import BrokerWire.Proofs.Wire.Answers
import BrokerWire.Proofs.Wire.Begins
import BrokerWire.Proofs.Wire.Countless
import BrokerWire.Proofs.Wire.Value

namespace BrokerWire

namespace FieldReader

variable {α β : Type}

/-- Whether the work of a reader on a payload comes to a point where a reader is left to be done on
the rest. -/
inductive Reaches : FieldReader α → Bytes → FieldReader α → Bytes → Prop
  | here (r : FieldReader α) (payload : Bytes) : Reaches r payload r payload
  | field {next : String → FieldReader α} {left : FieldReader α} {payload behind rest : Bytes}
    {text : String} (hfield : nextField payload = .ok (text, behind))
    (h : Reaches (next text) behind left rest) : Reaches (.field next) payload left rest

/-- How many fields a reader takes of a payload. -/
def reads : FieldReader α → Bytes → Nat
  | .done _, _ => 0
  | .fail _, _ => 0
  | .field next, payload =>
    match nextField payload with
    | .ok (text, rest) => (next text).reads rest + 1
    | .error _ => 0

/-- How many of the items of a list are begun on a payload, the last one perhaps in vain. -/
def begun (item : FieldReader α) : (count : Nat) → Bytes → Nat
  | 0, _ => 0
  | count + 1, payload =>
    match item.run payload with
    | (.ok _, rest) => begun item count rest + 1
    | (.error _, _) => 1

/-- Whether a reader begins with a field. -/
def TakesField (r : FieldReader α) : Prop :=
  ∃ next, r = .field next

/-- Whether the answers of a reader are paid with fields, a number of which were taken before: the
size of an answer is at most the number of all fields taken for it, and a number of items is asked
for only in front of a list whose items take a field each. Only such a number is refused for being
negative, which tells it from other integers. -/
inductive Pays (size : α → Nat) : Nat → FieldReader α → Prop
  | done {taken : Nat} {value : α} (h : size value ≤ taken) : Pays size taken (.done value)
  | fail {taken : Nat} {fault : FieldFault} (h : ∀ n, fault ≠ .negativeCount n) :
    Pays size taken (.fail fault)
  | field {taken : Nat} {next : String → FieldReader α}
    (h : ∀ text, Pays size (taken + 1) (next text)) : Pays size taken (.field next)
  | counted {taken : Nat} {β : Type} {item : FieldReader β} {next : List β → FieldReader α}
    (hitem : item.TakesField) (h : ∀ n, Pays size (taken + 1) ((list n item).bind next)) :
    Pays size taken ((counted item).bind next)

theorem Reaches.run_eq {r left : FieldReader α} {payload rest : Bytes}
    (h : Reaches r payload left rest) : r.run payload = left.run rest := by
  induction h with
  | here => rfl
  | field hfield _ ih =>
    rw [run, hfield]
    exact ih

/-- Behind a reader that has answered comes what its answer leads to. -/
theorem Reaches.behind {r : FieldReader α} {next : α → FieldReader β} {left : FieldReader β}
    {payload middle rest : Bytes} {value : α} (hrun : r.run payload = (.ok value, middle))
    (h : Reaches (next value) middle left rest) : Reaches (r.bind next) payload left rest := by
  induction r generalizing payload with
  | done other =>
    cases hrun
    exact h
  | fail fault => cases hrun
  | field first ih =>
    rw [run] at hrun
    cases hfield : nextField payload with
    | error fault =>
      rw [hfield] at hrun
      cases hrun
    | ok step =>
      obtain ⟨text, middle⟩ := step
      rw [hfield] at hrun
      exact .field hfield (ih text hrun)

theorem count_zero_of_nextField {payload rest : Bytes} {text : String}
    (h : nextField payload = .ok (text, rest)) : payload.count 0 = rest.count 0 + 1 := by
  obtain ⟨piece, rfl, hzero, -⟩ := nextField_eq_ok h
  rw [List.count_append, List.count_eq_zero.mpr hzero, List.count_cons_self, Nat.zero_add]

theorem reads_add_count (r : FieldReader α) (payload : Bytes) :
    r.reads payload + (r.run payload).2.count 0 = payload.count 0 := by
  induction r generalizing payload with
  | done value => exact Nat.zero_add _
  | fail fault => exact Nat.zero_add _
  | field next ih =>
    rw [reads, run]
    cases hfield : nextField payload with
    | error fault => exact Nat.zero_add _
    | ok step =>
      obtain ⟨text, rest⟩ := step
      have hrest := ih text rest
      have hone := count_zero_of_nextField hfield
      dsimp only
      omega

theorem TakesField.count_lt {r : FieldReader α} (h : r.TakesField) {payload rest : Bytes}
    {value : α} (hrun : r.run payload = (.ok value, rest)) :
    rest.count 0 < payload.count 0 := by
  obtain ⟨next, rfl⟩ := h
  rw [run] at hrun
  cases hfield : nextField payload with
  | error fault =>
    rw [hfield] at hrun
    cases hrun
  | ok step =>
    obtain ⟨text, behind⟩ := step
    rw [hfield] at hrun
    have hbehind := reads_add_count (next text) behind
    have hone := count_zero_of_nextField hfield
    change (next text).run behind = _ at hrun
    rw [hrun] at hbehind
    dsimp only at hbehind
    omega

/-- Each row takes a field at least. -/
theorem Rows.length_le {item : FieldReader α} (hitem : item.TakesField) {values : List α}
    {payload unread : Bytes} (h : Rows item payload values unread) :
    values.length + unread.count 0 ≤ payload.count 0 := by
  induction h with
  | nil => exact Nat.le_of_eq (Nat.zero_add _)
  | cons hrow _ ih =>
    have hlt := hitem.count_lt hrow
    rw [List.length_cons]
    omega

/-- A list is not begun more often than there are fields, and once in vain. -/
theorem begun_le {item : FieldReader α} (hitem : item.TakesField) (n : Nat) (payload : Bytes) :
    begun item n payload ≤ payload.count 0 + 1 := by
  induction n generalizing payload with
  | zero => exact Nat.zero_le _
  | succ n ih =>
    rw [begun]
    split
    · next value rest hrow =>
      have hlt := hitem.count_lt hrow
      have hrest := ih rest
      omega
    · exact Nat.le_add_left 1 _

theorem list_fails {item : FieldReader α} (hitem : item.TakesField) {n : Nat} {payload : Bytes}
    (hshort : payload.count 0 < n) :
    ∃ fault, ((list n item).run payload).1 = .error fault := by
  cases hrun : (list n item).run payload with
  | mk outcome unread =>
    cases outcome with
    | error fault => exact ⟨fault, rfl⟩
    | ok values =>
      obtain ⟨hlength, hrows⟩ := rows_of_list hrun
      have hpaid := hrows.length_le hitem
      omega

namespace Pays

variable {size : α → Nat} {size' : β → Nat} {taken : Nat} {r : FieldReader α}
  {next : α → FieldReader β}

theorem weaken (h : Pays size taken r) {other : α → Nat} {more : Nat}
    (hother : ∀ value k, size value ≤ taken + k → other value ≤ more + k) : Pays other more r := by
  have hstep {taken more : Nat}
      (hother : ∀ value k, size value ≤ taken + k → other value ≤ more + k) (value : α) (k : Nat)
      (hsize : size value ≤ taken + 1 + k) : other value ≤ more + 1 + k := by
    have hlater := hother value (1 + k) (by omega)
    omega
  induction h generalizing more with
  | done h => exact .done (hother _ 0 h)
  | fail h => exact .fail h
  | field _ ih => exact .field fun text => ih text (hstep hother)
  | counted hitem _ ih => exact .counted hitem fun n => ih n (hstep hother)

theorem mono (h : Pays size taken r) {more : Nat} (hmore : taken ≤ more) : Pays size more r :=
  h.weaken fun _ _ hsize => by omega

theorem bind (h : Pays size taken r)
    (hnext : ∀ value more, size value ≤ more → Pays size' more (next value)) :
    Pays size' taken (r.bind next) := by
  induction h with
  | done h => exact hnext _ _ h
  | fail h => exact .fail h
  | field _ ih => exact .field ih
  | counted hitem _ ih =>
    rw [bind_bind]
    refine .counted hitem fun n => ?_
    rw [← bind_bind]
    exact ih n

/-- A reader pays for its answer itself, so that what was taken before is left for the rest. -/
theorem after (h : Pays size 0 r) (hnext : ∀ value, Pays size' (taken + size value) (next value)) :
    Pays size' taken (r.bind next) := by
  have hshifted : Pays (fun value => taken + size value) taken r :=
    h.weaken fun value k hsize => by omega
  exact hshifted.bind fun value _ hmore => (hnext value).mono hmore

/-- A reader of single values has nothing to pay for. -/
theorem behind [h : Countless r] (hnext : ∀ value, Pays size' taken (next value)) :
    Pays size' taken (r.bind next) := by
  induction h with
  | done value => exact hnext value
  | fail h => exact .fail h
  | field _ ih => exact .field fun text => (ih text).mono (Nat.le_succ taken)

theorem of_countless (h : Countless r) (hsize : ∀ value, size value ≤ taken) :
    Pays size taken r := by
  rw [← bind_done r]
  exact behind fun value => .done (hsize value)

theorem whenever {condition : Bool} {other : α} (h : Pays size taken r)
    (hother : size other ≤ taken) : Pays size taken (whenever condition r other) := by
  cases condition with
  | true => exact h
  | false => exact .done hother

section Lists

variable {item : FieldReader α} {weight : α → Nat}

/-- Each item pays for its weight. -/
theorem listFrom (h : Pays weight 0 item) (before : List α) (n : Nat) :
    Pays (fun values => (values.map weight).sum) (before.map weight).sum
      (listFrom item before n) := by
  induction n generalizing before with
  | zero =>
    refine .done (Nat.le_of_eq ?_)
    rw [List.map_reverse, List.sum_reverse]
  | succ n ih =>
    refine h.after fun value => ?_
    have hmore := ih (value :: before)
    rwa [List.map_cons, List.sum_cons, Nat.add_comm] at hmore

theorem weighed (hitem : item.TakesField) (h : Pays weight 0 item) :
    Pays (fun values => (values.map weight).sum) 0 (FieldReader.counted item) := by
  rw [← bind_done (FieldReader.counted item)]
  refine .counted hitem fun n => ?_
  rw [bind_done]
  exact (listFrom h [] n).mono (Nat.zero_le 1)

/-- A field is paid for each answer. -/
theorem one (item : FieldReader α) [hcountless : Countless item] (hitem : item.TakesField) :
    Pays (fun _ => 1) 0 item := by
  obtain ⟨next, rfl⟩ := hitem
  cases hcountless with
  | field h => exact .field fun text => of_countless (h text) fun _ => Nat.le_refl 1

/-- Items without lists of their own pay for one each. -/
theorem items (item : FieldReader α) [Countless item] (hitem : item.TakesField) :
    Pays List.length 0 (FieldReader.counted item) := by
  refine (weighed hitem (one item hitem)).weaken fun values k hsize => ?_
  simpa using hsize

end Lists

/-- The size of an answer is paid with the fields that were taken for it. -/
theorem size_le (h : Pays size taken r) {payload rest : Bytes} {value : α}
    (hrun : r.run payload = (.ok value, rest)) :
    size value + rest.count 0 ≤ taken + payload.count 0 := by
  induction h generalizing payload with
  | done h =>
    cases hrun
    exact Nat.add_le_add_right h _
  | fail h => cases hrun
  | @field taken next _ ih =>
    rw [run] at hrun
    cases hfield : nextField payload with
    | error fault =>
      rw [hfield] at hrun
      cases hrun
    | ok step =>
      obtain ⟨text, behind⟩ := step
      rw [hfield] at hrun
      have hrest := ih text hrun
      have hone := count_zero_of_nextField hfield
      omega
  | @counted taken β item next _ _ ih =>
    rw [FieldReader.counted, FieldReader.bind_bind] at hrun
    obtain ⟨n, behind, hcount, hlist⟩ := run_bind_eq_ok.mp hrun
    have hrest := ih n hlist
    have hlt := TakesField.count_lt ⟨_, rfl⟩ hcount
    omega

end Pays

def intText (text : String) : Except FieldFault Int32 :=
  if text = "" then .ok 0 else if text = "None" then .ok unsetInt else intOf text

/-- What is left to be done behind the field of a number of items. -/
def behindCount (next : Nat → FieldReader α) (text : String) : FieldReader α :=
  (ofExcept (intText text)).bind fun n =>
    if n < 0 then .fail (.negativeCount n) else next n.toInt.toNat

theorem count_bind (next : Nat → FieldReader α) : count.bind next = .field (behindCount next) := by
  refine congrArg FieldReader.field (funext fun text => ?_)
  change ((ofExcept (intText text)).bind _).bind next = _
  rw [bind_bind]
  refine congrArg _ (funext fun n => ?_)
  split <;> rfl

theorem counted_bind (item : FieldReader β) (next : List β → FieldReader α) :
    (counted item).bind next = .field (behindCount fun n => (list n item).bind next) := by
  rw [counted, bind_bind, count_bind]

theorem behindCount_int (next : Nat → FieldReader α) {n : Nat} (hn : n < 2 ^ 31) :
    behindCount next (Field.int (Int32.ofNat n)) = next n := by
  have hvalue : (Int32.ofNat n).toInt = n := Int32.toInt_ofNat_of_lt hn
  have hnonneg : ¬ Int32.ofNat n < 0 := by
    rw [Int32.lt_iff_toInt_lt, hvalue]
    exact Int.not_lt.mpr (Int.natCast_nonneg n)
  have hread : intText (Field.int (Int32.ofNat n)) = .ok (Int32.ofNat n) := by
    rw [intText, if_neg (int_ne_of_intOf (by rintro ⟨⟩)), if_neg (int_ne_of_intOf (by rintro ⟨⟩)),
      intOf_int]
  rw [behindCount, hread, ofExcept, pure_bind_eq, if_neg hnonneg, hvalue, Int.toNat_natCast]

namespace Pays

variable {size : α → Nat} {taken : Nat}

theorem not_negativeCount (n : Int32) : ¬ Pays size taken (.fail (.negativeCount n)) := by
  intro h
  generalize hr : FieldReader.fail (.negativeCount n) = r at h
  cases h with
  | done => cases hr
  | fail h =>
    cases hr
    exact h n rfl
  | field => cases hr
  | counted =>
    rw [counted_bind] at hr
    cases hr

/-- Behind each field is a reader that pays, or a negative number was refused. -/
theorem step {next : String → FieldReader α} (h : Pays size taken (.field next)) (text : String) :
    (∃ more, Pays size more (next text)) ∨ ∃ n, next text = .fail (.negativeCount n) := by
  generalize hr : FieldReader.field next = r at h
  cases h with
  | done => cases hr
  | fail => cases hr
  | field h =>
    cases hr
    exact .inl ⟨_, h text⟩
  | counted hitem h =>
    rw [counted_bind] at hr
    cases hr
    unfold behindCount
    have hvalue : IsValue (intText text) := by
      unfold intText
      infer_instance
    cases hread : intText text with
    | error fault =>
      refine .inl ⟨taken, .fail fun n he => hvalue.ne_negativeCount n ?_⟩
      rw [hread, he]
    | ok n =>
      rw [ofExcept, pure_bind_eq]
      split
      · exact .inr ⟨n, rfl⟩
      · exact .inl ⟨_, h _⟩

/-- What is left to be done pays as well, by induction over the fields that were taken. -/
theorem of_reaches {r left : FieldReader α} {payload rest : Bytes} (h : Pays size taken r)
    (hreach : Reaches r payload left rest) :
    (∃ more, Pays size more left) ∨ ∃ n, left = .fail (.negativeCount n) := by
  induction hreach generalizing taken with
  | here => exact .inl ⟨taken, h⟩
  | field _ hrest ih =>
    obtain ⟨more, hmore⟩ | ⟨n, hn⟩ := h.step _
    · exact ih hmore
    · rw [hn] at hrest
      cases hrest
      exact .inr ⟨n, rfl⟩

/-- A number of items is asked for in front of a list of that length. -/
theorem list_behind_count {next : Nat → FieldReader α} (h : Pays size taken (count.bind next)) :
    ∃ (β : Type) (item : FieldReader β) (behind : List β → FieldReader α), item.TakesField ∧
      ∀ n < 2 ^ 31, next n = (list n item).bind behind := by
  rw [count_bind] at h
  generalize hr : FieldReader.field (behindCount next) = r at h
  cases h with
  | done => cases hr
  | fail => cases hr
  | field h =>
    cases hr
    exact absurd (h "-1") (not_negativeCount (-1))
  | @counted _ β item behind hitem _ =>
    rw [counted_bind] at hr
    have hnext := FieldReader.field.inj hr
    refine ⟨β, item, behind, hitem, fun n hn => ?_⟩
    rw [← behindCount_int next hn, hnext, behindCount_int _ hn]

/-- Behind a number of items stands a list of that length. It is begun at most once more than there
are fields left, and if there are fewer fields than items, the reading ends there with a fault. -/
theorem list_bounded {r : FieldReader α} (h : Pays size taken r) {payload here rest : Bytes}
    {next : Nat → FieldReader α} {n : Nat} (hreach : Reaches r payload (count.bind next) here)
    (hcount : count.run here = (.ok n, rest)) :
    ∃ (β : Type) (item : FieldReader β) (behind : List β → FieldReader α),
      next n = (list n item).bind behind ∧ begun item n rest ≤ rest.count 0 + 1 ∧
        (next n).reads rest ≤ rest.count 0 ∧
        (rest.count 0 < n →
          ∃ fault, ((list n item).run rest).1 = .error fault ∧
            (r.run payload).1 = .error fault) := by
  obtain ⟨more, hpays⟩ | ⟨m, hfail⟩ := h.of_reaches hreach
  · obtain ⟨β, item, behind, hitem, hnext⟩ := hpays.list_behind_count
    have hlist := hnext n (Ensures.count here n rest hcount)
    have hreads := reads_add_count (next n) rest
    refine ⟨β, item, behind, hlist, begun_le hitem n rest, by omega, fun hshort => ?_⟩
    obtain ⟨fault, hfault⟩ := list_fails hitem hshort
    refine ⟨fault, hfault, ?_⟩
    rw [hreach.run_eq, run_bind, hcount]
    dsimp only
    rw [hlist, run_bind]
    cases hrun : (list n item).run rest with
    | mk outcome unread =>
      rw [hrun] at hfault
      cases hfault
      rfl
  · rw [count_bind] at hfail
    cases hfail

end Pays

end FieldReader

end BrokerWire
