import BrokerWire.Proofs.Wire.Typed

namespace BrokerWire

namespace Kind

/-- Whether a value is none of those that mark another one as unset. -/
def IsPlain : (kind : Kind) → kind.Value → Prop
  | decimal, d => d.normalize ∉ unsetDecimals
  | optionalInt, n => n ≠ some unsetInt
  | optionalLong, n => n ≠ some unsetLong
  | optionalDouble, x => x ≠ some unsetDouble
  | optionalDecimal, d => ∀ e ∈ d, e.normalize ∉ unsetDecimals
  | quantity, d => ∀ e ∈ d, e ∉ unsetDecimals
  | _, _ => True

instance (kind : Kind) (value : kind.Value) : Decidable (kind.IsPlain value) :=
  match kind, value with
  | decimal, d => inferInstanceAs (Decidable (d.normalize ∉ unsetDecimals))
  | optionalInt, n => inferInstanceAs (Decidable (n ≠ some unsetInt))
  | optionalLong, n => inferInstanceAs (Decidable (n ≠ some unsetLong))
  | optionalDouble, x => inferInstanceAs (Decidable (x ≠ some unsetDouble))
  | optionalDecimal, d => inferInstanceAs (Decidable (∀ e ∈ d, e.normalize ∉ unsetDecimals))
  | quantity, d => inferInstanceAs (Decidable (∀ e ∈ d, e ∉ unsetDecimals))
  | int, _ | long, _ | bool, _ | text, _ | double, _ | code _, _ | number _ _, _
  | optionalCode _, _ | count, _ | pairs, _ => .isTrue trivial

end Kind

/-- Whether an item can be a field of a message and is read as it is. -/
def Item.IsPlain (item : Item) : Prop :=
  item.Admits ∧ item.kind.IsPlain item.value

instance : DecidablePred Item.IsPlain := fun item =>
  inferInstanceAs (Decidable (item.kind.Admits item.value ∧ item.kind.IsPlain item.value))

/-- Whether a reader takes exactly the items of a layout and answers a value, if the items are
plain. -/
def Tells {α : Type} (layout : List Item) (reader : FieldReader α) (value : α) : Prop :=
  (∀ item ∈ layout, item.IsPlain) → ∀ rest,
    reader.run (layout.flatMap Item.octets ++ rest) = (.ok value, rest)

/-- A layout of many records behind their number. -/
def Item.counted {α : Type} (items : α → List Item) (values : List α) : List Item :=
  ⟨.count, values.length⟩ :: values.flatMap items

/-- The part of a layout that servers have from a version on. -/
def Item.since (first sv : ServerVersion) (items : List Item) : List Item :=
  if first ≤ sv then items else []

namespace Tells

open FieldReader

variable {α β : Type} {layout behind : List Item} {reader : FieldReader α} {value : α}
  {next : α → FieldReader β} {answer : β}

theorem pure (value : α) : Tells [] (Pure.pure value : FieldReader α) value := by
  intro _ rest
  rfl

theorem bind (h : Tells layout reader value) (hnext : Tells behind (next value) answer) :
    Tells (layout ++ behind) (reader >>= next) answer := by
  intro hplain rest
  have hlayout := h (fun item hm => hplain item (List.mem_append_left behind hm))
    (behind.flatMap Item.octets ++ rest)
  have hbehind := hnext (fun item hm => hplain item (List.mem_append_right layout hm)) rest
  rw [List.flatMap_append, List.append_assoc]
  change (reader.bind next).run _ = _
  rw [run_bind, hlayout]
  exact hbehind

/-- The last part of a layout has nothing behind it. -/
theorem final (h : Tells layout reader value) (hnext : Tells [] (next value) answer) :
    Tells layout (reader >>= next) answer := by
  rw [← List.append_nil layout]
  exact h.bind hnext

theorem map (h : Tells layout reader value) (f : α → β) : Tells layout (f <$> reader) (f value) := by
  have hmap : f <$> reader = reader >>= fun value => Pure.pure (f value) :=
    (bind_pure_comp f reader).symm
  rw [hmap]
  exact h.final (pure (f value))

/-- The answer of the last reader is the answer. -/
theorem last (h : Tells layout (reader >>= Pure.pure) value) : Tells layout reader value := by
  rwa [bind_pure] at h

/-- An item of one field is told to the reader of its kind. -/
theorem alone (kind : Kind) (hkind : kind ≠ .pairs) {value : kind.Value} {read : kind.Answer}
    (hread : kind.IsPlain value → kind.readBack value = read) :
    Tells [⟨kind, value⟩] kind.reader read := by
  have hfields : (kind.fields value).length ≤ 2 ^ 31 := by
    cases kind <;> first | exact absurd rfl hkind | exact (by decide : 1 ≤ 2 ^ 31)
  intro hplain rest
  obtain ⟨hadmits, hvalue⟩ := hplain _ List.mem_cons_self
  rw [List.flatMap_singleton, ← hread hvalue]
  exact kind.run_reader hadmits hfields rest

theorem item (kind : Kind) (hkind : kind ≠ .pairs) {value : kind.Value} {read : kind.Answer}
    {next : kind.Answer → FieldReader β} (hread : kind.IsPlain value → kind.readBack value = read)
    (h : Tells behind (next read) answer) :
    Tells (⟨kind, value⟩ :: behind) (kind.reader >>= next) answer :=
  (alone kind hkind hread).bind h

theorem filter_of_forall {γ : Type} {p : γ → Bool} {o : Option γ} (h : ∀ a ∈ o, p a = true) :
    o.filter p = o := by
  cases o with
  | none => rfl
  | some a => exact if_pos (h a rfl)

theorem filter_ne {γ : Type} [DecidableEq γ] {o : Option γ} {mark : γ} (h : o ≠ some mark) :
    o.filter (· ≠ mark) = o := by
  apply filter_of_forall
  intro a ha
  exact decide_eq_true fun he => h (he ▸ ha)

theorem int {n : Int32} {next : Int32 → FieldReader β} (h : Tells behind (next n) answer) :
    Tells (⟨.int, n⟩ :: behind) (FieldReader.int >>= next) answer :=
  item .int nofun (fun _ => rfl) h

theorem long {n : Int64} {next : Int64 → FieldReader β} (h : Tells behind (next n) answer) :
    Tells (⟨.long, n⟩ :: behind) (FieldReader.long >>= next) answer :=
  item .long nofun (fun _ => rfl) h

theorem bool {flag : Bool} {next : Bool → FieldReader β} (h : Tells behind (next flag) answer) :
    Tells (⟨.bool, flag⟩ :: behind) (FieldReader.bool >>= next) answer :=
  item .bool nofun (fun _ => rfl) h

theorem text {t : String} {next : String → FieldReader β} (h : Tells behind (next t) answer) :
    Tells (⟨.text, t⟩ :: behind) (FieldReader.text >>= next) answer :=
  item .text nofun (fun _ => rfl) h

theorem double {x : Double} {next : Double → FieldReader β} (h : Tells behind (next x) answer) :
    Tells (⟨.double, x⟩ :: behind) (FieldReader.double >>= next) answer :=
  item .double nofun (fun _ => rfl) h

theorem number {κ : Type} [Numbered κ] [LawfulNumbered κ] {other member : κ}
    {next : κ → FieldReader β} (h : Tells behind (next member) answer) :
    Tells (⟨.number κ other, member⟩ :: behind) (FieldReader.number other >>= next) answer :=
  item (.number κ other) nofun (fun _ => rfl) h

theorem optionalInt {n : Option Int32} {next : Option Int32 → FieldReader β}
    (h : Tells behind (next n) answer) :
    Tells (⟨.optionalInt, n⟩ :: behind) (FieldReader.optionalInt >>= next) answer :=
  item .optionalInt nofun filter_ne h

theorem optionalLong {n : Option Int64} {next : Option Int64 → FieldReader β}
    (h : Tells behind (next n) answer) :
    Tells (⟨.optionalLong, n⟩ :: behind) (FieldReader.optionalLong >>= next) answer :=
  item .optionalLong nofun filter_ne h

theorem optionalDouble {x : Option Double} {next : Option Double → FieldReader β}
    (h : Tells behind (next x) answer) :
    Tells (⟨.optionalDouble, x⟩ :: behind) (FieldReader.optionalDouble >>= next) answer :=
  item .optionalDouble nofun filter_ne h

theorem quantity {d : Option Decimal} {next : Option Decimal → FieldReader β}
    (h : Tells behind (next d) answer) :
    Tells (⟨.quantity, d⟩ :: behind) (FieldReader.decimal >>= next) answer :=
  item .quantity nofun (fun hd => filter_of_forall fun e he => decide_eq_true (hd e he)) h

theorem code {κ : Type} [Vocabulary κ] [LawfulVocabulary κ] {c : Option (Code κ)}
    {next : Option (Code κ) → FieldReader β} (h : Tells behind (next c) answer) :
    Tells (⟨.optionalCode κ, c⟩ :: behind) (FieldReader.code >>= next) answer :=
  item (.optionalCode κ) nofun (fun _ => rfl) h

/-- Any text may stand in a field without meaning. -/
theorem skip {t : String} {next : Unit → FieldReader β} (h : Tells behind (next ()) answer) :
    Tells (⟨.text, t⟩ :: behind) (FieldReader.skip >>= next) answer := by
  change Tells _ (FieldReader.text >>= fun _ => next ()) answer
  exact text h

theorem skips_zero {next : Unit → FieldReader β} (h : Tells behind (next ()) answer) :
    Tells behind (FieldReader.skips 0 >>= next) answer :=
  h

theorem skips_succ {n : Nat} {t : String} {next : Unit → FieldReader β}
    (h : Tells behind (FieldReader.skips n >>= next) answer) :
    Tells (⟨.text, t⟩ :: behind) (FieldReader.skips (n + 1) >>= next) answer := by
  change Tells _ (FieldReader.text >>= fun _ => FieldReader.skips n >>= next) answer
  exact text h

section Conditions

variable {other : α}

/-- A part of a layout that is there under a condition is told under that condition. -/
theorem whenever {p : Prop} [Decidable p] (h : p → Tells layout reader value)
    (hnext : Tells behind (next (if p then value else other)) answer) :
    Tells ((if p then layout else []) ++ behind)
      (FieldReader.whenever (decide p) reader other >>= next) answer := by
  by_cases hp : p
  · simp only [hp, if_true] at hnext ⊢
    exact (h hp).bind hnext
  · simp only [hp, if_false] at hnext ⊢
    exact hnext

theorem since {first sv : ServerVersion} (h : first ≤ sv → Tells layout reader value)
    (hnext : Tells behind (next (if first ≤ sv then value else other)) answer) :
    Tells (Item.since first sv layout ++ behind)
      (FieldReader.whenever (decide (first ≤ sv)) reader other >>= next) answer :=
  whenever h hnext

theorem known {condition : Bool} (hknown : condition = true)
    (h : Tells layout (reader >>= next) answer) :
    Tells layout (FieldReader.whenever condition reader other >>= next) answer := by
  rw [hknown]
  exact h

theorem unknown {condition : Bool} (hunknown : condition = false)
    (h : Tells layout (next other) answer) :
    Tells layout (FieldReader.whenever condition reader other >>= next) answer := by
  rw [hunknown]
  exact h

end Conditions

/-- Records are told one by one. -/
theorem list {items : α → List Item} {values : List α}
    (h : ∀ value ∈ values, Tells (items value) reader value) :
    Tells (values.flatMap items) (FieldReader.list values.length reader) values := by
  intro hplain rest
  rw [List.flatMap_assoc]
  refine run_list (fun value hm rest => ?_) rest
  exact h value hm (fun item hi => hplain item (List.mem_flatMap.mpr ⟨value, hm, hi⟩)) rest

/-- Records behind their number are told one by one. -/
theorem counted {items : α → List Item} {values : List α}
    (h : ∀ value ∈ values, Tells (items value) reader value) :
    Tells (Item.counted items values) (FieldReader.counted reader) values := by
  have hcount : Tells [⟨.count, values.length⟩] FieldReader.count values.length :=
    alone .count nofun fun _ => rfl
  exact hcount.bind (list h)

end Tells

end BrokerWire
