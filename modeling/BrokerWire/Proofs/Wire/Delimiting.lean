import BrokerWire.Proofs.Wire.Separation
import BrokerWire.Request.OrderFields

/-!
Lists of fields that say where they end. The fields of a message carry no tags: what a field means,
and whether it is there at all, depends on the fields before it. Two lists of fields delimit
themselves if nothing behind them can be taken for a part of them (`Delimits`); this is kept when
parts are put together, also when a part is there under a condition that the parts before it settle,
and for many records behind their number (`Delimits.counted`).
-/

namespace BrokerWire

open Message (fieldOctets)

/-- A text that is read back stands for one value only. -/
theorem FieldReader.inj_of_run {α : Type} {reader : FieldReader α} {text : α → String} {a b : α}
    (ha : reader.run (fieldOctets (text a) ++ []) = (.ok a, []))
    (hb : reader.run (fieldOctets (text b) ++ []) = (.ok b, [])) : text a = text b ↔ a = b := by
  constructor
  · intro h
    rw [h, hb] at ha
    cases ha
    rfl
  · exact congrArg text

namespace Message

open Utf8 (IsTerminable)

/-- Without zero characters, the frames of two messages of one kind are the same exactly if their
fields are. -/
theorem octets_ofKind_eq_iff {kind : Outbound} {fields fields' : List String}
    (hlength : (ofKind kind fields).payload.length ≤ maxPayload)
    (hlength' : (ofKind kind fields').payload.length ≤ maxPayload)
    (h : ∀ t ∈ fields, IsTerminable t) (h' : ∀ t ∈ fields', IsTerminable t) :
    Frame.octets (ofKind kind fields).payload = Frame.octets (ofKind kind fields').payload ↔
      fields = fields' := by
  have hall {fields : List String} (h : ∀ t ∈ fields, IsTerminable t) :
      ∀ t ∈ Field.number kind :: fields, IsTerminable t :=
    List.forall_mem_cons.mpr ⟨FieldReader.isTerminable_int _, h⟩
  constructor
  · intro he
    have happended := congrArg (· ++ []) he
    have hpayload := (Scanner.octets_append_inj hlength hlength' happended).1
    exact (List.cons.inj (payload_inj (hall h) (hall h') hpayload)).2
  · rintro rfl
    rfl

theorem length_fields_le {kind : Outbound} {fields : List String}
    (h : (ofKind kind fields).payload.length ≤ maxPayload) : fields.length ≤ maxPayload := by
  have hoctets := Item.length_le_length_octets (ofKind kind fields).fields
  rw [ofKind, List.length_cons] at hoctets
  change _ ≤ (ofKind kind fields).payload.length at hoctets
  omega

end Message

namespace Field

variable {α κ : Type}

@[simp]
theorem int_inj {n m : Int32} : int n = int m ↔ n = m :=
  FieldReader.inj_of_run (FieldReader.run_int n []) (FieldReader.run_int m [])

@[simp]
theorem double_inj {x y : Double} : double x = double y ↔ x = y :=
  FieldReader.inj_of_run (FieldReader.run_double x []) (FieldReader.run_double y [])

@[simp]
theorem bool_inj {a b : Bool} : bool a = bool b ↔ a = b :=
  FieldReader.inj_of_run (FieldReader.run_bool a []) (FieldReader.run_bool b [])

@[simp]
theorem number_inj [Numbered κ] [LawfulNumbered κ] {a b : κ} : number a = number b ↔ a = b :=
  FieldReader.inj_of_run (FieldReader.run_number a a []) (FieldReader.run_number a b [])

theorem optionalCode_inj [Vocabulary κ] [LawfulVocabulary κ] {a b : Option (Code κ)}
    (ha : ∀ word ∈ a, word.IsCanonical) (hb : ∀ word ∈ b, word.IsCanonical) :
    optional code a = optional code b ↔ a = b :=
  FieldReader.inj_of_run (FieldReader.run_code ha []) (FieldReader.run_code hb [])

theorem optional_eq_iff {text : α → String} (hsome : ∀ a, text a ≠ "") {a b : Option α} :
    optional text a = optional text b ↔ a.map text = b.map text := by
  cases a with
  | none =>
    cases b with
    | none => simp
    | some b => simpa [optional] using (hsome b).symm
  | some a =>
    cases b with
    | none => simpa [optional] using hsome a
    | some b => simp [optional]

theorem optional_inj {text : α → String} (hsome : ∀ a, text a ≠ "")
    (hinj : ∀ a b, text a = text b ↔ a = b) {a b : Option α} :
    optional text a = optional text b ↔ a = b := by
  have hmap : Function.Injective (Option.map text) :=
    Option.map_injective fun a b h => (hinj a b).mp h
  rw [optional_eq_iff hsome, hmap.eq_iff]

theorem int_ne_empty (n : Int32) : int n ≠ "" :=
  FieldReader.int_ne_of_intOf (by rintro ⟨⟩)

theorem double_ne_empty (x : Double) : double x ≠ "" := by
  unfold double
  split
  · decide
  · exact FieldReader.text_ne_of_doubleOf (by rintro ⟨⟩)

@[simp]
theorem optionalInt_inj {n m : Option Int32} : optional int n = optional int m ↔ n = m :=
  optional_inj int_ne_empty fun _ _ => int_inj

@[simp]
theorem optionalDouble_inj {x y : Option Double} :
    optional double x = optional double y ↔ x = y :=
  optional_inj double_ne_empty fun _ _ => double_inj

/-- Quantities are told apart as numbers. -/
@[simp]
theorem optionalDecimal_eq_iff {d e : Option Decimal} :
    optional decimal d = optional decimal e ↔ d.map Decimal.value = e.map Decimal.value := by
  have hsome (d : Decimal) : decimal d ≠ "" :=
    FieldReader.text_ne_of_decimalOf (by rintro ⟨⟩)
  have htext (d e : Decimal) : decimal d = decimal e ↔ d.value = e.value := by
    rw [← Decimal.normalize_eq_iff]
    constructor
    · intro h
      have hread := FieldReader.decimalOf_text d.normalize
      rw [show d.normalize.text = e.normalize.text from h, FieldReader.decimalOf_text] at hread
      exact (Except.ok.inj hread).symm
    · exact congrArg Decimal.text
  rw [optional_eq_iff hsome]
  cases d <;> cases e <;> simp [htext]

/-- The numbers of items that fit into a message are told apart. -/
theorem count_eq_iff {xs ys : List α} (hxs : xs.length ≤ maxPayload)
    (hys : ys.length ≤ maxPayload) : count xs = count ys ↔ xs.length = ys.length := by
  change _ ≤ 16777215 at hxs hys
  rw [count, count, int_inj]
  constructor
  · intro h
    have hvalue := congrArg Int32.toInt h
    rw [Int32.toInt_ofNat_of_lt (by omega), Int32.toInt_ofNat_of_lt (by omega)] at hvalue
    exact Int.ofNat_inj.mp hvalue
  · intro h
    rw [h]

end Field

/-- There are no more records than fields, if none of them is without fields. -/
theorem length_le_length_flatMap {α : Type} {write : α → List String} (hsome : ∀ x, write x ≠ [])
    (xs : List α) : xs.length ≤ (xs.flatMap write).length := by
  induction xs with
  | nil => exact Nat.le_refl 0
  | cons x xs ih =>
    have hx := List.length_pos_iff.mpr (hsome x)
    rw [List.flatMap_cons, List.length_append, List.length_cons]
    omega

/-- Whether two lists of fields say where they end: whatever stands behind them in messages that fit
into a frame, all of it is the same exactly if `p` holds and what stands behind is the same. -/
def Delimits (fields fields' : List String) (p : Prop) : Prop :=
  ∀ rest rest', (fields ++ rest).length ≤ maxPayload → (fields' ++ rest').length ≤ maxPayload →
    (fields ++ rest = fields' ++ rest' ↔ p ∧ rest = rest')

namespace Delimits

variable {α : Type} {fields fields' behind behind' : List String} {t t' : String} {p q : Prop}

theorem nil : Delimits [] [] True := by
  intro rest rest' _ _
  simp

/-- What stands behind may depend on what the lists say. -/
theorem append (h : Delimits fields fields' p) (hbehind : p → Delimits behind behind' q) :
    Delimits (fields ++ behind) (fields' ++ behind') (p ∧ q) := by
  intro rest rest' hshort hshort'
  rw [List.append_assoc] at hshort hshort' ⊢
  rw [List.append_assoc, h _ _ hshort hshort', and_assoc]
  refine and_congr_right fun hp => hbehind hp rest rest' ?_ ?_
  · rw [List.length_append] at hshort
    omega
  · rw [List.length_append] at hshort'
    omega

/-- Lists of one length end together. -/
theorem fixed (length : Nat) (h : fields.length = length) (h' : fields'.length = length)
    (hp : fields = fields' ↔ p) : Delimits fields fields' p := by
  intro rest rest' _ _
  rw [List.append_eq_append_iff_of_size_eq_left (h.trans h'.symm), hp]

theorem cons (h : t = t' ↔ p) (hbehind : p → Delimits behind behind' q) :
    Delimits (t :: behind) (t' :: behind') (p ∧ q) := by
  have hfirst : Delimits [t] [t'] p := fixed 1 rfl rfl (List.singleton_inj.trans h)
  exact hfirst.append hbehind

/-- Lists that begin with different fields differ. -/
theorem of_ne (h : t ≠ t') : Delimits (t :: behind) (t' :: behind') False := by
  intro rest rest' _ _
  simp [h]

theorem congr (h : Delimits fields fields' p) (hpq : p ↔ q) : Delimits fields fields' q := by
  intro rest rest' hshort hshort'
  rw [h rest rest' hshort hshort', hpq]

/-- A part that is there under a condition, which is the same on both sides. -/
theorem whenever {c c' : Prop} [Decidable c] [Decidable c'] (hc : c ↔ c')
    (h : c → Delimits fields fields' p) :
    Delimits (if c then fields else []) (if c' then fields' else []) (c → p) := by
  by_cases hthere : c
  · simp only [hc.mp hthere, hthere, if_true, true_imp_iff]
    exact h hthere
  · simp only [← hc, hthere, if_false, false_imp_iff]
    exact nil

/-- The fields that servers have from a version on. -/
theorem since {first sv : ServerVersion} (h : first ≤ sv → Delimits fields fields' p) :
    Delimits (Field.since first sv fields) (Field.since first sv fields') (first ≤ sv → p) :=
  whenever Iff.rfl h

/-- Fields that do not depend on what is written. -/
theorem same (fields : List String) : Delimits fields fields True :=
  fixed fields.length rfl rfl (by simp)

theorem eq_iff (hshort : fields.length ≤ maxPayload) (hshort' : fields'.length ≤ maxPayload)
    (h : Delimits fields fields' p) : fields = fields' ↔ p := by
  have hwhole := h [] []
  simp only [List.append_nil, and_true] at hwhole
  exact hwhole hshort hshort'

/-- As many records are told apart one by one. -/
theorem flatMap {write : α → List String} {xs ys : List α} (hlength : xs.length = ys.length)
    (h : ∀ x ∈ xs, ∀ y ∈ ys, Delimits (write x) (write y) (x = y)) :
    Delimits (xs.flatMap write) (ys.flatMap write) (xs = ys) := by
  induction xs generalizing ys with
  | nil =>
    cases ys with
    | nil => exact nil.congr (by simp)
    | cons y ys => cases hlength
  | cons x xs ih =>
    cases ys with
    | nil => cases hlength
    | cons y ys =>
      have hfirst := h x List.mem_cons_self y List.mem_cons_self
      have hrest := ih (Nat.succ.inj hlength) fun x hx y hy =>
        h x (List.mem_cons_of_mem _ hx) y (List.mem_cons_of_mem _ hy)
      exact (hfirst.append fun _ => hrest).congr List.cons_eq_cons.symm

/-- Records behind their number, none of which is without fields. -/
theorem counted {write : α → List String} (hsome : ∀ x, write x ≠ []) {xs ys : List α}
    (h : ∀ x ∈ xs, ∀ y ∈ ys, Delimits (write x) (write y) (x = y)) :
    Delimits (Field.count xs :: xs.flatMap write) (Field.count ys :: ys.flatMap write)
      (xs = ys) := by
  intro rest rest' hshort hshort'
  have hxs := length_le_length_flatMap hsome xs
  have hys := length_le_length_flatMap hsome ys
  simp only [List.cons_append, List.length_cons, List.length_append] at hshort hshort'
  have hcount : Field.count xs = Field.count ys ↔ xs.length = ys.length :=
    Field.count_eq_iff (by omega) (by omega)
  refine ((cons hcount fun hlength => flatMap hlength h).congr ?_) rest rest' ?_ ?_
  · exact and_iff_right_of_imp (congrArg List.length)
  · simpa only [List.cons_append, List.length_cons, List.length_append] using hshort
  · simpa only [List.cons_append, List.length_cons, List.length_append] using hshort'

end Delimits

end BrokerWire
