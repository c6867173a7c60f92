import BrokerWire.Proofs.Text.Utf8
import BrokerWire.Proofs.Wire.Framing
import BrokerWire.Proofs.Wire.Typed

namespace BrokerWire

open Utf8 (IsTerminable)

/-- The zero character, which no text of a field should have. -/
def zeroChar : Char := Char.ofNat 0

namespace Utf8

theorem encode_append (before behind : List Char) :
    encode (before ++ behind) = encode before ++ encode behind :=
  List.flatMap_append

theorem encode_zeroChar_cons (rest : List Char) : encode (zeroChar :: rest) = 0 :: encode rest :=
  rfl

theorem zero_not_mem_encode_of_not_mem {chars : List Char} (h : zeroChar ∉ chars) :
    (0 : UInt8) ∉ encode chars := by
  intro hm
  obtain ⟨c, hc, hz⟩ := List.mem_flatMap.mp hm
  refine zero_not_mem_encodeChar (fun hzero => h ?_) hz
  have hchar : c = zeroChar := Char.toNat_inj.mp hzero
  exact hchar ▸ hc

/-- Only the zero character makes a zero octet, so octets are split where their characters are. -/
theorem splitOn_encode (chars : List Char) :
    (encode chars).splitOn 0 = (chars.splitOn zeroChar).map encode := by
  by_cases h : zeroChar ∈ chars
  · obtain ⟨before, behind, he, hbefore⟩ := List.eq_append_cons_of_mem h
    have hshort : behind.length < chars.length := by
      rw [he, List.length_append, List.length_cons]
      omega
    rw [he, encode_append, encode_zeroChar_cons, List.splitOn_append_cons_self,
      List.splitOn_append_cons_self, List.splitOn_eq_singleton hbefore,
      List.splitOn_eq_singleton (zero_not_mem_encode_of_not_mem hbefore), splitOn_encode behind]
    rfl
  · rw [List.splitOn_eq_singleton h,
      List.splitOn_eq_singleton (zero_not_mem_encode_of_not_mem h)]
    rfl
termination_by chars.length

theorem encode_inj {t t' : String} (h : encode t.toList = encode t'.toList) : t = t' := by
  have hdecode := decode_encode t.toList
  rw [h, decode_encode, Except.ok.injEq] at hdecode
  exact (String.toList_inj.mp hdecode).symm

theorem isTerminable_iff {t : String} : IsTerminable t ↔ zeroChar ∉ t.toList := by
  constructor
  · intro h hm
    exact h zeroChar hm rfl
  · intro h c hm hzero
    have hchar : c = zeroChar := Char.toNat_inj.mp hzero
    exact h (hchar ▸ hm)

end Utf8

namespace Message

/-- The fields that a payload has: its pieces that each end with a zero octet. -/
def pieces (payload : Bytes) : List Bytes :=
  (payload.splitOn 0).dropLast

/-- The parts of a text between its zero characters. -/
def parts (t : String) : List String :=
  (t.toList.splitOn zeroChar).map String.ofList

theorem parts_of_isTerminable {t : String} (h : IsTerminable t) : parts t = [t] := by
  rw [parts, List.splitOn_eq_singleton (Utf8.isTerminable_iff.mp h), List.map_singleton,
    String.ofList_toList]

theorem length_splitOn_zeroChar (chars : List Char) :
    (chars.splitOn zeroChar).length = chars.count zeroChar + 1 := by
  induction chars with
  | nil => rfl
  | cons c chars ih =>
    rw [List.splitOn_cons_eq_if_modifyHead, List.count_cons]
    split
    · rw [List.length_cons, ih]
    · rw [List.length_modifyHead, ih, Nat.add_zero]

/-- Each zero character makes one more field. -/
theorem length_parts (t : String) : (parts t).length = t.toList.count zeroChar + 1 := by
  rw [parts, List.length_map, length_splitOn_zeroChar]

theorem splitOn_fieldOctets (t : String) (rest : Bytes) :
    (fieldOctets t ++ rest).splitOn 0 =
      (parts t).map (fun part => Utf8.encode part.toList) ++ rest.splitOn 0 := by
  have hparts : (parts t).map (fun part => Utf8.encode part.toList) =
      (Utf8.encode t.toList).splitOn 0 := by
    simp only [parts, List.map_map, Function.comp_def, String.toList_ofList, Utf8.splitOn_encode]
  rw [fieldOctets, List.append_assoc, List.singleton_append, List.splitOn_append_cons_self, hparts]

theorem splitOn_payload (fields : List String) :
    (payload ⟨fields⟩).splitOn 0 =
      (fields.flatMap parts).map (fun part => Utf8.encode part.toList) ++ [[]] := by
  induction fields with
  | nil => rfl
  | cons t fields ih =>
    change (fieldOctets t ++ payload ⟨fields⟩).splitOn 0 = _
    rw [splitOn_fieldOctets, ih, List.flatMap_cons, List.map_append, List.append_assoc]

/-- A reader finds the parts of each text. -/
theorem pieces_payload (m : Message) :
    pieces m.payload = (m.fields.flatMap parts).map fun part => Utf8.encode part.toList := by
  obtain ⟨fields⟩ := m
  rw [pieces, splitOn_payload, List.dropLast_concat]

theorem flatMap_parts {fields : List String} (h : ∀ t ∈ fields, IsTerminable t) :
    fields.flatMap parts = fields := by
  have hparts : fields.flatMap parts = fields.flatMap List.singleton :=
    List.flatMap_congr fun t ht => parts_of_isTerminable (h t ht)
  rw [hparts]
  exact List.flatMap_singleton' fields

theorem length_flatMap_parts (fields : List String) :
    (fields.flatMap parts).length =
      fields.length + (fields.map fun t => t.toList.count zeroChar).sum := by
  induction fields with
  | nil => rfl
  | cons t fields ih =>
    rw [List.flatMap_cons, List.length_append, ih, length_parts, List.length_cons, List.map_cons,
      List.sum_cons]
    omega

/-- Without zero characters, equal payloads have equal fields. -/
theorem payload_inj {fields fields' : List String} (h : ∀ t ∈ fields, IsTerminable t)
    (h' : ∀ t ∈ fields', IsTerminable t) (he : payload ⟨fields⟩ = payload ⟨fields'⟩) :
    fields = fields' := by
  have hpieces := congrArg pieces he
  rw [pieces_payload, pieces_payload, flatMap_parts h, flatMap_parts h'] at hpieces
  exact List.map_injective_iff.mpr (fun _ _ => Utf8.encode_inj) hpieces

end Message

open Message (parts pieces)

/-- What can be put into a message, one call after the other. -/
inductive Push : Type 1 where
  | text (t : String)
  | int (n : Int32)
  | long (n : Int64)
  | double (x : Double)
  | bool (flag : Bool)
  | decimal (d : Decimal)
  | optionalInt (n : Option Int32)
  | optionalDouble (x : Option Double)
  | optionalDecimal (d : Option Decimal)
  /-- A value of any kind, as the text that shows it. -/
  | shown {α : Type} (display : α → String) (value : α)
  | optionalShown {α : Type} (display : α → String) (value : Option α)
  | tags (params : List TagValue)
  | pairs (params : List TagValue)
  | contract (c : Contract)

namespace Push

/-- The texts that are put into a message. -/
def fields : Push → List String
  | .text t => [t]
  | .int n => [Field.int n]
  | .long n => [Field.long n]
  | .double x => [Field.double x]
  | .bool flag => [Field.bool flag]
  | .decimal d => [Field.decimal d]
  | .optionalInt n => [Field.optional Field.int n]
  | .optionalDouble x => [Field.optional Field.double x]
  | .optionalDecimal d => [Field.optional Field.decimal d]
  | .shown display value => [display value]
  | .optionalShown display value => [Field.optional display value]
  | .tags params => [Field.tags params]
  | .pairs params => Field.pairs params
  | .contract c => Field.contract c

/-- How many fields a call stands for. -/
def width : Push → Nat
  | .pairs params => 1 + 2 * params.length
  | .contract _ => 12
  | _ => 1

theorem length_fields (push : Push) : push.fields.length = push.width := by
  cases push with
  | pairs params =>
    have htwo (p : TagValue) : [p.tag, p.value].length = 2 := rfl
    simp only [fields, width, Field.pairs, List.length_cons, List.length_flatMap, htwo,
      List.map_const', List.sum_replicate, smul_eq_mul]
    omega
  | _ => rfl

/-- The texts of a message: its number, and those of each call. -/
def allFields (id : Int32) (pushes : List Push) : List String :=
  Field.int id :: pushes.flatMap fields

def message (id : Int32) (pushes : List Push) : Message :=
  ⟨allFields id pushes⟩

theorem length_allFields (id : Int32) (pushes : List Push) :
    (allFields id pushes).length = 1 + (pushes.map width).sum := by
  have hwidths : (pushes.map fun push => push.fields.length) = pushes.map width :=
    List.map_congr_left fun push _ => length_fields push
  rw [allFields, List.length_cons, List.length_flatMap, hwidths, Nat.add_comm]

/-- A message is refused for its length only. A reader finds the parts of each text that was put
into it, one more for each zero character; so it finds the texts themselves, as many as the calls
stand for, if they have none. -/
theorem pieces_message (id : Int32) (pushes : List Push) :
    (∀ frame, (message id pushes).encode = .ok frame ↔
      (message id pushes).payload.length ≤ maxPayload ∧
        frame = Frame.octets (message id pushes).payload) ∧
    pieces (message id pushes).payload =
      ((allFields id pushes).flatMap parts).map (fun part => Utf8.encode part.toList) ∧
    (pieces (message id pushes).payload).length =
      1 + (pushes.map width).sum +
        ((allFields id pushes).map fun t => t.toList.count zeroChar).sum ∧
    ((∀ t ∈ pushes.flatMap fields, IsTerminable t) →
      pieces (message id pushes).payload =
          (allFields id pushes).map (fun t => Utf8.encode t.toList) ∧
        (pieces (message id pushes).payload).length = 1 + (pushes.map width).sum) := by
  have hpieces := Message.pieces_payload (message id pushes)
  refine ⟨fun frame => ?_, hpieces, ?_, fun h => ?_⟩
  · rw [Message.encode_eq]
    exact Frame.encode_eq_ok_iff _ frame
  · rw [hpieces, List.length_map, message, Message.length_flatMap_parts, length_allFields]
  · have hall : ∀ t ∈ allFields id pushes, IsTerminable t :=
      List.forall_mem_cons.mpr ⟨FieldReader.isTerminable_int id, h⟩
    rw [hpieces, message, Message.flatMap_parts hall]
    exact ⟨rfl, by rw [List.length_map, length_allFields]⟩

/-- A message about a stock with a parameter has a field for each text that was put into it. -/
theorem pieces_message_stock :
    (pieces (message 1
      [.text "a", .contract (.stock "IBM" "USD"), .pairs [⟨"k", "v"⟩]]).payload).length = 17 := by
  obtain ⟨-, -, -, hplain⟩ :=
    pieces_message 1 [.text "a", .contract (.stock "IBM" "USD"), .pairs [⟨"k", "v"⟩]]
  exact (hplain (by decide)).2

/-- One text with a zero character goes out, in the very frame of two texts: its reader finds three
fields where two were written. -/
theorem message_text_zeroChar :
    (message 1 [.text "a\x00b"]).encode = .ok [0, 0, 0, 6, 49, 0, 97, 0, 98, 0] ∧
      (message 1 [.text "a", .text "b"]).encode = .ok [0, 0, 0, 6, 49, 0, 97, 0, 98, 0] ∧
      pieces (message 1 [.text "a\x00b"]).payload = [[49], [97], [98]] ∧
      1 + ([.text "a\x00b"].map width).sum = 2 := by
  refine ⟨?_, ?_, ?_, rfl⟩ <;> decide

end Push

end BrokerWire
