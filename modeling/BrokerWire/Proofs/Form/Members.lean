import BrokerWire.Proofs.Form.Lasting
import Mathlib.Data.List.Basic

namespace BrokerWire.Member

variable {ρ : Type}

/-- A value for each member. -/
def Values : List (Member ρ) → Type
  | [] => Unit
  | m :: ms => m.Value × Values ms

/-- The values that a record has. -/
def values : (ms : List (Member ρ)) → ρ → Values ms
  | [], _ => ()
  | m :: ms, r => (m.get r, values ms r)

/-- New values for some members. -/
def Changes : List (Member ρ) → Type
  | [] => Unit
  | m :: ms => Option m.Value × Changes ms

/-- The record behind its changes, which are made one after the other. -/
def change : (ms : List (Member ρ)) → Changes ms → ρ → ρ
  | [], _, r => r
  | m :: ms, (c, cs), r => change ms cs (m.set (c.getD (m.get r)) r)

/-- The values behind changes. -/
def overlay : (ms : List (Member ρ)) → Changes ms → Values ms → Values ms
  | [], _, _ => ()
  | _ :: ms, (c, cs), (v, vs) => (c.getD v, overlay ms cs vs)

/-- Sets all members to the values that another record has. -/
def fill : (ms : List (Member ρ)) → (source : ρ) → ρ → ρ
  | [], _, r => r
  | m :: ms, source, r => fill ms source (m.set (m.get source) r)

theorem fill_congr {ms : List (Member ρ)} {source source' : ρ}
    (h : values ms source = values ms source') (r : ρ) : fill ms source r = fill ms source' r := by
  induction ms generalizing r with
  | nil => rfl
  | cons m ms ih =>
    obtain ⟨hvalue, hvalues⟩ := Prod.mk.injEq .. ▸ h
    rw [fill, hvalue, ih hvalues]
    rfl

/-- Whether each change has a property. -/
def Each (P : (m : Member ρ) → Option m.Value → Prop) : (ms : List (Member ρ)) → Changes ms → Prop
  | [], _ => True
  | m :: ms, (c, cs) => P m c ∧ Each P ms cs

/-- Changes member by member are changes of all of them. -/
theorem exists_each_iff {P : (m : Member ρ) → Option m.Value → Prop} {ms : List (Member ρ)} :
    (∃ cs, Each P ms cs) ↔ ∀ m ∈ ms, ∃ c, P m c := by
  induction ms with
  | nil => exact iff_of_true ⟨(), trivial⟩ nofun
  | cons m ms ih =>
    rw [List.forall_mem_cons, ← ih]
    constructor
    · rintro ⟨⟨c, cs⟩, hc, hcs⟩
      exact ⟨⟨c, hc⟩, cs, hcs⟩
    · rintro ⟨⟨c, hc⟩, cs, hcs⟩
      exact ⟨(c, cs), hc, hcs⟩

theorem each_and_iff {P Q : (m : Member ρ) → Option m.Value → Prop} {ms : List (Member ρ)}
    {cs : Changes ms} :
    Each (fun m c => P m c ∧ Q m c) ms cs ↔ Each P ms cs ∧ Each Q ms cs := by
  induction ms with
  | nil => exact (and_self_iff).symm
  | cons m ms ih =>
    obtain ⟨c, cs⟩ := cs
    exact (and_congr_right fun _ => ih).trans and_and_and_comm

theorem overlay_eq_iff {ms : List (Member ρ)} {cs : Changes ms} {blank r : ρ} :
    overlay ms cs (values ms blank) = values ms r ↔
      Each (fun m c => c.getD (m.get blank) = m.get r) ms cs := by
  induction ms with
  | nil => exact iff_of_true rfl trivial
  | cons m ms ih =>
    obtain ⟨c, cs⟩ := cs
    exact Prod.mk_inj.trans (and_congr_right fun _ => ih)

theorem set_getD (m : Member ρ) (c : Option m.Value) (r : ρ) :
    m.set (c.getD (m.get r)) r = match c with
      | some value => m.set value r
      | none => r := by
  cases c with
  | none => exact m.set_get r
  | some value => rfl

/-- Whether an object asks for a change: it has the member, or does not need to have it. -/
def Asks (found : List (String × Json)) (m : Member ρ) (c : Option m.Value) : Prop :=
  match Json.find? m.name found with
  | some json => ∃ value, ofJson? json = some value ∧ c = some value
  | none => m.absence ≠ .fault ∧ c = none

theorem readFrom_eq_some_iff {found : List (String × Json)} {m : Member ρ} {r r' : ρ} :
    readFrom found r m = some r' ↔
      ∃ c, m.Asks found c ∧ r' = m.set (c.getD (m.get r)) r := by
  unfold readFrom Asks
  cases Json.find? m.name found with
  | some json =>
    dsimp only [read]
    rw [Option.map_eq_some_iff]
    constructor
    · rintro ⟨value, hvalue, rfl⟩
      exact ⟨some value, ⟨value, hvalue, rfl⟩, rfl⟩
    · rintro ⟨-, ⟨value, hvalue, rfl⟩, rfl⟩
      exact ⟨value, hvalue, rfl⟩
  | none =>
    dsimp only
    by_cases hfault : m.absence = .fault
    · rw [if_pos hfault]
      exact iff_of_false nofun (by rintro ⟨c, ⟨hnot, -⟩, -⟩; exact hnot hfault)
    · rw [if_neg hfault, Option.some.injEq]
      constructor
      · rintro rfl
        exact ⟨none, ⟨hfault, rfl⟩, (m.set_get r).symm⟩
      · rintro ⟨-, ⟨-, rfl⟩, rfl⟩
        exact (m.set_get r).symm

theorem foldlM_readFrom_iff {found : List (String × Json)} {ms : List (Member ρ)} {r r' : ρ} :
    ms.foldlM (readFrom found) r = some r' ↔
      ∃ cs, Each (Asks found) ms cs ∧ change ms cs r = r' := by
  induction ms generalizing r with
  | nil =>
    constructor
    · rintro ⟨⟩
      exact ⟨(), trivial, rfl⟩
    · rintro ⟨-, -, rfl⟩
      rfl
  | cons m ms ih =>
    rw [List.foldlM_cons, Option.bind_eq_bind, Option.bind_eq_some_iff]
    constructor
    · rintro ⟨next, hnext, hrest⟩
      obtain ⟨c, hc, rfl⟩ := readFrom_eq_some_iff.mp hnext
      obtain ⟨cs, hcs, he⟩ := ih.mp hrest
      exact ⟨(c, cs), ⟨hc, hcs⟩, he⟩
    · rintro ⟨⟨c, cs⟩, ⟨hc, hcs⟩, he⟩
      exact ⟨_, readFrom_eq_some_iff.mpr ⟨c, hc, rfl⟩, ih.mpr ⟨cs, hcs, he⟩⟩

/-- Whether a change, if there is one, is to a value that was read. -/
def WasRead (m : Member ρ) (c : Option m.Value) : Prop :=
  ∀ value ∈ c, ∃ json, ofJson? json = some value

theorem readInOrder_eq_some {ms : List (Member ρ)} {jsons : List Json} {r r' : ρ}
    (h : readInOrder ms jsons r = some r') :
    ∃ cs, Each WasRead ms cs ∧ change ms cs r = r' := by
  induction ms generalizing jsons r with
  | nil =>
    cases jsons with
    | nil =>
      cases h
      exact ⟨(), trivial, rfl⟩
    | cons json jsons => cases h
  | cons m ms ih =>
    cases jsons with
    | nil =>
      rw [readInOrder] at h
      split at h
      · obtain ⟨cs, hcs, he⟩ := ih h
        refine ⟨(none, cs), ⟨nofun, hcs⟩, ?_⟩
        rw [change, set_getD, he]
      · cases h
    | cons json jsons =>
      rw [readInOrder, read] at h
      obtain ⟨next, hnext, hrest⟩ := Option.bind_eq_some_iff.mp h
      obtain ⟨value, hvalue, rfl⟩ := Option.map_eq_some_iff.mp hnext
      obtain ⟨cs, hcs, he⟩ := ih hrest
      refine ⟨(some value, cs), ⟨?_, hcs⟩, he⟩
      rintro _ ⟨⟩
      exact ⟨json, hvalue⟩

/-- The members of the object of a record. -/
def entries (ms : List (Member ρ)) (r : ρ) : List (String × Json) :=
  ms.filterMap fun m => (m.write r).map fun json => (m.name, json)

/-- A member is found where it is written, and otherwise behind it. -/
theorem find?_entries_cons (m : Member ρ) (ms : List (Member ρ)) (r : ρ) (key : String) :
    Json.find? key (entries (m :: ms) r) =
      (if m.name = key then m.write r else none).or (Json.find? key (entries ms r)) := by
  unfold entries
  rw [List.filterMap_cons]
  cases m.write r with
  | none => simp
  | some json =>
    simp only [Option.map_some, Json.find?]
    split <;> simp

theorem find?_entries_of_not_mem {ms : List (Member ρ)} {key : String}
    (h : key ∉ ms.map name) (r : ρ) : Json.find? key (entries ms r) = none := by
  induction ms with
  | nil => rfl
  | cons m ms ih =>
    rw [List.map_cons, List.mem_cons, not_or] at h
    rw [find?_entries_cons, if_neg (Ne.symm h.1), Option.none_or, ih h.2]

/-- What a member is written as is found under its name. -/
theorem find?_entries {ms : List (Member ρ)} (hnodup : (ms.map name).Nodup) {m : Member ρ}
    (hm : m ∈ ms) (r : ρ) : Json.find? m.name (entries ms r) = m.write r := by
  induction ms with
  | nil => cases hm
  | cons first ms ih =>
    obtain ⟨hfirst, hrest⟩ := List.nodup_cons.mp hnodup
    obtain rfl | hm := List.mem_cons.mp hm
    · rw [find?_entries_cons, if_pos rfl, find?_entries_of_not_mem hfirst, Option.or_none]
    · have hne : first.name ≠ m.name := fun he => hfirst (he ▸ List.mem_map_of_mem hm)
      rw [find?_entries_cons, if_neg hne, Option.none_or, ih hrest hm]

/-- Whether a member settles: its values last once they have been read, so does the value of a blank
record, and what is left out is that value. -/
structure Settles (m : Member ρ) (blank : ρ) : Prop where
  settling : SettlingForm m.Value
  lasts_blank : Lasts (m.get blank)
  omits : ∀ value, m.omits value = true → m.absence ≠ .fault ∧ m.get blank = value

section Settles

variable {blank : ρ} {α : Type} [JsonForm α] [SettlingForm α] {name : String}

@[simp] theorem settles_of {get : ρ → α} {set : α → ρ → ρ} {set_get : ∀ r, set (get r) r = r} :
    (of name get set set_get).Settles blank ↔ Lasts (get blank) :=
  ⟨fun h => h.lasts_blank, fun h => ⟨‹SettlingForm α›, h, nofun⟩⟩

@[simp] theorem settles_opt [NeverNull α] {get : ρ → Option α} {set : Option α → ρ → ρ}
    {set_get : ∀ r, set (get r) r = r} :
    (opt name get set set_get).Settles blank ↔ Lasts (get blank) :=
  ⟨fun h => h.lasts_blank, fun h => ⟨inferInstanceAs (SettlingForm (Option α)), h, nofun⟩⟩

@[simp] theorem settles_items {get : ρ → List α} {set : List α → ρ → ρ}
    {set_get : ∀ r, set (get r) r = r} :
    (items name get set set_get).Settles blank ↔ get blank = [] := by
  constructor
  · intro h
    exact (h.omits [] rfl).2
  · intro hblank
    refine ⟨inferInstanceAs (SettlingForm (List α)), ?_, ?_⟩
    · change Lasts (get blank)
      rw [hblank]
      exact lasts_list nofun
    · intro value hempty
      exact ⟨nofun, hblank.trans (List.isEmpty_iff.mp hempty).symm⟩

theorem Settles.kept {m : Member ρ} (h : m.Settles blank) : m.kept.Settles blank :=
  ⟨h.settling, h.lasts_blank, fun value homits => ⟨nofun, (h.omits value homits).2⟩⟩

theorem settles_map_kept {ms : List (Member ρ)} (h : ∀ m ∈ ms, m.Settles blank) :
    ∀ m ∈ ms.map kept, m.Settles blank :=
  List.forall_mem_map.mpr fun m hm => (h m hm).kept

end Settles

/-- Members that settle, have different names, do not get in each other's way, and make up a
record. -/
structure Lawful (ms : List (Member ρ)) (blank : ρ) : Prop where
  settles : ∀ m ∈ ms, m.Settles blank
  nodup : (ms.map name).Nodup := by decide +kernel
  values_change : ∀ cs, values ms (change ms cs blank) = overlay ms cs (values ms blank) := by
    intro cs; exact rfl
  fill_blank : ∀ r, fill ms r blank = r := by intro r; cbv

namespace Lawful

variable {ms : List (Member ρ)} {blank r : ρ} (h : Lawful ms blank)

include h

/-- A record is the blank one with some changes exactly if each of its members is. -/
theorem change_eq_iff {cs : Changes ms} :
    change ms cs blank = r ↔ Each (fun m c => c.getD (m.get blank) = m.get r) ms cs := by
  rw [← overlay_eq_iff, ← h.values_change]
  constructor
  · rintro rfl
    rfl
  · intro hvalues
    rw [← h.fill_blank (change ms cs blank), fill_congr hvalues, h.fill_blank]

/-- An object is read as a record exactly if each member that it has is read as the value of the
record, and each other one may be missing and has the value of the blank record. -/
theorem ofObject_iff {found : List (String × Json)} :
    readAll ms blank (.object found) = some r ↔
      ∀ m ∈ ms, match Json.find? m.name found with
        | some json => ofJson? json = some (m.get r)
        | none => m.absence ≠ .fault ∧ m.get r = m.get blank := by
  change ms.foldlM (readFrom found) blank = some r ↔ _
  rw [foldlM_readFrom_iff]
  simp only [h.change_eq_iff, ← each_and_iff, exists_each_iff]
  refine forall₂_congr fun m _ => ?_
  unfold Asks
  cases Json.find? m.name found with
  | some json =>
    constructor
    · rintro ⟨-, ⟨value, hvalue, rfl⟩, he⟩
      exact hvalue.trans (congrArg some he)
    · intro hvalue
      exact ⟨some (m.get r), ⟨_, hvalue, rfl⟩, rfl⟩
  | none =>
    constructor
    · rintro ⟨-, ⟨hnot, rfl⟩, he⟩
      exact ⟨hnot, he.symm⟩
    · rintro ⟨hnot, he⟩
      exact ⟨none, ⟨hnot, rfl⟩, he.symm⟩

/-- An object is a record exactly if each member that it has can be read, and each other one may be
missing. -/
theorem exists_ofObject_iff {found : List (String × Json)} :
    (∃ r, readAll ms blank (.object found) = some r) ↔
      ∀ m ∈ ms, match Json.find? m.name found with
        | some json => ∃ value : m.Value, ofJson? json = some value
        | none => m.absence ≠ .fault := by
  constructor
  · rintro ⟨r, hr⟩ m hm
    have hmember := h.ofObject_iff.mp hr m hm
    cases hfind : Json.find? m.name found with
    | some json =>
      rw [hfind] at hmember
      exact ⟨_, hmember⟩
    | none =>
      rw [hfind] at hmember
      exact hmember.1
  · intro hread
    have hasked : ∀ m ∈ ms, ∃ c, m.Asks found c := by
      intro m hm
      have hmember := hread m hm
      unfold Asks
      cases hfind : Json.find? m.name found with
      | some json =>
        rw [hfind] at hmember
        obtain ⟨value, hvalue⟩ := hmember
        exact ⟨some value, value, hvalue, rfl⟩
      | none =>
        rw [hfind] at hmember
        exact ⟨none, hmember, rfl⟩
    obtain ⟨cs, hcs⟩ := exists_each_iff.mpr hasked
    exact ⟨_, foldlM_readFrom_iff.mpr ⟨cs, hcs, rfl⟩⟩

theorem lasts (hr : ∀ m ∈ ms, Lasts (m.get r)) : readAll ms blank (writeAll ms r) = some r := by
  change readAll ms blank (.object (entries ms r)) = some r
  refine h.ofObject_iff.mpr fun m hm => ?_
  rw [find?_entries h.nodup hm, write]
  cases homits : m.omits (m.get r) with
  | true =>
    obtain ⟨hnot, he⟩ := (h.settles m hm).omits _ homits
    exact ⟨hnot, he.symm⟩
  | false => exact hr m hm

/-- The values of a record that was read last. -/
theorem lasts_of_readAll {json : Json} (hread : readAll ms blank json = some r) :
    ∀ m ∈ ms, Lasts (m.get r) := by
  cases json with
  | object found =>
    intro m hm
    have hmember := h.ofObject_iff.mp hread m hm
    have hsettling := (h.settles m hm).settling
    cases hfind : Json.find? m.name found with
    | some json =>
      rw [hfind] at hmember
      exact SettlingForm.lasts_of_read hmember
    | none =>
      rw [hfind] at hmember
      rw [hmember.2]
      exact (h.settles m hm).lasts_blank
  | array jsons =>
    obtain ⟨cs, hcs, he⟩ := readInOrder_eq_some hread
    intro m hm
    have heach := each_and_iff.mpr ⟨hcs, h.change_eq_iff.mp he⟩
    obtain ⟨c, hc, hvalue⟩ := exists_each_iff.mp ⟨cs, heach⟩ m hm
    have hsettling := (h.settles m hm).settling
    rw [← hvalue]
    cases c with
    | some value =>
      obtain ⟨json, hjson⟩ := hc value rfl
      exact SettlingForm.lasts_of_read hjson
    | none => exact (h.settles m hm).lasts_blank
  | _ => cases hread

/-- A record that was read lasts. -/
theorem settlingForm : @SettlingForm ρ (form ms blank) :=
  @SettlingForm.mk ρ (form ms blank) fun hread => h.lasts (h.lasts_of_readAll hread)

/-- A record lasts always if all that its members can hold does. -/
theorem lastingForm (hms : ∀ m ∈ ms, LastingForm m.Value) : @LastingForm ρ (form ms blank) :=
  @LastingForm.mk ρ (form ms blank) fun _ => h.lasts fun m hm => (hms m hm).lasts _

theorem lasts_blank : readAll ms blank (writeAll ms blank) = some blank :=
  h.lasts fun m hm => (h.settles m hm).lasts_blank

end Lawful

end BrokerWire.Member
