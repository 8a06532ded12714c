import Mathlib.Data.List.Perm.Basic
import ThemeCascade.Proofs.Json.Grammar

/-! # The order of members

An object names its members, so their order says nothing. Values that differ in the order of the members
of their objects, at any depth, hold the same data. -/

namespace ThemeCascade.Json

open List

variable {α β : Type}

/-- Two members have one name, and the relation holds between what is under it. -/
inductive Named (r : α → β → Prop) : Text × α → Text × β → Prop where
  | intro {name : Text} {a : α} {b : β} : r a b → Named r (name, a) (name, b)

theorem Named.name_eq {r : α → β → Prop} {member : Text × α} {entry : Text × β}
    (h : Named r member entry) : member.1 = entry.1 := by
  cases h
  rfl

/-- A function that does not tell related elements apart does not tell the lists apart. -/
theorem map_eq_of_forall₂ {r : α → α → Prop} {f : α → β} {l l' : List α} (h : Forall₂ r l l')
    (hf : ∀ a ∈ l, ∀ a', r a a' → f a' = f a) : l'.map f = l.map f := by
  induction h with
  | nil => rfl
  | cons hr _ ih =>
      rw [forall_mem_cons] at hf
      rw [map_cons, map_cons, hf.1 _ hr, ih hf.2]

theorem zipWith_eq_of_forall₂ {γ : Type} {r : α → α → Prop} {f : γ → α → β} {l l' : List α}
    (h : Forall₂ r l l') {k : List γ} (hf : ∀ c ∈ k, ∀ a ∈ l, ∀ a', r a a' → f c a' = f c a) :
    zipWith f k l' = zipWith f k l := by
  induction h generalizing k with
  | nil => rfl
  | cons hr _ ih =>
      cases k with
      | nil => rfl
      | cons c k =>
          simp only [forall_mem_cons] at hf
          rw [zipWith_cons_cons, zipWith_cons_cons, hf.1.1 _ hr, ih fun c hc => (hf.2 c hc).2]

namespace Value

/-- The second value is the first one with the members of its objects, at any depth, in another order. -/
inductive Reordered : Value → Value → Prop where
  | null : Reordered null null
  | boolean {value : Bool} : Reordered (boolean value) (boolean value)
  | number {value : Number} : Reordered (number value) (number value)
  | text {value : Text} : Reordered (text value) (text value)
  | list {items items' : List Value} : Forall₂ Reordered items items' →
      Reordered (list items) (list items')
  | object {members within members' : List (Text × Value)} : Forall₂ (Named Reordered) members within →
      within ~ members' → Reordered (object members) (object members')

mutual

theorem Reordered.refl : ∀ value : Value, Reordered value value
  | null => .null
  | boolean _ => .boolean
  | number _ => .number
  | text _ => .text
  | list items => .list (reorderedItems_refl items)
  | object members => .object (reorderedMembers_refl members) (.refl members)

theorem reorderedItems_refl : ∀ items : List Value, Forall₂ Reordered items items
  | [] => .nil
  | value :: items => .cons (Reordered.refl value) (reorderedItems_refl items)

theorem reorderedMembers_refl : ∀ members : List (Text × Value), Forall₂ (Named Reordered) members members
  | [] => .nil
  | (_, value) :: members => .cons (.intro (Reordered.refl value)) (reorderedMembers_refl members)

end

/-- No object, at any depth, has two members of one name. -/
inductive IsDistinct : Value → Prop where
  | null : IsDistinct null
  | boolean {value : Bool} : IsDistinct (boolean value)
  | number {value : Number} : IsDistinct (number value)
  | text {value : Text} : IsDistinct (text value)
  | list {items : List Value} : (∀ item ∈ items, IsDistinct item) → IsDistinct (list items)
  | object {members : List (Text × Value)} : (members.map Prod.fst).Nodup →
      (∀ member ∈ members, IsDistinct member.2) → IsDistinct (object members)

end Value

end ThemeCascade.Json
