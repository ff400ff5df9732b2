import Mathlib.Logic.Relation
import Mathlib.Logic.Function.Basic
import Mathlib.Tactic.Simps.Basic

/-!
# Catalogues with protected entries

A catalogue lists items, each under the key that labels it, and records which item each user is
bound to. An item may be published under a free key, a user may be bound to a listed item, and an
item may be withdrawn only while nobody is bound to it. Whatever the order of these moves, nobody
is ever left bound to an item that is no longer listed, and all users of one key share one item.
-/

namespace FastDdsWrapper

/-- Listed items and the users bound to them. -/
structure Catalogue (Key Item User : Type*) where
  /-- The item listed under a key. -/
  entry : Key → Option Item
  /-- The item a user is bound to. -/
  binding : User → Option Item

namespace Catalogue

variable {Key Item User : Type*} {label : Item → Key}

/-- Items stand under their labels, and every user's item is listed. -/
structure Sound (label : Item → Key) (catalogue : Catalogue Key Item User) : Prop where
  /-- A listed item is listed under its label. -/
  labelled : ∀ key item, catalogue.entry key = some item → label item = key
  /-- A bound item is listed. -/
  listed : ∀ user item, catalogue.binding user = some item →
    catalogue.entry (label item) = some item

/-- Two users whose items carry one label share one item. -/
theorem Sound.shared {catalogue : Catalogue Key Item User} (sound : Sound label catalogue)
    {first second : User} {left right : Item} (one : catalogue.binding first = some left)
    (two : catalogue.binding second = some right) (same : label left = label right) :
    left = right := by
  have here := sound.listed first left one
  rw [same, sound.listed second right two] at here
  exact (Option.some.inj here).symm

variable [DecidableEq Key] [DecidableEq User]

/-- List an item under its label. -/
@[simps] def publish (catalogue : Catalogue Key Item User) (label : Item → Key) (item : Item) :
    Catalogue Key Item User :=
  { catalogue with entry := Function.update catalogue.entry (label item) (some item) }

/-- Take a key off the list. -/
@[simps] def withdraw (catalogue : Catalogue Key Item User) (key : Key) : Catalogue Key Item User :=
  { catalogue with entry := Function.update catalogue.entry key none }

/-- Bind a user to an item. -/
@[simps] def bind (catalogue : Catalogue Key Item User) (user : User) (item : Item) :
    Catalogue Key Item User :=
  { catalogue with binding := Function.update catalogue.binding user (some item) }

/-- Release a user. -/
@[simps] def release (catalogue : Catalogue Key Item User) (user : User) :
    Catalogue Key Item User :=
  { catalogue with binding := Function.update catalogue.binding user none }

/-- The permitted moves. -/
inductive Move (label : Item → Key) : Catalogue Key Item User → Catalogue Key Item User → Prop
  /-- An item goes under a free key. -/
  | publish (catalogue : Catalogue Key Item User) (item : Item)
      (free : catalogue.entry (label item) = none) :
      Move label catalogue (catalogue.publish label item)
  /-- An item without users leaves. -/
  | withdraw (catalogue : Catalogue Key Item User) (item : Item)
      (listed : catalogue.entry (label item) = some item)
      (unused : ∀ user, catalogue.binding user ≠ some item) :
      Move label catalogue (catalogue.withdraw (label item))
  /-- A user without an item gets a listed one. -/
  | bind (catalogue : Catalogue Key Item User) (user : User) (item : Item)
      (listed : catalogue.entry (label item) = some item)
      (idle : catalogue.binding user = none) :
      Move label catalogue (catalogue.bind user item)
  /-- A user lets go. -/
  | release (catalogue : Catalogue Key Item User) (user : User) :
      Move label catalogue (catalogue.release user)

/-- Each move keeps a catalogue sound. -/
theorem Move.sound {before after : Catalogue Key Item User} (moved : Move label before after)
    (sound : Sound label before) : Sound label after := by
  cases moved with
  | publish item free =>
    refine ⟨fun key other found => ?_, fun user other bound => ?_⟩
    · simp only [publish_entry, Function.update_apply] at found
      split at found
      · rename_i same
        obtain rfl := Option.some.inj found
        exact same.symm
      · exact sound.labelled key other found
    · have listed := sound.listed user other bound
      have apart : label other ≠ label item := fun same => by
        rw [same, free] at listed
        cases listed
      simpa only [publish_entry, Function.update_of_ne apart] using listed
  | withdraw item listed unused =>
    refine ⟨fun key other found => ?_, fun user other bound => ?_⟩
    · simp only [withdraw_entry, Function.update_apply] at found
      split at found
      · cases found
      · exact sound.labelled key other found
    · have kept := sound.listed user other bound
      have apart : label other ≠ label item := fun same => by
        rw [same, listed] at kept
        exact unused user (kept ▸ bound)
      simpa only [withdraw_entry, Function.update_of_ne apart] using kept
  | bind user item listed idle =>
    refine ⟨sound.labelled, fun other target bound => ?_⟩
    simp only [bind_binding, Function.update_apply] at bound
    split at bound
    · obtain rfl := Option.some.inj bound
      exact listed
    · exact sound.listed other target bound
  | release user =>
    refine ⟨sound.labelled, fun other target bound => ?_⟩
    simp only [release_binding, Function.update_apply] at bound
    split at bound
    · cases bound
    · exact sound.listed other target bound

/-- A sound catalogue stays sound along every sequence of moves. -/
theorem moves_sound {before after : Catalogue Key Item User}
    (moved : Relation.ReflTransGen (Move label) before after) (sound : Sound label before) :
    Sound label after := by
  induction moved with
  | refl => exact sound
  | tail _ last ih => exact last.sound ih

end Catalogue

end FastDdsWrapper
