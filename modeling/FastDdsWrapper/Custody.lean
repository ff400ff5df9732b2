import Mathlib.Logic.Relation
import Mathlib.Logic.Function.Basic
import Mathlib.Tactic.Simps.Basic
import Mathlib.Data.List.Nodup

/-!
# Objects with one fate

A custodian receives new items one at a time and at once either stores the item under the key that
labels it, if the key is free, or discards it. Whatever the order, every item received is then
stored and never discarded, or discarded once and never stored, and what became of an item does not
change any more.
-/

namespace FastDdsWrapper

/-- Items received, those stored and those discarded. -/
structure Custody (Key Item : Type*) where
  /-- Every item received so far. -/
  received : List Item
  /-- The item stored under a key. -/
  stored : Key → Option Item
  /-- The items discarded, in order. -/
  discarded : List Item

namespace Custody

variable {Key Item : Type*} {label : Item → Key}

/-- The item is stored under its label and was never discarded. -/
def Keeps (label : Item → Key) (custody : Custody Key Item) (item : Item) : Prop :=
  custody.stored (label item) = some item ∧ item ∉ custody.discarded

/-- The item was discarded once and is not stored. -/
def Drops [DecidableEq Item] (custody : Custody Key Item) (item : Item) : Prop :=
  custody.discarded.count item = 1 ∧ ∀ key, custody.stored key ≠ some item

/-- Every item received is kept or dropped, and nothing else is stored or discarded. -/
structure Sound [DecidableEq Item] (label : Item → Key) (custody : Custody Key Item) : Prop where
  /-- No item is received twice. -/
  distinct : custody.received.Nodup
  /-- No item is lost. -/
  settled : ∀ item ∈ custody.received, custody.Keeps label item ∨ custody.Drops item
  /-- What is stored was received. -/
  stored : ∀ key item, custody.stored key = some item → item ∈ custody.received
  /-- What is discarded was received. -/
  discarded : ∀ item ∈ custody.discarded, item ∈ custody.received

variable [DecidableEq Key]

/-- Receive an item and store it under its label. -/
@[simps] def store (custody : Custody Key Item) (label : Item → Key) (item : Item) :
    Custody Key Item :=
  { custody with
    received := custody.received ++ [item]
    stored := Function.update custody.stored (label item) (some item) }

/-- Receive an item and discard it. -/
@[simps] def discard (custody : Custody Key Item) (item : Item) : Custody Key Item :=
  { custody with
    received := custody.received ++ [item]
    discarded := custody.discarded ++ [item] }

/-- The permitted moves. -/
inductive Move (label : Item → Key) : Custody Key Item → Custody Key Item → Prop
  /-- A new item goes under a free key. -/
  | store (custody : Custody Key Item) (item : Item) (new : item ∉ custody.received)
      (free : custody.stored (label item) = none) : Move label custody (custody.store label item)
  /-- A new item is discarded. -/
  | discard (custody : Custody Key Item) (item : Item) (new : item ∉ custody.received) :
      Move label custody (custody.discard item)

variable [DecidableEq Item]

/-- A kept item is still kept after a move. -/
theorem Move.keeps {before after : Custody Key Item} (moved : Move label before after)
    (sound : Sound label before) {item : Item} (kept : before.Keeps label item) :
    after.Keeps label item := by
  obtain ⟨stored, intact⟩ := kept
  cases moved with
  | store other new free =>
    have apart : label item ≠ label other := by
      intro same
      rw [same, free] at stored
      cases stored
    constructor
    · rw [store_stored, Function.update_of_ne apart]
      exact stored
    · exact intact
  | discard other new =>
    have apart : item ≠ other := by
      intro same
      exact new (same ▸ sound.stored _ item stored)
    constructor
    · exact stored
    · rw [discard_discarded, List.mem_append, List.mem_singleton]
      exact not_or.mpr ⟨intact, apart⟩

/-- A dropped item is still dropped after a move. -/
theorem Move.drops {before after : Custody Key Item} (moved : Move label before after)
    (sound : Sound label before) {item : Item} (dropped : before.Drops item) :
    after.Drops item := by
  obtain ⟨once, absent⟩ := dropped
  have received : item ∈ before.received := by
    apply sound.discarded
    rw [← List.count_pos_iff, once]
    exact Nat.one_pos
  cases moved with
  | store other new free =>
    refine ⟨once, fun key found => ?_⟩
    rw [store_stored, Function.update_apply] at found
    split at found
    · obtain rfl := Option.some.inj found
      exact new received
    · exact absent key found
  | discard other new =>
    have apart : other ≠ item := by
      intro same
      exact new (same ▸ received)
    constructor
    · rw [discard_discarded, List.count_append, once, List.count_singleton, if_neg]
      simpa using apart
    · exact absent

/-- Each move keeps custody sound. -/
theorem Move.sound {before after : Custody Key Item} (moved : Move label before after)
    (sound : Sound label before) : Sound label after := by
  -- What became of the older items does not change.
  have older : ∀ item ∈ before.received, after.Keeps label item ∨ after.Drops item := by
    intro item member
    exact (sound.settled item member).imp (moved.keeps sound) (moved.drops sound)
  have distinct : ∀ other ∉ before.received, (before.received ++ [other]).Nodup := by
    intro other new
    refine List.nodup_append.mpr ⟨sound.distinct, List.nodup_singleton other, ?_⟩
    intro item member last single same
    rw [List.mem_singleton.mp single] at same
    exact new (same ▸ member)
  cases moved with
  | store other new free =>
    refine ⟨distinct other new, fun item member => ?_, fun key item found => ?_,
      fun item gone => ?_⟩
    · rcases List.mem_append.mp member with old | last
      · exact older item old
      · obtain rfl := List.mem_singleton.mp last
        refine .inl ⟨?_, fun gone => new (sound.discarded item gone)⟩
        rw [store_stored, Function.update_self]
    · rw [store_stored, Function.update_apply] at found
      split at found
      · obtain rfl := Option.some.inj found
        exact List.mem_append_right _ (List.mem_singleton_self other)
      · exact List.mem_append_left _ (sound.stored key item found)
    · exact List.mem_append_left _ (sound.discarded item gone)
  | discard other new =>
    refine ⟨distinct other new, fun item member => ?_, fun key item found => ?_,
      fun item gone => ?_⟩
    · rcases List.mem_append.mp member with old | last
      · exact older item old
      · obtain rfl := List.mem_singleton.mp last
        refine .inr ⟨?_, fun key found => new (sound.stored key item found)⟩
        have unseen : before.discarded.count item = 0 :=
          List.count_eq_zero.mpr fun gone => new (sound.discarded item gone)
        rw [discard_discarded, List.count_append, unseen, List.count_singleton_self]
    · exact List.mem_append_left _ (sound.stored key item found)
    · rcases List.mem_append.mp gone with old | last
      · exact List.mem_append_left _ (sound.discarded item old)
      · exact List.mem_append_right _ last

/-- Sound custody stays sound along every sequence of moves, and no fate changes. -/
theorem moves_final {before after : Custody Key Item}
    (moved : Relation.ReflTransGen (Move label) before after) (sound : Sound label before) :
    Sound label after ∧ (∀ item, before.Keeps label item → after.Keeps label item) ∧
      ∀ item, before.Drops item → after.Drops item := by
  induction moved with
  | refl => exact ⟨sound, fun _ kept => kept, fun _ dropped => dropped⟩
  | tail _ last ih =>
    obtain ⟨inside, kept, dropped⟩ := ih
    exact ⟨last.sound inside, fun item here => last.keeps inside (kept item here),
      fun item here => last.drops inside (dropped item here)⟩

end Custody

end FastDdsWrapper
