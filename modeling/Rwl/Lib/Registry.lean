import Mathlib.Tactic.Common
import Mathlib.Data.List.Perm.Basic
import Mathlib.Data.List.Nodup
import Mathlib.Logic.Relation
import Mathlib.Logic.Function.Basic
import Rwl.Lib.Recency

/-!
# Registries

Items that each live in a slot of a list of slots, with a most-recent-first list, an index by
key, and one selected slot. Slots are named by their position, and positions move when a slot
is dropped.

* `Registry`, `Grant`: the data, and what the environment of a change vouches for;
* `Step`: the changes, `Steps` their closure;
* `Indexed`: every position is in range; `Steps.indexed`;
* `Closed`: what is recent or has a key is an item, and no item is foreign; `Steps.closed`,
  and `Steps.gone`, `Steps.unrecent`: what has gone does not come back;
* `Native`: no item is foreign, whatever the changes;
* `shift`, `dropSlot_kept`, `dropSlot_current`: a dropped slot moves every position, and the
  positions of the others name what they named.
-/

/-- Items in slots. `made` are the items there have ever been, `keyOf` the key each one claims
(only that of a `movable` item changes); `foreign` items are kept apart; `logs` counts the
entries of a list kept beside the slots. -/
@[ext]
structure Registry (α κ ω : Type*) where
  items : List α
  recent : List α
  made : List α
  byKey : κ → Option α
  keyOf : α → Option κ
  movable : α → Bool
  foreign : α → Bool
  slot : α → ℕ
  slots : List ω
  current : ℕ
  logs : ℕ

namespace Registry

variable {α κ ω : Type*}

/-! ### Positions -/

/-- Where position `j` goes when position `i` is dropped. -/
def shift (i j : ℕ) : ℕ := if i < j then j - 1 else j

/-- The selected position once `i` is dropped and `n` slots are left. -/
def shiftCurrent (i n cur : ℕ) : ℕ :=
  if n = 0 then 0 else if i < cur then cur - 1 else if n ≤ cur then n - 1 else cur

/-- **A position other than the dropped one names what it named.** -/
theorem getElem?_eraseIdx_shift {l : List ω} {i j : ℕ} (h : j ≠ i) :
    (l.eraseIdx i)[shift i j]? = l[j]? := by
  unfold shift
  rw [List.getElem?_eraseIdx]
  split_ifs
  · omega
  · congr 1; omega
  · rfl
  · omega

/-- `i` names a slot; with no slots at all, position 0 stands for the first to come. -/
def InRange (r : Registry α κ ω) (i : ℕ) : Prop := i < max r.slots.length 1

instance (r : Registry α κ ω) (i : ℕ) : Decidable (r.InRange i) :=
  inferInstanceAs (Decidable (_ < _))

/-! ### Changes -/

/-- What the environment of a change vouches for: `handle` items may be used as if listed,
`index` items as if their slots were in range, and `clean` changes leave no stale key. -/
structure Grant (α : Type*) where
  handle : α → Prop
  index : α → Prop
  clean : Prop

/-- A position taken from where positions are kept. -/
def Sound (g : Grant α) (r : Registry α κ ω) (i : ℕ) : Prop :=
  i = r.current ∨ r.InRange i ∨ ∃ a, (a ∈ r.items ∨ g.index a) ∧ r.slot a = i

/-- The registry without the items outside `keep` and without the keys in `gone`. -/
def remove (r : Registry α κ ω) (keep : α → Bool) (gone : κ → Bool) : Registry α κ ω :=
  { r with
    items := r.items.filter keep
    recent := r.recent.filter keep
    byKey := fun k => if gone k then none else r.byKey k }

variable [DecidableEq α] [DecidableEq κ]

/-- The registry with the new item `a`, on the selected slot. -/
def insert (r : Registry α κ ω) (a : α) (key : Option κ) (movable : Bool) : Registry α κ ω :=
  { r with
    items := a :: r.items
    made := a :: r.made
    byKey := match key with
      | some k => Function.update r.byKey k (some a)
      | none => r.byKey
    keyOf := Function.update r.keyOf a key
    movable := Function.update r.movable a movable
    foreign := Function.update r.foreign a false
    slot := Function.update r.slot a r.current }

/-- The registry with the new foreign item `a`. -/
def insertForeign (r : Registry α κ ω) (a : α) (key : Option κ) (movable : Bool) :
    Registry α κ ω :=
  { r with
    made := a :: r.made
    keyOf := Function.update r.keyOf a key
    movable := Function.update r.movable a movable
    foreign := Function.update r.foreign a true
    slot := Function.update r.slot a 0 }

/-- The registry without slot `i`, whose items move to `target`. -/
def dropSlot (r : Registry α κ ω) (i target : ℕ) : Registry α κ ω :=
  { r with
    slot := fun a =>
      if a ∈ r.items then shift i (if r.slot a = i then target else r.slot a) else r.slot a
    slots := r.slots.eraseIdx i
    current := shiftCurrent i (r.slots.length - 1) r.current
    logs := if i < r.logs then r.logs - 1 else r.logs }

/-- One change. -/
inductive Step (g : Grant α) : Registry α κ ω → Registry α κ ω → Prop
  /-- An item becomes the most recent one. -/
  | touch (r) (a) : a ∈ r.items ∨ a ∈ r.recent ∨ g.handle a →
      Step g r { r with recent := Recency.toFront a r.recent }
  /-- Another slot is selected. -/
  | select (r) (i) : Sound g r i → Step g r { r with current := i }
  /-- An item moves to another slot. -/
  | assign (r) (a) (i) : Sound g r i → Step g r { r with slot := Function.update r.slot a i }
  /-- Items leave the recent list. -/
  | lower (r) (p) : Step g r { r with recent := r.recent.filter p }
  | reorder (r) (l) : l.Perm r.items → Step g r { r with items := l }
  | insert (r) (a) (key) (m) : a ∉ r.made → Step g r (r.insert a key m)
  | insertForeign (r) (a) (key) (m) : a ∉ r.made → Step g r (r.insertForeign a key m)
  /-- Items go for good, with their keys. -/
  | remove (r) (keep) (gone) : (∀ a, g.handle a → keep a = true) →
      (g.clean → ∀ k a, r.byKey k = some a → a ∈ r.items → keep a = false → gone k = true) →
      Step g r (r.remove keep gone)
  /-- Movable items claim other keys. -/
  | rekey (r) (f) : (∀ a, r.movable a = false → f a = r.keyOf a) → Step g r { r with keyOf := f }
  /-- A key is given to an item. -/
  | bind (r) (k) (a) : r.movable a = true → (g.clean → a ∈ r.items) →
      Step g r { r with byKey := Function.update r.byKey k (some a) }
  | addSlot (r) (o) : o ∉ r.slots →
      Step g r { r with slots := r.slots ++ [o], logs := r.logs + 1 }
  | dropSlot (r) (i) (target) : i < r.slots.length →
      (r.slots.length ≤ 1 ∧ target = 0 ∨
        target ≠ i ∧ (target = r.current ∨ target < r.slots.length)) →
      (∀ a, ¬ g.index a) → Step g r (r.dropSlot i target)

/-- Any number of changes. -/
abbrev Steps (g : Grant α) : Registry α κ ω → Registry α κ ω → Prop :=
  Relation.ReflTransGen (Step g)

variable {g : Grant α} {r r' : Registry α κ ω}

/-! ### Positions stay in range -/

/-- Every position kept is in range, and the list beside the slots has one entry for each. -/
structure Indexed (r : Registry α κ ω) : Prop where
  current : r.InRange r.current
  slot : ∀ a ∈ r.items, r.InRange (r.slot a)
  logs : r.logs = r.slots.length
  slots : r.slots.Nodup

/-- `Indexed`, with the slots the environment vouches for. -/
def IndexedFor (g : Grant α) (r : Registry α κ ω) : Prop :=
  r.Indexed ∧ ∀ a, g.index a → r.InRange (r.slot a)

omit [DecidableEq α] [DecidableEq κ] in
theorem Sound.inRange {i : ℕ} (h : Sound g r i) (hr : IndexedFor g r) : r.InRange i := by
  obtain rfl | h | ⟨a, ha | ha, rfl⟩ := h
  · exact hr.1.current
  · exact h
  · exact hr.1.slot a ha
  · exact hr.2 a ha

omit [DecidableEq κ] in
theorem inRange_update {i j : ℕ} {a b : α} (hi : i < j) (h : r.slot b < j) :
    Function.update r.slot a i b < j := by
  by_cases hb : b = a
  · subst hb; rwa [Function.update_self]
  · rwa [Function.update_of_ne hb]

theorem shift_lt {i j n : ℕ} (hi : i < n) (hj : j < n) (hne : j ≠ i) :
    shift i j < max (n - 1) 1 := by
  unfold shift
  split_ifs <;> omega

theorem shiftCurrent_lt {i n cur : ℕ} (h : cur < max (n + 1) 1) :
    shiftCurrent i n cur < max n 1 := by
  unfold shiftCurrent
  split_ifs <;> omega

omit [DecidableEq κ] in
/-- Dropping a slot keeps the positions in range. -/
theorem Indexed.dropSlot (hr : r.Indexed) {i target : ℕ} (hi : i < r.slots.length)
    (ht : r.slots.length ≤ 1 ∧ target = 0 ∨
      target ≠ i ∧ (target = r.current ∨ target < r.slots.length)) :
    (r.dropSlot i target).Indexed := by
  have hlen : (r.slots.eraseIdx i).length = r.slots.length - 1 := List.length_eraseIdx_of_lt hi
  have hcur : r.current < r.slots.length := by
    have := hr.current
    unfold InRange at this
    omega
  refine ⟨?_, fun a ha => ?_, ?_, hr.slots.eraseIdx i⟩
  · unfold InRange
    rw [show (r.dropSlot i target).slots.length = r.slots.length - 1 from hlen]
    refine shiftCurrent_lt ?_
    omega
  · have ha : a ∈ r.items := ha
    have hslot : r.slot a < r.slots.length := by
      have := hr.slot a ha
      unfold InRange at this
      omega
    unfold InRange
    rw [show (r.dropSlot i target).slots.length = r.slots.length - 1 from hlen]
    change (if a ∈ r.items then _ else r.slot a) < _
    rw [if_pos ha]
    by_cases h : r.slot a = i
    · rw [if_pos h]
      rcases ht with ht | ⟨hti, ht⟩
      · unfold shift
        split_ifs <;> omega
      · refine shift_lt hi ?_ hti
        rcases ht with rfl | ht
        · exact hcur
        · exact ht
    · rw [if_neg h]
      exact shift_lt hi hslot h
  · change (if i < r.logs then r.logs - 1 else r.logs) = (r.slots.eraseIdx i).length
    rw [hlen, hr.logs, if_pos hi]

/-- One change keeps every position in range. -/
theorem Step.indexed (h : Step g r r') (hr : IndexedFor g r) : IndexedFor g r' := by
  cases h with
  | touch a _ => exact ⟨⟨hr.1.current, hr.1.slot, hr.1.logs, hr.1.slots⟩, hr.2⟩
  | select i hi => exact ⟨⟨hi.inRange hr, hr.1.slot, hr.1.logs, hr.1.slots⟩, hr.2⟩
  | assign a i hi =>
    have hi := hi.inRange hr
    exact ⟨⟨hr.1.current, fun b hb => inRange_update hi (hr.1.slot b hb), hr.1.logs, hr.1.slots⟩,
      fun b hb => inRange_update hi (hr.2 b hb)⟩
  | lower p => exact ⟨⟨hr.1.current, hr.1.slot, hr.1.logs, hr.1.slots⟩, hr.2⟩
  | reorder l hl =>
    exact ⟨⟨hr.1.current, fun a ha => hr.1.slot a (hl.mem_iff.1 ha), hr.1.logs, hr.1.slots⟩, hr.2⟩
  | insert a key m ha =>
    refine ⟨⟨hr.1.current, fun b hb => ?_, hr.1.logs, hr.1.slots⟩,
      fun b hb => inRange_update hr.1.current (hr.2 b hb)⟩
    rcases List.mem_cons.1 hb with rfl | hb
    · change Function.update r.slot b r.current b < _
      rw [Function.update_self]
      exact hr.1.current
    · exact inRange_update hr.1.current (hr.1.slot b hb)
  | insertForeign a key m ha =>
    have h0 : r.InRange 0 := by
      unfold InRange
      omega
    exact ⟨⟨hr.1.current, fun b hb => inRange_update h0 (hr.1.slot b hb), hr.1.logs, hr.1.slots⟩,
      fun b hb => inRange_update h0 (hr.2 b hb)⟩
  | remove keep gone _ _ =>
    exact ⟨⟨hr.1.current, fun a ha => hr.1.slot a (List.mem_of_mem_filter ha), hr.1.logs,
      hr.1.slots⟩, hr.2⟩
  | rekey f _ => exact ⟨⟨hr.1.current, hr.1.slot, hr.1.logs, hr.1.slots⟩, hr.2⟩
  | bind k a _ _ => exact ⟨⟨hr.1.current, hr.1.slot, hr.1.logs, hr.1.slots⟩, hr.2⟩
  | addSlot o ho =>
    have wider : ∀ i, r.InRange i → i < max (r.slots ++ [o]).length 1 := by
      intro i hi
      unfold InRange at hi
      rw [List.length_append]
      omega
    refine ⟨⟨wider _ hr.1.current, fun a ha => wider _ (hr.1.slot a ha), ?_, ?_⟩,
      fun a ha => wider _ (hr.2 a ha)⟩
    · change r.logs + 1 = (r.slots ++ [o]).length
      rw [hr.1.logs, List.length_append, List.length_singleton]
    · exact List.nodup_append.2 ⟨hr.1.slots, List.nodup_singleton o, by
        rintro a ha b hb rfl
        exact ho (List.mem_singleton.1 hb ▸ ha)⟩
  | dropSlot i target hi ht hg => exact ⟨hr.1.dropSlot hi ht, fun a ha => absurd ha (hg a)⟩

/-- **Changes keep every position in range.** -/
theorem Steps.indexed (h : Steps g r r') (hr : IndexedFor g r) : IndexedFor g r' := by
  induction h with
  | refl => exact hr
  | tail _ hstep ih => exact hstep.indexed ih

/-! ### A dropped slot -/

omit [DecidableEq κ] in
/-- An item of another slot stays in it. -/
theorem dropSlot_kept {a : α} {i : ℕ} (target : ℕ) (ha : a ∈ r.items) (h : r.slot a ≠ i) :
    (r.dropSlot i target).slots[(r.dropSlot i target).slot a]? = r.slots[r.slot a]? := by
  change (r.slots.eraseIdx i)[if a ∈ r.items then _ else r.slot a]? = _
  rw [if_pos ha, if_neg h]
  exact getElem?_eraseIdx_shift h

omit [DecidableEq κ] in
/-- A selected slot that stays is still the selected one. -/
theorem dropSlot_current {i : ℕ} (target : ℕ) (hi : i < r.slots.length)
    (hcur : r.InRange r.current) (h : r.current ≠ i) :
    (r.dropSlot i target).slots[(r.dropSlot i target).current]? = r.slots[r.current]? := by
  have hshift : shiftCurrent i (r.slots.length - 1) r.current = shift i r.current := by
    unfold InRange at hcur
    unfold shiftCurrent shift
    split_ifs <;> omega
  change (r.slots.eraseIdx i)[shiftCurrent i (r.slots.length - 1) r.current]? = _
  rw [hshift]
  exact getElem?_eraseIdx_shift h

/-! ### Nothing outlives its removal -/

/-- What is recent or has a key is an item; no item is foreign; a fixed item has its own key. -/
structure Closed (r : Registry α κ ω) : Prop where
  nodup : r.recent.Nodup
  recent : ∀ a ∈ r.recent, a ∈ r.items
  keys : ∀ k a, r.byKey k = some a → a ∈ r.items
  made : ∀ a ∈ r.items, a ∈ r.made
  own : ∀ a ∈ r.items, r.foreign a = false
  fixed : ∀ k a, r.byKey k = some a → r.movable a = false → r.keyOf a = some k

/-- `Closed`, with the items the environment vouches for. -/
def ClosedFor (g : Grant α) (r : Registry α κ ω) : Prop :=
  r.Closed ∧ ∀ a, g.handle a → a ∈ r.items

/-- A new item keeps the registry closed. -/
theorem Closed.insert (hr : r.Closed) {a : α} {key : Option κ} {m : Bool} (ha : a ∉ r.made) :
    (r.insert a key m).Closed := by
  have hne : ∀ b ∈ r.items, b ≠ a := fun b hb hba => ha (hba ▸ hr.made b hb)
  have hkey : ∀ k b, (r.insert a key m).byKey k = some b →
      b = a ∧ key = some k ∨ r.byKey k = some b := by
    intro k b h
    cases key with
    | none => exact .inr h
    | some k' =>
      change Function.update r.byKey k' (some a) k = some b at h
      by_cases hk : k = k'
      · subst hk
        rw [Function.update_self] at h
        exact .inl ⟨(Option.some.inj h).symm, rfl⟩
      · rw [Function.update_of_ne hk] at h
        exact .inr h
  refine ⟨hr.nodup, fun b hb => List.mem_cons_of_mem _ (hr.recent b hb), fun k b h => ?_,
    fun b hb => ?_, fun b hb => ?_, fun k b h hm => ?_⟩
  · rcases hkey k b h with ⟨rfl, _⟩ | h
    · exact List.mem_cons_self
    · exact List.mem_cons_of_mem _ (hr.keys k b h)
  · rcases List.mem_cons.1 hb with rfl | hb
    · exact List.mem_cons_self
    · exact List.mem_cons_of_mem _ (hr.made b hb)
  · change Function.update r.foreign a false b = false
    rcases List.mem_cons.1 hb with rfl | hb
    · exact Function.update_self ..
    · rw [Function.update_of_ne (hne b hb)]
      exact hr.own b hb
  · change Function.update r.keyOf a key b = some k
    rcases hkey k b h with ⟨rfl, hk⟩ | h
    · rw [Function.update_self, hk]
    · have hb := hne b (hr.keys k b h)
      rw [Function.update_of_ne hb]
      refine hr.fixed k b h ?_
      change Function.update r.movable a m b = false at hm
      rwa [Function.update_of_ne hb] at hm

omit [DecidableEq α] [DecidableEq κ] in
/-- Removing items with all their keys keeps the registry closed. -/
theorem Closed.remove (hr : r.Closed) {keep : α → Bool} {gone : κ → Bool}
    (hkeys : ∀ k a, r.byKey k = some a → a ∈ r.items → keep a = false → gone k = true) :
    (r.remove keep gone).Closed := by
  have hkey : ∀ k a, (r.remove keep gone).byKey k = some a → r.byKey k = some a ∧ keep a = true := by
    intro k a h
    change (if gone k = true then none else r.byKey k) = some a at h
    split_ifs at h with hg
    refine ⟨h, ?_⟩
    cases ha : keep a with
    | true => rfl
    | false => exact absurd (hkeys k a h (hr.keys k a h) ha) hg
  refine ⟨hr.nodup.filter _, fun a ha => ?_, fun k a h => ?_, fun a ha => ?_, fun a ha => ?_,
    fun k a h hm => hr.fixed k a (hkey k a h).1 hm⟩
  · obtain ⟨ha, hk⟩ := List.mem_filter.1 ha
    exact List.mem_filter.2 ⟨hr.recent a ha, hk⟩
  · obtain ⟨h, hk⟩ := hkey k a h
    exact List.mem_filter.2 ⟨hr.keys k a h, hk⟩
  · exact hr.made a (List.mem_of_mem_filter ha)
  · exact hr.own a (List.mem_of_mem_filter ha)

/-- One clean change keeps the registry closed. -/
theorem Step.closed (h : Step g r r') (hg : g.clean) (hr : ClosedFor g r) : ClosedFor g r' := by
  obtain ⟨hc, hh⟩ := hr
  cases h with
  | touch a ha =>
    have ha : a ∈ r.items := by
      rcases ha with ha | ha | ha
      · exact ha
      · exact hc.recent a ha
      · exact hh a ha
    refine ⟨⟨Recency.nodup_toFront hc.nodup, fun b hb => ?_, hc.keys, hc.made, hc.own, hc.fixed⟩, hh⟩
    rcases Recency.mem_toFront.1 hb with rfl | hb
    · exact ha
    · exact hc.recent b hb
  | select i _ => exact ⟨⟨hc.nodup, hc.recent, hc.keys, hc.made, hc.own, hc.fixed⟩, hh⟩
  | assign a i _ => exact ⟨⟨hc.nodup, hc.recent, hc.keys, hc.made, hc.own, hc.fixed⟩, hh⟩
  | lower p =>
    exact ⟨⟨hc.nodup.filter _, fun a ha => hc.recent a (List.mem_of_mem_filter ha), hc.keys,
      hc.made, hc.own, hc.fixed⟩, hh⟩
  | reorder l hl =>
    exact ⟨⟨hc.nodup, fun a ha => hl.mem_iff.2 (hc.recent a ha),
      fun k a h => hl.mem_iff.2 (hc.keys k a h), fun a ha => hc.made a (hl.mem_iff.1 ha),
      fun a ha => hc.own a (hl.mem_iff.1 ha), hc.fixed⟩, fun a ha => hl.mem_iff.2 (hh a ha)⟩
  | insert a key m ha => exact ⟨hc.insert ha, fun b hb => List.mem_cons_of_mem _ (hh b hb)⟩
  | insertForeign a key m ha =>
    have hne : ∀ b ∈ r.items, b ≠ a := fun b hb hba => ha (hba ▸ hc.made b hb)
    refine ⟨⟨hc.nodup, hc.recent, hc.keys, fun b hb => List.mem_cons_of_mem _ (hc.made b hb),
      fun b hb => ?_, fun k b h hm => ?_⟩, hh⟩
    · change Function.update r.foreign a true b = false
      rw [Function.update_of_ne (hne b hb)]
      exact hc.own b hb
    · have hb := hne b (hc.keys k b h)
      change Function.update r.movable a m b = false at hm
      change Function.update r.keyOf a key b = some k
      rw [Function.update_of_ne hb] at hm ⊢
      exact hc.fixed k b h hm
  | remove keep gone hk hkeys =>
    exact ⟨hc.remove (hkeys hg), fun a ha => List.mem_filter.2 ⟨hh a ha, hk a ha⟩⟩
  | rekey f hf =>
    exact ⟨⟨hc.nodup, hc.recent, hc.keys, hc.made, hc.own,
      fun k a h hm => (hf a hm).trans (hc.fixed k a h hm)⟩, hh⟩
  | bind k a hm ha =>
    have hkey : ∀ j b, Function.update r.byKey k (some a) j = some b →
        b = a ∨ r.byKey j = some b := by
      intro j b h
      by_cases hj : j = k
      · subst hj
        rw [Function.update_self] at h
        exact .inl (Option.some.inj h).symm
      · rw [Function.update_of_ne hj] at h
        exact .inr h
    refine ⟨⟨hc.nodup, hc.recent, fun j b h => ?_, hc.made, hc.own, fun j b h hb => ?_⟩, hh⟩
    · rcases hkey j b h with rfl | h
      · exact ha hg
      · exact hc.keys j b h
    · rcases hkey j b h with rfl | h
      · exact absurd (hm.symm.trans hb) (by decide)
      · exact hc.fixed j b h hb
  | addSlot o _ => exact ⟨⟨hc.nodup, hc.recent, hc.keys, hc.made, hc.own, hc.fixed⟩, hh⟩
  | dropSlot i target _ _ _ => exact ⟨⟨hc.nodup, hc.recent, hc.keys, hc.made, hc.own, hc.fixed⟩, hh⟩

/-- What a change lists was listed, or is new. -/
theorem Step.listed (h : Step g r r') {a : α} (ha : a ∈ r.made) :
    a ∈ r'.made ∧ (a ∈ r'.items → a ∈ r.items) := by
  cases h with
  | reorder l hl => exact ⟨ha, hl.mem_iff.1⟩
  | insert b key m hb =>
    refine ⟨List.mem_cons_of_mem _ ha, fun h => ?_⟩
    rcases List.mem_cons.1 h with rfl | h
    · exact absurd ha hb
    · exact h
  | insertForeign b key m hb => exact ⟨List.mem_cons_of_mem _ ha, id⟩
  | remove keep gone hk hkeys => exact ⟨ha, List.mem_of_mem_filter⟩
  | touch | select | assign | lower | rekey | bind | addSlot | dropSlot => exact ⟨ha, id⟩

/-- **An item that has gone does not come back.** -/
theorem Steps.gone (h : Steps g r r') {a : α} (ha : a ∈ r.made) (hgone : a ∉ r.items) :
    a ∉ r'.items := by
  suffices hs : a ∈ r'.made ∧ a ∉ r'.items from hs.2
  induction h with
  | refl => exact ⟨ha, hgone⟩
  | tail _ hstep ih => exact ⟨(hstep.listed ih.1).1, fun h => ih.2 ((hstep.listed ih.1).2 h)⟩

/-- An item made that is neither listed nor recent, and that the environment does not vouch for,
does not become recent. -/
theorem Steps.unrecent (h : Steps g r r') {a : α} (ha : a ∈ r.made) (hgone : a ∉ r.items)
    (hrecent : a ∉ r.recent) (hg : ¬g.handle a) : a ∉ r'.recent := by
  suffices hs : a ∈ r'.made ∧ a ∉ r'.items ∧ a ∉ r'.recent from hs.2.2
  induction h with
  | refl => exact ⟨ha, hgone, hrecent⟩
  | tail _ hstep ih =>
    obtain ⟨hmade, hitems, hrec⟩ := ih
    refine ⟨(hstep.listed hmade).1, fun h => hitems ((hstep.listed hmade).2 h), fun h => ?_⟩
    cases hstep with
    | touch b hb =>
      rcases Recency.mem_toFront.1 h with rfl | h
      · rcases hb with hb | hb | hb
        · exact hitems hb
        · exact hrec hb
        · exact hg hb
      · exact hrec h
    | lower | remove => exact hrec (List.mem_of_mem_filter h)
    | select | assign | reorder | insert | insertForeign | rekey | bind | addSlot | dropSlot =>
      exact hrec h

/-- Every item has been made, and none is foreign. -/
def Native (r : Registry α κ ω) : Prop := ∀ a ∈ r.items, a ∈ r.made ∧ r.foreign a = false

/-- One change brings no foreign item in. -/
theorem Step.native (h : Step g r r') (hr : r.Native) : r'.Native := by
  have hother {a b : α} (ha : a ∈ r.items) (hb : b ∉ r.made) : a ≠ b :=
    fun h => hb (h ▸ (hr a ha).1)
  intro a ha
  cases h with
  | reorder l hl => exact hr a (hl.mem_iff.1 ha)
  | insert b key m hb =>
    refine ⟨?_, ?_⟩
    · rcases List.mem_cons.1 ha with rfl | ha
      · exact List.mem_cons_self
      · exact List.mem_cons_of_mem _ (hr a ha).1
    · change Function.update r.foreign b false a = false
      rcases List.mem_cons.1 ha with rfl | ha
      · exact Function.update_self ..
      · rw [Function.update_of_ne (hother ha hb)]
        exact (hr a ha).2
  | insertForeign b key m hb =>
    refine ⟨List.mem_cons_of_mem _ (hr a ha).1, ?_⟩
    change Function.update r.foreign b true a = false
    rw [Function.update_of_ne (hother ha hb)]
    exact (hr a ha).2
  | remove keep gone _ _ => exact hr a (List.mem_of_mem_filter ha)
  | touch | select | assign | lower | rekey | bind | addSlot | dropSlot => exact hr a ha

/-- **No change brings a foreign item in.** -/
theorem Steps.native (h : Steps g r r') (hr : r.Native) : r'.Native := by
  induction h with
  | refl => exact hr
  | tail _ hstep ih => exact hstep.native ih

/-- No item is listed twice, and every item listed has been made. -/
def Distinct (r : Registry α κ ω) : Prop := r.items.Nodup ∧ ∀ a ∈ r.items, a ∈ r.made

/-- Only a new item is ever added to the list. -/
theorem Step.distinct (h : Step g r r') (hr : r.Distinct) : r'.Distinct := by
  obtain ⟨hn, hm⟩ := hr
  cases h with
  | reorder l hl => exact ⟨hl.nodup_iff.2 hn, fun a ha => hm a (hl.mem_iff.1 ha)⟩
  | insert b key m hb =>
    refine ⟨List.nodup_cons.2 ⟨fun hmem => hb (hm b hmem), hn⟩, fun a ha => ?_⟩
    rcases List.mem_cons.1 ha with rfl | ha
    · exact List.mem_cons_self
    · exact List.mem_cons_of_mem _ (hm a ha)
  | insertForeign b key m hb => exact ⟨hn, fun a ha => List.mem_cons_of_mem _ (hm a ha)⟩
  | remove keep gone _ _ => exact ⟨hn.filter _, fun a ha => hm a (List.mem_of_mem_filter ha)⟩
  | touch | select | assign | lower | rekey | bind | addSlot | dropSlot => exact ⟨hn, hm⟩

theorem Steps.distinct (h : Steps g r r') (hr : r.Distinct) : r'.Distinct := by
  induction h with
  | refl => exact hr
  | tail _ hstep ih => exact hstep.distinct ih

/-- **Clean changes keep the registry closed.** -/
theorem Steps.closed (h : Steps g r r') (hg : g.clean) (hr : ClosedFor g r) : ClosedFor g r' := by
  induction h with
  | refl => exact hr
  | tail _ hstep ih => exact hstep.closed hg ih

end Registry
