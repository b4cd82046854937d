import Mathlib.Tactic.Common
import Mathlib.Data.List.Basic

/-!
# Pairing of presses and releases

A log of presses and releases of keys of any type, the newest entry first; each entry says
whether the client saw it.

* `Mark`, `lastSeen`: one entry, and whether the latest press of a key was seen;
* `Paired`: every release in the log was seen exactly when the latest press of its key
  before it was;
* `paired_iff`: the same, read off every split of the log;
* `Tracks`: a table of keys that agrees with the log on a set of keys of interest, with the
  rules for pushing an entry.
-/

namespace Pairing

variable {κ : Type*} [DecidableEq κ]

/-- One press (`down`) or release of a key, and whether the client saw it. -/
structure Mark (κ : Type*) where
  key : κ
  down : Bool
  seen : Bool
  deriving DecidableEq

/-- Whether the latest press of `k` was seen; `false` when there is none. -/
def lastSeen (k : κ) : List (Mark κ) → Bool
  | [] => false
  | m :: ms => if m.key = k ∧ m.down = true then m.seen else lastSeen k ms

@[simp] theorem lastSeen_nil (k : κ) : lastSeen k [] = false := rfl

@[simp] theorem lastSeen_down_self (k : κ) (b : Bool) (ms : List (Mark κ)) :
    lastSeen k (⟨k, true, b⟩ :: ms) = b := by
  simp [lastSeen]

@[simp] theorem lastSeen_up (k j : κ) (b : Bool) (ms : List (Mark κ)) :
    lastSeen k (⟨j, false, b⟩ :: ms) = lastSeen k ms := by
  simp [lastSeen]

theorem lastSeen_of_ne {k j : κ} (h : j ≠ k) (d b : Bool) (ms : List (Mark κ)) :
    lastSeen k (⟨j, d, b⟩ :: ms) = lastSeen k ms := by
  simp [lastSeen, h]

/-- Every release was seen exactly when the latest press of its key was. -/
def Paired : List (Mark κ) → Prop
  | [] => True
  | m :: ms => (m.down = false → m.seen = lastSeen m.key ms) ∧ Paired ms

instance decidablePaired : ∀ ms : List (Mark κ), Decidable (Paired ms)
  | [] => .isTrue trivial
  | m :: ms =>
      have := decidablePaired ms
      inferInstanceAs (Decidable ((m.down = false → m.seen = lastSeen m.key ms) ∧ Paired ms))

@[simp] theorem paired_nil : Paired ([] : List (Mark κ)) := trivial

@[simp] theorem paired_down (k : κ) (b : Bool) (ms : List (Mark κ)) :
    Paired (⟨k, true, b⟩ :: ms) ↔ Paired ms := by
  simp [Paired]

@[simp] theorem paired_up (k : κ) (b : Bool) (ms : List (Mark κ)) :
    Paired (⟨k, false, b⟩ :: ms) ↔ b = lastSeen k ms ∧ Paired ms := by
  simp [Paired]

/-- A log is paired exactly when each release in it answers the latest press before it. -/
theorem paired_iff {ms : List (Mark κ)} :
    Paired ms ↔ ∀ newer older k b, ms = newer ++ ⟨k, false, b⟩ :: older →
      b = lastSeen k older := by
  induction ms with
  | nil => simp
  | cons m ms ih =>
    constructor
    · rintro ⟨hm, hms⟩ newer older k b h
      cases newer with
      | nil =>
        obtain ⟨rfl, rfl⟩ := List.cons.inj h
        exact hm rfl
      | cons n newer => exact ih.1 hms newer older k b (List.cons.inj h).2
    · intro h
      refine ⟨fun hd => ?_, ih.2 fun newer older k b hms => ?_⟩
      · obtain ⟨k, d, b⟩ := m
        obtain rfl : d = false := hd
        exact h [] ms k b rfl
      · exact h (m :: newer) older k b (by rw [hms, List.cons_append])

/-! ### Tables that follow the log -/

/-- `table` says of each key of `on` whether its latest press was seen. -/
def Tracks (on table : κ → Prop) (ms : List (Mark κ)) : Prop :=
  ∀ k, on k → (table k ↔ lastSeen k ms = true)

variable {on on' table table' : κ → Prop} {ms : List (Mark κ)} {k : κ} {b : Bool}

/-- Pushing a press of `k` keeps the table right when only the entry of `k` moves, to `b`. -/
theorem Tracks.down (h : Tracks on table ms) (hk : table' k ↔ b = true)
    (hon : ∀ j, j ≠ k → on' j → on j) (hne : ∀ j, j ≠ k → (table' j ↔ table j)) :
    Tracks on' table' (⟨k, true, b⟩ :: ms) := by
  intro j hj
  by_cases hjk : j = k
  · subst hjk
    rw [hk, lastSeen_down_self]
  · rw [hne j hjk, lastSeen_of_ne (Ne.symm hjk), h j (hon j hjk hj)]

/-- Pushing a release of `k` keeps the table right on the keys other than `k`. -/
theorem Tracks.up (h : Tracks on table ms) (hon : ∀ j, on' j → j ≠ k ∧ on j)
    (hne : ∀ j, j ≠ k → (table' j ↔ table j)) :
    Tracks on' table' (⟨k, false, b⟩ :: ms) := by
  intro j hj
  obtain ⟨hjk, hon⟩ := hon j hj
  rw [hne j hjk, lastSeen_up, h j hon]

end Pairing
