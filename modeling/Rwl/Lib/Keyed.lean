import Mathlib.Tactic.Common
import Mathlib.Data.List.AList

/-!
# Maps from keys to values

Association lists with distinct keys, all values of one type.

* `Map`: the type;
* `mapVals`: change every value;
* `modify`: change the value of one key, if it has one.
-/

namespace Keyed

/-- A finite map. -/
abbrev Map (κ ν : Type*) := AList fun _ : κ => ν

variable {κ ν : Type*}

/-- Change every value. -/
def mapVals (f : ν → ν) (m : Map κ ν) : Map κ ν where
  entries := m.entries.map fun e => ⟨e.1, f e.2⟩
  nodupKeys := by
    have hkeys : (m.entries.map fun e => (⟨e.1, f e.2⟩ : (_ : κ) × ν)).keys = m.entries.keys := by
      simp [List.keys]
    rw [List.NodupKeys, hkeys]
    exact m.nodupKeys

@[simp] theorem keys_mapVals (f : ν → ν) (m : Map κ ν) : (mapVals f m).keys = m.keys := by
  simp [mapVals, AList.keys, List.keys]

variable [DecidableEq κ]

@[simp] theorem lookup_mapVals (f : ν → ν) (m : Map κ ν) (k : κ) :
    (mapVals f m).lookup k = (m.lookup k).map f := by
  have h := List.dlookup_map₂ (l := m.entries) (f := fun _ : κ => f) k
  exact h

/-- Change the value of `k`. -/
def modify (k : κ) (f : ν → ν) (m : Map κ ν) : Map κ ν :=
  match m.lookup k with
  | some v => m.insert k (f v)
  | none => m

@[simp] theorem lookup_modify_self (k : κ) (f : ν → ν) (m : Map κ ν) :
    (modify k f m).lookup k = (m.lookup k).map f := by
  unfold modify
  cases h : m.lookup k with
  | none => simpa using h
  | some v => simp

theorem lookup_modify_ne {k k' : κ} (f : ν → ν) (m : Map κ ν) (h : k' ≠ k) :
    (modify k f m).lookup k' = m.lookup k' := by
  unfold modify
  split
  · exact AList.lookup_insert_ne h
  · rfl

end Keyed
