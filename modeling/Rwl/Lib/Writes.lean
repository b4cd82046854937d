import Mathlib.Data.List.Perm.Subperm
import Mathlib.Data.List.Range
import Mathlib.Data.List.Nodup

/-!
# Filling a list by writes

A list of a known length is filled by writes at computed positions.

* `writeAll`: the writes in order;
* `strided`: the writes of a list's elements at a fixed distance from each other;
* `getElem?_writeAll`: with every position written once, a position holds what was written there.
-/

namespace Writes

variable {α : Type*}

/-- Perform the writes of `ws` on `l`, in order. -/
def writeAll (l : List α) (ws : List (ℕ × α)) : List α :=
  ws.foldl (fun l w => l.set w.1 w.2) l

/-- Write the elements of `xs` at `start`, `start + step`, and so on. -/
def strided (start step : ℕ) (xs : List α) : List (ℕ × α) :=
  xs.mapIdx fun k x => (start + step * k, x)

@[simp] theorem length_writeAll (l : List α) (ws : List (ℕ × α)) :
    (writeAll l ws).length = l.length := by
  induction ws generalizing l with
  | nil => rfl
  | cons w ws ih =>
    have hrest := ih (l := l.set w.1 w.2)
    rw [List.length_set] at hrest
    exact hrest

theorem getElem?_writeAll_of_notMem {l : List α} {ws : List (ℕ × α)} {k : ℕ}
    (h : k ∉ ws.map Prod.fst) : (writeAll l ws)[k]? = l[k]? := by
  induction ws generalizing l with
  | nil => rfl
  | cons w ws ih =>
    simp only [List.map_cons, List.mem_cons, not_or] at h
    have hrest := ih (l := l.set w.1 w.2) h.2
    rw [List.getElem?_set_ne (Ne.symm h.1)] at hrest
    exact hrest

/-- A position written once holds what was written there. -/
theorem getElem?_writeAll {l : List α} {ws : List (ℕ × α)} {k : ℕ} {x : α}
    (hnd : (ws.map Prod.fst).Nodup) (hw : (k, x) ∈ ws) (hk : k < l.length) :
    (writeAll l ws)[k]? = some x := by
  induction ws generalizing l with
  | nil => cases hw
  | cons w ws ih =>
    rw [List.map_cons, List.nodup_cons] at hnd
    obtain ⟨hfresh, hnd⟩ := hnd
    rcases List.mem_cons.mp hw with rfl | hw
    · have hrest := getElem?_writeAll_of_notMem (l := l.set k x) hfresh
      rw [List.getElem?_set_self hk] at hrest
      exact hrest
    · exact ih (l := l.set w.1 w.2) hnd hw (by rw [List.length_set]; exact hk)

@[simp] theorem keys_strided (start step : ℕ) (xs : List α) :
    (strided start step xs).map Prod.fst = (List.range xs.length).map (start + step * ·) := by
  apply List.ext_getElem
  · simp [strided]
  · intro k h₁ h₂
    simp [strided]

theorem mem_strided (start step : ℕ) {k : ℕ} {xs : List α} {x : α} (h : xs[k]? = some x) :
    (start + step * k, x) ∈ strided start step xs := by
  rw [strided, List.mem_mapIdx]
  obtain ⟨hk, hx⟩ := List.getElem?_eq_some_iff.mp h
  exact ⟨k, hk, by rw [hx]⟩

/-- Distinct positions below `n`, as many as `n`, are all of them. -/
theorem perm_range_of_nodup {ks : List ℕ} {n : ℕ} (hnd : ks.Nodup) (hlt : ∀ k ∈ ks, k < n)
    (hlen : ks.length = n) : ks.Perm (List.range n) := by
  have hsub : ks ⊆ List.range n := fun k hk => List.mem_range.mpr (hlt k hk)
  apply (List.subperm_of_subset hnd hsub).perm_of_length_le
  rw [List.length_range, hlen]

end Writes
