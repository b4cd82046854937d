import Mathlib.Tactic.Common
import Mathlib.Order.Lattice

/-!
# Bringing an interval into another

An interval of integers is put inside a target by replacing it, by moving it, and by cutting it.

* `Span` with `Span.Inside` and `Span.Meets`; `ahead` and `behind`: how far an interval sticks out
  of a target;
* `slide` moves it, the start taking precedence over the end; `cut` shortens it on both sides;
* `Adjust`, `fit`: another interval is tried first, then the rest;
* `fit_eq_self`, `inside_fit_iff`: what is inside stays, and when the result is inside;
* `len_fit`: the result has points, and no more of them than the interval.
-/

namespace Nudge

/-- The interval of length `len` from `pos` on. -/
@[ext] structure Span where
  pos : ℤ
  len : ℤ
  deriving DecidableEq

namespace Span

/-- The end, which is outside. -/
def stop (s : Span) : ℤ := s.pos + s.len

/-- Every point of `s` is in `t`. -/
def Inside (s t : Span) : Prop := t.pos ≤ s.pos ∧ s.stop ≤ t.stop

/-- Some point of `s` is in `t`, when both have points. -/
def Meets (s t : Span) : Prop := s.pos < t.stop ∧ t.pos < s.stop

instance (s t : Span) : Decidable (s.Inside t) := inferInstanceAs (Decidable (_ ∧ _))

instance (s t : Span) : Decidable (s.Meets t) := inferInstanceAs (Decidable (_ ∧ _))

/-- The interval moved by `x`. -/
def move (s : Span) (x : ℤ) : Span := ⟨s.pos + x, s.len⟩

end Span

variable (t s : Span)

/-- How far `s` sticks out in front of `t`. -/
def ahead : ℤ := t.pos - s.pos

/-- How far `s` sticks out behind `t`. -/
def behind : ℤ := s.stop - t.stop

variable {t s}

theorem inside_iff : s.Inside t ↔ ahead t s ≤ 0 ∧ behind t s ≤ 0 := by
  unfold Span.Inside ahead behind
  omega

theorem not_inside_iff : ¬ s.Inside t ↔ 0 < ahead t s ∨ 0 < behind t s := by
  rw [inside_iff]
  omega

/-! ### Moving -/

variable (t s)

/-- Move `s` into `t`; the start of one that is too long is put at the start of `t`. -/
def slide : Span :=
  if 0 < ahead t s then s.move (ahead t s)
  else if 0 < behind t s then s.move (-min (behind t s) (-ahead t s))
  else s

@[simp] theorem len_slide : (slide t s).len = s.len := by
  unfold slide
  split_ifs <;> rfl

variable {t s}

theorem slide_of_inside (h : s.Inside t) : slide t s = s := by
  rw [inside_iff] at h
  rw [slide, if_neg (by omega), if_neg (by omega)]

/-- Where an interval that was outside comes to start. -/
theorem pos_slide (h : ¬ s.Inside t) :
    (slide t s).pos = t.pos ∨ t.pos ≤ (slide t s).pos ∧ (slide t s).stop = t.stop := by
  rw [not_inside_iff] at h
  unfold slide
  split_ifs with hahead hbehind
  · refine .inl ?_
    show s.pos + (t.pos - s.pos) = t.pos
    omega
  · simp only [Span.move, Span.stop, ahead, behind] at *
    omega
  · omega

/-- Moving is enough for an interval that is not too long. -/
theorem inside_slide_iff (h : ¬ s.Inside t) : (slide t s).Inside t ↔ s.len ≤ t.len := by
  have hlen := len_slide t s
  have hpos := pos_slide h
  simp only [Span.Inside, Span.stop] at *
  omega

/-! ### Cutting -/

variable (t s)

/-- Cut off the front, unless all of `s` is in front of `t`. -/
def cutFront : Span :=
  if 0 < ahead t s ∧ ahead t s < s.len then ⟨s.pos + ahead t s, s.len - ahead t s⟩ else s

/-- Cut off what `off` says of the end, unless this is all of `s`. -/
def cutBack (off : ℤ) : Span := if 0 < off ∧ off < s.len then ⟨s.pos, s.len - off⟩ else s

/-- Cut `s` on both sides. -/
def cut : Span := cutBack (cutFront t s) (behind t s)

variable {t s}

theorem pos_cutFront : (cutFront t s).pos =
    if 0 < ahead t s ∧ ahead t s < s.len then s.pos + ahead t s else s.pos := by
  unfold cutFront
  split_ifs <;> rfl

theorem len_cutFront : (cutFront t s).len =
    if 0 < ahead t s ∧ ahead t s < s.len then s.len - ahead t s else s.len := by
  unfold cutFront
  split_ifs <;> rfl

theorem pos_cutBack (off : ℤ) : (cutBack s off).pos = s.pos := by
  unfold cutBack
  split_ifs <;> rfl

theorem len_cutBack (off : ℤ) :
    (cutBack s off).len = if 0 < off ∧ off < s.len then s.len - off else s.len := by
  unfold cutBack
  split_ifs <;> rfl

/-- Where the cut interval starts, and how long it is. -/
theorem cut_spec : (cut t s).pos = (cutFront t s).pos ∧ (cut t s).len =
    if 0 < behind t s ∧ behind t s < (cutFront t s).len then (cutFront t s).len - behind t s
    else (cutFront t s).len := ⟨pos_cutBack _, len_cutBack _⟩

theorem cut_of_inside (h : s.Inside t) : cut t s = s := by
  rw [inside_iff] at h
  have hfront : cutFront t s = s := if_neg (by omega)
  rw [cut, hfront]
  exact if_neg (by omega)

/-- Cutting is enough for an interval that is partly inside. -/
theorem inside_cut_iff (hs : 0 < s.len) (ht : 0 < t.len) :
    (cut t s).Inside t ↔ s.Meets t := by
  obtain ⟨hpos, hlen⟩ := cut_spec (t := t) (s := s)
  rw [pos_cutFront] at hpos
  rw [len_cutFront] at hlen
  simp only [Span.Inside, Span.Meets, Span.stop, ahead, behind] at *
  split_ifs at * <;> omega

theorem len_cut_pos (hs : 0 < s.len) : 0 < (cut t s).len := by
  rw [cut_spec.2, len_cutFront]
  split_ifs <;> omega

theorem len_cut_le : (cut t s).len ≤ s.len := by
  rw [cut_spec.2, len_cutFront]
  split_ifs <;> omega

/-! ### All of it -/

/-- What may be done to an interval. -/
structure Adjust where
  flip : Bool
  slide : Bool
  resize : Bool
  deriving DecidableEq

/-- Put `s` inside `t`: `other` in its place if that is inside, else move, then cut. -/
def fit (a : Adjust) (t s other : Span) : Span :=
  if s.Inside t then s
  else if a.flip ∧ other.Inside t then other
  else
    let s₁ := if a.slide then slide t s else s
    if a.resize then cut t s₁ else s₁

variable {a : Adjust} {other : Span}

theorem fit_eq_self (h : s.Inside t) : fit a t s other = s := if_pos h

/-- What is left when neither the interval nor the other one is inside. -/
theorem fit_of_not (h : ¬ s.Inside t) (ho : ¬ (a.flip = true ∧ other.Inside t)) :
    fit a t s other =
      if a.resize then cut t (if a.slide then slide t s else s)
      else if a.slide then slide t s else s := by
  rw [fit, if_neg h, if_neg ho]

/-- An interval that was moved is inside the target after a cut. -/
theorem inside_cut_slide (hs : 0 < s.len) (ht : 0 < t.len) (h : ¬ s.Inside t) :
    (cut t (slide t s)).Inside t := by
  by_cases hin : (slide t s).Inside t
  · rwa [cut_of_inside hin]
  · rw [inside_cut_iff (by rwa [len_slide]) ht]
    have hpos := pos_slide h
    have hlen := len_slide t s
    rw [inside_slide_iff h] at hin
    simp only [Span.Meets, Span.stop] at *
    omega

/-- **When the result is inside.** -/
theorem inside_fit_iff (hs : 0 < s.len) (ht : 0 < t.len) :
    (fit a t s other).Inside t ↔
      s.Inside t ∨ (a.flip = true ∧ other.Inside t) ∨
        (a.slide = true ∧ (s.len ≤ t.len ∨ a.resize = true)) ∨ (a.resize = true ∧ s.Meets t) := by
  by_cases h : s.Inside t
  · rw [fit_eq_self h]
    simp [h]
  · by_cases ho : a.flip = true ∧ other.Inside t
    · rw [fit, if_neg h, if_pos ho]
      simp [ho]
    · rw [fit_of_not h ho]
      simp only [h, ho, false_or]
      cases hslide : a.slide <;> cases hresize : a.resize <;>
        simp only [reduceIte, Bool.false_eq_true, false_and, true_and, or_false, false_or, or_true,
          true_or, iff_true, iff_false]
      · exact h
      · exact inside_cut_iff hs ht
      · exact inside_slide_iff h
      · exact inside_cut_slide hs ht h

/-- The result has points, and no more of them. -/
theorem len_fit (hs : 0 < s.len) (hother : other.len = s.len) :
    0 < (fit a t s other).len ∧ (fit a t s other).len ≤ s.len := by
  unfold fit
  dsimp only
  split_ifs
  · exact ⟨hs, le_rfl⟩
  · exact ⟨hother ▸ hs, hother.le⟩
  · have hlen : 0 < (slide t s).len := by rwa [len_slide]
    exact ⟨len_cut_pos hlen, len_cut_le.trans (len_slide t s).le⟩
  · exact ⟨len_cut_pos hs, len_cut_le⟩
  · rw [len_slide]
    exact ⟨hs, le_rfl⟩
  · exact ⟨hs, le_rfl⟩

end Nudge
