import Mathlib.Tactic.Common
import Rwl.Core.TagCount

/-!
# Tags and the bits of a mask

Tags are bits of a `u32`. The loader takes any `u32` for their number, and `tag_mask` shifts by it.

* `LuaValue.Accepted`, `LuaValue.Asks`: the value is used; it asks for `n` tags;
* `tag_mask_toNat`, `view_single`, `stepShift_lt`: what holds up to 31 tags;
* `Sound`, `tags_sound_iff`: all of it holds exactly for a whole number up to 31, with at most 32
  names for the bar;
* `tag_mask_eq`: there the mask is the one of `Config`.
-/

namespace Compositor

/-- The loader uses the value, whatever the default is. -/
def LuaValue.Accepted (v : LuaValue) : Prop := ∀ d d', lua_u32 v d = lua_u32 v d'

/-- The value is the number `n`. -/
def LuaValue.Asks (n : ℕ) : LuaValue → Prop
  | .Integer m => m = n
  | .Number f => f = .fin n
  | .other => False

theorem LuaValue.accepted_integer_iff (m : ℤ) :
    (LuaValue.Integer m).Accepted ↔ 0 ≤ m ∧ m < 2 ^ 32 := by
  constructor
  · intro h
    by_contra hm
    have h01 := h 0 1
    unfold lua_u32 at h01
    dsimp only at h01
    rw [if_neg hm, if_neg hm] at h01
    exact absurd h01 (by decide)
  · intro hm d d'
    unfold lua_u32
    dsimp only
    rw [if_pos hm, if_pos hm]

theorem LuaValue.accepted_number (f : F64) : (LuaValue.Number f).Accepted := fun _ _ => rfl

/-- A whole number that fits is read as it is. -/
theorem lua_u32_of_asks {v : LuaValue} {n : ℕ} (h : v.Asks n) (hn : n < 2 ^ 32) (d : UInt32) :
    (lua_u32 v d).toNat = n := by
  cases v with
  | Integer m =>
    obtain rfl : m = n := h
    unfold lua_u32
    dsimp only
    rw [if_pos (by omega), Int.toNat_natCast, UInt32.toNat_ofNat_of_lt' hn]
  | Number f =>
    obtain rfl : f = .fin n := h
    unfold lua_u32 F64.toU32
    dsimp only
    have htrunc : truncZero (n : ℚ) = n := truncZero_intCast n
    have hclamp : clampZ (n : ℤ) 0 (2 ^ 32 - 1) = n := by
      unfold clampZ
      split_ifs <;> omega
    rw [htrunc, hclamp, Int.toNat_natCast, UInt32.toNat_ofNat_of_lt' hn]
  | other => exact h.elim

namespace tags

/-! ### Up to 31 tags -/

theorem toNat_one_shiftLeft {k : UInt32} (h : k.toNat < 32) :
    (1 <<< k : UInt32).toNat = 2 ^ k.toNat := by
  have hpow : 2 ^ k.toNat < 2 ^ 32 := Nat.pow_lt_pow_right (by decide) h
  rw [UInt32.toNat_shiftLeft, Nat.mod_eq_of_lt h]
  show 1 <<< k.toNat % 2 ^ 32 = 2 ^ k.toNat
  rw [Nat.one_shiftLeft, Nat.mod_eq_of_lt hpow]

/-- The mask has one bit for each tag. -/
theorem tag_mask_toNat {count : UInt32} (h : count.toNat < 32) :
    (tag_mask count).toNat = 2 ^ count.toNat - 1 := by
  have hle : (1 : UInt32) ≤ 1 <<< count := by
    rw [UInt32.le_iff_toNat_le, toNat_one_shiftLeft h]
    exact Nat.one_le_two_pow
  unfold tag_mask
  rw [UInt32.toNat_sub_of_le _ _ hle, toNat_one_shiftLeft h]
  rfl

/-- The mask is the one the rest of the compositor works with. -/
theorem tag_mask_eq {cfg : Config} {count : UInt32} (hcount : cfg.tag_count = count.toNat)
    (h : count.toNat < 32) : (tag_mask count).toNat = cfg.tag_mask := by
  rw [tag_mask_toNat h, Config.tag_mask, hcount]

/-- Each tag can be viewed. -/
theorem view_single {count : UInt32} (h : count.toNat < 32) {i : ℕ} (hi : i < count.toNat)
    (current : UInt32) : view count current (1 <<< UInt32.ofNat i) = 1 <<< UInt32.ofNat i := by
  have hsmall : i < UInt32.size := by
    show i < 2 ^ 32
    omega
  have hval : (UInt32.ofNat i).toNat = i := UInt32.toNat_ofNat_of_lt' hsmall
  have hbit : (1 <<< UInt32.ofNat i : UInt32).toNat = 2 ^ i := by
    rw [toNat_one_shiftLeft (by omega), hval]
  have hcut : 1 <<< UInt32.ofNat i &&& tag_mask count = 1 <<< UInt32.ofNat i := by
    rw [← UInt32.toNat_inj, UInt32.toNat_and, hbit, tag_mask_toNat h,
      Nat.and_two_pow_sub_one_eq_mod,
      Nat.mod_eq_of_lt (Nat.pow_lt_pow_right (by decide) hi)]
  unfold view
  dsimp only
  rw [hcut]
  split_ifs with hsame
  · rcases hsame with hzero | hcurrent
    · have hpos : 0 < 2 ^ i := Nat.two_pow_pos i
      rw [← UInt32.toNat_inj, hbit] at hzero
      exact absurd hzero (by rw [UInt32.toNat_zero]; omega)
    · exact hcurrent.symm
  · rfl

/-- The shifts of `next_occupied_tag` stay below the number of tags. -/
theorem stepShift_lt {count current : UInt32} (h : count.toNat < 32) (dir : I32) {step : ℕ}
    (hstep : step ∈ steps count) :
    0 ≤ stepShift count current dir step ∧ stepShift count current dir step < 32 := by
  have hcount : countI32 count = count.toNat := by
    refine I32.wrap_val ⟨?_, ?_⟩ <;> omega
  have hpos : 0 < countI32 count := by
    unfold steps at hstep
    rw [List.mem_map] at hstep
    obtain ⟨k, hk, -⟩ := hstep
    have := List.mem_range.1 hk
    omega
  unfold stepShift
  dsimp only
  have hlow := Int.emod_nonneg
    ((I32.wrap (Nat.log2 current.toNat)).add (.wrap (dir.1 * step))).1 (ne_of_gt hpos)
  have hhigh := Int.emod_lt_of_pos
    ((I32.wrap (Nat.log2 current.toNat)).add (.wrap (dir.1 * step))).1 hpos
  exact ⟨hlow, by omega⟩

/-! ### Every configuration -/

/-- The arithmetic of tags is sound for the values `number` and `names` of the `tags` table. -/
structure Sound (number : LuaValue) (names : Option (List (Option String))) : Prop where
  /-- There are as many tags as the value asks for. -/
  asked : number.Accepted → number.Asks (tag_count number).toNat
  mask : (tag_mask (tag_count number)).toNat = 2 ^ (tag_count number).toNat - 1
  /-- No shift is by 32 or more. -/
  mask_shift : (tag_count number).toNat < 32
  next_shift : ∀ (current : UInt32) (dir : I32), ∀ step ∈ steps (tag_count number),
    0 ≤ stepShift (tag_count number) current dir step ∧
      stepShift (tag_count number) current dir step < 32
  name_shift : ∀ i ∈ draw_bar_shifts (bar_tags names).length, i < 32
  bind_shift : ∀ i ∈ default_bind_shifts, i < 32
  /-- Every tag can be viewed. -/
  viewable : ∀ i < (tag_count number).toNat, ∀ current,
    view (tag_count number) current (1 <<< UInt32.ofNat i) = 1 <<< UInt32.ofNat i

/-- A value the loader does not use leaves nine tags. -/
theorem tag_count_of_not_accepted {v : LuaValue} (h : ¬v.Accepted) : tag_count v = 9 := by
  unfold tag_count lua_u32
  cases v with
  | Integer m =>
    rw [LuaValue.accepted_integer_iff] at h
    dsimp only
    rw [if_neg h]
  | Number f => exact absurd (LuaValue.accepted_number f) h
  | other => rfl

/-- The bar has at most 32 tags exactly when at most 32 names are strings. -/
theorem length_bar_tags_le_iff (names : Option (List (Option String))) :
    (bar_tags names).length ≤ 32 ↔ ∀ l, names = some l → (l.filterMap id).length ≤ 32 := by
  unfold bar_tags
  rcases names with _ | l
  · refine ⟨fun _ l hl => ?_, fun _ => by decide⟩
    cases hl
  · rcases l with _ | ⟨a, l⟩
    · refine ⟨fun _ l hl => ?_, fun _ => by decide⟩
      cases hl
      decide
    · change (if ((a :: l).filterMap id).isEmpty then _ else (a :: l).filterMap id).length ≤ 32 ↔ _
      split_ifs with hempty
      · refine ⟨fun _ l' hl => ?_, fun _ => by decide⟩
        cases hl
        rw [List.isEmpty_iff.1 hempty]
        decide
      · refine ⟨fun h l' hl => ?_, fun h => h _ rfl⟩
        cases hl
        exact h

/-- **The arithmetic of tags is sound exactly when `tags.number`, where the loader uses it, is a
whole number up to 31, and at most 32 of `tags.names` are strings.** -/
theorem tags_sound_iff (number : LuaValue) (names : Option (List (Option String))) :
    Sound number names ↔
      (number.Accepted → ∃ n ≤ 31, number.Asks n) ∧
        ∀ l, names = some l → (l.filterMap id).length ≤ 32 := by
  rw [← length_bar_tags_le_iff]
  constructor
  · intro h
    refine ⟨fun hacc => ⟨_, Nat.le_of_lt_succ h.mask_shift, h.asked hacc⟩, ?_⟩
    by_contra hlong
    have := h.name_shift 32 (List.mem_range.2 (by omega))
    omega
  · rintro ⟨hnumber, hnames⟩
    have hcount : (tag_count number).toNat < 32 := by
      by_cases hacc : number.Accepted
      · obtain ⟨n, hn, hasks⟩ := hnumber hacc
        unfold tag_count
        rw [lua_u32_of_asks hasks (by omega)]
        omega
      · rw [tag_count_of_not_accepted hacc]
        decide
    refine ⟨fun hacc => ?_, tag_mask_toNat hcount, hcount, fun current dir step hstep =>
      stepShift_lt hcount dir hstep, fun i hi => ?_, by decide, fun i hi current =>
        view_single hcount hi current⟩
    · obtain ⟨n, hn, hasks⟩ := hnumber hacc
      unfold tag_count
      rwa [lua_u32_of_asks hasks (by omega)]
    · have := List.mem_range.1 hi
      omega

/-- With 32 tags the mask is empty, and no tag can be viewed. -/
theorem not_tags_sound : ¬∀ number names, Sound number names := by
  intro h
  have hshift := (h (.Integer 32) none).mask_shift
  exact absurd hshift (by decide)

example : tag_mask (tag_count (.Integer 32)) = 0 ∧
    ∀ i < 32, view (tag_count (.Integer 32)) 1 (1 <<< UInt32.ofNat i) = 1 := by
  decide

end tags

end Compositor
