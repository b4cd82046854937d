import Mathlib.Tactic.Common
import Mathlib.Data.Nat.Bitwise
import Rwl.Core.Window

/-!
# Monitors

* `Monitor`, `MonitorMemory`, with `new`, `snapshot`, `restore`;
* the two-slot tag set (`tags`, `view`, `toggle_view`, `view_prev`) and the two-slot layout
  (`layout_idx`, `set_layout`);
* the per-tag layouts of `pertag_layouts.rs`;
* `next_occupied_tag`.

A two-slot array indexed by a selector in `{0, 1}` is a function of `Bool`; `sel ^ 1` is `!sel`.
-/

namespace Compositor

/-- The per-output state. -/
structure Monitor where
  output : OutputId
  tagset : Bool → ℕ
  sel_tags : Bool
  lt : Bool → ℕ
  sel_lt : Bool
  mfact : ℚ
  nmaster : ℤ
  m : Rect
  w : Rect
  tag_lt_override : List (Option ℕ)
  col_facts : List ℚ
  scroll_col : ℕ

/-- The layout state remembered while an output is unplugged. -/
structure MonitorMemory where
  mfact : ℚ
  nmaster : ℤ
  lt : Bool → ℕ
  sel_lt : Bool
  tag_lt_override : List (Option ℕ)

/-- `matching_rule`: the first named prefix of the output's name, else the last unnamed rule,
else the first rule. -/
def matching_rule (cfg : Config) (name : String) : MonitorRule :=
  let named := cfg.monitor_rules.find? fun r => r.name.any fun pre => name.startsWith pre
  let unnamed := cfg.monitor_rules.reverse.find? fun r => r.name.isNone
  ((named.or unnamed).or cfg.monitor_rules.head?).getD MonitorRule.default

/-- What a monitor shows: its view, its layout and the layouts pinned to its tags. -/
structure MonitorView where
  tagset : Bool → ℕ
  sel_tags : Bool
  lt : Bool → ℕ
  sel_lt : Bool
  tag_lt_override : List (Option ℕ)

namespace Monitor

/-- `Monitor::new`. -/
def new (cfg : Config) (output : OutputId) (name : String) : Monitor :=
  let rule := matching_rule cfg name
  let lt_idx := min rule.layout_idx (cfg.layouts.length - 1)
  { output := output
    tagset := fun _ => 1
    sel_tags := false
    lt := fun _ => lt_idx
    sel_lt := false
    mfact := rule.mfact
    nmaster := rule.nmaster
    m := Rect.zero
    w := Rect.zero
    tag_lt_override := List.replicate cfg.tag_count none
    col_facts := []
    scroll_col := 0 }

/-- `Monitor::snapshot`. -/
def snapshot (mon : Monitor) : MonitorMemory where
  mfact := mon.mfact
  nmaster := mon.nmaster
  lt := mon.lt
  sel_lt := mon.sel_lt
  tag_lt_override := mon.tag_lt_override

/-- `Monitor::restore`. -/
def restore (cfg : Config) (mon : Monitor) (mem : MonitorMemory) : Monitor :=
  let clamp (i : ℕ) : ℕ := min i (cfg.layouts.length - 1)
  { mon with
    mfact := mem.mfact
    nmaster := mem.nmaster
    lt := fun b => clamp (mem.lt b)
    sel_lt := mem.sel_lt
    tag_lt_override := (List.range cfg.tag_count).map fun i =>
      ((mem.tag_lt_override[i]?).join).map clamp }

/-- The active tag mask. -/
def tags (mon : Monitor) : ℕ := mon.tagset mon.sel_tags

/-- The index of the active layout. -/
def layout_idx (mon : Monitor) : ℕ := mon.lt mon.sel_lt

/-- The active layout kind. -/
def layout_kind (cfg : Config) (mon : Monitor) : LayoutKind :=
  ((cfg.layouts[mon.layout_idx]?).map LayoutDef.kind).getD default_layout_kind

/-- The active layout symbol. -/
def layout_symbol (cfg : Config) (mon : Monitor) : String :=
  ((cfg.layouts[mon.layout_idx]?).map LayoutDef.symbol).getD "><>"

/-- Swap the layout slots and store `idx` in the new one. -/
def pushLayout (mon : Monitor) (idx : ℕ) : Monitor :=
  { mon with sel_lt := !mon.sel_lt, lt := Function.update mon.lt (!mon.sel_lt) idx }

/-- Swap the tag slots and store `t` in the new one. -/
def pushTags (mon : Monitor) (t : ℕ) : Monitor :=
  { mon with sel_tags := !mon.sel_tags, tagset := Function.update mon.tagset (!mon.sel_tags) t }

end Monitor

/-! ### Per-tag layouts -/

namespace pertag_layouts

/-- `is_power_of_two`: the mask names a single tag. -/
def is_single (mask : ℕ) : Bool := decide (mask ≠ 0 ∧ mask &&& (mask - 1) = 0)

/-- `trailing_zeros` of a non-zero mask, and 32 for zero. -/
def trailing_zeros (mask : ℕ) : ℕ :=
  ((List.range 32).find? fun i => mask.testBit i).getD 32

/-- `set_monitor_layout`. -/
def set_monitor_layout (cfg : Config) (mon : Monitor) (idx : ℕ) : Monitor :=
  if idx < cfg.layouts.length ∧ mon.layout_idx ≠ idx then mon.pushLayout idx else mon

/-- The manual pin of a tag. -/
def pin (mon : Monitor) (tag_idx : ℕ) : Option ℕ := (mon.tag_lt_override[tag_idx]?).join

/-- `apply`: the pin of the single viewed tag, else its fixed rule. -/
def apply (cfg : Config) (mon : Monitor) (tagmask : ℕ) : Monitor :=
  if is_single tagmask = false then mon
  else
    let tag_idx := trailing_zeros tagmask
    match pin mon tag_idx with
    | some idx => set_monitor_layout cfg mon idx
    | none =>
      match (cfg.pertag_layouts[tag_idx]?).join with
      | some (.Fixed idx) => set_monitor_layout cfg mon idx
      | some (.ByCount _) | none => mon

/-- `reset`: drop the pin and apply the rule. -/
def reset (cfg : Config) (mon : Monitor) (tagmask : ℕ) : Monitor :=
  if is_single tagmask = false then mon
  else
    let tag_idx := trailing_zeros tagmask
    apply cfg { mon with tag_lt_override := mon.tag_lt_override.set tag_idx none } tagmask

/-- `apply_dynamic`: the count-based rule of an unpinned single tag. -/
def apply_dynamic (cfg : Config) (mon : Monitor) (tagmask count : ℕ) : Monitor :=
  if is_single tagmask = false then mon
  else
    let tag_idx := trailing_zeros tagmask
    if (pin mon tag_idx).isSome then mon
    else
      match (cfg.pertag_layouts[tag_idx]?).join with
      | some (.ByCount list) =>
        match list.getLast? with
        | none => mon
        | some fallback =>
          set_monitor_layout cfg mon ((list[count - 1]?).getD fallback)
      | some (.Fixed _) | none => mon

end pertag_layouts

/-! ### Views and layouts -/

namespace Monitor

/-- The index that asks `set_layout` to toggle: `usize::MAX`. -/
def toggleLayout : ℕ := 2 ^ 64 - 1

/-- Record the layout chosen by hand as the pin of the single viewed tag. -/
def pinLayout (mon : Monitor) : Monitor :=
  if pertag_layouts.is_single mon.tags then
    { mon with tag_lt_override :=
        mon.tag_lt_override.set (pertag_layouts.trailing_zeros mon.tags) (some mon.layout_idx) }
  else mon

/-- `Monitor::set_layout`. -/
def set_layout (cfg : Config) (mon : Monitor) (idx : ℕ) : Monitor :=
  if idx = toggleLayout then pinLayout { mon with sel_lt := !mon.sel_lt }
  else if idx < cfg.layouts.length ∧ mon.layout_idx ≠ idx then pinLayout (mon.pushLayout idx)
  else mon

/-- `Monitor::view`. -/
def view (cfg : Config) (mon : Monitor) (tagmask : ℕ) : Monitor :=
  let new_tags := tagmask &&& cfg.tag_mask
  if new_tags = 0 ∨ new_tags = mon.tags then mon
  else pertag_layouts.apply cfg (mon.pushTags new_tags) new_tags

/-- `Monitor::toggle_view`. -/
def toggle_view (cfg : Config) (mon : Monitor) (tagmask : ℕ) : Monitor :=
  let new := (mon.tags ^^^ tagmask) &&& cfg.tag_mask
  if new ≠ 0 then mon.pushTags new else mon

/-- `Monitor::view_prev`. -/
def view_prev (cfg : Config) (mon : Monitor) : Monitor :=
  let mon' := { mon with sel_tags := !mon.sel_tags }
  pertag_layouts.apply cfg mon' mon'.tags

/-- `Monitor::next_occupied_tag`. -/
def next_occupied_tag (cfg : Config) (mon : Monitor) (occupied : ℕ) (dir : ℤ) : Option ℕ :=
  if mon.tags = 0 then none
  else
    let pos : ℤ := Nat.log2 mon.tags
    let count : ℤ := cfg.tag_count
    ((List.range cfg.tag_count).map fun step =>
      1 <<< ((pos + dir * (step + 1 : ℕ)).emod count).toNat).find? fun mask =>
        occupied &&& mask != 0

/-! ### What the operations keep -/

/-- Where a monitor is, which no view or layout operation touches. -/
def SameOutput (mon mon' : Monitor) : Prop :=
  mon'.output = mon.output ∧ mon'.m = mon.m ∧ mon'.w = mon.w

/-- The view data of a monitor. -/
def viewed (mon : Monitor) : MonitorView where
  tagset := mon.tagset
  sel_tags := mon.sel_tags
  lt := mon.lt
  sel_lt := mon.sel_lt
  tag_lt_override := mon.tag_lt_override

/-- The monitor with other view data. -/
def withView (mon : Monitor) (v : MonitorView) : Monitor :=
  { mon with
    tagset := v.tagset
    sel_tags := v.sel_tags
    lt := v.lt
    sel_lt := v.sel_lt
    tag_lt_override := v.tag_lt_override }

/-- No more than the view data changes. -/
def Reviewed (mon mon' : Monitor) : Prop := mon' = mon.withView mon'.viewed

theorem Reviewed.refl (mon : Monitor) : Reviewed mon mon := rfl

/-- What does not depend on the view data stays. -/
theorem Reviewed.keeps {mon mon' : Monitor} (h : Reviewed mon mon') {β : Type*} (p : Monitor → β)
    (hp : ∀ m v, p (m.withView v) = p m) : p mon' = p mon := by
  rw [h]
  exact hp _ _

theorem Reviewed.sameOutput {mon mon' : Monitor} (h : Reviewed mon mon') : SameOutput mon mon' :=
  ⟨h.keeps output fun _ _ => rfl, h.keeps m fun _ _ => rfl, h.keeps w fun _ _ => rfl⟩

theorem reviewed_set_monitor_layout (cfg : Config) (mon : Monitor) (idx : ℕ) :
    Reviewed mon (pertag_layouts.set_monitor_layout cfg mon idx) := by
  unfold pertag_layouts.set_monitor_layout
  split_ifs <;> rfl

theorem tags_set_monitor_layout (cfg : Config) (mon : Monitor) (idx : ℕ) :
    (pertag_layouts.set_monitor_layout cfg mon idx).tags = mon.tags := by
  unfold pertag_layouts.set_monitor_layout
  split_ifs <;> rfl

theorem reviewed_apply (cfg : Config) (mon : Monitor) (mask : ℕ) :
    Reviewed mon (pertag_layouts.apply cfg mon mask) := by
  unfold pertag_layouts.apply
  dsimp only
  split_ifs
  · exact .refl mon
  · split
    · exact reviewed_set_monitor_layout ..
    · split
      · exact reviewed_set_monitor_layout ..
      · exact .refl mon
      · exact .refl mon

theorem tags_apply (cfg : Config) (mon : Monitor) (mask : ℕ) :
    (pertag_layouts.apply cfg mon mask).tags = mon.tags := by
  unfold pertag_layouts.apply
  dsimp only
  split_ifs
  · rfl
  · split
    · exact tags_set_monitor_layout ..
    · split
      · exact tags_set_monitor_layout ..
      · rfl
      · rfl

theorem reviewed_reset (cfg : Config) (mon : Monitor) (mask : ℕ) :
    Reviewed mon (pertag_layouts.reset cfg mon mask) := by
  unfold pertag_layouts.reset
  dsimp only
  split_ifs
  · exact .refl mon
  · exact reviewed_apply cfg { mon with tag_lt_override := _ } mask

theorem reviewed_apply_dynamic (cfg : Config) (mon : Monitor) (mask count : ℕ) :
    Reviewed mon (pertag_layouts.apply_dynamic cfg mon mask count) := by
  unfold pertag_layouts.apply_dynamic
  dsimp only
  split_ifs
  · exact .refl mon
  · exact .refl mon
  · split
    · split
      · exact .refl mon
      · exact reviewed_set_monitor_layout ..
    · exact .refl mon
    · exact .refl mon

theorem tags_apply_dynamic (cfg : Config) (mon : Monitor) (mask count : ℕ) :
    (pertag_layouts.apply_dynamic cfg mon mask count).tags = mon.tags := by
  unfold pertag_layouts.apply_dynamic
  dsimp only
  split_ifs
  · rfl
  · rfl
  · split
    · split
      · rfl
      · exact tags_set_monitor_layout ..
    · rfl
    · rfl

theorem reviewed_pinLayout (mon : Monitor) : Reviewed mon mon.pinLayout := by
  unfold pinLayout
  split_ifs <;> rfl

theorem reviewed_set_layout (cfg : Config) (mon : Monitor) (idx : ℕ) :
    Reviewed mon (mon.set_layout cfg idx) := by
  unfold set_layout
  split_ifs
  · exact reviewed_pinLayout { mon with sel_lt := _ }
  · exact reviewed_pinLayout (mon.pushLayout idx)
  · exact .refl mon

theorem reviewed_view (cfg : Config) (mon : Monitor) (mask : ℕ) :
    Reviewed mon (mon.view cfg mask) := by
  unfold view
  dsimp only
  split_ifs
  · exact .refl mon
  · exact reviewed_apply cfg (mon.pushTags _) _

theorem reviewed_toggle_view (cfg : Config) (mon : Monitor) (mask : ℕ) :
    Reviewed mon (mon.toggle_view cfg mask) := by
  unfold toggle_view
  dsimp only
  split_ifs <;> rfl

theorem reviewed_view_prev (cfg : Config) (mon : Monitor) :
    Reviewed mon (mon.view_prev cfg) :=
  reviewed_apply cfg { mon with sel_tags := _ } _

end Monitor

end Compositor
