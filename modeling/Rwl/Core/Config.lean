import Mathlib.Tactic.Common
import Mathlib.Data.List.Infix
import Rwl.Core.Geometry

/-!
# The configuration

The values `config::get()` hands to the modelled code: bindings, rules, layouts, monitor rules
and the settings that decide a branch.

* `Action`, `KeyBind`, `ButtonBind`: what a key or a button can be bound to;
* `Rule`, `LayoutKind`, `LayoutDef`, `MonitorRule`, `PertagRule`;
* `Config`, `Config.tag_mask`;
* the binding lookups `match_keybind`, `match_buttonbind` and `mod_tap_bind`.

Masks are natural numbers used through `&&&`, `|||` and `^^^` only.
-/

namespace Compositor

/-! ### Actions -/

/-- A scratchpad key with the command that starts its client. -/
structure ScratchCmd where
  key : Char
  cmd : List String
  deriving DecidableEq

/-- What a binding can do. -/
inductive Action
  | Spawn (cmd : List String)
  | FocusStack (dir : ℤ)
  | IncNmaster (delta : ℤ)
  | SetMfact (delta : ℚ)
  | Zoom
  | ViewPrev
  | ViewNextOccTag (dir : ℤ)
  | KillClient
  | SetLayout (idx : ℕ)
  | CycleLayout
  | ResetLayout
  | ToggleFloating
  | ToggleFullscreen
  | TogglePassthrough
  | ToggleGaps
  | View (mask : ℕ)
  | ViewTagSpawn (mask : ℕ)
  | ToggleView (mask : ℕ)
  | Tag (mask : ℕ)
  | ToggleTag (mask : ℕ)
  | FocusMon (dir : ℤ)
  | TagMon (dir : ℤ)
  | Move
  | Resize
  | ToggleScratch (cmd : ScratchCmd)
  | FocusOrToggleScratch (cmd : ScratchCmd)
  | FocusOrToggleMatchingScratch (cmd : ScratchCmd)
  | Chvt (vt : ℕ)
  | ReloadConfig
  | Quit
  | CallLua (name : String)
  | ToggleBar
  | BarPrompt
  | ToggleOverview
  | ToggleOverviewAll
  | OverviewNav (keysym : ℕ)
  | TogglePip
  | MovePip
  | Lock
  | LockConsume
  | Consumed
  | SendKeys (syms : List ℕ)
  deriving DecidableEq

/-- `action_should_repeat`. -/
def action_should_repeat : Action → Bool
  | .Spawn _ | .SetMfact _ | .KillClient => true
  | _ => false

/-! ### Settings -/

/-- A key binding. -/
structure KeyBind where
  mods : ℕ
  keysym : ℕ
  action : Action
  app_id : Option String
  deriving DecidableEq

/-- A pointer-button binding. -/
structure ButtonBind where
  mods : ℕ
  button : ℕ
  action : Action
  app_id : Option String
  deriving DecidableEq

/-- The scratchpad key of a window that is none: the NUL character. -/
def noScratch : Char := Char.ofNat 0

/-- A window rule. -/
structure Rule where
  id : Option String
  title : Option String
  tags : ℕ
  switch_to_tag : Bool
  is_floating : Bool
  monitor : ℤ
  scratch_key : Char
  no_swallow : Bool
  deriving DecidableEq

/-- The layout algorithms. -/
inductive LayoutKind
  | Tile
  | Monocle
  | Col
  | Scroll
  | Dwindle
  | Bstack
  | CenteredMaster
  | Lua
  deriving DecidableEq

/-- The layout of an index that is no longer valid. -/
def default_layout_kind : LayoutKind := .Tile

/-- One entry of the layout list. -/
structure LayoutDef where
  symbol : String
  kind : LayoutKind
  deriving DecidableEq

/-- The output transforms. -/
inductive Transform
  | Normal
  | _90
  | _180
  | _270
  | Flipped
  | Flipped90
  | Flipped180
  | Flipped270
  deriving DecidableEq

/-- The settings of the outputs whose name starts with `name`. -/
structure MonitorRule where
  name : Option String
  mfact : ℚ
  nmaster : ℤ
  scale : ℚ
  layout_idx : ℕ
  transform : Transform
  x : ℤ
  y : ℤ
  deriving DecidableEq

/-- `MonitorRule::default()`. -/
def MonitorRule.default : MonitorRule where
  name := none
  mfact := 55 / 100
  nmaster := 1
  scale := 1
  layout_idx := 0
  transform := .Normal
  x := -1
  y := -1

/-- The layout of a tag: one index, or one for each number of tiled windows. -/
inductive PertagRule
  | Fixed (idx : ℕ)
  | ByCount (list : List ℕ)
  deriving DecidableEq

/-- The settings the modelled code reads. -/
structure Config where
  mouse_focus : Bool
  follow : Bool
  border_px : ℕ
  gaps_px : ℕ
  smart_gaps : Bool
  fade_out_ms : ℕ
  tag_transition : Bool
  tag_transition_ms : ℕ
  auto_back_empty_tag : Bool
  warp_cursor : Bool
  tag_count : ℕ
  pertag_layouts : List (Option PertagRule)
  rules : List Rule
  layouts : List LayoutDef
  monitor_rules : List MonitorRule
  repeat_rate : ℤ
  repeat_delay : ℤ
  touchpad_scroll_factor : ℚ
  mouse_scroll_factor : ℚ
  keys : List KeyBind
  buttons : List ButtonBind
  auto_spawn : List (Option (List String))
  hint_keys : List Char
  overview_padding : ℤ
  overview_animation_ms : ℕ
  swallow_enabled : Bool
  swallow_terminals : List String

/-- `tag_mask`: one bit for each tag. -/
def Config.tag_mask (cfg : Config) : ℕ := 2 ^ cfg.tag_count - 1

/-- `str::contains`. -/
def contains (haystack needle : String) : Bool :=
  decide (needle.toList <:+: haystack.toList)

/-! ### Binding lookup -/

/-- `MODKEY`, the bit of the logo key. -/
def MODKEY : ℕ := 1 <<< 6

/-- `MOD_TAP_KEYSYM`, the keysym of the bindings fired by tapping the mod key. -/
def MOD_TAP_KEYSYM : ℕ := 0

/-- The modifiers `ModifiersState` reports. -/
structure ModifiersState where
  logo : Bool
  ctrl : Bool
  shift : Bool
  alt : Bool
  deriving DecidableEq, Inhabited

/-- `mods_to_bits`. -/
def mods_to_bits (mods : ModifiersState) : ℕ :=
  (if mods.logo then MODKEY else 0) ||| (if mods.ctrl then 1 <<< 2 else 0) |||
    (if mods.shift then 1 <<< 0 else 0) ||| (if mods.alt then 1 <<< 3 else 0)

/-- `clean_mask`: the lock modifiers have no bit to strip. -/
def clean_mask (mask : ℕ) : ℕ := mask

/-- The `app_id` condition of a binding, in the pass for app-specific bindings or the other. -/
def app_matches (app_specific : Bool) (app_id focused : Option String) : Bool :=
  match app_id, focused with
  | some id, some f => app_specific && contains f id
  | none, _ => !app_specific
  | some _, none => false

/-- One pass of `match_keybind`: the modified keysym first, then the base one. -/
def match_keybind_pass (keys : List KeyBind) (modified base mod_bits : ℕ)
    (focused_appid : Option String) (extra : KeyBind → Bool) (app_specific : Bool) :
    Option KeyBind :=
  let ok (b : KeyBind) (sym : ℕ) : Bool :=
    decide (b.keysym = sym) && decide (clean_mask b.mods = clean_mask mod_bits) && extra b &&
      app_matches app_specific b.app_id focused_appid
  (keys.find? (ok · modified)).or (if base ≠ modified then keys.find? (ok · base) else none)

/-- `match_keybind`: app-specific bindings win over the others. -/
def match_keybind (keys : List KeyBind) (modified base mod_bits : ℕ)
    (focused_appid : Option String) (extra : KeyBind → Bool) : Option KeyBind :=
  (match_keybind_pass keys modified base mod_bits focused_appid extra true).or
    (match_keybind_pass keys modified base mod_bits focused_appid extra false)

/-- The button binding `process_pointer_button` looks up. -/
def match_buttonbind (buttons : List ButtonBind) (button mods : ℕ)
    (focused_appid : Option String) : Option ButtonBind :=
  let find (app_specific : Bool) := buttons.find? fun b =>
    decide (b.button = button) && decide (clean_mask b.mods = clean_mask mods) &&
      app_matches app_specific b.app_id focused_appid
  (find true).or (find false)

/-- The binding `update_mod_tap` fires for the modifiers `peak`. -/
def mod_tap_bind (keys : List KeyBind) (peak : ℕ) : Option KeyBind :=
  keys.find? fun b =>
    decide (b.keysym = MOD_TAP_KEYSYM) && decide (clean_mask b.mods = clean_mask peak)

end Compositor
