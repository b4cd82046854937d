import Mathlib.Tactic.Common
import Rwl.Core.Actions
import Rwl.Core.Rules
import Rwl.Lib.Guards

/-!
# The configuration lock

What each function on the way to and from an action does with the lock of the configuration:
`config::get` takes a read guard, `reload` the write guard, and a guard lives until its scope
ends.  Functions are grouped by source file, callees first.  A function that never comes near the
configuration is left out, except where it is called under a guard.

* `Guard`, `Fn`, `Ask`, `Moment`: the guards, the functions that call each other in a circle, and
  the two branches the data decides;
* one `Code` for each function;
* `program`, `event_loop`: the whole thread.
-/

namespace Compositor

open Guarding Guarding.Code

namespace ConfigLock

/-- A guard of the configuration: a read guard, the one `apply_rules` keeps, or the write guard. -/
inductive Guard
  | read
  | rules
  | write
  deriving DecidableEq

/-- The functions that are called by name. -/
inductive Fn
  | dispatch (a : Action)
  | drain
  | configure_child
  deriving DecidableEq

/-- The branches that depend on the data. -/
inductive Ask
  /-- Whether a tag shown by `view_tag_spawn` starts a program. -/
  | auto_spawn (mask : ℕ)
  /-- What `apply_rules` does for a window. -/
  | apply_rules
  /-- The action that a binding, a timer or a command stands for. -/
  | action
  /-- A tag shown by a hook or by the overview. -/
  | view
  /-- A layout set by a hook. -/
  | set_layout
  deriving DecidableEq

/-- What decides the branches at one moment. -/
structure Moment where
  state : Rwl
  turn : Bool
  window : WinId
  action : Action
  arg : ℕ

/-- The control flow of a function of the compositor. -/
abbrev Code := Guarding.Code Fn Ask Guard

/-- A read guard that is dropped before anything is called. -/
def peek : Code := hold .read skip

/-! ### `config`, `wallpaper` -/

namespace config

def tag_mask : Code := peek

end config

namespace hooks

def layout_index_by_name : Code := peek

def layout_name : Code := peek

/-- User code: of the `rwl` helpers, `set_layout` and `toggle_view` read the configuration. -/
def lua : Code := loop (pick [layout_index_by_name, config.tag_mask])

end hooks

namespace wallpaper

def set_override : Code := opt peek

def effective : Code := opt peek

def configured_paths : Code := peek

def preload_configured : Code := configured_paths

def on_reload : Code := preload_configured

end wallpaper

namespace config

/-- The file is read and run before the lock is taken. -/
def load_config : Code := opt hooks.lua

def reload : Code := seqs [load_config, opt (hold .write skip), wallpaper.on_reload]

end config

/-! ### `pertag_layouts`, `monitor` -/

namespace pertag_layouts

def set_monitor_layout : Code := peek

/-- A pinned layout, or the fixed one of the configuration. -/
def apply : Code := opt (alt set_monitor_layout (seqs [peek, opt set_monitor_layout]))

def reset : Code := opt apply

def apply_dynamic : Code := opt (seqs [peek, opt set_monitor_layout])

end pertag_layouts

namespace monitor

def layout_kind : Code := peek

def layout_symbol : Code := peek

def set_layout : Code := opt peek

def view : Code := seqs [config.tag_mask, opt pertag_layouts.apply]

def toggle_view : Code := config.tag_mask

def view_prev : Code := pertag_layouts.apply

def next_occupied_tag : Code := opt peek

def matching_rule : Code := peek

def matching_rule_for_output : Code := matching_rule

end monitor

/-! ### Effects -/

namespace gaps

def effective : Code := skip

end gaps

namespace fade

def advance_fades : Code := peek

end fade

namespace startup_zoom

def advance : Code := opt peek

end startup_zoom

namespace tag_transition

def advance_tag_transitions : Code := peek

def mark_slide_outs : Code := seqs [config.tag_mask, opt peek]

def start_tag_transition : Code := seqs [config.tag_mask, opt peek]

end tag_transition

/-! ### Firing hooks -/

namespace hooks

def refresh : Code := opt monitor.layout_kind

/-- A hook that is defined gets a snapshot and runs. -/
def fire : Code := opt (seqs [refresh, opt lua])

def window_open : Code := fire

def window_close : Code := fire

def focus : Code := fire

def tag_switch : Code := fire

def fullscreen : Code := fire

def monitor_layout : Code := fire

def lock : Code := fire

def config_error : Code := fire

def call : Code := fire

def window_rule : Code := fire

def layout_change : Code := opt (seqs [refresh, layout_name, layout_name, opt lua])

def lua_arrange : Code := opt (seqs [monitor.layout_symbol, lua, opt peek])

end hooks

/-! ### Layouts -/

namespace layout

def tile : Code := hold .read gaps.effective

def bstack : Code := hold .read gaps.effective

def centeredmaster : Code := hold .read gaps.effective

def col : Code := opt (hold .read gaps.effective)

def dwindle : Code := opt (hold .read gaps.effective)

def scroll : Code := opt (hold .read gaps.effective)

def arrange : Code :=
  opt (seqs [monitor.layout_kind,
    pick [tile, col, scroll, dwindle, bstack, centeredmaster, hooks.lua_arrange]])

end layout

/-! ### The status and the event stream -/

namespace ipc

def format_status : Code := seqs [config.tag_mask, loop monitor.layout_symbol]

def print_status : Code := format_status

end ipc

namespace event

def layout_name : Code := peek

def tag : Code := opt config.tag_mask

def layout : Code := opt (seqs [layout_name, layout_name])

end event

/-! ### `state` -/

namespace state

/-- Leaf of `calloop`: registers a timer. -/
def insert_source : Code := skip

/-- The guard is a temporary of the statement that registers the timer. -/
def handle_cursor_activity : Code := hold .read insert_source

def update_borders : Code := peek

def arrange : Code :=
  opt (seqs [opt pertag_layouts.apply_dynamic, monitor.layout_kind, layout.arrange,
    monitor.layout_kind])

def arrange_all : Code :=
  seqs [loop arrange, opt tag_transition.start_tag_transition, ipc.print_status]

/-- Nothing more while locked; the monitors are arranged when the focused window changed. -/
def focus_window : Code :=
  opt (seqs [update_borders,
    opt (seqs [ipc.print_status, opt hooks.focus,
      alt (seqs [arrange, opt arrange]) arrange_all])])

def tile_master_window : Code := opt monitor.layout_kind

def next_occ_tag : Code := opt monitor.next_occupied_tag

def xkb_params_from_cfg : Code := peek

def reapply_keyboard_config : Code := opt (seqs [xkb_params_from_cfg, peek])

end state

namespace warp

def warp_cursor_to_focused : Code := seqs [peek, opt state.handle_cursor_activity]

end warp

/-! ### `output`, `udev`: what a reload applies again -/

namespace udev

def apply_libinput_config : Code := skip

/-- All devices are configured under one guard. -/
def reapply_input_device_config : Code := opt (hold .read (loop apply_libinput_config))

def reapply_vrr : Code := opt (loop monitor.matching_rule_for_output)

end udev

namespace output

def reapply_monitor_rules : Code :=
  seqs [loop monitor.matching_rule_for_output, udev.reapply_vrr, hooks.monitor_layout]

end output

/-! ### `overview`, `pip`, `session`, `swallow` -/

namespace overview

def grid_dims : Code := peek

def assign_hints : Code := peek

def build_cells : Code := opt (seqs [assign_hints, grid_dims])

def toggle : Code := opt build_cells

def on_window_closed : Code := opt build_cells

def finish_close : Code :=
  opt (seqs [opt (ask .view), state.focus_window, warp.warp_cursor_to_focused])

def advance : Code := opt (seqs [peek, opt finish_close])

def progress : Code := peek

def overview_elements : Code := seqs [progress, peek]

end overview

namespace pip

def toggle : Code := opt peek

def pip_elements : Code := opt peek

end pip

namespace session

def lock : Code := opt hooks.lock

def feed_key : Code := skip

end session

namespace swallow

def is_terminal : Code := peek

def find_target : Code :=
  seqs [peek, opt (seqs [is_terminal, opt (seqs [peek, opt (loop is_terminal)])])]

def try_swallow : Code := find_target

end swallow

/-! ### `actions` -/

namespace actions

/-- `configure_child`: the environment of a child names the cursor theme. -/
def configure_child : Code := peek

def spawn (cmd : List String) : Code := if cmd = [] then skip else call .configure_child

def zoom : Code := opt (seqs [state.focus_window, state.arrange_all])

def focus_stack_step : Code := opt state.focus_window

def inc_nmaster : Code := state.arrange_all

def set_mfact : Code := state.arrange_all

def kill_focused : Code := opt peek

def toggle_focused_floating : Code := opt state.arrange_all

def toggle_focused_fullscreen : Code := opt (seqs [state.arrange_all, hooks.fullscreen])

/-- The slide to the tags just shown. -/
def slide : Code :=
  seqs [tag_transition.mark_slide_outs, state.arrange_all, tag_transition.start_tag_transition,
    state.focus_window]

/-- `Action::View`. -/
def view : Code := seqs [opt monitor.view, slide]

/-- `Action::ViewPrev`. -/
def view_prev : Code := seqs [opt monitor.view_prev, slide]

/-- `Action::ViewNextOccTag`. -/
def view_next_occ_tag : Code := seqs [state.next_occ_tag, opt view]

/-- The program of an empty tag is looked up in the condition of an `if let`. -/
def view_tag_spawn (mask : ℕ) : Code :=
  seqs [config.tag_mask, opt monitor.view, ask (.auto_spawn mask), slide]

/-- `Action::ToggleView`. -/
def toggle_view : Code :=
  seqs [opt config.tag_mask, opt monitor.toggle_view, state.arrange_all, state.focus_window]

/-- `Action::Tag`. -/
def tag : Code :=
  seqs [config.tag_mask,
    opt (seqs [opt (seqs [peek, opt monitor.view]), state.arrange_all, state.focus_window])]

/-- `Action::ToggleTag`. -/
def toggle_tag : Code := seqs [opt config.tag_mask, state.arrange_all]

def focus_mon : Code := opt (seqs [state.focus_window, state.arrange_all])

def tag_mon : Code := opt (seqs [peek, opt state.focus_window, state.arrange_all])

/-- `Action::SetLayout`. -/
def set_layout : Code := seqs [opt monitor.set_layout, state.arrange_all]

/-- `Action::CycleLayout`. -/
def cycle_layout : Code := seqs [peek, opt monitor.set_layout, state.arrange_all]

/-- `Action::ResetLayout`. -/
def reset_layout : Code := seqs [opt pertag_layouts.reset, state.arrange_all]

/-- A scratchpad that exists is shown or hidden. -/
def summon (cmd : ScratchCmd) : Code :=
  alt (seqs [state.focus_window, state.arrange_all, warp.warp_cursor_to_focused]) (spawn cmd.cmd)

def toggle_scratch (cmd : ScratchCmd) : Code := summon cmd

def focus_or_toggle_scratch (cmd : ScratchCmd) : Code := summon cmd

def focus_or_toggle_matching_scratch (cmd : ScratchCmd) : Code := summon cmd

/-- `Action::CallLua`. -/
def call_lua : Code := seqs [hooks.call, call .drain]

/-- `Action::ReloadConfig`. -/
def reload_config : Code :=
  seqs [config.reload, output.reapply_monitor_rules, state.reapply_keyboard_config,
    udev.reapply_input_device_config, loop pertag_layouts.apply, state.update_borders,
    state.arrange_all, opt hooks.config_error]

/-- The branch of `dispatch` for each action. -/
def perform : Action → Code
  | .Spawn cmd => spawn cmd
  | .FocusStack _ => focus_stack_step
  | .IncNmaster _ => inc_nmaster
  | .SetMfact _ => set_mfact
  | .Zoom => zoom
  | .ViewPrev => view_prev
  | .ViewNextOccTag _ => view_next_occ_tag
  | .KillClient => kill_focused
  | .SetLayout _ => set_layout
  | .CycleLayout => cycle_layout
  | .ResetLayout => reset_layout
  | .ToggleFloating => toggle_focused_floating
  | .ToggleFullscreen => toggle_focused_fullscreen
  | .View _ => view
  | .ViewTagSpawn mask => view_tag_spawn mask
  | .ToggleView _ => toggle_view
  | .Tag _ => tag
  | .ToggleTag _ => toggle_tag
  | .FocusMon _ => focus_mon
  | .TagMon _ => tag_mon
  | .ToggleScratch cmd => toggle_scratch cmd
  | .FocusOrToggleScratch cmd => focus_or_toggle_scratch cmd
  | .FocusOrToggleMatchingScratch cmd => focus_or_toggle_matching_scratch cmd
  | .CallLua _ => call_lua
  | .ReloadConfig => reload_config
  | .ToggleGaps | .ToggleBar => state.arrange_all
  | .ToggleOverview | .ToggleOverviewAll => overview.toggle
  | .TogglePip => pip.toggle
  | .Lock => session.lock
  | .TogglePassthrough | .Chvt _ | .Move | .Resize | .Quit | .BarPrompt | .OverviewNav _
  | .MovePip | .LockConsume | .Consumed | .SendKeys _ => skip

/-- What `dispatch` tells of the changes of tags and layout. -/
def notify_changes : Code :=
  seqs [opt hooks.tag_switch, opt event.tag, opt hooks.layout_change, opt event.layout]

/-- `dispatch`: a Lua function and typed keys are not followed by the hooks; nor is a close in
the overview. -/
def dispatch : Action → Code
  | .CallLua name => perform (.CallLua name)
  | .SendKeys syms => perform (.SendKeys syms)
  | .KillClient => opt (seqs [perform .KillClient, notify_changes])
  | a => seqs [perform a, notify_changes]

def focus_urgent : Code := opt (seqs [opt monitor.view, state.arrange_all, state.focus_window])

end actions

/-! ### `hooks`: the queue -/

namespace hooks

/-- One queued command. -/
def apply : Code :=
  pick [
    -- `Spawn`
    opt (Guarding.Code.call .configure_child),
    -- `View`
    seqs [config.tag_mask, opt (ask .view)],
    -- `SetTags`
    seqs [config.tag_mask, opt (seqs [state.arrange_all, state.focus_window])],
    -- `SetFloating`, `SetFullscreen`
    opt state.arrange_all,
    -- `Focus`
    opt state.focus_window,
    -- `SetLayout`
    ask .set_layout,
    -- `Dispatch`
    ask .action,
    -- `ToggleTags`
    seqs [config.tag_mask,
      opt (seqs [config.tag_mask, opt (seqs [state.arrange_all, state.focus_window])])],
    -- `MoveToMonitor`
    opt (seqs [state.arrange_all, state.focus_window]),
    -- `Warp`
    opt (seqs [state.focus_window, warp.warp_cursor_to_focused]),
    -- `SetWallpaper`
    wallpaper.set_override]

/-- Eight rounds at most, none inside another `drain`. -/
def drain : Code := opt (loop (loop apply))

end hooks

/-! ### `grab`, `input` -/

namespace grab

def start_move : Code := opt state.focus_window

def start_resize : Code := opt (seqs [opt monitor.layout_kind, state.focus_window])

def end_grab : Code := opt state.arrange_all

end grab

namespace input

def focused_app_id : Code := skip

def match_keybind : Code := skip

def led_state_changed : Code := skip

def focus_changed : Code := skip

/-- What `KeyboardHandle::input` calls: the filter, and the handlers of the seat. -/
def filter : Code :=
  seqs [pick [session.feed_key, seqs [focused_app_id, match_keybind]], opt led_state_changed,
    opt focus_changed]

def start_key_repeat : Code := peek

def update_mod_tap : Code := opt (seqs [peek, opt (ask .action)])

/-- The guard lives around the filter, and is dropped before the dispatch. -/
def process_key_event : Code :=
  opt (seqs [hold .read filter, opt (seqs [ask .action, opt start_key_repeat]), update_mod_tap])

/-- The timer of a held key. -/
def key_repeat_timer : Code := opt (ask .action)

/-- A button that is pressed. -/
def pressed : Code :=
  opt (seqs [opt state.focus_window, peek,
    pick [opt grab.start_move, opt grab.start_resize, ask .action]])

def process_pointer_button : Code :=
  opt (seqs [state.handle_cursor_activity, opt (alt pressed (opt grab.end_grab))])

end input

/-! ### The control socket -/

namespace server

/-- `view`, for one output. -/
def view : Code := seqs [config.tag_mask, opt (seqs [opt monitor.view,
  tag_transition.mark_slide_outs])]

/-- `toggleview`, for one output. -/
def toggleview : Code := seqs [opt config.tag_mask, opt monitor.toggle_view]

/-- `setlayout`, for one output. -/
def setlayout : Code := opt monitor.set_layout

/-- The commands that name an output. -/
def outputs : Code :=
  seqs [loop (pick [view, toggleview, setlayout]), state.arrange_all, opt state.focus_window,
    loop event.tag]

def cmd_dispatch : Code :=
  pick [ipc.format_status, outputs, ask .action, actions.focus_urgent, wallpaper.set_override]

/-- A subscription begins with the status. -/
def cmd_handle : Code := opt (alt ipc.format_status cmd_dispatch)

end server

/-! ### Windows come and go -/

namespace auto_back_empty_tag

def on_window_closed : Code :=
  opt (seqs [peek, opt (seqs [opt pertag_layouts.apply, actions.slide])])

end auto_back_empty_tag

namespace shell

/-- The first commit of a window. -/
def initial : Code :=
  seqs [ask .apply_rules, swallow.try_swallow, hooks.window_open, call .drain, state.arrange_all,
    state.focus_window]

/-- The first buffer of a window. -/
def mapped : Code := seqs [peek, opt warp.warp_cursor_to_focused, opt state.arrange_all]

/-- `commit`, of a window or of a layer surface. -/
def commit : Code :=
  alt (seqs [alt initial (opt state.arrange_all), opt mapped, opt ipc.print_status])
    (opt state.arrange)

def toplevel_destroyed : Code :=
  seqs [opt (seqs [opt auto_back_empty_tag.on_window_closed,
      opt (seqs [hooks.window_close, call .drain])]),
    state.tile_master_window, state.focus_window, state.arrange_all,
    opt warp.warp_cursor_to_focused, opt overview.on_window_closed]

end shell

/-! ### Frames -/

namespace render

def load_cursor_icon : Code := skip

/-- The image of a named cursor is loaded under the guard. -/
def named_cursor : Code := opt (hold .read load_cursor_icon)

/-- The elements of a frame: windows, borders, the overview, wallpaper and thumbnails. -/
def elements : Code :=
  seqs [opt peek, opt overview.overview_elements, opt peek, opt (seqs [peek, opt peek]),
    wallpaper.effective, opt (seqs [peek, pip.pip_elements])]

/-- The windows are arranged again after a transition. -/
def settle : Code := opt (seqs [state.arrange_all, state.focus_window])

def on_vblank : Code :=
  opt (seqs [named_cursor, fade.advance_fades, tag_transition.advance_tag_transitions,
    overview.advance, startup_zoom.advance, settle, settle, opt (seqs [elements, opt peek])])

/-- A frame of the nested backend. -/
def render_frame : Code :=
  opt (seqs [fade.advance_fades, tag_transition.advance_tag_transitions, settle, settle,
    overview.advance, named_cursor, opt elements])

end render

/-! ### The thread -/

/-- The guard of the condition lives through the body of the `if let`. -/
def auto_spawn (s : Rwl) (mask : ℕ) : Code :=
  let cfg := s.desk.cfg
  let mask := mask &&& cfg.tag_mask
  if s.desk.count_tiled mask = 0 then
    hold .read (match (cfg.auto_spawn[pertag_layouts.trailing_zeros mask]?).join with
      | some cmd => actions.spawn cmd
      | none => skip)
  else skip

/-- `apply_rules`: a window with a parent needs no rules; for the others `tag_mask` is read while
the guard of the rules is held. -/
def apply_rules (s : Rwl) (w : WinId) : Code :=
  match (s.desk.client w).toplevel_parent with
  | some _ => skip
  | none => seqs [hold .rules config.tag_mask, hooks.window_rule, swallow.find_target,
      opt (seqs [tag_transition.mark_slide_outs, monitor.view])]

/-- The code behind each branch that the data decides. -/
def answer : Ask → Moment → Code
  | .auto_spawn mask, m => auto_spawn m.state mask
  | .apply_rules, m => apply_rules m.state m.window
  | .action, m => call (.dispatch m.action)
  | .view, m => call (.dispatch (.View m.arg))
  | .set_layout, m => call (.dispatch (.SetLayout m.arg))

/-- The bodies of the functions called by name. -/
def body : Fn → Code
  | .dispatch a => actions.dispatch a
  | .drain => hooks.drain
  | .configure_child => actions.configure_child

/-- The compositor, as far as the lock is concerned. -/
def program : Program Fn Ask Guard Moment := ⟨body, answer, Moment.turn⟩

/-- What the event loop runs: keys, timers, buttons, commands, windows and frames, and the queue of
the hooks after each turn. -/
def event_loop : Code :=
  loop (seqs [loop (pick [input.process_key_event, input.key_repeat_timer,
    input.process_pointer_button, server.cmd_handle, shell.commit, shell.toplevel_destroyed,
    render.on_vblank, render.render_frame]), call .drain])

end ConfigLock

end Compositor
