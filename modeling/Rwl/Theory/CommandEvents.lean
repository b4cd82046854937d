import Mathlib.Tactic.Common
import Rwl.Theory.CommandWords

/-!
# Command lines and events

A line on the command socket moves the compositor as one event of the event loop does, or not at
all, and every event of the socket is what some line does.

* `OfSocket`: the events of the socket;
* `msg_step`: `rwl msg` takes at most one step;
* `Action.InRange`, `Sent`: the payloads that a line can carry;
* `step_msg`: a step of the socket is taken by some `rwl msg`;
* `socket_events`: both.
-/

namespace Compositor

namespace Rwl

/-! ### What a line does -/

/-- The events of the command socket. -/
def OfSocket : Event → Prop
  | .ipc a => ipcAction a = true
  | .ipc_outputs _ _ _ | .ipc_focusurgent | .ipc_resume => True
  | _ => False

/-- An action with a spelling goes through `dispatch`. -/
theorem ipcAction_of_spells {a : Action} {cmd : Text} {args : List Text}
    (hname : a.ipc_command = some cmd) (hspells : a.Spells args) : ipcAction a = true := by
  cases a <;> first | rfl | exact hspells.elim | cases hname

theorem ipcAction_of_ofArgs {args : List Text} {a : Action}
    (h : Command.ofArgs args = some (.action a)) : ipcAction a = true := by
  obtain ⟨words, hwords⟩ : ∃ words, Command.parse words = some (.action a) := by
    cases args with
    | nil => cases h
    | cons cmd args =>
      unfold Command.ofArgs at h
      dsimp only at h
      split_ifs at h
      obtain ⟨buf, -, hbuf⟩ := Option.bind_eq_some_iff.1 h
      cases hreq : cmd_handle buf with
      | command words => exact ⟨words, by rw [hreq] at hbuf; exact hbuf⟩
      | subscribe filter =>
        rw [hreq] at hbuf
        cases hbuf
      | watch filter =>
        rw [hreq] at hbuf
        cases hbuf
  cases words with
  | nil => cases hwords
  | cons cmd words =>
    obtain ⟨hname, hspells⟩ := Command.parse_action_iff.1 hwords
    exact ipcAction_of_spells hname hspells

theorem step_ipc {s : Rwl} {a : Action} (ha : ipcAction a = true) :
    step s (.ipc a) = s.dispatch a := if_pos ha

/-- An index past the last monitor changes no monitor. -/
theorem modifyMonitor_of_length_le {d : Desk} {idx : ℕ} (h : d.monitors.length ≤ idx)
    (f : Monitor → Monitor) : d.modifyMonitor idx f = d := by
  have hmod : d.monitors.modify idx f = d.monitors := by
    apply List.ext_getElem?
    intro j
    by_cases hj : idx = j
    · rw [← hj, List.getElem?_modify_eq, List.getElem?_eq_none h]
      rfl
    · exact List.getElem?_modify_ne f _ hj
  unfold Desk.modifyMonitor
  rw [hmod]

/-- A layout there is none of changes no monitor. -/
theorem set_layout_of_large {cfg : Config} {m : Monitor} {idx : ℕ} (hlt : Monitor.toggleLayout < idx)
    (hlen : cfg.layouts.length ≤ idx) : m.set_layout cfg idx = m := by
  unfold Monitor.set_layout
  rw [if_neg (by omega), if_neg (by omega)]

theorem modifyMonitor_id {d : Desk} {idx : ℕ} {f : Monitor → Monitor} (h : ∀ m, f m = m) :
    d.modifyMonitor idx f = d := by
  have hf : f = id := funext h
  unfold Desk.modifyMonitor
  rw [hf, List.modify_id]

/-- A value that is no number does to a monitor what some number does. -/
theorem exists_idle_value (cmd : IpcCmd) (d : Desk) :
    ∃ cmd' val, (cmd' = .setlayout ↔ cmd = .setlayout) ∧ ∀ idx, ipcApply cmd' val d idx = d := by
  cases cmd with
  | view => exact ⟨.view, 0, Iff.rfl, fun idx => if_pos (Nat.zero_and _)⟩
  | toggleview =>
    refine ⟨.view, 0, ?_, fun idx => if_pos (Nat.zero_and _)⟩
    constructor <;> rintro ⟨⟩
  | setlayout =>
    refine ⟨.setlayout, max (Monitor.toggleLayout + 1) d.cfg.layouts.length, Iff.rfl, fun idx => ?_⟩
    exact modifyMonitor_id fun m => set_layout_of_large (by omega) (by omega)

theorem foldl_of_idle {d : Desk} {f : Desk → ℕ → Desk} (h : ∀ idx, f d idx = d) (l : List ℕ) :
    l.foldl f d = d := by
  induction l with
  | nil => rfl
  | cons idx l ih => rw [List.foldl_cons, h, ih]

/-- The body of `view`, `toggleview` and `setlayout`, from what it does to each monitor. -/
def runOutputs (s : Rwl) (cmd : IpcCmd) (indices : List ℕ) (f : Desk → ℕ → Desk) : Rwl :=
  let s₁ := (s.modifyDesk fun d => indices.foldl f d).arrange_all
  let s₂ := if s.desk.sel_mon ∈ indices then s₁.focus_top else s₁
  if cmd = .setlayout then s₂ else indices.foldl (fun s idx => s.emit (.event (.tag idx))) s₂

theorem outputsCommand_eq (s : Rwl) (cmd : IpcCmd) (output val : Text) :
    s.outputsCommand cmd output val =
      s.runOutputs cmd (namedOutputs s.desk output) (outputCommand cmd val) := rfl

theorem ipc_command_eq (s : Rwl) (cmd : IpcCmd) (which : Option ℕ) (val : ℕ) :
    s.ipc_command cmd which val = s.runOutputs cmd (ipcOutputs s.desk which) (ipcApply cmd val) :=
  rfl

/-- Commands that do the same to the desk are one. -/
theorem runOutputs_congr {s : Rwl} {cmd cmd' : IpcCmd} {l : List ℕ} {f f' : Desk → ℕ → Desk}
    (hcmd : cmd' = .setlayout ↔ cmd = .setlayout) (hf : l.foldl f s.desk = l.foldl f' s.desk) :
    s.runOutputs cmd l f = s.runOutputs cmd' l f' := by
  have hdesk : s.modifyDesk (fun d => l.foldl f d) = s.modifyDesk fun d => l.foldl f' d :=
    (congrArg (fun d => { s with desk := d }) hf :)
  unfold runOutputs
  rw [hdesk, if_congr hcmd rfl rfl]

theorem runOutputs_nil (s : Rwl) (cmd : IpcCmd) (f : Desk → ℕ → Desk) :
    s.runOutputs cmd [] f = s.arrange_all := by
  have hempty : s.runOutputs cmd [] f =
      if cmd = .setlayout then if s.desk.sel_mon ∈ [] then s.arrange_all.focus_top
        else s.arrange_all
      else if s.desk.sel_mon ∈ [] then s.arrange_all.focus_top else s.arrange_all := rfl
  rw [hempty, ite_self, if_neg List.not_mem_nil]

/-- A layout command for a monitor there is none of only arranges everything again. -/
theorem runOutputs_missing (s : Rwl) {idx : ℕ} (hlen : s.desk.monitors.length ≤ idx)
    (hsel : s.desk.sel_mon < idx) (val : ℕ) :
    s.runOutputs .setlayout [idx] (ipcApply .setlayout val) = s.arrange_all := by
  have hdesk : ipcApply .setlayout val s.desk idx = s.desk :=
    modifyMonitor_of_length_le hlen _
  have hnot : s.desk.sel_mon ∉ [idx] := by
    rw [List.mem_singleton]
    omega
  unfold runOutputs
  rw [if_pos rfl, if_neg hnot]
  exact (congrArg (fun d => ({ s with desk := d } : Rwl).arrange_all) hdesk :)

/-- A name names all monitors, one, or none. -/
theorem namedOutputs_cases (d : Desk) (name : Text) :
    (∃ which, namedOutputs d name = ipcOutputs d which) ∨ namedOutputs d name = [] := by
  unfold namedOutputs
  by_cases hall : name = "all".toList
  · rw [if_pos hall]
    exact Or.inl ⟨none, rfl⟩
  · rw [if_neg hall]
    cases find_monitor_idx d name with
    | none => exact Or.inr rfl
    | some idx => exact Or.inl ⟨some idx, rfl⟩

/-- A command on outputs is an event of the socket. -/
theorem outputsCommand_step (s : Rwl) (cmd : IpcCmd) (output val : Text) :
    ∃ cmd' which n, s.outputsCommand cmd output val = step s (.ipc_outputs cmd' which n) := by
  rcases namedOutputs_cases s.desk output with ⟨which, hwhich⟩ | hnone
  · -- a value that is no number changes nothing, and so does some value that is one
    obtain ⟨n, hn⟩ | hidle :
        (∃ n, outputCommand cmd val = ipcApply cmd n) ∨ ∀ idx, outputCommand cmd val s.desk idx =
          s.desk := by
      cases cmd <;> unfold outputCommand <;> dsimp only
      all_goals
        cases hval : Text.parse_uint _ val with
        | none => exact Or.inr fun _ => rfl
        | some n => exact Or.inl ⟨n, rfl⟩
    · refine ⟨cmd, which, n, ?_⟩
      rw [outputsCommand_eq, hwhich, hn]
      rfl
    · obtain ⟨cmd', n, hcmd, hn⟩ := exists_idle_value cmd s.desk
      refine ⟨cmd', which, n, ?_⟩
      rw [outputsCommand_eq, hwhich]
      exact runOutputs_congr hcmd (by rw [foldl_of_idle hidle, foldl_of_idle hn])
  · -- a name of no monitor: everything is arranged again, as for an index past the last one
    refine ⟨.setlayout, some (max s.desk.monitors.length (s.desk.sel_mon + 1)), 0, ?_⟩
    rw [outputsCommand_eq, hnone, runOutputs_nil]
    exact (s.runOutputs_missing (by omega) (by omega) 0).symm

/-- `rwl msg` takes at most one step, and it is a step of the socket. -/
theorem msg_step {s s' : Rwl} {args : List Text} (h : s.msg args = some s') :
    s' = s ∨ ∃ e, OfSocket e ∧ s' = step s e := by
  unfold msg at h
  cases hcmd : Command.ofArgs args with
  | none =>
    rw [hcmd] at h
    exact Or.inl (Option.some.inj h).symm
  | some c =>
    rw [hcmd] at h
    dsimp only at h
    cases c with
    | status filter => exact Or.inl (Option.some.inj h).symm
    | clients => exact Or.inl (Option.some.inj h).symm
    | info field => exact Or.inl (Option.some.inj h).symm
    | set_override path mode => exact Or.inl (Option.some.inj h).symm
    | set_mfact delta => cases h
    | resume => exact Or.inr ⟨.ipc_resume, trivial, (Option.some.inj h).symm⟩
    | focusurgent => exact Or.inr ⟨.ipc_focusurgent, trivial, (Option.some.inj h).symm⟩
    | outputs cmd output val =>
      obtain ⟨cmd', which, n, heq⟩ := s.outputsCommand_step cmd output val
      refine Or.inr ⟨.ipc_outputs cmd' which n, trivial, ?_⟩
      rw [← heq]
      exact (Option.some.inj h).symm
    | action a =>
      have hipc := ipcAction_of_ofArgs hcmd
      refine Or.inr ⟨.ipc a, hipc, ?_⟩
      rw [step_ipc hipc]
      exact (Option.some.inj h).symm

end Rwl

/-! ### What lines can do -/

namespace Text

theorem not_whitespace_of_mem_signed {z : ℤ} {c : Char} (h : c ∈ signed z) :
    is_whitespace c = false := by
  unfold signed at h
  split_ifs at h
  · rcases List.mem_cons.1 h with rfl | h
    · rfl
    · exact not_whitespace_of_isDigit (isDigit_decimal h)
  · exact not_whitespace_of_isDigit (isDigit_decimal h)

theorem isWord_signed (z : ℤ) : IsWord (signed z) := by
  refine ⟨?_, fun c => not_whitespace_of_mem_signed⟩
  unfold signed
  split_ifs
  · exact List.cons_ne_nil _ _
  · exact decimal_ne_nil _

theorem isWord_scientific (z : ℤ) (k : ℕ) : IsWord (scientific z k) := by
  refine ⟨List.append_ne_nil_of_left_ne_nil (isWord_signed z).1 _, fun c h => ?_⟩
  rcases List.mem_append.1 h with h | h
  · exact not_whitespace_of_mem_signed h
  · rcases List.mem_cons.1 h with rfl | h
    · rfl
    rcases List.mem_cons.1 h with rfl | h
    · rfl
    · exact not_whitespace_of_isDigit (isDigit_decimal h)

theorem length_bytes_of_ascii {t : Text} (h : ∀ c ∈ t, c.toNat < 128) :
    (bytes t).length = t.length := by
  rw [length_bytes]
  induction t with
  | nil => rfl
  | cons c t ih =>
    have hc : c.utf8Size = 1 := by
      have hval : c.val ≤ 0x7f := by
        have := h c List.mem_cons_self
        rw [UInt32.le_iff_toNat_le]
        show c.toNat ≤ 127
        omega
      exact if_pos hval
    rw [List.map_cons, List.sum_cons, hc, ih fun d hd => h d (List.mem_cons_of_mem _ hd),
      List.length_cons]
    omega

theorem ascii_of_mem_signed {z : ℤ} {c : Char} (h : c ∈ signed z) : c.toNat < 128 := by
  have hdigit {n : ℕ} (h : c ∈ decimal n) : c.toNat < 128 := by
    have hrange : 48 ≤ c.toNat ∧ c.toNat ≤ 57 := Char.isDigit_iff_toNat.1 (isDigit_decimal h)
    omega
  unfold signed at h
  split_ifs at h
  · rcases List.mem_cons.1 h with rfl | h
    · decide
    · exact hdigit h
  · exact hdigit h

/-- A number of 32 bits takes at most eleven bytes. -/
theorem length_bytes_signed {z : ℤ} (h : z.natAbs < 2 ^ 32) : (bytes (signed z)).length ≤ 11 := by
  have hlen : (decimal z.natAbs).length ≤ 10 := by
    unfold decimal
    rw [Nat.length_toDigits_le_iff (by decide) (by decide)]
    exact lt_trans h (by norm_num)
  rw [length_bytes_of_ascii fun c => ascii_of_mem_signed]
  unfold signed
  split_ifs
  · rw [List.length_cons]
    omega
  · omega

theorem signed_natCast (n : ℕ) : signed n = decimal n := if_neg (by omega)

/-- The words of words are the words. -/
theorem flatMap_words {ws : List Text} (h : ∀ w ∈ ws, IsWord w) :
    ws.flatMap split_whitespace = ws := by
  induction ws with
  | nil => rfl
  | cons w ws ih =>
    have hw : split_whitespace w = [w] := Split.tokens_of_word (h w List.mem_cons_self)
    rw [List.flatMap_cons, hw, ih fun u hu => h u (List.mem_cons_of_mem _ hu)]
    rfl

end Text

namespace Action

/-- A payload a line can carry: a number of the command's type, the words of a command. -/
def InRange : Action → Prop
  | .Spawn cmd => cmd ≠ [] ∧ (∀ w ∈ cmd, Text.IsWord w.toList) ∧
      Fits ("spawn".toList :: cmd.map String.toList)
  | .FocusStack z | .IncNmaster z | .ViewNextOccTag z | .FocusMon z | .TagMon z => InI32 z
  | .SetMfact q => |q| < (Text.f64Limit : ℚ) ∧
      ∃ (z : ℤ) (k : ℕ), q = z / 10 ^ k ∧ Fits ["setmfact".toList, Text.scientific z k]
  | .Tag n | .ToggleTag n | .Chvt n | .ViewTagSpawn n => n < 2 ^ 32
  | _ => True

/-- A number of 32 bits fits on the line of any command. -/
theorem fits_signed {cmd : Text} (hcmd : (Text.bytes cmd).length ≤ 100) {z : ℤ}
    (hz : z.natAbs < 2 ^ 32) : Fits [cmd, Text.signed z] := by
  have hjoin : Text.join [cmd, Text.signed z] = cmd ++ ([' '] ++ Text.signed z) := by
    simp [Text.join, List.intercalate]
  have hspace : (Text.bytes [' ']).length = 1 := by decide
  have hnum := Text.length_bytes_signed hz
  unfold Fits
  rw [hjoin, Text.bytes_append, Text.bytes_append, List.length_append, List.length_append, hspace]
  have : MAX_CMD_BYTES = 65536 := rfl
  omega

/-- An action of the socket whose payload is in range has a name and a spelling. -/
theorem exists_spelling {a : Action} (ha : Rwl.ipcAction a = true) (hrange : a.InRange) :
    ∃ cmd args, a.ipc_command = some cmd ∧ a.Spells args ∧ (∀ w ∈ args, Text.IsWord w) ∧
      Fits (cmd :: args) := by
  have hint {z : ℤ} (h : InI32 z) : Text.parse_int (2 ^ 31) (Text.signed z) = some z ∧
      z.natAbs < 2 ^ 32 := by
    refine ⟨Text.parse_signed h.1 h.2, ?_⟩
    unfold InI32 at h
    omega
  have huint {n : ℕ} (h : n < 2 ^ 32) : Text.parse_uint (2 ^ 32) (Text.signed n) = some n ∧
      (n : ℤ).natAbs < 2 ^ 32 := by
    rw [Text.signed_natCast]
    exact ⟨Text.parse_decimal h, h⟩
  cases a
  case Spawn cmd =>
    refine ⟨_, cmd.map String.toList, rfl, ⟨?_, ?_⟩, ?_, hrange.2.2⟩
    · simpa using hrange.1
    · simp
    · intro w hw
      obtain ⟨u, hu, rfl⟩ := List.mem_map.1 hw
      exact hrange.2.1 u hu
  case SetMfact q =>
    obtain ⟨hlimit, z, k, rfl, hfits⟩ := hrange
    exact ⟨_, [Text.scientific z k], rfl, Text.parse_scientific hlimit,
      List.forall_mem_singleton.2 (Text.isWord_scientific z k), hfits⟩
  case Tag n | ToggleTag n | Chvt n | ViewTagSpawn n =>
    all_goals exact ⟨_, [Text.signed n], rfl, (huint hrange).1,
      List.forall_mem_singleton.2 (Text.isWord_signed n), fits_signed (by decide) (huint hrange).2⟩
  case FocusStack z | IncNmaster z | ViewNextOccTag z | FocusMon z | TagMon z =>
    all_goals exact ⟨_, [Text.signed z], rfl, (hint hrange).1,
      List.forall_mem_singleton.2 (Text.isWord_signed z), fits_signed (by decide) (hint hrange).2⟩
  all_goals first
    | exact ⟨_, [], rfl, trivial, by simp, by decide⟩
    | cases ha

end Action

namespace Rwl

/-- `rwl msg` dispatches the action its arguments name and spell. -/
theorem msg_of_spells {cmd : Text} {args : List Text} {a : Action} (hfits : Fits (cmd :: args))
    (hwords : ∀ w ∈ args, Text.IsWord w) (hname : a.ipc_command = some cmd)
    (hspells : a.Spells args) (s : Rwl) : s.msg (cmd :: args) = some (step s (.ipc a)) := by
  have hcmd : Command.ofArgs (cmd :: args) = some (.action a) := by
    rw [Command.ofArgs_action_iff hfits, Text.flatMap_words hwords]
    exact ⟨hname, hspells⟩
  rw [step_ipc (ipcAction_of_spells hname hspells)]
  unfold msg
  rw [hcmd]
  rfl

namespace IpcCmd

/-- The name of a command on outputs. -/
def name : IpcCmd → Text
  | view => "view".toList
  | toggleview => "toggleview".toList
  | setlayout => "setlayout".toList

/-- How many values a command on outputs has. -/
def values : IpcCmd → ℕ
  | view | toggleview => 2 ^ 32
  | setlayout => 2 ^ 64

end IpcCmd

/-- The arguments of a command on outputs. -/
theorem ofArgs_outputs {cmd : IpcCmd} {output val : Text} (houtput : Text.IsWord output)
    (hval : Text.IsWord val) (hfits : Fits [cmd.name, output, val]) :
    Command.ofArgs [cmd.name, output, val] = some (.outputs cmd output val) := by
  have hwords : ∀ w ∈ [output, val], Text.IsWord w := by
    simp [houtput, hval]
  have hmem : (cmd.name, Command.perOutput cmd) ∈ Command.arms := by
    cases cmd with
    | view => exact List.mem_of_getElem? (i := 3) rfl
    | toggleview => exact List.mem_of_getElem? (i := 4) rfl
    | setlayout => exact List.mem_of_getElem? (i := 5) rfl
  refine (Command.ofArgs_eq hfits).trans ?_
  rw [Text.flatMap_words hwords]
  exact Command.parse_arm hmem _

theorem msg_of_outputs {s : Rwl} {cmd : IpcCmd} {which : Option ℕ} {val : ℕ} {output : Text}
    (hval : val < cmd.values) (hword : Text.IsWord output)
    (hfits : Fits [cmd.name, output, Text.decimal val])
    (hnamed : namedOutputs s.desk output = ipcOutputs s.desk which) :
    s.msg [cmd.name, output, Text.decimal val] = some (step s (.ipc_outputs cmd which val)) := by
  have hparse : outputCommand cmd (Text.decimal val) = ipcApply cmd val := by
    have hread : Text.parse_uint cmd.values (Text.decimal val) = some val := Text.parse_decimal hval
    funext d idx
    cases cmd
    all_goals
      dsimp only [IpcCmd.values] at hread
      unfold outputCommand
      dsimp only
      rw [hread]
  have hcmd := ofArgs_outputs hword (Text.isWord_decimal val) hfits
  unfold msg
  rw [hcmd]
  show some (s.outputsCommand cmd output (Text.decimal val)) = some (s.ipc_command cmd which val)
  rw [outputsCommand_eq, ipc_command_eq, hnamed, hparse]

/-- What a line can carry of an event of the socket. -/
def Sent (d : Desk) : Event → Prop
  | .ipc a => a.InRange
  | .ipc_outputs cmd which val => val < cmd.values ∧ ∃ output, Text.IsWord output ∧
      Fits [cmd.name, output, Text.decimal val] ∧ namedOutputs d output = ipcOutputs d which
  | _ => True

/-- A step of the socket is taken by some `rwl msg`. -/
theorem step_msg {s : Rwl} {e : Event} (h : OfSocket e) (hsent : Sent s.desk e) :
    ∃ args, s.msg args = some (step s e) := by
  cases e with
  | ipc a =>
    obtain ⟨cmd, args, hname, hspells, hwords, hfits⟩ := Action.exists_spelling h hsent
    exact ⟨cmd :: args, msg_of_spells hfits hwords hname hspells s⟩
  | ipc_outputs cmd which val =>
    obtain ⟨hval, output, hword, hfits, hnamed⟩ := hsent
    exact ⟨_, msg_of_outputs hval hword hfits hnamed⟩
  | ipc_focusurgent =>
    refine ⟨["focusurgent".toList], ?_⟩
    have hcmd : Command.ofArgs ["focusurgent".toList] = some .focusurgent := by decide +kernel
    unfold msg
    rw [hcmd]
    rfl
  | ipc_resume =>
    refine ⟨["resume".toList], ?_⟩
    have hcmd : Command.ofArgs ["resume".toList] = some .resume := by decide +kernel
    unfold msg
    rw [hcmd]
    rfl
  | _ => exact h.elim

/-- **The events of the socket are the command lines**: `rwl msg` takes a step of the socket or none
at all, and it takes every one whose payload a line can carry. -/
theorem socket_events (s : Rwl) :
    (∀ args s', s.msg args = some s' → s' = s ∨ ∃ e, OfSocket e ∧ s' = step s e) ∧
      ∀ e, OfSocket e → Sent s.desk e → ∃ args, s.msg args = some (step s e) :=
  ⟨fun _ _ => msg_step, fun _ => step_msg⟩

theorem socket_events_mfact :
    (∃ args, (init (plainSetup [] [])).msg args =
        some (step (init (plainSetup [] [])) (.ipc (.SetMfact (1 / 20))))) ∧
      ∃ args, (init (plainSetup [] [])).msg args =
        some (step (init (plainSetup [] [])) (.ipc_outputs .view none 3)) := by
  refine ⟨(socket_events (init (plainSetup [] []))).2 _ rfl ⟨?_, 5, 2, ?_, by decide⟩,
    (socket_events (init (plainSetup [] []))).2 _ trivial
      ⟨by decide, "all".toList, by decide, by decide, rfl⟩⟩
  · have hpos : 0 < Text.f64Limit :=
      Nat.sub_pos_of_lt (Nat.pow_lt_pow_right (by decide) (by decide))
    have hlimit : (1 : ℚ) ≤ Text.f64Limit := by exact_mod_cast hpos
    rw [abs_of_pos (by norm_num)]
    linarith
  · norm_num

end Rwl

end Compositor
