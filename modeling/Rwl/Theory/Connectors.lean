import Mathlib.Tactic.Common
import Rwl.Core.Drm
import Rwl.Theory.DeskRegistry
import Rwl.Theory.MonitorBoxes
import Rwl.Theory.StepChanges

/-!
# Connectors and outputs

* `Desk.outputs`: the outputs of the monitors, which only hotplug changes;
* `plugged`, `NoSpare`: the connectors that are plugged in, and when no connector that drives a
  surface meets a spare CRTC;
* `collect_conn_infos_conns`: then a scan proposes no such connector;
* `Udev.drives`: the connector of the surface of a CRTC;
* `Bijection`, `Wired`: a connector drives one surface, and what is shown is plugged in;
* `Frame`, `Beside`: what leaves all this alone; frames do.
-/

namespace Compositor

open Transition Keyed

/-! ### The outputs of the monitors -/

namespace Desk

/-- The outputs of the monitors. -/
def outputs (d : Desk) : List OutputId := d.monitors.map Monitor.output

theorem outputs_modifyMonitor (d : Desk) (i : ℕ) {f : Monitor → Monitor}
    (h : ∀ m, (f m).output = m.output) : (d.modifyMonitor i f).outputs = d.outputs :=
  Recency.map_modify_eq Monitor.output f h d.monitors i

theorem outputs_of_bare {d d' : Desk} (h : d'.bare = d.bare) : d'.outputs = d.outputs :=
  congrArg Registry.slots (registry_of_bare h)

theorem output_run (cfg : Config) (m : Monitor) (op : MonitorOp) :
    (op.run cfg m).output = m.output := (reviewed_run cfg m op).sameOutput.1

/-- A small update leaves the outputs of the monitors alone. -/
theorem Change.keeps_outputs {file : Config} {L : Desk → Desk → Prop} {d d' : Desk}
    (h : Change file L d d') (hL : ∀ d d', L d d' → d'.outputs = d.outputs) :
    d'.outputs = d.outputs := by
  cases h with
  | relaid _ hb => exact outputs_of_bare hb
  | monitor i op => exact outputs_modifyMonitor d i fun m => output_run d.cfg m op
  | back i cur w t => exact outputs_modifyMonitor d i fun m => output_run d.cfg m (.retag t)
  | tune i f hf => exact outputs_modifyMonitor d i fun m => congrArg (·.2.1) (hf m).1
  | rules _ h =>
    obtain ⟨ms, o, rfl, hms, -⟩ := h
    exact map_of_steady (·.2.1) hms
  | history i tags => exact congrArg Registry.slots (registry_update_tag_history d i tags)
  | every =>
    unfold Desk.outputs
    dsimp only
    rw [List.map_map]
    exact congrArg (List.map · d.monitors) (funext fun m => output_run d.cfg m .apply)
  | life _ h => exact hL _ _ h
  | _ => rfl

theorem Changes.keeps_outputs {file : Config} {L : Desk → Desk → Prop} {d d' : Desk}
    (h : Changes file L d d') (hL : ∀ d d', L d d' → d'.outputs = d.outputs) :
    d'.outputs = d.outputs := by
  induction h with
  | refl => rfl
  | tail _ hstep ih => exact (hstep.keeps_outputs hL).trans ih

theorem outputs_arrangePasses (d : Desk) : d.arrangePasses.outputs = d.outputs :=
  outputs_of_bare (bare_arrangePasses d)

theorem monitor_for_output_eq (d : Desk) (o : OutputId) :
    d.monitor_for_output o = d.outputs.idxOf? o := by
  unfold monitor_for_output outputs List.idxOf?
  rw [List.findIdx?_map]
  rfl

/-- The monitor of an output goes with it. -/
theorem outputs_removeMonitor {d : Desk} {o : OutputId} {i : ℕ}
    (h : d.monitor_for_output o = some i) : (d.removeMonitor i).outputs = d.outputs.erase o := by
  rw [monitor_for_output_eq] at h
  rw [List.erase_eq_eraseIdx, h]
  exact (List.eraseIdx_map ..).symm

end Desk

namespace Rwl

/-- Only outputs that come and go change the outputs of the monitors. -/
theorem outputs_step (s : Rwl) (e : Event) (hadd : ∀ o info, e ≠ .output_added o info)
    (hremove : ∀ o, e ≠ .output_removed o) :
    (step s e).desk.outputs = s.desk.outputs := by
  by_cases hcfg : ∃ cfg, e = .config_written cfg
  · obtain ⟨cfg, rfl⟩ := hcfg
    rfl
  · have hmoves := Moves.step s e (fun cfg h => hcfg ⟨cfg, h⟩) fun _ _ h => h
    refine hmoves.changes.keeps_outputs fun d d' hlife => ?_
    cases hlife with
    | monitor => exact absurd rfl (hadd _ _)
    | unplugged => exact absurd rfl (hremove _)
    | unmapped => exact congrArg (List.map Monitor.output) (swallow.monitors_on_unmap _ _)
    | swallowed => exact congrArg (List.map Monitor.output) (swallow.monitors_try_swallow _ _)
    | dragged_by _ _ _ _ hd | dragged_to _ _ _ _ hd =>
      obtain ⟨_, _, _, i, _, rfl⟩ := hd
      exact Desk.outputs_modifyMonitor d i fun _ => rfl
    | _ => rfl

theorem outputs_output_added (s : Rwl) (o : OutputId) (info : OutputInfo) :
    (step s (.output_added o info)).desk.outputs =
      if o ∈ s.desk.outputs then s.desk.outputs else s.desk.outputs ++ [o] := by
  have hknown : (s.desk.monitor_for_output o).isSome = true ↔ o ∈ s.desk.outputs := by
    rw [Desk.monitor_for_output_eq, List.isSome_idxOf?]
  rw [step]
  by_cases h : o ∈ s.desk.outputs
  · rw [if_pos (hknown.2 h), if_pos h]
  · rw [if_neg (fun hsome => h (hknown.1 hsome)), if_neg h, desk_output_added,
      Desk.outputs_arrangePasses]
    change (s.desk.monitors ++ [s.desk.newMonitor o info]).map Monitor.output = _
    rw [List.map_append, List.map_singleton, (Desk.newMonitor_boxes s.desk o info).1]
    rfl

theorem outputs_output_removed (s : Rwl) (o : OutputId) :
    (step s (.output_removed o)).desk.outputs = s.desk.outputs.erase o := by
  change (s.output_removed o).desk.outputs = _
  unfold output_removed
  rw [desk_arrange_all, Desk.outputs_arrangePasses]
  cases h : s.desk.monitor_for_output o with
  | some i => exact Desk.outputs_removeMonitor h
  | none =>
    rw [Desk.monitor_for_output_eq] at h
    rw [List.erase_eq_eraseIdx, h]

end Rwl

/-! ### What is plugged in -/

/-- The connectors of a scan that are plugged in. -/
def plugged (cs : List Connector) : List ConnId := (cs.filter Connector.connected).map Connector.id

/-- The CRTC a scan hands to a connector. -/
def Connector.pick (used : Crtc → Bool) (claimed : List Crtc) (c : Connector) : Option Crtc :=
  if c.connected ∧ c.mode.isSome then c.crtcs.find? fun k => !used k && !claimed.contains k
  else none

/-- No connector that drives a surface meets a spare CRTC: one without a surface that no earlier
connector was handed. -/
def NoSpare (used : Crtc → Bool) (driving : ConnId → Prop) : List Crtc → List Connector → Prop
  | _, [] => True
  | claimed, c :: cs =>
      (c.connected → c.mode.isSome → driving c.id → ∀ k ∈ c.crtcs, used k ∨ k ∈ claimed) ∧
        NoSpare used driving ((c.pick used claimed).toList ++ claimed) cs

instance decidableNoSpare (used : Crtc → Bool) (driving : ConnId → Prop)
    [∀ c, Decidable (driving c)] :
    ∀ (claimed : List Crtc) (cs : List Connector), Decidable (NoSpare used driving claimed cs)
  | _, [] => .isTrue trivial
  | claimed, c :: cs =>
      have := decidableNoSpare used driving ((c.pick used claimed).toList ++ claimed) cs
      inferInstanceAs (Decidable
        ((_ → _ → _ → ∀ k ∈ c.crtcs, used k = true ∨ k ∈ claimed) ∧
          NoSpare used driving ((c.pick used claimed).toList ++ claimed) cs))

namespace Udev

/-! ### Proposals -/

/-- The first connector is proposed with the CRTC it picks. -/
theorem collect_conn_infos_cons (used : Crtc → Bool) (claimed : List Crtc) (c : Connector)
    (cs : List Connector) :
    (∃ info : ConnInfo, info.conn = c.id ∧ c.connected = true ∧ c.mode.isSome = true ∧
        info.crtc ∈ c.crtcs ∧ used info.crtc = false ∧ info.crtc ∉ claimed ∧
        c.pick used claimed = some info.crtc ∧
        collect_conn_infos used claimed (c :: cs) =
          info :: collect_conn_infos used (info.crtc :: claimed) cs) ∨
      c.pick used claimed = none ∧
        collect_conn_infos used claimed (c :: cs) = collect_conn_infos used claimed cs := by
  rw [collect_conn_infos]
  unfold Connector.pick
  cases hcon : c.connected with
  | false => exact .inr ⟨by simp, rfl⟩
  | true =>
    cases hmode : c.mode with
    | none => exact .inr ⟨by simp, rfl⟩
    | some mode =>
      cases hfind : c.crtcs.find? fun k => !used k && !claimed.contains k with
      | none => exact .inr ⟨by simp, rfl⟩
      | some crtc =>
        have hfree := List.find?_some hfind
        rw [Bool.and_eq_true, Bool.not_eq_true', Bool.not_eq_true'] at hfree
        refine .inl ⟨⟨crtc, mode, c.id, c.name⟩, rfl, rfl, rfl, List.mem_of_find?_eq_some hfind,
          hfree.1, ?_, by simp, rfl⟩
        intro hmem
        rw [List.contains_iff_mem.mpr hmem] at hfree
        exact absurd hfree.2 (by decide)

/-- **A scan proposes connectors that are plugged in, each once, and, without a spare CRTC, none
that drives a surface.** -/
theorem collect_conn_infos_conns (used : Crtc → Bool) (driving : ConnId → Prop)
    (claimed : List Crtc) (cs : List Connector) :
    ((collect_conn_infos used claimed cs).map ConnInfo.conn).Sublist (plugged cs) ∧
      (NoSpare used driving claimed cs →
        ∀ info ∈ collect_conn_infos used claimed cs, ¬ driving info.conn) := by
  induction cs generalizing claimed with
  | nil => exact ⟨.slnil, fun _ _ h => absurd h List.not_mem_nil⟩
  | cons c cs ih =>
    rcases collect_conn_infos_cons used claimed c cs with
      ⟨info, hconn, hcon, hmode, hmem, hused, hclaimed, hpick, heq⟩ | ⟨hpick, heq⟩
    · obtain ⟨hsub, hdriving⟩ := ih (info.crtc :: claimed)
      rw [heq]
      refine ⟨?_, fun hspare info' hinfo => ?_⟩
      · rw [plugged, List.filter_cons_of_pos hcon, List.map_cons, List.map_cons, hconn]
        exact hsub.cons_cons c.id
      · rcases List.mem_cons.mp hinfo with rfl | hinfo
        · intro hdrives
          rw [hconn] at hdrives
          rcases hspare.1 hcon hmode hdrives info'.crtc hmem with h | h
          · rw [hused] at h
            cases h
          · exact hclaimed h
        · refine hdriving ?_ info' hinfo
          have hrest := hspare.2
          rw [hpick] at hrest
          exact hrest
    · obtain ⟨hsub, hdriving⟩ := ih claimed
      rw [heq]
      refine ⟨hsub.trans ?_, fun hspare => hdriving ?_⟩
      · exact ((List.sublist_cons_self c cs).filter _).map _
      · have hrest := hspare.2
        rw [hpick] at hrest
        exact hrest

/-! ### The wiring -/

/-- The connector of the surface of a CRTC. -/
def drives (b : Udev) (dev : DevId) (crtc : Crtc) : Option ConnId :=
  (b.surface dev crtc).map OutputSurface.connector

/-- Every connector drives one surface at most, and what is shown is plugged in. -/
structure Bijection (b : Udev) : Prop where
  crtcs : ∀ dev, ∀ d ∈ b.devices.lookup dev, d.surfaces.keys.Nodup
  single : ∀ dev k k' conn, b.drives dev k = some conn → b.drives dev k' = some conn → k = k'
  surfaces : ∀ dev k, ∀ conn ∈ b.drives dev k, conn ∈ plugged (b.scanned dev)
  monitors : ∀ m ∈ b.rwl.desk.monitors, (b.origin m.output).1 ∈ b.devices ∧
    (b.origin m.output).2 ∈ plugged (b.scanned (b.origin m.output).1)

/-- The invariant of a run. -/
structure Wired (b : Udev) : Prop where
  single : ∀ dev k k' conn, b.drives dev k = some conn → b.drives dev k' = some conn → k = k'
  surfaces : ∀ dev k, ∀ conn ∈ b.drives dev k, conn ∈ plugged (b.scanned dev)
  monitors : ∀ o ∈ b.rwl.desk.outputs,
    (b.origin o).1 ∈ b.devices ∧ (b.origin o).2 ∈ plugged (b.scanned (b.origin o).1)
  fresh : ∀ o ∈ b.rwl.desk.outputs, o < b.next_output
  nodup : b.rwl.desk.outputs.Nodup

theorem Wired.bijection {b : Udev} (h : Wired b) : Bijection b :=
  ⟨fun _ d _ => d.surfaces.keys_nodup, h.single, h.surfaces,
    fun m hm => h.monitors m.output (List.mem_map_of_mem hm)⟩

/-- Nothing of the wiring changes. -/
structure Frame (b b' : Udev) : Prop where
  drives : ∀ dev k, b'.drives dev k = b.drives dev k
  devices : ∀ dev, dev ∈ b'.devices ↔ dev ∈ b.devices
  scanned : b'.scanned = b.scanned
  origin : b'.origin = b.origin
  next_output : b'.next_output = b.next_output
  outputs : b'.rwl.desk.outputs = b.rwl.desk.outputs

namespace Frame

variable {b b' b'' : Udev}

theorem refl (b : Udev) : Frame b b :=
  ⟨fun _ _ => rfl, fun _ => Iff.rfl, rfl, rfl, rfl, rfl⟩

theorem trans (h : Frame b b') (h' : Frame b' b'') : Frame b b'' where
  drives dev k := (h'.drives dev k).trans (h.drives dev k)
  devices dev := (h'.devices dev).trans (h.devices dev)
  scanned := h'.scanned.trans h.scanned
  origin := h'.origin.trans h.origin
  next_output := h'.next_output.trans h.next_output
  outputs := h'.outputs.trans h.outputs

theorem wired (h : Frame b b') (hb : Wired b) : Wired b' := by
  refine ⟨?_, ?_, ?_, ?_, ?_⟩
  · intro dev k k' conn hk hk'
    rw [h.drives] at hk hk'
    exact hb.single dev k k' conn hk hk'
  · intro dev k conn hconn
    rw [h.drives] at hconn
    rw [h.scanned]
    exact hb.surfaces dev k conn hconn
  · intro o ho
    rw [h.outputs] at ho
    rw [h.origin, h.scanned, h.devices]
    exact hb.monitors o ho
  · intro o ho
    rw [h.outputs] at ho
    rw [h.next_output]
    exact hb.fresh o ho
  · rw [h.outputs]
    exact hb.nodup

end Frame

/-! ### Frames leave the wiring alone -/

theorem mem_modify {dev dev' : DevId} (f : DeviceData → DeviceData) (m : Map DevId DeviceData) :
    dev' ∈ modify dev f m ↔ dev' ∈ m := by
  rw [← AList.lookup_isSome, ← AList.lookup_isSome]
  by_cases h : dev' = dev
  · subst h
    rw [lookup_modify_self, Option.isSome_map]
  · rw [lookup_modify_ne f m h]

/-- Between the states, no other device has changed, nor which devices wait. -/
structure Beside (dev : DevId) (b b' : Udev) : Prop where
  lookup : ∀ dev' ≠ dev, b'.devices.lookup dev' = b.devices.lookup dev'
  pending : b'.pending_devices = b.pending_devices
  session : b'.session_active = b.session_active

theorem Beside.refl (dev : DevId) (b : Udev) : Beside dev b b := ⟨fun _ _ => rfl, rfl, rfl⟩

theorem Beside.trans {dev : DevId} {b b' b'' : Udev} (h : Beside dev b b')
    (h' : Beside dev b' b'') : Beside dev b b'' where
  lookup dev' hd := (h'.lookup dev' hd).trans (h.lookup dev' hd)
  pending := h'.pending.trans h.pending
  session := h'.session.trans h.session

/-- A change of a surface that keeps its connector. -/
theorem frame_modifySurface (b : Udev) (dev : DevId) (crtc : Crtc)
    {f : OutputSurface → OutputSurface} (hf : ∀ surf, (f surf).connector = surf.connector) :
    Frame b (b.modifySurface dev crtc f) ∧ Beside dev b (b.modifySurface dev crtc f) := by
  have hother (dev' : DevId) (h : dev' ≠ dev) :
      (b.modifySurface dev crtc f).devices.lookup dev' = b.devices.lookup dev' :=
    lookup_modify_ne _ _ h
  refine ⟨⟨fun dev' k => ?_, fun dev' => mem_modify _ _, rfl, rfl, rfl, rfl⟩, hother, rfl, rfl⟩
  unfold drives surface
  by_cases h : dev' = dev
  · subst h
    have hself : (b.modifySurface dev' crtc f).devices.lookup dev' =
        (b.devices.lookup dev').map fun d => { d with surfaces := modify crtc f d.surfaces } :=
      lookup_modify_self _ _ _
    rw [hself]
    cases hd : b.devices.lookup dev' with
    | none => rfl
    | some d =>
      dsimp only [Option.map_some, Option.bind_some]
      by_cases hk : k = crtc
      · subst hk
        rw [lookup_modify_self, Option.map_map]
        exact congrArg (Option.map · (d.surfaces.lookup k)) (funext hf)
      · rw [lookup_modify_ne f _ hk]
  · rw [hother dev' h]

/-- A frame, whatever comes of it. -/
theorem frame_on_vblank (b : Udev) (dev : DevId) (crtc : Crtc) (f : FrameOutcome) :
    Frame b (b.on_vblank dev crtc f) ∧ Beside dev b (b.on_vblank dev crtc f) := by
  unfold on_vblank
  cases b.devices.lookup dev with
  | none => exact ⟨.refl b, .refl dev b⟩
  | some d =>
    dsimp only
    split_ifs
    · exact ⟨.refl b, .refl dev b⟩
    cases d.surfaces.lookup crtc with
    | none => exact ⟨.refl b, .refl dev b⟩
    | some surf =>
      set b' : Udev := { b with rwl := Rwl.step b.rwl (.vblank surf.output f.out) }
      have houtputs : b'.rwl.desk.outputs = b.rwl.desk.outputs :=
        Rwl.outputs_step b.rwl (.vblank surf.output f.out) (by intro _ _ h; cases h)
          (by intro _ h; cases h)
      have hframe : Frame b b' := ⟨fun _ _ => rfl, fun _ => Iff.rfl, rfl, rfl, rfl, houtputs⟩
      cases f.queue with
      | none => exact ⟨hframe, fun _ _ => rfl, rfl, rfl⟩
      | some ok =>
        dsimp only
        unfold queue_frame
        cases ok with
        | false => exact ⟨⟨hframe.drives, hframe.devices, rfl, rfl, rfl, hframe.outputs⟩,
            fun _ _ => rfl, rfl, rfl⟩
        | true =>
          have hset := frame_modifySurface b' dev crtc
            (f := fun surf => { surf with flip_pending := true }) fun _ => rfl
          have htrans := hframe.trans hset.1
          exact ⟨⟨htrans.drives, htrans.devices, rfl, rfl, rfl, htrans.outputs⟩,
            hset.2.lookup, rfl, rfl⟩

theorem frame_vblank (b : Udev) (dev : DevId) (crtc : Crtc) (f : FrameOutcome) :
    Frame b (b.vblank dev crtc f) := by
  unfold vblank
  cases b.surface dev crtc with
  | none => exact (frame_on_vblank b dev crtc f).1
  | some surf =>
    have hset := (frame_modifySurface b dev crtc
      (f := fun surf => { surf with flip_pending := false }) fun _ => rfl).1
    have hcleared : Frame b
        { b.modifySurface dev crtc (fun surf => { surf with flip_pending := false }) with
          in_flight :=
            Function.update b.in_flight dev (Function.update (b.in_flight dev) crtc false) } :=
      ⟨hset.drives, hset.devices, rfl, rfl, rfl, rfl⟩
    exact hcleared.trans (frame_on_vblank _ dev crtc f).1

theorem frame_idle_render (b : Udev) (dev : DevId) (crtc : Crtc) (f : FrameOutcome) :
    Frame b (b.idle_render dev crtc f) := by
  unfold idle_render
  dsimp only
  split_ifs
  · exact (frame_on_vblank b dev crtc f).1
  · exact .refl b

theorem frame_pause (b : Udev) : Frame b b.pause_drm_devices := by
  unfold pause_drm_devices
  refine ⟨fun dev k => ?_, fun dev => ?_, rfl, rfl, rfl, rfl⟩
  · unfold drives surface
    dsimp only
    rw [lookup_mapVals]
    cases b.devices.lookup dev <;> rfl
  · rw [← AList.lookup_isSome, ← AList.lookup_isSome, lookup_mapVals, Option.isSome_map]

end Udev

end Compositor
