import Mathlib.Tactic.Common
import Rwl.Theory.Connectors
import Rwl.Theory.PageFlips

/-!
# Plugging monitors in and out

* `Adds dev P`: a change that adds monitors of one device;
* `setup_wired`, `scan_wired`: a new surface, and a scan that finds every connector where it was;
* `open_wired`, `activate_wired`, `removed_wired`, `resume_wired`: one lemma for each handler;
* `ConnectorsStay`: the rescans of an event find every connector where it was;
* `connectors_wired`: then every connector drives one surface at most, and what is shown is
  plugged in.

A scan only adds: it looks for CRTCs in use, and never at the connectors that are gone.
-/

namespace Compositor

open Transition Keyed

namespace Udev

/-! ### Scans -/

/-- Between the states, monitors of one device were added, for connectors in `P`. -/
structure Adds (dev : DevId) (P : ConnId → Prop) (b b' : Udev) : Prop where
  beside : Beside dev b b'
  devices : ∀ dev', dev' ∈ b.devices → dev' ∈ b'.devices
  monitors : ∀ o ∈ b'.rwl.desk.outputs,
    o ∈ b.rwl.desk.outputs ∧ b'.origin o = b.origin o ∨
      (b'.origin o).1 = dev ∧ P (b'.origin o).2

namespace Adds

variable {dev : DevId} {P Q : ConnId → Prop} {b b' b'' : Udev}

theorem of_frame (h : Frame b b') (hbeside : Beside dev b b') : Adds dev P b b' :=
  ⟨hbeside, fun dev' => (h.devices dev').2, fun o ho =>
    .inl ⟨h.outputs ▸ ho, congrFun h.origin o⟩⟩

theorem refl (dev : DevId) (P : ConnId → Prop) (b : Udev) : Adds dev P b b :=
  .of_frame (.refl b) (.refl dev b)

theorem trans (h : Adds dev P b b') (h' : Adds dev P b' b'') : Adds dev P b b'' where
  beside := h.beside.trans h'.beside
  devices dev' hd := h'.devices dev' (h.devices dev' hd)
  monitors o ho := by
    rcases h'.monitors o ho with ⟨ho, heq⟩ | hnew
    · rw [heq]
      exact h.monitors o ho
    · exact .inr hnew

theorem mono (h : Adds dev P b b') (hPQ : ∀ c, P c → Q c) : Adds dev Q b b' where
  beside := h.beside
  devices := h.devices
  monitors o ho := (h.monitors o ho).imp id fun hnew => ⟨hnew.1, hPQ _ hnew.2⟩

end Adds

/-- A new surface for a connector that is plugged in and drives none. -/
theorem setup_wired {b : Udev} (h : Wired b) {dev : DevId} (scan : Scan) {info : ConnInfo}
    (hdev : dev ∈ b.devices) (hplug : info.conn ∈ plugged (b.scanned dev))
    (hfree : ∀ k, b.drives dev k ≠ some info.conn) :
    let b' := b.setup_connector_output dev scan info
    Wired b' ∧ Adds dev (· = info.conn) b b' ∧ b'.scanned = b.scanned ∧
      ∀ k, ∀ conn ∈ b'.drives dev k, conn ∈ b.drives dev k ∨ conn = info.conn := by
  intro b'
  have hb' : b' = b.setup_connector_output dev scan info := rfl
  unfold setup_connector_output at hb'
  dsimp only at hb'
  by_cases hbuilt : scan.built info.crtc = false
  · rw [if_pos hbuilt] at hb'
    rw [hb']
    refine ⟨⟨h.single, h.surfaces, h.monitors, fun o ho => Nat.lt_succ_of_lt (h.fresh o ho),
      h.nodup⟩, ⟨⟨fun _ _ => rfl, rfl, rfl⟩, fun _ hd => hd, fun o ho => .inl ⟨ho, rfl⟩⟩, rfl,
      fun _ _ => .inl⟩
  rw [if_neg hbuilt] at hb'
  -- the surface and the monitor are there before the first frame
  set surf : OutputSurface :=
    { output := b.next_output, flip_pending := false, connector := info.conn }
  set b₁ : Udev := { b with
    rwl := Rwl.step b.rwl (.output_added b.next_output (newOutput info))
    next_output := b.next_output + 1
    devices := modify dev (fun d => { d with surfaces := d.surfaces.insert info.crtc surf })
      b.devices
    origin := Function.update b.origin b.next_output (dev, info.conn) } with hb₁
  have hframe := frame_on_vblank b₁ dev info.crtc (scan.first info.crtc)
  rw [← show b' = b₁.on_vblank dev info.crtc (scan.first info.crtc) from hb'] at hframe
  have hnew : b.next_output ∉ b.rwl.desk.outputs := fun hmem =>
    absurd (h.fresh _ hmem) (Nat.lt_irrefl _)
  have houtputs : b₁.rwl.desk.outputs = b.rwl.desk.outputs ++ [b.next_output] := by
    rw [hb₁]
    exact (Rwl.outputs_output_added ..).trans (if_neg hnew)
  have hother (dev' : DevId) (hd : dev' ≠ dev) :
      b₁.devices.lookup dev' = b.devices.lookup dev' := lookup_modify_ne _ _ hd
  have hdevices (dev' : DevId) : dev' ∈ b₁.devices ↔ dev' ∈ b.devices := mem_modify _ _
  have horigin (o : OutputId) (ho : o ∈ b.rwl.desk.outputs) : b₁.origin o = b.origin o := by
    have hne : o ≠ b.next_output := by
      rintro rfl
      exact hnew ho
    exact Function.update_of_ne hne _ _
  have hself : b₁.origin b.next_output = (dev, info.conn) := Function.update_self ..
  have hmonitor (o : OutputId) (ho : o ∈ b₁.rwl.desk.outputs) :
      o ∈ b.rwl.desk.outputs ∨ o = b.next_output := by
    rw [houtputs] at ho
    exact (List.mem_append.mp ho).imp id List.mem_singleton.mp
  have hdrives (dev' : DevId) (k : Crtc) :
      b₁.drives dev' k = if dev' = dev ∧ k = info.crtc then some info.conn
        else b.drives dev' k := by
    unfold drives surface
    by_cases hd : dev' = dev
    · subst hd
      rw [show b₁.devices.lookup dev' = (b.devices.lookup dev').map _ from lookup_modify_self ..]
      obtain ⟨d, hd⟩ := Option.isSome_iff_exists.mp (AList.lookup_isSome.mpr hdev)
      rw [hd]
      by_cases hk : k = info.crtc
      · subst hk
        rw [if_pos ⟨rfl, rfl⟩]
        simp [surf]
      · rw [if_neg fun hc => hk hc.2]
        simp [AList.lookup_insert_ne hk]
    · rw [if_neg fun hc => hd hc.1, hother dev' hd]
  have hcases (dev' : DevId) (k : Crtc) (conn : ConnId) (hc : b₁.drives dev' k = some conn) :
      dev' = dev ∧ k = info.crtc ∧ conn = info.conn ∨ b.drives dev' k = some conn := by
    rw [hdrives] at hc
    split_ifs at hc with hk
    · exact .inl ⟨hk.1, hk.2, (Option.some.inj hc).symm⟩
    · exact .inr hc
  have hwired : Wired b₁ := by
    refine ⟨?_, ?_, ?_, ?_, ?_⟩
    · intro dev' k k' conn hk hk'
      rcases hcases dev' k conn hk with ⟨rfl, rfl, rfl⟩ | hold
      · rcases hcases dev' k' info.conn hk' with ⟨-, rfl, -⟩ | hold'
        · rfl
        · exact absurd hold' (hfree k')
      · rcases hcases dev' k' conn hk' with ⟨rfl, -, rfl⟩ | hold'
        · exact absurd hold (hfree k)
        · exact h.single dev' k k' conn hold hold'
    · intro dev' k conn hconn
      rcases hcases dev' k conn hconn with ⟨rfl, -, rfl⟩ | hconn
      · exact hplug
      · exact h.surfaces dev' k conn hconn
    · intro o ho
      rcases hmonitor o ho with ho | rfl
      · rw [horigin o ho, hdevices]
        exact h.monitors o ho
      · rw [hself, hdevices]
        exact ⟨hdev, hplug⟩
    · intro o ho
      rcases hmonitor o ho with ho | rfl
      · exact Nat.lt_succ_of_lt (h.fresh o ho)
      · exact Nat.lt_succ_self _
    · rw [houtputs]
      exact List.nodup_append.mpr ⟨h.nodup, List.nodup_singleton _, by
        rintro o ho p hp rfl
        exact hnew (List.mem_singleton.mp hp ▸ ho)⟩
  have hadds : Adds dev (· = info.conn) b b₁ := by
    refine ⟨⟨hother, rfl, rfl⟩, fun dev' => (hdevices dev').2, fun o ho => ?_⟩
    rcases hmonitor o ho with ho | rfl
    · exact .inl ⟨ho, horigin o ho⟩
    · rw [hself]
      exact .inr ⟨rfl, rfl⟩
  refine ⟨hframe.1.wired hwired, hadds.trans (.of_frame hframe.1 hframe.2), hframe.1.scanned,
    fun k conn hconn => ?_⟩
  rw [hframe.1.drives] at hconn
  rcases hcases dev k conn hconn with ⟨-, -, rfl⟩ | hconn
  · exact .inr rfl
  · exact .inl hconn

/-- New surfaces, each for a connector of its own. -/
theorem setups_wired {dev : DevId} (scan : Scan) {cs : List Connector} (infos : List ConnInfo)
    {b : Udev} (h : Wired b) (hdev : dev ∈ b.devices) (hscanned : b.scanned dev = cs)
    (hnd : (infos.map ConnInfo.conn).Nodup) (hplug : ∀ info ∈ infos, info.conn ∈ plugged cs)
    (hfree : ∀ info ∈ infos, ∀ k, b.drives dev k ≠ some info.conn) :
    let b' := infos.foldl (fun b info => b.setup_connector_output dev scan info) b
    Wired b' ∧ Adds dev (· ∈ plugged cs) b b' := by
  induction infos generalizing b with
  | nil => exact ⟨h, .refl ..⟩
  | cons info infos ih =>
    rw [List.map_cons, List.nodup_cons] at hnd
    have hplugged := hplug info List.mem_cons_self
    obtain ⟨hwired, hadds, hsame, hdrives⟩ := setup_wired h scan hdev (hscanned ▸ hplugged)
      (hfree info List.mem_cons_self)
    have hrest := ih hwired (hadds.devices dev hdev) ((congrFun hsame dev).trans hscanned) hnd.2
      (fun info' hmem => hplug info' (List.mem_cons_of_mem _ hmem)) fun info' hmem k hk => by
        rcases hdrives k info'.conn hk with hk | heq
        · exact hfree info' (List.mem_cons_of_mem _ hmem) k hk
        · exact hnd.1 (heq ▸ List.mem_map_of_mem hmem)
    refine ⟨hrest.1, (hadds.mono ?_).trans hrest.2⟩
    rintro c rfl
    exact hplugged

/-- The connectors a scan finds plugged in. -/
def shows (scan : Scan) (conn : ConnId) : Prop :=
  ∃ t ∈ scan.topology, conn ∈ plugged t.connectors

/-- A scan of the device finds what is shown plugged in, and no spare CRTC for it. -/
structure Replugged (b : Udev) (dev : DevId) (t : Topology) : Prop where
  surfaces : ∀ k, ∀ conn ∈ b.drives dev k, conn ∈ plugged t.connectors
  monitors : ∀ o ∈ b.rwl.desk.outputs, (b.origin o).1 = dev →
    (b.origin o).2 ∈ plugged t.connectors
  spare : NoSpare (fun k => (b.drives dev k).isSome)
    (fun conn => ∃ k, b.drives dev k = some conn) [] t.connectors

theorem Replugged.of_frame {b b' : Udev} {dev : DevId} {t : Topology} (h : Frame b b')
    (hb : Replugged b dev t) : Replugged b' dev t := by
  obtain ⟨hsurfaces, hmonitors, hspare⟩ := hb
  have hdrives : b'.drives dev = b.drives dev := funext (h.drives dev)
  refine ⟨?_, ?_, ?_⟩
  · rw [hdrives]
    exact hsurfaces
  · rw [h.outputs, h.origin]
    exact hmonitors
  · rw [hdrives]
    exact hspare

/-- **A scan that finds every connector where it was.** -/
theorem scan_wired {b : Udev} (h : Wired b) (dev : DevId) (scan : Scan)
    (hplug : ∀ t ∈ scan.topology, Replugged b dev t) :
    Wired (b.scan_connectors dev scan) ∧ Adds dev (shows scan) b (b.scan_connectors dev scan) := by
  unfold scan_connectors
  cases hd : b.devices.lookup dev with
  | none => exact ⟨h, .refl ..⟩
  | some d =>
    cases ht : scan.topology with
    | none => exact ⟨h, .refl ..⟩
    | some t =>
      dsimp only
      obtain ⟨hsurfaces, hmonitors, hspare⟩ := hplug t ht
      set b' : Udev := { b with scanned := Function.update b.scanned dev t.connectors }
      have hself : b'.scanned dev = t.connectors := Function.update_self ..
      have hother (dev' : DevId) (hne : dev' ≠ dev) : b'.scanned dev' = b.scanned dev' :=
        Function.update_of_ne hne ..
      have hdev : dev ∈ b.devices := by
        rw [← AList.lookup_isSome, hd]
        rfl
      have hwired : Wired b' := by
        refine ⟨h.single, fun dev' k conn hconn => ?_, fun o ho => ?_, h.fresh, h.nodup⟩
        · by_cases hne : dev' = dev
          · subst hne
            rw [hself]
            exact hsurfaces k conn hconn
          · rw [hother dev' hne]
            exact h.surfaces dev' k conn hconn
        · refine ⟨(h.monitors o ho).1, ?_⟩
          by_cases hne : (b'.origin o).1 = dev
          · rw [hne, hself]
            exact hmonitors o ho hne
          · rw [hother _ hne]
            exact (h.monitors o ho).2
      -- what is in use is what drives a surface
      have hused : (fun k => decide (k ∈ d.surfaces)) = fun k => (b.drives dev k).isSome := by
        funext k
        unfold drives surface
        rw [hd, Option.isSome_map, Option.bind_some, Bool.eq_iff_iff, decide_eq_true_iff]
        exact AList.lookup_isSome.symm
      have hconns := collect_conn_infos_conns (fun k => (b.drives dev k).isSome)
        (fun conn => ∃ k, b.drives dev k = some conn) [] t.connectors
      rw [← hused] at hconns hspare
      have hnd : (plugged t.connectors).Nodup := t.nodup.sublist (List.filter_sublist.map _)
      have hsetups := setups_wired scan (proposals d t) hwired hdev hself
        (hnd.sublist hconns.1)
        (fun info hinfo => hconns.1.subset (List.mem_map_of_mem hinfo))
        fun info hinfo k hk => hconns.2 hspare info hinfo ⟨k, hk⟩
      refine ⟨hsetups.1, ?_⟩
      have hadds : Adds dev (shows scan) b' _ := hsetups.2.mono fun c hc => ⟨t, ht, hc⟩
      exact ⟨⟨hadds.beside.lookup, hadds.beside.pending, hadds.beside.session⟩, hadds.devices,
        hadds.monitors⟩

/-! ### Devices -/

/-- The monitors of the device are for connectors that are plugged in. -/
def Shown (b : Udev) (dev : DevId) (t : Topology) : Prop :=
  ∀ m ∈ b.rwl.desk.monitors, (b.origin m.output).1 = dev →
    (b.origin m.output).2 ∈ plugged t.connectors

/-- The surfaces are for connectors that are plugged in, and none of these meets a spare CRTC. -/
def Settled (d : DeviceData) (t : Topology) : Prop :=
  (∀ e ∈ d.surfaces.entries, e.2.connector ∈ plugged t.connectors) ∧
    NoSpare (fun k => decide (k ∈ d.surfaces))
      (fun conn => ∃ e ∈ d.surfaces.entries, e.2.connector = conn) [] t.connectors

instance (b : Udev) (dev : DevId) (t : Topology) : Decidable (b.Shown dev t) :=
  inferInstanceAs (Decidable (∀ m ∈ b.rwl.desk.monitors, _ → _))

instance (d : DeviceData) (t : Topology) : Decidable (Settled d t) :=
  inferInstanceAs (Decidable (_ ∧ _))

theorem Shown.of_adds {b b' : Udev} {dev dev' : DevId} {scan : Scan} {t : Topology}
    (hs : b.Shown dev' t) (h : Adds dev (shows scan) b b')
    (hsame : dev' = dev → scan.topology = some t) : b'.Shown dev' t := by
  intro m hm horigin
  rcases h.monitors m.output (List.mem_map_of_mem hm) with ⟨hold, heq⟩ | ⟨hdev, t', ht', hconn⟩
  · obtain ⟨m', hm', houtput⟩ := List.mem_map.mp hold
    rw [heq, ← houtput] at horigin ⊢
    exact hs m' hm' horigin
  · have ht := hsame (horigin.symm.trans hdev)
    rw [Option.mem_def, ht] at ht'
    exact Option.some.inj ht' ▸ hconn

theorem shown_outputs {b : Udev} {dev : DevId} {t : Topology} (h : b.Shown dev t) :
    ∀ o ∈ b.rwl.desk.outputs, (b.origin o).1 = dev → (b.origin o).2 ∈ plugged t.connectors := by
  intro o ho
  obtain ⟨m, hm, rfl⟩ := List.mem_map.mp ho
  exact h m hm

theorem mem_drives_iff {b : Udev} {dev : DevId} {d : DeviceData}
    (hd : b.devices.lookup dev = some d) {k : Crtc} {conn : ConnId} :
    b.drives dev k = some conn ↔
      ∃ surf : OutputSurface, ⟨k, surf⟩ ∈ d.surfaces.entries ∧ surf.connector = conn := by
  unfold drives surface
  rw [hd, Option.bind_some, Option.map_eq_some_iff]
  refine exists_congr fun surf => and_congr_left fun _ => ?_
  exact AList.mem_lookup_iff

theorem replugged_of_settled {b : Udev} {dev : DevId} {d : DeviceData}
    (hd : b.devices.lookup dev = some d) {t : Topology} (h : Settled d t) (hs : b.Shown dev t) :
    Replugged b dev t := by
  refine ⟨fun k conn hconn => ?_, shown_outputs hs, ?_⟩
  · obtain ⟨surf, hmem, rfl⟩ := (mem_drives_iff hd).mp hconn
    exact h.1 _ hmem
  · have hused : (fun k => (b.drives dev k).isSome) = fun k => decide (k ∈ d.surfaces) := by
      funext k
      unfold drives surface
      rw [hd, Option.isSome_map, Option.bind_some, Bool.eq_iff_iff, decide_eq_true_iff]
      exact AList.lookup_isSome
    have hdriving : (fun conn => ∃ k, b.drives dev k = some conn) =
        fun conn => ∃ e ∈ d.surfaces.entries, e.2.connector = conn := by
      funext conn
      refine propext ⟨?_, ?_⟩
      · rintro ⟨k, hk⟩
        obtain ⟨surf, hmem, hconn⟩ := (mem_drives_iff hd).mp hk
        exact ⟨_, hmem, hconn⟩
      · rintro ⟨⟨k, surf⟩, hmem, hconn⟩
        exact ⟨k, (mem_drives_iff hd).mpr ⟨surf, hmem, hconn⟩⟩
    rw [hused, hdriving]
    exact h.2

theorem noSpare_of_idle {used : Crtc → Bool} {driving : ConnId → Prop}
    (h : ∀ c, ¬ driving c) (claimed : List Crtc) (cs : List Connector) :
    NoSpare used driving claimed cs := by
  induction cs generalizing claimed with
  | nil => trivial
  | cons c cs ih => exact ⟨fun _ _ hc => absurd hc (h _), ih _⟩

/-- A device that opens shows nothing but the monitors it has left behind. -/
theorem open_wired {b : Udev} (h : Wired b) (dev : DevId) (scan : Scan)
    (hshown : ∀ t ∈ scan.topology, b.Shown dev t) :
    Wired (b.open_device dev scan) ∧ Adds dev (shows scan) b (b.open_device dev scan) := by
  set b' : Udev := { b with
    devices := b.devices.insert dev { active := true, surfaces := ∅ }
    in_flight := Function.update b.in_flight dev fun _ => false } with hb'
  have hother (dev' : DevId) (hne : dev' ≠ dev) :
      b'.devices.lookup dev' = b.devices.lookup dev' := AList.lookup_insert_ne hne
  have hidle (k : Crtc) : b'.drives dev k = none := by
    unfold drives surface
    rw [show b'.devices.lookup dev = some { active := true, surfaces := ∅ } from
      AList.lookup_insert _]
    rfl
  have hdrives (dev' : DevId) (k : Crtc) (conn : ConnId) (hconn : b'.drives dev' k = some conn) :
      b.drives dev' k = some conn := by
    by_cases hne : dev' = dev
    · rw [hne, hidle] at hconn
      cases hconn
    · unfold drives surface at hconn ⊢
      rwa [hother dev' hne] at hconn
  have hdevices (dev' : DevId) (hd : dev' ∈ b.devices) : dev' ∈ b'.devices :=
    AList.mem_insert _ |>.mpr (.inr hd)
  have hwired : Wired b' := by
    refine ⟨fun dev' k k' conn hk hk' => ?_, fun dev' k conn hconn => ?_, fun o ho => ?_,
      h.fresh, h.nodup⟩
    · exact h.single dev' k k' conn (hdrives dev' k conn hk) (hdrives dev' k' conn hk')
    · exact h.surfaces dev' k conn (hdrives dev' k conn hconn)
    · exact ⟨hdevices _ (h.monitors o ho).1, (h.monitors o ho).2⟩
  have hadds : Adds dev (shows scan) b b' :=
    ⟨⟨hother, rfl, rfl⟩, hdevices, fun o ho => .inl ⟨ho, rfl⟩⟩
  have hscan := scan_wired hwired dev scan fun t ht => by
    refine ⟨fun k conn hconn => ?_, shown_outputs (hshown t ht), noSpare_of_idle ?_ _ _⟩
    · rw [hidle] at hconn
      cases hconn
    · rintro c ⟨k, hk⟩
      rw [hidle] at hk
      cases hk
  exact ⟨hscan.1, hadds.trans hscan.2⟩

/-- Frames on any CRTCs. -/
theorem frames_wired (dev : DevId) (frame : Crtc → FrameOutcome) (crtcs : List Crtc) (b : Udev) :
    let b' := crtcs.foldl (fun b crtc => b.on_vblank dev crtc (frame crtc)) b
    Frame b b' ∧ Beside dev b b' := by
  induction crtcs generalizing b with
  | nil => exact ⟨.refl b, .refl dev b⟩
  | cons crtc crtcs ih =>
    have hone := frame_on_vblank b dev crtc (frame crtc)
    have hrest := ih (b.on_vblank dev crtc (frame crtc))
    exact ⟨hone.1.trans hrest.1, hone.2.trans hrest.2⟩

/-- A device that is activated again. -/
theorem activate_wired {b : Udev} (h : Wired b) {r : Resume} {dev : DevId}
    (hplug : ∀ d ∈ b.devices.lookup dev, d.active = false → r.activated dev = true →
      ∀ t ∈ (r.scan dev).topology, Settled d t ∧ b.Shown dev t) :
    Wired (b.activate_device r dev) ∧
      Adds dev (shows (r.scan dev)) b (b.activate_device r dev) := by
  unfold activate_device
  cases hd : b.devices.lookup dev with
  | none => exact ⟨h, .refl ..⟩
  | some d =>
    dsimp only
    split_ifs with hskip
    · exact ⟨h, .refl ..⟩
    obtain ⟨hinactive, hactivated⟩ := not_or.mp hskip
    set reset : OutputSurface → OutputSurface := fun surf => { surf with flip_pending := false }
    set b₁ : Udev := { b with
      devices := b.devices.insert dev { active := true, surfaces := mapVals reset d.surfaces }
      in_flight := Function.update b.in_flight dev fun _ => false }
    have hbeside : Beside dev b b₁ := ⟨fun _ hne => AList.lookup_insert_ne hne, rfl, rfl⟩
    have hreset : Frame b b₁ := by
      refine ⟨fun dev' k => ?_, fun dev' => ?_, rfl, rfl, rfl, rfl⟩
      · unfold drives surface
        by_cases hne : dev' = dev
        · subst hne
          rw [hd, show b₁.devices.lookup dev' = some _ from AList.lookup_insert _]
          dsimp only [Option.bind_some]
          rw [lookup_mapVals, Option.map_map]
          rfl
        · rw [hbeside.lookup dev' hne]
      · rw [AList.mem_insert]
        refine or_iff_right_of_imp ?_
        rintro rfl
        rw [← AList.lookup_isSome, hd]
        rfl
    have hscan := scan_wired (hreset.wired h) dev (r.scan dev) fun t ht => by
      have hsettled := hplug d hd (Bool.eq_false_of_not_eq_true hinactive)
        (Bool.eq_true_of_not_eq_false hactivated) t ht
      exact (replugged_of_settled hd hsettled.1 hsettled.2).of_frame hreset
    have hframes := frames_wired dev (r.frame dev)
      (((b₁.scan_connectors dev (r.scan dev)).devices.lookup dev).map
        (fun d => d.surfaces.keys) |>.getD []) (b₁.scan_connectors dev (r.scan dev))
    exact ⟨hframes.1.wired hscan.1,
      ((Adds.of_frame hreset hbeside).trans hscan.2).trans (.of_frame hframes.1 hframes.2)⟩

theorem mem_foldl_removed (es : List ((_ : Crtc) × OutputSurface)) {s : Rwl}
    (hnd : s.desk.outputs.Nodup) :
    let s' := es.foldl (fun s e => Rwl.step s (.output_removed e.2.output)) s
    s'.desk.outputs.Nodup ∧
      ∀ o ∈ s'.desk.outputs, o ∈ s.desk.outputs ∧ ∀ e ∈ es, e.2.output ≠ o := by
  induction es generalizing s with
  | nil => exact ⟨hnd, fun o ho => ⟨ho, fun _ h => absurd h List.not_mem_nil⟩⟩
  | cons e es ih =>
    have herase := Rwl.outputs_output_removed s e.2.output
    obtain ⟨hnd', hrest⟩ := ih (s := Rwl.step s (.output_removed e.2.output)) <| by
      rw [herase]
      exact hnd.erase _
    refine ⟨hnd', fun o ho => ?_⟩
    obtain ⟨hmem, hne⟩ := hrest o ho
    rw [herase, hnd.mem_erase_iff] at hmem
    refine ⟨hmem.2, fun e' he' => ?_⟩
    rcases List.mem_cons.mp he' with rfl | he'
    · exact hmem.1.symm
    · exact hne e' he'

/-- A removed device takes its monitors along. -/
theorem removed_wired {b : Udev} (h : Wired b) {dev : DevId}
    (hown : ∀ d ∈ b.devices.lookup dev, ∀ m ∈ b.rwl.desk.monitors, (b.origin m.output).1 = dev →
      ∃ e ∈ d.surfaces.entries, e.2.output = m.output) :
    Wired (b.backend_device_removed dev) := by
  unfold backend_device_removed
  cases hd : b.devices.lookup dev with
  | none => exact h
  | some d =>
    obtain ⟨hnd, hmem⟩ := mem_foldl_removed d.surfaces.entries h.nodup
    have hdrives (dev' : DevId) (k : Crtc) (conn : ConnId)
        (hconn : (((b.devices.erase dev).lookup dev').bind fun d => d.surfaces.lookup k).map
          OutputSurface.connector = some conn) : b.drives dev' k = some conn := by
      by_cases hne : dev' = dev
      · subst hne
        rw [AList.lookup_erase] at hconn
        cases hconn
      · rwa [AList.lookup_erase_ne hne] at hconn
    refine ⟨fun dev' k k' conn hk hk' => ?_, fun dev' k conn hconn => ?_, fun o ho => ?_,
      fun o ho => h.fresh o (hmem o ho).1, hnd⟩
    · exact h.single dev' k k' conn (hdrives dev' k conn hk) (hdrives dev' k' conn hk')
    · exact h.surfaces dev' k conn (hdrives dev' k conn hconn)
    · obtain ⟨hold, hne⟩ := hmem o ho
      obtain ⟨m, hm, rfl⟩ := List.mem_map.mp hold
      refine ⟨AList.mem_erase.mpr ⟨fun heq => ?_, (h.monitors _ hold).1⟩, (h.monitors _ hold).2⟩
      obtain ⟨e, he, houtput⟩ := hown d hd m hm heq
      exact hne e he houtput

/-! ### Runs -/

/-- What the scans of a resume find. -/
def Resumes (b : Udev) (session_active : Bool) (r : Resume) : Prop :=
  (∀ dev ∈ b.devices.keys, ∀ d ∈ b.devices.lookup dev, d.active = false →
      r.activated dev = true → ∀ t ∈ (r.scan dev).topology, Settled d t ∧ b.Shown dev t) ∧
    (session_active = true → ∀ dev ∈ b.pending_devices, r.opened dev = true →
      ∀ t ∈ (r.scan dev).topology, b.Shown dev t)

/-- The rescans of an event find every connector where it was, and a device that goes has a
surface for each of its monitors. -/
def ConnectorsStay (b : Udev) : DrmEvent → Prop
  | .added dev opened scan => b.session_active = true → opened = true →
      ∀ t ∈ scan.topology, b.Shown dev t
  | .changed dev scan => ∀ d ∈ b.devices.lookup dev, ∀ t ∈ scan.topology,
      Settled d t ∧ b.Shown dev t
  | .removed dev => ∀ d ∈ b.devices.lookup dev, ∀ m ∈ b.rwl.desk.monitors,
      (b.origin m.output).1 = dev → ∃ e ∈ d.surfaces.entries, e.2.output = m.output
  | .activate_session r => b.Resumes true r
  | .startup r | .ipc_resume r => b.Resumes b.session_active r
  | _ => True

instance (b : Udev) (active : Bool) (r : Resume) : Decidable (b.Resumes active r) :=
  inferInstanceAs (Decidable (_ ∧ _))

instance (b : Udev) (e : DrmEvent) : Decidable (b.ConnectorsStay e) := by
  apply DrmEvent.casesOn (motive := fun e => Decidable (b.ConnectorsStay e)) e <;> intros <;>
    dsimp only [ConnectorsStay] <;> infer_instance

/-- What holds of devices that are not yet activated holds once another one is. -/
theorem activates_wired {r : Resume} (devs : List DevId) {b : Udev} (h : Wired b)
    (hnd : devs.Nodup)
    (hplug : ∀ dev ∈ devs, ∀ d ∈ b.devices.lookup dev, d.active = false →
      r.activated dev = true → ∀ t ∈ (r.scan dev).topology, Settled d t ∧ b.Shown dev t) :
    let b' := devs.foldl (fun b dev => b.activate_device r dev) b
    Wired b' ∧ b'.pending_devices = b.pending_devices ∧ b'.session_active = b.session_active ∧
      ∀ dev t, (r.scan dev).topology = some t → b.Shown dev t → b'.Shown dev t := by
  induction devs generalizing b with
  | nil => exact ⟨h, rfl, rfl, fun _ _ _ hs => hs⟩
  | cons dev devs ih =>
    rw [List.nodup_cons] at hnd
    obtain ⟨hwired, hadds⟩ := activate_wired h (hplug dev List.mem_cons_self)
    have hstay (dev' : DevId) (t : Topology) (ht : (r.scan dev').topology = some t)
        (hs : b.Shown dev' t) : (b.activate_device r dev).Shown dev' t :=
      hs.of_adds hadds fun heq => heq ▸ ht
    have hrest := ih hwired hnd.2 fun dev' hmem d hd hinactive hactivated t ht => by
      rw [hadds.beside.lookup dev' fun heq => hnd.1 (heq ▸ hmem)] at hd
      have hold := hplug dev' (List.mem_cons_of_mem _ hmem) d hd hinactive hactivated t ht
      exact ⟨hold.1, hstay dev' t ht hold.2⟩
    exact ⟨hrest.1, hrest.2.1.trans hadds.beside.pending,
      hrest.2.2.1.trans hadds.beside.session,
      fun dev' t ht hs => hrest.2.2.2 dev' t ht (hstay dev' t ht hs)⟩

theorem opens_wired {r : Resume} (devs : List DevId) {b : Udev} (h : Wired b)
    (hshown : b.session_active = true → ∀ dev ∈ devs, r.opened dev = true →
      ∀ t ∈ (r.scan dev).topology, b.Shown dev t) :
    Wired (devs.foldl (fun b dev => if b.session_active = false ∨ r.opened dev = false then b
      else b.open_device dev (r.scan dev)) b) := by
  induction devs generalizing b with
  | nil => exact h
  | cons dev devs ih =>
    rw [List.foldl_cons]
    split_ifs with hskip
    · exact ih h fun hactive dev' hmem => hshown hactive dev' (List.mem_cons_of_mem _ hmem)
    obtain ⟨hactive, hopened⟩ := not_or.mp hskip
    rw [Bool.not_eq_false] at hactive hopened
    obtain ⟨hwired, hadds⟩ := open_wired h dev (r.scan dev)
      (hshown hactive dev List.mem_cons_self hopened)
    refine ih hwired fun _ dev' hmem hopened' t ht => ?_
    exact (hshown hactive dev' (List.mem_cons_of_mem _ hmem) hopened' t ht).of_adds hadds
      fun heq => heq ▸ ht

theorem resume_wired {b : Udev} (h : Wired b) {r : Resume} (hr : b.Resumes b.session_active r) :
    Wired (b.open_pending_devices r) := by
  obtain ⟨hplug, hshown⟩ := hr
  obtain ⟨hwired, hpending, hsession, hstay⟩ :=
    activates_wired b.devices.keys h b.devices.keys_nodup hplug
  unfold open_pending_devices
  dsimp only
  refine opens_wired _ ⟨hwired.single, hwired.surfaces, hwired.monitors, hwired.fresh,
    hwired.nodup⟩ fun hactive dev hmem hopened t ht => ?_
  rw [hpending] at hmem
  exact hstay dev t ht (hshown (hsession.symm.trans hactive) dev hmem hopened t ht)

theorem step_wired {b : Udev} {e : DrmEvent} (h : Wired b) (hstay : b.ConnectorsStay e) :
    Wired (drmStep b e) := by
  have hevent (e : Rwl.Event) (hadd : ∀ o info, e ≠ .output_added o info)
      (hremove : ∀ o, e ≠ .output_removed o) {b : Udev} (h : Wired b) :
      Wired { b with rwl := Rwl.step b.rwl e } := by
    have hframe : Frame b { b with rwl := Rwl.step b.rwl e } :=
      ⟨fun _ _ => rfl, fun _ => Iff.rfl, rfl, rfl, rfl, Rwl.outputs_step b.rwl e hadd hremove⟩
    exact hframe.wired h
  cases e with
  | vblank dev crtc f => exact (frame_vblank b dev crtc f).wired h
  | idle_render dev crtc f => exact (frame_idle_render b dev crtc f).wired h
  | added dev opened scan =>
    rw [drmStep]
    unfold enqueue_device
    dsimp only
    split_ifs with hskip hread
    · exact ⟨h.single, h.surfaces, h.monitors, h.fresh, h.nodup⟩
    all_goals
      obtain ⟨hactive, hopened⟩ := not_or.mp hskip
      rw [Bool.not_eq_false] at hactive hopened
      have hopen := (open_wired h dev scan (hstay hactive hopened)).1
    · exact hopen
    · exact ⟨hopen.single, hopen.surfaces, hopen.monitors, hopen.fresh, hopen.nodup⟩
  | changed dev scan =>
    rw [drmStep, backend_device_changed]
    cases hd : b.devices.lookup dev with
    | none =>
      unfold scan_connectors
      rw [hd]
      exact h
    | some d =>
      refine (scan_wired h dev scan fun t ht => ?_).1
      have hsettled := hstay d hd t ht
      exact replugged_of_settled hd hsettled.1 hsettled.2
  | removed dev => exact removed_wired h hstay
  | pause_session => exact (frame_pause b).wired h
  | activate_session r =>
    exact resume_wired (b := { b with session_active := true })
      ⟨h.single, h.surfaces, h.monitors, h.fresh, h.nodup⟩ hstay
  | startup r => exact resume_wired h hstay
  | ipc_resume r =>
    refine hevent .ipc_resume ?_ ?_ (resume_wired h hstay)
    · intro _ _ heq
      cases heq
    · intro _ heq
      cases heq
  | event e =>
    rw [drmStep]
    split_ifs with hbackend
    · exact h
    · refine hevent e ?_ ?_ h
      · rintro o info rfl
        exact hbackend rfl
      · rintro o rfl
        exact hbackend rfl

theorem wired_init (env : Rwl.Setup) (session_active : Bool) (device_list : List DevId) :
    Wired (Udev.init env session_active device_list) := by
  refine ⟨?_, ?_, fun _ h => absurd h List.not_mem_nil, fun _ h => absurd h List.not_mem_nil,
    List.nodup_nil⟩
  · intro dev k k' conn hk
    cases hk
  · intro dev k conn hconn
    cases hconn

/-- **Every connector drives one surface at most, and what is shown is plugged in, in every run
whose rescans find every connector where it was.** -/
theorem connectors_wired (env : Rwl.Setup) (session_active : Bool) (device_list : List DevId)
    (es : List DrmEvent)
    (h : Guarded drmStep ConnectorsStay (Udev.init env session_active device_list) es) :
    Always drmStep Bijection (Udev.init env session_active device_list) es :=
  (h.always (fun _ _ => step_wired) (wired_init env session_active device_list)).mono
    fun _ hb => hb.bijection

/-- A monitor plugged in during a suspend, and a device that goes. -/
def suspendedRun : List DrmEvent :=
  [.startup (plainResume false false), .vblank 0 0 (drawnFrame true), .pause_session,
    .activate_session (plainResume true false), .changed 0 ((plainResume true false).scan 0),
    .removed 0, .added 0 true ((plainResume true false).scan 0)]

theorem connectors_wired_suspended :
    Always drmStep Bijection (Udev.init (Rwl.plainSetup [] []) true [0]) suspendedRun :=
  connectors_wired (Rwl.plainSetup [] []) true [0] suspendedRun (by decide +kernel)

/-- One connector and two CRTCs it can use. -/
def spareCrtc : Topology where
  connectors := [{ plainConnector 0 true with crtcs := [0, 1] }]
  nodup := by simp

/-- A device with a spare CRTC, scanned again. -/
def rescannedRun : List DrmEvent :=
  let scan : Scan := ⟨some spareCrtc, fun _ => true, fun _ => drawnFrame true⟩
  [.added 0 true scan, .changed 0 scan]

/-- The second scan makes another surface for the connector. -/
theorem not_connectors_wired :
    ¬ ∀ (env : Rwl.Setup) (session_active : Bool) (device_list : List DevId)
        (es : List DrmEvent),
      Always drmStep Bijection (Udev.init env session_active device_list) es := by
  intro h
  have hend := (h (Rwl.plainSetup [] []) true [] rescannedRun).last
  have hdrives (k : Crtc) (hk : k < 2) :
      (run drmStep (Udev.init (Rwl.plainSetup [] []) true []) rescannedRun).drives 0 k =
        some 0 := by
    revert k
    decide +kernel
  have hsame := hend.single 0 0 1 0 (hdrives 0 (by decide)) (hdrives 1 (by decide))
  exact absurd hsame (by decide)

end Udev

end Compositor
