import Mathlib.Tactic.Common
import Rwl.Core.Drm

/-!
# One page flip at a time

* `Sound`: the surfaces know which of their frames are in flight, and no frame was queued while
  another one was;
* `Only dev C`: a change of the CRTCs in `C` of one device;
* `collect_conn_infos`: its CRTCs are distinct, free and not claimed;
* `on_vblank_sound`, `setup_sound`, `scan_sound`, `activate_sound`, `open_sound`: one lemma each;
* `ResumesOnce`: an activated device does not render a surface that its scan has just rendered;
* `one_flip`: with it, no frame is ever queued on another one.
-/

namespace Compositor

open Transition Keyed

namespace Udev

/-- The surface of a CRTC waits for a flip. -/
def flipping (b : Udev) (dev : DevId) (crtc : Crtc) : Bool :=
  ((b.surface dev crtc).map OutputSurface.flip_pending).getD false

/-- No frame was queued while one was in flight. -/
def OneFlip (b : Udev) : Prop :=
  ∀ c ∈ b.queue_log, c.flip_pending = false ∧ c.in_flight = false

/-- The surfaces know what is in flight, and it was never two frames. -/
structure Sound (b : Udev) : Prop where
  tracked : ∀ dev crtc, b.in_flight dev crtc = b.flipping dev crtc
  oneFlip : b.OneFlip

/-- Between the states, nothing has changed but the CRTCs in `C` of the device. -/
structure Only (dev : DevId) (C : Crtc → Prop) (b b' : Udev) : Prop where
  devices : ∀ dev' ≠ dev, b'.devices.lookup dev' = b.devices.lookup dev'
  flights : ∀ dev' ≠ dev, b'.in_flight dev' = b.in_flight dev'
  surface : ∀ crtc, ¬ C crtc → b'.surface dev crtc = b.surface dev crtc
  flight : ∀ crtc, ¬ C crtc → b'.in_flight dev crtc = b.in_flight dev crtc

namespace Only

variable {dev : DevId} {C C' : Crtc → Prop} {b b' b'' : Udev}

theorem refl (dev : DevId) (C : Crtc → Prop) (b : Udev) : Only dev C b b :=
  ⟨fun _ _ => rfl, fun _ _ => rfl, fun _ _ => rfl, fun _ _ => rfl⟩

theorem trans (h : Only dev C b b') (h' : Only dev C b' b'') : Only dev C b b'' where
  devices dev' hd := (h'.devices dev' hd).trans (h.devices dev' hd)
  flights dev' hd := (h'.flights dev' hd).trans (h.flights dev' hd)
  surface crtc hc := (h'.surface crtc hc).trans (h.surface crtc hc)
  flight crtc hc := (h'.flight crtc hc).trans (h.flight crtc hc)

theorem mono (h : Only dev C b b') (hC : ∀ crtc, C crtc → C' crtc) : Only dev C' b b' where
  devices := h.devices
  flights := h.flights
  surface crtc hc := h.surface crtc fun hc' => hc (hC crtc hc')
  flight crtc hc := h.flight crtc fun hc' => hc (hC crtc hc')

/-- Outside the change, what waits is the same. -/
theorem flipping (h : Only dev C b b') {dev' : DevId} {crtc : Crtc}
    (hout : dev' = dev → ¬ C crtc) : b'.flipping dev' crtc = b.flipping dev' crtc := by
  by_cases hd : dev' = dev
  · subst hd
    rw [Udev.flipping, h.surface crtc (hout rfl)]
    rfl
  · rw [Udev.flipping, Udev.surface, h.devices dev' hd]
    rfl

theorem in_flight (h : Only dev C b b') {dev' : DevId} {crtc : Crtc}
    (hout : dev' = dev → ¬ C crtc) : b'.in_flight dev' crtc = b.in_flight dev' crtc := by
  by_cases hd : dev' = dev
  · subst hd
    exact h.flight crtc (hout rfl)
  · rw [h.flights dev' hd]

end Only

/-! ### One surface -/

theorem surface_modifySurface_self (b : Udev) (dev : DevId) (crtc : Crtc)
    (f : OutputSurface → OutputSurface) :
    (b.modifySurface dev crtc f).surface dev crtc = (b.surface dev crtc).map f := by
  unfold surface modifySurface
  cases hd : b.devices.lookup dev <;> simp [hd]

theorem only_modifySurface (b : Udev) (dev : DevId) (crtc : Crtc)
    (f : OutputSurface → OutputSurface) : Only dev (· = crtc) b (b.modifySurface dev crtc f) where
  devices dev' hd := lookup_modify_ne _ _ hd
  flights _ _ := rfl
  surface k hk := by
    unfold surface modifySurface
    cases hd : b.devices.lookup dev <;> simp [hd, lookup_modify_ne _ _ hk]
  flight _ _ := rfl

/-- Writing the flag of a surface and its flight at once keeps them equal. -/
theorem Sound.setFlip {b : Udev} (h : Sound b) {dev : DevId} {crtc : Crtc} {surf : OutputSurface}
    (hs : b.surface dev crtc = some surf) (v : Bool) :
    Sound { b.modifySurface dev crtc (fun surf => { surf with flip_pending := v }) with
      in_flight := Function.update b.in_flight dev (Function.update (b.in_flight dev) crtc v) } ∧
    Only dev (· = crtc) b
      { b.modifySurface dev crtc (fun surf => { surf with flip_pending := v }) with
        in_flight := Function.update b.in_flight dev (Function.update (b.in_flight dev) crtc v) } ∧
    flipping { b.modifySurface dev crtc (fun surf => { surf with flip_pending := v }) with
      in_flight := Function.update b.in_flight dev (Function.update (b.in_flight dev) crtc v) }
        dev crtc = v := by
  set b' : Udev := { b.modifySurface dev crtc (fun surf => { surf with flip_pending := v }) with
    in_flight := Function.update b.in_flight dev (Function.update (b.in_flight dev) crtc v) }
  have honly : Only dev (· = crtc) b b' := by
    have hmod := only_modifySurface b dev crtc fun surf => { surf with flip_pending := v }
    refine ⟨hmod.devices, fun dev' hd => ?_, hmod.surface, fun k hk => ?_⟩
    · exact Function.update_of_ne hd _ _
    · exact (congrFun (Function.update_self dev _ b.in_flight) k).trans
        (Function.update_of_ne hk _ _)
  have hflip : b'.flipping dev crtc = v := by
    have hsurf : b'.surface dev crtc = (b.surface dev crtc).map _ :=
      surface_modifySurface_self b dev crtc fun surf => { surf with flip_pending := v }
    rw [flipping, hsurf, hs]
    rfl
  refine ⟨⟨fun dev' k => ?_, h.oneFlip⟩, honly, hflip⟩
  by_cases hk : dev' = dev ∧ k = crtc
  · obtain ⟨rfl, rfl⟩ := hk
    rw [hflip]
    exact (congrFun (Function.update_self dev' _ b.in_flight) k).trans (Function.update_self ..)
  · have hout : dev' = dev → ¬ k = crtc := fun hd hkc => hk ⟨hd, hkc⟩
    rw [honly.in_flight hout, honly.flipping hout]
    exact h.tracked dev' k

/-- One frame: it may be queued when none is in flight. -/
theorem on_vblank_sound {b : Udev} (h : Sound b) {dev : DevId} {crtc : Crtc} {f : FrameOutcome}
    (hfree : f.queue = none ∨ b.flipping dev crtc = false) :
    Sound (b.on_vblank dev crtc f) ∧ Only dev (· = crtc) b (b.on_vblank dev crtc f) ∧
      ((b.on_vblank dev crtc f).flipping dev crtc = true →
        b.flipping dev crtc = true ∨ f.queue = some true) := by
  unfold on_vblank
  cases hd : b.devices.lookup dev with
  | none => exact ⟨h, .refl .., .inl⟩
  | some d =>
    dsimp only
    split_ifs with hactive
    · exact ⟨h, .refl .., .inl⟩
    cases hs : d.surfaces.lookup crtc with
    | none => exact ⟨h, .refl .., .inl⟩
    | some surf =>
      set b' : Udev := { b with rwl := Rwl.step b.rwl (.vblank surf.output f.out) }
      have hsound' : Sound b' := ⟨h.tracked, h.oneFlip⟩
      cases hq : f.queue with
      | none =>
        exact ⟨hsound', ⟨fun _ _ => rfl, fun _ _ => rfl, fun _ _ => rfl, fun _ _ => rfl⟩, .inl⟩
      | some ok =>
        rw [hq] at hfree
        have hidle : b.flipping dev crtc = false := hfree.resolve_left (Option.some_ne_none _)
        have hsurf : b'.surface dev crtc = some surf := by
          unfold surface
          rw [show b'.devices.lookup dev = some d from hd]
          exact hs
        -- the call is logged with nothing pending
        have hlogged : Sound { b' with queue_log := b'.queue_log ++ [{
            device := dev
            crtc := crtc
            flip_pending := b'.flipping dev crtc
            in_flight := b'.in_flight dev crtc }] } := by
          refine ⟨hsound'.tracked, fun c hc => ?_⟩
          rcases List.mem_append.mp hc with hc | hc
          · exact h.oneFlip c hc
          · rw [List.mem_singleton.mp hc]
            exact ⟨hidle, (h.tracked dev crtc).trans hidle⟩
        dsimp only
        unfold queue_frame
        cases ok with
        | false =>
          exact ⟨hlogged, ⟨fun _ _ => rfl, fun _ _ => rfl, fun _ _ => rfl, fun _ _ => rfl⟩, .inl⟩
        | true =>
          have hset := hlogged.setFlip hsurf true
          exact ⟨hset.1, ⟨hset.2.1.devices, hset.2.1.flights, hset.2.1.surface, hset.2.1.flight⟩,
            fun _ => .inr rfl⟩

/-- An idle callback renders only a surface with no flip in flight. -/
theorem idle_render_sound {b : Udev} (h : Sound b) (dev : DevId) (crtc : Crtc)
    (f : FrameOutcome) : Sound (b.idle_render dev crtc f) := by
  unfold idle_render
  dsimp only
  split_ifs with hidle
  · refine (on_vblank_sound h (.inr ?_)).1
    cases hs : b.surface dev crtc with
    | none => rw [hs] at hidle; exact absurd hidle.2 (by decide)
    | some surf =>
      rw [hs] at hidle
      rw [flipping, hs]
      exact hidle.2
  · exact h

/-- A completed flip is cleared before the next frame. -/
theorem vblank_sound {b : Udev} (h : Sound b) (dev : DevId) (crtc : Crtc) (f : FrameOutcome) :
    Sound (b.vblank dev crtc f) := by
  unfold vblank
  cases hs : b.surface dev crtc with
  | none =>
    refine (on_vblank_sound h (.inr ?_)).1
    rw [flipping, hs]
    rfl
  | some surf =>
    have hset := h.setFlip hs false
    exact (on_vblank_sound hset.1 (.inr hset.2.2)).1

/-! ### Scans -/

/-- The CRTCs of the proposals are distinct, free and not claimed. -/
theorem collect_conn_infos_crtcs (used : Crtc → Bool) (claimed : List Crtc)
    (cs : List Connector) :
    ((collect_conn_infos used claimed cs).map ConnInfo.crtc).Nodup ∧
      ∀ info ∈ collect_conn_infos used claimed cs,
        used info.crtc = false ∧ info.crtc ∉ claimed := by
  induction cs generalizing claimed with
  | nil => exact ⟨List.nodup_nil, fun _ h => absurd h List.not_mem_nil⟩
  | cons c cs ih =>
    unfold collect_conn_infos
    split
    · rename_i mode crtc hcon hmode hfind
      obtain ⟨hnd, hall⟩ := ih (crtc :: claimed)
      have hfree := List.find?_some hfind
      rw [Bool.and_eq_true, Bool.not_eq_true', Bool.not_eq_true'] at hfree
      have hclaimed : crtc ∉ claimed := by
        intro hmem
        rw [List.contains_iff_mem.mpr hmem] at hfree
        exact absurd hfree.2 (by decide)
      refine ⟨?_, ?_⟩
      · rw [List.map_cons, List.nodup_cons]
        refine ⟨fun hmem => ?_, hnd⟩
        obtain ⟨info, hinfo, hcrtc⟩ := List.mem_map.mp hmem
        exact (hall info hinfo).2 (hcrtc ▸ List.mem_cons_self)
      · intro info hinfo
        rcases List.mem_cons.mp hinfo with rfl | hinfo
        · exact ⟨hfree.1, hclaimed⟩
        · exact ⟨(hall info hinfo).1, fun hmem =>
            (hall info hinfo).2 (List.mem_cons_of_mem _ hmem)⟩
    · exact ih claimed

/-- A new surface starts with no flip in flight. -/
theorem setup_sound {b : Udev} (h : Sound b) {dev : DevId} (scan : Scan) {info : ConnInfo}
    (hfree : b.surface dev info.crtc = none) :
    Sound (b.setup_connector_output dev scan info) ∧
      Only dev (· = info.crtc) b (b.setup_connector_output dev scan info) ∧
      ((b.setup_connector_output dev scan info).flipping dev info.crtc = true →
        scan.built info.crtc = true ∧ (scan.first info.crtc).queue = some true) := by
  unfold setup_connector_output
  dsimp only
  have hnone : b.flipping dev info.crtc = false := by
    rw [flipping, hfree]
    rfl
  split_ifs with hbuilt
  · refine ⟨⟨h.tracked, h.oneFlip⟩, ⟨fun _ _ => rfl, fun _ _ => rfl, fun _ _ => rfl,
      fun _ _ => rfl⟩, fun hflip => ?_⟩
    have hflip' : b.flipping dev info.crtc = true := hflip
    rw [hnone] at hflip'
    cases hflip'
  · set surf : OutputSurface :=
      { output := b.next_output, flip_pending := false, connector := info.conn }
    set b' : Udev := { b with
      rwl := Rwl.step b.rwl (.output_added b.next_output (newOutput info))
      next_output := b.next_output + 1
      devices := modify dev (fun d => { d with surfaces := d.surfaces.insert info.crtc surf })
        b.devices
      origin := Function.update b.origin b.next_output (dev, info.conn) } with hb'
    have honly : Only dev (· = info.crtc) b b' := by
      refine ⟨fun dev' hd => lookup_modify_ne _ _ hd, fun _ _ => rfl, fun k hk => ?_,
        fun _ _ => rfl⟩
      unfold surface
      rw [show b'.devices.lookup dev = (b.devices.lookup dev).map _ from lookup_modify_self ..]
      cases b.devices.lookup dev with
      | none => rfl
      | some d => exact AList.lookup_insert_ne hk
    have hidle : b'.flipping dev info.crtc = false := by
      unfold flipping surface
      rw [show b'.devices.lookup dev = (b.devices.lookup dev).map _ from lookup_modify_self ..]
      cases b.devices.lookup dev <;> simp [surf]
    have hsound : Sound b' := by
      refine ⟨fun dev' k => ?_, h.oneFlip⟩
      by_cases hk : dev' = dev ∧ k = info.crtc
      · obtain ⟨rfl, rfl⟩ := hk
        rw [hidle]
        exact (h.tracked dev' info.crtc).trans hnone
      · have hout : dev' = dev → ¬ k = info.crtc := fun hd hkc => hk ⟨hd, hkc⟩
        rw [honly.flipping hout]
        exact h.tracked dev' k
    have hframe := on_vblank_sound hsound (f := scan.first info.crtc) (.inr hidle)
    refine ⟨hframe.1, honly.trans hframe.2.1, fun hflip => ?_⟩
    rcases hframe.2.2 hflip with hflip | hqueue
    · rw [hidle] at hflip
      cases hflip
    · exact ⟨Bool.eq_true_of_not_eq_false hbuilt, hqueue⟩

/-- A list of proposals with distinct free CRTCs. -/
theorem setups_sound (dev : DevId) (scan : Scan) (infos : List ConnInfo) {b : Udev}
    (h : Sound b) (hnd : (infos.map ConnInfo.crtc).Nodup)
    (hfree : ∀ info ∈ infos, b.surface dev info.crtc = none) :
    let b' := infos.foldl (fun b info => b.setup_connector_output dev scan info) b
    Sound b' ∧ Only dev (fun k => k ∈ infos.map ConnInfo.crtc) b b' ∧
      ∀ info ∈ infos, b'.flipping dev info.crtc = true →
        scan.built info.crtc = true ∧ (scan.first info.crtc).queue = some true := by
  induction infos generalizing b with
  | nil => exact ⟨h, .refl .., fun _ hmem => absurd hmem List.not_mem_nil⟩
  | cons info infos ih =>
    rw [List.map_cons, List.nodup_cons] at hnd
    have hone := setup_sound h scan (hfree info List.mem_cons_self)
    have hne {info' : ConnInfo} (hmem : info' ∈ infos) : info'.crtc ≠ info.crtc := fun heq =>
      hnd.1 (heq ▸ List.mem_map_of_mem hmem)
    have hrest := ih hone.1 hnd.2 fun info' hmem =>
      (hone.2.1.surface info'.crtc (hne hmem)).trans (hfree info' (List.mem_cons_of_mem _ hmem))
    refine ⟨hrest.1, (hone.2.1.mono ?_).trans (hrest.2.1.mono ?_), ?_⟩
    · rintro k rfl
      exact List.mem_cons_self
    · exact fun k hk => List.mem_cons_of_mem _ hk
    · intro info' hmem hflip
      rcases List.mem_cons.mp hmem with rfl | hmem
      · rw [List.foldl_cons] at hflip
        rw [hrest.2.1.flipping fun _ hk => hnd.1 hk] at hflip
        exact hone.2.2 hflip
      · exact hrest.2.2 info' hmem hflip

/-- The proposals of a scan are for CRTCs without a surface. -/
theorem proposals_free {d : DeviceData} {t : Topology} {info : ConnInfo}
    (h : info ∈ proposals d t) : d.surfaces.lookup info.crtc = none := by
  have hused := ((collect_conn_infos_crtcs _ _ _).2 info h).1
  rw [AList.lookup_eq_none]
  exact of_decide_eq_false hused

theorem proposals_nodup (d : DeviceData) (t : Topology) :
    ((proposals d t).map ConnInfo.crtc).Nodup := (collect_conn_infos_crtcs _ _ _).1

/-- A scan renders new surfaces only. -/
theorem scan_sound {b : Udev} (h : Sound b) (dev : DevId) (scan : Scan) :
    Sound (b.scan_connectors dev scan) ∧
      Only dev (fun _ => True) b (b.scan_connectors dev scan) ∧
      ∀ crtc, (b.scan_connectors dev scan).flipping dev crtc = true →
        b.flipping dev crtc = true ∨ ∃ d t info, b.devices.lookup dev = some d ∧
          scan.topology = some t ∧ info ∈ proposals d t ∧ info.crtc = crtc ∧
            scan.built crtc = true ∧ (scan.first crtc).queue = some true := by
  unfold scan_connectors
  cases hd : b.devices.lookup dev with
  | none => exact ⟨h, .refl .., fun _ => .inl⟩
  | some d =>
    cases ht : scan.topology with
    | none => exact ⟨h, .refl .., fun _ => .inl⟩
    | some t =>
      set b' : Udev := { b with scanned := Function.update b.scanned dev t.connectors }
      have hsetups := setups_sound dev scan (proposals d t) (b := b')
        ⟨h.tracked, h.oneFlip⟩ (proposals_nodup d t) fun info hinfo => by
          unfold surface
          rw [show b'.devices.lookup dev = some d from hd]
          exact proposals_free hinfo
      have honly := hsetups.2.1
      refine ⟨hsetups.1, ⟨honly.devices, honly.flights, fun _ hk => absurd trivial hk,
        fun _ hk => absurd trivial hk⟩, fun crtc hflip => ?_⟩
      by_cases hmem : crtc ∈ (proposals d t).map ConnInfo.crtc
      · obtain ⟨info, hinfo, rfl⟩ := List.mem_map.mp hmem
        have hqueue := hsetups.2.2 info hinfo hflip
        exact .inr ⟨d, t, info, rfl, rfl, hinfo, rfl, hqueue⟩
      · rw [honly.flipping fun _ => hmem] at hflip
        exact .inl hflip

/-- Frames on distinct CRTCs, each with nothing in flight or nothing to queue. -/
theorem frames_sound {dev : DevId} (frame : Crtc → FrameOutcome) (crtcs : List Crtc) {b : Udev}
    (h : Sound b) (hnd : crtcs.Nodup)
    (hfree : ∀ crtc ∈ crtcs, (frame crtc).queue = none ∨ b.flipping dev crtc = false) :
    let b' := crtcs.foldl (fun b crtc => b.on_vblank dev crtc (frame crtc)) b
    Sound b' ∧ Only dev (fun _ => True) b b' := by
  induction crtcs generalizing b with
  | nil => exact ⟨h, .refl ..⟩
  | cons crtc crtcs ih =>
    rw [List.nodup_cons] at hnd
    have hone := on_vblank_sound h (hfree crtc List.mem_cons_self)
    have hrest := ih hone.1 hnd.2 fun k hk => by
      rw [hone.2.1.flipping fun _ heq => hnd.1 (heq ▸ hk)]
      exact hfree k (List.mem_cons_of_mem _ hk)
    exact ⟨hrest.1, (hone.2.1.mono fun _ _ => trivial).trans hrest.2⟩

/-! ### Devices -/

/-- The surfaces that the scan of an activated device renders are not queued again by the loop
over all its surfaces. -/
def NewFramesOnce (r : Resume) (dev : DevId) (d : DeviceData) : Prop :=
  d.active = false → r.activated dev = true → ∀ t ∈ (r.scan dev).topology,
    ∀ info ∈ proposals d t, (r.scan dev).built info.crtc = true →
      ((r.scan dev).first info.crtc).queue = some true → (r.frame dev info.crtc).queue = none

instance (r : Resume) (dev : DevId) (d : DeviceData) : Decidable (NewFramesOnce r dev d) :=
  inferInstanceAs (Decidable (_ → _ → ∀ t ∈ (r.scan dev).topology,
    ∀ info ∈ proposals d t, _ → _ → _))

theorem proposals_mapVals (d : DeviceData) (active : Bool) (f : OutputSurface → OutputSurface)
    (t : Topology) : proposals { active := active, surfaces := mapVals f d.surfaces } t =
      proposals d t := by
  unfold proposals
  congr 1
  funext k
  simp only [AList.mem_keys, keys_mapVals]

/-- A device whose flags and flights are cleared together. -/
theorem Sound.reset {b : Udev} (h : Sound b) (dev : DevId) {d : DeviceData}
    (hidle : ∀ crtc surf, d.surfaces.lookup crtc = some surf → surf.flip_pending = false) :
    let b' : Udev := { b with
      devices := b.devices.insert dev d
      in_flight := Function.update b.in_flight dev fun _ => false }
    Sound b' ∧ Only dev (fun _ => True) b b' ∧ ∀ crtc, b'.flipping dev crtc = false := by
  intro b'
  have honly : Only dev (fun _ => True) b b' :=
    ⟨fun _ hd => AList.lookup_insert_ne hd, fun _ hd => Function.update_of_ne hd _ _,
      fun _ hk => absurd trivial hk, fun _ hk => absurd trivial hk⟩
  have hflip (crtc : Crtc) : b'.flipping dev crtc = false := by
    unfold flipping surface
    rw [show b'.devices.lookup dev = some d from AList.lookup_insert _]
    cases hs : d.surfaces.lookup crtc with
    | none => simp [hs]
    | some surf => simp [hs, hidle crtc surf hs]
  refine ⟨⟨fun dev' crtc => ?_, h.oneFlip⟩, honly, hflip⟩
  by_cases hd : dev' = dev
  · subst hd
    rw [hflip]
    exact congrFun (Function.update_self dev' _ b.in_flight) crtc
  · rw [honly.flights dev' hd, honly.flipping fun heq => absurd heq hd]
    exact h.tracked dev' crtc

theorem activate_sound {b : Udev} (h : Sound b) {r : Resume} {dev : DevId}
    (honce : ∀ d, b.devices.lookup dev = some d → NewFramesOnce r dev d) :
    Sound (b.activate_device r dev) ∧ Only dev (fun _ => True) b (b.activate_device r dev) := by
  unfold activate_device
  cases hd : b.devices.lookup dev with
  | none => exact ⟨h, .refl ..⟩
  | some d =>
    dsimp only
    split_ifs with hskip
    · exact ⟨h, .refl ..⟩
    obtain ⟨hinactive, hactivated⟩ := not_or.mp hskip
    set reset : OutputSurface → OutputSurface := fun surf => { surf with flip_pending := false }
    have hreset := h.reset dev (d := { active := true, surfaces := mapVals reset d.surfaces }) <| by
      intro crtc surf hs
      rw [lookup_mapVals, Option.map_eq_some_iff] at hs
      obtain ⟨surf', -, rfl⟩ := hs
      rfl
    have hscan := scan_sound hreset.1 dev (r.scan dev)
    set b₂ : Udev := scan_connectors { b with
      devices := b.devices.insert dev { active := true, surfaces := mapVals reset d.surfaces }
      in_flight := Function.update b.in_flight dev fun _ => false } dev (r.scan dev)
    have hkeys : (((b₂.devices.lookup dev).map fun d => d.surfaces.keys).getD []).Nodup := by
      cases b₂.devices.lookup dev with
      | none => exact List.nodup_nil
      | some d => exact d.surfaces.keys_nodup
    have hfree (crtc : Crtc) :
        (r.frame dev crtc).queue = none ∨ b₂.flipping dev crtc = false := by
      cases hflip : b₂.flipping dev crtc with
      | false => exact .inr rfl
      | true =>
        rcases hscan.2.2 crtc hflip with hold | ⟨d', t, info, hd', ht, hinfo, rfl, hbuilt, hfirst⟩
        · rw [hreset.2.2] at hold
          cases hold
        · have hsame : d' = { active := true, surfaces := mapVals reset d.surfaces } :=
            Option.some.inj (hd'.symm.trans (AList.lookup_insert _))
          rw [hsame, proposals_mapVals] at hinfo
          exact .inl (honce d hd (Bool.eq_false_of_not_eq_true hinactive)
            (Bool.eq_true_of_not_eq_false hactivated) t ht info hinfo hbuilt hfirst)
    have hframes := frames_sound (r.frame dev) _ hscan.1 hkeys fun crtc _ => hfree crtc
    exact ⟨hframes.1, (hreset.2.1.trans hscan.2.1).trans hframes.2⟩

theorem activates_sound {r : Resume} (devs : List DevId) {b : Udev} (h : Sound b)
    (hnd : devs.Nodup)
    (honce : ∀ dev ∈ devs, ∀ d, b.devices.lookup dev = some d → NewFramesOnce r dev d) :
    Sound (devs.foldl (fun b dev => b.activate_device r dev) b) := by
  induction devs generalizing b with
  | nil => exact h
  | cons dev devs ih =>
    rw [List.nodup_cons] at hnd
    have hone := activate_sound h (honce dev List.mem_cons_self)
    refine ih hone.1 hnd.2 fun dev' hdev' d hd => ?_
    rw [hone.2.devices dev' fun heq => hnd.1 (heq ▸ hdev')] at hd
    exact honce dev' (List.mem_cons_of_mem _ hdev') d hd

theorem open_sound {b : Udev} (h : Sound b) (dev : DevId) (scan : Scan) :
    Sound (b.open_device dev scan) := by
  have hfresh := h.reset dev (d := { active := true, surfaces := ∅ }) fun crtc surf hs => by
    rw [AList.lookup_empty] at hs
    cases hs
  exact (scan_sound hfresh.1 dev scan).1

theorem enqueue_sound {b : Udev} (h : Sound b) (dev : DevId) (opened : Bool) (scan : Scan) :
    Sound (b.enqueue_device dev opened scan) := by
  unfold enqueue_device
  dsimp only
  have hopen := open_sound h dev scan
  split_ifs
  · exact ⟨h.tracked, h.oneFlip⟩
  · exact hopen
  · exact ⟨hopen.tracked, hopen.oneFlip⟩

theorem removed_sound {b : Udev} (h : Sound b) (dev : DevId) :
    Sound (b.backend_device_removed dev) := by
  unfold backend_device_removed
  cases hd : b.devices.lookup dev with
  | none => exact h
  | some d =>
    refine ⟨fun dev' crtc => ?_, h.oneFlip⟩
    unfold flipping surface
    dsimp only
    by_cases hdev : dev' = dev
    · subst hdev
      rw [AList.lookup_erase, Function.update_self]
      rfl
    · rw [AList.lookup_erase_ne hdev, Function.update_of_ne hdev]
      exact h.tracked dev' crtc

theorem pause_sound {b : Udev} (h : Sound b) : Sound b.pause_drm_devices := by
  refine ⟨fun dev crtc => ?_, h.oneFlip⟩
  have hflip : b.pause_drm_devices.flipping dev crtc = b.flipping dev crtc := by
    unfold flipping surface pause_drm_devices
    dsimp only
    rw [lookup_mapVals]
    cases b.devices.lookup dev <;> rfl
  rw [hflip]
  exact h.tracked dev crtc

theorem resume_sound {b : Udev} (h : Sound b) {r : Resume}
    (honce : ∀ dev ∈ b.devices.keys, ∀ d ∈ b.devices.lookup dev, NewFramesOnce r dev d) :
    Sound (b.open_pending_devices r) := by
  unfold open_pending_devices
  have hactive := activates_sound b.devices.keys h b.devices.keys_nodup honce
  dsimp only
  generalize List.foldl (fun b dev => activate_device b r dev) b b.devices.keys = b₁ at hactive ⊢
  have hopens (devs : List DevId) {b : Udev} (hb : Sound b) :
      Sound (devs.foldl (fun b dev => if b.session_active = false ∨ r.opened dev = false then b
        else b.open_device dev (r.scan dev)) b) := by
    induction devs generalizing b with
    | nil => exact hb
    | cons dev devs ih =>
      refine ih ?_
      dsimp only
      split_ifs
      · exact hb
      · exact open_sound hb dev _
  exact hopens _ ⟨hactive.tracked, hactive.oneFlip⟩

/-! ### Runs -/

/-- No activated device renders a surface that its scan has just rendered. -/
def ResumesOnce (b : Udev) : DrmEvent → Prop
  | .activate_session r | .startup r | .ipc_resume r =>
      ∀ dev ∈ b.devices.keys, ∀ d ∈ b.devices.lookup dev, NewFramesOnce r dev d
  | _ => True

instance (b : Udev) (e : DrmEvent) : Decidable (b.ResumesOnce e) := by
  cases e <;> unfold ResumesOnce <;> infer_instance

theorem step_sound {b : Udev} {e : DrmEvent} (h : Sound b) (honce : b.ResumesOnce e) :
    Sound (drmStep b e) := by
  cases e with
  | vblank dev crtc f => exact vblank_sound h dev crtc f
  | idle_render dev crtc f => exact idle_render_sound h dev crtc f
  | added dev opened scan => exact enqueue_sound h dev opened scan
  | changed dev scan => exact (scan_sound h dev scan).1
  | removed dev => exact removed_sound h dev
  | pause_session => exact pause_sound h
  | activate_session r =>
    exact resume_sound (b := { b with session_active := true }) ⟨h.tracked, h.oneFlip⟩ honce
  | startup r => exact resume_sound h honce
  | ipc_resume r =>
    have hresume := resume_sound h honce
    exact ⟨hresume.tracked, hresume.oneFlip⟩
  | event e =>
    rw [drmStep]
    split_ifs
    · exact h
    · exact ⟨h.tracked, h.oneFlip⟩

theorem sound_init (env : Rwl.Setup) (session_active : Bool) (device_list : List DevId) :
    Sound (Udev.init env session_active device_list) :=
  ⟨fun _ _ => rfl, fun _ h => absurd h List.not_mem_nil⟩

/-- **No frame is queued while one is in flight, in a run whose activated devices render their
new surfaces once.** -/
theorem one_flip (env : Rwl.Setup) (session_active : Bool) (device_list : List DevId)
    (es : List DrmEvent)
    (h : Guarded drmStep ResumesOnce (Udev.init env session_active device_list) es) :
    Always drmStep OneFlip (Udev.init env session_active device_list) es :=
  (h.always (fun _ _ => step_sound) (sound_init env session_active device_list)).mono
    fun _ hs => hs.oneFlip

/-! ### A monitor plugged in during a suspend -/

/-- Connectors with one mode, each with a CRTC of its own. -/
def plainConnector (id : ConnId) (connected : Bool) : Connector where
  id := id
  name := "DP"
  connected := connected
  modes := [(true, ⟨800, 600⟩)]
  crtcs := [id]

/-- Two connectors, the second one perhaps unplugged. -/
def twoConnectors (second : Bool) : Topology where
  connectors := [plainConnector 0 true, plainConnector 1 second]
  nodup := by simp [plainConnector]

/-- A frame with damage, which the kernel takes, or one that is not queued. -/
def drawnFrame (queued : Bool) : FrameOutcome where
  out := Rwl.plainFrame
  queue := if queued then some true else none

/-- One device; its surfaces have damage after a scan when `again` says so. -/
def plainResume (second again : Bool) : Resume where
  activated _ := true
  opened _ := true
  scan _ := ⟨some (twoConnectors second), fun _ => true, fun _ => drawnFrame true⟩
  frame _ crtc := drawnFrame (again || crtc == 0)

/-- A session that is paused while a monitor is plugged in. -/
def pluggedRun (again : Bool) : List DrmEvent :=
  [.startup (plainResume false again), .vblank 0 0 (drawnFrame true), .pause_session,
    .activate_session (plainResume true again), .idle_render 0 1 (drawnFrame true)]

theorem one_flip_plugged :
    Always drmStep OneFlip (Udev.init (Rwl.plainSetup [] []) true [0]) (pluggedRun false) :=
  one_flip (Rwl.plainSetup [] []) true [0] (pluggedRun false) (by decide +kernel)

/-- The new surface has its first frame queued twice. -/
theorem not_one_flip :
    ¬ ∀ (env : Rwl.Setup) (session_active : Bool) (device_list : List DevId)
        (es : List DrmEvent),
      Always drmStep OneFlip (Udev.init env session_active device_list) es := by
  intro h
  have hend := (h (Rwl.plainSetup [] []) true [0] (pluggedRun true)).last
  have hcall : (⟨0, 1, true, true⟩ : QueueCall) ∈
      (run drmStep (Udev.init (Rwl.plainSetup [] []) true [0]) (pluggedRun true)).queue_log := by
    decide +kernel
  exact absurd (hend _ hcall).1 (by decide)

end Udev

end Compositor
