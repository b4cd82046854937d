import Mathlib.Tactic.Common
import Rwl.Core.Gamma
import Rwl.Lib.Recency
import Rwl.Lib.Run

/-!
# Who owns the gamma of an output

* `Owned`: the control of an output that is live and was not sent `failed` is the registered one,
  and a ramp is stored only for a registered live control;
* `Dead`, `Inert`: a control that was refused, failed or lost its output touches nothing any more;
* `Harmless`: the requests of dead controls on which the compositor acts none the less;
* `inert_iff`: a step is inert exactly if it is harmless;
* `Inv`, `inv_step`: harmless steps keep the ownership;
* `gamma_ownership`: in a run the law holds exactly if every step is harmless.
-/

namespace Compositor

open Transition

namespace GammaState

/-! ### The law -/

/-- The ownership of the gamma. -/
structure Owned (s : GammaState) : Prop where
  registered : ∀ (c : ℕ) (ctrl : GammaControl) (o : OutputId), s.controls[c]? = some ctrl →
    ctrl.live = true → ctrl.failed = false → ctrl.output = some o → o ∈ s.outputs →
    s.gamma_controls o = some c
  stored : ∀ (o : OutputId) (ramp : Ramp), s.gamma_ramps o = some ramp →
    ∃ (c : ℕ) (ctrl : GammaControl), s.gamma_controls o = some c ∧ s.controls[c]? = some ctrl ∧
      ctrl.live = true

/-- Control `c` was refused or failed, or its output went away. -/
def Dead (s : GammaState) (c : ℕ) : Prop :=
  ∃ ctrl ∈ s.controls[c]?, ctrl.failed = true ∨ ∀ o ∈ ctrl.output, o ∉ s.outputs

/-- No registration and no stored ramp of another control changed, and no ramp of the hardware. -/
def Untouched (c : ℕ) (s t : GammaState) : Prop :=
  (∀ o, s.gamma_controls o ≠ some c →
    t.gamma_controls o = s.gamma_controls o ∧ t.gamma_ramps o = s.gamma_ramps o) ∧
    t.hardware = s.hardware

/-- A request and the destruction of a dead control touch nothing. -/
def Inert (s : GammaState) : GammaEvent → Prop
  | .set_gamma c crtc data ok => s.Dead c → Untouched c s (s.set_gamma c crtc data ok)
  | .destroyed c crtc ok => s.Dead c → Untouched c s (s.destroyed c crtc ok)
  | _ => True

/-- A dead control sets no ramp but the one that is there; and it is not destroyed while another
control is registered for its output, while a ramp is stored that is not its own, or while the
output shows another ramp than the identity it is reset to. -/
def Harmless (s : GammaState) : GammaEvent → Prop
  | .set_gamma c crtc data ok => s.Dead c → ∀ ctrl ∈ s.controls[c]?, ctrl.live = true →
      ∀ o ∈ ctrl.output, ∀ ramp ∈ s.accepted o crtc data ok,
        s.hardware o = some ramp ∧ (s.gamma_controls o = some c ∨ s.gamma_ramps o = some ramp)
  | .destroyed c crtc ok => s.Dead c → ∀ ctrl ∈ s.controls[c]?, ctrl.live = true →
      ∀ o ∈ ctrl.output,
        (s.gamma_controls o = none ∨ s.gamma_controls o = some c) ∧
        (s.gamma_controls o = some c ∨ s.gamma_ramps o = none) ∧
        ∀ ramp ∈ s.restored o crtc ok, s.hardware o = some ramp
  | _ => True

/-! ### Steps of dead controls -/

theorem untouched_of_maps {c : ℕ} {s t : GammaState}
    (hcontrols : t.gamma_controls = s.gamma_controls) (hramps : t.gamma_ramps = s.gamma_ramps)
    (hhardware : t.hardware = s.hardware) : Untouched c s t :=
  ⟨fun o _ => ⟨congrFun hcontrols o, congrFun hramps o⟩, hhardware⟩

/-- The ramp is set and stored. -/
def put (s : GammaState) (o : OutputId) (ramp : Ramp) : GammaState :=
  { s with
    hardware := Function.update s.hardware o (some ramp)
    gamma_ramps := Function.update s.gamma_ramps o (some ramp) }

/-- The control is gone. -/
def bury (s : GammaState) (c : ℕ) (ctrl : GammaControl) : GammaState :=
  { s with controls := s.controls.set c { ctrl with live := false } }

variable {s : GammaState} {c : ℕ} {ctrl : GammaControl} {o : OutputId}

theorem set_gamma_put (hc : s.controls[c]? = some ctrl) (hlive : ctrl.live = true)
    (ho : ctrl.output = some o) {crtc : Option ℕ} {data : Option (List UInt8)} {ok : Bool}
    {ramp : Ramp} (hramp : s.accepted o crtc data ok = some ramp) :
    s.set_gamma c crtc data ok = s.put o ramp := by
  simp only [set_gamma, hc, hlive, if_true, ho, apply_gamma, hramp]
  rfl

theorem set_gamma_failed (hc : s.controls[c]? = some ctrl) (hlive : ctrl.live = true)
    (ho : ctrl.output = some o) {crtc : Option ℕ} {data : Option (List UInt8)} {ok : Bool}
    (hramp : s.accepted o crtc data ok = none) :
    s.set_gamma c crtc data ok = s.send_failed c := by
  simp only [set_gamma, hc, hlive, if_true, ho, apply_gamma, hramp, Bool.false_eq_true, if_false]

/-- What `SetGamma` does. -/
theorem set_gamma_cases (s : GammaState) (c : ℕ) (crtc : Option ℕ) (data : Option (List UInt8))
    (ok : Bool) : s.set_gamma c crtc data ok = s ∨ s.set_gamma c crtc data ok = s.send_failed c ∨
      ∃ ctrl o ramp, s.controls[c]? = some ctrl ∧ ctrl.live = true ∧ ctrl.output = some o ∧
        s.accepted o crtc data ok = some ramp ∧ s.set_gamma c crtc data ok = s.put o ramp := by
  cases hc : s.controls[c]? with
  | none => exact .inl (by simp only [set_gamma, hc])
  | some ctrl =>
    cases hlive : ctrl.live with
    | false => exact .inl (by simp only [set_gamma, hc, hlive, Bool.false_eq_true, if_false])
    | true =>
      cases ho : ctrl.output with
      | none => exact .inl (by simp only [set_gamma, hc, hlive, ho, if_true])
      | some o =>
        cases hramp : s.accepted o crtc data ok with
        | none => exact .inr (.inl (set_gamma_failed hc hlive ho hramp))
        | some ramp =>
          exact .inr (.inr ⟨ctrl, o, ramp, rfl, hlive, ho, hramp, set_gamma_put hc hlive ho hramp⟩)

theorem destroyed_output (hc : s.controls[c]? = some ctrl) (hlive : ctrl.live = true)
    (ho : ctrl.output = some o) (crtc : Option ℕ) (ok : Bool) :
    s.destroyed c crtc ok = ((s.bury c ctrl).forget o).restore_gamma o crtc ok := by
  simp only [destroyed, bury, hc, hlive, if_true, ho]

/-- What the destruction of a control does. -/
theorem destroyed_cases (s : GammaState) (c : ℕ) (crtc : Option ℕ) (ok : Bool) :
    s.destroyed c crtc ok = s ∨
      (∃ ctrl, s.controls[c]? = some ctrl ∧ ctrl.output = none ∧
        s.destroyed c crtc ok = s.bury c ctrl) ∨
      ∃ ctrl o, s.controls[c]? = some ctrl ∧ ctrl.live = true ∧ ctrl.output = some o ∧
        s.destroyed c crtc ok = ((s.bury c ctrl).forget o).restore_gamma o crtc ok := by
  cases hc : s.controls[c]? with
  | none => exact .inl (by simp only [destroyed, hc])
  | some ctrl =>
    cases hlive : ctrl.live with
    | false => exact .inl (by simp only [destroyed, hc, hlive, Bool.false_eq_true, if_false])
    | true =>
      cases ho : ctrl.output with
      | none =>
        refine .inr (.inl ⟨ctrl, rfl, ho, ?_⟩)
        simp only [destroyed, bury, hc, hlive, ho, if_true]
      | some o => exact .inr (.inr ⟨ctrl, o, rfl, hlive, ho, destroyed_output hc hlive ho crtc ok⟩)

/-- Restoring touches the hardware alone, and only shows the identity. -/
theorem restore_gamma_eq (s : GammaState) (o : OutputId) (crtc : Option ℕ) (ok : Bool) :
    s.restore_gamma o crtc ok =
      { s with hardware := ((s.restored o crtc ok).map fun ramp =>
          Function.update s.hardware o (some ramp)).getD s.hardware } := by
  unfold restore_gamma
  cases s.restored o crtc ok <;> rfl

theorem update_eq_self {α : Type*} {f : OutputId → Option α} {a : Option α} :
    Function.update f o a = f ↔ f o = a := by
  rw [Function.update_eq_self_iff, eq_comm]

/-- A request of a dead control touches nothing exactly if it is a harmless one. -/
theorem inert_iff (s : GammaState) (e : GammaEvent) : s.Inert e ↔ s.Harmless e := by
  cases e with
  | set_gamma c crtc data ok =>
    refine forall_congr' fun hdead => ⟨fun h ctrl hc hlive o ho ramp hramp => ?_, fun h => ?_⟩
    · obtain ⟨hmaps, hhardware⟩ := h
      rw [set_gamma_put hc hlive ho hramp] at hmaps hhardware
      refine ⟨update_eq_self.mp hhardware, ?_⟩
      by_contra hne
      rw [not_or] at hne
      have hstored : Function.update s.gamma_ramps o (some ramp) o = s.gamma_ramps o :=
        (hmaps o hne.1).2
      rw [Function.update_self] at hstored
      exact hne.2 hstored.symm
    · rcases s.set_gamma_cases c crtc data ok with hs | hs | ⟨ctrl, o, ramp, hc, hlive, ho, hramp, hs⟩
      · rw [hs]
        exact untouched_of_maps rfl rfl rfl
      · rw [hs]
        exact untouched_of_maps rfl rfl rfl
      · rw [hs]
        obtain ⟨hhardware, hown⟩ := h ctrl hc hlive o ho ramp hramp
        refine ⟨fun x hx => ⟨rfl, ?_⟩, update_eq_self.mpr hhardware⟩
        show Function.update s.gamma_ramps o (some ramp) x = s.gamma_ramps x
        by_cases hxo : x = o
        · subst hxo
          rw [Function.update_self]
          exact (hown.resolve_left hx).symm
        · rw [Function.update_of_ne hxo]
  | destroyed c crtc ok =>
    refine forall_congr' fun hdead => ⟨fun h ctrl hc hlive o ho => ?_, fun h => ?_⟩
    · obtain ⟨hmaps, hhardware⟩ := h
      rw [destroyed_output hc hlive ho, restore_gamma_eq] at hmaps hhardware
      have hcontrols : Function.update s.gamma_controls o none o = none := Function.update_self _ _ _
      have hramps : Function.update s.gamma_ramps o none o = none := Function.update_self _ _ _
      refine ⟨?_, ?_, fun ramp hramp => ?_⟩
      · by_contra hne
        rw [not_or] at hne
        exact hne.1 ((hmaps o hne.2).1.symm.trans hcontrols)
      · by_contra hne
        rw [not_or] at hne
        exact hne.2 ((hmaps o hne.1).2.symm.trans hramps)
      · rw [show ((s.bury c ctrl).forget o).restored o crtc ok = some ramp from hramp] at hhardware
        exact update_eq_self.mp hhardware
    · rcases s.destroyed_cases c crtc ok with hs | ⟨ctrl, hc, ho, hs⟩ | ⟨ctrl, o, hc, hlive, ho, hs⟩
      · rw [hs]
        exact untouched_of_maps rfl rfl rfl
      · rw [hs]
        exact untouched_of_maps rfl rfl rfl
      · obtain ⟨hcontrols, hramps, hhardware⟩ := h ctrl hc hlive o ho
        rw [hs, restore_gamma_eq]
        refine ⟨fun x hx => ?_, ?_⟩
        · show Function.update s.gamma_controls o none x = s.gamma_controls x ∧
            Function.update s.gamma_ramps o none x = s.gamma_ramps x
          by_cases hxo : x = o
          · subst hxo
            rw [Function.update_self, Function.update_self]
            exact ⟨(hcontrols.resolve_right hx).symm, (hramps.resolve_left hx).symm⟩
          · rw [Function.update_of_ne hxo, Function.update_of_ne hxo]
            exact ⟨rfl, rfl⟩
        · show ((s.restored o crtc ok).map fun ramp => Function.update s.hardware o (some ramp)).getD
            s.hardware = s.hardware
          cases hramp : s.restored o crtc ok with
          | none => rfl
          | some ramp => exact update_eq_self.mpr (hhardware ramp hramp)
  | get_gamma_control output crtc => exact Iff.rfl
  | output_added drm => exact Iff.rfl
  | output_removed o => exact Iff.rfl
  | resume ok => exact Iff.rfl

/-! ### Harmless steps keep the ownership -/

/-- A registered control is a live one of an output that is there; surfaces are of outputs, and
outputs are new when they come. -/
structure Inv (s : GammaState) : Prop extends Owned s where
  control : ∀ o c, s.gamma_controls o = some c → o ∈ s.outputs ∧
    ∃ ctrl ∈ s.controls[c]?, ctrl.live = true ∧ ctrl.output = some o
  surface : ∀ o ∈ s.surfaces, o ∈ s.outputs
  below : ∀ o ∈ s.outputs, o < s.next_output
  known : ∀ ctrl ∈ s.controls, ∀ o ∈ ctrl.output, o < s.next_output
  nodup : s.outputs.Nodup ∧ s.surfaces.Nodup

theorem inv_init : init.Inv := by
  refine ⟨⟨?_, ?_⟩, ?_, ?_, ?_, ?_, List.nodup_nil, List.nodup_nil⟩
  · intro c ctrl o hc
    cases hc
  · intro o ramp h
    cases h
  · intro o c h
    cases h
  · intro o h
    cases h
  · intro o h
    cases h
  · intro ctrl h
    cases h

/-- An old control is found where it was. -/
theorem getElem?_of_concat {l : List GammaControl} (new : GammaControl) (h : l[c]? = some ctrl) :
    (l ++ [new])[c]? = some ctrl :=
  (List.getElem?_append_left (List.getElem?_eq_some_iff.mp h).1).trans h

theorem Inv.add_failed (h : s.Inv) {new : GammaControl} (hfailed : new.failed = true)
    (hknown : ∀ o ∈ new.output, o < s.next_output) : (s.add_control new).Inv where
  registered c ctrl o hc hlive hok ho hin := by
    rcases Recency.getElem?_concat hc with hc | ⟨-, rfl⟩
    · exact h.registered c ctrl o hc hlive hok ho hin
    · rw [hfailed] at hok
      cases hok
  stored o ramp hramp := by
    obtain ⟨c, ctrl, hreg, hc, hlive⟩ := h.stored o ramp hramp
    exact ⟨c, ctrl, hreg, getElem?_of_concat new hc, hlive⟩
  control o c hreg := by
    obtain ⟨hin, ctrl, hc, hctrl⟩ := h.control o c hreg
    exact ⟨hin, ctrl, getElem?_of_concat new hc, hctrl⟩
  surface := h.surface
  below := h.below
  known ctrl hctrl o ho := by
    rcases List.mem_append.mp hctrl with hctrl | hctrl
    · exact h.known ctrl hctrl o ho
    · exact hknown o (List.mem_singleton.mp hctrl ▸ ho)
  nodup := h.nodup

/-- A control of an output for which none is registered is registered. -/
theorem Inv.add_registered (h : s.Inv) (hin : o ∈ s.outputs) (hnone : s.gamma_controls o = none) :
    Inv { s.add_control ⟨some o, false, true⟩ with
      gamma_controls := Function.update s.gamma_controls o (some s.controls.length) } where
  registered c ctrl x hc hlive hok hx hxin := by
    show Function.update s.gamma_controls o (some s.controls.length) x = some c
    rcases Recency.getElem?_concat hc with hc | ⟨rfl, rfl⟩
    · have hreg := h.registered c ctrl x hc hlive hok hx hxin
      have hxo : x ≠ o := by
        rintro rfl
        rw [hnone] at hreg
        cases hreg
      rw [Function.update_of_ne hxo, hreg]
    · obtain rfl := Option.some.inj hx
      exact Function.update_self _ _ _
  stored x ramp hramp := by
    obtain ⟨c, ctrl, hreg, hc, hlive⟩ := h.stored x ramp hramp
    have hxo : x ≠ o := by
      rintro rfl
      rw [hnone] at hreg
      cases hreg
    exact ⟨c, ctrl, (Function.update_of_ne hxo _ _).trans hreg, getElem?_of_concat _ hc, hlive⟩
  control x c hreg := by
    by_cases hxo : x = o
    · subst hxo
      have hnew : Function.update s.gamma_controls x (some s.controls.length) x = some c := hreg
      rw [Function.update_self] at hnew
      obtain rfl := Option.some.inj hnew
      exact ⟨hin, _, List.getElem?_concat_length, rfl, rfl⟩
    · obtain ⟨hxin, ctrl, hc, hctrl⟩ :=
        h.control x c ((Function.update_of_ne hxo _ _).symm.trans hreg)
      exact ⟨hxin, ctrl, getElem?_of_concat _ hc, hctrl⟩
  surface := h.surface
  below := h.below
  known ctrl hctrl x hx := by
    rcases List.mem_append.mp hctrl with hctrl | hctrl
    · exact h.known ctrl hctrl x hx
    · obtain rfl := List.mem_singleton.mp hctrl
      obtain rfl := Option.some.inj hx
      exact h.below o hin
  nodup := h.nodup

theorem Inv.get_gamma_control (h : s.Inv) {output : Option OutputId}
    (hknown : ∀ o ∈ output, o < s.next_output) (crtc : Option ℕ) :
    (s.get_gamma_control output crtc).Inv := by
  unfold GammaState.get_gamma_control
  cases output with
  | none => exact h.add_failed rfl fun o ho => by cases ho
  | some o =>
    dsimp only
    by_cases htaken : (s.gamma_controls o).isSome = true
    · rw [if_pos htaken]
      exact h.add_failed rfl fun x hx => by cases hx
    · rw [if_neg htaken]
      cases hsize : s.gamma_size_for_output o crtc with
      | none => exact h.add_failed rfl hknown
      | some size =>
        have hsurface : o ∈ s.surfaces := by
          unfold gamma_size_for_output at hsize
          split_ifs at hsize with hin
          exact hin
        exact h.add_registered (h.surface o hsurface) (by simpa using htaken)

theorem getElem?_send_failed {d : ℕ} : (s.send_failed c).controls[d]? = some ctrl →
    ∃ old ∈ s.controls[d]?, ctrl.live = old.live ∧ ctrl.output = old.output ∧
      (ctrl.failed = false → old.failed = false) := by
  intro hd
  replace hd : (s.controls.modify c fun ctrl => { ctrl with failed := true })[d]? = some ctrl := hd
  rw [List.getElem?_modify] at hd
  obtain ⟨old, hold, rfl⟩ := Option.map_eq_some_iff.mp hd
  refine ⟨old, hold, ?_⟩
  split_ifs
  · exact ⟨rfl, rfl, fun h => by cases h⟩
  · exact ⟨rfl, rfl, id⟩

theorem getElem?_to_failed {d : ℕ} (hd : s.controls[d]? = some ctrl) :
    ∃ new ∈ (s.send_failed c).controls[d]?, new.live = ctrl.live ∧ new.output = ctrl.output := by
  refine ⟨if c = d then { ctrl with failed := true } else ctrl, ?_, ?_⟩
  · show (s.controls.modify c fun ctrl => { ctrl with failed := true })[d]? = _
    rw [List.getElem?_modify, hd]
    split_ifs <;> rfl
  · split_ifs <;> exact ⟨rfl, rfl⟩

/-- A control that failed has the less to answer for. -/
theorem Inv.send_failed (h : s.Inv) (c : ℕ) : (s.send_failed c).Inv where
  registered d ctrl o hd hlive hok ho hin := by
    obtain ⟨old, hold, hl, hout, hf⟩ := getElem?_send_failed hd
    exact h.registered d old o hold (hl ▸ hlive) (hf hok) (hout ▸ ho) hin
  stored o ramp hramp := by
    obtain ⟨d, ctrl, hreg, hd, hlive⟩ := h.stored o ramp hramp
    obtain ⟨new, hnew, hl, -⟩ := getElem?_to_failed hd
    exact ⟨d, new, hreg, hnew, hl.trans hlive⟩
  control o d hreg := by
    obtain ⟨hin, ctrl, hd, hlive, ho⟩ := h.control o d hreg
    obtain ⟨new, hnew, hl, hout⟩ := getElem?_to_failed hd
    exact ⟨hin, new, hnew, hl.trans hlive, hout.trans ho⟩
  surface := h.surface
  below := h.below
  known ctrl hctrl o ho := by
    obtain ⟨d, hd⟩ := List.mem_iff_getElem?.mp hctrl
    obtain ⟨old, hold, -, hout, -⟩ := getElem?_send_failed hd
    exact h.known old (List.mem_of_getElem? hold) o (hout ▸ ho)
  nodup := h.nodup

/-- A ramp is stored for an output that has a registered control or a ramp already. -/
theorem Inv.put (h : s.Inv) {ramp : Ramp}
    (hown : (∃ c, s.gamma_controls o = some c) ∨ ∃ old, s.gamma_ramps o = some old) :
    (s.put o ramp).Inv := by
  refine ⟨⟨h.registered, fun x r hr => ?_⟩, h.control, h.surface, h.below, h.known, h.nodup⟩
  by_cases hxo : x = o
  · subst hxo
    rcases hown with ⟨c, hreg⟩ | ⟨old, hold⟩
    · obtain ⟨-, ctrl, hc, hlive, -⟩ := h.control x c hreg
      exact ⟨c, ctrl, hreg, hc, hlive⟩
    · exact h.stored x old hold
  · exact h.stored x r ((Function.update_of_ne hxo _ _).symm.trans hr)

theorem Inv.hardware (h : s.Inv) (hw : OutputId → Option Ramp) : Inv { s with hardware := hw } :=
  ⟨⟨h.registered, h.stored⟩, h.control, h.surface, h.below, h.known, h.nodup⟩

theorem getElem?_bury {d : ℕ} {x : GammaControl} (hd : (s.bury c ctrl).controls[d]? = some x) :
    d = c ∧ x = { ctrl with live := false } ∨ d ≠ c ∧ s.controls[d]? = some x := by
  replace hd : (s.controls.set c { ctrl with live := false })[d]? = some x := hd
  rw [List.getElem?_set] at hd
  split_ifs at hd with hcd hlt
  · exact .inl ⟨hcd.symm, (Option.some.inj hd).symm⟩
  · exact .inr ⟨fun h => hcd h.symm, hd⟩

theorem getElem?_of_bury {d : ℕ} {x : GammaControl} (hdc : d ≠ c) (hd : s.controls[d]? = some x) :
    (s.bury c ctrl).controls[d]? = some x :=
  (List.getElem?_set_ne (Ne.symm hdc)).trans hd

theorem Inv.bury_known (h : s.Inv) (hc : s.controls[c]? = some ctrl) :
    ∀ x ∈ (s.bury c ctrl).controls, ∀ o ∈ x.output, o < s.next_output := by
  intro x hx o ho
  obtain ⟨d, hd⟩ := List.mem_iff_getElem?.mp hx
  rcases getElem?_bury hd with ⟨-, rfl⟩ | ⟨-, hd⟩
  · exact h.known ctrl (List.mem_of_getElem? hc) o ho
  · exact h.known x (List.mem_of_getElem? hd) o ho

/-- A control without an output goes. -/
theorem Inv.bury (h : s.Inv) (hc : s.controls[c]? = some ctrl) (ho : ctrl.output = none) :
    (s.bury c ctrl).Inv where
  registered d x o hd hlive hok hx hin := by
    rcases getElem?_bury hd with ⟨-, rfl⟩ | ⟨-, hd⟩
    · cases hlive
    · exact h.registered d x o hd hlive hok hx hin
  stored o ramp hramp := by
    obtain ⟨d, x, hreg, hd, hlive⟩ := h.stored o ramp hramp
    refine ⟨d, x, hreg, getElem?_of_bury ?_ hd, hlive⟩
    rintro rfl
    obtain ⟨-, x', hx', -, hout⟩ := h.control o d hreg
    obtain rfl := Option.some.inj (hc.symm.trans hx')
    rw [ho] at hout
    cases hout
  control o d hreg := by
    obtain ⟨hin, x, hd, hlive, hout⟩ := h.control o d hreg
    refine ⟨hin, x, getElem?_of_bury ?_ hd, hlive, hout⟩
    rintro rfl
    obtain rfl := Option.some.inj (hc.symm.trans hd)
    rw [ho] at hout
    cases hout
  surface := h.surface
  below := h.below
  known := h.bury_known hc
  nodup := h.nodup

/-- The only control of an output goes, and the maps forget the output. -/
theorem Inv.bury_forget (h : s.Inv) (hc : s.controls[c]? = some ctrl) (ho : ctrl.output = some o)
    (hown : s.gamma_controls o = none ∨ s.gamma_controls o = some c) :
    ((s.bury c ctrl).forget o).Inv := by
  have hother {x d} (hreg : s.gamma_controls x = some d) (hxo : x ≠ o) : d ≠ c := by
    rintro rfl
    obtain ⟨-, x', hx', -, hout⟩ := h.control x d hreg
    obtain rfl := Option.some.inj (hc.symm.trans hx')
    exact hxo (Option.some.inj (hout.symm.trans ho))
  refine ⟨⟨fun d x y hd hlive hok hy hin => ?_, fun y ramp hramp => ?_⟩, fun y d hreg => ?_,
    h.surface, h.below, h.bury_known hc, h.nodup⟩
  · show Function.update s.gamma_controls o none y = some d
    rcases getElem?_bury hd with ⟨-, rfl⟩ | ⟨hdc, hd⟩
    · cases hlive
    · have hreg := h.registered d x y hd hlive hok hy hin
      have hyo : y ≠ o := by
        rintro rfl
        rcases hown with hnone | hsome
        · rw [hnone] at hreg
          cases hreg
        · exact hdc (Option.some.inj (hreg.symm.trans hsome))
      rwa [Function.update_of_ne hyo]
  · by_cases hyo : y = o
    · subst hyo
      have hnone : Function.update s.gamma_ramps y none y = some ramp := hramp
      rw [Function.update_self] at hnone
      cases hnone
    · obtain ⟨d, x, hreg, hd, hlive⟩ :=
        h.stored y ramp ((Function.update_of_ne hyo _ _).symm.trans hramp)
      exact ⟨d, x, (Function.update_of_ne hyo _ _).trans hreg,
        getElem?_of_bury (hother hreg hyo) hd, hlive⟩
  · by_cases hyo : y = o
    · subst hyo
      have hnone : Function.update s.gamma_controls y none y = some d := hreg
      rw [Function.update_self] at hnone
      cases hnone
    · replace hreg := (Function.update_of_ne hyo _ _).symm.trans hreg
      obtain ⟨hin, x, hd, hctrl⟩ := h.control y d hreg
      exact ⟨hin, x, getElem?_of_bury (hother hreg hyo) hd, hctrl⟩

/-- A control that is not dead is the registered one of its output. -/
theorem Inv.registered_of_not_dead (h : s.Inv) (hc : s.controls[c]? = some ctrl)
    (hlive : ctrl.live = true) (ho : ctrl.output = some o) (hdead : ¬s.Dead c) :
    s.gamma_controls o = some c := by
  have hok : ctrl.failed = false := by
    by_contra hf
    exact hdead ⟨ctrl, hc, .inl (by simpa using hf)⟩
  have hin : o ∈ s.outputs := by
    by_contra hout
    refine hdead ⟨ctrl, hc, .inr fun x hx => ?_⟩
    obtain rfl := Option.some.inj (ho.symm.trans hx)
    exact hout
  exact h.registered c ctrl o hc hlive hok ho hin

theorem Inv.set_gamma (h : s.Inv) {crtc : Option ℕ} {data : Option (List UInt8)} {ok : Bool}
    (hharmless : s.Harmless (.set_gamma c crtc data ok)) : (s.set_gamma c crtc data ok).Inv := by
  rcases s.set_gamma_cases c crtc data ok with hs | hs | ⟨ctrl, o, ramp, hc, hlive, ho, hramp, hs⟩
  · rwa [hs]
  · rw [hs]
    exact h.send_failed c
  · rw [hs]
    by_cases hdead : s.Dead c
    · obtain ⟨-, hown⟩ := hharmless hdead ctrl hc hlive o ho ramp hramp
      exact h.put (hown.imp (fun hreg => ⟨c, hreg⟩) fun hstored => ⟨ramp, hstored⟩)
    · exact h.put (.inl ⟨c, h.registered_of_not_dead hc hlive ho hdead⟩)

theorem Inv.destroyed (h : s.Inv) {crtc : Option ℕ} {ok : Bool}
    (hharmless : s.Harmless (.destroyed c crtc ok)) : (s.destroyed c crtc ok).Inv := by
  rcases s.destroyed_cases c crtc ok with hs | ⟨ctrl, hc, ho, hs⟩ | ⟨ctrl, o, hc, hlive, ho, hs⟩
  · rwa [hs]
  · rw [hs]
    exact h.bury hc ho
  · rw [hs, restore_gamma_eq]
    refine Inv.hardware (h.bury_forget hc ho ?_) _
    by_cases hdead : s.Dead c
    · exact (hharmless hdead ctrl hc hlive o ho).1
    · exact .inr (h.registered_of_not_dead hc hlive ho hdead)

/-- A new output has no control yet. -/
theorem Inv.output_added (h : s.Inv) (drm : Bool) : (s.output_added drm).Inv where
  registered c ctrl o hc hlive hok ho hin := by
    have hlt := h.known ctrl (List.mem_of_getElem? hc) o ho
    rcases List.mem_append.mp hin with hin | hin
    · exact h.registered c ctrl o hc hlive hok ho hin
    · rw [List.mem_singleton.mp hin] at hlt
      exact absurd hlt (lt_irrefl _)
  stored := h.stored
  control o c hreg := by
    obtain ⟨hin, hctrl⟩ := h.control o c hreg
    exact ⟨List.mem_append_left _ hin, hctrl⟩
  surface o ho := by
    replace ho : o ∈ (if drm then s.surfaces ++ [s.next_output] else s.surfaces) := ho
    split_ifs at ho
    · rcases List.mem_append.mp ho with ho | ho
      · exact List.mem_append_left _ (h.surface o ho)
      · exact List.mem_append_right _ ho
    · exact List.mem_append_left _ (h.surface o ho)
  below o ho := by
    rcases List.mem_append.mp ho with ho | ho
    · exact (h.below o ho).trans (Nat.lt_succ_self _)
    · rw [List.mem_singleton.mp ho]
      exact Nat.lt_succ_self _
  known ctrl hctrl o ho := (h.known ctrl hctrl o ho).trans (Nat.lt_succ_self _)
  nodup := by
    have hnew : s.next_output ∉ s.outputs := fun hin => lt_irrefl _ (h.below _ hin)
    have happend {l : List OutputId} (hl : l.Nodup) (hnot : s.next_output ∉ l) :
        (l ++ [s.next_output]).Nodup :=
      List.nodup_append.mpr ⟨hl, List.pairwise_singleton _ _, fun a ha b hb hab => by
        rw [hab, List.mem_singleton.mp hb] at ha
        exact hnot ha⟩
    refine ⟨happend h.nodup.1 hnew, ?_⟩
    show (if drm then s.surfaces ++ [s.next_output] else s.surfaces).Nodup
    split_ifs
    · exact happend h.nodup.2 fun hin => hnew (h.surface _ hin)
    · exact h.nodup.2

theorem Inv.output_removed (h : s.Inv) (o : OutputId) : (s.output_removed o).Inv := by
  unfold GammaState.output_removed
  split_ifs with hout
  swap
  · exact h
  have hmem {x : OutputId} (hx : x ∈ s.outputs.erase o) : x ≠ o ∧ x ∈ s.outputs :=
    h.nodup.1.mem_erase_iff.mp hx
  have hkeep {x : OutputId} (hxo : x ≠ o) (hx : x ∈ s.outputs) : x ∈ s.outputs.erase o :=
    h.nodup.1.mem_erase_iff.mpr ⟨hxo, hx⟩
  refine ⟨⟨fun c ctrl x hc hlive hok hx hin => ?_, fun x ramp hramp => ?_⟩, fun x c hreg => ?_,
    fun x hx => ?_, fun x hx => h.below x (hmem hx).2, h.known, h.nodup.1.erase o,
    h.nodup.2.erase o⟩
  · obtain ⟨hxo, hin⟩ := hmem hin
    exact (Function.update_of_ne hxo _ _).trans (h.registered c ctrl x hc hlive hok hx hin)
  · by_cases hxo : x = o
    · subst hxo
      have hnone : Function.update s.gamma_ramps x none x = some ramp := hramp
      rw [Function.update_self] at hnone
      cases hnone
    · obtain ⟨c, ctrl, hreg, hctrl⟩ :=
        h.stored x ramp ((Function.update_of_ne hxo _ _).symm.trans hramp)
      exact ⟨c, ctrl, (Function.update_of_ne hxo _ _).trans hreg, hctrl⟩
  · by_cases hxo : x = o
    · subst hxo
      have hnone : Function.update s.gamma_controls x none x = some c := hreg
      rw [Function.update_self] at hnone
      cases hnone
    · obtain ⟨hin, hctrl⟩ := h.control x c ((Function.update_of_ne hxo _ _).symm.trans hreg)
      exact ⟨hkeep hxo hin, hctrl⟩
  · obtain ⟨hxo, hx⟩ := h.nodup.2.mem_erase_iff.mp hx
    exact hkeep hxo (h.surface x hx)

/-- Harmless steps keep the invariant. -/
theorem inv_step {e : GammaEvent} (h : s.Inv) (hharmless : s.Harmless e) : (s.step e).Inv := by
  cases e with
  | get_gamma_control output crtc =>
    exact h.get_gamma_control (fun o ho => of_decide_eq_true (Option.mem_filter_iff.mp ho).2) crtc
  | set_gamma c crtc data ok => exact h.set_gamma hharmless
  | destroyed c crtc ok => exact h.destroyed hharmless
  | output_added drm => exact h.output_added drm
  | output_removed o => exact h.output_removed o
  | resume ok => exact h.hardware _

/-- Every reachable state is owned and every step of a dead control is inert exactly in the runs
whose steps are all harmless. -/
theorem gamma_ownership (es : List GammaEvent) :
    (Always step Owned init es ∧ Guarded step Inert init es) ↔ Guarded step Harmless init es := by
  constructor
  · rintro ⟨-, hinert⟩
    exact hinert.mono fun s e h => (s.inert_iff e).mp h
  · intro hharmless
    refine ⟨?_, hharmless.mono fun s e h => (s.inert_iff e).mpr h⟩
    exact (hharmless.always (fun _ _ h hh => inv_step h hh) inv_init).mono fun s h => h.toOwned

/-- A control whose first ramp was too short sets the hardware ramp afterwards; and one that was
sent `failed` because the driver did not answer takes, when it goes, the registration of another. -/
theorem not_gamma_ownership :
    ¬Guarded step Inert init
        [.output_added true, .get_gamma_control (some 0) (some 1),
          .set_gamma 0 (some 1) (some []) true,
          .set_gamma 0 (some 1) (some [1, 0, 2, 0, 3, 0]) true] ∧
      ¬Always step Owned init
        [.output_added true, .get_gamma_control (some 0) none,
          .get_gamma_control (some 0) (some 1), .destroyed 0 (some 1) true] := by
  constructor
  · intro h
    have hdead := h.2.2.2.1 ⟨⟨some 0, true, true⟩, by decide, .inl rfl⟩
    exact absurd (congrFun hdead.2 0) (by decide)
  · intro h
    have howned := h.last.registered 1 ⟨some 0, false, true⟩ 0 (by decide) rfl rfl rfl (by decide)
    exact absurd howned (by decide)

end GammaState

end Compositor
