import Mathlib.Tactic.Common
import Rwl.Theory.TagHistory

/-!
# Tag history is faithful

* `Desk.Logs`: each monitor has a history, which is a log of the latest 16; `logs_reachable`;
* `Faithful`: an operation enters in each history the view that it left, or nothing;
* `ViewOp.Fits`: when it does; `ViewOp.faithful_iff`;
* `leftViews`: the views of a monitor that a run leaves; `tag_history_faithful`: what the history
  of a monitor is after a run.
-/

namespace Compositor

open Transition Latest

/-! ### Logs -/

namespace Desk

/-- Each monitor has a history, and a history is a log. -/
structure Logs (d : Desk) : Prop where
  length : d.tag_history.length = d.monitors.length
  log : ∀ h ∈ d.tag_history, IsLog 16 h

theorem Logs.of_eq {d d' : Desk} (h : d.Logs) (hlength : d'.monitors.length = d.monitors.length)
    (hlog : d'.tag_history = d.tag_history) : d'.Logs :=
  ⟨by rw [hlog, hlength]; exact h.length, by rw [hlog]; exact h.log⟩

theorem isLog_filter {h : List ℕ} (hlog : IsLog 16 h) (p : ℕ → Bool) : IsLog 16 (h.filter p) :=
  ⟨hlog.1.filter p, (List.length_filter_le p h).trans hlog.2⟩

theorem logs_change {file : Config} {L : Desk → Desk → Prop} {d d' : Desk}
    (hL : ∀ d d', L d d' → d.Logs → d'.Logs) (hc : Change file L d d') (h : d.Logs) : d'.Logs := by
  cases hc with
  | relaid _ hbare hviews =>
    refine h.of_eq ?_ (congrArg Desk.tag_history hbare :)
    have hlength := congrArg List.length hviews
    unfold viewed at hlength
    rwa [List.length_map, List.length_map] at hlength
  | monitor | back | tune => exact h.of_eq (List.length_modify ..) rfl
  | every => exact h.of_eq (List.length_map ..) rfl
  | rules _ hr =>
    obtain ⟨ms, o, rfl, hms, -⟩ := hr
    have hlength := congrArg List.length hms
    rw [List.length_map, List.length_map] at hlength
    exact h.of_eq hlength rfl
  | history i tags =>
    unfold update_tag_history
    split
    · split_ifs
      · refine ⟨(List.length_modify ..).trans h.length, ?_⟩
        exact Recency.forall_mem_modify (fun past hpast => isLog_keepLatest (by omega) hpast _)
          h.log i
      · exact h
    · exact h
  | forget i tags =>
    refine ⟨(List.length_modify ..).trans h.length, ?_⟩
    refine Recency.forall_mem_modify (fun past hpast => ?_) h.log i
    exact isLog_filter hpast fun t => decide (t ≠ tags)
  | life _ hl => exact hL _ _ hl h
  | clock | processes | gaps | outputs | unslide | client | select | raise | lower | front
  | window | reload => exact h.of_eq rfl rfl

end Desk

namespace Rwl

theorem logs_life {g : Grab} {e : Event} {d d' : Desk} (hl : Life g e d d') (h : d.Logs) :
    d'.Logs := by
  cases hl with
  | unmapped _ f w =>
    unfold swallow.on_unmap
    dsimp only
    split <;> split_ifs <;> exact h.of_eq rfl rfl
  | swallowed _ f b w =>
    unfold swallow.try_swallow
    dsimp only
    split <;> exact h.of_eq rfl rfl
  | monitor _ o info =>
    refine ⟨?_, fun past hpast => ?_⟩
    · show (d.tag_history ++ [[]]).length = (d.monitors ++ [_]).length
      rw [List.length_append, List.length_append, h.length]
      rfl
    · rcases List.mem_append.1 hpast with hpast | hpast
      · exact h.log past hpast
      · obtain rfl := List.mem_singleton.1 hpast
        exact ⟨List.nodup_nil, Nat.zero_le _⟩
  | unplugged _ o i =>
    refine ⟨?_, fun past hpast => h.log past (List.mem_of_mem_eraseIdx hpast)⟩
    show (d.tag_history.eraseIdx i).length = (d.monitors.eraseIdx i).length
    rw [List.length_eraseIdx, List.length_eraseIdx, h.length]
  | dragged_by _ _ _ _ hd | dragged_to _ _ _ _ hd =>
    obtain ⟨_, _, _, _, _, rfl⟩ := hd
    exact h.of_eq (List.length_modify ..) rfl
  | toplevel | closed | x11 | override | x11_unmapped | x11_destroyed | popup_unmapped
  | popup_destroyed | unpaired | paired | mapped | disconnected | jump | slide =>
    exact h.of_eq rfl rfl

/-- Each event keeps the histories logs. -/
theorem logs_step (s : Rwl) (e : Event) (h : s.desk.Logs) : (step s e).desk.Logs := by
  by_cases hfile : ∃ cfg, e = .config_written cfg
  · obtain ⟨cfg, rfl⟩ := hfile
    exact h
  · have hmoves := Moves.step s e (fun cfg he => hfile ⟨cfg, he⟩) fun _ _ hl => hl
    have hchain {d : Desk} (hc : Desk.Changes s.config_file (Life s.grab e) s.desk d) : d.Logs := by
      induction hc with
      | refl => exact h
      | tail _ hstep ih => exact Desk.logs_change (fun _ _ => logs_life) hstep ih
    exact hchain hmoves.changes

theorem logs_reachable {s : Rwl} (hs : Reachable s) : s.desk.Logs := by
  obtain ⟨env, hreach⟩ := hs
  exact hreach.inv (I := fun s => s.desk.Logs) logs_step ⟨rfl, nofun⟩

end Rwl

/-- Lists that end at the same place. -/
theorem length_eq_of_none_iff {α β : Type} {l : List α} {l' : List β}
    (h : ∀ j : ℕ, l[j]? = none ↔ l'[j]? = none) : l.length = l'.length := by
  have hle : l'.length ≤ l.length :=
    List.getElem?_eq_none_iff.1 ((h l.length).1 (List.getElem?_eq_none_iff.2 le_rfl))
  have hge : l.length ≤ l'.length :=
    List.getElem?_eq_none_iff.1 ((h l'.length).2 (List.getElem?_eq_none_iff.2 le_rfl))
  omega

/-- An operation keeps the histories logs. -/
theorem ViewOp.logs_run {s : Rwl} (h : s.desk.Logs) (op : ViewOp) : (op.run s).desk.Logs := by
  have hmon : (op.run s).desk.monitors.length = s.desk.monitors.length := by
    refine length_eq_of_none_iff fun j => ?_
    have hview := (op.turns s j).view
    unfold Desk.viewAt at hview
    rw [← Option.map_eq_none_iff, hview, Option.map_eq_none_iff]
  have hlog : (op.run s).desk.tag_history.length = s.desk.tag_history.length := by
    refine length_eq_of_none_iff fun j => ?_
    rw [(op.turns s j).history, Option.map_eq_none_iff]
  refine ⟨by rw [hlog, hmon, h.length], fun past hpast => ?_⟩
  obtain ⟨j, hj⟩ := List.mem_iff_getElem?.1 hpast
  rw [(op.turns s j).history] at hj
  obtain ⟨h₀, hh₀, rfl⟩ := Option.map_eq_some_iff.1 hj
  exact isLog_foldl (by omega) (h.log h₀ (List.mem_of_getElem? hh₀)) _

/-! ### When an operation is faithful -/

/-- The view of monitor `j` that is shown no more. -/
def Desk.left (d d' : Desk) (j : ℕ) : Option ℕ :=
  (d.viewAt j).filter fun v => decide (d'.viewAt j ≠ some v)

/-- Each history gets the view that its monitor left, at its end, and nothing where the view
stays. -/
def Faithful (s : Rwl) (op : ViewOp) : Prop :=
  ∀ j, (op.run s).desk.tag_history[j]? = (s.desk.tag_history[j]?).map
    ((s.desk.left (op.run s).desk j).toList.foldl Desk.pushHistory)

/-- What is recorded and what changes agree on monitor `j` with the view `old`. -/
def ViewOp.Agrees (s : Rwl) (j old : ℕ) : ViewOp → Prop
  | .view mask => j = s.desk.sel_mon →
      (mask = old ↔ mask &&& s.desk.cfg.tag_mask = 0 ∨ mask &&& s.desk.cfg.tag_mask = old)
  | .view_tag_spawn mask => j = s.desk.sel_mon → mask &&& s.desk.cfg.tag_mask = 0 → old = 0
  -- nothing is recorded
  | .focus_urgent => ∀ w ∈ Rwl.urgentWindow s.desk, j = (s.desk.st w).mon_idx →
      (s.desk.st w).tags &&& s.desk.cfg.tag_mask = 0 ∨
        (s.desk.st w).tags &&& s.desk.cfg.tag_mask = old
  | .rule w => j = s.ruleMonitor w → (TagSwitch.rule w).target s = some 0 → old = 0
  -- nothing is recorded but for the selected monitor
  | .ipc_view which val => j ∈ Rwl.ipcOutputs s.desk which → j ≠ s.desk.sel_mon →
      val &&& s.desk.cfg.tag_mask = 0 ∨ val &&& s.desk.cfg.tag_mask = old
  | .ipc_toggleview which val => j ∈ Rwl.ipcOutputs s.desk which → j ≠ s.desk.sel_mon →
      (old ^^^ val) &&& s.desk.cfg.tag_mask = 0 ∨ (old ^^^ val) &&& s.desk.cfg.tag_mask = old
  | .view_prev | .toggle_view _ | .view_next_occ_tag _ | .tag _ | .focus_mon _ => True

/-- On each monitor what is recorded and what changes agree, or the history ends with the view
already. -/
def ViewOp.Fits (s : Rwl) (op : ViewOp) : Prop :=
  ∀ j, ∀ old ∈ s.desk.viewAt j, op.Agrees s j old ∨
    ∀ h ∈ s.desk.tag_history[j]?, h.getLast? = some old

namespace Turn

/-- The view is recorded exactly when it changes. -/
def Agrees (t : Turn) (old : ℕ) : Prop := t.recorded old = if t.view = old then none else some old

theorem agrees_none_iff (old view : ℕ) : Agrees ⟨none, view⟩ old ↔ view = old := by
  unfold Agrees recorded
  by_cases h : view = old <;> simp [h]

theorem agrees_some_iff (old target view : ℕ) :
    Agrees ⟨some target, view⟩ old ↔ (target = old ↔ view = old) := by
  unfold Agrees recorded
  rw [Option.filter_some]
  by_cases ht : old = target
  · by_cases hv : view = old <;> simp [← ht, hv]
  · by_cases hv : view = old <;> simp [ht, Ne.symm ht, hv]

theorem agrees_stays (m : Monitor) : m.stays.Agrees m.tags := (agrees_none_iff _ _).2 rfl

theorem shown_eq_iff (cfg : Config) (mask old : ℕ) :
    cfg.shown mask old = old ↔ mask &&& cfg.tag_mask = 0 ∨ mask &&& cfg.tag_mask = old := by
  unfold Config.shown
  by_cases h : mask &&& cfg.tag_mask = 0 <;> simp [h]

/-- A target within the mask is shown, unless it is empty. -/
theorem agrees_within_iff {cfg : Config} {mask : ℕ} (h : mask &&& cfg.tag_mask = mask) (old : ℕ) :
    Agrees ⟨some mask, cfg.shown mask old⟩ old ↔ (mask = 0 → old = 0) := by
  rw [agrees_some_iff, shown_eq_iff, h]
  constructor
  · rintro hiff rfl
    exact (hiff.2 (.inl rfl)).symm
  · intro hzero
    refine ⟨.inr, ?_⟩
    rintro (hmask | hmask)
    · rw [hmask, hzero hmask]
    · exact hmask

theorem agrees_socketTurn_iff (d : Desk) (j asked old : ℕ) :
    (d.socketTurn j asked old).Agrees old ↔ (j ≠ d.sel_mon →
      asked &&& d.cfg.tag_mask = 0 ∨ asked &&& d.cfg.tag_mask = old) := by
  by_cases hzero : asked &&& d.cfg.tag_mask = 0
  · have hturn : d.socketTurn j asked old = ⟨none, old⟩ := by
      unfold Desk.socketTurn Config.shown
      simp [hzero]
    rw [hturn, agrees_none_iff]
    exact iff_of_true rfl fun _ => .inl hzero
  · rw [Rwl.socketTurn_of_ne hzero]
    by_cases hsel : j = d.sel_mon
    · rw [if_pos hsel, agrees_some_iff, shown_eq_iff]
      exact iff_of_true ⟨.inr, fun h => h.resolve_left hzero⟩ fun h => absurd hsel h
    · rw [if_neg hsel, agrees_none_iff, shown_eq_iff]
      exact ⟨fun h _ => h, fun h => h hsel⟩

/-- A turn that does not agree is faithful only when the history ends with the view. -/
theorem foldl_eq_iff (t : Turn) (old : ℕ) {h : List ℕ} (hlog : IsLog 16 h) :
    (t.recorded old).toList.foldl Desk.pushHistory h =
        (if t.view = old then none else some old).toList.foldl Desk.pushHistory h ↔
      t.Agrees old ∨ h.getLast? = some old := by
  have hpush : Desk.pushHistory h old = h ↔ h.getLast? = some old :=
    keepLatest_eq_self_iff (by omega) hlog
  have hrecorded : t.recorded old = none ∨ t.recorded old = some old := by
    unfold recorded
    cases t.target.filter fun target => decide (old ≠ target) with
    | none => exact .inl rfl
    | some target => exact .inr rfl
  unfold Agrees
  by_cases hview : t.view = old <;> rcases hrecorded with hrec | hrec <;>
    simp [hview, hrec, hpush, eq_comm (a := h)]

end Turn

theorem within_next_occ_tag {d : Desk} {dir : ℤ} {mask : ℕ} (h : d.next_occ_tag dir = some mask) :
    mask &&& d.cfg.tag_mask = mask ∧ mask ≠ 0 := by
  obtain ⟨m, -, hnext⟩ := Option.bind_eq_some_iff.1 h
  unfold Monitor.next_occupied_tag at hnext
  split_ifs at hnext
  obtain ⟨k, hk, rfl⟩ := List.mem_map.1 (List.mem_of_find?_eq_some hnext)
  rw [List.mem_range] at hk
  generalize hpos : ((Nat.log2 m.tags : ℤ) + dir * (k + 1 : ℕ)).emod d.cfg.tag_count = pos
  have hlt : pos.toNat < d.cfg.tag_count := by
    have hmod := Int.emod_lt_of_pos ((Nat.log2 m.tags : ℤ) + dir * (k + 1 : ℕ))
      (show (0 : ℤ) < d.cfg.tag_count by omega)
    have hmod' : pos < d.cfg.tag_count := hpos ▸ hmod
    omega
  have hbit : 2 ^ pos.toNat < 2 ^ d.cfg.tag_count := Nat.pow_lt_pow_right (by omega) hlt
  rw [Nat.one_shiftLeft]
  refine ⟨?_, by positivity⟩
  unfold Config.tag_mask
  rw [Nat.and_two_pow_sub_one_eq_mod, Nat.mod_eq_of_lt hbit]

namespace ViewOp

variable {s : Rwl} {j : ℕ}

/-- The turn of an operation agrees exactly where the operation does. -/
theorem agrees_turn_iff (op : ViewOp) (m : Monitor) :
    (op.turn s j m).Agrees m.tags ↔ op.Agrees s j m.tags := by
  have hother {p : Prop} [Decidable p] {t : Turn} {q : Prop}
      (ht : p → (t.Agrees m.tags ↔ q)) : (if p then t else m.stays).Agrees m.tags ↔ (p → q) := by
    split_ifs with hp
    · exact (ht hp).trans ⟨fun hq _ => hq, fun hq => hq hp⟩
    · exact iff_of_true (Turn.agrees_stays m) fun h => absurd h hp
  have halways {p : Prop} [Decidable p] {t : Turn} (ht : p → t.Agrees m.tags) :
      (if p then t else m.stays).Agrees m.tags ↔ True := by
    refine iff_of_true ?_ trivial
    split_ifs with hp
    · exact ht hp
    · exact Turn.agrees_stays m
  have hmasked (mask : ℕ) : mask &&& s.desk.cfg.tag_mask &&& s.desk.cfg.tag_mask =
      mask &&& s.desk.cfg.tag_mask := by rw [Nat.and_assoc, Nat.and_self]
  cases op with
  | view mask => exact hother fun _ => (Turn.agrees_some_iff ..).trans (by rw [Turn.shown_eq_iff])
  | view_prev => exact halways fun _ => (Turn.agrees_some_iff ..).2 Iff.rfl
  | toggle_view mask =>
    refine halways fun _ => ?_
    by_cases hzero : (m.tags ^^^ mask) &&& s.desk.cfg.tag_mask = 0
    · rw [if_neg (not_not.2 hzero), Turn.agrees_none_iff, Turn.shown_eq_iff]
      exact .inl hzero
    · rw [if_pos hzero, Turn.agrees_some_iff, Turn.shown_eq_iff]
      exact ⟨.inr, fun h => h.resolve_left hzero⟩
  | view_next_occ_tag dir =>
    dsimp only [turn]
    split
    · rename_i mask hmask
      obtain ⟨hwithin, hne⟩ := within_next_occ_tag hmask
      exact halways fun _ => (Turn.agrees_within_iff hwithin _).2 fun h => absurd h hne
    · exact iff_of_true (Turn.agrees_stays m) trivial
  | tag mask =>
    exact halways fun h => (Turn.agrees_within_iff (hmasked mask) _).2 fun hzero =>
      absurd hzero h.2.1
  | view_tag_spawn mask => exact hother fun _ => Turn.agrees_within_iff (hmasked mask) _
  | focus_urgent =>
    dsimp only [turn, Agrees]
    cases Rwl.urgentWindow s.desk with
    | none => exact iff_of_true (Turn.agrees_stays m) nofun
    | some w =>
      refine (hother fun _ => (Turn.agrees_none_iff ..).trans (Turn.shown_eq_iff ..)).trans ?_
      exact ⟨fun h v hv => Option.mem_some.1 hv ▸ h, fun h => h w rfl⟩
  | focus_mon => exact iff_of_true (Turn.agrees_stays m) trivial
  | rule w =>
    dsimp only [turn, Agrees]
    cases htarget : (TagSwitch.rule w).target s with
    | none => exact iff_of_true (Turn.agrees_stays m) fun _ h => by cases h
    | some mask =>
      have hwithin : mask &&& s.desk.cfg.tag_mask = mask := by
        dsimp only [TagSwitch.target] at htarget
        split_ifs at htarget
        exact s.within_switch_ruleAccum w htarget
      refine (hother fun _ => Turn.agrees_within_iff hwithin _).trans ?_
      exact forall_congr' fun _ => by rw [Option.some.injEq]
  | ipc_view which val => exact hother fun _ => Turn.agrees_socketTurn_iff ..
  | ipc_toggleview which val => exact hother fun _ => Turn.agrees_socketTurn_iff ..

/-- **An operation is faithful exactly when it fits.** -/
theorem faithful_iff (h : s.desk.Logs) (op : ViewOp) : Faithful s op ↔ op.Fits s := by
  refine forall_congr' fun j => ?_
  obtain ⟨hview, hhistory⟩ := op.turns s j
  rw [hhistory]
  unfold Desk.left
  rw [hview]
  unfold Desk.viewAt
  cases hm : s.desk.monitors[j]? with
  | none => exact iff_of_true rfl nofun
  | some m =>
    have hlt : j < s.desk.tag_history.length := by
      rw [h.length]
      exact (List.getElem?_eq_some_iff.1 hm).1
    have hlog := h.log _ (List.getElem_mem hlt)
    rw [List.getElem?_eq_getElem hlt, Option.bind_some, Option.map_some, Option.map_some,
      Option.map_some, Option.map_some, Option.some.injEq, Option.filter_some]
    have hleft : (if decide (some (op.turn s j m).view ≠ some m.tags) = true then some m.tags
        else none) = if (op.turn s j m).view = m.tags then none else some m.tags := by
      by_cases hsame : (op.turn s j m).view = m.tags <;> simp [hsame]
    rw [hleft, Turn.foldl_eq_iff _ _ hlog, agrees_turn_iff]
    constructor
    · intro hfits old hold
      obtain rfl := Option.some.inj hold
      exact hfits.imp_right fun hlast past hpast => Option.some.inj hpast ▸ hlast
    · intro hfits
      exact (hfits m.tags rfl).imp_right fun hlast => hlast _ rfl

end ViewOp

/-! ### Runs -/

/-- The views of monitor `j` that a run leaves, in order. -/
def leftViews : Rwl → List ViewOp → ℕ → List ℕ
  | _, [], _ => []
  | s, op :: ops, j => (s.desk.left (op.run s).desk j).toList ++ leftViews (op.run s) ops j

variable {s : Rwl} {ops : List ViewOp}

theorem guarded_faithful_iff (h : s.desk.Logs) :
    Guarded ViewOp.run Faithful s ops ↔ Guarded ViewOp.run ViewOp.Fits s ops := by
  induction ops generalizing s with
  | nil => exact Iff.rfl
  | cons op ops ih => exact and_congr (ViewOp.faithful_iff h op) (ih (op.logs_run h))

/-- The views left are entered one after the other. -/
theorem history_of_faithful (h : Guarded ViewOp.run Faithful s ops) (j : ℕ) :
    (run ViewOp.run s ops).desk.tag_history[j]? =
      (s.desk.tag_history[j]?).map ((leftViews s ops j).foldl Desk.pushHistory) := by
  induction ops generalizing s with
  | nil => exact (congrFun Option.map_id s.desk.tag_history[j]?).symm
  | cons op ops ih =>
    rw [run_cons, ih h.2, h.1 j, Option.map_map]
    refine congrArg (Option.map · s.desk.tag_history[j]?) (funext fun past => ?_)
    exact (List.foldl_append ..).symm

theorem logs_run (h : s.desk.Logs) : (run ViewOp.run s ops).desk.Logs := by
  induction ops generalizing s with
  | nil => exact h
  | cons op ops ih => exact ih (op.logs_run h)

theorem length_history_run (h : s.desk.Logs) :
    (run ViewOp.run s ops).desk.tag_history.length = s.desk.tag_history.length := by
  induction ops generalizing s with
  | nil => rfl
  | cons op ops ih =>
    refine (ih (op.logs_run h)).trans (length_eq_of_none_iff fun j => ?_)
    rw [(op.turns s j).history, Option.map_eq_none_iff]

/-- **The operations of a run are faithful exactly when they fit. A history always is a log, and
after a run that fits it has the latest views that its monitor left, the last one at the end.** -/
theorem tag_history_faithful (hs : Rwl.Reachable s) (ops : List ViewOp) :
    (Guarded ViewOp.run Faithful s ops ↔ Guarded ViewOp.run ViewOp.Fits s ops) ∧
      ∀ j h, s.desk.tag_history[j]? = some h →
        ∃ h', (run ViewOp.run s ops).desk.tag_history[j]? = some h' ∧ h'.Nodup ∧
          h'.length ≤ 16 ∧ (Guarded ViewOp.run ViewOp.Fits s ops →
            h' = latestDistinct 16 (h ++ leftViews s ops j)) := by
  have hlogs := Rwl.logs_reachable hs
  have hiff : Guarded ViewOp.run Faithful s ops ↔ Guarded ViewOp.run ViewOp.Fits s ops :=
    guarded_faithful_iff hlogs
  refine ⟨hiff, fun j h hj => ?_⟩
  have hlt : j < (run ViewOp.run s ops).desk.tag_history.length := by
    rw [length_history_run hlogs]
    exact (List.getElem?_eq_some_iff.1 hj).1
  have hlogs' : (run ViewOp.run s ops).desk.Logs := logs_run hlogs
  obtain ⟨hnodup, hlength⟩ := hlogs'.log _ (List.getElem_mem hlt)
  refine ⟨_, List.getElem?_eq_getElem hlt, hnodup, hlength, fun hfits => ?_⟩
  have hhistory := history_of_faithful (hiff.2 hfits) j
  rw [hj, Option.map_some, List.getElem?_eq_getElem hlt] at hhistory
  refine (Option.some.inj hhistory).trans ?_
  have hlog := hlogs.log h (List.mem_of_getElem? hj)
  rw [← foldl_keepLatest (by omega), hlog.latestDistinct_eq]
  rfl

/-! ### Deciding what fits -/

instance ViewOp.decidableAgrees (s : Rwl) (j old : ℕ) (op : ViewOp) : Decidable (op.Agrees s j old) := by
  cases op <;> unfold ViewOp.Agrees <;> infer_instance

instance ViewOp.decidableFits (s : Rwl) (op : ViewOp) : Decidable (op.Fits s) :=
  decidable_of_iff (∀ j < s.desk.monitors.length, ∀ old ∈ s.desk.viewAt j, op.Agrees s j old ∨
      ∀ h ∈ s.desk.tag_history[j]?, h.getLast? = some old) <| by
    refine ⟨fun h j old hold => h j ?_ old hold, fun h j _ => h j⟩
    obtain ⟨m, hm, -⟩ := Option.map_eq_some_iff.1 hold
    exact (List.getElem?_eq_some_iff.1 hm).1

/-- Two monitors, with a window on the second, which is selected. -/
def twoOutputs : List Rwl.Event :=
  [.output_added 0 (Rwl.plainOutput "a"),
    .output_added 1 { Rwl.plainOutput "b" with location := ⟨800, 0⟩ }, .ipc (.FocusMon 1),
    .new_toplevel 0 (Rwl.plainClient 10), .commit 10 true]

/-- Views change on both monitors. -/
def viewRun : List ViewOp :=
  [.view 2, .view 4, .toggle_view 1, .view_prev, .view_next_occ_tag 1, .tag 8, .ipc_view (some 1) 2,
    .focus_mon 1, .view 2, .focus_mon 1, .ipc_toggleview none 0]

theorem tag_history_faithful_two :
    (run ViewOp.run (run Rwl.step (Rwl.init (Rwl.plainSetup [] [])) twoOutputs)
      viewRun).desk.tag_history[1]? = some [2, 5, 4, 1] := by
  obtain ⟨-, hlogs⟩ := tag_history_faithful
    (s := run Rwl.step (Rwl.init (Rwl.plainSetup [] [])) twoOutputs) ⟨_, _, rfl⟩ viewRun
  obtain ⟨h', hrun, -, -, hlatest⟩ := hlogs 1 [] (by decide +kernel)
  rw [hrun, hlatest (by decide +kernel)]
  decide +kernel

/-- A view without tags is recorded and not shown; a view on the socket is shown and not recorded
where its monitor is not selected. -/
theorem not_tag_history_faithful : ∃ s, Rwl.Reachable s ∧ ¬Faithful s (.view 0) ∧
    ¬Faithful s (.ipc_view (some 0) 2) := by
  refine ⟨run Rwl.step (Rwl.init (Rwl.plainSetup [] [])) twoOutputs, ⟨_, _, rfl⟩, fun h => ?_,
    fun h => ?_⟩
  · have hpushed := h 1
    revert hpushed
    decide +kernel
  · have hmissed := h 0
    revert hmissed
    decide +kernel

end Compositor
