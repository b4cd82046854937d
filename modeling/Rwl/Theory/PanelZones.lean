import Rwl.Lib.Carving
import Rwl.Lib.Run
import Rwl.Core.LayerShell
import Rwl.Theory.OverviewGrid

/-!
# What panels reserve

`LayerMap::arrange` takes a strip off the output for each surface with an exclusive zone.

* `reservation`, `reservations`: the strips, by side and thickness;
* `Sound`: in every run a surface is in the map once and its exclusive amount is an `i32`;
* `zone_arrange_eq`: the zone that is left, also when there is no room;
* `LayerShell.zone_arrange`: it does not depend on the order of the surfaces, and when the strips
  fit the output is divided into the zone and the strips.
-/

namespace Compositor.wlr_layer

open Guillotine Transition

/-! ### The strips -/

/-- The side of an edge. -/
def Edge.side : Edge → Side
  | .TOP => .top
  | .BOTTOM => .bottom
  | .LEFT => .left
  | .RIGHT => .right

/-- The margin at an edge. -/
def Margins.at_edge (m : Margins) : Edge → ℤ
  | .TOP => m.top
  | .BOTTOM => m.bottom
  | .LEFT => m.left
  | .RIGHT => m.right

/-- The strip that a surface reserves. -/
def reservation (data : LayerSurfaceCachedState) : Option (Side × ℤ) :=
  match data.exclusive_zone, effective_exclusive_edge data with
  | .Exclusive amount, some e => some (e.side, sat (as_i32 amount + data.margin.at_edge e))
  | _, _ => none

/-- The strips that the surfaces reserve, in the order of the map. -/
def reservations (layers : List LayerSurface) : List (Side × ℤ) :=
  layers.filterMap fun l => reservation l.current

theorem reservations_append (ls ls' : List LayerSurface) :
    reservations (ls ++ ls') = reservations ls ++ reservations ls' := List.filterMap_append

theorem reservations_cons {l : LayerSurface} {c : Side × ℤ} (h : reservation l.current = some c)
    (ls : List LayerSurface) : reservations (l :: ls) = c :: reservations ls := by
  unfold reservations
  rw [List.filterMap_cons, h]

/-- The largest `i32`. -/
def i32_max : ℤ := 2 ^ 31 - 1

/-- A box as `arrange` computes it: the numbers stop at the ends of the `i32`s. -/
def satRect (b : Box) : Rect :=
  Rect.of (min b.x i32_max) (min b.y i32_max) (max b.w (-2 ^ 31)) (max b.h (-2 ^ 31))

theorem sat_eq (z : ℤ) : sat z = max (-2 ^ 31) (min z i32_max) := by
  unfold sat clampZ i32_max
  split_ifs <;> omega

/-- What has been cut so far: the corner only moves in, and the size only shrinks. -/
structure Cut (b : Box) : Prop where
  x : 0 ≤ b.x
  y : 0 ≤ b.y
  w : b.w ≤ i32_max
  h : b.h ≤ i32_max

theorem Cut.without {b : Box} (hb : Cut b) {k : ℤ} (hk : 0 ≤ k) (e : Side) :
    Cut (b.without k e) := by
  obtain ⟨hx, hy, hw, hh⟩ := hb
  cases e <;> constructor <;> simp only [Box.without] <;> omega

/-- One reservation, in numbers that stop at the ends of the `i32`s. -/
theorem shrink_satRect {b : Box} (hb : Cut b) {data : LayerSurfaceCachedState} {c : Side × ℤ}
    (hc : reservation data = some c) (hk : 0 ≤ c.2) :
    shrink (satRect b) data = satRect (b.without c.2 c.1) := by
  obtain ⟨hx, hy, hw, hh⟩ := hb
  unfold reservation at hc
  unfold shrink
  split at hc
  · rename_i amount e hzone hedge
    obtain rfl := (Option.some.inj hc).symm
    rw [hzone, hedge]
    cases e <;> simp only [satRect, Rect.of, Edge.side, Margins.at_edge, Box.without] at hk ⊢ <;>
      generalize sat _ = k at hk ⊢ <;>
      simp only [sat_eq, Rect.mk.injEq, Point.mk.injEq, Size.mk.injEq, true_and, and_true] <;>
      unfold i32_max at * <;> omega
  · cases hc

/-- A surface that reserves nothing leaves the zone. -/
theorem shrink_of_none {zone : Rect} {data : LayerSurfaceCachedState}
    (h : reservation data = none) : shrink zone data = zone := by
  unfold reservation at h
  unfold shrink
  split at h
  · cases h
  · rename_i hno
    split <;> first | exact absurd ‹_› (hno _ _ ‹_›) | rfl

/-- All the reservations, one after the other. -/
theorem foldl_shrink {b : Box} (hb : Cut b) {ds : List LayerSurfaceCachedState}
    (hnonneg : ∀ c ∈ ds.filterMap reservation, 0 ≤ c.2) :
    ds.foldl shrink (satRect b) = satRect (rest b (ds.filterMap reservation)) := by
  induction ds generalizing b with
  | nil => rfl
  | cons data ds ih =>
    rw [List.foldl_cons]
    cases hc : reservation data with
    | none =>
      rw [List.filterMap_cons_none hc] at hnonneg ⊢
      rw [shrink_of_none hc]
      exact ih hb hnonneg
    | some c =>
      rw [List.filterMap_cons_some hc] at hnonneg ⊢
      have hk := hnonneg c List.mem_cons_self
      rw [shrink_satRect hb hc hk]
      exact ih (hb.without hk c.1) fun c hc => hnonneg c (List.mem_cons_of_mem _ hc)

namespace LayerShell

/-! ### The loop -/

@[simp] theorem zone_modify (s : LayerShell) (f : SurfaceId) (g : LayerSurface → LayerSurface) :
    (s.modify f g).zone = s.zone := rfl

@[simp] theorem output_rect_modify (s : LayerShell) (f : SurfaceId)
    (g : LayerSurface → LayerSurface) : (s.modify f g).output_rect = s.output_rect := rfl

@[simp] theorem zone_send_configure (s : LayerShell) (l : LayerSurface) :
    (s.send_configure l).zone = s.zone := rfl

@[simp] theorem output_size_send_configure (s : LayerShell) (l : LayerSurface) :
    (s.send_configure l).output_size = s.output_size := rfl

@[simp] theorem zone_arrange_layer (s : LayerShell) (l : LayerSurface) :
    (s.arrange_layer l).zone = shrink s.zone l.current := by
  unfold arrange_layer
  dsimp only
  split_ifs <;> rfl

@[simp] theorem output_size_arrange_layer (s : LayerShell) (l : LayerSurface) :
    (s.arrange_layer l).output_size = s.output_size := by
  unfold arrange_layer
  dsimp only
  split_ifs <;> rfl

theorem zone_foldl_arrange_layer (s : LayerShell) (ls : List LayerSurface) :
    (ls.foldl arrange_layer s).zone = (ls.map (·.current)).foldl shrink s.zone := by
  induction ls generalizing s with
  | nil => rfl
  | cons l ls ih => rw [List.foldl_cons, ih, zone_arrange_layer, List.map_cons, List.foldl_cons]

theorem output_size_foldl_arrange_layer (s : LayerShell) (ls : List LayerSurface) :
    (ls.foldl arrange_layer s).output_size = s.output_size := by
  induction ls generalizing s with
  | nil => rfl
  | cons l ls ih => rw [List.foldl_cons, ih, output_size_arrange_layer]

@[simp] theorem output_size_arrange (s : LayerShell) : s.arrange.output_size = s.output_size :=
  output_size_foldl_arrange_layer _ _

/-- The surfaces are taken in another order, and each of them once. -/
theorem perm_order (ls : List LayerSurface) : (order ls).Perm ls :=
  List.filter_append_perm _ ls

theorem perm_reservations_order (ls : List LayerSurface) :
    (reservations (order ls)).Perm (reservations ls) := (perm_order ls).filterMap _

/-- The output as a box. -/
def outputBox (s : LayerShell) : Box := ⟨0, 0, s.output_size.w, s.output_size.h⟩

/-- The size of the output is one of `i32`s. -/
def Sized (s : LayerShell) : Prop :=
  (0 ≤ s.output_size.w ∧ s.output_size.w ≤ i32_max) ∧
    0 ≤ s.output_size.h ∧ s.output_size.h ≤ i32_max

theorem Sized.cut {s : LayerShell} (h : s.Sized) : Cut s.outputBox :=
  ⟨le_rfl, le_rfl, h.1.2, h.2.2⟩

theorem output_rect_eq {s : LayerShell} (h : s.Sized) : s.output_rect = satRect s.outputBox := by
  obtain ⟨⟨hw, hw'⟩, hh, hh'⟩ := h
  simp only [output_rect, satRect, outputBox, Rect.of, Rect.mk.injEq, Point.mk.injEq]
  generalize s.output_size = size at *
  obtain ⟨w, h⟩ := size
  dsimp only at hw hw' hh hh'
  simp only [Size.mk.injEq]
  unfold i32_max at *
  omega

/-- The zone after `arrange`, whether or not there is room for the strips. -/
theorem zone_arrange_eq {s : LayerShell} (hsized : s.Sized)
    (hnonneg : ∀ c ∈ reservations s.layers, 0 ≤ c.2) :
    s.arrange.zone = Rect.of (min (taken .left (reservations s.layers)) i32_max)
      (min (taken .top (reservations s.layers)) i32_max)
      (max (s.output_size.w - taken .left (reservations s.layers) -
        taken .right (reservations s.layers)) 0)
      (max (s.output_size.h - taken .top (reservations s.layers) -
        taken .bottom (reservations s.layers)) 0) := by
  have hperm := perm_reservations_order s.layers
  have hfold : ((order s.layers).foldl arrange_layer { s with zone := s.output_rect }).zone =
      satRect (rest s.outputBox (reservations s.layers)) := by
    rw [zone_foldl_arrange_layer, output_rect_eq hsized, foldl_shrink hsized.cut,
      List.filterMap_map]
    · exact congrArg satRect (rest_perm _ hperm)
    · intro c hc
      rw [List.filterMap_map] at hc
      exact hnonneg c (hperm.subset hc)
  unfold arrange
  dsimp only
  rw [hfold, rest_eq]
  simp only [satRect, Rect.of, outputBox, Rect.mk.injEq, Point.mk.injEq, Size.mk.injEq]
  omega

end LayerShell

/-! ### Runs -/

/-- What `arrange` leaves of a surface. -/
def LayerSurface.asks (l : LayerSurface) :
    SurfaceId × LayerSurfaceCachedState × LayerSurfaceCachedState :=
  (l.wl_surface, l.pending, l.current)

namespace LayerShell

theorem map_modify {α : Type*} (k : LayerSurface → α) {s : LayerShell} {f : SurfaceId}
    {g : LayerSurface → LayerSurface} (h : ∀ l ∈ s.layers, l.wl_surface = f → k (g l) = k l) :
    (s.modify f g).layers.map k = s.layers.map k := by
  unfold modify
  rw [List.map_map]
  refine List.map_congr_left fun l hl => ?_
  by_cases hf : l.wl_surface = f
  · rw [Function.comp_apply, if_pos hf, h l hl hf]
  · rw [Function.comp_apply, if_neg hf]

theorem asks_send_configure (s : LayerShell) (l : LayerSurface) :
    (s.send_configure l).layers.map LayerSurface.asks = s.layers.map LayerSurface.asks :=
  map_modify _ fun _ _ _ => rfl

theorem asks_arrange_layer {s : LayerShell} {l : LayerSurface}
    (h : ∀ l' ∈ s.layers, l'.wl_surface = l.wl_surface → l'.asks = l.asks) :
    (s.arrange_layer l).layers.map LayerSurface.asks = s.layers.map LayerSurface.asks := by
  unfold arrange_layer
  dsimp only
  split_ifs
  · refine (asks_send_configure _ _).trans (map_modify _ fun l' hl' hf => ?_)
    exact (h l' hl' hf).symm
  · exact map_modify _ fun l' hl' hf => (h l' hl' hf).symm

/-- A surface is in the map once. -/
def Once (s : LayerShell) : Prop := (s.layers.map (·.wl_surface)).Nodup

theorem surfaces_of_asks {s t : LayerShell}
    (h : t.layers.map LayerSurface.asks = s.layers.map LayerSurface.asks) :
    t.layers.map (·.wl_surface) = s.layers.map (·.wl_surface) := by
  have hfst := congrArg (List.map Prod.fst) h
  simpa only [List.map_map, Function.comp_def, LayerSurface.asks] using hfst

/-- Surfaces that are in the map once and ask for the same. -/
theorem asks_eq_of_mem {s t : LayerShell} (honce : s.Once)
    (h : t.layers.map LayerSurface.asks = s.layers.map LayerSurface.asks) {l l' : LayerSurface}
    (hl : l ∈ s.layers) (hl' : l' ∈ t.layers) (hf : l'.wl_surface = l.wl_surface) :
    l'.asks = l.asks := by
  have hmem : l'.asks ∈ s.layers.map LayerSurface.asks := h ▸ List.mem_map_of_mem hl'
  obtain ⟨m, hm, hasks⟩ := List.mem_map.mp hmem
  have hsame : m.wl_surface = l.wl_surface := (congrArg Prod.fst hasks).trans hf
  have heq : m = l := List.inj_on_of_nodup_map honce hm hl hsame
  rw [← hasks, heq]

theorem asks_foldl_arrange_layer {s₀ s : LayerShell} (honce : s₀.Once)
    (h : s.layers.map LayerSurface.asks = s₀.layers.map LayerSurface.asks) {ls : List LayerSurface}
    (hls : ∀ l ∈ ls, l ∈ s₀.layers) :
    (ls.foldl arrange_layer s).layers.map LayerSurface.asks =
      s₀.layers.map LayerSurface.asks := by
  induction ls generalizing s with
  | nil => exact h
  | cons l ls ih =>
    refine ih ?_ fun l hl => hls l (List.mem_cons_of_mem _ hl)
    rw [asks_arrange_layer, h]
    exact fun l' hl' hf => asks_eq_of_mem honce h (hls l List.mem_cons_self) hl' hf

/-- `arrange` does not change what clients ask for. -/
theorem asks_arrange {s : LayerShell} (honce : s.Once) :
    s.arrange.layers.map LayerSurface.asks = s.layers.map LayerSurface.asks :=
  @asks_foldl_arrange_layer s { s with zone := s.output_rect } honce rfl _
    fun _ hl => (perm_order s.layers).subset hl

/-- An exclusive amount comes from an `i32`. -/
def Amount (data : LayerSurfaceCachedState) : Prop :=
  ∀ amount, data.exclusive_zone = .Exclusive amount → amount < 2 ^ 31

/-- What holds of the surfaces of a map. -/
structure Sound (s : LayerShell) : Prop where
  once : s.Once
  pending : ∀ l ∈ s.layers, Amount l.pending
  current : ∀ l ∈ s.layers, Amount l.current

theorem Sound.of_asks {s t : LayerShell} (hs : s.Sound)
    (h : t.layers.map LayerSurface.asks = s.layers.map LayerSurface.asks) : t.Sound := by
  have hmem : ∀ l ∈ t.layers, ∃ m ∈ s.layers, m.asks = l.asks := fun l hl =>
    List.mem_map.mp (h ▸ List.mem_map_of_mem hl)
  refine ⟨?_, fun l hl => ?_, fun l hl => ?_⟩
  · have honce := hs.once
    unfold Once at honce ⊢
    rwa [surfaces_of_asks h]
  · obtain ⟨m, hm, hasks⟩ := hmem l hl
    rw [show l.pending = m.pending from (congrArg (·.2.1) hasks).symm]
    exact hs.pending m hm
  · obtain ⟨m, hm, hasks⟩ := hmem l hl
    rw [show l.current = m.current from (congrArg (·.2.2) hasks).symm]
    exact hs.current m hm

theorem Sound.arrange {s : LayerShell} (hs : s.Sound) : s.arrange.Sound :=
  hs.of_asks (asks_arrange hs.once)

theorem Sound.modify {s : LayerShell} (hs : s.Sound) {f : SurfaceId}
    {g : LayerSurface → LayerSurface}
    (hg : ∀ l ∈ s.layers, l.wl_surface = f → (g l).wl_surface = f ∧ Amount (g l).pending ∧
      Amount (g l).current) : (s.modify f g).Sound := by
  refine ⟨?_, fun l hl => ?_, fun l hl => ?_⟩
  · have honce := hs.once
    unfold Once at honce ⊢
    rwa [map_modify fun l => l.wl_surface]
    exact fun l hl hf => (hg l hl hf).1.trans hf.symm
  all_goals
    obtain ⟨m, hm, rfl⟩ := List.mem_map.mp hl
    split_ifs with hf
  · exact (hg m hm hf).2.1
  · exact hs.pending m hm
  · exact (hg m hm hf).2.2
  · exact hs.current m hm

theorem mem_of_layer {s : LayerShell} {f : SurfaceId} {l : LayerSurface} (h : s.layer f = some l) :
    l ∈ s.layers ∧ l.wl_surface = f :=
  ⟨List.mem_of_find?_eq_some h, by simpa using List.find?_some h⟩

theorem amount_default (layer : WlrLayer) :
    Amount { LayerSurfaceCachedState.default with layer } := fun _ h => (nomatch h)

theorem amount_of_i32 (zone : I32) {amount : ℕ}
    (h : ExclusiveZone.of_i32 zone = .Exclusive amount) :
    amount < 2 ^ 31 := by
  have hzone := zone.2
  unfold ExclusiveZone.of_i32 at h
  split_ifs at h
  obtain rfl := ExclusiveZone.Exclusive.inj h
  unfold InI32 at hzone
  omega

theorem amount_apply {data data' : LayerSurfaceCachedState} {r : LayerRequest} (h : Amount data)
    (hr : r.apply data = .ok data') : Amount data' := by
  cases r <;> simp only [LayerRequest.apply] at hr
  case set_exclusive_zone zone =>
    obtain rfl := Except.ok.inj hr
    exact fun amount hamount => amount_of_i32 zone hamount
  case set_anchor bits =>
    split at hr
    · obtain rfl := Except.ok.inj hr
      exact h
    · cases hr
  case set_exclusive_edge bits =>
    split at hr
    · cases hr
    · split at hr
      · obtain rfl := Except.ok.inj hr
        exact h
      · obtain rfl := Except.ok.inj hr
        exact h
      · cases hr
  all_goals
    obtain rfl := Except.ok.inj hr
    exact fun amount hamount => h amount hamount

/-- What the pre-commit hook can leave of a surface that passes its checks. -/
theorem pre_commit_hook_cases {l l' : LayerSurface} {buffer : Option BufferAssignment}
    (hl : pre_commit_hook l buffer = .ok l') :
    (∃ acked, (acked = none ∨ acked = l.attributes.last_acked) ∧
      l' = { l with pending := { l.pending with last_acked := acked } }) ∨
    l' = { l with
      pending := .default
      attributes := { LayerSurfaceAttributes.new with
        pending_configures := l.attributes.pending_configures } } := by
  unfold pre_commit_hook at hl
  cases hcheck : checkPending l.pending with
  | error e =>
    rw [hcheck] at hl
    cases hl
  | ok u =>
    rw [hcheck] at hl
    change (if _ then _ else _) = Except.ok l' at hl
    split_ifs at hl
    · split at hl
      · cases hl
      · rename_i acked hacked
        exact .inl ⟨some acked, .inr hacked.symm, (Except.ok.inj hl).symm⟩
    · exact .inr (Except.ok.inj hl).symm
    · exact .inl ⟨none, .inl rfl, (Except.ok.inj hl).symm⟩

theorem Sound.pre_commit {s : LayerShell} (hs : s.Sound) {l : LayerSurface} (hl : l ∈ s.layers)
    (buffer : Option BufferAssignment) : (s.pre_commit l buffer).Sound := by
  unfold LayerShell.pre_commit
  cases hhook : pre_commit_hook l buffer with
  | error e => exact ⟨hs.once, hs.pending, hs.current⟩
  | ok l' =>
    refine hs.modify fun _ _ _ => ?_
    rcases pre_commit_hook_cases hhook with ⟨acked, -, rfl⟩ | rfl
    · exact ⟨rfl, hs.pending l hl, hs.current l hl⟩
    · exact ⟨rfl, amount_default _, hs.current l hl⟩

theorem Sound.commit {s : LayerShell} (hs : s.Sound) (f : SurfaceId)
    (buffer : Option BufferAssignment) : (s.commit f buffer).Sound := by
  unfold LayerShell.commit
  cases hl : s.layer f with
  | none => exact hs
  | some l =>
    dsimp only
    have hpre := hs.pre_commit (mem_of_layer hl).1 buffer
    have harranged := (hpre.modify (f := f) (g := fun l => { l with current := l.pending })
      fun l hl hf => ⟨hf, hpre.pending l hl, hpre.pending l hl⟩).arrange
    split
    · split_ifs
      · exact harranged.of_asks (asks_send_configure _ _)
      · exact harranged
    · exact harranged

/-- An event keeps the map sound. -/
theorem Sound.step {s : LayerShell} (hs : s.Sound) (e : LayerEvent) : (s.step e).Sound := by
  cases e with
  | new_layer_surface f layer =>
    simp only [LayerShell.step, LayerShell.new_layer_surface]
    split_ifs with hf
    · exact hs
    · refine Sound.arrange ⟨?_, fun l hl => ?_, fun l hl => ?_⟩
      · have hnew : ∀ l ∈ s.layers, l.wl_surface ≠ f := by
          simpa [LayerShell.layer] using hf
        have honce := hs.once
        unfold Once at honce ⊢
        simp only [List.map_append, List.map_cons, List.map_nil]
        refine honce.append (List.nodup_singleton _) ?_
        simpa [eq_comm] using fun l hl => hnew l hl
      all_goals
        rcases List.mem_append.mp hl with hl | hl
      · exact hs.pending l hl
      · obtain rfl := List.mem_singleton.mp hl
        exact amount_default layer
      · exact hs.current l hl
      · obtain rfl := List.mem_singleton.mp hl
        exact amount_default _
  | request f r =>
    simp only [LayerShell.step, LayerShell.request]
    split
    · exact hs
    · rename_i l hl
      split
      · rename_i pending hr
        exact hs.modify fun m hm hf =>
          ⟨hf, amount_apply (hs.pending l (mem_of_layer hl).1) hr, hs.current m hm⟩
      · exact ⟨hs.once, hs.pending, hs.current⟩
  | ack_configure f serial =>
    simp only [LayerShell.step, LayerShell.ack_configure]
    split
    · exact hs
    · split
      · exact hs.of_asks (map_modify _ fun _ _ _ => rfl)
      · exact ⟨hs.once, hs.pending, hs.current⟩
  | commit f buffer => exact hs.commit f buffer
  | layer_destroyed f =>
    simp only [LayerShell.step, LayerShell.layer_destroyed]
    split_ifs
    · refine Sound.arrange ⟨?_, fun l hl => ?_, fun l hl => ?_⟩
      · exact hs.once.sublist (List.filter_sublist.map _)
      · exact hs.pending l (List.mem_of_mem_filter hl)
      · exact hs.current l (List.mem_of_mem_filter hl)
    · exact hs
  | output_changed size => exact ⟨hs.once, hs.pending, hs.current⟩
  | arrange => exact hs.arrange
  | serial => exact ⟨hs.once, hs.pending, hs.current⟩

theorem sound_of_reach {size : Size} {n : ℕ} {s : LayerShell}
    (h : Reach LayerShell.step (.new size n) s) : s.Sound :=
  h.inv (I := Sound) (fun _ e hs => hs.step e)
    ⟨List.nodup_nil, fun _ hl => absurd hl List.not_mem_nil,
      fun _ hl => absurd hl List.not_mem_nil⟩

/-! ### The zone -/

/-- No surface asks for a negative margin. -/
def Polite (s : LayerShell) : Prop :=
  ∀ l ∈ s.layers, (0 ≤ l.current.margin.top ∧ 0 ≤ l.current.margin.right) ∧
    0 ≤ l.current.margin.bottom ∧ 0 ≤ l.current.margin.left

theorem Polite.at_edge {s : LayerShell} (h : s.Polite) {l : LayerSurface} (hl : l ∈ s.layers)
    (e : Edge) : 0 ≤ l.current.margin.at_edge e := by
  obtain ⟨⟨htop, hright⟩, hbottom, hleft⟩ := h l hl
  cases e <;> assumption

theorem as_i32_of_lt {amount : ℕ} (h : amount < 2 ^ 31) : as_i32 amount = amount :=
  I32.wrap_val (by unfold InI32; omega)

theorem reservations_nonneg {s : LayerShell} (hs : s.Sound) (hpolite : s.Polite) :
    ∀ c ∈ reservations s.layers, 0 ≤ c.2 := by
  intro c hc
  obtain ⟨l, hl, hc⟩ := List.mem_filterMap.mp hc
  unfold reservation at hc
  split at hc
  · rename_i amount e hzone _
    obtain rfl := Option.some.inj hc
    have hmargin := hpolite.at_edge hl e
    rw [as_i32_of_lt (hs.current l hl amount hzone), sat_eq]
    unfold i32_max
    omega
  · cases hc

/-- The zone depends on what the surfaces ask for, in any order. -/
theorem zone_arrange_perm {s t : LayerShell} (hsized : s.Sized)
    (hnonneg : ∀ c ∈ reservations s.layers, 0 ≤ c.2) (hsize : t.output_size = s.output_size)
    (hperm : (t.layers.map (·.current)).Perm (s.layers.map (·.current))) :
    t.arrange.zone = s.arrange.zone := by
  have hres : (reservations t.layers).Perm (reservations s.layers) := by
    have h := hperm.filterMap reservation
    rwa [List.filterMap_map, List.filterMap_map] at h
  have hsized' : t.Sized := by
    unfold Sized at hsized ⊢
    rwa [hsize]
  rw [zone_arrange_eq hsized hnonneg,
    zone_arrange_eq hsized' fun c hc => hnonneg c (hres.subset hc), hsize]
  simp only [taken_perm _ hres]

/-- When the strips fit, the zone is what they leave. -/
theorem zone_arrange_of_fits {s : LayerShell} (hsized : s.Sized)
    (hfits : Guillotine.Fits s.outputBox (reservations s.layers)) :
    s.arrange.zone.toBox = rest s.outputBox (reservations s.layers) := by
  obtain ⟨hnonneg, hwide, hhigh⟩ := hfits
  have hright := taken_nonneg .right hnonneg
  have hbottom := taken_nonneg .bottom hnonneg
  rw [zone_arrange_eq hsized hnonneg, rest_eq]
  obtain ⟨⟨-, hw⟩, -, hh⟩ := hsized
  simp only [outputBox] at hwide hhigh ⊢
  simp only [Rect.toBox, Rect.of, Box.mk.injEq]
  omega

/-- **The zone that panels leave.** In every run of the layer shell of an output, while no client
asks for a negative margin: the zone does not depend on the order of the surfaces, it has pixels
exactly when the strips are thinner than the output, and when they fit, the output is divided into
the zone and the strips. -/
theorem zone_arrange {size : Size} {n : ℕ} {s : LayerShell}
    (hs : Reach LayerShell.step (.new size n) s) (hsized : s.Sized) (hpolite : s.Polite) :
    (∀ ls : List LayerSurface, (ls.map (·.current)).Perm (s.layers.map (·.current)) →
      (LayerShell.arrange { s with layers := ls }).zone = s.arrange.zone) ∧
    ((0 < s.arrange.zone.size.w ∧ 0 < s.arrange.zone.size.h) ↔
      taken .left (reservations s.layers) + taken .right (reservations s.layers) <
          s.output_size.w ∧
        taken .top (reservations s.layers) + taken .bottom (reservations s.layers) <
          s.output_size.h) ∧
    (Guillotine.Fits s.outputBox (reservations s.layers) →
      (s.arrange.zone.toBox :: strips s.outputBox (reservations s.layers)).Pairwise Box.Apart ∧
      ∀ px py, s.outputBox.Has px py ↔ s.arrange.zone.toBox.Has px py ∨
        ∃ b ∈ strips s.outputBox (reservations s.layers), b.Has px py) := by
  have hnonneg := reservations_nonneg (sound_of_reach hs) hpolite
  refine ⟨fun ls hperm => zone_arrange_perm hsized hnonneg rfl hperm, ?_, fun hfits => ?_⟩
  · rw [zone_arrange_eq hsized hnonneg]
    simp only [Rect.of]
    omega
  · rw [zone_arrange_of_fits hsized hfits]
    exact ⟨apart_strips hfits, has_iff_strips hfits⟩

/-- A bar at the top, a dock on the left and a wallpaper. -/
def barEvents : List LayerEvent :=
  [.new_layer_surface 0 .Background, .request 0 (.set_anchor 15), .commit 0 none,
    .new_layer_surface 1 .Top, .request 1 (.set_anchor 13), .request 1 (.set_size 0 30),
    .request 1 (.set_exclusive_zone ⟨30, by decide⟩), .commit 1 none,
    .new_layer_surface 2 .Top, .request 2 (.set_anchor 4), .request 2 (.set_size 60 400),
    .request 2 (.set_exclusive_zone ⟨60, by decide⟩), .request 2 (.set_margin ⟨0, 0, 0, 8⟩),
    .commit 2 none]

/-- An output with these surfaces. -/
def barShell : LayerShell := run LayerShell.step (.new ⟨1920, 1080⟩ 1) barEvents

theorem zone_arrange_bar :
    (∀ ls : List LayerSurface, (ls.map (·.current)).Perm (barShell.layers.map (·.current)) →
      (LayerShell.arrange { barShell with layers := ls }).zone = barShell.arrange.zone) ∧
    ((0 < barShell.arrange.zone.size.w ∧ 0 < barShell.arrange.zone.size.h) ↔
      taken .left (reservations barShell.layers) + taken .right (reservations barShell.layers) <
          barShell.output_size.w ∧
        taken .top (reservations barShell.layers) + taken .bottom (reservations barShell.layers) <
          barShell.output_size.h) ∧
    (Guillotine.Fits barShell.outputBox (reservations barShell.layers) →
      (barShell.arrange.zone.toBox ::
        strips barShell.outputBox (reservations barShell.layers)).Pairwise Box.Apart ∧
      ∀ px py, barShell.outputBox.Has px py ↔ barShell.arrange.zone.toBox.Has px py ∨
        ∃ b ∈ strips barShell.outputBox (reservations barShell.layers), b.Has px py) :=
  zone_arrange ⟨barEvents, rfl⟩ (by unfold Sized; decide +kernel) (by unfold Polite; decide +kernel)

end LayerShell

end Compositor.wlr_layer
