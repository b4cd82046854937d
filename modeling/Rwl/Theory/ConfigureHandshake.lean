import Rwl.Lib.SerialNumbers
import Rwl.Theory.PanelZones

/-!
# Configures and their acknowledgements

A surface is told a size with a serial, and its client acknowledges the serial. Serials wrap.

* `Clocked`: the layer shell with the number of serials taken, and the one of each configure;
* `InStep`: what is remembered of a surface is the end of what was sent to it;
* `wired_step`: an event keeps that, when the client is not too late with an acknowledgement;
* `acknowledged`: which configures an acknowledgement leaves;
* `configure_handshake`: both, in every run.
-/

namespace Compositor.wlr_layer

open Transition SerialNumbers

/-! ### What was sent -/

/-- The configures that were sent to the surface `f`, oldest first. -/
def sentTo (s : LayerShell) (f : SurfaceId) : List LayerSurfaceConfigure :=
  s.sent.filterMap fun p => if p.1 = f then some p.2 else none

/-- What is remembered of a surface, against what was sent to it: the configures that are not
acknowledged are the last ones, and the acknowledged one is right in front of them. -/
structure InStep (l : LayerSurface) (sent : List LayerSurfaceConfigure) : Prop where
  waiting : l.attributes.pending_configures <:+ sent
  acked : ∀ c, l.attributes.last_acked = some c → c :: l.attributes.pending_configures <:+ sent
  pending : ∀ c, l.pending.last_acked = some c → c ∈ sent
  current : ∀ c, l.current.last_acked = some c → c ∈ sent

/-- All surfaces are in step. -/
structure Wired (s : LayerShell) : Prop where
  once : s.Once
  inStep : ∀ l ∈ s.layers, InStep l (sentTo s l.wl_surface)

theorem suffix_append {α : Type*} {l l' : List α} (h : l <:+ l') (x : α) :
    l ++ [x] <:+ l' ++ [x] := by
  obtain ⟨pre, rfl⟩ := h
  exact ⟨pre, (List.append_assoc _ _ _).symm⟩

namespace InStep

variable {l : LayerSurface} {sent : List LayerSurfaceConfigure}

/-- A surface is sent one more. -/
theorem send (h : InStep l sent) (serial : ℕ) :
    InStep { l with attributes := (l.attributes.send_configure serial).2.1 }
      (sent ++ [(l.attributes.send_configure serial).1]) := by
  have hpending : (l.attributes.send_configure serial).2.1.pending_configures =
      l.attributes.pending_configures ++ [(l.attributes.send_configure serial).1] := by
    unfold LayerSurfaceAttributes.send_configure LayerSurfaceAttributes.get_pending_state
    dsimp only
    split_ifs <;> rfl
  have hacked : (l.attributes.send_configure serial).2.1.last_acked = l.attributes.last_acked := by
    unfold LayerSurfaceAttributes.send_configure LayerSurfaceAttributes.get_pending_state
    dsimp only
    split_ifs <;> rfl
  refine ⟨?_, fun c hc => ?_, fun c hc => ?_, fun c hc => ?_⟩
  · rw [hpending]
    exact suffix_append h.waiting _
  · rw [hacked] at hc
    rw [hpending, ← List.cons_append]
    exact suffix_append (h.acked c hc) _
  · exact List.mem_append_left _ (h.pending c hc)
  · exact List.mem_append_left _ (h.current c hc)

/-- The state the client was told last is the one of the last configure. -/
theorem current_server_state (h : InStep l sent)
    (htold : l.attributes.pending_configures ≠ [] ∨ l.attributes.last_acked.isSome) :
    some l.attributes.current_server_state = sent.getLast?.map (·.state) := by
  unfold LayerSurfaceAttributes.current_server_state
  cases hlast : l.attributes.pending_configures.getLast? with
  | some c =>
    obtain ⟨pre, rfl⟩ := h.waiting
    rw [List.getLast?_append, hlast]
    rfl
  | none =>
    have hnil := List.getLast?_eq_none_iff.mp hlast
    obtain ⟨c, hc⟩ := Option.isSome_iff_exists.mp (htold.resolve_left (absurd hnil))
    have hsuffix := h.acked c hc
    rw [hnil] at hsuffix
    obtain ⟨pre, rfl⟩ := hsuffix
    rw [hc, List.getLast?_append]
    rfl

end InStep

/-- A request does not touch what was acknowledged. -/
theorem last_acked_apply {data data' : LayerSurfaceCachedState} {r : LayerRequest}
    (hr : r.apply data = .ok data') : data'.last_acked = data.last_acked := by
  cases r <;> simp only [LayerRequest.apply] at hr
  case set_anchor bits =>
    split at hr
    · obtain rfl := Except.ok.inj hr
      rfl
    · cases hr
  case set_exclusive_edge bits =>
    split at hr
    · cases hr
    · split at hr
      · obtain rfl := Except.ok.inj hr
        rfl
      · obtain rfl := Except.ok.inj hr
        rfl
      · cases hr
  all_goals
    obtain rfl := Except.ok.inj hr
    rfl

namespace Wired

open LayerShell

variable {s : LayerShell} {l : LayerSurface} {f : SurfaceId}

/-- A surface is changed, and is still in step. -/
theorem modify (hs : Wired s) {g : LayerSurface → LayerSurface}
    (hg : ∀ l ∈ s.layers, l.wl_surface = f →
      (g l).wl_surface = f ∧ InStep (g l) (sentTo s f)) : Wired (s.modify f g) := by
  refine ⟨?_, fun l hl => ?_⟩
  · have honce := hs.once
    unfold Once at honce ⊢
    rwa [map_modify fun l => l.wl_surface]
    exact fun l hl hf => (hg l hl hf).1.trans hf.symm
  · obtain ⟨m, hm, rfl⟩ := List.mem_map.mp hl
    split_ifs with hf
    · obtain ⟨hsurface, hstep⟩ := hg m hm hf
      rw [hsurface]
      exact hstep
    · exact hs.inStep m hm

theorem sentTo_send_configure (s : LayerShell) (l : LayerSurface) (f : SurfaceId) :
    sentTo (s.send_configure l) f =
      if l.wl_surface = f then sentTo s f ++ [(l.attributes.send_configure s.serial).1]
      else sentTo s f := by
  unfold sentTo LayerShell.send_configure
  dsimp only
  rw [List.filterMap_append]
  split_ifs with hf <;> simp [hf]

/-- A surface of the map is sent a configure. -/
theorem send_configure (hs : Wired s) (hl : l ∈ s.layers) : Wired (s.send_configure l) := by
  refine ⟨?_, fun m hm => ?_⟩
  · have honce := hs.once
    unfold Once at honce ⊢
    rwa [surfaces_of_asks (asks_send_configure s l)]
  · rw [sentTo_send_configure]
    obtain ⟨m, hm', rfl⟩ := List.mem_map.mp hm
    dsimp only at hm ⊢
    by_cases hf : m.wl_surface = l.wl_surface
    · obtain rfl : m = l := List.inj_on_of_nodup_map hs.once hm' hl hf
      simp only [reduceIte]
      exact (hs.inStep m hl).send s.serial
    · simp only [hf, reduceIte]
      rw [if_neg fun h => hf h.symm]
      exact hs.inStep m hm'

/-- The other surfaces stay. -/
theorem mem_modify {g : LayerSurface → LayerSurface} (hl : l ∈ s.layers) (hf : l.wl_surface ≠ f) :
    l ∈ (s.modify f g).layers :=
  List.mem_map.mpr ⟨l, hl, if_neg hf⟩

theorem arrange_layer (hs : Wired s) (hl : l ∈ s.layers) :
    Wired (s.arrange_layer l) ∧
      ∀ m ∈ s.layers, m.wl_surface ≠ l.wl_surface → m ∈ (s.arrange_layer l).layers := by
  unfold LayerShell.arrange_layer
  dsimp only
  have hplaced : ∀ size loc, InStep
      { l with attributes := l.attributes.replace_size size, location := some loc }
      (sentTo s l.wl_surface) := fun size loc =>
    have hstep := hs.inStep l hl
    ⟨hstep.waiting, hstep.acked, hstep.pending, hstep.current⟩
  have hmodify := fun size loc => hs.modify (f := l.wl_surface)
    (g := fun _ => { l with attributes := l.attributes.replace_size size, location := some loc })
    fun _ _ _ => ⟨rfl, hplaced size loc⟩
  split_ifs
  · refine ⟨?_, fun m hm hf => mem_modify (mem_modify hm hf) hf⟩
    refine send_configure ⟨(hmodify _ _).once, (hmodify _ _).inStep⟩ ?_
    exact List.mem_map.mpr ⟨l, hl, if_pos rfl⟩
  · exact ⟨⟨(hmodify _ _).once, (hmodify _ _).inStep⟩, fun m hm hf => mem_modify hm hf⟩

theorem foldl_arrange_layer {ls : List LayerSurface} (hs : Wired s)
    (honce : (ls.map (·.wl_surface)).Nodup) (hls : ∀ l ∈ ls, l ∈ s.layers) :
    Wired (ls.foldl LayerShell.arrange_layer s) := by
  induction ls generalizing s with
  | nil => exact hs
  | cons l ls ih =>
    obtain ⟨hstep, hothers⟩ := hs.arrange_layer (hls l List.mem_cons_self)
    obtain ⟨hnew, honce⟩ := List.nodup_cons.mp honce
    refine ih hstep honce fun m hm => hothers m (hls m (List.mem_cons_of_mem _ hm)) fun hf => ?_
    exact hnew (List.mem_map.mpr ⟨m, hm, hf⟩)

/-- `arrange` keeps the surfaces in step. -/
theorem arrange (hs : Wired s) : Wired s.arrange := by
  have hperm := perm_order s.layers
  have hfold := @foldl_arrange_layer { s with zone := s.output_rect } _ ⟨hs.once, hs.inStep⟩
    ((hperm.map _).nodup_iff.mpr hs.once) fun _ hl => hperm.subset hl
  exact ⟨hfold.once, hfold.inStep⟩

theorem pre_commit (hs : Wired s) (hl : l ∈ s.layers) (buffer : Option BufferAssignment) :
    Wired (s.pre_commit l buffer) := by
  unfold LayerShell.pre_commit
  cases hhook : pre_commit_hook l buffer with
  | error e => exact ⟨hs.once, hs.inStep⟩
  | ok l' =>
    have h := hs.inStep l hl
    refine hs.modify fun _ _ _ => ?_
    rcases pre_commit_hook_cases hhook with ⟨acked, hacked, rfl⟩ | rfl
    · refine ⟨rfl, h.waiting, h.acked, fun c hc => ?_, h.current⟩
      obtain rfl : acked = some c := hc
      exact (h.acked c (hacked.resolve_left nofun).symm).subset List.mem_cons_self
    · exact ⟨rfl, h.waiting, fun c hc => (nomatch hc), fun c hc => (nomatch hc), h.current⟩

theorem commit (hs : Wired s) (f : SurfaceId) (buffer : Option BufferAssignment) :
    Wired (s.commit f buffer) := by
  unfold LayerShell.commit
  cases hl : s.layer f with
  | none => exact hs
  | some l =>
    dsimp only
    have hpre := hs.pre_commit (mem_of_layer hl).1 buffer
    have hcurrent := hpre.modify (f := f) (g := fun l => { l with current := l.pending })
      fun l hl hf =>
        have h := hpre.inStep l hl
        ⟨hf, hf ▸ ⟨h.waiting, h.acked, h.pending, h.pending⟩⟩
    have harranged := hcurrent.arrange
    split
    · rename_i m hm
      split_ifs
      · exact harranged.send_configure (mem_of_layer hm).1
      · exact harranged
    · exact harranged

/-- Every event but an acknowledgement keeps the surfaces in step. -/
theorem step (hs : Wired s) {e : LayerEvent} (he : ∀ f serial, e ≠ .ack_configure f serial) :
    Wired (s.step e) := by
  cases e with
  | new_layer_surface f layer =>
    simp only [LayerShell.step, LayerShell.new_layer_surface]
    split_ifs with hf
    · exact hs
    · refine arrange ⟨?_, fun l hl => ?_⟩
      · have hnew : ∀ l ∈ s.layers, l.wl_surface ≠ f := by
          simpa [LayerShell.layer] using hf
        have honce := hs.once
        unfold Once at honce ⊢
        simp only [List.map_append, List.map_cons, List.map_nil]
        refine honce.append (List.nodup_singleton _) ?_
        simpa [eq_comm] using fun l hl => hnew l hl
      · rcases List.mem_append.mp hl with hl | hl
        · exact hs.inStep l hl
        · obtain rfl := List.mem_singleton.mp hl
          refine ⟨List.nil_suffix, ?_, ?_, ?_⟩
          all_goals
            intro c hc
            cases hc
  | request f r =>
    simp only [LayerShell.step, LayerShell.request]
    split
    · exact hs
    · rename_i l hl
      split
      · rename_i pending hr
        have hacked := last_acked_apply hr
        refine hs.modify fun m hm hf => ⟨hf, ?_⟩
        obtain ⟨hl, hlf⟩ := mem_of_layer hl
        obtain rfl : m = l := List.inj_on_of_nodup_map hs.once hm hl (hf.trans hlf.symm)
        have h := hf ▸ hs.inStep m hm
        exact ⟨h.waiting, h.acked, fun c hc => h.pending c (hacked ▸ hc), h.current⟩
      · exact ⟨hs.once, hs.inStep⟩
  | ack_configure f serial => exact absurd rfl (he f serial)
  | commit f buffer => exact hs.commit f buffer
  | layer_destroyed f =>
    simp only [LayerShell.step, LayerShell.layer_destroyed]
    split_ifs
    · refine arrange ⟨?_, fun l hl => ?_⟩
      · exact hs.once.sublist (List.filter_sublist.map _)
      · exact hs.inStep l (List.mem_of_mem_filter hl)
    · exact hs
  | output_changed size => exact ⟨hs.once, hs.inStep⟩
  | arrange => exact hs.arrange
  | serial => exact ⟨hs.once, hs.inStep⟩

end Wired

/-! ### The serials of a run -/

/-- The serial that is the `k`-th when the counter is at `n`. -/
def serialAt (n k : ℕ) : ℕ := number (2 ^ 32 - 1) (max n 1 - 1) k + 1

theorem next_serial_spec {n : ℕ} (hn : n < 2 ^ 32) :
    (next_serial n).1.val = serialAt n 0 ∧ (next_serial n).2 < 2 ^ 32 ∧
      ∀ j, serialAt (next_serial n).2 j = serialAt n (j + 1) := by
  have hval : (next_serial n).1.val = max n 1 := by
    unfold next_serial
    dsimp only
    split_ifs <;> omega
  have hnext : (next_serial n).2 = (max n 1 + 1) % 2 ^ 32 := by
    unfold next_serial
    dsimp only
    split_ifs with h
    · rw [h]
      rfl
    · rw [show max n 1 = n by omega]
  refine ⟨?_, ?_, fun j => ?_⟩
  · rw [hval, serialAt, number, Nat.add_zero, Nat.mod_eq_of_lt (by omega)]
    omega
  · rw [hnext]
    exact Nat.mod_lt _ (by norm_num)
  · rw [serialAt, serialAt, number_succ, hnext]
    congr 2
    -- the last serial is followed by zero, which is skipped
    by_cases hlast : n = 2 ^ 32 - 1
    · rw [hlast]
      rfl
    · rw [Nat.mod_eq_of_lt (by omega), Nat.mod_eq_of_lt (by omega)]
      omega

/-- The serials taken later compare as greater. -/
theorem partial_cmp_serialAt {n i j : ℕ} (hij : i < j) (hrecent : j - i < 2 ^ 31 - 1) {a b : Serial}
    (ha : a.val = serialAt n i) (hb : b.val = serialAt n j) :
    b.partial_cmp a = .gt ∧ a.partial_cmp b = .lt := by
  have horder := @order_number (2 ^ 32 - 1) (2 ^ 31 - 1) (max n 1 - 1) i j hij hrecent (by omega)
  have hcmp : ∀ a b : Serial, a.partial_cmp b = order (2 ^ 31 - 1) a.val b.val := fun _ _ => rfl
  rw [hcmp, hcmp, ha, hb, serialAt, serialAt, order_add_one, order_add_one]
  exact horder

/-- The configures sent between two states take the serials one after the other. -/
def Advances (s t : LayerShell) : Prop :=
  s.serial < 2 ^ 32 → ∃ new : List (SurfaceId × LayerSurfaceConfigure), t.sent = s.sent ++ new ∧
    new.map (·.2.serial.val) = (List.range new.length).map (serialAt s.serial) ∧
    t.serial < 2 ^ 32 ∧ ∀ j, serialAt t.serial j = serialAt s.serial (new.length + j)

namespace Advances

open LayerShell

variable {s t u : LayerShell} {l : LayerSurface}

/-- Nothing is sent. -/
theorem of_eq (hsent : t.sent = s.sent) (hserial : t.serial = s.serial) : Advances s t := by
  intro hs
  refine ⟨[], by rw [hsent, List.append_nil], rfl, hserial ▸ hs, fun j => ?_⟩
  rw [hserial, List.length_nil, Nat.zero_add]

theorem trans (h : Advances s t) (h' : Advances t u) : Advances s u := by
  intro hs
  obtain ⟨new, hsent, hnew, ht, hlater⟩ := h hs
  obtain ⟨new', hsent', hnew', hu, hlater'⟩ := h' ht
  refine ⟨new ++ new', by rw [hsent', hsent, List.append_assoc], ?_, hu, fun j => ?_⟩
  · rw [List.map_append, hnew, hnew', List.length_append, List.range_add, List.map_append,
      List.map_map, funext hlater]
    rfl
  · rw [hlater', hlater, List.length_append, Nat.add_assoc]

theorem send_configure (s : LayerShell) (l : LayerSurface) : Advances s (s.send_configure l) := by
  intro hs
  obtain ⟨hval, hlt, hlater⟩ := next_serial_spec hs
  refine ⟨[(l.wl_surface, (l.attributes.send_configure s.serial).1)], rfl, ?_, hlt, fun j => ?_⟩
  · exact congrArg (fun v => [v]) hval
  · rw [List.length_singleton, Nat.add_comm]
    exact hlater j

theorem arrange_layer (s : LayerShell) (l : LayerSurface) : Advances s (s.arrange_layer l) := by
  unfold LayerShell.arrange_layer
  dsimp only
  split_ifs
  · exact (of_eq rfl rfl).trans (send_configure _ _)
  · exact of_eq rfl rfl

theorem foldl_arrange_layer (s : LayerShell) (ls : List LayerSurface) :
    Advances s (ls.foldl LayerShell.arrange_layer s) := by
  induction ls generalizing s with
  | nil => exact of_eq rfl rfl
  | cons l ls ih => exact (arrange_layer s l).trans (ih _)

theorem arrange (s : LayerShell) : Advances s s.arrange :=
  ((of_eq rfl rfl).trans (foldl_arrange_layer { s with zone := s.output_rect } _)).trans
    (of_eq rfl rfl)

theorem arrange_of_eq (hsent : t.sent = s.sent) (hserial : t.serial = s.serial) :
    Advances s t.arrange :=
  (of_eq hsent hserial).trans (arrange t)

theorem pre_commit (s : LayerShell) (l : LayerSurface) (buffer : Option BufferAssignment) :
    Advances s (s.pre_commit l buffer) := by
  unfold LayerShell.pre_commit
  split <;> exact of_eq rfl rfl

theorem commit (s : LayerShell) (f : SurfaceId) (buffer : Option BufferAssignment) :
    Advances s (s.commit f buffer) := by
  unfold LayerShell.commit
  split
  · exact of_eq rfl rfl
  · rename_i l _
    have harranged := ((pre_commit s l buffer).trans
      (of_eq (t := (s.pre_commit l buffer).modify f fun l => { l with current := l.pending })
        rfl rfl)).trans (arrange _)
    dsimp only
    split
    · split_ifs
      · exact harranged.trans (send_configure _ _)
      · exact harranged
    · exact harranged

/-- An event that takes no serial for something else. -/
theorem step (s : LayerShell) {e : LayerEvent} (he : e ≠ .serial) : Advances s (s.step e) := by
  cases e with
  | new_layer_surface f layer =>
    simp only [LayerShell.step, LayerShell.new_layer_surface]
    split_ifs
    · exact of_eq rfl rfl
    · exact arrange_of_eq rfl rfl
  | request f r =>
    simp only [LayerShell.step, LayerShell.request]
    split
    · exact of_eq rfl rfl
    · split <;> exact of_eq rfl rfl
  | ack_configure f serial =>
    simp only [LayerShell.step, LayerShell.ack_configure]
    split
    · exact of_eq rfl rfl
    · split <;> exact of_eq rfl rfl
  | commit f buffer => exact commit s f buffer
  | layer_destroyed f =>
    simp only [LayerShell.step, LayerShell.layer_destroyed]
    split_ifs
    · exact arrange_of_eq rfl rfl
    · exact of_eq rfl rfl
  | output_changed size => exact of_eq rfl rfl
  | arrange => exact arrange s
  | serial => exact absurd rfl he

end Advances

/-! ### When a serial was taken -/

/-- The layer shell with the number of serials taken, and for each configure the number of those
taken before it. -/
structure Clocked where
  shell : LayerShell
  clock : ℕ
  stamps : List ℕ

namespace Clocked

/-- An output without layer surfaces. -/
def new (size : Size) (serial : ℕ) : Clocked := ⟨.new size serial, 0, []⟩

/-- The number of configures an event sends. -/
def fresh (c : Clocked) (e : LayerEvent) : ℕ :=
  (c.shell.step e).sent.length - c.shell.sent.length

/-- The layer shell takes its step, and the serials are counted. -/
def step (c : Clocked) (e : LayerEvent) : Clocked where
  shell := c.shell.step e
  clock := c.clock + c.fresh e + match e with | .serial => 1 | _ => 0
  stamps := c.stamps ++ List.range' c.clock (c.fresh e)

/-- The serials taken before each of the configures of the surface `f`. -/
def stampsOf (c : Clocked) (f : SurfaceId) : List ℕ :=
  ((c.shell.sent.zip c.stamps).filter fun p => decide (p.1.1 = f)).map (·.2)

/-- Fewer than `2 ^ 31 - 1` serials were taken since the configures that the surface `l` has not
acknowledged. -/
def Recent (c : Clocked) (l : LayerSurface) : Prop :=
  ∀ k ∈ (c.stampsOf l.wl_surface).drop
      ((sentTo c.shell l.wl_surface).length - l.attributes.pending_configures.length),
    c.clock - k < 2 ^ 31 - 1

instance (c : Clocked) (l : LayerSurface) : Decidable (c.Recent l) :=
  inferInstanceAs (Decidable (∀ k ∈ _, _))

/-- No client is too late with an acknowledgement. -/
def Timely (c : Clocked) : LayerEvent → Prop
  | .ack_configure f _ => ∀ l ∈ c.shell.layers, l.wl_surface = f → c.Recent l
  | _ => True

/-- Each configure has the serial of its stamp. -/
structure Stamped (n : ℕ) (c : Clocked) : Prop where
  counter : c.shell.serial < 2 ^ 32
  later : ∀ j, serialAt c.shell.serial j = serialAt n (c.clock + j)
  sent : c.shell.sent.map (·.2.serial.val) = c.stamps.map (serialAt n)
  sorted : c.stamps.Pairwise (· < ·)
  past : ∀ k ∈ c.stamps, k < c.clock

theorem Stamped.step {n : ℕ} {c : Clocked} (h : Stamped n c) (e : LayerEvent) :
    Stamped n (c.step e) := by
  by_cases he : e = .serial
  · subst he
    obtain ⟨-, hlt, hlater⟩ := next_serial_spec h.counter
    have hfresh : c.fresh .serial = 0 := Nat.sub_self _
    refine ⟨hlt, fun j => ?_, ?_, ?_, ?_⟩
    · refine (hlater j).trans ((h.later _).trans ?_)
      simp only [Clocked.step, hfresh]
      congr 1
      omega
    all_goals simp only [Clocked.step, hfresh, List.range'_zero, List.append_nil]
    · exact h.sent
    · exact h.sorted
    · exact fun k hk => (h.past k hk).trans_le (by omega)
  · obtain ⟨new, hsent, hnew, hlt, hlater⟩ := Advances.step c.shell he h.counter
    have hfresh : c.fresh e = new.length := by
      unfold fresh
      rw [hsent, List.length_append]
      omega
    have hclock : (c.step e).clock = c.clock + new.length := by
      simp only [Clocked.step, hfresh]
      cases e <;> rfl
    have hstamps : (c.step e).stamps = c.stamps ++ List.range' c.clock new.length := by
      simp only [Clocked.step, hfresh]
    refine ⟨hlt, fun j => ?_, ?_, ?_, ?_⟩
    · rw [hclock]
      refine (hlater j).trans ((h.later _).trans ?_)
      congr 1
      omega
    · rw [hstamps]
      change (c.shell.step e).sent.map _ = _
      rw [hsent, List.map_append, List.map_append, h.sent, hnew, List.range'_eq_map_range,
        List.map_map, funext h.later]
      rfl
    · rw [hstamps]
      refine List.pairwise_append.mpr ⟨h.sorted, List.pairwise_lt_range', fun k hk j hj => ?_⟩
      have hk' := h.past k hk
      have hj' := (List.mem_range'_1.mp hj).1
      omega
    · rw [hstamps, hclock]
      intro k hk
      rcases List.mem_append.mp hk with hk | hk
      · have hk' := h.past k hk
        omega
      · have hk' := (List.mem_range'_1.mp hk).2
        omega

/-- Two lists that agree after two functions. -/
theorem zip_of_map_eq {α β γ : Type*} {g : α → γ} {h : β → γ} {xs : List α} {ks : List β}
    (heq : xs.map g = ks.map h) : ∀ p ∈ xs.zip ks, g p.1 = h p.2 := by
  induction xs generalizing ks with
  | nil => exact fun p hp => (nomatch hp)
  | cons x xs ih =>
    cases ks with
    | nil => exact fun p hp => (nomatch hp)
    | cons k ks =>
      obtain ⟨hx, hxs⟩ := List.cons.inj heq
      intro p hp
      rcases List.mem_cons.mp hp with rfl | hp
      · exact hx
      · exact ih hxs p hp

/-- The configures of a surface, each with its stamp. -/
def stamped (c : Clocked) (f : SurfaceId) :
    List ((SurfaceId × LayerSurfaceConfigure) × ℕ) :=
  (c.shell.sent.zip c.stamps).filter fun p => decide (p.1.1 = f)

theorem map_stamped {c : Clocked} (hlen : c.shell.sent.length ≤ c.stamps.length) (f : SurfaceId) :
    (c.stamped f).map (·.1.2) = sentTo c.shell f := by
  unfold stamped sentTo
  have hfst : (c.shell.sent.zip c.stamps).map Prod.fst = c.shell.sent := List.map_fst_zip hlen
  generalize c.shell.sent.zip c.stamps = z at hfst
  rw [← hfst]
  clear hfst
  induction z with
  | nil => rfl
  | cons p z ih =>
    by_cases hf : p.1.1 = f
    · simpa [hf] using ih
    · simpa [hf] using ih

/-- The configures that a surface has not acknowledged go from old to new. -/
theorem pairwise_pending {n : ℕ} {c : Clocked} (h : Stamped n c) {l : LayerSurface}
    (hl : InStep l (sentTo c.shell l.wl_surface)) (hrecent : c.Recent l) :
    l.attributes.pending_configures.Pairwise fun a b =>
      b.serial.partial_cmp a.serial = .gt ∧ a.serial.partial_cmp b.serial = .lt := by
  have hlen : c.shell.sent.length = c.stamps.length := by
    simpa using congrArg List.length h.sent
  have hmap := map_stamped hlen.le l.wl_surface
  have hpending : l.attributes.pending_configures =
      ((c.stamped l.wl_surface).drop ((sentTo c.shell l.wl_surface).length -
        l.attributes.pending_configures.length)).map (·.1.2) := by
    rw [List.map_drop, hmap]
    exact List.suffix_iff_eq_drop.mp hl.waiting
  unfold Recent stampsOf at hrecent
  rw [← List.map_drop] at hrecent
  rw [hpending, List.pairwise_map]
  generalize (sentTo c.shell l.wl_surface).length - l.attributes.pending_configures.length = k at *
  have hsub : ((c.stamped l.wl_surface).drop k).Sublist (c.shell.sent.zip c.stamps) :=
    (List.drop_sublist _ _).trans List.filter_sublist
  have hsorted : ((c.stamped l.wl_surface).drop k).Pairwise fun p q => p.2 < q.2 := by
    have hsnd : (c.shell.sent.zip c.stamps).map Prod.snd = c.stamps := List.map_snd_zip hlen.ge
    have hall := h.sorted
    rw [← hsnd, List.pairwise_map] at hall
    exact hall.sublist hsub
  refine hsorted.imp_of_mem fun {p q} hp hq hlt => ?_
  have hserial := zip_of_map_eq h.sent
  have hpast : q.2 < c.clock := h.past _ (List.of_mem_zip (hsub.subset hq)).2
  have hnear : c.clock - p.2 < 2 ^ 31 - 1 := hrecent p.2 (List.mem_map_of_mem hp)
  exact partial_cmp_serialAt hlt (by omega) (hserial p (hsub.subset hp))
    (hserial q (hsub.subset hq))

/-- What an acknowledgement in time leaves. -/
theorem acknowledged {n : ℕ} {c : Clocked} (h : Stamped n c) {l : LayerSurface}
    (hl : InStep l (sentTo c.shell l.wl_surface)) (hrecent : c.Recent l) {serial : Serial}
    {a : LayerSurfaceAttributes} (ha : l.attributes.ack_configure serial = some a) :
    ∃ pre x post, l.attributes.pending_configures = pre ++ x :: post ∧ x.serial = serial ∧
      a = { l.attributes with last_acked := some x, pending_configures := post } ∧
      ∀ y ∈ post, y.serial ≠ serial := by
  have hpairwise := pairwise_pending h hl hrecent
  unfold LayerSurfaceAttributes.ack_configure at ha
  obtain ⟨x, hx, rfl⟩ := Option.map_eq_some_iff.mp ha
  obtain ⟨hserial, pre, post, hsplit, -⟩ := List.find?_eq_some_iff_append.mp hx
  have hserial : x.serial = serial := by simpa using hserial
  have hself : x.serial.partial_cmp x.serial = .eq := order_self (by decide) _
  refine ⟨pre, x, post, hsplit, hserial, ?_, fun y hy heq => ?_⟩
  · rw [← hserial]
    congr 1
    rw [hsplit] at hpairwise ⊢
    have hnewer : (pre ++ x :: post).Pairwise fun a b =>
        b.serial.partial_cmp a.serial = .gt ∧ ¬a.serial.partial_cmp b.serial = .gt :=
      hpairwise.imp fun hab => ⟨hab.1, by rw [hab.2]; exact nofun⟩
    have hnot : ¬x.serial.partial_cmp x.serial = .gt := by
      rw [hself]
      exact nofun
    exact @drop_older _ (fun a b : LayerSurfaceConfigure => a.serial.partial_cmp b.serial = .gt)
      _ pre post x hnewer hnot
  · rw [hsplit] at hpairwise
    have hlater := ((List.pairwise_cons.mp (List.pairwise_append.mp hpairwise).2.1).1 y hy).1
    rw [heq, ← hserial, hself] at hlater
    cases hlater

/-- An event keeps the surfaces in step, when no client is too late. -/
theorem wired_step {n : ℕ} {c : Clocked} (h : Stamped n c) (hw : Wired c.shell) {e : LayerEvent}
    (htimely : c.Timely e) : Wired (c.step e).shell := by
  by_cases he : ∃ f serial, e = .ack_configure f serial
  · obtain ⟨f, serial, rfl⟩ := he
    change Wired (c.shell.ack_configure f serial)
    unfold LayerShell.ack_configure
    cases hl : c.shell.layer f with
    | none => exact hw
    | some l =>
      dsimp only
      cases ha : l.attributes.ack_configure serial with
      | none => exact ⟨hw.once, hw.inStep⟩
      | some a =>
        obtain ⟨hmem, hf⟩ := LayerShell.mem_of_layer hl
        have hstep := hw.inStep l hmem
        obtain ⟨pre, x, post, hsplit, -, rfl, -⟩ :=
          acknowledged h hstep (htimely l hmem hf) ha
        refine hw.modify fun m hm hmf => ⟨hmf, ?_⟩
        obtain rfl : m = l := List.inj_on_of_nodup_map hw.once hm hmem (hmf.trans hf.symm)
        rw [hmf] at hstep
        have hwaiting := hstep.waiting
        rw [hsplit] at hwaiting
        have hbehind : x :: post <:+ sentTo c.shell f := (List.suffix_append _ _).trans hwaiting
        refine ⟨(List.suffix_cons _ _).trans hbehind, fun d hd => ?_, hstep.pending, hstep.current⟩
        obtain rfl := Option.some.inj hd
        exact hbehind
  · exact hw.step fun f serial hack => he ⟨f, serial, hack⟩

/-- **The configure handshake.** In every run of the layer shell of an output in which no client
is `2 ^ 31 - 1` serials late with an acknowledgement, whatever the serials wrap around: the
configures a surface has not acknowledged are the last ones that were sent to it, right behind the
acknowledged one, its state is the one it was told last, and an acknowledgement leaves exactly what
was sent behind the configure that it names, so the same one is refused the next time. -/
theorem configure_handshake {size : Size} {n : ℕ} (hn : n < 2 ^ 32) {es : List LayerEvent}
    (htimely : Guarded Clocked.step Timely (new size n) es) :
    Always Clocked.step (fun c => ∀ l ∈ c.shell.layers,
      InStep l (sentTo c.shell l.wl_surface) ∧
      (l.attributes.pending_configures ≠ [] ∨ l.attributes.last_acked.isSome →
        some l.attributes.current_server_state =
          (sentTo c.shell l.wl_surface).getLast?.map (·.state)) ∧
      (c.Recent l → ∀ serial a, l.attributes.ack_configure serial = some a →
        (∃ pre x post, l.attributes.pending_configures = pre ++ x :: post ∧ x.serial = serial ∧
          a = { l.attributes with last_acked := some x, pending_configures := post }) ∧
        a.ack_configure serial = none)) (new size n) es := by
  have hinv : ∀ c e, (Stamped n c ∧ Wired c.shell) → Timely c e →
      Stamped n (c.step e) ∧ Wired (c.step e).shell :=
    fun c e h he => ⟨h.1.step e, wired_step h.1 h.2 he⟩
  have hnew : Stamped n (new size n) ∧ Wired (new size n).shell := by
    refine ⟨⟨hn, fun j => ?_, rfl, List.Pairwise.nil, fun k hk => ?_⟩, List.nodup_nil, ?_⟩
    · rw [show (new size n).clock = 0 from rfl, Nat.zero_add]
      rfl
    · exact absurd hk List.not_mem_nil
    · exact fun l hl => absurd hl List.not_mem_nil
  refine (htimely.always hinv hnew).mono fun c h l hl => ?_
  have hstep := h.2.inStep l hl
  refine ⟨hstep, hstep.current_server_state, fun hrecent serial a ha => ?_⟩
  obtain ⟨pre, x, post, hsplit, hx, rfl, hgone⟩ := acknowledged h.1 hstep hrecent ha
  refine ⟨⟨pre, x, post, hsplit, hx, rfl⟩, ?_⟩
  unfold LayerSurfaceAttributes.ack_configure
  rw [Option.map_eq_none_iff, List.find?_eq_none]
  simpa using hgone

/-- A bar is mapped when the counter is about to wrap, and acknowledges the second size first. -/
def handshakeEvents : List LayerEvent :=
  [.new_layer_surface 1 .Top, .request 1 (.set_anchor 13), .request 1 (.set_size 0 30),
    .commit 1 none, .output_changed ⟨1280, 720⟩, .arrange, .ack_configure 1 ⟨1⟩,
    .ack_configure 1 ⟨2 ^ 32 - 1⟩, .commit 1 (some .NewBuffer)]

theorem configure_handshake_bar :
    Always Clocked.step (fun c => ∀ l ∈ c.shell.layers,
      InStep l (sentTo c.shell l.wl_surface) ∧
      (l.attributes.pending_configures ≠ [] ∨ l.attributes.last_acked.isSome →
        some l.attributes.current_server_state =
          (sentTo c.shell l.wl_surface).getLast?.map (·.state)) ∧
      (c.Recent l → ∀ serial a, l.attributes.ack_configure serial = some a →
        (∃ pre x post, l.attributes.pending_configures = pre ++ x :: post ∧ x.serial = serial ∧
          a = { l.attributes with last_acked := some x, pending_configures := post }) ∧
        a.ack_configure serial = none)) (new ⟨1920, 1080⟩ (2 ^ 32 - 1)) handshakeEvents :=
  configure_handshake (by norm_num)
    ⟨trivial, trivial, trivial, trivial, trivial, trivial, by unfold Timely; decide +kernel,
      by unfold Timely; decide +kernel, trivial, trivial⟩

end Clocked

end Compositor.wlr_layer
