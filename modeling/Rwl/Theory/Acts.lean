import Mathlib.Tactic.Common
import Rwl.Theory.DeskRegistry

/-!
# What a handler can do

Every handler below the input devices, the session locks and the screencopy protocol is a chain
of a few kinds of change.

* `Act`, `Acts`: one change, and a chain of them;
* what a chain does to the registry of the desk (`Acts.registry`), and what it leaves alone: the
  keys and buttons held, the intercepted keys, the screencopy queue, the lock (but for locking),
  and the log of answers to devices (`Acts.filterMap_out`);
* one lemma for each small update, `arrange_all` and `focus_window`, in the form
  "a chain to `s` extends to the result".
-/

namespace Compositor

open Registry (Grant)

/-- The effects that answer an input device or a protocol object. -/
def Effect.isAnswer : Effect → Bool
  | .key .. | .keyIntercepted .. | .button .. | .buttonConsumed .. | .axis .. => true
  | .composited .. | .frameReady .. | .frameFailed .. | .lockConfirmed .. | .lockFinished .. => true
  | _ => false

/-- The effects that answer nobody and send no input. -/
def Effect.isPlain : Effect → Bool
  | .spawn _ | .close _ | .print_status | .event _ | .notify _ | .bar _ | .chvt _ => true
  | _ => false

theorem Effect.isAnswer_of_isPlain {e : Effect} (h : e.isPlain = true) : e.isAnswer = false := by
  cases e <;> first | rfl | cases h

namespace Rwl

/-- The parts of the state that `Act.rest` leaves alone. -/
structure Core where
  desk : Desk
  seat : Seat
  intercepted_keys : List ℕ
  session : Session
  screencopy : Screencopy
  out : List Effect

/-- The core of a state. -/
def core (s : Rwl) : Core where
  desk := s.desk
  seat := s.seat
  intercepted_keys := s.keys.intercepted_keys
  session := s.session
  screencopy := s.screencopy
  out := s.out

/-- One change. -/
inductive Act (g : Grant WinId) : Rwl → Rwl → Prop
  /-- The desk changes; its registry by registry steps. -/
  | desk (s : Rwl) (d : Desk) : Registry.Steps g s.desk.registry d.registry →
      Act g s { s with desk := d }
  /-- Something outside the core changes. -/
  | rest (s s' : Rwl) : s'.core = s.core → Act g s s'
  /-- Something is reported or started. -/
  | emit (s : Rwl) (e : Effect) : e.isPlain = true → Act g s (s.emit e)
  /-- Text typed for the focused client. -/
  | text (s : Rwl) (syms : List ℕ) : Act g s (s.emit (.text syms s.seat.kb_focus))
  /-- The keyboard focus moves on an unlocked desktop. -/
  | focus (s : Rwl) (f : Option SurfaceId) : s.session.locked = false → Act g s (s.kb_set_focus f)
  /-- The pointer goes to what is under a position. -/
  | point (s : Rwl) (loc : PointF) : Act g s (s.ptr_motion (s.pointer_focus_under loc) loc)
  /-- The pointer moves over nothing. -/
  | away (s : Rwl) (loc : PointF) : Act g s (s.ptr_motion none loc)
  /-- The native locker engages. -/
  | lock (s : Rwl) : s.session.locked = false → s.session.native_lock = none →
      Act g s ((s.modifySession engage).kb_set_focus none)

/-- A chain of changes. -/
abbrev Acts (g : Grant WinId) : Rwl → Rwl → Prop := Relation.ReflTransGen (Act g)

namespace Acts

variable {g : Grant WinId} {s₀ s : Rwl}

theorem refl (s : Rwl) : Acts g s s := Relation.ReflTransGen.refl

/-! ### What a chain does -/

/-- **The registry of the desk changes by registry steps.** -/
theorem registry (h : Acts g s₀ s) : Registry.Steps g s₀.desk.registry s.desk.registry := by
  induction h with
  | refl => exact .refl
  | @tail b c _ hact ih =>
    refine ih.trans ?_
    cases hact with
    | desk d hd => exact hd
    | rest _ h =>
      rw [show c.desk = b.desk from congrArg Core.desk h]
    | emit | text | focus | point | away | lock => exact .refl

/-- A quantity of the core that each kind of change keeps is kept by the chain. -/
theorem keeps {α : Type*} (f : Core → α)
    (hdesk : ∀ c d, f { c with desk := d } = f c)
    (hout : ∀ c e, e.isAnswer = false → f { c with out := e :: c.out } = f c)
    (hseat : ∀ c se, se.held = c.seat.held → f { c with seat := se } = f c)
    (hlock : ∀ c, c.session.locked = false → f { c with session := engage c.session } = f c)
    (h : Acts g s₀ s) : f s.core = f s₀.core := by
  induction h with
  | refl => rfl
  | @tail b c _ hact ih =>
    rw [← ih]
    have hmotion (fo : Option SurfaceId) (loc : PointF) :
        f (b.ptr_motion fo loc).core = f b.core :=
      (hout { b.core with seat := b.seat.motion fo loc } (.motion _) rfl).trans
        (hseat b.core _ (Seat.held_motion b.seat fo loc))
    cases hact with
    | desk d _ => exact hdesk b.core d
    | rest _ h => rw [h]
    | emit e he => exact hout b.core e (Effect.isAnswer_of_isPlain he)
    | text syms => exact hout b.core (.text syms _) rfl
    | focus fo _ => exact hseat b.core _ (Seat.held_set_focus b.seat fo)
    | point loc => exact hmotion _ loc
    | away loc => exact hmotion _ loc
    | lock hl _ =>
      exact (hseat { b.core with session := engage b.session } _
        (Seat.held_set_focus b.seat none)).trans (hlock b.core hl)

/-- The keys and buttons held, the popups and the surfaces stay. -/
theorem held (h : Acts g s₀ s) : s.seat.held = s₀.seat.held :=
  h.keeps (fun c => c.seat.held) (fun _ _ => rfl) (fun _ _ _ => rfl) (fun _ _ h => h) fun _ _ => rfl

theorem intercepted_keys (h : Acts g s₀ s) :
    s.keys.intercepted_keys = s₀.keys.intercepted_keys :=
  h.keeps Core.intercepted_keys (fun _ _ => rfl) (fun _ _ _ => rfl) (fun _ _ _ => rfl)
    fun _ _ => rfl

theorem screencopy (h : Acts g s₀ s) : s.screencopy = s₀.screencopy :=
  h.keeps Core.screencopy (fun _ _ => rfl) (fun _ _ _ => rfl) (fun _ _ _ => rfl) fun _ _ => rfl

/-- The answers to devices and protocol objects stay as they are. -/
theorem filterMap_out {α : Type*} (h : Acts g s₀ s) (f : Effect → Option α)
    (hf : ∀ e, e.isAnswer = false → f e = none) : s.out.filterMap f = s₀.out.filterMap f :=
  h.keeps (fun c => c.out.filterMap f) (fun _ _ => rfl)
    (fun _ e he => List.filterMap_cons_none (hf e he)) (fun _ _ _ => rfl) fun _ _ => rfl

/-- **The session stays as it is, or the native locker engages on an unlocked session.** -/
theorem session (h : Acts g s₀ s) :
    s.session = s₀.session ∨ s₀.session.locked = false ∧ s₀.session.native_lock = none ∧
      s.session = engage s₀.session := by
  induction h with
  | refl => exact .inl rfl
  | @tail b c _ hact ih =>
    cases hact with
    | lock hl hn =>
      rcases ih with ih | ⟨_, _, ih⟩
      · exact .inr ⟨ih ▸ hl, ih ▸ hn, congrArg engage ih⟩
      · rw [ih] at hl
        exact absurd hl (by simp [engage])
    | rest _ h =>
      rw [show c.session = b.session from congrArg Core.session h]
      exact ih
    | desk | emit | text | focus | point | away => exact ih

/-! ### Small updates -/

theorem rest (h : Acts g s₀ s) {s' : Rwl} (hs : s'.core = s.core) : Acts g s₀ s' :=
  h.tail (.rest s s' hs)

theorem fire (h : Acts g s₀ s) (c : HookCall) : Acts g s₀ (s.fire c) := h.rest rfl

theorem emit (h : Acts g s₀ s) {e : Effect} (he : e.isPlain = true) :
    Acts g s₀ (s.emit e) :=
  h.tail (.emit s e he)

theorem desk (h : Acts g s₀ s) {f : Desk → Desk}
    (hf : Registry.Steps g s.desk.registry (f s.desk).registry) : Acts g s₀ (s.modifyDesk f) :=
  h.tail (.desk s _ hf)

/-- A change of the desk that its registry does not see. -/
theorem quiet (h : Acts g s₀ s) {f : Desk → Desk}
    (hf : (f s.desk).registry = s.desk.registry) : Acts g s₀ (s.modifyDesk f) :=
  h.desk (hf ▸ .refl)

theorem modifyWindow (h : Acts g s₀ s) (w : WinId) {f : WindowState → WindowState}
    (hf : ∀ st, Desk.SameSlot st (f st)) : Acts g s₀ (s.modifyDesk fun d => d.modifyWindow w f) :=
  h.quiet (Desk.registry_modifyWindow s.desk w hf)

theorem set_window_tags (h : Acts g s₀ s) (w : WinId) (tags : ℕ) :
    Acts g s₀ (s.modifyDesk (Desk.set_window_tags · w tags)) :=
  h.quiet (Desk.registry_set_window_tags s.desk w tags)

/-- Another monitor is selected. -/
theorem select (h : Acts g s₀ s) {i : ℕ} (hi : Registry.Sound g s.desk.registry i) :
    Acts g s₀ (s.modifyDesk fun d => { d with sel_mon := i }) :=
  h.desk (.single (.select _ i hi))

theorem kb_set_focus (h : Acts g s₀ s) (hl : s.session.locked = false) (f : Option SurfaceId) :
    Acts g s₀ (s.kb_set_focus f) :=
  h.tail (.focus s f hl)

theorem reevaluate_pointer (h : Acts g s₀ s) : Acts g s₀ s.reevaluate_pointer :=
  h.tail (.point s _)

theorem refresh_pointer_focus (h : Acts g s₀ s) : Acts g s₀ s.refresh_pointer_focus := by
  unfold Rwl.refresh_pointer_focus
  split_ifs
  · exact h
  · exact h
  · exact h.reevaluate_pointer

theorem arrange (h : Acts g s₀ s) (i : ℕ) : Acts g s₀ (s.arrange i) :=
  h.quiet (Desk.registry_arrange s.desk i)

theorem arrange_all (h : Acts g s₀ s) : Acts g s₀ s.arrange_all :=
  ((h.quiet (Desk.registry_arrangePasses s.desk)).emit rfl).refresh_pointer_focus

/-! ### Focusing -/

theorem fireFocus (h : Acts g s₀ s) (w : WinId) : Acts g s₀ (s.fireFocus w) := by
  unfold Rwl.fireFocus
  split_ifs
  · exact h
  · exact h.rest rfl

theorem notifyFocus (h : Acts g s₀ s) : Acts g s₀ s.notifyFocus := by
  unfold Rwl.notifyFocus
  dsimp only
  split
  · exact ((h.emit rfl).fireFocus _).emit rfl
  · exact (h.emit rfl).emit rfl

theorem followFocus (h : Acts g s₀ s) {w : WinId} (prev : Option WinId)
    (hw : Registry.Sound g s.desk.registry (s.desk.st w).mon_idx) :
    Acts g s₀ (s.followFocus w prev) := by
  have hsel := (h.select hw).arrange (s.desk.st w).mon_idx
  unfold Rwl.followFocus
  dsimp only
  split
  · split_ifs
    · exact hsel.arrange _
    · exact hsel
  · exact hsel

end Acts

theorem registry_raise (d : Desk) (w : WinId) :
    (raise d w).registry = { d.registry with recent := Recency.toFront w d.focus_stack } := by
  rw [← Desk.registry_modifyWindow d w (f := fun st => { st with is_urgent := false })
    fun _ => ⟨rfl, rfl⟩]
  rfl

/-- A window that may be focused: it is listed, recent or vouched for, and so is its monitor. -/
structure Focusable (g : Grant WinId) (d : Desk) (w : WinId) : Prop where
  handle : w ∈ d.windows ∨ w ∈ d.focus_stack ∨ g.handle w
  index : Registry.Sound g d.registry (d.st w).mon_idx

theorem Focusable.of_mem {g : Grant WinId} {d : Desk} {w : WinId} (hw : w ∈ d.windows) :
    Focusable g d w :=
  ⟨.inl hw, .inr (.inr ⟨w, .inl hw, rfl⟩)⟩

/-- A vouched-for window may be focused. -/
theorem Focusable.of_grant {g : Grant WinId} {d : Desk} {w : WinId} (hw : g.handle w)
    (hi : g.index w) : Focusable g d w :=
  ⟨.inr (.inr hw), .inr (.inr ⟨w, .inr hi, rfl⟩)⟩

/-- A recent window of the selected monitor may be focused. -/
theorem Focusable.of_topOn {g : Grant WinId} {d : Desk} {w : WinId} {tags : ℕ}
    (hw : d.topOn tags d.sel_mon = some w) : Focusable g d w := by
  have hmem := List.mem_of_find?_eq_some hw
  have hp := List.find?_some hw
  simp only [Bool.and_eq_true, decide_eq_true_eq] at hp
  exact ⟨.inr (.inl hmem), .inl hp.2⟩

theorem Focusable.of_focused_window {g : Grant WinId} {d : Desk} {w : WinId}
    (hw : d.focused_window = some w) : Focusable g d w :=
  .of_topOn hw

namespace Acts

variable {g : Grant WinId} {s₀ s : Rwl}

theorem raise (h : Acts g s₀ s) {w : WinId} (hw : w ∈ s.desk.windows ∨ w ∈ s.desk.focus_stack ∨
    g.handle w) : Acts g s₀ (s.modifyDesk (Rwl.raise · w)) := by
  refine h.desk (.single ?_)
  rw [registry_raise]
  exact .touch _ w hw

/-- **Focusing a window is a chain of changes.** -/
theorem focus_window (h : Acts g s₀ s) {w : WinId} (hw : Focusable g s.desk w) :
    Acts g s₀ (s.focus_window (some w)) := by
  have hraise := h.raise hw.handle
  unfold Rwl.focus_window
  dsimp only
  split_ifs with hl hhead
  · exact hraise
  · exact hraise.kb_set_focus (Bool.eq_false_iff.2 hl) _
  · have hfocus := hraise.kb_set_focus (Bool.eq_false_iff.2 hl) (s.desk.wl_surface w)
    change Acts g s₀ (Rwl.followFocus _ w _)
    refine hfocus.notifyFocus.followFocus _ ?_
    rw [desk_notifyFocus]
    change Registry.Sound g (Rwl.raise s.desk w).registry ((Rwl.raise s.desk w).st w).mon_idx
    rw [registry_raise, show ((Rwl.raise s.desk w).st w).mon_idx = (s.desk.st w).mon_idx by
      simp [Rwl.raise, Desk.modifyWindow]]
    exact hw.index

/-- Focusing nothing leaves the focus stack alone. -/
theorem unfocus (h : Acts g s₀ s) : Acts g s₀ (s.focus_window none) := by
  unfold Rwl.focus_window
  dsimp only
  split_ifs with hl hhead
  · exact h
  · exact h.kb_set_focus (Bool.eq_false_iff.2 hl) _
  · exact absurd rfl hhead

theorem focus_option (h : Acts g s₀ s) {o : Option WinId}
    (ho : ∀ w, o = some w → Focusable g s.desk w) : Acts g s₀ (s.focus_window o) := by
  cases o with
  | none => exact h.unfocus
  | some w => exact h.focus_window (ho w rfl)

theorem focus_top (h : Acts g s₀ s) : Acts g s₀ s.focus_top :=
  h.focus_option fun _ => .of_focused_window

theorem update_layer_focus (h : Acts g s₀ s) : Acts g s₀ s.update_layer_focus := by
  unfold Rwl.update_layer_focus
  split_ifs with hl
  · exact h
  · split <;> exact h.kb_set_focus (Bool.eq_false_iff.2 hl) _

end Acts

end Rwl

end Compositor
