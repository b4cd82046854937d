import Mathlib.Tactic.Common
import Rwl.Core.Render

/-!
# What survives the composite operations

* `KeptByParts`: a predicate survives the bodies of the actions and what the Lua commands do
  themselves;
* `KeptByParts.dispatch`, `KeptByParts.drain`: it then survives an action with the Lua it runs, and
  a drain of the queue, whatever dispatches what;
* `output_added_kept`, `afterSlides_kept`: the same for a new output, and for the end of a slide.
-/

namespace Compositor

namespace Rwl

/-- The parts of `dispatch`, `apply` and `drain` keep `P`. -/
structure KeptByParts (P : Rwl → Prop) : Prop where
  perform : ∀ s a, P s → P (s.perform a)
  notifyChanges : ∀ before s : Rwl, P s → P (before.notifyChanges s)
  call : ∀ s name, P s → P (s.fire (.call name))
  text : ∀ s syms, P s → P (s.emit (.text syms s.seat.kb_focus))
  kill_selected : ∀ s, P s → P (overview.kill_selected s)
  force_close : ∀ s, P s → P (overview.force_close s)
  taken : ∀ s, P s → P { s with hooks := { s.hooks with queue := [] } }
  spawn : ∀ s argv, P s → P (s.spawn argv)
  notify : ∀ s msg, P s → P (s.emit (.notify msg))
  close : ∀ s w, P s → P (s.emit (.close w))
  set_tags : ∀ s w mask, P s →
    P (s.modifyDesk (Desk.set_window_tags · w (mask &&& s.desk.cfg.tag_mask))).arrange_all.focus_top
  set_floating : ∀ s w floating, P s →
    P (s.modifyDesk fun d => d.modifyWindow w fun st =>
      { st with
        is_floating := floating
        needs_centering := floating || st.needs_centering }).arrange_all
  set_fullscreen : ∀ s w fs, P s → P (s.modifyDesk (set_fullscreen · w fs)).arrange_all
  send : ∀ s w dir next, s.desk.dir_to_monitor (s.desk.st w).mon_idx dir = some next → P s →
    P (s.modifyDesk (sendTo · w next)).arrange_all.focus_top
  focus : ∀ s w, w ∈ s.desk.windows → P s → P (s.focus_window (some w))
  warp : ∀ s w, w ∈ s.desk.windows → P s → P (s.focus_window (some w)).warp_cursor_to_focused
  set_scratch : ∀ s w key, P s →
    P (s.modifyDesk fun d => d.modifyWindow w fun st => { st with scratch_key := key })

namespace KeptByParts

variable {P : Rwl → Prop} (hP : KeptByParts P) {s : Rwl}

include hP

section

variable {drain : Rwl → Rwl} (hdrain : ∀ s, P s → P (drain s))

include hdrain

theorem act (h : P s) (a : Action) : P (s.act drain a) := by
  unfold Rwl.act
  split
  · exact hdrain _ (hP.call s _ h)
  · exact hP.text s _ h
  · exact hP.notifyChanges s _ (hP.perform s _ h)

theorem dispatchWith (h : P s) (a : Action) : P (s.dispatchWith drain a) := by
  unfold Rwl.dispatchWith
  split_ifs
  · exact hP.act hdrain h a
  · exact hP.kill_selected s h
  · exact hP.act hdrain (hP.force_close s h) a

end

/-- One Lua command. -/
theorem apply (h : P s) (c : HookCmd) : P (s.apply c) := by
  cases c with
  | Spawn argv => exact hP.spawn s argv h
  | View mask =>
    simp only [Rwl.apply]
    split_ifs
    · exact hP.dispatchWith (fun _ h => h) h _
    · exact h
  | Notify msg => exact hP.notify s msg h
  | SetTags w mask =>
    simp only [Rwl.apply]
    split_ifs
    · exact hP.set_tags s w mask h
    · exact h
  | SetFloating w floating =>
    simp only [Rwl.apply]
    split_ifs
    · exact hP.set_floating s w floating h
    · exact h
  | Focus w =>
    simp only [Rwl.apply]
    split_ifs with hw
    · exact hP.focus s w hw h
    · exact h
  | Close w =>
    simp only [Rwl.apply]
    split_ifs
    · exact hP.close s w h
    · exact h
  | SetLayout idx => exact hP.dispatchWith (fun _ h => h) h _
  | Dispatch action => exact hP.dispatchWith (fun _ h => h) h _
  | SetFullscreen w fs =>
    simp only [Rwl.apply]
    split_ifs
    · exact hP.set_fullscreen s w fs h
    · exact h
  | ToggleTags w mask =>
    simp only [Rwl.apply]
    split_ifs
    · exact hP.set_tags s w _ h
    · exact h
  | MoveToMonitor w dir =>
    simp only [Rwl.apply]
    split_ifs
    · split
      · rename_i next hnext
        exact hP.send s w dir next hnext h
      · exact h
    · exact h
  | Warp w =>
    simp only [Rwl.apply]
    split_ifs with hw
    · exact hP.warp s w hw h
    · exact h
  | SetScratch w key =>
    simp only [Rwl.apply]
    split_ifs
    · exact hP.set_scratch s w key h
    · exact h
  | SetWallpaper _ => exact h

theorem apply_queue (h : P s) (cmds : List HookCmd) : P (cmds.foldl Rwl.apply s) :=
  List.foldlRecOn cmds Rwl.apply h fun _ h c _ => hP.apply h c

theorem drainRounds (n : ℕ) (h : P s) : P (Rwl.drainRounds n s) := by
  induction n generalizing s with
  | zero => exact h
  | succ n ih =>
    unfold Rwl.drainRounds
    split_ifs
    · exact h
    · exact ih (hP.apply_queue (hP.taken s h) _)

theorem drain (h : P s) : P s.drain := hP.drainRounds 8 h

/-- An action, with all the Lua it runs. -/
theorem dispatch (h : P s) (a : Action) : P (s.dispatch a) :=
  hP.dispatchWith (fun _ h => hP.drain h) h a

end KeptByParts

section

variable {P : Rwl → Prop} {s : Rwl}

/-- A new output is arranged, and then the cursor is warped and the hooks are started once. -/
theorem output_added_kept {o : OutputId} {info : OutputInfo}
    (hwarped : ∀ t, P t → P { t with initial_warp_done := true })
    (hwarp : ∀ t, P t → P t.warp_cursor_to_focused)
    (hstarted : ∀ t, P t → P { t with hooks := { t.hooks with startup_done := true } })
    (hfire : ∀ t c, P t → P (t.fire c)) (hemit : ∀ t, P t → P (t.emit (.event (.monitor_add o))))
    (h : P (s.modifyDesk (Desk.addMonitor · o info)).arrange_all) : P (s.output_added o info) := by
  have hinitial (t : Rwl) (ht : P t) : P t.initialWarp := by
    unfold initialWarp
    split_ifs
    · exact ht
    · exact hwarp _ (hwarped t ht)
  have hstartup (t : Rwl) (tags : ℕ) (ht : P t) : P (t.startup tags) := by
    unfold startup
    split_ifs
    · exact ht
    · exact hfire _ _ (hfire _ _ (hstarted t ht))
  exact hemit _ (hfire _ _ (hfire _ _ (hstartup _ _ (hinitial _ h))))

/-- The end of a slide refocuses, now and once more 15 frames later. -/
theorem afterSlides_kept (hfocus : ∀ t, P t → P t.arrange_all.focus_top)
    (hactive : ∀ t b, P t → P { t with tag_transition_was_active := b })
    (hwakeup : ∀ t n, P t → P { t with post_transition_wakeup := n }) (h : P s)
    (transitioning : Bool) : P (s.afterSlides transitioning) := by
  unfold afterSlides
  extract_lets refocused s₁ s₂ s₃
  have h₁ : P s₁ := by
    dsimp only [s₁, refocused]
    split_ifs
    · exact hwakeup _ _ (hfocus s h)
    · exact h
  have h₂ : P s₂ := hactive _ _ h₁
  have h₃ : P s₃ := hwakeup _ _ h₂
  split_ifs
  · exact hfocus _ h₃
  · exact h₃
  · exact h₂

end

end Rwl

end Compositor
