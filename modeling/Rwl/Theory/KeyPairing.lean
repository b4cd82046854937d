import Mathlib.Tactic.Common
import Rwl.Lib.Pairing
import Rwl.Theory.Footprint

/-!
# Pairing of key events

* `KeyLog`, `keyLog`: the keys that are held, forwarded and intercepted, beside the log of what
  the filter made of each event;
* `KeyInv`: the log is paired, and both sets tell of every held key whether its press was
  forwarded; one lemma for each way a key event ends;
* `CleanKey`: no event meets a set that is out of date;
* `key_pairing`: in a run of such events every release is forwarded exactly when the latest press
  of its key was.

The native locker takes every key without a look at `intercepted_keys`: it adds presses to the
set and takes no release out of it.
-/

namespace Compositor

namespace Rwl

open Transition Pairing

/-! ### The log -/

/-- What an effect says of a key event. -/
def keyMark : Effect → Option (Mark ℕ)
  | .key code pressed _ => some ⟨code, pressed, true⟩
  | .keyIntercepted code pressed => some ⟨code, pressed, false⟩
  | _ => none

/-- The keys held, those forwarded, the set `intercepted_keys`, and the key events so far, the
newest first. -/
structure KeyLog where
  pressed : List ℕ
  forwarded : List ℕ
  intercepted : List ℕ
  marks : List (Mark ℕ)

/-- The key log of a core. -/
def Core.keyLog (c : Core) : KeyLog where
  pressed := c.seat.pressed_keys
  forwarded := c.seat.forwarded_pressed_keys
  intercepted := c.intercepted_keys
  marks := c.out.filterMap keyMark

/-- The key log of a state. -/
def keyLog (s : Rwl) : KeyLog := s.core.keyLog

/-! ### The invariant -/

/-- The log is paired, and of every held key both sets know whether its press was forwarded. -/
structure KeyInv (l : KeyLog) : Prop where
  paired : Paired l.marks
  forwarded : Tracks (· ∈ l.pressed) (· ∈ l.forwarded) l.marks
  intercepted : Tracks (· ∈ l.pressed) (· ∉ l.intercepted) l.marks
  held : ∀ k ∈ l.forwarded, k ∈ l.pressed

namespace KeyInv

variable {l : KeyLog} {k : ℕ}

/-- A new press is intercepted. -/
theorem press_intercepted (h : KeyInv l) (hk : k ∉ l.pressed) :
    KeyInv ⟨k :: l.pressed, l.forwarded, k :: l.intercepted, ⟨k, true, false⟩ :: l.marks⟩ := by
  refine ⟨(paired_down ..).2 h.paired, h.forwarded.down ?_ ?_ fun _ _ => Iff.rfl,
    h.intercepted.down ?_ ?_ ?_, fun j hj => List.mem_cons_of_mem k (h.held j hj)⟩
  · exact iff_of_false (fun hf => hk (h.held k hf)) (by decide)
  · exact fun j hj hmem => (List.mem_cons.1 hmem).resolve_left hj
  · exact iff_of_false (fun hi => hi List.mem_cons_self) (by decide)
  · exact fun j hj hmem => (List.mem_cons.1 hmem).resolve_left hj
  · exact fun j hj => not_congr ⟨fun hmem => (List.mem_cons.1 hmem).resolve_left hj,
      List.mem_cons_of_mem k⟩

/-- A new press is forwarded, with no stale entry in the set. -/
theorem press_forwarded (h : KeyInv l) (hk : k ∉ l.intercepted) :
    KeyInv ⟨k :: l.pressed, k :: l.forwarded, l.intercepted, ⟨k, true, true⟩ :: l.marks⟩ := by
  refine ⟨(paired_down ..).2 h.paired, h.forwarded.down ?_ ?_ ?_,
    h.intercepted.down ?_ ?_ fun _ _ => Iff.rfl, fun j hj => ?_⟩
  · exact iff_of_true List.mem_cons_self rfl
  · exact fun j hj hmem => (List.mem_cons.1 hmem).resolve_left hj
  · exact fun j hj => ⟨fun hmem => (List.mem_cons.1 hmem).resolve_left hj,
      List.mem_cons_of_mem k⟩
  · exact iff_of_true hk rfl
  · exact fun j hj hmem => (List.mem_cons.1 hmem).resolve_left hj
  · rcases List.mem_cons.1 hj with rfl | hj
    · exact List.mem_cons_self
    · exact List.mem_cons_of_mem k (h.held j hj)

/-- A held key is released: the release is answered like its press, and the sets keep the
entries of the other keys. -/
theorem release (h : KeyInv l) {b : Bool} {forwarded intercepted : List ℕ}
    (hb : b = lastSeen k l.marks)
    (hf : ∀ j, j ∈ forwarded ↔ j ≠ k ∧ j ∈ l.forwarded)
    (hi : ∀ j, j ≠ k → (j ∈ intercepted ↔ j ∈ l.intercepted)) :
    KeyInv ⟨l.pressed.filter fun j => decide (j ≠ k), forwarded, intercepted,
      ⟨k, false, b⟩ :: l.marks⟩ := by
  have hon (j : ℕ) (hj : j ∈ l.pressed.filter fun j => decide (j ≠ k)) : j ≠ k ∧ j ∈ l.pressed := by
    obtain ⟨hj, hne⟩ := List.mem_filter.1 hj
    exact ⟨of_decide_eq_true hne, hj⟩
  refine ⟨(paired_up ..).2 ⟨hb, h.paired⟩, h.forwarded.up hon fun j hj => ?_,
    h.intercepted.up hon fun j hj => not_congr (hi j hj), fun j hj => ?_⟩
  · exact (hf j).trans (and_iff_right hj)
  · obtain ⟨hne, hj⟩ := (hf j).1 hj
    exact List.mem_filter.2 ⟨h.held j hj, decide_eq_true hne⟩

/-- The release of a key that was not forwarded is swallowed. -/
theorem release_swallowed (h : KeyInv l) (hk : k ∈ l.pressed) (hf : k ∉ l.forwarded)
    {intercepted : List ℕ} (hi : ∀ j, j ≠ k → (j ∈ intercepted ↔ j ∈ l.intercepted)) :
    KeyInv ⟨l.pressed.filter fun j => decide (j ≠ k), l.forwarded, intercepted,
      ⟨k, false, false⟩ :: l.marks⟩ := by
  refine h.release ?_ (fun j => ?_) hi
  · exact (Bool.eq_false_iff.2 fun hs => hf ((h.forwarded k hk).2 hs)).symm
  · exact ⟨fun hj => ⟨fun hjk => hf (hjk ▸ hj), hj⟩, fun hj => hj.2⟩

/-- The release of a key whose press was forwarded is forwarded. -/
theorem release_forwarded (h : KeyInv l) (hs : lastSeen k l.marks = true)
    {intercepted : List ℕ} (hi : ∀ j, j ≠ k → (j ∈ intercepted ↔ j ∈ l.intercepted)) :
    KeyInv ⟨l.pressed.filter fun j => decide (j ≠ k),
      l.forwarded.filter fun j => decide (j ≠ k), intercepted, ⟨k, false, true⟩ :: l.marks⟩ := by
  refine h.release hs.symm (fun j => ?_) hi
  rw [List.mem_filter, decide_eq_true_iff]
  exact and_comm

end KeyInv

/-! ### The guard -/

/-- The result of the password check at position `i` reaches the native locker. -/
def reports (s : Rwl) (i : ℕ) : Bool :=
  s.session.workers[i]?.any fun c => s.session.native_lock.any fun l => decide (l.channel = c)

/-- Every held key was forwarded. -/
def AllForwarded (s : Rwl) : Prop := ∀ k ∈ s.keyLog.pressed, k ∈ s.keyLog.forwarded

/-- The state on which the filter sees a key. -/
def keyed (s : Rwl) (code : ℕ) (pressed : Bool) : Rwl := s.modifySeat (Seat.key_input · code pressed)

/-- The event meets no key set that is out of date: a press that is forwarded has no entry in
`intercepted_keys`, a release that the native locker takes was not forwarded, a release with no
keysym has no entry, and the held keys that are released at an unlock or a resume were
forwarded. -/
def CleanKey (s : Rwl) : Event → Prop
  | .key code pressed => s.seat.is_transition code pressed = true →
      if pressed then
        ((s.keyed code true).filterAction code true).isNone → code ∉ s.keys.intercepted_keys
      else if s.session.native_lock.isSome then code ∉ s.seat.forwarded_pressed_keys
      else (s.keyed code false).seat.modified_sym code = xkb.KEY_NoSymbol →
        code ∉ s.keys.intercepted_keys
  | .auth i ok => ok = true → s.reports i = true → s.AllForwarded
  | .ipc_resume => s.AllForwarded
  | _ => True

instance (s : Rwl) : Decidable s.AllForwarded := inferInstanceAs (Decidable (∀ k ∈ _, _))

instance (s : Rwl) (e : Event) : Decidable (s.CleanKey e) := by
  unfold CleanKey
  split <;> infer_instance

/-! ### The key filter on the log -/

theorem pressed_keys_input_forward (s : Seat) (code : ℕ) (pressed : Bool) :
    (s.input_forward code pressed).pressed_keys = s.pressed_keys := by
  unfold Seat.input_forward
  dsimp only
  split
  · rfl
  · split_ifs <;> rfl

theorem forwarded_input_forward (s : Seat) (code : ℕ) (pressed : Bool) :
    (s.input_forward code pressed).forwarded_pressed_keys =
      if pressed then code :: s.forwarded_pressed_keys
      else s.forwarded_pressed_keys.filter fun k => decide (k ≠ code) := by
  unfold Seat.input_forward
  dsimp only
  split
  · rfl
  · split_ifs <;> rfl

theorem keyLog_key_forward (s : Rwl) (code : ℕ) (pressed : Bool) :
    (s.key_forward code pressed).keyLog =
      { s.keyLog with
        forwarded := if pressed then code :: s.keyLog.forwarded
          else s.keyLog.forwarded.filter fun k => decide (k ≠ code)
        marks := ⟨code, pressed, true⟩ :: s.keyLog.marks } := by
  simp only [keyLog, Core.keyLog, core, key_forward, modifySeat, emit, pressed_keys_input_forward,
    forwarded_input_forward]
  rfl

theorem keyLog_intercepted_release (s : Rwl) (code : ℕ) :
    (s.emit (.keyIntercepted code false)).keyLog =
      { s.keyLog with marks := ⟨code, false, false⟩ :: s.keyLog.marks } := rfl

theorem keyLog_intercepted_press (s : Rwl) (code : ℕ) :
    ((s.emit (.keyIntercepted code true)).rememberKey code).keyLog =
      { s.keyLog with
        intercepted := code :: s.keyLog.intercepted
        marks := ⟨code, true, false⟩ :: s.keyLog.marks } := rfl

theorem keyLog_filterState_press (s : Rwl) (code : ℕ) :
    (s.filterState code true).keyLog = s.keyLog := by
  simp only [filterState, feed_key, ↓reduceIte, Bool.true_eq_false]
  split_ifs
  · split <;> rfl
  · rfl
  · rfl

/-- A release takes at most its own key out of the set. -/
theorem keyLog_filterState_release (s : Rwl) (code : ℕ) :
    ∃ intercepted, (s.filterState code false).keyLog =
        { s.keyLog with intercepted := intercepted } ∧
      ∀ j, j ≠ code → (j ∈ intercepted ↔ j ∈ s.keys.intercepted_keys) := by
  simp only [filterState, ↓reduceIte, Bool.false_eq_true]
  split_ifs
  · exact ⟨_, rfl, fun _ _ => Iff.rfl⟩
  · exact ⟨_, rfl, fun _ _ => Iff.rfl⟩
  · refine ⟨s.keys.intercepted_keys.filter fun k => decide (k ≠ code), rfl, fun j hj => ?_⟩
    rw [List.mem_filter, decide_eq_true_iff]
    exact and_iff_left hj

/-- Why a release is intercepted. -/
theorem filterAction_release_some {s : Rwl} {code : ℕ} {a : Action}
    (h : s.filterAction code false = some a) :
    s.session.native_lock.isSome = true ∨ code ∈ s.keys.intercepted_keys := by
  simp only [filterAction, ↓reduceIte] at h
  split_ifs at h with hn hsym hi
  · exact .inl hn
  · exact .inr hi

/-- Why a release is forwarded. -/
theorem filterAction_release_none {s : Rwl} {code : ℕ} (h : s.filterAction code false = none) :
    s.session.native_lock.isSome = false ∧
      (s.seat.modified_sym code = xkb.KEY_NoSymbol ∨ code ∉ s.keys.intercepted_keys) := by
  simp only [filterAction, ↓reduceIte] at h
  split_ifs at h with hn hsym hi
  · exact ⟨Bool.eq_false_iff.2 hn, .inl hsym⟩
  · exact ⟨Bool.eq_false_iff.2 hn, .inr hi⟩

/-- The state after an intercepted key. -/
theorem afterKey_of_some {s : Rwl} {code : ℕ} {pressed : Bool} {a : Action}
    (ht : s.seat.is_transition code pressed = true)
    (ha : (s.keyed code pressed).filterAction code pressed = some a) :
    s.afterKey code pressed =
      if pressed then (((s.keyed code pressed).filterState code pressed).emit
        (.keyIntercepted code pressed)).rememberKey code
      else ((s.keyed code pressed).filterState code pressed).emit (.keyIntercepted code pressed) := by
  have hinput : s.keyInput code pressed =
      (((s.keyed code pressed).filterState code pressed).emit (.keyIntercepted code pressed),
        some a) := by
    unfold keyInput
    rw [if_pos ht]
    unfold keyed at ha ⊢
    dsimp only
    rw [ha]
  unfold afterKey
  rw [hinput]
  simp only [Option.isSome_some, and_true]

/-- The state after a forwarded key. -/
theorem afterKey_of_none {s : Rwl} {code : ℕ} {pressed : Bool}
    (ht : s.seat.is_transition code pressed = true)
    (ha : (s.keyed code pressed).filterAction code pressed = none) :
    s.afterKey code pressed =
      ((s.keyed code pressed).filterState code pressed).key_forward code pressed := by
  have hinput : s.keyInput code pressed =
      (((s.keyed code pressed).filterState code pressed).key_forward code pressed, none) := by
    unfold keyInput
    rw [if_pos ht]
    unfold keyed at ha ⊢
    dsimp only
    rw [ha]
  unfold afterKey
  rw [hinput]
  simp only [Option.isSome_none, Bool.false_eq_true, and_false, if_false]

/-! ### One event -/

/-- A key that meets the guard keeps the invariant. -/
theorem keyInv_afterKey {s : Rwl} {code : ℕ} {pressed : Bool} (hs : KeyInv s.keyLog)
    (hg : s.CleanKey (.key code pressed)) : KeyInv (s.afterKey code pressed).keyLog := by
  by_cases ht : s.seat.is_transition code pressed = true
  · have hg := hg ht
    cases pressed with
    | true =>
      have hk : code ∉ s.seat.pressed_keys := of_decide_eq_true ht
      have hlog := keyLog_filterState_press (s.keyed code true) code
      cases ha : (s.keyed code true).filterAction code true with
      | some a =>
        rw [afterKey_of_some ht ha, if_pos rfl, keyLog_intercepted_press, hlog]
        exact hs.press_intercepted hk
      | none =>
        rw [afterKey_of_none ht ha, keyLog_key_forward, hlog]
        refine hs.press_forwarded (k := code) (hg ?_)
        rw [ha]
        rfl
    | false =>
      have hk : code ∈ s.seat.pressed_keys := of_decide_eq_true ht
      obtain ⟨intercepted, hlog, hi⟩ := keyLog_filterState_release (s.keyed code false) code
      cases ha : (s.keyed code false).filterAction code false with
      | some a =>
        rw [afterKey_of_some ht ha, if_neg (by decide), keyLog_intercepted_release, hlog]
        refine hs.release_swallowed hk ?_ hi
        intro hf
        have hseen := (hs.forwarded code hk).1 hf
        rcases filterAction_release_some ha with hn | hi'
        · have hn : s.session.native_lock.isSome = true := hn
          rw [if_neg (by decide), if_pos hn] at hg
          exact hg hf
        · exact (hs.intercepted code hk).2 hseen hi'
      | none =>
        rw [afterKey_of_none ht ha, keyLog_key_forward, hlog]
        refine hs.release_forwarded ((hs.intercepted code hk).1 ?_) hi
        obtain ⟨hn, hsym | hi'⟩ := filterAction_release_none ha
        · have hn : s.session.native_lock.isSome = false := hn
          rw [if_neg (by decide), if_neg (Bool.eq_false_iff.1 hn)] at hg
          exact hg hsym
        · exact hi'
  · have hsame : s.afterKey code pressed = s := by
      unfold afterKey keyInput
      rw [if_neg ht]
      simp
    rw [hsame]
    exact hs

/-- The held keys are released when all of them were forwarded. -/
theorem keyInv_release_all_pressed_keys {s : Rwl} (hs : KeyInv s.keyLog) (hf : s.AllForwarded) :
    KeyInv s.release_all_pressed_keys.keyLog := by
  unfold release_all_pressed_keys
  refine (List.foldlRecOn (motive := fun s : Rwl => KeyInv s.keyLog ∧ s.AllForwarded)
    s.seat.pressed_keys releaseKey ⟨hs, hf⟩ ?_).1
  rintro s ⟨hs, hf⟩ code _
  unfold releaseKey
  split_ifs with ht
  · have hk : code ∈ s.seat.pressed_keys := of_decide_eq_true ht
    have hseen := (hs.forwarded code hk).1 (hf code hk)
    have hlog : ((s.modifySeat (Seat.key_input · code false)).key_forward code false).keyLog =
        ⟨s.keyLog.pressed.filter fun j => decide (j ≠ code),
          s.keyLog.forwarded.filter fun j => decide (j ≠ code), s.keyLog.intercepted,
          ⟨code, false, true⟩ :: s.keyLog.marks⟩ := by
      rw [keyLog_key_forward]
      rfl
    unfold AllForwarded
    rw [hlog]
    refine ⟨hs.release_forwarded hseen fun _ _ => Iff.rfl, fun j hj => ?_⟩
    obtain ⟨hj, hne⟩ := List.mem_filter.1 hj
    exact List.mem_filter.2 ⟨hf j hj, hne⟩
  · exact ⟨hs, hf⟩

theorem keyMark_of_not_answer {x : Effect} (hx : x.isAnswer = false) : keyMark x = none := by
  cases x <;> first | rfl | cases hx

/-- An event that is no keyboard event leaves the log alone. -/
theorem ignores_keyLog {e : Event} (he : e.isKeyboard = false) : Ignores e Core.keyLog := by
  refine ⟨fun _ _ => rfl, fun _ _ => rfl, fun c se hse => ?_,
    fun h => absurd (he.symm.trans h) (by decide), fun _ _ _ => rfl, fun c x hx => ?_⟩
  · have hpressed := congrArg KeyPart.pressed_keys (hse he)
    have hforwarded := congrArg KeyPart.forwarded_pressed_keys (hse he)
    change KeyLog.mk se.pressed_keys se.forwarded_pressed_keys _ _ = _
    rw [show se.pressed_keys = c.seat.pressed_keys from hpressed,
      show se.forwarded_pressed_keys = c.seat.forwarded_pressed_keys from hforwarded]
    rfl
  · have hnone : keyMark x = none := by
      rcases hx with hx | hx
      · exact keyMark_of_not_answer hx
      · cases x with
        | key | keyIntercepted =>
          cases e <;>
            first | exact absurd hx Bool.false_ne_true | exact absurd he.symm Bool.false_ne_true
        | _ => rfl
    unfold Core.keyLog
    rw [List.filterMap_cons_none hnone]

theorem keyLog_acts {g : Registry.Grant WinId} {s s' : Rwl} (h : Acts g s s') :
    s'.keyLog = s.keyLog :=
  (ignores_keyLog (e := .idle) rfl).acts h

/-- Unlocking releases the held keys, and touches no other part of the log. -/
theorem keyInv_unlock {s : Rwl} (hs : KeyInv s.keyLog) (hf : s.AllForwarded) :
    KeyInv s.unlock.keyLog := by
  have hkeep := ignores_keyLog (e := .idle) rfl
  have hrelease : KeyInv ((s.modifySession disengage).fire .unlock).release_all_pressed_keys.keyLog :=
    keyInv_release_all_pressed_keys hs hf
  unfold unlock keyLog
  dsimp only
  rwa [hkeep.reevaluate_pointer, hkeep.kb_set_focus]

/-- **Every event that meets the guard keeps the invariant.** -/
theorem step_keyInv {s : Rwl} {e : Event} (hs : KeyInv s.keyLog) (hg : s.CleanKey e) :
    KeyInv (step s e).keyLog := by
  cases he : e.isKeyboard with
  | false =>
    have h : (step s e).keyLog = s.keyLog := (ignores_keyLog he).step s
    rwa [h]
  | true =>
    cases e with
    | key code pressed =>
      simp only [step]
      rw [keyLog_acts (acts_key (s.grant (.key code pressed)) s code pressed)]
      exact keyInv_afterKey hs hg
    | ipc_resume => exact keyInv_release_all_pressed_keys hs hg
    | auth i ok =>
      simp only [step, worker_done, on_auth_result]
      split
      · exact hs
      · rename_i c hc
        split_ifs with hany hok
        · exact keyInv_unlock hs (hg hok (by
            unfold reports
            rw [hc]
            exact hany))
        · exact hs
        · exact hs
    | _ => cases he

/-! ### Runs -/

theorem init_keyInv (env : Setup) : KeyInv (init env).keyLog :=
  ⟨trivial, fun _ hk => absurd hk List.not_mem_nil, fun _ hk => absurd hk List.not_mem_nil,
    fun _ hk => absurd hk List.not_mem_nil⟩

/-- Every release so far was forwarded exactly when the latest press of its key before it was. -/
structure KeysPaired (s : Rwl) : Prop where
  release : ∀ newer older code seen, s.keyLog.marks = newer ++ ⟨code, false, seen⟩ :: older →
    seen = lastSeen code older

/-- **A release is forwarded exactly when the latest press of its key was, all along a run whose
events meet no key set that is out of date.** -/
theorem key_pairing (env : Setup) (es : List Event) (h : Guarded step CleanKey (init env) es) :
    Always step KeysPaired (init env) es :=
  (h.always (I := fun s => KeyInv s.keyLog) (fun _ _ => step_keyInv) (init_keyInv env)).mono
    fun _ hs => ⟨paired_iff.1 hs.paired⟩

/-- A bound key, a plain key held across an external lock and a password typed under the native
locker. -/
theorem key_pairing_plain :
    Always step KeysPaired
      (init (plainSetup [⟨0, 5, .Lock, none⟩, ⟨0, 6, .TogglePassthrough, none⟩] []))
      [.key 6 true, .key 30 true, .key 6 false, .ext_lock 0 1, .key 30 false, .key 31 true,
        .key 31 false, .ext_unlock 0, .key 6 true, .key 6 false, .key 5 true, .key 5 false,
        .key 97 true, .key 97 false, .key xkb.KEY_Return true, .key xkb.KEY_Return false,
        .auth 0 true, .key 30 true, .key 30 false] :=
  key_pairing _ _ (by decide +kernel)

/-- A key is pressed and released under the native locker, and again after the unlock. -/
def staleKey : List Event :=
  [.ipc .Lock, .key 97 true, .key 97 false, .key xkb.KEY_Return true,
    .key xkb.KEY_Return false, .auth 0 true, .key 97 true, .key 97 false]

/-- The second press is forwarded and its release is swallowed. -/
theorem not_key_pairing : ¬∀ env es, Always step KeysPaired (init env) es := by
  intro h
  have hend := (h (plainSetup [] []) staleKey).last
  have hmarks : (run step (init (plainSetup [] [])) staleKey).keyLog.marks.take 2 =
      [⟨97, false, false⟩, ⟨97, true, true⟩] := by decide +kernel
  have hsplit := List.take_append_drop 2 (run step (init (plainSetup [] [])) staleKey).keyLog.marks
  rw [hmarks] at hsplit
  have hrelease := (hend.release [] (_ :: _) 97 false hsplit.symm).trans (lastSeen_down_self ..)
  cases hrelease

end Rwl

end Compositor
