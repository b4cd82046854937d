import Mathlib.Tactic.Common
import Rwl.Theory.ShellActs
import Rwl.Theory.SwallowLinks

/-!
# Swallowing in runs

* `Moves.linkPart`: small updates keep the links;
* `rulesTarget`: the terminal a commit finds once it has applied the rules, read before it;
* `SwallowsOnce`: when the rules of a window that hides a terminal run again they find no other
  one, and a surface has one role;
* `swallow_links`: in every run that meets it, the two ends of the links agree.
-/

namespace Compositor

/-! ### What keeps the links -/

namespace Desk

theorem linkPart_modifyWindow (d : Desk) (w : WinId) {f : WindowState → WindowState}
    (hf : ∀ st, SameLinks st (f st)) : (d.modifyWindow w f).linkPart = d.linkPart := by
  refine LinkPart.ext rfl rfl rfl rfl (funext fun v => ?_) (funext fun v => ?_) rfl rfl
  · exact Windows.modify_field WindowState.is_swallowed d.st w v f fun st => (hf st).1
  · exact Windows.modify_field WindowState.swallowing d.st w v f fun st => (hf st).2

/-- A small update keeps the links. -/
theorem linkPart_change {file : Config} {L : Desk → Desk → Prop} {d d' : Desk}
    (hL : ∀ d d', L d d' → d'.linkPart = d.linkPart) (h : Change file L d d') :
    d'.linkPart = d.linkPart := by
  cases h with
  | client w c =>
    refine LinkPart.ext rfl rfl rfl rfl rfl rfl (funext fun v => ?_) (funext fun v => ?_)
    · by_cases hvw : v = w
      · subst hvw
        simp [linkPart, Rwl.updateClient]
      · simp [linkPart, hvw]
    · by_cases hvw : v = w
      · subst hvw
        simp [linkPart, Rwl.updateClient]
      · simp [linkPart, hvw]
  | front w hw =>
    refine LinkPart.ext (funext fun v => ?_) rfl rfl rfl rfl rfl rfl rfl
    refine decide_eq_decide.2 ?_
    rw [Recency.mem_toFront]
    exact or_iff_right_of_imp fun heq => heq ▸ hw
  | window w f hf => exact linkPart_modifyWindow d w hf
  | rules _ hr =>
    obtain ⟨ms, o, rfl, -, -⟩ := hr
    rfl
  | relaid _ hb _ _ => exact (congrArg linkPart hb :)
  | history i tags =>
    unfold update_tag_history
    split
    · split_ifs <;> rfl
    · rfl
  | raise w =>
    exact linkPart_modifyWindow { d with focus_stack := Recency.toFront w d.focus_stack } w
      fun _ => ⟨rfl, rfl⟩
  | life _ h => exact hL _ _ h
  | _ => rfl

/-! ### What makes and undoes links -/

theorem linkPart_insertWindow (d : Desk) (w : WinId) (c : Client)
    {f : WindowState → WindowState} (hf : ∀ st, SameLinks st (f st)) :
    (Rwl.insertWindow d w c f).linkPart = d.linkPart.insert w c.x11.isSome c.wl_surface := by
  refine LinkPart.ext (funext fun v => ?_) rfl rfl rfl (funext fun v => ?_) (funext fun v => ?_)
    (funext fun v => ?_) (funext fun v => ?_)
  all_goals by_cases hvw : v = w
  · simp [linkPart, LinkPart.insert, Rwl.insertWindow, hvw]
  · simp [linkPart, LinkPart.insert, Rwl.insertWindow, hvw]
  · subst hvw
    simp only [linkPart, LinkPart.insert, Rwl.insertWindow, Function.update_self]
    exact (hf _).1
  · simp [linkPart, LinkPart.insert, Rwl.insertWindow, hvw]
  · subst hvw
    simp only [linkPart, LinkPart.insert, Rwl.insertWindow, Function.update_self]
    exact (hf _).2
  · simp [linkPart, LinkPart.insert, Rwl.insertWindow, hvw]
  · simp [linkPart, LinkPart.insert, Rwl.insertWindow, hvw]
  · simp [linkPart, LinkPart.insert, Rwl.insertWindow, hvw]
  · simp [linkPart, LinkPart.insert, Rwl.insertWindow, hvw]
  · simp [linkPart, LinkPart.insert, Rwl.insertWindow, hvw]

theorem linkPart_dropToplevel (d : Desk) (f : SurfaceId) :
    (Rwl.dropToplevel d f).linkPart = d.linkPart.drop f := by
  refine LinkPart.ext (funext fun v => ?_) rfl rfl rfl rfl rfl rfl rfl
  change decide (v ∈ List.filter _ d.windows) = _
  have hkind : (d.client v).x11.isNone = !(d.client v).x11.isSome := by
    cases (d.client v).x11 <;> rfl
  rw [Bool.eq_iff_iff, decide_eq_true_iff, List.mem_filter, Rwl.isToplevel, hkind]
  simp only [linkPart, LinkPart.drop, Bool.and_eq_true, decide_eq_true_eq]
  exact Iff.rfl

theorem linkPart_do_swallow (d : Desk) {child term : WinId} (hne : term ≠ child) :
    (swallow.do_swallow d child term).linkPart = d.linkPart.swallow child term := by
  refine LinkPart.ext rfl rfl rfl rfl (funext fun v => ?_) (funext fun v => ?_) rfl rfl
  · by_cases hvt : v = term
    · subst hvt
      simp [linkPart, LinkPart.swallow, swallow.do_swallow, modifyWindow]
    · by_cases hvc : v = child
      · subst hvc
        simp [linkPart, LinkPart.swallow, swallow.do_swallow, modifyWindow, hvt]
      · simp [linkPart, LinkPart.swallow, swallow.do_swallow, modifyWindow, hvt, hvc]
  · by_cases hvt : v = term
    · subst hvt
      simp [linkPart, LinkPart.swallow, swallow.do_swallow, modifyWindow, hne]
    · by_cases hvc : v = child
      · subst hvc
        simp [linkPart, LinkPart.swallow, swallow.do_swallow, modifyWindow, hvt]
      · simp [linkPart, LinkPart.swallow, swallow.do_swallow, modifyWindow, hvt, hvc]

/-- The desk once `on_unmap` has brought the terminal back. -/
def broughtBack (d : Desk) (w : WinId) : Desk :=
  match swallow.restored d w with
  | some term => d.modifyWindow term fun s =>
      { s with is_swallowed := false, tags := (d.st w).tags, mon_idx := (d.st w).mon_idx }
  | none => d

theorem restored_eq_some {d : Desk} {w t : WinId} :
    swallow.restored d w = some t ↔ (d.st w).swallowing = some t ∧ t ∈ d.windows := by
  simp [swallow.restored, Option.filter_eq_some_iff]

theorem windows_broughtBack (d : Desk) (w : WinId) : (d.broughtBack w).windows = d.windows := by
  unfold broughtBack
  split <;> rfl

theorem rest_broughtBack (d : Desk) (w : WinId) :
    (d.broughtBack w).created = d.created ∧
      (d.broughtBack w).x11_or_windows = d.x11_or_windows ∧
      (d.broughtBack w).window_map = d.window_map ∧ (d.broughtBack w).client = d.client := by
  unfold broughtBack
  split <;> exact ⟨rfl, rfl, rfl, rfl⟩

theorem is_swallowed_broughtBack (d : Desk) (w t : WinId) :
    ((d.broughtBack w).st t).is_swallowed =
      if swallow.restored d w = some t then false else (d.st t).is_swallowed := by
  unfold broughtBack
  cases swallow.restored d w with
  | none => simp
  | some term =>
    by_cases ht : t = term
    · simp [modifyWindow, ht]
    · simp [modifyWindow, ht, Ne.symm ht]

theorem swallowing_broughtBack (d : Desk) (w t : WinId) :
    ((d.broughtBack w).st t).swallowing = (d.st t).swallowing := by
  unfold broughtBack
  split
  · exact Windows.modify_field WindowState.swallowing d.st _ t _ fun _ => rfl
  · rfl

/-- The links of a window that is not its own terminal are undone. -/
theorem linkPart_on_unmap (d : Desk) {w : WinId} (hself : swallow.restored d w ≠ some w) :
    (swallow.on_unmap d w).linkPart = d.linkPart.unlink w := by
  have hwas : ((d.broughtBack w).st w).is_swallowed = (d.st w).is_swallowed := by
    rw [is_swallowed_broughtBack, if_neg hself]
  let forgotten (_ : WinId) (s : WindowState) : WindowState :=
    { s with swallowing := if s.swallowing = some w then none else s.swallowing }
  have hunmap : swallow.on_unmap d w = if (d.st w).is_swallowed = true then
      { d.broughtBack w with
        st := (d.broughtBack w).st.modifyAll (d.broughtBack w).windows forgotten }
      else d.broughtBack w := by
    rw [← hwas]
    rfl
  have hhidden (t : WinId) : ((swallow.on_unmap d w).st t).is_swallowed =
      Backlink.freed w (fun v => d.linkPart.managed v = true) d.linkPart.hidden
        d.linkPart.hides t := by
    have hback : ((swallow.on_unmap d w).st t).is_swallowed =
        ((d.broughtBack w).st t).is_swallowed := by
      rw [hunmap]
      split_ifs
      · exact Windows.modifyAll_field WindowState.is_swallowed _ _ t _ fun _ _ => rfl
      · rfl
    rw [hback, is_swallowed_broughtBack]
    unfold Backlink.freed
    simp only [restored_eq_some, linkPart, decide_eq_true_eq]
  have hhides (t : WinId) : ((swallow.on_unmap d w).st t).swallowing =
      Backlink.cleared w (fun v => d.linkPart.managed v = true) d.linkPart.hidden
        d.linkPart.hides t := by
    rw [hunmap]
    unfold Backlink.cleared
    simp only [linkPart, decide_eq_true_eq]
    by_cases hw : (d.st w).is_swallowed = true
    · by_cases ht : t ∈ d.windows
      · simp [hw, ht, Windows.modifyAll, windows_broughtBack, swallowing_broughtBack, forgotten]
      · simp [hw, ht, Windows.modifyAll, windows_broughtBack, swallowing_broughtBack]
    · simp [hw, swallowing_broughtBack]
  have hrest : (swallow.on_unmap d w).windows = (d.broughtBack w).windows ∧
      (swallow.on_unmap d w).created = (d.broughtBack w).created ∧
      (swallow.on_unmap d w).x11_or_windows = (d.broughtBack w).x11_or_windows ∧
      (swallow.on_unmap d w).window_map = (d.broughtBack w).window_map ∧
      (swallow.on_unmap d w).client = (d.broughtBack w).client := by
    rw [hunmap]
    split_ifs <;> exact ⟨rfl, rfl, rfl, rfl, rfl⟩
  obtain ⟨hcreated', hpopups', hmap', hclient'⟩ := d.rest_broughtBack w
  obtain ⟨hwindows, hcreated, hpopups, hmap, hclient⟩ := hrest
  refine LinkPart.ext (funext fun v => ?_) (hcreated.trans hcreated') (hpopups.trans hpopups')
    (hmap.trans hmap') (funext hhidden) (funext hhides) (funext fun v => ?_) (funext fun v => ?_)
  · simp only [linkPart, LinkPart.unlink, hwindows, windows_broughtBack]
  · simp only [linkPart, LinkPart.unlink, hclient, hclient']
  · simp only [linkPart, LinkPart.unlink, hclient, hclient']

/-! ### Looking for a terminal -/

/-- A terminal that is found is a managed toplevel that nothing hides, and X11 windows find
none. -/
theorem find_target_spec {d : Desk} {child term : WinId} {appid title : String}
    (h : swallow.find_target d child appid title = some term) :
    term ≠ child ∧ term ∈ d.windows ∧ (d.st term).is_swallowed = false ∧
      (d.client term).x11.isSome = false ∧ (d.client child).x11.isSome = false := by
  have hpid {w : WinId} {p : ℕ} (hp : swallow.window_pid d w = some p) :
      (d.client w).x11.isSome = false := by
    unfold swallow.window_pid at hp
    split_ifs at hp with hx
    rw [Option.isNone_iff_eq_none.1 hx]
    rfl
  unfold swallow.find_target at h
  split_ifs at h
  obtain ⟨_, hchild, h⟩ := Option.bind_eq_some_iff.1 h
  obtain ⟨p, h⟩ := walk_mem h
  obtain ⟨v, hv, h⟩ := List.mem_filterMap.1 h
  obtain ⟨q, hq, h⟩ := Option.map_eq_some_iff.1 h
  obtain ⟨-, rfl⟩ := Prod.mk.inj h
  obtain ⟨hmem, hcand⟩ := List.mem_filter.1 hv
  simp only [Bool.and_eq_true, decide_eq_true_eq, Bool.not_eq_true'] at hcand
  exact ⟨hcand.1.1, hmem, hcand.1.2, hpid hq, hpid hchild⟩

/-- The search for a terminal to hide behind `w` reads the same on both desks, but for the names
of `w`. -/
structure SameSearch (w : WinId) (d d' : Desk) : Prop where
  cfg : d'.cfg = d.cfg
  windows : d'.windows = d.windows
  client : d'.client = d.client
  parents : d'.parent_pid = d.parent_pid
  no_swallow : (d'.st w).no_swallow = (d.st w).no_swallow
  others : ∀ v, v ≠ w → (d'.st v).is_swallowed = (d.st v).is_swallowed ∧
    (d'.st v).last_appid = (d.st v).last_appid

namespace SameSearch

variable {w : WinId} {d d' d'' : Desk}

theorem trans (h : SameSearch w d d') (h' : SameSearch w d' d'') : SameSearch w d d'' where
  cfg := h'.cfg.trans h.cfg
  windows := h'.windows.trans h.windows
  client := h'.client.trans h.client
  parents := h'.parents.trans h.parents
  no_swallow := h'.no_swallow.trans h.no_swallow
  others v hv := ⟨(h'.others v hv).1.trans (h.others v hv).1,
    (h'.others v hv).2.trans (h.others v hv).2⟩

theorem of_bare (h : d'.bare = d.bare) : SameSearch w d d' where
  cfg := (congrArg Desk.cfg h :)
  windows := (congrArg Desk.windows h :)
  client := (congrArg Desk.client h :)
  parents := (congrArg Desk.parent_pid h :)
  no_swallow := (congrArg (fun b : Desk => (b.st w).no_swallow) h :)
  others v _ := ⟨(congrArg (fun b : Desk => (b.st v).is_swallowed) h :),
    (congrArg (fun b : Desk => (b.st v).last_appid) h :)⟩

/-- The window itself changes. -/
theorem window (d : Desk) {f : WindowState → WindowState}
    (hf : (f (d.st w)).no_swallow = (d.st w).no_swallow) : SameSearch w d (d.modifyWindow w f) where
  cfg := rfl
  windows := rfl
  client := rfl
  parents := rfl
  no_swallow := by simpa [modifyWindow] using hf
  others v hv := by simp [modifyWindow, hv]

/-- The search finds the same. -/
theorem find_target (h : SameSearch w d d') (appid title : String) :
    swallow.find_target d' w appid title = swallow.find_target d w appid title := by
  have hpid (v : WinId) : swallow.window_pid d' v = swallow.window_pid d v := by
    unfold swallow.window_pid
    rw [h.client]
  have hcands : swallow.candidates d' w = swallow.candidates d w := by
    unfold swallow.candidates
    rw [h.windows, h.cfg, funext hpid]
    congr 1
    refine List.filter_congr fun v _ => ?_
    by_cases hv : v = w
    · simp [hv]
    · rw [(h.others v hv).1, (h.others v hv).2]
  have hwalk (fuel : ℕ) (pid : Option ℕ) : swallow.walk d' (swallow.candidates d w) fuel pid =
      swallow.walk d (swallow.candidates d w) fuel pid := by
    induction fuel generalizing pid with
    | zero => simp [swallow.walk]
    | succ fuel ih =>
      cases pid with
      | none => simp [swallow.walk]
      | some p =>
        unfold swallow.walk
        simp only [h.parents, ih]
  unfold swallow.find_target
  simp only [h.cfg, h.no_swallow, hpid, hcands, hwalk, h.parents]

end SameSearch

/-- The names a window is searched by. -/
def searchNames (d : Desk) (w : WinId) : Option String × Option String :=
  ((d.st w).last_appid, (d.st w).last_title)

theorem sameSearch_switchTo (d : Desk) (w : WinId) (i mask : ℕ) :
    SameSearch w d (switchTo d w i mask) ∧
      (switchTo d w i mask).searchNames w = d.searchNames w := by
  have hrecord : SameSearch w d (d.update_tag_history i mask) ∧
      (d.update_tag_history i mask).searchNames w = d.searchNames w := by
    unfold update_tag_history
    split
    · split_ifs
      · exact ⟨⟨rfl, rfl, rfl, rfl, rfl, fun _ _ => ⟨rfl, rfl⟩⟩, rfl⟩
      · exact ⟨.of_bare rfl, rfl⟩
    · exact ⟨.of_bare rfl, rfl⟩
  unfold Compositor.switchTo
  dsimp only
  split
  · exact hrecord
  · rename_i m hm
    split_ifs
    · exact hrecord
    · have hbare := bare_mark_slide_outs (d.update_tag_history i mask) m.tags
        (mask &&& d.cfg.tag_mask) m.w.size.w
      have hmark : SameSearch w d ((d.update_tag_history i mask).mark_slide_outs m.tags
          (mask &&& d.cfg.tag_mask) m.w.size.w) := hrecord.1.trans (.of_bare hbare)
      have hnames := (congrArg (fun b : Desk => b.searchNames w) hbare :)
      refine ⟨⟨hmark.cfg, hmark.windows, hmark.client, hmark.parents, ?_, fun v hv => ?_⟩, ?_⟩
      · refine Eq.trans ?_ hmark.no_swallow
        simp [modifyWindow, modifyMonitor]
      · refine Eq.mp ?_ (hmark.others v hv)
        simp [modifyWindow, modifyMonitor, hv]
      · refine Eq.trans ?_ (hnames.trans hrecord.2)
        simp [searchNames, modifyWindow, modifyMonitor]
        exact ⟨rfl, rfl⟩

theorem sameSearch_adoptParent (d : Desk) (w : WinId) (parent : SurfaceId) :
    SameSearch w d (adoptParent d w parent) ∧
      (adoptParent d w parent).searchNames w = d.searchNames w := by
  refine ⟨.window d rfl, ?_⟩
  simp [searchNames, adoptParent, modifyWindow]

/-- The rules leave the search as it was, but for the first names of the window. -/
theorem sameSearch_settle (d : Desk) (w : WinId) (acc : RuleAccum) :
    SameSearch w d (settle d w acc) ∧ (settle d w acc).searchNames w =
      ((d.st w).last_appid.or (some ((d.client w).app_id.getD "")),
        (d.st w).last_title.or (some ((d.client w).title.getD ""))) := by
  have hset {d' : Desk} (h : SameSearch w d d') (hn : d'.searchNames w = d.searchNames w)
      {f : WindowState → WindowState}
      (hf : ∀ st, (f st).no_swallow = st.no_swallow ∧
        (f st).last_appid = st.last_appid.or (some ((d.client w).app_id.getD "")) ∧
        (f st).last_title = st.last_title.or (some ((d.client w).title.getD ""))) :
      SameSearch w d (d'.modifyWindow w f) ∧ (d'.modifyWindow w f).searchNames w =
        ((d.st w).last_appid.or (some ((d.client w).app_id.getD "")),
          (d.st w).last_title.or (some ((d.client w).title.getD ""))) := by
    obtain ⟨happ, htitle⟩ := Prod.mk.inj hn
    refine ⟨h.trans (.window d' (hf _).1), ?_⟩
    simp [searchNames, modifyWindow, (hf _).2.1, (hf _).2.2, happ, htitle]
  unfold settle
  dsimp only
  refine And.elim (fun h hn => hset h hn fun _ => ⟨rfl, rfl, rfl⟩) ?_
  split
  · split_ifs
    · exact ⟨.of_bare rfl, rfl⟩
    · exact d.sameSearch_switchTo w _ _
  · exact ⟨.of_bare rfl, rfl⟩

end Desk

namespace Rwl

/-! ### Rules that run again -/

/-- The terminal that a commit finds for `w` once it has applied the rules: the names are those of
the last time, and the Lua rule may have a say. -/
def rulesTarget (s : Rwl) (w : WinId) : Option WinId :=
  let st := s.desk.st w
  let c := s.desk.client w
  match c.toplevel_parent with
  | some _ => swallow.find_target s.desk w (st.last_appid.getD "") (st.last_title.getD "")
  | none =>
      let no_swallow :=
        ((s.lua.window_rule s.hooks.calls w).bind RuleOverride.no_swallow).getD st.no_swallow
      swallow.find_target
        (s.desk.modifyWindow w fun st => { st with no_swallow := no_swallow }) w
        (st.last_appid.getD (c.app_id.getD "")) (st.last_title.getD (c.title.getD ""))

/-- The state once a commit has applied the rules of `w`. -/
def withRules (s : Rwl) (w : WinId) : Rwl :=
  (s.modifyDesk fun d => d.modifyWindow w fun st => { st with rules_applied := true }).apply_rules w

theorem apply_rules_parent {s : Rwl} {w : WinId} {parent : SurfaceId}
    (h : (s.desk.client w).toplevel_parent = some parent) :
    s.apply_rules w = s.modifyDesk (adoptParent · w parent) := by
  unfold apply_rules
  rw [h]

theorem apply_rules_plain {s : Rwl} {w : WinId} (h : (s.desk.client w).toplevel_parent = none)
    (hov : s.lua.window_rule s.hooks.calls w = none) :
    s.apply_rules w =
      (s.fire (.window_rule w)).modifyDesk (settle · w (accumulate s.desk w)) := by
  unfold apply_rules
  rw [h]
  dsimp only
  rw [hov]

theorem apply_rules_override {s : Rwl} {w : WinId} {ov : RuleOverride}
    (h : (s.desk.client w).toplevel_parent = none)
    (hov : s.lua.window_rule s.hooks.calls w = some ov) :
    s.apply_rules w = (s.fire (.window_rule w)).modifyDesk fun d =>
      settle (d.modifyWindow w fun st => { st with no_swallow := ov.no_swallow.getD st.no_swallow })
        w ((accumulate s.desk w).override d.cfg.tag_mask ov) := by
  unfold apply_rules
  rw [h]
  dsimp only
  rw [hov]

theorem find_target_withRules (s : Rwl) (w : WinId) :
    swallow.find_target (s.withRules w).desk w (((s.withRules w).desk.st w).last_appid.getD "")
      (((s.withRules w).desk.st w).last_title.getD "") = s.rulesTarget w := by
  have hresult {d d' d'' : Desk} (hd : Desk.SameSearch w d d') (h : Desk.SameSearch w d' d'')
      {a t : String} (ha : (d''.st w).last_appid.getD "" = a)
      (ht : (d''.st w).last_title.getD "" = t) :
      swallow.find_target d'' w ((d''.st w).last_appid.getD "") ((d''.st w).last_title.getD "") =
        swallow.find_target d w a t := by
    rw [h.find_target, hd.find_target, ha, ht]
  have hget (o : Option String) (n : String) : (o.or (some n)).getD "" = o.getD n := by
    cases o <;> rfl
  let ruled (d : Desk) := d.modifyWindow w fun st => { st with rules_applied := true }
  have hsettled (d : Desk) (acc : RuleAccum) {d₀ : Desk} (hd : Desk.SameSearch w d₀ d)
      (hn : d.searchNames w = s.desk.searchNames w) (hc : d.client = s.desk.client) :
      swallow.find_target (settle d w acc) w (((settle d w acc).st w).last_appid.getD "")
          (((settle d w acc).st w).last_title.getD "") =
        swallow.find_target d₀ w
          ((s.desk.st w).last_appid.getD ((s.desk.client w).app_id.getD ""))
          ((s.desk.st w).last_title.getD ((s.desk.client w).title.getD "")) := by
    obtain ⟨hsame, hnames⟩ := d.sameSearch_settle w acc
    obtain ⟨happ, htitle⟩ := Prod.mk.inj hn
    obtain ⟨happ', htitle'⟩ := Prod.mk.inj hnames
    refine hresult hd hsame ?_ ?_
    · rw [happ', hget, happ, hc]
    · rw [htitle', hget, htitle, hc]
  have hruled : Desk.SameSearch w s.desk (ruled s.desk) := .window s.desk rfl
  have hnames : (ruled s.desk).searchNames w = s.desk.searchNames w := by
    simp [ruled, Desk.searchNames, Desk.modifyWindow]
  have hoverridden (b : Bool) : Desk.SameSearch w
      (s.desk.modifyWindow w fun st => { st with no_swallow := b })
      ((ruled s.desk).modifyWindow w fun st => { st with no_swallow := b }) := by
    refine ⟨rfl, rfl, rfl, rfl, ?_, fun v hv => ?_⟩
    · simp [ruled, Desk.modifyWindow]
    · simp [ruled, Desk.modifyWindow, hv]
  unfold rulesTarget withRules
  dsimp only
  cases hparent : (s.desk.client w).toplevel_parent with
  | some parent =>
    rw [apply_rules_parent (s := s.modifyDesk ruled) hparent]
    obtain ⟨hsame, hkept⟩ := (ruled s.desk).sameSearch_adoptParent w parent
    obtain ⟨happ, htitle⟩ := Prod.mk.inj (hkept.trans hnames)
    exact hresult hruled hsame (by rw [happ]) (by rw [htitle])
  | none =>
    cases hov : s.lua.window_rule s.hooks.calls w with
    | none =>
      rw [apply_rules_plain (s := s.modifyDesk ruled) hparent hov]
      have hkept : Desk.SameSearch w (s.desk.modifyWindow w fun st =>
          { st with no_swallow := (s.desk.st w).no_swallow }) (ruled s.desk) := by
        refine ⟨rfl, rfl, rfl, rfl, ?_, fun v hv => ?_⟩
        · simp [ruled, Desk.modifyWindow]
        · simp [ruled, Desk.modifyWindow, hv]
      exact hsettled (ruled s.desk) _ hkept hnames rfl
    | some ov =>
      rw [apply_rules_override (s := s.modifyDesk ruled) hparent hov]
      have hdesk : ((ruled s.desk).modifyWindow w fun st =>
          { st with no_swallow := ov.no_swallow.getD st.no_swallow }) =
          (ruled s.desk).modifyWindow w fun st =>
            { st with no_swallow := ov.no_swallow.getD (s.desk.st w).no_swallow } := by
        simp [ruled, Desk.modifyWindow, Windows.modify]
      have hfinal := hsettled _
        ((accumulate (ruled s.desk) w).override s.desk.cfg.tag_mask ov)
        (hoverridden (ov.no_swallow.getD (s.desk.st w).no_swallow)) (by
          simp [ruled, Desk.searchNames, Desk.modifyWindow]) rfl
      rw [← hdesk] at hfinal
      exact hfinal

/-! ### What an event does to the links -/

theorem Moves.linkPart {L : Desk → Desk → Prop} {s s' : Rwl} (h : Moves L s s')
    (hL : ∀ d d', L d d' → d'.linkPart = d.linkPart) : s'.desk.linkPart = s.desk.linkPart := by
  have hchain {d : Desk} (hc : Desk.Changes s.config_file L s.desk d) :
      d.linkPart = s.desk.linkPart := by
    induction hc with
    | refl => rfl
    | tail _ hstep ih => exact (Desk.linkPart_change hL hstep).trans ih
  exact hchain h.changes

theorem Still.linkPart {s s' : Rwl} (h : Still s s') : s'.desk.linkPart = s.desk.linkPart :=
  Moves.linkPart h fun _ _ h => h.elim

theorem Still.linked {s s' : Rwl} (h : Still s s') (hs : Linked s.desk.linkPart) :
    Linked s'.desk.linkPart := h.linkPart ▸ hs

/-- When the rules of a window that hides a terminal run again they find no other one, and a
surface has one role: a toplevel takes one that no window has, an X11 window one that no managed
toplevel has. -/
def SwallowsOnce (s : Rwl) : Event → Prop
  | .commit f _ => ∀ w ∈ s.desk.window_map f, (s.desk.st w).rules_applied = false →
      (s.desk.st w).swallowing.isSome = true → s.rulesTarget w = none
  | .new_toplevel _ c => ∀ v ∈ s.desk.windows ++ s.desk.x11_or_windows,
      (s.desk.client v).wl_surface ≠ c.wl_surface
  | .x11_map _ c | .x11_map_override _ c => ∀ v ∈ s.desk.windows, (s.desk.client v).x11 = none →
      (s.desk.client v).wl_surface ≠ c.wl_surface
  | .x11_associated _ f => ∀ v ∈ s.desk.windows, (s.desk.client v).x11 = none →
      (s.desk.client v).wl_surface ≠ some f
  | _ => True

instance (s : Rwl) (e : Event) : Decidable (SwallowsOnce s e) := by
  apply Event.casesOn (motive := fun e => Decidable (SwallowsOnce s e)) e <;> intros <;>
    dsimp only [SwallowsOnce] <;> infer_instance

variable {s : Rwl}

/-- The guard of the X11 events, in terms of the links. -/
theorem no_toplevel_has {f : Option SurfaceId} (h : ∀ v ∈ s.desk.windows,
    (s.desk.client v).x11 = none → (s.desk.client v).wl_surface ≠ f) (v : WinId)
    (hv : s.desk.linkPart.managed v = true) (hx : s.desk.linkPart.x11 v = false) :
    s.desk.linkPart.surface v ≠ f :=
  h v (of_decide_eq_true hv) (Option.isSome_eq_false_iff.1 hx |> Option.isNone_iff_eq_none.1)

theorem linkPart_withRules (s : Rwl) (w : WinId) :
    (s.withRules w).desk.linkPart = s.desk.linkPart := by
  have hmoves : Moves (fun d d' => d'.linkPart = d.linkPart) s (s.withRules w) :=
    ((Moves.refl s).window w (f := fun st => { st with rules_applied := true })
      fun _ => ⟨⟨rfl, rfl⟩, rfl, rfl⟩).apply_rules w fun _ _ => rfl
  exact hmoves.linkPart fun _ _ h => h

/-- A window that looks for a terminal swallows one or changes nothing. -/
theorem linkPart_try_swallow (d : Desk) (w : WinId) :
    (swallow.try_swallow d w).linkPart = d.linkPart ∨
      ∃ term, (swallow.try_swallow d w).linkPart = d.linkPart.swallow w term := by
  unfold swallow.try_swallow
  dsimp only
  split
  · rename_i term hterm
    exact .inr ⟨term, Desk.linkPart_do_swallow d (Desk.find_target_spec hterm).1⟩
  · exact .inl rfl

/-- After the rules and the search for a terminal, a first commit keeps the links. -/
theorem still_firstCommit (s : Rwl) (w : WinId) :
    Still ((s.withRules w).modifyDesk (swallow.try_swallow · w)) (s.firstCommit w) :=
  ((((Moves.refl _).fire (.window_open w)).drain).arrange_all.focus_top).emit _

/-- What follows the rules keeps the links. -/
theorem still_afterRules (s : Rwl) (w : WinId) :
    Still s (((s.firstBuffer w).modifyDesk (centre · w)).refreshNames w) :=
  (((Moves.refl s).firstBuffer w).centre w).refreshNames w

theorem linked_try_swallow {d : Desk} {w : WinId} (h : Linked d.linkPart)
    (hw : d.linkPart.x11 w = false → d.linkPart.managed w = true)
    (honce : ∀ term, swallow.find_target d w ((d.st w).last_appid.getD "")
      ((d.st w).last_title.getD "") = some term → (d.st w).swallowing = none) :
    Linked (swallow.try_swallow d w).linkPart := by
  unfold swallow.try_swallow
  dsimp only
  split
  · rename_i term hterm
    obtain ⟨hne, hmem, hfree, htx, hwx⟩ := Desk.find_target_spec hterm
    rw [Desk.linkPart_do_swallow d hne]
    exact h.swallow (hw hwx) hwx (decide_eq_true hmem) htx hfree (honce term hterm)
  · exact h

/-- **A commit.** -/
theorem linked_commit (h : Linked s.desk.linkPart) (f : SurfaceId) (b : Bool)
    (hg : SwallowsOnce s (.commit f b)) : Linked (s.commit f b).desk.linkPart := by
  unfold commit
  split
  · rename_i w hw
    unfold commit_window
    refine Still.linked (still_afterRules _ w) ?_
    split_ifs with hr
    · have hrules := linkPart_withRules s w
      have hswallowed : Linked (swallow.try_swallow (s.withRules w).desk w).linkPart := by
        refine linked_try_swallow (hrules ▸ h) (fun hx => ?_) fun term hterm => ?_
        · rw [hrules] at hx ⊢
          exact (h.mapped f w hw hx).1
        · rw [find_target_withRules] at hterm
          have hhides : ((s.withRules w).desk.st w).swallowing = (s.desk.st w).swallowing :=
            congrArg (fun k : LinkPart => k.hides w) hrules
          rw [hhides]
          cases hs : (s.desk.st w).swallowing with
          | none => rfl
          | some t =>
            have hnone := hg w hw hr (by rw [hs]; rfl)
            rw [hnone] at hterm
            cases hterm
      exact (still_firstCommit s w).linked hswallowed
    · exact Still.linked (Moves.refl s).arrange_all h
    · exact h
  · split
    · exact Still.linked ((Moves.refl s).commit_layer _) h
    · exact h

/-- What a toplevel that goes does to the links. -/
theorem linkPart_toplevel_destroyed (h : Linked s.desk.linkPart) (f : SurfaceId) :
    (s.toplevel_destroyed f).desk.linkPart = match s.desk.window_map f with
      | some w => (s.desk.linkPart.drop f).unlink w
      | none => s.desk.linkPart.drop f := by
  have hdropped : (s.modifyDesk (dropToplevel · f)).desk.linkPart = s.desk.linkPart.drop f :=
    Desk.linkPart_dropToplevel s.desk f
  unfold toplevel_destroyed
  cases hw : s.desk.window_map f with
  | some w =>
    let s₂ := (s.modifyDesk (dropToplevel · f)).windowGone w
    have hgone : s₂.desk.linkPart = s.desk.linkPart.drop f :=
      (Still.linkPart ((Moves.refl _).windowGone w)).trans hdropped
    have hself : swallow.restored s₂.desk w ≠ some w := by
      intro hr
      obtain ⟨hhides, hmem⟩ := Desk.restored_eq_some.1 hr
      have hmanaged : (s.desk.linkPart.drop f).managed w = true := by
        rw [← hgone]
        exact decide_eq_true hmem
      have hnone := (h.x11 w (h.x11_of_drop hw hmanaged)).2
      have hsame : (s₂.desk.st w).swallowing = s.desk.linkPart.hides w :=
        congrArg (fun k : LinkPart => k.hides w) hgone
      rw [hsame, hnone] at hhides
      cases hhides
    have hunlinked : (s₂.modifyDesk (swallow.on_unmap · w)).desk.linkPart =
        (s.desk.linkPart.drop f).unlink w := by
      rw [← hgone]
      exact Desk.linkPart_on_unmap s₂.desk hself
    exact (Still.linkPart ((Moves.refl _).refocus _ _)).trans hunlinked
  | none => exact (Still.linkPart ((Moves.refl _).refocus _ _)).trans hdropped

/-- **A toplevel goes.** -/
theorem linked_toplevel_destroyed (h : Linked s.desk.linkPart) (f : SurfaceId) :
    Linked (s.toplevel_destroyed f).desk.linkPart := by
  rw [linkPart_toplevel_destroyed h]
  cases hw : s.desk.window_map f with
  | some w => exact h.close hw
  | none =>
    refine h.drop_other fun v hv hx hs => ?_
    obtain ⟨g, hg, hgv⟩ := h.surface v hv hx
    obtain rfl := Option.some.inj (hg.symm.trans hs)
    exact nomatch hgv.symm.trans hw

/-! ### X11 windows -/

/-- Windows of the X server are gone, with the surfaces they had. -/
theorem linked_without {d d' : Desk} (h : Linked d.linkPart) {p : WinId → Bool}
    (hx : ∀ w ∈ d.windows, p w = true → (d.client w).x11.isSome = true)
    (hwindows : d'.windows = d.windows.filter fun w => !p w)
    (hpopups : ∀ w ∈ d'.x11_or_windows, w ∈ d.x11_or_windows)
    (hmap : ∀ f, d'.window_map f = d.window_map f ∨ d'.window_map f = none ∧
      ∃ x, (x ∈ d.windows ∨ x ∈ d.x11_or_windows) ∧ (d.client x).x11.isSome = true ∧
        (d.client x).wl_surface = some f)
    (hrest : (d'.created, d'.st, d'.client) = (d.created, d.st, d.client)) :
    Linked d'.linkPart := by
  obtain ⟨hcreated, hrest⟩ := Prod.mk.inj hrest
  obtain ⟨hst, hclient⟩ := Prod.mk.inj hrest
  have hpart : d'.linkPart = { d.linkPart with
      managed := fun w => d.linkPart.managed w && !p w
      window_map := d'.window_map
      popups := d'.x11_or_windows } := by
    refine LinkPart.ext (funext fun w => ?_) hcreated rfl rfl ?_ ?_ ?_ ?_
    · simp only [Desk.linkPart, hwindows, List.mem_filter, Bool.decide_and, Bool.decide_eq_true]
    · simp only [Desk.linkPart, hst]
    · simp only [Desk.linkPart, hst]
    · simp only [Desk.linkPart, hclient]
    · simp only [Desk.linkPart, hclient]
  rw [hpart]
  refine h.forget (fun w hw hpw => hx w (of_decide_eq_true hw) hpw) (fun f => ?_) hpopups
  rcases hmap f with heq | ⟨hnone, x, hx, hxx, hs⟩
  · exact .inl heq
  · refine .inr ⟨hnone, fun v hv hvx hvs => ?_⟩
    exact h.roles x v (hx.imp_left fun hx => decide_eq_true hx) hxx hv hvx (hs.trans hvs.symm)

theorem linked_removeX11 {d : Desk} (h : Linked d.linkPart) {w : WinId}
    (hw : w ∈ d.windows ∨ w ∈ d.x11_or_windows) (hx : (d.client w).x11.isSome = true) :
    Linked (d.removeX11 w).dismiss_x11_popups.linkPart := by
  refine linked_without h (p := fun v => decide (v = w)) (fun v _ hv => ?_) ?_ nofun (fun f => ?_)
    rfl
  · rwa [of_decide_eq_true hv]
  · refine List.filter_congr fun v _ => ?_
    simp
  · have hmap : (d.removeX11 w).dismiss_x11_popups.window_map = match d.wl_surface w with
        | some g => Function.update d.window_map g none
        | none => d.window_map := rfl
    rw [hmap]
    cases hs : d.wl_surface w with
    | none => exact .inl rfl
    | some g =>
      by_cases hfg : f = g
      · subst hfg
        exact .inr ⟨Function.update_self .., w, hw, hx, hs⟩
      · exact .inl (Function.update_of_ne hfg ..)

theorem linked_removeAllX11 {d : Desk} (h : Linked d.linkPart) : Linked d.removeAllX11.linkPart := by
  refine linked_without h (p := fun v => (d.client v).x11.isSome) (fun v _ hv => hv) ?_ nofun
    (fun f => ?_) rfl
  · refine List.filter_congr fun v _ => ?_
    cases (d.client v).x11 <;> rfl
  · have hmap : d.removeAllX11.window_map f =
        if d.x11Windows.any fun w => decide (d.wl_surface w = some f) then none
        else d.window_map f := rfl
    rw [hmap]
    split_ifs with hdead
    · obtain ⟨w, hw, hs⟩ := List.any_eq_true.1 hdead
      obtain ⟨hmem, hx⟩ := List.mem_filter.1 hw
      exact .inr ⟨rfl, w, .inl hmem, hx, of_decide_eq_true hs⟩
    · exact .inl rfl

theorem x11_of_wraps {c : Client} {xid : ℕ} (h : c.wraps xid = true) : c.x11.isSome = true := by
  unfold Client.wraps at h
  cases hx : c.x11 with
  | none => simp [hx] at h
  | some x => rfl

theorem linkPart_setX11Surface (d : Desk) (xid : ℕ) (f : Option SurfaceId) :
    (d.setX11Surface xid f).linkPart = { d.linkPart with
      surface := fun w => if (d.client w).wraps xid then f else d.linkPart.surface w } := by
  refine LinkPart.ext rfl rfl rfl rfl rfl rfl (funext fun w => ?_) (funext fun w => ?_)
  · simp only [Desk.linkPart, Desk.setX11Surface]
    split_ifs <;> rfl
  · simp only [Desk.linkPart, Desk.setX11Surface]
    split_ifs <;> rfl

theorem linked_setX11Surface {d : Desk} (h : Linked d.linkPart) (xid : ℕ) {f : Option SurfaceId}
    (hf : ∀ v, d.linkPart.managed v = true → d.linkPart.x11 v = false → d.linkPart.surface v ≠ f) :
    Linked (d.setX11Surface xid f).linkPart := by
  rw [linkPart_setX11Surface]
  exact h.pair (fun _ hw => x11_of_wraps hw) hf

theorem window_for_x11_spec {d : Desk} {xid : ℕ} {w : WinId} (h : d.window_for_x11 xid = some w) :
    (w ∈ d.windows ∨ w ∈ d.x11_or_windows) ∧ (d.client w).x11.isSome = true :=
  ⟨List.mem_append.1 (List.mem_of_find?_eq_some h),
    x11_of_wraps (List.find?_some (p := fun w => (d.client w).wraps xid) h)⟩

theorem linked_unmap_x11_window (h : Linked s.desk.linkPart) (xid : ℕ) :
    Linked (s.unmap_x11_window xid).desk.linkPart := by
  unfold unmap_x11_window
  split
  · exact h
  · rename_i w hw
    obtain ⟨hmem, hx⟩ := window_for_x11_spec hw
    dsimp only
    split_ifs
    · refine linked_without h (p := fun _ => false) (fun _ _ hp => by cases hp) ?_ ?_
        (fun f => .inl rfl) rfl
      · exact (List.filter_eq_self.2 fun _ _ => rfl).symm
      · exact fun v hv => List.mem_of_mem_filter hv
    · have hgone := linked_removeX11
        (d := { s.desk with space := Space.unmap_elem s.desk.space w }) h hmem hx
      exact Still.linked (Moves.refl _).settleX11 hgone

/-- A surface goes to an X11 window. -/
theorem linked_surface_associated (h : Linked s.desk.linkPart) (xid : ℕ) (f : SurfaceId)
    (hg : SwallowsOnce s (.x11_associated xid f)) :
    Linked (s.surface_associated xid f).desk.linkPart := by
  have hpaired := linked_setX11Surface h xid (no_toplevel_has hg)
  unfold surface_associated modifyDesk
  dsimp only
  split
  · rename_i w hw
    obtain ⟨hmem, hx⟩ := window_for_x11_spec hw
    refine hpaired.associate (hmem.imp_left fun hm => decide_eq_true hm) hx ?_
    rw [linkPart_setX11Surface]
    intro v hv hvx
    dsimp only
    split_ifs with hwraps
    · have hsome : s.desk.linkPart.x11 v = true := x11_of_wraps hwraps
      simp [hsome] at hvx
    · exact no_toplevel_has hg v hv hvx
  · exact hpaired

/-! ### Fresh windows and outputs -/

theorem isSome_of_not_isNone {α : Type*} {o : Option α} (h : ¬o.isNone = true) : o.isSome = true := by
  cases o with
  | none => exact absurd rfl h
  | some => rfl

theorem linkPart_new_toplevel (s : Rwl) (w : WinId) (c : Client) :
    (s.new_toplevel w c).desk.linkPart =
      s.desk.linkPart.insert w c.x11.isSome c.wl_surface := by
  have hinsert := Desk.linkPart_insertWindow s.desk w c (f := id) fun _ => ⟨rfl, rfl⟩
  rw [← hinsert]
  unfold new_toplevel
  dsimp only
  split_ifs
  · exact Still.linkPart (((Moves.refl _).followFocus w _).emit _)
  · rfl

theorem linkPart_map_x11_window (s : Rwl) (w : WinId) (c : Client) :
    (s.map_x11_window w c).desk.linkPart =
      s.desk.linkPart.insert w c.x11.isSome c.wl_surface := by
  let float := c.window_is_float_type
  let s₁ := s.modifyDesk fun d => insertWindow d w c fun st => { st with is_floating := float }
  have hcentred : Still s₁ (s₁.modifyDesk fun d => if float then d.center_x11 w else d) := by
    refine Moves.desk (.refl s₁) fun hc => ?_
    split_ifs
    · exact hc.center_x11 w
    · exact hc
  exact (Still.linkPart (((hcentred.focus_window (some w)).arrange_all).emit _)).trans
    (Desk.linkPart_insertWindow s.desk w c (f := fun st => { st with is_floating := float })
      fun _ => ⟨rfl, rfl⟩)

theorem linkPart_map_x11_override_redirect (s : Rwl) (w : WinId) (c : Client) :
    (s.map_x11_override_redirect w c).desk.linkPart = { s.desk.linkPart with
      created := w :: s.desk.linkPart.created
      popups := s.desk.linkPart.popups ++ [w]
      hidden := Function.update s.desk.linkPart.hidden w false
      hides := Function.update s.desk.linkPart.hides w none
      x11 := Function.update s.desk.linkPart.x11 w c.x11.isSome
      surface := Function.update s.desk.linkPart.surface w c.wl_surface } := by
  refine LinkPart.ext rfl rfl rfl rfl (funext fun v => ?_) (funext fun v => ?_)
    (funext fun v => ?_) (funext fun v => ?_)
  all_goals by_cases hvw : v = w
  all_goals simp [map_x11_override_redirect, modifyDesk, Desk.insertOverride, Desk.linkPart,
    WindowState.new, hvw]

/-- A toplevel is made for a surface that no window has. -/
theorem linked_new_toplevel (h : Linked s.desk.linkPart) {w : WinId} {c : Client}
    (hw : w ∉ s.desk.created) (hx : c.x11.isSome = false) (hf : c.wl_surface.isSome = true)
    (hg : SwallowsOnce s (.new_toplevel w c)) : Linked (s.new_toplevel w c).desk.linkPart := by
  have hfresh (v : WinId)
      (hv : s.desk.linkPart.managed v = true ∨ v ∈ s.desk.linkPart.popups) :
      s.desk.linkPart.surface v ≠ c.wl_surface :=
    hg v (List.mem_append.2 (hv.imp_left of_decide_eq_true))
  rw [linkPart_new_toplevel, hx]
  exact h.insert hw (fun _ => ⟨hf, fun v hv _ => hfresh v hv⟩) fun v hv _ => hfresh v (.inl hv)

theorem linked_map_x11_window (h : Linked s.desk.linkPart) {w : WinId} {c : Client}
    (hw : w ∉ s.desk.created) (hx : c.x11.isSome = true)
    (hf : ∀ v, s.desk.linkPart.managed v = true → s.desk.linkPart.x11 v = false →
      s.desk.linkPart.surface v ≠ c.wl_surface) :
    Linked (s.map_x11_window w c).desk.linkPart := by
  rw [linkPart_map_x11_window, hx]
  exact h.insert hw nofun hf

theorem linked_map_x11_override (h : Linked s.desk.linkPart) {w : WinId} {c : Client}
    (hw : w ∉ s.desk.created) (hx : c.x11.isSome = true)
    (hf : ∀ v, s.desk.linkPart.managed v = true → s.desk.linkPart.x11 v = false →
      s.desk.linkPart.surface v ≠ c.wl_surface) :
    Linked (s.map_x11_override_redirect w c).desk.linkPart := by
  rw [linkPart_map_x11_override_redirect, hx]
  exact h.popup hw hf

theorem linkPart_removeMonitor (d : Desk) (i : ℕ) : (d.removeMonitor i).linkPart = d.linkPart := by
  refine LinkPart.ext rfl rfl rfl rfl (funext fun v => ?_) (funext fun v => ?_) rfl rfl
  · refine Windows.modifyAll_field WindowState.is_swallowed d.st d.windows v _ fun _ st => ?_
    dsimp only
    unfold Desk.migrateWindow
    split_ifs <;> rfl
  · refine Windows.modifyAll_field WindowState.swallowing d.st d.windows v _ fun _ st => ?_
    dsimp only
    unfold Desk.migrateWindow
    split_ifs <;> rfl

/-! ### Runs -/

/-- The events that make or remove windows or links. -/
def Event.links : Event → Bool
  | .commit .. | .new_toplevel .. | .toplevel_destroyed .. | .x11_map .. => true
  | .x11_map_override .. | .x11_unmapped .. | .x11_destroyed .. | .x11_associated .. => true
  | .x11_disconnected => true
  | _ => false

/-- **The other events keep the windows and the links.** -/
theorem linkPart_step (s : Rwl) (e : Event) (he : e.links = false) :
    (step s e).desk.linkPart = s.desk.linkPart := by
  have hother (hfile : ∀ cfg, e ≠ .config_written cfg)
      (hlife : ∀ d d', Life s.grab e d d' → d'.linkPart = d.linkPart) :
      (step s e).desk.linkPart = s.desk.linkPart :=
    (Moves.step s e hfile fun _ _ h => h).linkPart hlife
  cases e with
  | commit | new_toplevel | toplevel_destroyed | x11_map | x11_map_override | x11_unmapped
  | x11_destroyed | x11_associated | x11_disconnected => cases he
  | config_written cfg => rfl
  | ipc_outputs cmd which val =>
    refine hother (fun _ h => by cases h) fun d d' h => ?_
    cases h
    rfl
  | output_added o info =>
    refine hother (fun _ h => by cases h) fun d d' h => ?_
    cases h
    rfl
  | output_removed o =>
    refine hother (fun _ h => by cases h) fun d d' h => ?_
    cases h with
    | unplugged _ _ i => exact linkPart_removeMonitor d i
  | motion dx dy =>
    refine hother (fun _ h => by cases h) fun d d' h => ?_
    rcases h with _ | _
    rename_i hdrag
    obtain ⟨_, _, _, _, _, rfl⟩ := hdrag
    rfl
  | motion_abs fx fy =>
    refine hother (fun _ h => by cases h) fun d d' h => ?_
    rcases h with _ | _
    rename_i hdrag
    obtain ⟨_, _, _, _, _, rfl⟩ := hdrag
    rfl
  | _ => exact hother (fun _ h => by cases h) fun _ _ h => by cases h

/-- **One event keeps the links.** -/
theorem linked_step (h : Linked s.desk.linkPart) {e : Event} (hg : SwallowsOnce s e) :
    Linked (step s e).desk.linkPart := by
  have hother (he : e.links = false) : Linked (step s e).desk.linkPart := linkPart_step s e he ▸ h
  cases e with
  | commit f b => exact linked_commit h f b hg
  | toplevel_destroyed f => exact linked_toplevel_destroyed h f
  | new_toplevel w c =>
    change Linked (if w ∈ s.desk.created ∨ c.x11.isSome ∨ c.wl_surface.isNone then s
      else s.new_toplevel w c).desk.linkPart
    split_ifs with hstale
    · exact h
    · simp only [not_or] at hstale
      obtain ⟨hw, hx, hf⟩ := hstale
      exact linked_new_toplevel h hw (Bool.eq_false_iff.2 hx)
        (Option.isSome_iff_ne_none.2 fun hnone => hf (by rw [hnone]; rfl)) hg
  | x11_map w c =>
    change Linked (if w ∈ s.desk.created ∨ c.x11.isNone then s
      else s.map_x11_window w c).desk.linkPart
    split_ifs with hstale
    · exact h
    · simp only [not_or] at hstale
      exact linked_map_x11_window h hstale.1 (isSome_of_not_isNone hstale.2) (no_toplevel_has hg)
  | x11_map_override w c =>
    change Linked (if w ∈ s.desk.created ∨ c.x11.isNone then s
      else s.map_x11_override_redirect w c).desk.linkPart
    split_ifs with hstale
    · exact h
    · simp only [not_or] at hstale
      exact linked_map_x11_override h hstale.1 (isSome_of_not_isNone hstale.2) (no_toplevel_has hg)
  | x11_unmapped xid =>
    refine linked_setX11Surface (linked_unmap_x11_window h xid) xid fun v hv hx hs => ?_
    obtain ⟨g, hg, -⟩ := (linked_unmap_x11_window h xid).surface v hv hx
    cases hg.symm.trans hs
  | x11_destroyed xid => exact linked_unmap_x11_window h xid
  | x11_associated xid f => exact linked_surface_associated h xid f hg
  | x11_disconnected =>
    change Linked (s.x11_disconnected).desk.linkPart
    unfold x11_disconnected
    split_ifs
    · exact h
    · exact Still.linked (Moves.refl _).settleX11 (linked_removeAllX11 h)
  | _ => exact hother rfl

/-- The two ends of the links agree: a window is hidden exactly when one managed window hides it,
and nothing that has gone is hidden behind a window. -/
structure LinksAgree (d : Desk) : Prop where
  hidden : ∀ t ∈ d.windows, (d.st t).is_swallowed = true ↔
    ∃! c, c ∈ d.windows ∧ (d.st c).swallowing = some t
  once : ∀ c ∈ d.windows, ∀ c' ∈ d.windows, ∀ t, (d.st c).swallowing = some t →
    (d.st c').swallowing = some t → c = c'
  inside : ∀ c ∈ d.windows, ∀ t, (d.st c).swallowing = some t → t ∈ d.windows

theorem linksAgree_of_linked {d : Desk} (h : Linked d.linkPart) : LinksAgree d := by
  refine ⟨fun t ht => ?_, fun c hc c' hc' t hct hct' => ?_, fun c hc t hct => ?_⟩
  · have hmarked := h.links.marked_iff (t := t) (decide_eq_true ht)
    simpa only [Desk.linkPart, decide_eq_true_eq] using hmarked
  · exact h.links.unique c c' t (decide_eq_true hc) (decide_eq_true hc') hct hct'
  · exact of_decide_eq_true (h.links.inside c t (decide_eq_true hc) hct)

theorem linked_init (env : Setup) : Linked (init env).desk.linkPart where
  links := ⟨fun _ h => (by cases h), fun _ _ _ h => (by cases h), fun _ _ h => (by cases h)⟩
  created w h := by rcases h with h | h <;> cases h
  mapped_created _ _ h := by cases h
  x11 _ _ := ⟨rfl, rfl⟩
  surface _ h := by cases h
  mapped _ _ h := by cases h
  roles _ _ _ _ h := by cases h

open Transition

/-- **The two ends of the links agree all along a run in which no window swallows twice.** -/
theorem swallow_links (env : Setup) (es : List Event)
    (h : Guarded step SwallowsOnce (init env) es) :
    Always step (fun s => LinksAgree s.desk) (init env) es :=
  (h.always (I := fun s => Linked s.desk.linkPart) (fun _ _ hs hg => linked_step hs hg)
    (linked_init env)).mono fun _ hs => linksAgree_of_linked hs

/-- A program hides its terminal, becomes a dialog, and exits. -/
theorem swallow_links_plain :
    Always step (fun s => LinksAgree s.desk) (init terminalSetup)
      (swallowRun ++ [.client_update 1 { processClient "mpv" 11 8 with parent := some 10 },
        .parent_changed 11, .commit 11 true, .toplevel_destroyed 11]) :=
  swallow_links _ _ (by decide +kernel)

/-- A terminal started from a terminal; the program it runs hides it, then gets a parent. -/
def nestedRun : List Event :=
  [.output_added 0 (plainOutput "A"),
    .processes fun p => if p = 9 then some 8 else if p = 8 then some 7 else none,
    .new_toplevel 0 (processClient "foot" 10 7), .commit 10 true,
    .new_toplevel 1 (processClient "foot" 11 8), .commit 11 true,
    .new_toplevel 2 (processClient "mpv" 12 9), .commit 12 true,
    .client_update 2 { processClient "mpv" 12 9 with parent := some 10 },
    .parent_changed 12, .commit 12 true]

/-- The rules run again and the program hides the outer terminal as well; nothing brings the inner
one back. -/
theorem not_swallow_links :
    ¬∀ env es, Always step (fun s => LinksAgree s.desk) (init env) es := by
  intro h
  have hend := (h terminalSetup nestedRun).last
  have hwindows : (run step (init terminalSetup) nestedRun).desk.windows = [2, 1, 0] := by
    decide +kernel
  have hhidden : ((run step (init terminalSetup) nestedRun).desk.st 1).is_swallowed = true := by
    decide +kernel
  have hnone : ∀ c ∈ [2, 1, 0],
      ((run step (init terminalSetup) nestedRun).desk.st c).swallowing ≠ some 1 := by
    decide +kernel
  have hone := (hend.hidden 1 (by rw [hwindows]; decide)).1 hhidden
  obtain ⟨c, ⟨hc, hct⟩, -⟩ := hone
  rw [hwindows] at hc
  exact hnone c hc hct

end Rwl

end Compositor
