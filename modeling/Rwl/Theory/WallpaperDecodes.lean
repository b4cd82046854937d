import Mathlib.Tactic.Common
import Mathlib.Data.List.Nodup
import Mathlib.Data.List.Perm.Basic
import Rwl.Core.Wallpaper
import Rwl.Lib.Run

/-!
# Which wallpapers are being decoded

* `Running`: a thread decodes the path, or its result is on the way;
* `Bookkept`, `Retried`: what the lists say of the threads and of the images, and what a reload
  starts;
* `Reports`: the decode that ends has an image to send, and can send it;
* `Linked`: what holds of every state; `bookkept_step_iff`: what one event keeps;
* `decodes_kept_iff`: exactly in the runs whose decodes all report, the lists are right.
-/

namespace Compositor

open Transition

/-! ### The decoded images -/

namespace Loaded

/-- At most six images, of different paths. -/
def Tidy (cache : List Loaded) : Prop := cache.length ≤ 6 ∧ (cache.map path).Nodup

theorem cached_iff {cache : List Loaded} {p : Text} :
    cached cache p = true ↔ p ∈ cache.map path := by
  simp [cached]

theorem tidy_push {cache : List Loaded} {l : Loaded} (h : Tidy cache)
    (hl : cached cache l.path ≠ true) : Tidy (push cache l) := by
  rw [Ne, cached_iff] at hl
  -- what stays of the old images
  have hstay (old : List Loaded) (hsub : old.Sublist cache) (hlen : old.length < 6) :
      Tidy (old ++ [l]) := by
    refine ⟨by simp only [List.length_append, List.length_singleton]; omega, ?_⟩
    rw [List.map_append, List.map_cons, List.map_nil]
    refine List.Nodup.append (h.2.sublist (hsub.map path)) (List.nodup_singleton _) ?_
    rw [List.disjoint_singleton]
    exact fun hmem => hl ((hsub.map path).subset hmem)
  have hlen := h.1
  unfold push CACHE_CAP
  split_ifs with hcap
  · refine hstay _ (List.tail_sublist cache) ?_
    rw [List.length_tail]
    omega
  · exact hstay _ (List.Sublist.refl _) (by omega)

theorem decode_path {p : Text} {file : Option (ℕ × ℕ)} {l : Loaded}
    (h : decode p file = some l) : l.path = p := by
  obtain ⟨size, -, hsize⟩ := Option.bind_eq_some_iff.1 h
  split_ifs at hsize
  cases hsize
  rfl

/-- A path decodes if the file is an image and its dimensions fit. -/
theorem decode_isSome_iff {p : Text} {file : Option (ℕ × ℕ)} :
    (∃ l, decode p file = some l) ↔ ∃ size ∈ file, size.1 < 2 ^ 31 ∧ size.2 < 2 ^ 31 := by
  unfold decode
  constructor
  · rintro ⟨l, h⟩
    obtain ⟨size, hfile, hsize⟩ := Option.bind_eq_some_iff.1 h
    split_ifs at hsize with hfits
    exact ⟨size, hfile, hfits⟩
  · rintro ⟨size, hfile, hfits⟩
    exact ⟨⟨p, size⟩, Option.bind_eq_some_iff.2 ⟨size, hfile, if_pos hfits⟩⟩

end Loaded

namespace WallpaperState

/-- A thread decodes the path, or its result is on the way. -/
def Running (s : WallpaperState) (path : Text) : Prop :=
  path ∈ s.workers ++ s.channel.map Loaded.path

/-- A pending path is being decoded, and there are at most six images, of different paths. -/
def Bookkept (s : WallpaperState) : Prop :=
  (∀ path ∈ s.pending, s.Running path) ∧ Loaded.Tidy s.cache

/-- Every configured path is decoded or being decoded. -/
def Retried (s : WallpaperState) : Prop :=
  ∀ path ∈ s.config.configured_paths, path ∈ s.cache.map Loaded.path ∨ s.Running path

/-- A decode that ends on its thread has an image whose dimensions fit an `i32`, and there is a
receiver for it. -/
def Reports (s : WallpaperState) : WallpaperEvent → Prop
  | .decoded i file => i < s.workers.length →
      s.registered = true ∧ ∃ size ∈ file, size.1 < 2 ^ 31 ∧ size.2 < 2 ^ 31
  | _ => True

/-- Every path is decoded once at a time, and is pending then. -/
structure Linked (s : WallpaperState) : Prop where
  once : (s.workers ++ s.channel.map Loaded.path).Nodup
  listed : ∀ path, s.Running path → path ∈ s.pending
  tidy : Loaded.Tidy s.cache

variable {s : WallpaperState}

/-! ### One event -/

/-- A request that does something. -/
theorem request_decode_cases (s : WallpaperState) (path : Text) :
    (s.request_decode path = s ∧
      (path ∈ s.cache.map Loaded.path ∨ path ∈ s.pending ∨ path ∈ s.failed)) ∨
    (s.request_decode path = { s with pending := s.pending ++ [path],
                                      workers := s.workers ++ [path] } ∧ path ∉ s.pending) := by
  unfold request_decode
  split_ifs with h
  · refine .inl ⟨rfl, ?_⟩
    rw [Bool.or_eq_true, Bool.or_eq_true, Loaded.cached_iff, List.contains_iff_mem,
      List.contains_iff_mem, or_assoc] at h
    exact h
  · refine .inr ⟨rfl, fun hmem => h ?_⟩
    rw [Bool.or_eq_true, Bool.or_eq_true, List.contains_iff_mem]
    exact .inl (.inr hmem)

theorem running_snoc (s : WallpaperState) (path p : Text) :
    Running { s with pending := s.pending ++ [path], workers := s.workers ++ [path] } p ↔
      s.Running p ∨ p = path := by
  simp only [Running, List.mem_append, List.mem_singleton]
  tauto

theorem linked_request_decode (hs : s.Linked) (path : Text) :
    (s.request_decode path).Linked := by
  rcases request_decode_cases s path with ⟨h, -⟩ | ⟨h, hnew⟩
  · rw [h]
    exact hs
  · rw [h]
    refine ⟨?_, fun p hp => ?_, hs.tidy⟩
    · show ((s.workers ++ [path]) ++ s.channel.map Loaded.path).Nodup
      have hperm : ((s.workers ++ [path]) ++ s.channel.map Loaded.path).Perm
          (path :: (s.workers ++ s.channel.map Loaded.path)) := by
        rw [List.append_assoc]
        exact List.perm_middle
      exact hperm.nodup_iff.2 (List.nodup_cons.2 ⟨fun hrun => hnew (hs.listed path hrun), hs.once⟩)
    · rcases (running_snoc s path p).1 hp with hp | rfl
      · exact List.mem_append_left _ (hs.listed p hp)
      · exact List.mem_append_right _ (List.mem_singleton_self _)

theorem bookkept_request_decode (hs : s.Bookkept) (path : Text) :
    (s.request_decode path).Bookkept := by
  rcases request_decode_cases s path with ⟨h, -⟩ | ⟨h, -⟩
  · rw [h]
    exact hs
  · rw [h]
    refine ⟨fun p hp => (running_snoc s path p).2 ?_, hs.2⟩
    rcases List.mem_append.1 hp with hp | hp
    · exact .inl (hs.1 p hp)
    · exact .inr (List.mem_singleton.1 hp)

/-- The end of a decode: what was running, without the path of the thread if nothing is sent. -/
theorem decoded_cases (s : WallpaperState) (i : ℕ) (file : Option (ℕ × ℕ)) :
    (s.workers.length ≤ i ∧ s.decoded i file = s) ∨ ∃ path workers sent,
      i < s.workers.length ∧ s.workers.Perm (path :: workers) ∧
      s.decoded i file = { s with workers := workers, channel := s.channel ++ sent } ∧
      ((sent.map Loaded.path = [path] ∧
          s.registered = true ∧ ∃ size ∈ file, size.1 < 2 ^ 31 ∧ size.2 < 2 ^ 31) ∨
        (sent = [] ∧
          ¬ (s.registered = true ∧ ∃ size ∈ file, size.1 < 2 ^ 31 ∧ size.2 < 2 ^ 31))) := by
  by_cases hi : i < s.workers.length
  · right
    refine ⟨s.workers[i], s.workers.eraseIdx i,
      if s.registered then (Loaded.decode s.workers[i] file).toList else [], hi,
      (List.getElem_cons_eraseIdx_perm hi).symm, ?_, ?_⟩
    · unfold decoded
      rw [List.getElem?_eq_getElem hi]
    · by_cases hreg : s.registered = true
      · rw [if_pos hreg]
        cases hdec : Loaded.decode s.workers[i] file with
        | none =>
          refine .inr ⟨rfl, fun hsome => ?_⟩
          obtain ⟨l, hl⟩ := Loaded.decode_isSome_iff.2 hsome.2
          rw [hdec] at hl
          cases hl
        | some l =>
          refine .inl ⟨?_, hreg, Loaded.decode_isSome_iff.1 ⟨l, hdec⟩⟩
          exact congrArg (fun p => [p]) (Loaded.decode_path hdec)
      · rw [if_neg hreg]
        exact .inr ⟨rfl, fun h => hreg h.1⟩
  · left
    rw [not_lt] at hi
    refine ⟨hi, ?_⟩
    unfold decoded
    rw [List.getElem?_eq_none hi]

theorem linked_decoded (hs : s.Linked) (i : ℕ) (file : Option (ℕ × ℕ)) :
    (s.decoded i file).Linked := by
  rcases decoded_cases s i file with ⟨-, h⟩ | ⟨path, workers, sent, -, hperm, h, hsent⟩
  · rw [h]
    exact hs
  · have hwas : (s.workers ++ s.channel.map Loaded.path).Perm
        (path :: (workers ++ s.channel.map Loaded.path)) := hperm.append_right _
    have honce := hwas.nodup_iff.1 hs.once
    have hnow : (workers ++ (s.channel ++ sent).map Loaded.path).Nodup ∧
        workers ++ (s.channel ++ sent).map Loaded.path ⊆
          s.workers ++ s.channel.map Loaded.path := by
      rw [List.map_append, ← List.append_assoc]
      rcases hsent with ⟨hsent, -⟩ | ⟨hsent, -⟩
      · rw [hsent]
        have hperm' := List.perm_append_singleton path (workers ++ s.channel.map Loaded.path)
        exact ⟨hperm'.nodup_iff.2 honce, (hperm'.trans hwas.symm).subset⟩
      · rw [hsent, List.map_nil, List.append_nil]
        exact ⟨(List.nodup_cons.1 honce).2,
          fun p hp => hwas.mem_iff.2 (List.mem_cons_of_mem _ hp)⟩
    rw [h]
    exact ⟨hnow.1, fun p hp => hs.listed p (hnow.2 hp), hs.tidy⟩

/-- The end of a decode keeps the pending paths right exactly if the decode reports. -/
theorem bookkept_decoded_iff (hl : s.Linked) (hs : s.Bookkept) (i : ℕ)
    (file : Option (ℕ × ℕ)) : (s.decoded i file).Bookkept ↔ s.Reports (.decoded i file) := by
  rcases decoded_cases s i file with ⟨hi, h⟩ | ⟨path, workers, sent, hi, hperm, h, hsent⟩
  · rw [h]
    exact iff_of_true hs fun hlt => absurd hlt (by omega)
  · have hwas : (s.workers ++ s.channel.map Loaded.path).Perm
        (path :: (workers ++ s.channel.map Loaded.path)) := hperm.append_right _
    rw [h]
    rcases hsent with ⟨hsent, hrep⟩ | ⟨hsent, hrep⟩
    · refine iff_of_true ⟨fun p hp => ?_, hs.2⟩ fun _ => hrep
      show p ∈ workers ++ (s.channel ++ sent).map Loaded.path
      rw [List.map_append, ← List.append_assoc, hsent]
      exact ((List.perm_append_singleton _ _).trans hwas.symm).mem_iff.2 (hs.1 p hp)
    · refine iff_of_false (fun hb => ?_) fun hr => hrep (hr hi)
      -- the path of the thread stays pending and nothing decodes it
      have hrun : s.Running path := hwas.mem_iff.2 List.mem_cons_self
      have hnow : path ∈ workers ++ (s.channel ++ sent).map Loaded.path :=
        hb.1 path (hl.listed path hrun)
      rw [hsent, List.append_nil] at hnow
      exact (List.nodup_cons.1 (hwas.nodup_iff.1 hl.once)).1 hnow

theorem linked_receive (hs : s.Linked) : s.receive.Linked := by
  unfold receive
  cases hc : s.channel with
  | nil => exact hs
  | cons dec channel =>
    have hwas : (s.workers ++ s.channel.map Loaded.path).Perm
        (dec.path :: (s.workers ++ channel.map Loaded.path)) := by
      rw [hc]
      exact List.perm_middle
    have honce := List.nodup_cons.1 (hwas.nodup_iff.1 hs.once)
    refine ⟨honce.2, fun p hp => ?_, ?_⟩
    · have hne : p ≠ dec.path := fun h => honce.1 (h ▸ hp)
      have hrun : s.Running p := hwas.mem_iff.2 (List.mem_cons_of_mem _ hp)
      exact List.mem_filter.2 ⟨hs.listed p hrun, bne_iff_ne.2 hne⟩
    · show Loaded.Tidy (if Loaded.cached s.cache dec.path = true then s.cache else _)
      split_ifs with hin
      · exact hs.tidy
      · exact Loaded.tidy_push hs.tidy hin

theorem bookkept_receive (hl : s.Linked) (hs : s.Bookkept) : s.receive.Bookkept := by
  refine ⟨?_, (linked_receive hl).tidy⟩
  unfold receive
  cases hc : s.channel with
  | nil => exact hs.1
  | cons dec channel =>
    intro p hp
    obtain ⟨hp, hne⟩ := List.mem_filter.1 hp
    have hrun := hs.1 p hp
    unfold Running at hrun
    rw [hc] at hrun
    rcases List.mem_cons.1 ((List.perm_middle).mem_iff.1 hrun) with rfl | hrun
    · exact absurd rfl (bne_iff_ne.1 hne)
    · exact hrun

/-- Drawing a frame changes the images and what failed. -/
theorem elements_cases (hs : Loaded.Tidy s.cache) (tags : ℕ) (sized : Bool)
    (file : Option (ℕ × ℕ)) : ∃ cache failed, Loaded.Tidy cache ∧
      (s.elements tags sized file).1 = { s with cache := cache, failed := failed } := by
  unfold elements
  rcases s.effective tags with ⟨_ | path, mode⟩
  · exact ⟨_, _, hs, rfl⟩
  · simp only
    split_ifs with hsized hin hfailed
    · exact ⟨_, _, hs, rfl⟩
    · exact ⟨_, _, hs, rfl⟩
    · exact ⟨_, _, hs, rfl⟩
    · cases hdec : Loaded.decode path file with
      | none => exact ⟨_, _, hs, rfl⟩
      | some l =>
        have hnew : Loaded.cached s.cache l.path ≠ true := by
          rw [Loaded.decode_path hdec]
          exact hin
        exact ⟨_, _, Loaded.tidy_push hs hnew, rfl⟩

/-! ### Requests one after another -/

theorem linked_requests (hs : s.Linked) (paths : List Text) :
    (paths.foldl request_decode s).Linked := by
  induction paths generalizing s with
  | nil => exact hs
  | cons path paths ih => exact ih (linked_request_decode hs path)

theorem bookkept_requests (hs : s.Bookkept) (paths : List Text) :
    (paths.foldl request_decode s).Bookkept := by
  induction paths generalizing s with
  | nil => exact hs
  | cons path paths ih => exact ih (bookkept_request_decode hs path)

/-- Requests leave all but the pending paths and the threads alone, and take no pending path. -/
theorem requests_cases (s : WallpaperState) (paths : List Text) : ∃ pending workers,
    paths.foldl request_decode s = { s with pending := pending, workers := workers } ∧
      s.pending ⊆ pending ∧
      (s.failed = [] → ∀ path ∈ paths, path ∈ s.cache.map Loaded.path ∨ path ∈ pending) := by
  induction paths generalizing s with
  | nil => exact ⟨_, _, rfl, List.Subset.refl _, fun _ _ h => nomatch h⟩
  | cons path paths ih =>
    obtain ⟨pending, workers, h, hsub, hall⟩ := ih (s.request_decode path)
    rw [List.foldl_cons, h]
    rcases request_decode_cases s path with ⟨hreq, hold⟩ | ⟨hreq, -⟩
    · rw [hreq] at hsub hall ⊢
      refine ⟨pending, workers, rfl, hsub, fun hf p hp => ?_⟩
      rcases List.mem_cons.1 hp with rfl | hp
      · rcases hold with hin | hin | hin
        · exact .inl hin
        · exact .inr (hsub hin)
        · rw [hf] at hin
          cases hin
      · exact hall hf p hp
    · rw [hreq] at hsub hall ⊢
      refine ⟨pending, workers, rfl, fun p hp => hsub (List.mem_append_left _ hp),
        fun hf p hp => ?_⟩
      rcases List.mem_cons.1 hp with rfl | hp
      · exact .inr (hsub (List.mem_append_right _ (List.mem_singleton_self _)))
      · exact hall hf p hp

/-! ### Whole runs -/

theorem linked_step (hs : s.Linked) (e : WallpaperEvent) : (s.step e).Linked := by
  cases e with
  | request_decode path => exact linked_request_decode hs path
  | decoded i file => exact linked_decoded hs i file
  | receive => exact linked_receive hs
  | elements tags sized file =>
    obtain ⟨cache, failed, htidy, h⟩ := elements_cases hs.tidy tags sized file
    show (s.elements tags sized file).1.Linked
    rw [h]
    exact ⟨hs.once, hs.listed, htidy⟩
  | set_override path mode => exact ⟨hs.once, hs.listed, hs.tidy⟩
  | preload_configured => exact linked_requests hs _
  | reload config =>
    exact linked_requests (s := { s with config := config, failed := [] })
      ⟨hs.once, hs.listed, hs.tidy⟩ _

/-- One event keeps the lists right exactly if a decode that ends in it reports. -/
theorem bookkept_step_iff (e : WallpaperEvent) (hl : s.Linked) (hs : s.Bookkept) :
    (s.step e).Bookkept ↔ s.Reports e := by
  cases e with
  | request_decode path => exact iff_of_true (bookkept_request_decode hs path) trivial
  | decoded i file => exact bookkept_decoded_iff hl hs i file
  | receive => exact iff_of_true (bookkept_receive hl hs) trivial
  | elements tags sized file =>
    obtain ⟨cache, failed, htidy, h⟩ := elements_cases hl.tidy tags sized file
    refine iff_of_true ?_ trivial
    show (s.elements tags sized file).1.Bookkept
    rw [h]
    exact ⟨hs.1, htidy⟩
  | set_override path mode => exact iff_of_true hs trivial
  | preload_configured => exact iff_of_true (bookkept_requests hs _) trivial
  | reload config =>
    refine iff_of_true ?_ trivial
    exact bookkept_requests (s := { s with config := config, failed := [] }) hs _

theorem retried_reload {config : WallpaperConfig}
    (h : (s.step (.reload config)).Bookkept) : (s.step (.reload config)).Retried := by
  obtain ⟨pending, workers, hreq, -, hall⟩ :=
    requests_cases { s with config := config, failed := [] } config.configured_paths
  have hstep : s.step (.reload config) =
      { s with config := config, failed := [], pending := pending, workers := workers } := hreq
  rw [hstep] at h ⊢
  intro path hpath
  exact (hall rfl path hpath).imp_right (h.1 path)

theorem linked_start (config : WallpaperConfig) (registered : Bool) :
    (start config registered).Linked :=
  ⟨List.nodup_nil, fun _ h => (nomatch h), Nat.zero_le _, List.nodup_nil⟩

/-- Pending paths and images are right all along exactly the runs whose decodes all report. -/
theorem bookkept_iff (config : WallpaperConfig) (registered : Bool) (es : List WallpaperEvent) :
    Always step Bookkept (start config registered) es ↔
      Guarded step Reports (start config registered) es :=
  always_iff_guarded (fun _ e hl _ => linked_step hl e) (fun _ e hl hs => bookkept_step_iff e hl hs)
    (linked_start config registered) ⟨fun _ h => (nomatch h), Nat.zero_le _, List.nodup_nil⟩

/-- In every state a pending path is being decoded and there are at most six images, of different
paths, and after a reload every configured path is decoded or being decoded. -/
def DecodesKept (s : WallpaperState) (es : List WallpaperEvent) : Prop :=
  Always step Bookkept s es ∧ ∀ pre config post, es = pre ++ .reload config :: post →
    (run step s (pre ++ [.reload config])).Retried

/-- The lists are right all along a run, and a reload starts what is missing, exactly if every
decode that ends on its thread has an image it can send. -/
theorem decodes_kept_iff (config : WallpaperConfig) (registered : Bool)
    (es : List WallpaperEvent) :
    DecodesKept (start config registered) es ↔
      Guarded step Reports (start config registered) es := by
  refine ⟨fun h => (bookkept_iff config registered es).1 h.1, fun h => ?_⟩
  refine ⟨(bookkept_iff config registered es).2 h, ?_⟩
  rintro pre config' post rfl
  have hcut : Guarded step Reports (start config registered) (pre ++ [.reload config']) := by
    rw [List.append_cons] at h
    exact (guarded_append.1 h).1
  have hlast := ((bookkept_iff config registered _).2 hcut).last
  rw [run_concat] at hlast ⊢
  exact retried_reload hlast

/-! ### A wallpaper that appears late -/

/-- One wallpaper for all tags. -/
def oneWallpaper : WallpaperConfig := ⟨[], some "sea.png".toList, .Fill⟩

/-- The file is missing at the start; when it is there, the reload does not decode it. -/
theorem not_decodes_kept : ¬ ∀ es : List WallpaperEvent,
    DecodesKept (start oneWallpaper true) es := by
  intro h
  have hlate := (h [.preload_configured, .decoded 0 none, .reload oneWallpaper]).2
    [.preload_configured, .decoded 0 none] oneWallpaper [] rfl "sea.png".toList (by decide)
  revert hlate
  unfold Running
  decide +kernel

end WallpaperState

end Compositor
