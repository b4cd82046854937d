import Mathlib.Tactic.Common
import Rwl.Core.Ipc

/-!
# Arguments of `rwl msg`

The client joins its arguments into one line and the server takes the words of that line, so the
arguments arrive as they were given exactly when each of them is a word and the line is not cut
short.

* `words_received`: what the server has of a joined line;
* `Fits`: the line is not longer than the server reads;
* `spawn_iff`, `wallpaper_iff`: when `spawn` and `wallpaper` do what their arguments say.
-/

namespace Compositor

/-- The server reads the whole line of these arguments. -/
def Fits (args : List Text) : Prop := (Text.bytes (Text.join args)).length ≤ MAX_CMD_BYTES

instance (args : List Text) : Decidable (Fits args) := inferInstanceAs (Decidable (_ ≤ _))

theorem receive_of_fits {args : List Text} (h : Fits args) :
    receive (Text.bytes (Text.join args)) = some (Text.join args) := by
  unfold receive
  rw [List.take_of_length_le h, Text.from_utf8_bytes]

/-- What is read is not more than what was sent, and no more than the server reads. -/
theorem length_of_receive {b : List UInt8} {buf : Text} (h : receive b = some buf) :
    Text.bytes buf = b.take MAX_CMD_BYTES := Text.bytes_of_from_utf8 h

/-- A line whose words begin with all the arguments was not cut short. -/
theorem fits_of_words {args rest : List Text} {buf : Text}
    (h : receive (Text.bytes (Text.join args)) = some buf)
    (hwords : Text.split_whitespace buf = args ++ rest) :
    Fits args ∧ buf = Text.join args := by
  have hbuf := length_of_receive h
  have hlen : (Text.bytes (Text.join args)).length ≤ (Text.bytes buf).length := by
    have hwhole := Text.length_bytes_join_words buf
    obtain ⟨more, hmore⟩ := Split.intercalate_prefix [' '] args rest
    have hjoin : Text.join (args ++ rest) = Text.join args ++ more := hmore.symm
    rw [hwords, hjoin, Text.bytes_append, List.length_append] at hwhole
    omega
  have hcap : (Text.bytes (Text.join args)).length ≤ MAX_CMD_BYTES := by
    rw [hbuf, List.length_take] at hlen
    omega
  refine ⟨hcap, ?_⟩
  rw [receive_of_fits hcap] at h
  exact (Option.some.inj h).symm

/-! ### From the arguments to the command -/

/-- `msg` for a command whose line is its arguments. -/
theorem msg_eq_some {args : List Text} {c : WmCommand} (hrun : run_wm args = some (Text.join args))
    (h : msg args = some c) : ∃ buf, receive (Text.bytes (Text.join args)) = some buf ∧
      cmd_dispatch (Text.split_whitespace buf) = some c := by
  unfold msg at h
  rw [hrun, Option.bind_some] at h
  obtain ⟨buf, hbuf, hcmd⟩ := Option.bind_eq_some_iff.1 h
  refine ⟨buf, hbuf, ?_⟩
  cases hreq : cmd_handle buf with
  | command words =>
    rw [hreq] at hcmd
    rw [← words_of_cmd_handle hreq]
    exact hcmd
  | subscribe filter =>
    rw [hreq] at hcmd
    cases hcmd
  | watch filter =>
    rw [hreq] at hcmd
    cases hcmd

/-- Words that fit arrive as they were given. -/
theorem msg_of_words {cmd : Text} {args : List Text}
    (hrun : run_wm (cmd :: args) = some (Text.join (cmd :: args)))
    (hsub : cmd ≠ "subscribe".toList) (hwatch : cmd ≠ "watch".toList)
    (hwords : ∀ a ∈ cmd :: args, Text.IsWord a) (hfits : Fits (cmd :: args)) :
    msg (cmd :: args) = cmd_dispatch (cmd :: args) := by
  have hsplit : Text.split_whitespace (Text.join (cmd :: args)) = cmd :: args :=
    (Split.tokens_intercalate_iff (by decide) _).2 hwords
  unfold msg
  rw [hrun, Option.bind_some, receive_of_fits hfits, Option.bind_some, cmd_handle_eq_command]
  · rw [hsplit]
  · rw [hsplit, List.head?_cons]
    exact fun h => hsub (Option.some.inj h)
  · rw [hsplit, List.head?_cons]
    exact fun h => hwatch (Option.some.inj h)

/-! ### `spawn` -/

theorem run_wm_spawn {args : List Text} (hne : args ≠ []) :
    run_wm ("spawn".toList :: args) = some (Text.join ("spawn".toList :: args)) := by
  unfold run_wm
  dsimp only
  rw [if_neg (by decide), if_neg (by decide), if_neg (by decide), if_pos ⟨by decide, hne⟩]

theorem cmd_dispatch_eq_spawn {words args : List Text} :
    cmd_dispatch words = some (.spawn args) ↔ words = "spawn".toList :: args ∧ args ≠ [] := by
  constructor
  · intro h
    cases words with
    | nil => cases h
    | cons cmd rest =>
      unfold cmd_dispatch at h
      dsimp only at h
      split_ifs at h with hstatus hspawn hrest hwall
      · cases h
      · obtain rfl := hspawn
        cases h
        exact ⟨rfl, hrest⟩
      · cases rest with
        | nil => cases h
        | cons path rest =>
          dsimp only at h
          split_ifs at h <;> cases h
  · rintro ⟨rfl, hne⟩
    unfold cmd_dispatch
    dsimp only
    rw [if_neg (by decide), if_pos rfl, if_neg hne]

/-- `spawn` runs exactly its arguments when each is a word and the line is read whole. -/
theorem spawn_iff (args : List Text) :
    msg ("spawn".toList :: args) = some (.spawn args) ↔
      args ≠ [] ∧ (∀ a ∈ args, Text.IsWord a) ∧ Fits ("spawn".toList :: args) := by
  have hspawn : Text.IsWord "spawn".toList := by decide
  constructor
  · intro h
    have hne : args ≠ [] := by
      rintro rfl
      exact absurd h (by decide)
    obtain ⟨buf, hbuf, hcmd⟩ := msg_eq_some (run_wm_spawn hne) h
    have hsplit := (cmd_dispatch_eq_spawn.1 hcmd).1
    obtain ⟨hfits, rfl⟩ := @fits_of_words _ [] _ hbuf (by rw [hsplit, List.append_nil])
    have hwords := (Split.tokens_intercalate_iff (by decide) _).1 hsplit
    exact ⟨hne, fun a ha => hwords a (List.mem_cons_of_mem _ ha), hfits⟩
  · rintro ⟨hne, hwords, hfits⟩
    rw [msg_of_words (run_wm_spawn hne) (by decide) (by decide) _ hfits]
    · exact cmd_dispatch_eq_spawn.2 ⟨rfl, hne⟩
    · intro a ha
      rcases List.mem_cons.1 ha with rfl | ha
      · exact hspawn
      · exact hwords a ha

/-! ### `wallpaper` -/

/-- What clears the wallpaper. -/
def wallpaperOff : List Text := ["off".toList, "none".toList, "clear".toList]

namespace WallpaperMode

theorem parse_name (m : WallpaperMode) : parse m.name = some m := by
  cases m <;> decide

theorem parse_eq_some {s : Text} {m : WallpaperMode} (h : parse s = some m) : m.name = s := by
  unfold parse at h
  split_ifs at h with h₁ h₂ h₃ h₄ <;> cases h
  · exact h₁.symm
  · exact h₂.symm
  · exact h₃.symm
  · exact h₄.symm

theorem isWord_name (m : WallpaperMode) : Text.IsWord m.name := by
  cases m <;> decide

end WallpaperMode

theorem cmd_dispatch_eq_wallpaper {words : List Text} {path : Text} {mode : WallpaperMode} :
    cmd_dispatch words = some (.set_override (some path) (some mode)) ↔
      path ∉ wallpaperOff ∧ ∃ rest, words = "wallpaper".toList :: path :: mode.name :: rest := by
  constructor
  · intro h
    cases words with
    | nil => cases h
    | cons cmd args =>
      unfold cmd_dispatch at h
      dsimp only at h
      split_ifs at h with hstatus hspawn hargs hwall
      · cases h
      · cases h
      · obtain rfl := hwall
        cases args with
        | nil => cases h
        | cons p rest =>
          dsimp only at h
          split_ifs at h with hoff
          · cases h
          · obtain ⟨hp, hm⟩ := WmCommand.set_override.inj (Option.some.inj h)
            obtain rfl := Option.some.inj hp
            obtain ⟨m, hhead, hparse⟩ := Option.bind_eq_some_iff.1 hm
            obtain ⟨rest', rfl⟩ := List.head?_eq_some_iff.1 hhead
            rw [WallpaperMode.parse_eq_some hparse]
            exact ⟨hoff, rest', rfl⟩
  · rintro ⟨hoff, rest, rfl⟩
    unfold cmd_dispatch
    dsimp only
    rw [if_neg (by decide), if_neg (by decide), if_pos rfl]
    refine (if_neg hoff).trans ?_
    rw [List.head?_cons, Option.bind_some, WallpaperMode.parse_name]

theorem run_wm_wallpaper (path mode : Text) :
    run_wm ["wallpaper".toList, path, mode] =
      some (Text.join ["wallpaper".toList, path, mode]) := by
  unfold run_wm
  dsimp only
  rw [if_neg (by decide), if_neg (by decide), if_neg (by decide),
    if_pos ⟨by decide, List.cons_ne_nil _ _⟩]

/-- `wallpaper` sets exactly its path and mode when the path is a word and no keyword, the mode is
one that is known, and the line is read whole. -/
theorem wallpaper_iff (path : Text) (mode : WallpaperMode) :
    msg ["wallpaper".toList, path, mode.name] = some (.set_override (some path) (some mode)) ↔
      Text.IsWord path ∧ path ∉ wallpaperOff ∧ Fits ["wallpaper".toList, path, mode.name] := by
  have hcmd : Text.IsWord "wallpaper".toList := by decide
  constructor
  · intro h
    obtain ⟨buf, hbuf, hdispatch⟩ := msg_eq_some (run_wm_wallpaper path mode.name) h
    obtain ⟨hoff, rest, hsplit⟩ := cmd_dispatch_eq_wallpaper.1 hdispatch
    obtain ⟨hfits, rfl⟩ := @fits_of_words _ rest _ hbuf (by rw [hsplit]; rfl)
    refine ⟨?_, hoff, hfits⟩
    -- the path is a token of the line
    have hmem : path ∈ Split.tokens Text.is_whitespace
        (Text.join ["wallpaper".toList, path, mode.name]) := by
      change path ∈ Text.split_whitespace _
      rw [hsplit]
      simp
    exact Split.word_of_mem_tokens hmem
  · rintro ⟨hpath, hoff, hfits⟩
    rw [msg_of_words (run_wm_wallpaper path mode.name) (by decide) (by decide) _ hfits]
    · exact cmd_dispatch_eq_wallpaper.2 ⟨hoff, [], rfl⟩
    · intro a ha
      simp only [List.mem_cons, List.not_mem_nil, or_false] at ha
      rcases ha with rfl | rfl | rfl
      · exact hcmd
      · exact hpath
      · exact mode.isWord_name

/-- The modes, as they are written. -/
def modeNames : List Text := ["fill".toList, "fit".toList, "stretch".toList, "center".toList]

theorem mem_modeNames {m : Text} : m ∈ modeNames ↔ ∃ mode : WallpaperMode, mode.name = m := by
  constructor
  · intro h
    simp only [modeNames, List.mem_cons, List.not_mem_nil, or_false] at h
    rcases h with rfl | rfl | rfl | rfl
    · exact ⟨.Fill, rfl⟩
    · exact ⟨.Fit, rfl⟩
    · exact ⟨.Stretch, rfl⟩
    · exact ⟨.Center, rfl⟩
  · rintro ⟨mode, rfl⟩
    cases mode <;> decide

/-- **The arguments of `spawn` and `wallpaper` make their round trip exactly when they are words
the commands have no other use for, on a line that is read whole.** -/
theorem msg_round_trip :
    (∀ args, msg ("spawn".toList :: args) = some (.spawn args) ↔
      args ≠ [] ∧ (∀ a ∈ args, Text.IsWord a) ∧ Fits ("spawn".toList :: args)) ∧
    ∀ path m : Text, (∃ mode : WallpaperMode, mode.name = m ∧
        msg ["wallpaper".toList, path, m] = some (.set_override (some path) (some mode))) ↔
      Text.IsWord path ∧ path ∉ wallpaperOff ∧ m ∈ modeNames ∧
        Fits ["wallpaper".toList, path, m] := by
  refine ⟨spawn_iff, fun path m => ?_⟩
  constructor
  · rintro ⟨mode, rfl, h⟩
    obtain ⟨hpath, hoff, hfits⟩ := (wallpaper_iff path mode).1 h
    exact ⟨hpath, hoff, mem_modeNames.2 ⟨mode, rfl⟩, hfits⟩
  · rintro ⟨hpath, hoff, hm, hfits⟩
    obtain ⟨mode, rfl⟩ := mem_modeNames.1 hm
    exact ⟨mode, rfl, (wallpaper_iff path mode).2 ⟨hpath, hoff, hfits⟩⟩

/-- An argument with a space in it arrives as two. -/
theorem not_msg_round_trip :
    ¬∀ args, args ≠ [] → msg ("spawn".toList :: args) = some (.spawn args) := by
  intro h
  exact absurd (h ["notify-send".toList, "two words".toList] (by decide)) (by decide +kernel)

end Compositor
