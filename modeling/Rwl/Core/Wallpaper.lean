import Mathlib.Tactic.Common
import Rwl.Core.Ipc

/-!
# The wallpaper

Which image is behind the windows, and the list of decoded images.

* `WallpaperConfig`, `Setting`, `effective`: the configured paths, and the one shown;
* `Loaded.decode`: the image of a file; a file is its dimensions, if it can be read and decoded;
* `WallpaperState.request_decode`, `decoded`, `receive`: decoding on a thread, whose result comes
  through a channel;
* `WallpaperState.elements`: decoding while a frame is drawn;
* `WallpaperState.step`: one event. Pixels and the placement of the image are left out.
-/

namespace Compositor

/-- The part of the configuration about wallpapers. -/
structure WallpaperConfig where
  /-- The path of each tag. -/
  wallpapers : List (Option Text)
  wallpaper : Option Text
  wallpaper_mode : WallpaperMode

/-- A wallpaper chosen at run time. -/
structure Setting where
  path : Option Text
  mode : WallpaperMode

/-- A decoded image: its path and its size. -/
structure Loaded where
  path : Text
  size : ℕ × ℕ

namespace WallpaperConfig

/-- The paths of the tags and the fallback. -/
def configured_paths (cfg : WallpaperConfig) : List Text :=
  cfg.wallpapers.reduceOption ++ cfg.wallpaper.toList

end WallpaperConfig

namespace Loaded

/-- How many decoded images are kept. -/
def CACHE_CAP : ℕ := 6

/-- Whether the image of a path is among the decoded ones. -/
def cached (cache : List Loaded) (path : Text) : Bool := cache.any fun l => l.path == path

/-- A further image; the oldest one goes if there are enough. -/
def push (cache : List Loaded) (l : Loaded) : List Loaded :=
  (if CACHE_CAP ≤ cache.length then cache.tail else cache) ++ [l]

/-- The image of a file; none if the file is no image, or a dimension does not fit an `i32`. -/
def decode (path : Text) (file : Option (ℕ × ℕ)) : Option Loaded :=
  file.bind fun size => if size.1 < 2 ^ 31 ∧ size.2 < 2 ^ 31 then some ⟨path, size⟩ else none

end Loaded

/-- The state of the wallpapers. -/
structure WallpaperState where
  config : WallpaperConfig
  override : Option Setting
  cache : List Loaded
  /-- The paths that are being decoded on a thread, as far as the main thread knows. -/
  pending : List Text
  /-- The paths whose decoding failed. -/
  failed : List Text
  /-- The paths of the threads that run. -/
  workers : List Text
  /-- The results that were sent and not yet received. -/
  channel : List Loaded
  /-- Whether the receiver of the results was registered; a result is lost otherwise. -/
  registered : Bool

/-- What happens to the wallpapers. -/
inductive WallpaperEvent
  | request_decode (path : Text)
  /-- A thread is done; the file as it has read it. -/
  | decoded (i : ℕ) (file : Option (ℕ × ℕ))
  | receive
  /-- An output that shows these tags is drawn; whether it has a size, and the file as it is. -/
  | elements (tags : ℕ) (sized : Bool) (file : Option (ℕ × ℕ))
  | set_override (path : Option Text) (mode : Option WallpaperMode)
  | preload_configured
  | reload (config : WallpaperConfig)

namespace WallpaperState

/-- The state after `init_decoder`. -/
def start (config : WallpaperConfig) (registered : Bool) : WallpaperState where
  config := config
  override := none
  cache := []
  pending := []
  failed := []
  workers := []
  channel := []
  registered := registered

/-- The first entry of a visible tag. -/
def tag_entry (cfg : WallpaperConfig) (tags : ℕ) : Option Text :=
  ((cfg.wallpapers.zipIdx.take 32).find? fun x => tags.testBit x.2 && x.1.isSome).bind Prod.fst

/-- The wallpaper of a monitor that shows `tags`. -/
def effective (s : WallpaperState) (tags : ℕ) : Option Text × WallpaperMode :=
  match s.override with
  | some o => (o.path, o.mode)
  | none =>
      match tag_entry s.config tags with
      | some path => (some path, s.config.wallpaper_mode)
      | none => (s.config.wallpaper, s.config.wallpaper_mode)

def set_override (s : WallpaperState) (path : Option Text) (mode : Option WallpaperMode) :
    WallpaperState :=
  let cur_mode := (s.override.map Setting.mode).getD s.config.wallpaper_mode
  { s with override := some ⟨path, mode.getD cur_mode⟩ }

/-- Decode a path on a thread, unless it is decoded, being decoded, or known not to decode. -/
def request_decode (s : WallpaperState) (path : Text) : WallpaperState :=
  if Loaded.cached s.cache path || s.pending.contains path || s.failed.contains path then s
  else { s with pending := s.pending ++ [path], workers := s.workers ++ [path] }

/-- The thread `i` is done: only an image is sent. -/
def decoded (s : WallpaperState) (i : ℕ) (file : Option (ℕ × ℕ)) : WallpaperState :=
  match s.workers[i]? with
  | none => s
  | some path =>
      let sent := if s.registered then (Loaded.decode path file).toList else []
      { s with workers := s.workers.eraseIdx i, channel := s.channel ++ sent }

/-- The callback of the channel, for the first result in it. -/
def receive (s : WallpaperState) : WallpaperState :=
  match s.channel with
  | [] => s
  | dec :: channel =>
      let cache := if Loaded.cached s.cache dec.path then s.cache else Loaded.push s.cache dec
      let pending := s.pending.filter fun x => x != dec.path
      { s with pending := pending, cache := cache, channel := channel }

/-- The image drawn for an output, decoded if need be. -/
def elements (s : WallpaperState) (tags : ℕ) (sized : Bool) (file : Option (ℕ × ℕ)) :
    WallpaperState × Option (Loaded × WallpaperMode) :=
  match s.effective tags with
  | (none, _) => (s, none)
  | (some path, mode) =>
      let drawn (cache : List Loaded) := (cache.find? fun l => l.path == path).bind fun l =>
        if l.size.1 = 0 ∨ l.size.2 = 0 then none else some (l, mode)
      if !sized then (s, none)
      else if Loaded.cached s.cache path then (s, drawn s.cache)
      else if s.failed.contains path then (s, none)
      else
        match Loaded.decode path file with
        | none => ({ s with failed := s.failed ++ [path] }, none)
        | some loaded =>
            let cache := Loaded.push s.cache loaded
            ({ s with cache := cache }, drawn cache)

/-- Decode every configured path. -/
def preload_configured (s : WallpaperState) : WallpaperState :=
  s.config.configured_paths.foldl request_decode s

/-- A reload of the configuration forgets which paths failed. -/
def on_reload (s : WallpaperState) : WallpaperState :=
  let s : WallpaperState := { s with failed := [] }
  s.preload_configured

/-- One event. -/
def step (s : WallpaperState) : WallpaperEvent → WallpaperState
  | .request_decode path => s.request_decode path
  | .decoded i file => s.decoded i file
  | .receive => s.receive
  | .elements tags sized file => (s.elements tags sized file).1
  | .set_override path mode => s.set_override path mode
  | .preload_configured => s.preload_configured
  | .reload config =>
      let s : WallpaperState := { s with config := config }
      s.on_reload

end WallpaperState

end Compositor
