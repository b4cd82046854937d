import Mathlib.Tactic.Common
import Rwl.Lib.Forest
import Rwl.Lib.Run
import Rwl.Core.Geometry
import Rwl.Core.Window

/-!
# The popup manager

* `PopupManager`: what the surfaces are, the tree of popups of each root, the grabs of the seat;
* `find_popup_root_surface`, `add_popup`, `track_popup`, `commit`: popups come into a tree;
* `iter_popups`, `popups_for_surface`: what is drawn of a tree, from front to back;
* `dismiss_popup`, `cleanup`: popups leave their tree;
* `grab_popup`, `ungrab`: the explicit grabs;
* `Event`, `step`: everything that clients and the compositor do with popups.

The popups are xdg popups; a surface becomes a popup at most once.
-/

namespace Compositor

/-- `PopupGrabError`, without the error of an input method. -/
inductive PopupGrabError
  | DeadResource
  | ParentDismissed
  | NotTheTopmostPopup
  deriving DecidableEq

/-- The state of `PopupManager`, of the surfaces it looks at and of the grabs of the seat. -/
structure PopupManager where
  -- the surfaces: `PopupSurface::alive` and `WlSurface::alive`, `get_role`, the parent in the role
  alive : SurfaceId → Bool
  is_popup : SurfaceId → Bool
  parent : SurfaceId → Option SurfaceId
  -- every popup made so far
  known : List SurfaceId
  -- the manager: `popup_trees` are the roots whose tree is registered
  unmapped_popups : List SurfaceId
  tree : SurfaceId → Forest SurfaceId
  popup_trees : List SurfaceId
  -- `PopupGrabInternal`, and the root of the last grab that was taken
  active_grabs : List SurfaceId
  dismissed_grabs : List SurfaceId
  grab_serial : Option ℕ
  grab_root : Option SurfaceId
  -- the events `popup_done` that were sent, and the errors `NotTheTopmostPopup`: for a popup whose
  -- parent was destroyed, and for a grab that is refused
  popup_done : List SurfaceId
  orphaned : List SurfaceId
  refused : List SurfaceId
  -- the compositor is in a loop that does not end
  hung : Bool

namespace PopupManager

/-- Nothing is there but the surfaces `root`. -/
def init (root : SurfaceId → Bool) : PopupManager where
  alive := root
  is_popup _ := false
  parent _ := none
  known := []
  unmapped_popups := []
  tree _ := .nil
  popup_trees := []
  active_grabs := []
  dismissed_grabs := []
  grab_serial := none
  grab_root := none
  popup_done := []
  orphaned := []
  refused := []
  hung := false

variable (m : PopupManager)

/-! ### Popups come into a tree -/

/-- The loop of `find_popup_root_surface`, for at most `n` turns: the surface that is no popup, if
the walk does not end at a popup that has lost its parent. -/
def rootLoop : ℕ → SurfaceId → Option (Option SurfaceId)
  | 0, _ => none
  | n + 1, f =>
      if m.is_popup f then
        match m.parent f with
        | some g => rootLoop n g
        | none => some none
      else some (some f)

/-- `find_popup_root_surface`; a walk of more turns than there are popups does not end. -/
def find_popup_root_surface (p : SurfaceId) : Option (Option SurfaceId) :=
  match m.parent p with
  | none => some none
  | some f => m.rootLoop (m.known.length + 1) f

/-- `PopupTree::insert`: below the parent if the tree has it, else as a new child of the root. -/
def insert (f : Forest SurfaceId) (p q : SurfaceId) : Forest SurfaceId :=
  (f.graft q p).getD (f.push p)

/-- `add_popup`; a tree that is not registered is. -/
def add_popup (p : SurfaceId) : PopupManager :=
  match m.parent p, m.find_popup_root_surface p with
  | _, none => { m with hung := true }
  | none, _ | _, some none => m
  | some q, some (some r) =>
      { m with
        tree := Function.update m.tree r (insert (m.tree r) p q)
        popup_trees := if r ∈ m.popup_trees then m.popup_trees else m.popup_trees ++ [r] }

/-- `track_popup`. -/
def track_popup (p : SurfaceId) : PopupManager :=
  if (m.parent p).isSome then m.add_popup p
  else { m with unmapped_popups := m.unmapped_popups ++ [p] }

/-- `xdg_surface.get_popup`: the surface gets its role, with the parent in its data. -/
def give_role (p : SurfaceId) (parent : Option SurfaceId) : PopupManager :=
  { m with
    alive := Function.update m.alive p true
    is_popup := Function.update m.is_popup p true
    parent := Function.update m.parent p parent
    known := p :: m.known }

/-- `xdg_surface.get_popup`, and `new_popup`. -/
def get_popup (p : SurfaceId) (parent : Option SurfaceId) : PopupManager :=
  (m.give_role p parent).track_popup p

/-- `zwlr_layer_surface_v1.get_popup`. -/
def layer_get_popup (r p : SurfaceId) : PopupManager :=
  { m with parent := Function.update m.parent p (some r) }

/-- `Vec::swap_remove` of the entry of a popup. -/
def swap_remove (l : List SurfaceId) (p : SurfaceId) : List SurfaceId :=
  match l.getLast? with
  | none => l
  | some last =>
      if last = p then l.dropLast else l.dropLast.map fun x => if x = p then last else x

/-- `PopupManager::commit`. -/
def commit (p : SurfaceId) : PopupManager :=
  if m.is_popup p ∧ p ∈ m.unmapped_popups then
    ({ m with unmapped_popups := swap_remove m.unmapped_popups p } : PopupManager).add_popup p
  else m

/-! ### What is drawn -/

/-- `iter_popups_relative_to`, over the children of a node at `loc`: from the newest to the oldest,
each after its children; `location` is where a popup is on its parent. -/
def iter_popups (alive : SurfaceId → Bool) (location : SurfaceId → Point) (loc : Point) :
    Forest SurfaceId → List (SurfaceId × Point)
  | .nil => []
  | .node p children newer =>
      iter_popups alive location loc newer ++
        if alive p then
          let at_ : Point := ⟨loc.x + (location p).x, loc.y + (location p).y⟩
          iter_popups alive location at_ children ++ [(p, at_)]
        else []

/-- `popups_for_surface`. -/
def popups_for_surface (location : SurfaceId → Point) (r : SurfaceId) : List (SurfaceId × Point) :=
  iter_popups m.alive location ⟨0, 0⟩ (m.tree r)

/-! ### Popups leave their tree -/

/-- `dismiss_popup` of the tree of `r`: the popup and all on it are told and taken out. -/
def dismiss_popup (r p : SurfaceId) : PopupManager :=
  let (cut, f) := (m.tree r).uproot p
  { m with
    tree := Function.update m.tree r f
    -- the event of a popup that is destroyed goes nowhere
    popup_done := m.popup_done ++ cut.filter m.alive }

/-- The popups of a tree that are told by `cleanup_and_get_alive` that the popup below them is
gone; `destroyed` says so of the children of this node. -/
def orphans (alive : SurfaceId → Bool) : Bool → Forest SurfaceId → List SurfaceId
  | _, .nil => []
  | destroyed, .node p children rest =>
      (if alive p ∧ destroyed then [p] else []) ++ orphans alive (!alive p) children ++
        orphans alive destroyed rest

/-- `PopupGrabInternal::cleanup`. -/
def cleanup_grabs : PopupManager :=
  { m with
    active_grabs := m.active_grabs.filter m.alive
    dismissed_grabs := (m.dismissed_grabs ++
      m.active_grabs.filter fun g => !m.alive g).filter m.alive }

/-- `PopupManager::cleanup`. The grabs of a seat that are not in the list it goes through are
empty. -/
def cleanup : PopupManager :=
  let cleaned (r : SurfaceId) : Forest SurfaceId :=
    if r ∈ m.popup_trees then (m.tree r).prune m.alive else m.tree r
  { m.cleanup_grabs with
    tree := cleaned
    popup_trees := m.popup_trees.filter fun r => decide (cleaned r ≠ .nil)
    orphaned := m.orphaned ++ m.popup_trees.flatMap fun r => orphans m.alive false (m.tree r)
    unmapped_popups := m.unmapped_popups.filter m.alive }

/-! ### Grabs -/

/-- `current_grab`. -/
def current_grab : Option SurfaceId := m.active_grabs.reverse.find? m.alive

/-- `PopupGrabInner::grab`, for a popup of `parent`. -/
def grab (p parent : SurfaceId) (serial : ℕ) : Except PopupGrabError PopupManager :=
  let m := m.cleanup_grabs
  if m.current_grab.any fun g => decide (g ≠ parent) then
    if parent ∈ m.dismissed_grabs then .error .ParentDismissed else .error .NotTheTopmostPopup
  else .ok { m with active_grabs := m.active_grabs ++ [p], grab_serial := some serial }

/-- `PopupManager::grab_popup`, for a popup of a root that is found. -/
def grab_popup (p : SurfaceId) (serial : ℕ) : PopupManager :=
  match m.parent p, m.find_popup_root_surface p with
  | some parent, some (some root) =>
      match m.grab p parent serial with
      | .ok m => { m with grab_root := some root }
      | .error .ParentDismissed =>
          if m.alive root then m.cleanup_grabs.dismiss_popup root p else m.cleanup_grabs
      | .error .NotTheTopmostPopup =>
          { m.cleanup_grabs with refused := m.refused ++ [p] }
      | .error .DeadResource => m
  | _, none => { m with hung := true }
  | _, _ => m

/-- `ungrab` of all popups, as a press outside of them does. -/
def ungrab : PopupManager :=
  match m.grab_root, m.active_grabs with
  | some root, g :: grabs =>
      if m.alive root then
        { m.dismiss_popup root g with
          active_grabs := []
          dismissed_grabs := m.dismissed_grabs ++ g :: g :: grabs }
      else { m with active_grabs := [] }
  | _, _ => m

/-! ### Events -/

/-- What clients and the compositor do with popups. -/
inductive Event
  | get_popup (p : SurfaceId) (parent : Option SurfaceId)
  | layer_get_popup (r p : SurfaceId)
  | commit (p : SurfaceId)
  -- the client destroys a popup, or the surface of a root
  | popup_destroyed (p : SurfaceId)
  | root_destroyed (r : SurfaceId)
  | grab (p : SurfaceId) (serial : ℕ)
  | ungrab
  | cleanup

/-- The state after one event; after a loop that does not end there is none. -/
def step (m : PopupManager) (e : Event) : PopupManager :=
  if m.hung then m
  else match e with
    | .get_popup p parent => if p ∈ m.known then m else m.get_popup p parent
    | .layer_get_popup r p => m.layer_get_popup r p
    | .commit p => m.commit p
    -- the role data of the surface is made new
    | .popup_destroyed p =>
        { m with
          alive := Function.update m.alive p false
          parent := Function.update m.parent p none }
    | .root_destroyed r => { m with alive := Function.update m.alive r false }
    | .grab p serial => m.grab_popup p serial
    | .ungrab => m.ungrab
    | .cleanup => m.cleanup

end PopupManager

end Compositor
