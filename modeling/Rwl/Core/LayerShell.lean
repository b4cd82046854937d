import Rwl.Core.Desk
import Rwl.Core.Numbers

/-!
# Layer surfaces

The layer surfaces of one output, from the requests of their clients to their place on it.

* `Serial`, `next_serial`: the numbers of the configures, which wrap;
* `Anchor`, `ExclusiveZone`, `Margins`, `LayerSurfaceCachedState`: what a client asks for;
* `LayerSurfaceAttributes` with `ack_configure`, `send_configure`: what it was told;
* `place`, `shrink`, `LayerShell.arrange`: `LayerMap::arrange`;
* `LayerShell.step`: requests, commits, and what the compositor does by itself.
-/

namespace Compositor.wlr_layer

/-! ### Serials -/

/-- A `Serial`, which is a `u32`. -/
structure Serial where
  val : ℕ
  deriving DecidableEq, Inhabited

/-- `u32::MAX`. -/
def u32_max : ℕ := 2 ^ 32 - 1

/-- `Serial::partial_cmp`. -/
def Serial.partial_cmp (a b : Serial) : Ordering :=
  let distance := max a.val b.val - min a.val b.val
  if distance < u32_max / 2 then compare a.val b.val
  -- wrap-around occurred, invert comparison
  else compare b.val a.val

/-- `SerialCounter::next_serial`, with the counter behind it. -/
def next_serial (serial : ℕ) : Serial × ℕ :=
  let serial := if serial = 0 then 1 else serial
  (⟨serial⟩, (serial + 1) % 2 ^ 32)

/-! ### What a client asks for -/

/-- An edge of the output. -/
inductive Edge
  | TOP
  | BOTTOM
  | LEFT
  | RIGHT
  deriving DecidableEq

/-- `Anchor`: the edges a surface is anchored to. -/
structure Anchor where
  TOP : Bool
  BOTTOM : Bool
  LEFT : Bool
  RIGHT : Bool
  deriving DecidableEq

namespace Anchor

/-- `Anchor::empty`. -/
def empty : Anchor := ⟨false, false, false, false⟩

/-- `Anchor::from_bits`. -/
def from_bits (bits : ℕ) : Option Anchor :=
  if bits < 16 then some ⟨bits.testBit 0, bits.testBit 1, bits.testBit 2, bits.testBit 3⟩
  else none

/-- `Anchor::contains`, for one edge. -/
def contains (a : Anchor) : Edge → Bool
  | .TOP => a.TOP
  | .BOTTOM => a.BOTTOM
  | .LEFT => a.LEFT
  | .RIGHT => a.RIGHT

/-- The bits that are set. -/
def edges (a : Anchor) : List Edge := [Edge.TOP, .BOTTOM, .LEFT, .RIGHT].filter a.contains

/-- `Anchor::complement`. -/
def complement (a : Anchor) : Anchor := ⟨!a.TOP, !a.BOTTOM, !a.LEFT, !a.RIGHT⟩

/-- `Anchor::anchored_horizontally`. -/
def anchored_horizontally (a : Anchor) : Bool := a.LEFT && a.RIGHT

/-- `Anchor::anchored_vertically`. -/
def anchored_vertically (a : Anchor) : Bool := a.TOP && a.BOTTOM

end Anchor

/-- The edge across. -/
def Edge.opposite : Edge → Edge
  | .TOP => .BOTTOM
  | .BOTTOM => .TOP
  | .LEFT => .RIGHT
  | .RIGHT => .LEFT

/-- `implied_exclusive_edge_for_anchor`. -/
def implied_exclusive_edge_for_anchor (anchor : Anchor) : Option Edge :=
  match anchor.edges with
  | [e] => some e
  | [_, _, _] => anchor.complement.edges.head?.map Edge.opposite
  | _ => none

/-- `ExclusiveZone`; the amount is a `u32`. -/
inductive ExclusiveZone
  | Exclusive (amount : ℕ)
  | Neutral
  | DontCare
  deriving DecidableEq

/-- `From<i32> for ExclusiveZone`. -/
def ExclusiveZone.of_i32 (v : I32) : ExclusiveZone :=
  if 0 < v.1 then .Exclusive v.1.toNat else if v.1 = 0 then .Neutral else .DontCare

/-- `Margins`. -/
structure Margins where
  top : ℤ
  right : ℤ
  bottom : ℤ
  left : ℤ
  deriving DecidableEq

/-- `KeyboardInteractivity`. -/
inductive KeyboardInteractivity
  | None
  | Exclusive
  | OnDemand
  deriving DecidableEq

/-- `LayerSurfaceState`. -/
structure LayerSurfaceState where
  size : Option Size
  deriving DecidableEq

/-- `LayerSurfaceConfigure`. -/
structure LayerSurfaceConfigure where
  serial : Serial
  state : LayerSurfaceState
  deriving DecidableEq

/-- `LayerSurfaceCachedState`. An exclusive edge is always exactly one edge. -/
structure LayerSurfaceCachedState where
  size : Size
  anchor : Anchor
  exclusive_zone : ExclusiveZone
  exclusive_edge : Option Edge
  margin : Margins
  keyboard_interactivity : KeyboardInteractivity
  layer : WlrLayer
  last_acked : Option LayerSurfaceConfigure
  deriving DecidableEq

/-- `LayerSurfaceCachedState::default()`. -/
def LayerSurfaceCachedState.default : LayerSurfaceCachedState where
  size := ⟨0, 0⟩
  anchor := .empty
  exclusive_zone := .Neutral
  exclusive_edge := none
  margin := ⟨0, 0, 0, 0⟩
  keyboard_interactivity := .None
  layer := .Background
  last_acked := none

/-- `effective_exclusive_edge`. -/
def effective_exclusive_edge (data : LayerSurfaceCachedState) : Option Edge :=
  data.exclusive_edge.or (implied_exclusive_edge_for_anchor data.anchor)

/-- `effective_exclusive_zone`, of the state that is current. -/
def effective_exclusive_zone (data : LayerSurfaceCachedState) : ExclusiveZone :=
  match data.exclusive_zone with
  | .Exclusive amount =>
      if (effective_exclusive_edge data).isNone then .Neutral else .Exclusive amount
  | zone => zone

/-- `ExclusiveZone::Exclusive(_)`. -/
def ExclusiveZone.is_exclusive : ExclusiveZone → Bool
  | .Exclusive _ => true
  | _ => false

/-! ### What it is told -/

/-- `LayerSurfaceAttributes`. -/
structure LayerSurfaceAttributes where
  initial_configure_sent : Bool
  pending_configures : List LayerSurfaceConfigure
  server_pending : Option LayerSurfaceState
  last_acked : Option LayerSurfaceConfigure
  deriving DecidableEq

namespace LayerSurfaceAttributes

/-- `LayerSurfaceAttributes::new`, and what `reset` leaves. -/
def new : LayerSurfaceAttributes := ⟨false, [], none, none⟩

/-- `ack_configure`; `none` when no configure has the serial. -/
def ack_configure (a : LayerSurfaceAttributes) (serial : Serial) :
    Option LayerSurfaceAttributes :=
  (a.pending_configures.find? fun c => decide (c.serial = serial)).map fun configure =>
    { a with
      last_acked := some configure
      pending_configures := a.pending_configures.filter fun c =>
        decide (c.serial.partial_cmp serial = .gt) }

/-- `current_server_state`. -/
def current_server_state (a : LayerSurfaceAttributes) : LayerSurfaceState :=
  ((a.pending_configures.getLast?.map (·.state)).or (a.last_acked.map (·.state))).getD ⟨none⟩

/-- The changes are not what was sent last: `LayerSurfaceAttributes::has_pending_changes`. -/
def has_changes (a : LayerSurfaceAttributes) : Bool :=
  match a.server_pending with
  | some s => decide (s ≠ a.current_server_state)
  | none => false

/-- `LayerSurface::has_pending_changes`. -/
def has_pending_changes (a : LayerSurfaceAttributes) : Bool :=
  !a.initial_configure_sent || a.has_changes

/-- `get_pending_state`, with what it takes. -/
def get_pending_state (a : LayerSurfaceAttributes) :
    Option LayerSurfaceState × LayerSurfaceAttributes :=
  if a.initial_configure_sent = false then
    (some (a.server_pending.getD a.current_server_state), { a with server_pending := none })
  else if a.has_changes then (a.server_pending, { a with server_pending := none })
  else (none, a)

/-- `send_configure`: the configure, what is remembered of it, and the serials behind it. -/
def send_configure (a : LayerSurfaceAttributes) (serial : ℕ) :
    LayerSurfaceConfigure × LayerSurfaceAttributes × ℕ :=
  let (state, taken) := a.get_pending_state
  let (number, serial) := next_serial serial
  let configure : LayerSurfaceConfigure := ⟨number, state.getD taken.current_server_state⟩
  (configure,
    { taken with
      pending_configures := taken.pending_configures ++ [configure]
      initial_configure_sent := true }, serial)

/-- `with_pending_state`, when the size is replaced. -/
def replace_size (a : LayerSurfaceAttributes) (size : Size) : LayerSurfaceAttributes :=
  { a with server_pending := some ⟨some size⟩ }

/-- The size that `replace_size` replaces. -/
def pending_size (a : LayerSurfaceAttributes) : Option Size :=
  (a.server_pending.getD a.current_server_state).size

end LayerSurfaceAttributes

/-- A layer surface: the states its client sets, what it was told, and its place. -/
structure LayerSurface where
  wl_surface : SurfaceId
  pending : LayerSurfaceCachedState
  current : LayerSurfaceCachedState
  attributes : LayerSurfaceAttributes
  location : Option Point

/-! ### Arranging -/

/-- A `Saturating<i32>`. -/
def sat (z : ℤ) : ℤ := clampZ z (-2 ^ 31) (2 ^ 31 - 1)

/-- Where a surface begins on one axis, and how long it is there. -/
def place_axis (near far : Bool) (margin_near margin_far loc len want : ℤ) : ℤ × ℤ :=
  -- adjust for the margins
  let len := if near then sat (len - margin_near) else len
  let len := if far then sat (len - margin_far) else len
  let size := min want len
  let size := if size = 0 then len.tdiv 2 else size
  let size := if near && far then len else size
  let pos :=
    if near then sat (loc + margin_near)
    else if far then sat (loc + sat (len - size))
    else sat (loc + (len.tdiv 2 - size.tdiv 2))
  (pos, size)

/-- The place of a surface that asks for `data`, when `zone` is left. -/
def place (output_rect zone : Rect) (data : LayerSurfaceCachedState) : Rect :=
  let source := if data.exclusive_zone = .DontCare then output_rect else zone
  let (x, w) := place_axis data.anchor.LEFT data.anchor.RIGHT data.margin.left data.margin.right
    source.loc.x source.size.w data.size.w
  let (y, h) := place_axis data.anchor.TOP data.anchor.BOTTOM data.margin.top data.margin.bottom
    source.loc.y source.size.h data.size.h
  Rect.of x y w h

/-- `amount as i32`. -/
def as_i32 (amount : ℕ) : ℤ := (I32.wrap amount).1

/-- What a surface that asks for `data` leaves of the zone. -/
def shrink (zone : Rect) (data : LayerSurfaceCachedState) : Rect :=
  match data.exclusive_zone, effective_exclusive_edge data with
  | .Exclusive amount, some .TOP =>
      let sum := sat (as_i32 amount + data.margin.top)
      Rect.of zone.loc.x (sat (zone.loc.y + sum)) zone.size.w (sat (zone.size.h - sum))
  | .Exclusive amount, some .BOTTOM =>
      let sum := sat (as_i32 amount + data.margin.bottom)
      Rect.of zone.loc.x zone.loc.y zone.size.w (sat (zone.size.h - sum))
  | .Exclusive amount, some .LEFT =>
      let sum := sat (as_i32 amount + data.margin.left)
      Rect.of (sat (zone.loc.x + sum)) zone.loc.y (sat (zone.size.w - sum)) zone.size.h
  | .Exclusive amount, some .RIGHT =>
      let sum := sat (as_i32 amount + data.margin.right)
      Rect.of zone.loc.x zone.loc.y (sat (zone.size.w - sum)) zone.size.h
  | _, _ => zone

/-- An error posted to a client, which disconnects it. -/
structure ProtocolError where
  code : String
  text : String
  deriving DecidableEq

/-- The layer shell of an output. `layers` is in the order of the map; `sent` and `errors` are
what went to the clients. -/
structure LayerShell where
  output_size : Size
  layers : List LayerSurface
  zone : Rect
  serial : ℕ
  sent : List (SurfaceId × LayerSurfaceConfigure)
  errors : List (SurfaceId × ProtocolError)

namespace LayerShell

/-- An output without layer surfaces, when the next serial is `serial`. -/
def new (output_size : Size) (serial : ℕ) : LayerShell :=
  ⟨output_size, [], ⟨⟨0, 0⟩, output_size⟩, serial, [], []⟩

/-- The rectangle `arrange` starts from. -/
def output_rect (s : LayerShell) : Rect := ⟨⟨0, 0⟩, s.output_size⟩

/-- Change the surface `f`. -/
def modify (s : LayerShell) (f : SurfaceId) (g : LayerSurface → LayerSurface) : LayerShell :=
  { s with layers := s.layers.map fun l => if l.wl_surface = f then g l else l }

/-- The surface `f`. -/
def layer (s : LayerShell) (f : SurfaceId) : Option LayerSurface :=
  s.layers.find? fun l => decide (l.wl_surface = f)

/-- Send the surface `l` a configure. -/
def send_configure (s : LayerShell) (l : LayerSurface) : LayerShell :=
  let (configure, attributes, serial) := l.attributes.send_configure s.serial
  { s.modify l.wl_surface fun l => { l with attributes } with
    serial
    sent := s.sent ++ [(l.wl_surface, configure)] }

/-- One turn of the loop of `arrange`. The loop does not change what clients ask for. -/
def arrange_layer (s : LayerShell) (l : LayerSurface) : LayerShell :=
  let box := place s.output_rect s.zone l.current
  let size : Size := ⟨max box.size.w 0, max box.size.h 0⟩
  let size_changed := l.attributes.pending_size ≠ some size
  let placed : LayerSurface :=
    { l with
      attributes := l.attributes.replace_size size
      location := some box.loc }
  let s₁ : LayerShell :=
    { s.modify l.wl_surface fun _ => placed with zone := shrink s.zone l.current }
  -- a surface without the initial configure gets that one for its first commit
  if size_changed ∧ l.attributes.initial_configure_sent = true ∧
      placed.attributes.has_pending_changes = true then s₁.send_configure placed
  else s₁

/-- The order of the loop: the surfaces with an exclusive zone first. -/
def order (layers : List LayerSurface) : List LayerSurface :=
  layers.filter (fun l => (effective_exclusive_zone l.current).is_exclusive) ++
    layers.filter fun l => !(effective_exclusive_zone l.current).is_exclusive

/-- `LayerMap::arrange`. -/
def arrange (s : LayerShell) : LayerShell :=
  let s₁ := (order s.layers).foldl arrange_layer { s with zone := s.output_rect }
  { s₁ with zone := ⟨s₁.zone.loc, ⟨max s₁.zone.size.w 0, max s₁.zone.size.h 0⟩⟩ }

end LayerShell

/-! ### Requests -/

/-- The requests of a layer surface that set its pending state. -/
inductive LayerRequest
  | set_size (width height : ℕ)
  | set_anchor (bits : ℕ)
  | set_exclusive_zone (zone : I32)
  | set_margin (margin : Margins)
  | set_keyboard_interactivity (keyboard_interactivity : KeyboardInteractivity)
  | set_layer (layer : WlrLayer)
  | set_exclusive_edge (bits : ℕ)

/-- The error of an anchor with unknown bits. -/
def invalid_anchor (bits : ℕ) : ProtocolError :=
  ⟨"InvalidAnchor", "invalid anchor Unknown(" ++ toString bits ++ ")"⟩

/-- A request on the pending state. -/
def LayerRequest.apply (data : LayerSurfaceCachedState) :
    LayerRequest → Except ProtocolError LayerSurfaceCachedState
  | .set_size width height => .ok { data with size := ⟨as_i32 width, as_i32 height⟩ }
  | .set_anchor bits =>
      match Anchor.from_bits bits with
      | some anchor => .ok { data with anchor }
      | none => .error (invalid_anchor bits)
  | .set_exclusive_zone zone => .ok { data with exclusive_zone := .of_i32 zone }
  | .set_margin margin => .ok { data with margin }
  | .set_keyboard_interactivity keyboard_interactivity => .ok { data with keyboard_interactivity }
  | .set_layer layer => .ok { data with layer }
  | .set_exclusive_edge bits =>
      match Anchor.from_bits bits with
      | none => .error (invalid_anchor bits)
      | some edge =>
          match edge.edges with
          | [] => .ok { data with exclusive_edge := none }
          | [e] => .ok { data with exclusive_edge := some e }
          | _ => .error ⟨"InvalidExclusiveEdge", "exclusive edge cannot have multiple edges"⟩

/-- What a commit attaches. -/
inductive BufferAssignment
  | NewBuffer
  | Removed
  deriving DecidableEq

/-- The checks of `pre_commit_hook` on the pending state. -/
def checkPending (data : LayerSurfaceCachedState) : Except ProtocolError Unit :=
  if data.size.w = 0 ∧ data.anchor.anchored_horizontally = false then
    .error ⟨"InvalidSize", "width 0 requested without setting left and right anchors"⟩
  else if data.size.h = 0 ∧ data.anchor.anchored_vertically = false then
    .error ⟨"InvalidSize", "height 0 requested without setting top and bottom anchors"⟩
  else if data.exclusive_edge.any fun e => !data.anchor.contains e then
    .error ⟨"InvalidExclusiveEdge", "exclusive edge is not an anchor"⟩
  else .ok ()

/-- `pre_commit_hook`. -/
def pre_commit_hook (l : LayerSurface) (buffer : Option BufferAssignment) :
    Except ProtocolError LayerSurface := do
  checkPending l.pending
  -- a surface has no buffer without acking the initial configure
  let had_buffer_before := l.pending.last_acked.isSome
  let has_buffer := match buffer with
    | some .NewBuffer => true
    | some .Removed => false
    | none => had_buffer_before
  if has_buffer then
    match l.attributes.last_acked with
    | none =>
        .error ⟨"InvalidSurfaceState", "must ack the initial configure before attaching buffer"⟩
    | some last_acked => .ok { l with pending := { l.pending with last_acked := some last_acked } }
  else if had_buffer_before then
    -- the surface got unmapped; the configures on their way stay
    .ok { l with
      pending := .default
      attributes := { LayerSurfaceAttributes.new with
        pending_configures := l.attributes.pending_configures } }
  else .ok { l with pending := { l.pending with last_acked := none } }

/-- What happens to the layer shell of an output. -/
inductive LayerEvent
  | new_layer_surface (f : SurfaceId) (layer : WlrLayer)
  | request (f : SurfaceId) (r : LayerRequest)
  | ack_configure (f : SurfaceId) (serial : Serial)
  | commit (f : SurfaceId) (buffer : Option BufferAssignment)
  | layer_destroyed (f : SurfaceId)
  /-- The output gets another size. -/
  | output_changed (output_size : Size)
  /-- `update_work_areas`. -/
  | arrange
  /-- Something else takes a serial. -/
  | serial

namespace LayerShell

/-- Post an error to the client of `f`. -/
def post_error (s : LayerShell) (f : SurfaceId) (e : ProtocolError) : LayerShell :=
  { s with errors := s.errors ++ [(f, e)] }

/-- `get_layer_surface`, and `new_layer_surface` of the compositor. -/
def new_layer_surface (s : LayerShell) (f : SurfaceId) (layer : WlrLayer) : LayerShell :=
  if (s.layer f).isSome then s
  else
    let l : LayerSurface :=
      ⟨f, { LayerSurfaceCachedState.default with layer }, .default, .new, none⟩
    LayerShell.arrange { s with layers := s.layers ++ [l] }

/-- A request of the surface `f` on its pending state. -/
def request (s : LayerShell) (f : SurfaceId) (r : LayerRequest) : LayerShell :=
  match s.layer f with
  | none => s
  | some l =>
      match r.apply l.pending with
      | .ok pending => s.modify f fun l => { l with pending }
      | .error e => s.post_error f e

/-- `ack_configure`. -/
def ack_configure (s : LayerShell) (f : SurfaceId) (serial : Serial) : LayerShell :=
  match s.layer f with
  | none => s
  | some l =>
      match l.attributes.ack_configure serial with
      | some attributes => s.modify f fun l => { l with attributes }
      | none => s.post_error f
          ⟨"InvalidSurfaceState", "wrong configure serial: " ++ toString serial.val⟩

/-- What the pre-commit hook leaves of the layer shell. -/
def pre_commit (s : LayerShell) (l : LayerSurface) (buffer : Option BufferAssignment) :
    LayerShell :=
  match pre_commit_hook l buffer with
  | .ok l' => s.modify l.wl_surface fun _ => l'
  -- the commit goes on; the client is gone when the event loop is back
  | .error e => s.post_error l.wl_surface e

/-- `commit` of a layer surface. -/
def commit (s : LayerShell) (f : SurfaceId) (buffer : Option BufferAssignment) : LayerShell :=
  match s.layer f with
  | none => s
  | some l =>
      let s₁ := (s.pre_commit l buffer).modify f fun l => { l with current := l.pending }
      let needs_configure := (s₁.layer f).any fun l => !l.attributes.initial_configure_sent
      let s₂ := s₁.arrange
      match s₂.layer f with
      | some l => if needs_configure then s₂.send_configure l else s₂
      | none => s₂

/-- `layer_destroyed`, up to `arrange_all`. -/
def layer_destroyed (s : LayerShell) (f : SurfaceId) : LayerShell :=
  if (s.layer f).isSome then
    LayerShell.arrange { s with layers := s.layers.filter fun l => decide (l.wl_surface ≠ f) }
  else s

/-- What an event does. -/
def step (s : LayerShell) : LayerEvent → LayerShell
  | .new_layer_surface f layer => s.new_layer_surface f layer
  | .request f r => s.request f r
  | .ack_configure f serial => s.ack_configure f serial
  | .commit f buffer => s.commit f buffer
  | .layer_destroyed f => s.layer_destroyed f
  | .output_changed output_size => { s with output_size }
  | .arrange => s.arrange
  | .serial => { s with serial := (next_serial s.serial).2 }

end LayerShell

end Compositor.wlr_layer
