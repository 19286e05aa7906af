import CanvasAlbum.Capture.Snapshot

namespace CanvasAlbum

structure Canvas where
  shapes : List Shape
  names_nodup : (shapes.map (·.name)).Nodup
  deriving DecidableEq

namespace Canvas

def empty : Canvas := ⟨[], List.nodup_nil⟩

def names (c : Canvas) : List String := c.shapes.map (·.name)

def size (c : Canvas) : Nat := c.shapes.length

def isEmpty (c : Canvas) : Bool := c.shapes.isEmpty

def shape? (c : Canvas) (name : String) : Option Shape := c.shapes.find? (·.name = name)

def contains (c : Canvas) (name : String) : Bool := (c.shape? name).isSome

theorem contains_eq_false_iff {c : Canvas} {name : String} :
    c.contains name = false ↔ name ∉ c.names := by
  simp only [contains, shape?, names, Option.isSome_eq_false_iff, Option.isNone_iff_eq_none,
    List.find?_eq_none, List.mem_map, decide_eq_true_eq]
  exact ⟨fun h ⟨s, hs, e⟩ => h s hs e, fun h s hs e => h ⟨s, hs, e⟩⟩

def add (c : Canvas) (s : Shape) : Except Refusal Canvas :=
  if taken : s.name ∈ c.names then .error (.nameTaken s.name)
  else .ok ⟨c.shapes ++ [s], by
    simp only [List.map_append, List.map_cons, List.map_nil]
    exact List.nodup_append.mpr
      ⟨c.names_nodup, by simp, fun a ha b hb => by
        rw [List.mem_singleton.mp hb]
        rintro rfl
        exact taken ha⟩⟩

def modify (c : Canvas) (name : String) (change : Shape → Shape)
    (keeps : ∀ s, (change s).name = s.name) : Canvas where
  shapes := c.shapes.map fun s => if s.name = name then change s else s
  names_nodup := by
    have same : (c.shapes.map fun s => if s.name = name then change s else s).map (·.name) =
        c.shapes.map (·.name) := by
      rw [List.map_map]
      apply List.map_congr_left
      intro s _
      simp only [Function.comp_apply]
      split
      · exact keeps s
      · rfl
    rw [same]
    exact c.names_nodup

def move (c : Canvas) (name : String) (position : Position) : Except Refusal Canvas :=
  if c.contains name then .ok (c.modify name (·.moveTo position) fun s => s.moveTo_name position)
  else .error (.noSuchShape name)

def resize (c : Canvas) (name : String) (extent : Extent) : Except Refusal Canvas :=
  if c.contains name then .ok (c.modify name (·.resize extent) fun s => s.resize_name extent)
  else .error (.noSuchShape name)

/-- That the shape is missing is found out before the channels are looked at. -/
def recolor (c : Canvas) (name : String) (color : Color) : Except Refusal Canvas :=
  if c.contains name then
    if color.inRange then .ok (c.modify name (·.recolor color) fun s => s.recolor_name color)
    else .error (.channelsOutOfRange color)
  else .error (.noSuchShape name)

def erase (c : Canvas) (name : String) : Canvas where
  shapes := c.shapes.filter (·.name ≠ name)
  names_nodup := c.names_nodup.sublist (List.filter_sublist.map _)

def remove (c : Canvas) (name : String) : Except Refusal (Shape × Canvas) :=
  match c.shape? name with
  | some s => .ok (s, c.erase name)
  | none => .error (.noSuchShape name)

def capture (c : Canvas) (stamp : Stamp) (description : String) : Except Refusal Snapshot :=
  if c.isEmpty then .error .nothingToCapture else .ok (.ofStamp stamp description c.shapes)

end Canvas

end CanvasAlbum
