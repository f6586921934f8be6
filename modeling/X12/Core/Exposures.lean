import X12.Core.Resources

/-! # Exposed descendants

An expose event of a window with a host counterpart is passed on to the windows
below it, which the host server does not know. -/

namespace X12

structure ExposedRect where
  window : ResourceId
  x : Int16
  y : Int16
  width : UInt16
  height : UInt16
  deriving DecidableEq, Repr

/-- `i16::try_from(v).unwrap_or(0)` -/
def offsetOrZero (v : Int) : Int16 :=
  if -32768 ≤ v ∧ v ≤ 32767 then Int16.ofInt v else 0

/-- `u16::try_from(v).unwrap_or(0)` -/
def extentOrZero (v : Int) : UInt16 :=
  if 0 ≤ v ∧ v ≤ 65535 then UInt16.ofNat v.toNat else 0

namespace ResourceTable

/-- The mapped children of a window at `(parentX, parentY)` and everything below
them, the rectangle given in the coordinates of the window with the host
counterpart. -/
def descendantsInExposedAreaInner (t : ResourceTable) (ex ey er eb : Int) :
    Nat → ResourceId → Int → Int → List ExposedRect → List ExposedRect
  | 0, _, _, _, out => out
  | fuel + 1, parentId, parentX, parentY, out =>
    match t.windows[parentId]? with
    | none => out
    | some parent =>
      parent.children.foldl (fun out childId =>
        match t.windows[childId]? with
        | none => out
        | some child =>
          if child.mapState = .Unmapped then out
          else
            let cx := parentX + child.x.toInt
            let cy := parentY + child.y.toInt
            let cr := cx + child.width.toNat
            let cb := cy + child.height.toNat
            let ix := max ex cx
            let iy := max ey cy
            let ir := min er cr
            let ib := min eb cb
            if ir ≤ ix || ib ≤ iy then out
            else
              let localX := offsetOrZero (ix - cx)
              let localY := offsetOrZero (iy - cy)
              let localW := extentOrZero (ir - ix)
              let localH := extentOrZero (ib - iy)
              let out :=
                if localW > 0 && localH > 0 then
                  out ++ [⟨childId, localX, localY, localW, localH⟩]
                else out
              descendantsInExposedAreaInner t ex ey er eb fuel childId cx cy out) out

/-- The number of windows is enough fuel. -/
def descendantsInExposedArea (t : ResourceTable) (topLevel : ResourceId) (ex ey : Int16)
    (ew eh : UInt16) : List ExposedRect :=
  let er := ex.toInt + ew.toNat
  let eb := ey.toInt + eh.toNat
  t.descendantsInExposedAreaInner ex.toInt ey.toInt er eb t.windows.size topLevel 0 0 []

end ResourceTable

end X12
