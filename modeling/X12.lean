import X12.Lib.Boxes
import X12.Lib.Layout
import X12.Lib.Forest
import X12.Lib.Moves
import X12.Lib.Runs
import X12.Lib.Lifetimes
import X12.Core.Region
import X12.Core.Resources
import X12.Core.Gc
import X12.Core.WindowTree
import X12.Core.Server
import X12.Core.Damage
import X12.Core.Disconnect
import X12.Core.Sync
import X12.Core.Create
import X12.Core.CopyArea
import X12.Core.Present
import X12.Core.DrawableStore
import X12.Core.HostPixmaps
import X12.Protocol.Wire
import X12.Protocol.WireSwap
import X12.Protocol.RequestLengths
import X12.Protocol.RequestSwap
import X12.Protocol.RequestLayout
import X12.Verify.Region
import X12.Verify.Damage
import X12.Verify.DamageNotify
import X12.Verify.CopyArea
import X12.Verify.CopyOrder
import X12.Verify.Present
import X12.Verify.DrawableStore
import X12.Verify.PresentationDamage
import X12.Verify.DestroyWindow
import X12.Verify.WindowTree
import X12.Verify.MapState
import X12.Verify.Owners
import X12.Verify.Disconnect
import X12.Verify.ServerRun
import X12.Verify.Create
import X12.Verify.HostPixmaps
import X12.Verify.RequestLengths
import X12.Verify.RequestSwap
import X12.Lib.Turns
import X12.Lib.Lines
import X12.Lib.EvenOdd
import X12.Lib.MaximalRuns
import X12.Lib.Gaps
import X12.Verify.InputFreeze
import X12.Lib.Ledger
import X12.Core.ButtonGrabs
import X12.Verify.ButtonGrabs
import X12.Protocol.Replies
import X12.Core.Properties
import X12.Verify.Properties
import X12.Lib.Pieces
import X12.Protocol.ReplyLayout
import X12.Verify.Replies
import X12.Protocol.Events
import X12.Protocol.EventLayout
import X12.Core.SendEvent
import X12.Verify.SendEvent
import X12.Lib.Slices
import X12.Verify.SwapInvolution
import X12.Protocol.ReadRequest
import X12.Verify.ExactLengths
import X12.Lib.Stacking
import X12.Verify.Restacking
import X12.Verify.Overlay
import X12.Core.HitTest
import X12.Lib.Descent
import X12.Verify.HitTest
import X12.Core.Exposures
import X12.Verify.Exposures
import X12.Core.Crossings
import X12.Verify.Crossings
import X12.Core.ClientReader
import X12.Lib.Delivery
import X12.Verify.FdReader
import X12.Verify.ClientReader
import X12.Lib.Fifo
import X12.Verify.PresentScheduler
import X12.Core.Dpms
import X12.Lib.Deadline
import X12.Verify.Dpms
import X12.Verify.PropertyChunks
import X12.Verify.AbsolutePosition
import X12.Verify.Gc
import X12.Core.Glyphsets
import X12.Lib.RefCounts
import X12.Verify.Glyphsets
import X12.Verify.FocusTransitions
import X12.Lib.Stretches
import X12.Core.Bitmap
import X12.Verify.Bitmap
import X12.Core.ClientIo
import X12.Verify.ClientIo
import X12.Lib.Numbering
import X12.Core.Atoms
import X12.Verify.Atoms
import X12.Lib.Leases
import X12.Lib.Slots
import X12.Core.Connections
import X12.Verify.Connections
import X12.Verify.Sync
import X12.Lib.Scans
import X12.Core.AlarmRequests
import X12.Verify.AlarmRequests
import X12.Core.Selections
import X12.Verify.Selections
import X12.Lib.Bits
import X12.Core.Zpixmap
import X12.Verify.Zpixmap
import X12.Verify.Xybitmap
import X12.Verify.ShmRegion
import X12.Lib.Shelves
import X12.Core.GlyphAtlas
import X12.Verify.GlyphAtlas
import X12.Core.DescriptorPoolRing
import X12.Verify.DescriptorPoolRing
import X12.Core.Scanout
import X12.Core.Scene
import X12.Core.Seat
import X12.Core.Hotkey
import X12.Core.Raster
import X12.Core.AddGlyphs
import X12.Core.DeviceFocus
import X12.Core.XcMisc
import X12.Verify.Scanout
import X12.Verify.Scene
import X12.Verify.SceneTrace
import X12.Verify.SceneFences
import X12.Verify.SceneDamage
import X12.Verify.SceneCursor
import X12.Verify.SceneProgress
import X12.Verify.Seat
import X12.Verify.Hotkey
import X12.Verify.Bresenham
import X12.Verify.PolygonFill
import X12.Verify.PixmapMask
import X12.Verify.AddGlyphs
import X12.Verify.DeviceFocus
import X12.Verify.Framing
import X12.Verify.XcMisc
import X12.Core.PointerFanout
import X12.Lib.Tenure
import X12.Verify.PointerFanout
import X12.Verify.VisibleDamage
import X12.Verify.Wire
import X12.Protocol.Setup
import X12.Verify.ReplyFraming
import X12.Lib.Truncation
import X12.Core.QueryFont
import X12.Verify.QueryFont
import X12.Lib.Packed
import X12.Core.ValueLists
import X12.Verify.ValueLists
import X12.Core.Backings
import X12.Verify.Backings
import X12.Verify.BackingHolds
import X12.Verify.BackingSteps
import X12.Verify.BackingRuns
