import X12.Protocol.Replies

/-! # Core events

The encoders of the events that the server makes itself, and the table by which
a finished event is turned from one byte order into the other. -/

namespace X12

/-! ## Encoders -/

structure KeyEvent where
  pressed : Bool
  keycode : UInt8
  sequence : UInt16
  time : UInt32
  root : UInt32
  event : UInt32
  rootX : Int16
  rootY : Int16
  eventX : Int16
  eventY : Int16
  state : UInt16

def encodeKeyEvent (order : ClientByteOrder) (event : KeyEvent) : List UInt8 :=
  [if event.pressed then 2 else 3, event.keycode] ++
    writeU16 order event.sequence ++
    writeU32 order event.time ++
    writeU32 order event.root ++
    writeU32 order event.event ++
    writeU32 order 0 ++
    writeI16 order event.rootX ++
    writeI16 order event.rootY ++
    writeI16 order event.eventX ++
    writeI16 order event.eventY ++
    writeU16 order event.state ++
    [1, 0]

structure PointerEvent where
  detail : UInt8
  sequence : UInt16
  time : UInt32
  root : UInt32
  event : UInt32
  child : UInt32
  rootX : Int16
  rootY : Int16
  eventX : Int16
  eventY : Int16
  state : UInt16

def encodePointerEvent (eventCode : UInt8) (order : ClientByteOrder) (event : PointerEvent) :
    List UInt8 :=
  [eventCode, event.detail] ++
    writeU16 order event.sequence ++
    writeU32 order event.time ++
    writeU32 order event.root ++
    writeU32 order event.event ++
    writeU32 order event.child ++
    writeI16 order event.rootX ++
    writeI16 order event.rootY ++
    writeI16 order event.eventX ++
    writeI16 order event.eventY ++
    writeU16 order event.state ++
    [1, 0]

def encodeButtonPressEvent := encodePointerEvent 4
def encodeButtonReleaseEvent := encodePointerEvent 5
def encodeMotionNotifyEvent := encodePointerEvent 6

structure CrossingEvent extends PointerEvent where
  mode : UInt8

def encodeCrossingEvent (eventCode : UInt8) (order : ClientByteOrder) (event : CrossingEvent) :
    List UInt8 :=
  [eventCode, event.detail] ++
    writeU16 order event.sequence ++
    writeU32 order event.time ++
    writeU32 order event.root ++
    writeU32 order event.event ++
    writeU32 order event.child ++
    writeI16 order event.rootX ++
    writeI16 order event.rootY ++
    writeI16 order event.eventX ++
    writeI16 order event.eventY ++
    writeU16 order event.state ++
    [event.mode, 0x03]

def encodeEnterNotifyEvent := encodeCrossingEvent 7
def encodeLeaveNotifyEvent := encodeCrossingEvent 8

section
variable (sequence : UInt16) (order : ClientByteOrder)

/-- The code, the byte behind it and the sequence number. -/
def eventHead (code detail : UInt8) : List UInt8 :=
  [code, detail] ++ writeU16 order sequence

def encodeFocusEventWithModeDetail (focusIn : Bool) (window : UInt32) (mode detail : UInt8) :
    List UInt8 :=
  eventHead sequence order (if focusIn then 9 else 10) detail ++
    writeU32 order window ++
    [mode] ++ List.replicate 23 0

def encodeFocusEvent (focusIn : Bool) (window : UInt32) : List UInt8 :=
  encodeFocusEventWithModeDetail sequence order focusIn window 0 0

def encodeExposeEvent (window : UInt32) (x y width height count : UInt16) : List UInt8 :=
  eventHead sequence order 12 0 ++
    writeU32 order window ++
    writeU16 order x ++
    writeU16 order y ++
    writeU16 order width ++
    writeU16 order height ++
    writeU16 order count ++
    List.replicate 14 0

def encodeGraphicsExposeEvent (drawable : UInt32) (x y width height minorOpcode count : UInt16)
    (majorOpcode : UInt8) : List UInt8 :=
  eventHead sequence order 13 0 ++
    writeU32 order drawable ++
    writeU16 order x ++
    writeU16 order y ++
    writeU16 order width ++
    writeU16 order height ++
    writeU16 order minorOpcode ++
    writeU16 order count ++
    [majorOpcode] ++ List.replicate 11 0

def encodeNoExposureEvent (drawable : UInt32) (minorOpcode : UInt16) (majorOpcode : UInt8) :
    List UInt8 :=
  eventHead sequence order 14 0 ++
    writeU32 order drawable ++
    writeU16 order minorOpcode ++
    [majorOpcode] ++ List.replicate 21 0

def encodeVisibilityNotifyEvent (window : UInt32) (state : UInt8) : List UInt8 :=
  eventHead sequence order 15 0 ++
    writeU32 order window ++
    [state] ++ List.replicate 23 0

def encodeCreateNotifyEvent (parent window : UInt32) (geometry : Geometry)
    (overrideRedirect : Bool) : List UInt8 :=
  eventHead sequence order 16 0 ++
    writeU32 order parent ++
    writeU32 order window ++
    writeI16 order geometry.x ++
    writeI16 order geometry.y ++
    writeU16 order geometry.width ++
    writeU16 order geometry.height ++
    writeU16 order geometry.borderWidth ++
    [overrideRedirect.toUInt8] ++ List.replicate 9 0

def encodeDestroyNotifyEvent (eventWindow window : UInt32) : List UInt8 :=
  eventHead sequence order 17 0 ++
    writeU32 order eventWindow ++
    writeU32 order window ++
    List.replicate 20 0

def encodeUnmapNotifyEvent (eventWindow window : UInt32) (fromConfigure : Bool) : List UInt8 :=
  eventHead sequence order 18 0 ++
    writeU32 order eventWindow ++
    writeU32 order window ++
    [fromConfigure.toUInt8] ++ List.replicate 19 0

def encodeMapNotifyEvent (eventWindow window : UInt32) (overrideRedirect : Bool) : List UInt8 :=
  eventHead sequence order 19 0 ++
    writeU32 order eventWindow ++
    writeU32 order window ++
    [overrideRedirect.toUInt8] ++ List.replicate 19 0

def encodeMapRequestEvent (parent window : UInt32) : List UInt8 :=
  eventHead sequence order 20 0 ++
    writeU32 order parent ++
    writeU32 order window ++
    List.replicate 20 0

def encodeReparentNotifyEvent (eventWindow window parent : UInt32) (x y : Int16)
    (overrideRedirect : Bool) : List UInt8 :=
  eventHead sequence order 21 0 ++
    writeU32 order eventWindow ++
    writeU32 order window ++
    writeU32 order parent ++
    writeI16 order x ++
    writeI16 order y ++
    [overrideRedirect.toUInt8] ++ List.replicate 11 0

def encodeConfigureNotifyEvent (eventWindow window : UInt32) (aboveSibling : Option UInt32)
    (geometry : Geometry) (overrideRedirect : Bool) : List UInt8 :=
  eventHead sequence order 22 0 ++
    writeU32 order eventWindow ++
    writeU32 order window ++
    writeU32 order (aboveSibling.getD 0) ++
    writeI16 order geometry.x ++
    writeI16 order geometry.y ++
    writeU16 order geometry.width ++
    writeU16 order geometry.height ++
    writeU16 order geometry.borderWidth ++
    [overrideRedirect.toUInt8] ++ List.replicate 5 0

/-- What a ConfigureWindow request asks for, with the mask that says it. -/
structure ConfigureRequestValues where
  x : Option Int16
  y : Option Int16
  width : Option UInt16
  height : Option UInt16
  borderWidth : Option UInt16
  sibling : Option UInt32
  stackMode : Option UInt8
  valueMask : UInt16

def encodeConfigureRequestEvent (parent window : UInt32) (request : ConfigureRequestValues) :
    List UInt8 :=
  eventHead sequence order 23 (request.stackMode.getD 0) ++
    writeU32 order parent ++
    writeU32 order window ++
    writeU32 order (request.sibling.getD 0) ++
    writeI16 order (request.x.getD 0) ++
    writeI16 order (request.y.getD 0) ++
    writeU16 order (request.width.getD 0) ++
    writeU16 order (request.height.getD 0) ++
    writeU16 order (request.borderWidth.getD 0) ++
    writeU16 order request.valueMask ++
    List.replicate 4 0

def writeCirculateNotifyEvent (eventWindow window : UInt32) (place : UInt8) : List UInt8 :=
  eventHead sequence order 26 0 ++
    writeU32 order eventWindow ++
    writeU32 order window ++
    List.replicate 4 0 ++ [place] ++ List.replicate 15 0

def writeCirculateRequestEvent (parent window : UInt32) (place : UInt8) : List UInt8 :=
  eventHead sequence order 27 0 ++
    writeU32 order parent ++
    writeU32 order window ++
    List.replicate 4 0 ++ [place] ++ List.replicate 15 0

def encodePropertyNotifyEvent (window atom timestamp : UInt32) (deleted : Bool) : List UInt8 :=
  eventHead sequence order 28 0 ++
    writeU32 order window ++
    writeU32 order atom ++
    writeU32 order timestamp ++
    [deleted.toUInt8] ++ List.replicate 15 0

def encodeSelectionClearEvent (time owner selection : UInt32) : List UInt8 :=
  eventHead sequence order 29 0 ++
    writeU32 order time ++
    writeU32 order owner ++
    writeU32 order selection ++
    List.replicate 16 0

def encodeSelectionRequestEvent (time owner requestor selection target property : UInt32) :
    List UInt8 :=
  eventHead sequence order 30 0 ++
    writeU32 order time ++
    writeU32 order owner ++
    writeU32 order requestor ++
    writeU32 order selection ++
    writeU32 order target ++
    writeU32 order property ++
    List.replicate 4 0

def encodeColormapNotifyEvent (window colormap : UInt32) (new installed : Bool) : List UInt8 :=
  eventHead sequence order 32 0 ++
    writeU32 order window ++
    writeU32 order colormap ++
    [new.toUInt8, installed.toUInt8] ++ List.replicate 18 0

def writeMappingNotifyEvent (request firstKeycode count : UInt8) : List UInt8 :=
  eventHead sequence order 34 0 ++
    [request, firstKeycode, count] ++ List.replicate 25 0

end

structure ClientMessageEvent where
  sequence : UInt16
  sendEvent : Bool
  format : UInt8
  window : UInt32
  type : UInt32
  data : Vector UInt8 20

def encodeClientMessageEvent (order : ClientByteOrder) (event : ClientMessageEvent) :
    List UInt8 :=
  eventHead event.sequence order (33 ||| if event.sendEvent then 0x80 else 0) event.format ++
    writeU32 order event.window ++
    writeU32 order event.type ++
    event.data.toList

/-- The event for a conversion that nobody owns the selection for: written in
little-endian order with no property, for the fanout to turn around. -/
def selectionNotifyTemplate (time requestor selection target : UInt32) : List UInt8 :=
  [31, 0, 0, 0] ++ u32LeBytes time ++ u32LeBytes requestor ++ u32LeBytes selection ++
    u32LeBytes target ++ List.replicate 12 0

/-- The events that have an encoder. -/
inductive CoreEvent where
  | key (event : KeyEvent)
  | buttonPress (event : PointerEvent)
  | buttonRelease (event : PointerEvent)
  | motionNotify (event : PointerEvent)
  | enterNotify (event : CrossingEvent)
  | leaveNotify (event : CrossingEvent)
  | focus (focusIn : Bool) (window : UInt32) (mode detail : UInt8)
  | expose (window : UInt32) (x y width height count : UInt16)
  | graphicsExpose (drawable : UInt32) (x y width height minorOpcode count : UInt16)
    (majorOpcode : UInt8)
  | noExposure (drawable : UInt32) (minorOpcode : UInt16) (majorOpcode : UInt8)
  | visibilityNotify (window : UInt32) (state : UInt8)
  | createNotify (parent window : UInt32) (geometry : Geometry) (overrideRedirect : Bool)
  | destroyNotify (eventWindow window : UInt32)
  | unmapNotify (eventWindow window : UInt32) (fromConfigure : Bool)
  | mapNotify (eventWindow window : UInt32) (overrideRedirect : Bool)
  | mapRequest (parent window : UInt32)
  | reparentNotify (eventWindow window parent : UInt32) (x y : Int16) (overrideRedirect : Bool)
  | configureNotify (eventWindow window : UInt32) (aboveSibling : Option UInt32)
    (geometry : Geometry) (overrideRedirect : Bool)
  | configureRequest (parent window : UInt32) (request : ConfigureRequestValues)
  | circulateNotify (eventWindow window : UInt32) (place : UInt8)
  | circulateRequest (parent window : UInt32) (place : UInt8)
  | propertyNotify (window atom timestamp : UInt32) (deleted : Bool)
  | selectionClear (time owner selection : UInt32)
  | selectionRequest (time owner requestor selection target property : UInt32)
  | colormapNotify (window colormap : UInt32) (new installed : Bool)
  | clientMessage (event : ClientMessageEvent)
  | mappingNotify (request firstKeycode count : UInt8)

/-- Events that are given as a record carry their sequence number themselves. -/
def CoreEvent.encode (sequence : UInt16) (order : ClientByteOrder) : CoreEvent → List UInt8
  | key event => encodeKeyEvent order event
  | buttonPress event => encodeButtonPressEvent order event
  | buttonRelease event => encodeButtonReleaseEvent order event
  | motionNotify event => encodeMotionNotifyEvent order event
  | enterNotify event => encodeEnterNotifyEvent order event
  | leaveNotify event => encodeLeaveNotifyEvent order event
  | focus focusIn window mode detail =>
    encodeFocusEventWithModeDetail sequence order focusIn window mode detail
  | expose window x y width height count =>
    encodeExposeEvent sequence order window x y width height count
  | graphicsExpose drawable x y width height minorOpcode count majorOpcode =>
    encodeGraphicsExposeEvent sequence order drawable x y width height minorOpcode count
      majorOpcode
  | noExposure drawable minorOpcode majorOpcode =>
    encodeNoExposureEvent sequence order drawable minorOpcode majorOpcode
  | visibilityNotify window state => encodeVisibilityNotifyEvent sequence order window state
  | createNotify parent window geometry overrideRedirect =>
    encodeCreateNotifyEvent sequence order parent window geometry overrideRedirect
  | destroyNotify eventWindow window => encodeDestroyNotifyEvent sequence order eventWindow window
  | unmapNotify eventWindow window fromConfigure =>
    encodeUnmapNotifyEvent sequence order eventWindow window fromConfigure
  | mapNotify eventWindow window overrideRedirect =>
    encodeMapNotifyEvent sequence order eventWindow window overrideRedirect
  | mapRequest parent window => encodeMapRequestEvent sequence order parent window
  | reparentNotify eventWindow window parent x y overrideRedirect =>
    encodeReparentNotifyEvent sequence order eventWindow window parent x y overrideRedirect
  | configureNotify eventWindow window aboveSibling geometry overrideRedirect =>
    encodeConfigureNotifyEvent sequence order eventWindow window aboveSibling geometry
      overrideRedirect
  | configureRequest parent window request =>
    encodeConfigureRequestEvent sequence order parent window request
  | circulateNotify eventWindow window place =>
    writeCirculateNotifyEvent sequence order eventWindow window place
  | circulateRequest parent window place =>
    writeCirculateRequestEvent sequence order parent window place
  | propertyNotify window atom timestamp deleted =>
    encodePropertyNotifyEvent sequence order window atom timestamp deleted
  | selectionClear time owner selection =>
    encodeSelectionClearEvent sequence order time owner selection
  | selectionRequest time owner requestor selection target property =>
    encodeSelectionRequestEvent sequence order time owner requestor selection target property
  | colormapNotify window colormap new installed =>
    encodeColormapNotifyEvent sequence order window colormap new installed
  | clientMessage event => encodeClientMessageEvent order event
  | mappingNotify request firstKeycode count =>
    writeMappingNotifyEvent sequence order request firstKeycode count

/-! ## The swap table -/

namespace CoreEvent

private def u16f (offset : Nat) : FieldEntry := .fixed offset .U16
private def u32f (offset : Nat) : FieldEntry := .fixed offset .U32

end CoreEvent

open CoreEvent in
/-- The typed fields of an event, by its type without the bit that says it was sent. -/
def coreEventSwapTable : UInt8 → List FieldEntry
  | 2 | 3 | 4 | 5 | 6 | 7 | 8 =>
    [u16f 2, u32f 4, u32f 8, u32f 12, u32f 16, u16f 20, u16f 22, u16f 24, u16f 26, u16f 28]
  | 9 | 10 => [u16f 2, u32f 4]
  | 11 => []
  | 12 => [u16f 2, u32f 4, u16f 8, u16f 10, u16f 12, u16f 14, u16f 16]
  | 13 => [u16f 2, u32f 4, u16f 8, u16f 10, u16f 12, u16f 14, u16f 16, u16f 18]
  | 14 => [u16f 2, u32f 4, u16f 8]
  | 15 => [u16f 2, u32f 4]
  | 16 => [u16f 2, u32f 4, u32f 8, u16f 12, u16f 14, u16f 16, u16f 18, u16f 20]
  | 17 | 18 | 19 | 20 => [u16f 2, u32f 4, u32f 8]
  | 21 => [u16f 2, u32f 4, u32f 8, u32f 12, u16f 16, u16f 18]
  | 22 =>
    [u16f 2, u32f 4, u32f 8, u32f 12, u16f 16, u16f 18, u16f 20, u16f 22, u16f 24]
  | 23 =>
    [u16f 2, u32f 4, u32f 8, u32f 12, u16f 16, u16f 18, u16f 20, u16f 22, u16f 24, u16f 26]
  | 24 => [u16f 2, u32f 4, u32f 8, u16f 12, u16f 14]
  | 25 => [u16f 2, u32f 4, u16f 8, u16f 10]
  | 26 | 27 => [u16f 2, u32f 4, u32f 8]
  | 28 | 29 => [u16f 2, u32f 4, u32f 8, u32f 12]
  | 30 => [u16f 2, u32f 4, u32f 8, u32f 12, u32f 16, u32f 20, u32f 24]
  | 31 => [u16f 2, u32f 4, u32f 8, u32f 12, u32f 16, u32f 20]
  | 32 => [u16f 2, u32f 4, u32f 8]
  -- the data of a ClientMessage is left in the byte order of its sender
  | 33 => [u16f 2, u32f 4, u32f 8]
  | 34 | 35 => [u16f 2]
  | _ => []

end X12
