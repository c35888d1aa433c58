import HandsetAudio.Handles.Session

/-!
# The handle interface

Callers from outside reach a session through handles, result codes and places for
results: a `Call` is one such call with everything the caller passes, a `Result` is
everything the caller sees afterwards. A handle, a text or a place that the caller
left out is `none`. A call that fails answers with a negative code and leaves every
place as it was, but for a place for a stream, which it may clear.
-/

namespace HandsetAudio

/-- A stream format as callers write it. -/
structure CallerFormat where
  /-- Frames each second. -/
  rate : Nat
  /-- Interleaved channels. -/
  channels : Nat
  /-- The number of the sample format. -/
  format : Nat
  deriving DecidableEq, Repr

namespace CallerFormat

/-- The number of signed 16-bit samples. -/
def pcm16 : Nat := 1

/-- The stream format, if the sample format is known. -/
def toStreamFormat (f : CallerFormat) : Except AudioError StreamFormat :=
  if f.format = pcm16 then .ok { rate := f.rate, channels := f.channels }
  else .error (.invalidArgument (.sampleFormat f.format))

/-- A stream format as callers read it. -/
def ofStreamFormat (f : StreamFormat) : CallerFormat :=
  { rate := f.rate, channels := f.channels, format := pcm16 }

end CallerFormat

/-- A place for a handle, after a call. -/
inductive Place (α : Type) where
  /-- Nothing was written to it. -/
  | untouched
  | cleared
  | holds (handle : α)
  deriving DecidableEq, Repr

/-- A call with everything that the caller passes. -/
inductive Call where
  /-- Open a device, configured by named variables. -/
  | openDevice (environment : List (String × String)) (hasPlace : Bool)
  | closeDevice (device : Option DeviceHandle)
  | setMode (device : Option DeviceHandle) (code : Int)
  | setVoiceVolume (device : Option DeviceHandle) (volume : Float32)
  | setMicMute (device : Option DeviceHandle) (on : Bool)
  /-- Ask whether the microphone is muted; the place holds a flag before the call. -/
  | micMute (device : Option DeviceHandle) (place : Option Bool)
  | setParameters (device : Option DeviceHandle) (text : Option (List UInt8))
  /-- Ask for the size of a capture buffer. -/
  | captureBuffer (device : Option DeviceHandle) (format : Option CallerFormat)
  | openOutput (device : Option DeviceHandle) (devices : DeviceSet)
      (format : Option CallerFormat) (hasPlace : Bool)
  | openInput (device : Option DeviceHandle) (devices : DeviceSet)
      (format : Option CallerFormat) (hasPlace : Bool)
  /-- Close a playback stream and release its handle. -/
  | closeOutput (device : Option DeviceHandle) (stream : Option StreamHandle)
  /-- Close a capture stream and release its handle. -/
  | closeInput (device : Option DeviceHandle) (stream : Option StreamHandle)
  | write (stream : Option StreamHandle) (bytes : Option (List UInt8))
  /-- Read into a buffer from a capture stream. -/
  | read (stream : Option StreamHandle) (buffer : Option (List UInt8))
  | standbyOutput (stream : Option StreamHandle)
  | standbyInput (stream : Option StreamHandle)
  | setOutputParameters (stream : Option StreamHandle) (text : Option (List UInt8))
  | setInputParameters (stream : Option StreamHandle) (text : Option (List UInt8))
  | popLog

/-- What the caller sees after a call. -/
structure Result where
  /-- Zero, a size, or a negative error number. -/
  code : Int
  device : Place DeviceHandle := .untouched
  stream : Place StreamHandle := .untouched
  /-- The caller's format. -/
  format : Option CallerFormat := none
  flag : Option Bool := none
  buffer : Option (List UInt8) := none
  /-- The line that was taken from the log. -/
  line : Option String := none
  deriving DecidableEq, Repr

/-- The code for an argument that is missing or malformed. -/
def Result.invalidArgument : Int := AudioError.errno (.invalidArgument .noStream)

/-- The code of an answer without a value. -/
def Result.codeOf {α : Type} : Except AudioError α → Int
  | .ok _ => 0
  | .error e => e.errno

/-- The text in `bytes`, which ends at the first zero byte. -/
def callerText (bytes : Option (List UInt8)) : Except AudioError String :=
  match bytes with
  | none => .error (.invalidArgument .noParameters)
  | some bytes =>
    match String.fromUTF8? (ByteArray.mk (bytes.takeWhile (· != 0)).toArray) with
    | none => .error (.invalidArgument .malformedParameters)
    | some text => .ok text

/-- A line as callers see it: one with a zero character inside comes out empty. -/
def callerLine (line : String) : String := if '\x00' ∈ line.toList then "" else line

namespace Session

/-- Opens a device for a caller. -/
def serveOpenDevice (s : Session) (environment : List (String × String)) (hasPlace : Bool) :
    Result × Session :=
  if hasPlace then
    match s.openDevice (Config.ofLookup fun key => environment.lookup key) with
    | (.ok i, s) => ({ code := 0, device := .holds i }, s)
    | (.error e, s) => ({ code := e.errno, device := .cleared }, s)
  else ({ code := Result.invalidArgument }, s)

/-- Does an operation for a caller who sees nothing but its code. -/
def serveOperation (s : Session) (device : Option DeviceHandle) (op : Operation) :
    Result × Session :=
  let (r, s) := s.perform device op
  ({ code := Result.codeOf r }, s)

/-- Applies a parameter string for a caller: first there must be a device, then a text. -/
def serveParameters (s : Session) (device : Option DeviceHandle) (text : Option (List UInt8))
    (op : String → Operation) : Result × Session :=
  let (r, s) := s.onDevice device fun d =>
    match callerText text with
    | .error e => (.error e, d)
    | .ok text => d.step (op text)
  ({ code := Result.codeOf r }, s)

/-- Opens a stream for a caller. -/
def serveOpenStream (s : Session) (device : Option DeviceHandle) (format : Option CallerFormat)
    (hasPlace : Bool) (op : CallerFormat → Except AudioError Operation) : Result × Session :=
  match format, hasPlace with
  | some f, true =>
    let (r, s) := s.onDevice device fun d =>
      match op f with
      | .error e => (.error e, d)
      | .ok op => d.step op
    match device, r with
    | some i, .ok (.opened stream given) =>
      ({ code := 0, stream := .holds ⟨i, stream⟩
         format := some (CallerFormat.ofStreamFormat given) }, s)
    | _, r => ({ code := Result.codeOf r, stream := .cleared, format }, s)
  | _, _ => ({ code := Result.invalidArgument, format }, s)

/-- Closes a stream for a caller: through a device it is put in standby and its place is
freed, and its handle is released in any case. -/
def serveCloseStream (s : Session) (device : Option DeviceHandle) (stream : Option StreamHandle)
    (standby forget drop : SoftDevice → StreamId → SoftDevice) : Result × Session :=
  match stream with
  | none => ({ code := 0 }, s)
  | some h =>
    let s :=
      match device with
      | none => s
      | some i =>
        let s := s.modifyDevice h.device (standby · h.stream)
        if i = h.device then s.modifyDevice i (forget · h.stream) else s
    ({ code := 0 }, s.modifyDevice h.device (drop · h.stream))

/-- Does a stream operation for a caller who sees nothing but its code. -/
def serveStream (s : Session) (stream : Option StreamHandle) (op : StreamId → Operation) :
    Result × Session :=
  match stream with
  | none => ({ code := Result.invalidArgument }, s)
  | some h => s.serveOperation (some h.device) (op h.stream)

/-- Applies a parameter string to a stream for a caller. -/
def serveStreamParameters (s : Session) (stream : Option StreamHandle)
    (text : Option (List UInt8)) (op : StreamId → String → Operation) : Result × Session :=
  match stream with
  | none => ({ code := Result.invalidArgument }, s)
  | some h => s.serveParameters (some h.device) text (op h.stream)

/-- Writes to a playback stream for a caller. -/
def serveWrite (s : Session) (stream : Option StreamHandle) (bytes : Option (List UInt8)) :
    Result × Session :=
  match stream, bytes with
  | some h, some bytes =>
    match s.perform (some h.device) (.write h.stream bytes) with
    | (.ok (.taken n), s) => ({ code := n }, s)
    | (r, s) => ({ code := Result.codeOf r }, s)
  | _, _ => ({ code := Result.invalidArgument }, s)

/-- Reads from a capture stream for a caller. -/
def serveRead (s : Session) (stream : Option StreamHandle) (buffer : Option (List UInt8)) :
    Result × Session :=
  match stream, buffer with
  | some h, some room =>
    match s.perform (some h.device) (.read h.stream room.length) with
    | (.ok (.captured bytes), s) => ({ code := bytes.length, buffer := some bytes }, s)
    | (r, s) => ({ code := Result.codeOf r, buffer }, s)
  | _, _ => ({ code := Result.invalidArgument, buffer }, s)

/-- Serves a call. -/
def serve (s : Session) : Call → Result × Session
  | .openDevice environment hasPlace => s.serveOpenDevice environment hasPlace
  | .closeDevice none => ({ code := AudioError.noDevice.errno }, s)
  | .closeDevice (some i) => ({ code := 0 }, s.closeDevice i)
  | .setMode device code => s.serveOperation device (.setMode code)
  | .setVoiceVolume device volume => s.serveOperation device (.setVoiceVolume volume)
  | .setMicMute device on => s.serveOperation device (.setMicMute on)
  | .micMute _ none => ({ code := Result.invalidArgument }, s)
  | .micMute device (some before) =>
    match s.perform device .micMute with
    | (.ok (.flag on), s) => ({ code := 0, flag := some on }, s)
    | (r, s) => ({ code := Result.codeOf r, flag := some before }, s)
  | .setParameters device text => s.serveParameters device text .setParameters
  | .captureBuffer device format =>
    match device, format.map CallerFormat.toStreamFormat with
    | some _, some (.ok f) => ({ code := f.captureBuffer }, s)
    | _, _ => ({ code := 0 }, s)
  | .openOutput device devices format hasPlace =>
    s.serveOpenStream device format hasPlace fun _ => .ok (.openOutput devices)
  | .openInput device devices format hasPlace =>
    s.serveOpenStream device format hasPlace fun f =>
      f.toStreamFormat.map (.openInput devices ·)
  | .closeOutput device stream =>
    s.serveCloseStream device stream Device.standbyOutput Device.forgetOutput Device.dropOutput
  | .closeInput device stream =>
    s.serveCloseStream device stream Device.standbyInput Device.forgetInput Device.dropInput
  | .write stream bytes => s.serveWrite stream bytes
  | .read stream buffer => s.serveRead stream buffer
  | .standbyOutput stream => s.serveStream stream .standbyOutput
  | .standbyInput stream => s.serveStream stream .standbyInput
  | .setOutputParameters stream text => s.serveStreamParameters stream text .setOutputParameters
  | .setInputParameters stream text => s.serveStreamParameters stream text .setInputParameters
  | .popLog =>
    match s.log.pop? with
    | none => ({ code := 0 }, s)
    | some (line, log) => ({ code := 0, line := some (callerLine line) }, { s with log })

end Session

end HandsetAudio
