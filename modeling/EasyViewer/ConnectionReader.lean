import EasyViewer.Framing
import EasyViewer.Protocol
import EasyViewer.RequestProcessor

/-!
The receiving side of the server's connections together with the heap that serves
them: the event loop hands over chunks, takes the frames out of them one by one and,
when a connection is lost, pushes its clean-up request. Between two of these steps
the worker thread may run.
-/

namespace EasyViewer

/-- Where the event loop stands with a connection: `closing` once a chunk has been handled
and `disconnect` was called, `down` once `onDisconnected` has run. -/
inductive Phase where
  | idle
  | decoding
  | closing
  | down
  deriving DecidableEq, Repr

/-- `received` lists the frames taken off the stream so far, each with the answer its push
got; no step reads it. -/
structure Reception where
  buffer : ByteBuffer := ByteBuffer.empty
  phase : Phase := .idle
  disconnecting : Bool := false
  received : List (Frame × Bool) := []

structure ReaderState where
  heap : HeapState := {}
  receptions : ConnectionId → Reception := fun _ => {}

def maxChunk : Nat := 4096

inductive ReaderEvent where
  | heap (event : HeapEvent)
  | recv (con : ConnectionId) (data : List UInt8)
  | decode (con : ConnectionId) (arrival t : Int)
  | disconnect (con : ConnectionId)
  | disconnected (con : ConnectionId) (arrival t : Int)
  deriving DecidableEq

def ReaderState.receive (state : ReaderState) (con : ConnectionId) (reception : Reception) :
    ReaderState :=
  { state with receptions := updateAt state.receptions con reception }

def Reception.leaveLoop (reception : Reception) : Reception :=
  { reception with phase := if reception.disconnecting then .closing else .idle }

section

variable (kind : ConnectionId → ServerKind)

def decodeStep (state : ReaderState) (con : ConnectionId) (arrival t : Int) :
    Option ReaderState :=
  let reception := state.receptions con
  match nextFrame (receivedDataHandlerFactory (kind con)) reception.buffer.readableBytes with
  | .incomplete => some (state.receive con reception.leaveLoop)
  | .oversize => some (state.receive con { reception with disconnecting := true }.leaveLoop)
  | .unknownTag => some (state.receive con { reception with disconnecting := true }.leaveLoop)
  | .frame frame =>
      let request := { arrival := arrival, tag := frame.tag, data := frame.payload }
      let pushed := state.heap.push con request t
      (heapStep state.heap (.push con request t)).map fun heap =>
        { state with heap := heap }.receive con { reception with
          buffer := reception.buffer.moveReaderIndex (frame.payload.length + 8 : Nat)
          disconnecting := reception.disconnecting || !pushed.1
          received := reception.received ++ [(frame, pushed.1)] }

def cleanRequest (arrival : Int) : Request := { arrival := arrival, tag := Tag.clean, data := [] }

/-- A disconnect event can come between two chunks, and is what a chunk with a `disconnect`
in it ends with. -/
def readerStep (state : ReaderState) (event : ReaderEvent) : Option ReaderState :=
  match event with
  | .heap (.push _ _ _) => none
  | .heap event => (heapStep state.heap event).map fun heap => { state with heap := heap }
  | .recv con data =>
      let reception := state.receptions con
      if reception.phase = .idle ∧ 0 < data.length ∧ data.length ≤ maxChunk then
        some (state.receive con
          { reception with buffer := reception.buffer.write data, phase := .decoding })
      else none
  | .decode con arrival t =>
      if (state.receptions con).phase = .decoding then decodeStep kind state con arrival t else none
  | .disconnect con =>
      some (state.receive con { state.receptions con with disconnecting := true })
  | .disconnected con arrival t =>
      let reception := state.receptions con
      if reception.phase = .idle ∨ reception.phase = .closing then
        (heapStep state.heap (.push con (cleanRequest arrival) t)).map fun heap =>
          { state with heap := heap }.receive con { reception with phase := .down }
      else none

end

def ReaderState.frames (state : ReaderState) (con : ConnectionId) : List Frame :=
  (state.receptions con).received.map Prod.fst

/-- The frames of a connection up to the first one whose push was refused. -/
def ReaderState.framesBeforeRefusal (state : ReaderState) (con : ConnectionId) : List Frame :=
  ((state.receptions con).received.takeWhile Prod.snd).map Prod.fst

def Request.frame (request : Request) : Frame := { tag := request.tag, payload := request.data }

def ReaderState.handledFrames (state : ReaderState) (con : ConnectionId) : List Frame :=
  ((state.heap.handed con).filter fun request => request.tag ≠ Tag.clean).map Request.frame

end EasyViewer
