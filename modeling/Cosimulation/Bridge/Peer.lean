import Cosimulation.Bridge.Basic
/-!
# The controller's end of a link

While the bridge runs, the controller may send bytes, stop sending, or go.  Sending is possible until
the controller has stopped sending; what it sends to a bridge that has released the connection is
lost.  Once the controller has gone nothing it does has any effect.
-/

namespace Cosimulation

set_option autoImplicit false

namespace Link

/-- The link with the channel of its live session changed. -/
def mapChannel (link : Link) (change : Channel → Channel) : Link :=
  match link with
  | .live dispatcher connection =>
    .live dispatcher { connection with channel := change connection.channel }
  | other => other

/-- The bytes that the bridge has written so far. -/
def written (link : Link) : List UInt8 :=
  match link.connection? with
  | some connection => connection.channel.written
  | none => []

/-- Whether the bridge ever connected. -/
def isConnected (link : Link) : Bool := link.connection?.isSome

end Link

/-- What the controller does on its end. -/
inductive PeerAction where
  | send (bytes : List UInt8)
  | stopSending
  | go
  deriving DecidableEq, Repr

/-- How far the controller's end is closed. -/
structure Peer where
  stopped : Bool
  gone : Bool
  deriving DecidableEq, Repr

namespace Peer

/-- Does something on the controller's end of a link. -/
def act (peer : Peer) (link : Link) (action : PeerAction) : Peer × Link :=
  if peer.gone ∨ ¬link.isConnected then (peer, link)
  else
    match action with
    | .send bytes =>
      (peer, if peer.stopped then link else link.mapChannel (·.deliver [.data bytes]))
    | .stopSending => ({ peer with stopped := true }, link)
    | .go => (⟨true, true⟩, link.mapChannel Channel.hangUp)

end Peer

end Cosimulation
