import WindowTiling.Ipc.Address
import WindowTiling.Ipc.Frame
import WindowTiling.Ipc.Stream
import WindowTiling.Json.Reader
import WindowTiling.Text.Utf8

/-!
# The client

A client sends one message and reads one reply, which is JSON. The reply is read in exact
amounts: a header, then as many bytes as the header announces.
-/

namespace WindowTiling

/-- Why a request has no reply. -/
inductive ClientError where
  | missing (path : Text)
  /-- The path cannot even be looked up. -/
  | overlong (path : Text)
  | unaddressable (path : Text)
  | refused (path : Text)
  | denied (path : Text)
  | noPayload
  | closed
  | timedOut
  | badMagic (bytes : List UInt8)
  | badType (fault : TypeFault)
  | notText (error : Utf8.EncodeError)
  | notUtf8 (error : Utf8.DecodeError)
  | notJson (error : Json.ReadError)

/-- What is said when connecting to a path fails. -/
def unconnectedMessage (path : Text) (cause : String) : Text :=
  Text.ofString "Cannot connect to " ++ path ++ Text.ofString (": " ++ cause)

def ClientError.message : ClientError → Text
  | missing path => Text.ofString "No autotile socket at " ++ path
  | overlong path => .ofString (overlongMessage path)
  | unaddressable path => unconnectedMessage path unaddressableMessage
  | refused path => unconnectedMessage path "[Errno 111] Connection refused"
  | denied path => unconnectedMessage path "[Errno 13] Permission denied"
  | noPayload => .ofString "'NoneType' object has no attribute 'encode'"
  | closed => .ofString "Connection closed by server"
  | timedOut => .ofString "IPC transport error: timed out"
  | badMagic bytes => .ofString s!"Invalid magic bytes in reply: {Quoted.bytes bytes}"
  | badType fault => .ofString fault.message
  | notText e => .ofString e.message
  | notUtf8 e => .ofString e.message
  | notJson e => .ofString e.message

/-- The failure is one of the connection, not of what is sent or received over it. -/
def ClientError.isTransport : ClientError → Bool
  | missing _ | unaddressable _ | refused _ | denied _ | closed | timedOut | badMagic _ => true
  | overlong _ | noPayload | badType _ | notText _ | notUtf8 _ | notJson _ => false

/-! ## Connecting -/

/-- Find the socket at a path. Whoever connects has to be able to write to it. -/
def FileTree.reach (tree : FileTree) (path : Text) : Except ClientError Unit :=
  match tree.lookUp path, RawBytes.encode path with
  | .overlong, _ => .error (.overlong path)
  | .node node, .ok bytes =>
    if addressLimit ≤ bytes.length then .error (.unaddressable path)
    else if !node.writable then .error (.denied path)
    else if node.kind = .socket then .ok () else .error (.refused path)
  | _, _ => .error (.missing path)

/-! ## Sending -/

/-- The bytes of a request. -/
def requestBytes (type : Int) (payload : Text) : Except ClientError (List UInt8) := do
  let bytes ← (Utf8.encodeText payload).mapError .notText
  let type ← (messageType type).mapError .badType
  return Frame.encode ⟨type, bytes⟩

/-! ## Receiving -/

/-- Read exactly so many bytes of a reply. -/
def receiveReply (n : Nat) (s : ByteStream) : Except ClientError (List UInt8 × ByteStream) :=
  match s.receiveExactly n with
  | (.bytes bytes, s) => .ok (bytes, s)
  | (.nothing, _) => .error .timedOut
  | (.closed, _) => .error .closed

/-- Read one message. -/
def readReplyFrame (s : ByteStream) : Except ClientError (Frame × ByteStream) := do
  let (bytes, s) ← receiveReply headerSize s
  match Header.read? bytes with
  | none => throw (.badMagic (bytes.take magic.length))
  | some header =>
    let (payload, s) ← receiveReply header.length s
    return (⟨header.type, payload⟩, s)

/-- The value in a reply. -/
def replyValue (f : Frame) : Except ClientError Json := do
  let text ← (Utf8.decode f.payload).mapError .notUtf8
  (Json.parse text).mapError .notJson

/-- Read one reply. -/
def readReply (s : ByteStream) : Except ClientError (Json × ByteStream) := do
  let (f, s) ← readReplyFrame s
  return (← replyValue f, s)

/-- The results of a command: a reply that is no list counts as a single result. -/
def commandResults : Json → List Json
  | .array results => results
  | result => [result]

end WindowTiling
