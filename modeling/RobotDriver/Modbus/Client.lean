import Mathlib.Data.Int.Notation
import Mathlib.Data.List.Basic
import RobotDriver.Lib.Fallible

/-!
# The Modbus TCP client

A call sends one request on the open connection, or on a new one, and reads one reply: a header of
seven bytes and as many more as its length field announces. The environment answers every system
call; a server has put its replies on the stream of the connection they were asked on, at most one
for each request, and the kernel hands them out in pieces of any size.
-/

namespace RobotDriver.Modbus

def readUint16Be (data : List UInt8) (index : ℕ) : UInt16 :=
  ((data.getD index 0).toUInt16 <<< 8) ||| (data.getD (index + 1) 0).toUInt16

/-- How one `poll` ends; `expired` is a deadline that passed before it. -/
inductive PollAnswer
  | expired
  | interrupted
  | timeout
  | failed
  | ready
  | hangup
  deriving DecidableEq

/-- `count n` moves `n + 1` bytes, or as many as there are. -/
inductive IoAnswer
  | again
  | closed
  | count (n : ℕ)
  deriving DecidableEq

/-- What happens around one `send` or `recv`: the server may put a reply on the stream first. -/
structure Turn where
  reply : Option (List UInt8) := none
  polls : List PollAnswer
  io : IoAnswer

inductive ConnectAnswer
  | noSocket
  | immediate
  | refused
  | inProgress (polls : List PollAnswer) (error : Bool)

/-- `requests` counts the requests begun; `consumed` the bytes of the replies read so far. -/
structure Connection where
  requests : ℕ := 0
  sent : List UInt8 := []
  replies : List (List UInt8) := []
  consumed : ℕ := 0

namespace Connection

def unread (conn : Connection) : List UInt8 := conn.replies.flatten.drop conn.consumed

/-- A server that has answered every request puts nothing on the stream. -/
def put (conn : Connection) (reply : Option (List UInt8)) : Connection :=
  match reply with
  | none => conn
  | some reply =>
    if conn.replies.length < conn.requests then { conn with replies := conn.replies ++ [reply] }
    else conn

def push (conn : Connection) (first : Bool) (bytes : List UInt8) : Connection :=
  { conn with
    requests := if first then conn.requests + 1 else conn.requests
    sent := conn.sent ++ bytes }

def pull (conn : Connection) (size : ℕ) : Connection :=
  { conn with consumed := conn.consumed + size }

end Connection

/-- The deadline passes when there are no more answers. `transfer` is below in its two directions. -/
def wait : List PollAnswer → Except String Unit
  | [] => .error "Modbus timeout"
  | .expired :: _ | .timeout :: _ => .error "Modbus timeout"
  | .interrupted :: polls => wait polls
  | .failed :: _ => .error "Modbus poll failed"
  | .ready :: _ => .ok ()
  | .hangup :: _ => .error "Modbus connection closed"

def transferOut (data : List UInt8) (done : ℕ) :
    List Turn → Connection → Except String (Connection × List Turn)
  | turns, conn =>
    if data.length ≤ done then .ok (conn, turns)
    else
      match turns with
      | [] => .error "Modbus timeout"
      | turn :: turns => do
        wait turn.polls
        let conn := conn.put turn.reply
        match turn.io with
        | .again => transferOut data done turns conn
        | .closed => throw "Modbus connection closed"
        | .count n =>
          let bytes := (data.drop done).take (n + 1)
          transferOut data (done + bytes.length) turns (conn.push (done = 0) bytes)

/-- A stream without bytes has the kernel ask to try again. -/
def transferIn (size : ℕ) (data : List UInt8) :
    List Turn → Connection → Except String (List UInt8 × Connection × List Turn)
  | turns, conn =>
    if size ≤ data.length then .ok (data, conn, turns)
    else
      match turns with
      | [] => .error "Modbus timeout"
      | turn :: turns => do
        wait turn.polls
        let conn := conn.put turn.reply
        match turn.io with
        | .again => transferIn size data turns conn
        | .closed => throw "Modbus connection closed"
        | .count n =>
          let bytes := conn.unread.take (min (n + 1) (size - data.length))
          transferIn size (data ++ bytes) turns (conn.pull bytes.length)

def connect : ConnectAnswer → Except String Connection
  | .noSocket => .error "cannot create Modbus socket"
  | .immediate => .ok {}
  | .refused => .error "Modbus connect failed"
  | .inProgress polls error => do
    wait polls
    if error then throw "Modbus connect failed"
    return {}

inductive Outcome
  | reply (pdu : List UInt8)
  | modbusException (text : String)
  | runtimeError (text : String)
  | invalidArgument (text : String)
  deriving DecidableEq

structure Call where
  unit : UInt8
  pdu : List UInt8
  timeout : ℤ
  connect : ConnectAnswer := .immediate
  turns : List Turn

structure Client where
  connection : Option Connection := none
  transactionId : UInt16 := 0

/-- Transaction id, protocol id 0, remaining length and unit id, big-endian. -/
def mbap (transactionId : UInt16) (unit : UInt8) (size : ℕ) : List UInt8 :=
  [(transactionId >>> 8).toUInt8, transactionId.toUInt8, 0, 0,
    (UInt16.ofNat (size + 1) >>> 8).toUInt8, (UInt16.ofNat (size + 1)).toUInt8, unit]

def headerValid (transactionId : UInt16) (unit : UInt8) (header : List UInt8) : Bool :=
  readUint16Be header 0 = transactionId && readUint16Be header 2 = 0 && header.getD 6 0 = unit &&
    2 ≤ (readUint16Be header 4).toNat && (readUint16Be header 4).toNat ≤ 254

/-- What a complete reply means for a request of the function. -/
def classify (function : UInt8) (reply : List UInt8) : Except String Outcome :=
  if reply.getD 0 0 = function ||| 0x80 then
    if reply.length ≠ 2 then .error "malformed Modbus exception response"
    else .ok (.modbusException ("Modbus exception code " ++ toString (reply.getD 1 0).toNat))
  else if reply.getD 0 0 ≠ function then .error "Modbus function code mismatch"
  else .ok (.reply reply)

def exchange (transactionId : UInt16) (call : Call) (conn : Connection) :
    Except String (Outcome × Connection) := do
  let frame := mbap transactionId call.unit call.pdu.length ++ call.pdu
  let (conn, turns) ← transferOut frame 0 call.turns conn
  let (header, conn, turns) ← transferIn 7 [] turns conn
  require (headerValid transactionId call.unit header = true) "invalid Modbus MBAP header"
  let (reply, conn, _) ← transferIn ((readUint16Be header 4).toNat - 1) [] turns conn
  return (← classify (call.pdu.getD 0 0) reply, conn)

namespace Client

def close (client : Client) : Client := { client with connection := none }

def openConnection (client : Client) (call : Call) : Except String Connection :=
  match client.connection with
  | some conn => .ok conn
  | none => Modbus.connect call.connect

/-- A connection survives a reply and an exception response only. -/
def transact (client : Client) (call : Call) : Outcome × Client :=
  if call.pdu = [] ∨ 253 < call.pdu.length then
    (.invalidArgument "Modbus PDU must be 1..253 bytes", client)
  else if call.timeout ≤ 0 then (.invalidArgument "Modbus timeout must be positive", client)
  else
    match client.openConnection call with
    | .error text => (.runtimeError text, client.close)
    | .ok conn =>
      let transactionId := client.transactionId + 1
      match exchange transactionId call conn with
      | .error text => (.runtimeError text, { connection := none, transactionId })
      | .ok (outcome, conn) => (outcome, { connection := some conn, transactionId })

end Client

end RobotDriver.Modbus
