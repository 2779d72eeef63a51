import Mathlib.Data.List.GetD
import RobotDriver.Lib.LabelledRun
import RobotDriver.Modbus.Client

/-!
# Replies stay in sync

Between two calls an open connection is settled: every request on it has been answered and every
byte of the answers has been read. A call on a settled connection can only read its own reply, so a
reply that is not longer than its length field announces is read whole or the connection is closed.
-/

namespace RobotDriver.Modbus

open LabelledRun

/-- Not longer than the length field announces, if there is one. -/
def Announced (reply : List UInt8) : Prop :=
  6 ≤ reply.length → reply.length ≤ 6 + (readUint16Be reply 4).toNat

instance (reply : List UInt8) : Decidable (Announced reply) :=
  inferInstanceAs (Decidable (_ → _))

def Turn.Announced (turn : Turn) : Prop := ∀ reply ∈ turn.reply, Modbus.Announced reply

namespace Connection

structure Settled (conn : Connection) : Prop where
  answered : conn.replies.length = conn.requests
  consumed : conn.consumed = conn.replies.flatten.length

theorem settled_new : ({} : Connection).Settled := ⟨rfl, rfl⟩

/-- During a call that has read `data` so far, after the replies `earlier`. -/
structure Reading (earlier : List (List UInt8)) (data : List UInt8) (conn : Connection) :
    Prop where
  requests : conn.requests ≤ earlier.length + 1
  consumed : conn.consumed = earlier.flatten.length + data.length
  stream : conn.replies = earlier ∧ data = [] ∨ ∃ reply, conn.replies = earlier ++ [reply] ∧
    conn.requests = earlier.length + 1 ∧ Announced reply ∧ data <+: reply

variable {conn : Connection} {earlier : List (List UInt8)} {data : List UInt8}

theorem Settled.reading (h : conn.Settled) : conn.Reading conn.replies [] :=
  ⟨h.answered ▸ Nat.le_succ _, h.consumed, .inl ⟨rfl, rfl⟩⟩

theorem Reading.put (h : conn.Reading earlier data) {turn : Turn} (hturn : turn.Announced) :
    (conn.put turn.reply).Reading earlier data := by
  unfold Connection.put
  rcases hreply : turn.reply with - | reply
  · exact h
  dsimp only
  split_ifs with howed
  · rcases h.stream with ⟨hreplies, hdata⟩ | ⟨given, hreplies, hrequests, -⟩
    · rw [hreplies] at howed
      refine ⟨h.requests, h.consumed, .inr ⟨reply, ?_, ?_, hturn reply hreply, ?_⟩⟩
      · dsimp only
        rw [hreplies]
      · exact Nat.le_antisymm h.requests howed
      · rw [hdata]
        exact List.nil_prefix
    · rw [hreplies, hrequests, List.length_append, List.length_singleton] at howed
      exact absurd howed (Nat.lt_irrefl _)
  · exact h

theorem Reading.unread (h : conn.Reading earlier data) :
    conn.unread = [] ∧ conn.replies = earlier ∨ ∃ reply, conn.replies = earlier ++ [reply] ∧
      Announced reply ∧ conn.requests = earlier.length + 1 ∧ reply = data ++ conn.unread := by
  unfold Connection.unread
  rw [h.consumed]
  rcases h.stream with ⟨hreplies, rfl⟩ | ⟨reply, hreplies, hrequests, hannounced, rest, rfl⟩
  · left
    rw [hreplies, List.length_nil, Nat.add_zero, List.drop_length]
    exact ⟨rfl, rfl⟩
  · right
    refine ⟨_, hreplies, hannounced, hrequests, ?_⟩
    rw [hreplies, List.flatten_append, List.flatten_singleton, List.drop_append,
      Nat.add_sub_cancel_left, List.drop_of_length_le (Nat.le_add_right _ _), List.nil_append,
      List.drop_left]

theorem Reading.pull (h : conn.Reading earlier data) (size : ℕ) :
    (conn.pull (conn.unread.take size).length).Reading earlier (data ++ conn.unread.take size) := by
  rcases h.unread with ⟨hnone, hreplies⟩ | ⟨reply, hreplies, hannounced, hrequests, hreply⟩
  · rw [hnone, List.take_nil, List.append_nil]
    exact h
  · refine ⟨h.requests, ?_, .inr ⟨reply, hreplies, hrequests, hannounced, ?_⟩⟩
    · rw [Connection.pull, h.consumed, List.length_append, Nat.add_assoc]
    · rw [hreply]
      exact (List.prefix_append_right_inj data).2 (List.take_prefix size conn.unread)

/-- Before its first byte is sent a request is owed nothing. -/
def Unasked (earlier : List (List UInt8)) (conn : Connection) : Prop :=
  conn.requests = earlier.length ∧ conn.replies = earlier

theorem Unasked.put (h : conn.Unasked earlier) (reply : Option (List UInt8)) :
    conn.put reply = conn := by
  unfold Connection.put
  rcases reply with - | reply
  · rfl
  · dsimp only
    rw [h.1, h.2, if_neg (Nat.lt_irrefl _)]

theorem Reading.push (h : conn.Reading earlier []) {first : Bool} (bytes : List UInt8)
    (hfirst : first = true → conn.Unasked earlier) :
    (conn.push first bytes).Reading earlier [] := by
  cases first
  · exact ⟨h.requests, h.consumed, h.stream⟩
  · obtain ⟨hrequests, hreplies⟩ := hfirst rfl
    refine ⟨?_, h.consumed, .inl ⟨hreplies, rfl⟩⟩
    exact Nat.le_of_eq (congrArg (· + 1) hrequests)

end Connection

open Connection

variable {earlier : List (List UInt8)} {turns : List Turn} {conn : Connection}

variable {after : Connection} {rest : List Turn}

theorem transferOut_reading {data : List UInt8} {done : ℕ}
    (hturns : ∀ turn ∈ turns, turn.Announced) (hconn : conn.Reading earlier [])
    (hunasked : done = 0 → conn.Unasked earlier)
    (h : transferOut data done turns conn = .ok (after, rest)) :
    after.Reading earlier [] ∧ ∀ turn ∈ rest, turn.Announced := by
  induction turns generalizing done conn with
  | nil =>
    rw [transferOut] at h
    split_ifs at h
    cases h
    exact ⟨hconn, hturns⟩
  | cons turn turns ih =>
    obtain ⟨hturn, hrest⟩ := List.forall_mem_cons.1 hturns
    rw [transferOut] at h
    split_ifs at h with hdone
    · cases h
      exact ⟨hconn, hturns⟩
    · rw [bind_eq_ok_iff] at h
      obtain ⟨-, -, h⟩ := h
      have hput := hconn.put hturn
      have hunasked' : done = 0 → (conn.put turn.reply).Unasked earlier := by
        intro hzero
        rw [(hunasked hzero).put]
        exact hunasked hzero
      dsimp only at h
      split at h
      · exact ih hrest hput hunasked' h
      · cases h
      · refine ih hrest (hput.push _ fun hzero => hunasked' (of_decide_eq_true hzero)) ?_ h
        intro hzero
        rw [List.length_take, List.length_drop] at hzero
        omega

theorem transferIn_reading {size : ℕ} {before data bytes : List UInt8}
    (hturns : ∀ turn ∈ turns, turn.Announced)
    (hconn : conn.Reading earlier (before ++ data)) (hdata : data.length ≤ size)
    (h : transferIn size data turns conn = .ok (bytes, after, rest)) :
    bytes.length = size ∧ after.Reading earlier (before ++ bytes) ∧
      ∀ turn ∈ rest, turn.Announced := by
  induction turns generalizing data conn with
  | nil =>
    rw [transferIn] at h
    split_ifs at h with hfull
    cases h
    exact ⟨Nat.le_antisymm hdata hfull, hconn, hturns⟩
  | cons turn turns ih =>
    obtain ⟨hturn, hrest⟩ := List.forall_mem_cons.1 hturns
    rw [transferIn] at h
    split_ifs at h with hfull
    · cases h
      exact ⟨Nat.le_antisymm hdata hfull, hconn, hturns⟩
    · rw [bind_eq_ok_iff] at h
      obtain ⟨-, -, h⟩ := h
      have hput := hconn.put hturn
      dsimp only at h
      split at h
      · exact ih hrest hput hdata h
      · cases h
      · next n _ =>
        refine ih hrest ?_ ?_ h
        · rw [← List.append_assoc]
          exact hput.pull _
        · rw [List.length_append, List.length_take]
          omega

theorem connect_settled {answer : ConnectAnswer} (h : connect answer = .ok conn) :
    conn.Settled := by
  cases answer with
  | noSocket | refused => cases h
  | immediate =>
    cases h
    exact settled_new
  | inProgress polls error =>
    rw [connect, bind_eq_ok_iff] at h
    obtain ⟨-, -, h⟩ := h
    cases error
    · cases h
      exact settled_new
    · cases h

/-- The reply of the unit to the transaction, with the PDU after its header. -/
structure IsReply (transactionId : UInt16) (unit : UInt8) (reply pdu : List UInt8) : Prop where
  split : ∃ header, reply = header ++ pdu ∧ header.length = 7
  transaction : readUint16Be reply 0 = transactionId
  protocol : readUint16Be reply 2 = 0
  unit : reply.getD 6 0 = unit
  complete : (readUint16Be reply 4).toNat = pdu.length + 1

theorem readUint16Be_append {first second : List UInt8} {index : ℕ}
    (h : index + 1 < first.length) :
    readUint16Be (first ++ second) index = readUint16Be first index := by
  unfold readUint16Be
  rw [List.getD_append _ _ _ _ (Nat.lt_of_succ_lt h), List.getD_append _ _ _ _ h]

/-- The outcome of a reply, in terms of its PDU. -/
def Classified (function : UInt8) (pdu : List UInt8) : Outcome → Prop
  | .reply reply => reply = pdu ∧ pdu.getD 0 0 = function
  | .modbusException text => pdu.getD 0 0 = function ||| 0x80 ∧ pdu.length = 2 ∧
      text = "Modbus exception code " ++ toString (pdu.getD 1 0).toNat
  | _ => False

theorem classified_of_classify {function : UInt8} {pdu : List UInt8} {outcome : Outcome}
    (h : classify function pdu = .ok outcome) : Classified function pdu outcome := by
  unfold classify at h
  split_ifs at h with hexception hlength hfunction
  · cases h
    exact ⟨hexception, not_not.1 hlength, rfl⟩
  · cases h
    exact ⟨rfl, not_not.1 hfunction⟩

theorem exchange_reading {transactionId : UInt16} {call : Call} {outcome : Outcome}
    (hturns : ∀ turn ∈ call.turns, turn.Announced) (hconn : conn.Settled)
    (h : exchange transactionId call conn = .ok (outcome, after)) :
    after.Settled ∧ ∃ reply pdu, after.replies = conn.replies ++ [reply] ∧
      IsReply transactionId call.unit reply pdu ∧ Classified (call.pdu.getD 0 0) pdu outcome := by
  simp only [exchange, bind_eq_ok_iff] at h
  obtain ⟨⟨sent, turns⟩, hout, ⟨header, read, turns'⟩, hheader, _, hvalid, ⟨pdu, last, turns''⟩,
    hpdu, outcome', hclassify, hresult⟩ := h
  cases hresult
  dsimp only at hout hheader hvalid hpdu hclassify
  obtain ⟨hsent, hturns⟩ := transferOut_reading hturns hconn.reading
    (fun _ => ⟨hconn.answered.symm, rfl⟩) hout
  have hstart : sent.Reading conn.replies ([] ++ []) := hsent
  obtain ⟨hlength, hread, hturns⟩ := transferIn_reading hturns hstart (Nat.zero_le _) hheader
  rw [require_eq_ok_iff, headerValid] at hvalid
  simp only [Bool.and_eq_true, decide_eq_true_eq] at hvalid
  obtain ⟨⟨⟨⟨htransaction, hprotocol⟩, hunit⟩, hlow⟩, -⟩ := hvalid
  have hread' : read.Reading conn.replies (header ++ []) := by rwa [List.append_nil]
  obtain ⟨hsize, hlast, -⟩ := transferIn_reading hturns hread' (Nat.zero_le _) hpdu
  have hcomplete : (readUint16Be header 4).toNat = pdu.length + 1 := by
    omega
  rcases hlast.stream with ⟨-, hempty⟩ | ⟨reply, hreplies, hrequests, hannounced, hprefix⟩
  · rw [(List.append_eq_nil_iff.1 hempty).1] at hlength
    cases hlength
  -- The part read has the announced length, so there is no more of the reply.
  have hreply : header ++ pdu = reply := by
    refine hprefix.eq_of_length_le ?_
    have hlong := hprefix.length_le
    rw [List.length_append] at hlong ⊢
    have hfits := hannounced (by omega)
    obtain ⟨rest, rfl⟩ := hprefix
    rw [List.append_assoc header, readUint16Be_append (by omega), ← List.append_assoc] at hfits
    omega
  subst hreply
  refine ⟨⟨?_, ?_⟩, header ++ pdu, pdu, hreplies, ⟨⟨header, rfl, hlength⟩, ?_, ?_, ?_, ?_⟩,
    classified_of_classify hclassify⟩
  · rw [hreplies, List.length_append, List.length_singleton, hrequests]
  · rw [hlast.consumed, hreplies, List.flatten_append, List.flatten_singleton, List.length_append,
      List.length_append, List.length_append]
  · rw [readUint16Be_append (by omega)]
    exact htransaction
  · rw [readUint16Be_append (by omega)]
    exact hprotocol
  · rw [List.getD_append _ _ _ _ (by omega)]
    exact hunit
  · rw [readUint16Be_append (by omega)]
    exact hcomplete

namespace Client

def step (client : Client) (call : Call) : Client := (client.transact call).2

/-- Nothing of an earlier reply is left on the open connection, or still to come. -/
def Synced (client : Client) : Prop := ∀ conn ∈ client.connection, conn.Settled

def repliesRead (client : Client) : List (List UInt8) :=
  (client.connection.map Connection.replies).getD []

/-- The call has read exactly its own reply, or it has closed the connection; a call whose
arguments are rejected does nothing. -/
def EndsInSync (client : Client) (call : Call) : Prop :=
  match (client.transact call).1 with
  | .invalidArgument _ => client.step call = client
  | .runtimeError _ => (client.step call).connection = none
  | outcome => ∃ conn reply pdu, (client.step call).connection = some conn ∧ conn.Settled ∧
      conn.replies = client.repliesRead ++ [reply] ∧
      (client.step call).transactionId = client.transactionId + 1 ∧
      IsReply (client.transactionId + 1) call.unit reply pdu ∧
      Classified (call.pdu.getD 0 0) pdu outcome

theorem openConnection_settled {client : Client} {call : Call} (hclient : client.Synced)
    (h : client.openConnection call = .ok conn) :
    conn.Settled ∧ conn.replies = client.repliesRead := by
  unfold openConnection at h
  unfold repliesRead
  rcases hconn : client.connection with - | old
  · rw [hconn] at h
    have hsettled := connect_settled h
    refine ⟨hsettled, ?_⟩
    rcases hanswer : call.connect with - | - | - | ⟨polls, error⟩
    · rw [hanswer] at h
      cases h
    · rw [hanswer] at h
      cases h
      rfl
    · rw [hanswer] at h
      cases h
    · rw [hanswer, connect, bind_eq_ok_iff] at h
      obtain ⟨-, -, h⟩ := h
      cases error <;> cases h
      rfl
  · rw [hconn] at h
    cases h
    exact ⟨hclient _ hconn, rfl⟩

theorem transact_endsInSync {client : Client} {call : Call} (hclient : client.Synced)
    (hturns : ∀ turn ∈ call.turns, turn.Announced) :
    client.EndsInSync call ∧ (client.step call).Synced := by
  unfold EndsInSync step transact
  split_ifs with hpdu htimeout
  · exact ⟨rfl, hclient⟩
  · exact ⟨rfl, hclient⟩
  rcases hopen : client.openConnection call with text | conn
  · exact ⟨rfl, fun _ hmem => by cases hmem⟩
  dsimp only
  rcases hexchange : exchange (client.transactionId + 1) call conn with text | ⟨outcome, after⟩
  · exact ⟨rfl, fun _ hmem => by cases hmem⟩
  obtain ⟨hsettled, hreplies⟩ := openConnection_settled hclient hopen
  obtain ⟨hafter, reply, pdu, hput, hreply, hclassified⟩ :=
    exchange_reading hturns hsettled hexchange
  rw [hreplies] at hput
  refine ⟨?_, fun conn hmem => ?_⟩
  · cases outcome with
    | reply | modbusException =>
      exact ⟨after, reply, pdu, rfl, hafter, hput, rfl, hreply, hclassified⟩
    | runtimeError | invalidArgument => exact hclassified.elim
  · cases hmem
    exact hafter

end Client

theorem replies_in_sync_from {client : Client} (hclient : client.Synced) (calls : List Call)
    (h : ∀ call ∈ calls, ∀ turn ∈ call.turns, turn.Announced) :
    Along Client.step (fun client call => client.Synced ∧ client.EndsInSync call) client calls := by
  induction calls generalizing client with
  | nil => exact along_nil client
  | cons call calls ih =>
    obtain ⟨hcall, hcalls⟩ := List.forall_mem_cons.1 h
    obtain ⟨hends, hsynced⟩ := Client.transact_endsInSync hclient hcall
    exact ⟨⟨hclient, hends⟩, ih hsynced hcalls⟩

/-- Any number of calls, on any number of connections. -/
theorem replies_in_sync (calls : List Call)
    (h : ∀ call ∈ calls, ∀ turn ∈ call.turns, turn.Announced) :
    Along Client.step (fun client call => client.Synced ∧ client.EndsInSync call) {} calls :=
  replies_in_sync_from (fun _ hmem => by cases hmem) calls h

section Coil

/-- Read one coil; the reply arrives in two pieces. -/
def readCoil (reply : List UInt8) : Call where
  unit := 1
  pdu := [1, 0, 5, 0, 1]
  timeout := 1000
  turns := [{ polls := [.interrupted, .ready], io := .count 11 },
    { reply := some reply, polls := [.ready], io := .count 2 },
    { polls := [.ready], io := .again }, { polls := [.ready], io := .count 20 },
    { polls := [.ready], io := .count 20 }]

/-- A client after one call. -/
def clientAfter (reply : List UInt8) : Client := Client.step {} (readCoil reply)

/-- Two calls on one connection. -/
theorem readCoil_in_sync :
    (Client.transact {} (readCoil [0, 1, 0, 0, 0, 4, 1, 1, 1, 1])).1 = .reply [1, 1, 1] ∧
      ((clientAfter [0, 1, 0, 0, 0, 4, 1, 1, 1, 1]).transact
        (readCoil [0, 2, 0, 0, 0, 4, 1, 1, 1, 0])).1 = .reply [1, 1, 0] ∧
      Along Client.step (fun client call => client.Synced ∧ client.EndsInSync call) {}
        [readCoil [0, 1, 0, 0, 0, 4, 1, 1, 1, 1], readCoil [0, 2, 0, 0, 0, 4, 1, 1, 1, 0]] := by
  refine ⟨by decide +kernel, by decide +kernel, replies_in_sync _ fun call hcall => ?_⟩
  rw [List.mem_pair] at hcall
  rcases hcall with rfl | rfl
  all_goals
    intro turn hturn reply hreply
    simp only [readCoil, List.mem_cons, List.not_mem_nil, or_false] at hturn
    rcases hturn with rfl | rfl | rfl | rfl | rfl <;> cases hreply
    decide +kernel

def emptyCall : Call where
  unit := 1
  pdu := []
  timeout := 1000
  turns := []

/-- A rejected argument keeps the connection, and a reply that is longer than it says leaves bytes
that the next call takes for its header. -/
theorem out_of_sync :
    ((clientAfter [0, 1, 0, 0, 0, 4, 1, 1, 1, 1]).transact emptyCall).1 =
        .invalidArgument "Modbus PDU must be 1..253 bytes" ∧
      ((clientAfter [0, 1, 0, 0, 0, 4, 1, 1, 1, 1]).step emptyCall).connection.isSome = true ∧
      (Client.transact {} (readCoil [0, 1, 0, 0, 0, 2, 1, 1, 1, 1])).1 = .reply [1] ∧
      (clientAfter [0, 1, 0, 0, 0, 2, 1, 1, 1, 1]).connection.map Connection.unread =
        some [1, 1] ∧
      ((clientAfter [0, 1, 0, 0, 0, 2, 1, 1, 1, 1]).transact
        (readCoil [0, 2, 0, 0, 0, 4, 1, 1, 1, 1])).1 =
          .runtimeError "invalid Modbus MBAP header" := by
  decide +kernel

end Coil

end RobotDriver.Modbus
