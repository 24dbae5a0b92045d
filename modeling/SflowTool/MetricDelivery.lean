import SflowTool.Stepping

/-! Metric batches on their way to the time-series server. A batch is sent once, without
waiting, and what the socket does not accept of it is forgotten: the code only looks
whether the send failed. -/
namespace SflowTool
open Stepping

section Sockets

/-- What the socket layer answers to an attempt to connect. -/
inductive ConnectAnswer where
  | noSocket | refused | connected
deriving DecidableEq

/-- What it answers to a send: an error, or how many of the bytes it took. -/
inductive SendAnswer (data : List UInt8) where
  | failed
  | accepted (count : Nat) (taken : 0 < count) (fits : count ≤ data.length)

/-- A batch of which the socket took some bytes. -/
structure Accepted where
  data : List UInt8
  count : Nat
  taken : 0 < count
  fits : count ≤ data.length

def Accepted.Whole (sent : Accepted) : Prop := sent.count = sent.data.length

instance (sent : Accepted) : Decidable sent.Whole := inferInstanceAs (Decidable (_ = _))

/-- A connection that was made, by what was sent on it. -/
structure Connection where
  sends : List Accepted

/-- The bytes it took, in their order. -/
def Connection.stream (connection : Connection) : List UInt8 :=
  connection.sends.flatMap fun sent => sent.data.take sent.count

/-- The batches it took them from. -/
def Connection.batches (connection : Connection) : List (List UInt8) :=
  connection.sends.map Accepted.data

def Connection.sent (connection : Connection) (data : List UInt8) (count : Nat)
    (taken : 0 < count) (fits : count ≤ data.length) : Connection :=
  ⟨connection.sends ++ [⟨data, count, taken, fits⟩]⟩

/-- What the process keeps between two batches. While `g_opentsdb_socket_connected` is set
the socket is that of the connection made last. -/
structure Opentsdb where
  socket : Option Connection
  past : List Connection
  errorFlag : Bool
  syslog : List String

def Opentsdb.connections (opentsdb : Opentsdb) : List Connection :=
  opentsdb.socket.toList ++ opentsdb.past

/-- The process when it starts. -/
def startedOpentsdb : Opentsdb := ⟨none, [], false, []⟩

def Opentsdb.logged (opentsdb : Opentsdb) (line : String) : Opentsdb :=
  { opentsdb with syslog := opentsdb.syslog ++ [line] }

/-- The socket is closed and the flag cleared. -/
def Opentsdb.closed (opentsdb : Opentsdb) : Opentsdb :=
  { opentsdb with socket := none, past := opentsdb.connections }

/-- Returns 1 where there is no connection. A refused one is reported once. -/
def opentsdbConnectSocket (answer : ConnectAnswer) (opentsdb : Opentsdb) : Int × Opentsdb :=
  match answer with
  | .noSocket => (1, opentsdb.logged "Unable to create opentsdb socket\n")
  | .refused =>
      let reported := if opentsdb.errorFlag then opentsdb
        else opentsdb.logged "Unable to connect to opentsdb server 127.0.0.1 port 4242\n"
      (1, { reported with errorFlag := true })
  | .connected =>
      (0, { opentsdb.logged "Connected to opentsdb server 127.0.0.1 port 4242\n" with
        socket := some ⟨[]⟩, past := opentsdb.connections, errorFlag := false })

/-- A batch with the answers to the calls it may lead to, in their order. -/
structure Call where
  data : List UInt8
  connect : ConnectAnswer
  send : SendAnswer data
  reconnect : ConnectAnswer
  resend : SendAnswer data

/-- A send on the connection the socket is of. -/
def Opentsdb.send {data : List UInt8} (opentsdb : Opentsdb) (answer : SendAnswer data) :
    Bool × Opentsdb :=
  match answer with
  | .failed => (false, opentsdb)
  | .accepted count taken fits =>
      (true, { opentsdb with socket := opentsdb.socket.map (·.sent data count taken fits) })

/-- The second try, on a connection of its own. -/
def resendBatch (call : Call) (opentsdb : Opentsdb) : Int × Opentsdb :=
  let reopened := opentsdbConnectSocket call.reconnect opentsdb.closed
  if reopened.1 ≠ 0 then (1, reopened.2)
  else
    let again := reopened.2.send call.resend
    if again.1 then (0, again.2)
    else (1, again.2.closed.logged "Unable to send data to opentsdb server\n")

def opentsdbSimpleConnect (call : Call) (opentsdb : Opentsdb) : Int × Opentsdb :=
  let opened := if opentsdb.socket.isSome then (0, opentsdb)
    else opentsdbConnectSocket call.connect opentsdb
  if opened.1 ≠ 0 then (1, opened.2)
  else
    let sent := opened.2.send call.send
    if sent.1 then (0, sent.2) else resendBatch call sent.2

/-- What a batch does to the process. -/
def deliver (call : Call) (opentsdb : Opentsdb) : Opentsdb := (opentsdbSimpleConnect call opentsdb).2

end Sockets

section Streams

/-- No batch but the last was cut. -/
def Connection.Intact (connection : Connection) : Prop :=
  ∀ sent ∈ connection.sends.dropLast, sent.Whole

/-- The last batch was. -/
def Connection.Cut (connection : Connection) : Prop :=
  ∃ sent, connection.sends.getLast? = some sent ∧ ¬sent.Whole

/-- No batch that was cut is followed by another one, so that what the server receives,
be it all that the socket took or less of a connection that failed, is whole batches one
after the other up to its end. -/
structure Connection.Delivered (connection : Connection) : Prop where
  intact : connection.Intact
  received : ∀ bytes, bytes <+: connection.stream → bytes <+: connection.batches.flatten

/-- All connections ever made. -/
def Opentsdb.Delivers (opentsdb : Opentsdb) : Prop :=
  ∀ connection ∈ opentsdb.connections, connection.Delivered

theorem whole_stream (sends : List Accepted) (whole : ∀ sent ∈ sends, sent.Whole) :
    (sends.flatMap fun sent => sent.data.take sent.count) = (sends.map Accepted.data).flatten := by
  induction sends with
  | nil => rfl
  | cons sent rest ih =>
      have first : sent.data.take sent.count = sent.data :=
        List.take_of_length_le (Nat.le_of_eq (whole sent List.mem_cons_self).symm)
      rw [List.flatMap_cons, List.map_cons, List.flatten_cons, first,
        ih fun other member => whole other (List.mem_cons_of_mem _ member)]

/-- The stream of an intact connection is its batches, the last one perhaps not to its end. -/
theorem Connection.Intact.delivered {connection : Connection} (intact : connection.Intact) :
    connection.Delivered := by
  refine ⟨intact, fun bytes within => within.trans ?_⟩
  unfold Connection.Intact at intact
  unfold Connection.stream Connection.batches
  rcases List.eq_nil_or_concat connection.sends with none | ⟨front, last, ends⟩
  · rw [none]
    exact List.prefix_refl _
  · rw [List.concat_eq_append] at ends
    rw [ends, List.dropLast_concat] at intact
    rw [ends, List.flatMap_append, List.map_append, List.flatten_append, whole_stream front intact]
    simp only [List.flatMap_cons, List.flatMap_nil, List.append_nil, List.map_cons, List.map_nil,
      List.flatten_cons, List.flatten_nil, List.prefix_append_right_inj]
    exact List.take_prefix _ _

theorem delivered_iff_intact (connection : Connection) :
    connection.Delivered ↔ connection.Intact :=
  ⟨Connection.Delivered.intact, Connection.Intact.delivered⟩

theorem delivered_empty : Connection.Delivered ⟨[]⟩ :=
  (delivered_iff_intact _).mpr nofun

theorem delivered_first (data : List UInt8) (count : Nat) (taken : 0 < count)
    (fits : count ≤ data.length) : (Connection.sent ⟨[]⟩ data count taken fits).Delivered :=
  (delivered_iff_intact _).mpr nofun

/-- One more batch leaves a connection in order exactly if the one before it was not cut. -/
theorem delivered_sent_iff {connection : Connection} (delivered : connection.Delivered)
    (data : List UInt8) (count : Nat) (taken : 0 < count) (fits : count ≤ data.length) :
    (connection.sent data count taken fits).Delivered ↔ ¬connection.Cut := by
  rw [delivered_iff_intact, Connection.Intact, Connection.sent, List.dropLast_concat]
  constructor
  · rintro whole ⟨last, ends, short⟩
    exact short (whole last (List.mem_of_getLast? ends))
  · intro uncut sent member
    rcases List.eq_nil_or_concat connection.sends with none | ⟨front, last, ends⟩
    · rw [none] at member
      exact absurd member List.not_mem_nil
    · rw [List.concat_eq_append] at ends
      have intact := delivered.intact
      rw [Connection.Intact, ends, List.dropLast_concat] at intact
      rw [ends, List.mem_append, List.mem_singleton] at member
      rcases member with before | same
      · exact intact sent before
      · by_contra short
        refine uncut ⟨last, ?_, same ▸ short⟩
        rw [ends, List.getLast?_concat]

end Streams

section Steps

theorem Opentsdb.Delivers.closed {opentsdb : Opentsdb} (delivers : opentsdb.Delivers) :
    opentsdb.closed.Delivers := delivers

theorem Opentsdb.Delivers.logged {opentsdb : Opentsdb} (delivers : opentsdb.Delivers)
    (line : String) : (opentsdb.logged line).Delivers := delivers

/-- The connections of a process whose socket is this one. -/
theorem delivers_socket (connection : Connection) (past : List Connection) (errorFlag : Bool)
    (syslog : List String) : Opentsdb.Delivers ⟨some connection, past, errorFlag, syslog⟩ ↔
      connection.Delivered ∧ ∀ other ∈ past, other.Delivered := List.forall_mem_cons

/-- A connection that is made begins with nothing. -/
theorem connect_fresh (answer : ConnectAnswer) (opentsdb : Opentsdb)
    (delivers : opentsdb.Delivers) :
    (opentsdbConnectSocket answer opentsdb).2.Delivers ∧
      ((opentsdbConnectSocket answer opentsdb).1 = 0 →
        (opentsdbConnectSocket answer opentsdb).2.socket = some ⟨[]⟩) := by
  cases answer with
  | noSocket => exact ⟨delivers, nofun⟩
  | refused =>
      obtain ⟨socket, past, errorFlag, syslog⟩ := opentsdb
      cases errorFlag with
      | true => exact ⟨delivers, nofun⟩
      | false => exact ⟨delivers, nofun⟩
  | connected => exact ⟨(delivers_socket ..).mpr ⟨delivered_empty, delivers⟩, fun _ => rfl⟩

/-- On a new connection a batch may be cut. -/
theorem send_first {opentsdb : Opentsdb} {data : List UInt8} (delivers : opentsdb.Delivers)
    (fresh : opentsdb.socket = some ⟨[]⟩) (answer : SendAnswer data) :
    (opentsdb.send answer).2.Delivers := by
  obtain ⟨socket, past, errorFlag, syslog⟩ := opentsdb
  cases fresh
  cases answer with
  | failed => exact delivers
  | accepted count taken fits =>
      obtain ⟨-, earlier⟩ := (delivers_socket ..).mp delivers
      exact (delivers_socket ..).mpr ⟨delivered_first data count taken fits, earlier⟩

theorem resend_delivers (call : Call) {opentsdb : Opentsdb} (delivers : opentsdb.Delivers) :
    (resendBatch call opentsdb).2.Delivers := by
  obtain ⟨reopened, fresh⟩ := connect_fresh call.reconnect opentsdb.closed delivers.closed
  unfold resendBatch
  by_cases failed : (opentsdbConnectSocket call.reconnect opentsdb.closed).1 ≠ 0
  · simp only [if_pos failed]
    exact reopened
  · have sent := send_first reopened (fresh (not_not.mp failed)) call.resend
    simp only [if_neg failed]
    split
    · exact sent
    · exact sent.closed.logged _

/-- A batch that does not come in one piece has to be the last of its connection: the next
send on it fails. -/
def ShortSendFails (call : Call) (opentsdb : Opentsdb) : Prop :=
  ∀ connection, opentsdb.socket = some connection → connection.Cut → call.send = .failed

/-- A batch on a connection that was there before. -/
theorem deliver_open (call : Call) (connection : Connection) (past : List Connection)
    (errorFlag : Bool) (syslog : List String)
    (delivers : Opentsdb.Delivers ⟨some connection, past, errorFlag, syslog⟩) :
    (deliver call ⟨some connection, past, errorFlag, syslog⟩).Delivers ↔
      (connection.Cut → call.send = .failed) := by
  cases answered : call.send with
  | failed =>
      have again : deliver call ⟨some connection, past, errorFlag, syslog⟩ =
          (resendBatch call ⟨some connection, past, errorFlag, syslog⟩).2 := by
        unfold deliver opentsdbSimpleConnect
        rw [answered]
        rfl
      rw [again]
      exact ⟨fun _ _ => rfl, fun _ => resend_delivers call delivers⟩
  | accepted count taken fits =>
      have sent : deliver call ⟨some connection, past, errorFlag, syslog⟩ =
          ⟨some (connection.sent call.data count taken fits), past, errorFlag, syslog⟩ := by
        unfold deliver opentsdbSimpleConnect
        rw [answered]
        rfl
      obtain ⟨delivered, earlier⟩ := (delivers_socket ..).mp delivers
      rw [sent, delivers_socket, and_iff_left earlier, delivered_sent_iff delivered]
      exact ⟨fun uncut cut => absurd cut uncut, fun only cut => nomatch only cut⟩

/-- A batch for which a connection has to be made first. -/
theorem deliver_closed (call : Call) (opentsdb : Opentsdb) (none : opentsdb.socket = none)
    (delivers : opentsdb.Delivers) : (deliver call opentsdb).Delivers := by
  obtain ⟨opened, fresh⟩ := connect_fresh call.connect opentsdb delivers
  have unconnected : ¬opentsdb.socket.isSome = true := by
    rw [none]
    exact Bool.false_ne_true
  unfold deliver opentsdbSimpleConnect
  simp only [if_neg unconnected]
  by_cases failed : (opentsdbConnectSocket call.connect opentsdb).1 ≠ 0
  · rw [if_pos failed]
    exact opened
  · have sent := send_first opened (fresh (not_not.mp failed)) call.send
    rw [if_neg failed]
    split
    · exact sent
    · exact resend_delivers call sent

theorem deliver_iff (call : Call) (opentsdb : Opentsdb) (delivers : opentsdb.Delivers) :
    (deliver call opentsdb).Delivers ↔ ShortSendFails call opentsdb := by
  obtain ⟨socket, past, errorFlag, syslog⟩ := opentsdb
  cases socket with
  | none => exact ⟨fun _ => nofun, fun _ => deliver_closed call _ rfl delivers⟩
  | some connection =>
      rw [deliver_open call connection past errorFlag syslog delivers]
      constructor
      · rintro fails _ ⟨⟩ cut
        exact fails cut
      · exact fun fails cut => fails connection rfl cut

/-- On the whole way of a process all batches are delivered in order exactly if no send
succeeds on a connection whose last batch was cut. -/
theorem batches_delivered_iff (calls : List Call) :
    Throughout deliver Opentsdb.Delivers calls startedOpentsdb ↔
      Allowed deliver ShortSendFails calls startedOpentsdb :=
  throughout_iff_allowed Opentsdb.Delivers ShortSendFails deliver_iff calls startedOpentsdb nofun

/-- A batch of ten bytes of which the socket takes three, and the next one. -/
def shortSend : List Call :=
  [⟨List.replicate 10 0x70, .connected, .accepted 3 (by decide) (by decide), .refused, .failed⟩,
    ⟨List.replicate 10 0x71, .refused, .accepted 10 (by decide) (by decide), .refused, .failed⟩]

theorem short_send_followed :
    ¬Throughout deliver Opentsdb.Delivers shortSend startedOpentsdb := by
  rintro ⟨-, -, delivers⟩
  have connection := delivers _ List.mem_cons_self
  have cut := connection.intact ⟨List.replicate 10 0x70, 3, by decide, by decide⟩ List.mem_cons_self
  exact absurd cut (by decide)

end Steps

end SflowTool
