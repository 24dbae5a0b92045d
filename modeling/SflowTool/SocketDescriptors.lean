import SflowTool.MetricDelivery

/-! The two globals of the connection to the time-series server, the flag and the descriptor,
and the descriptors that the socket calls open and close. Every call is kept in its order, so
that what is open can be asked at any time between two of them. -/
namespace SflowTool

section Descriptors

/-- A call of the socket layer with what it returned. -/
inductive SocketCall where
  | socket (descriptor : Int)
  | connect (descriptor result : Int)
  | send (descriptor result : Int)
  | close (descriptor : Int)
deriving DecidableEq

/-- The descriptors that are open, and those of them that are connected. -/
structure Descriptors where
  opened : List Int
  connected : List Int
deriving DecidableEq

def SocketCall.after (descriptors : Descriptors) : SocketCall → Descriptors
  | .socket descriptor =>
      if descriptor < 0 then descriptors
      else { descriptors with opened := descriptor :: descriptors.opened }
  | .connect descriptor result =>
      if result < 0 then descriptors
      else { descriptors with connected := descriptor :: descriptors.connected }
  | .send _ _ => descriptors
  | .close descriptor =>
      ⟨descriptors.opened.filter (· ≠ descriptor), descriptors.connected.filter (· ≠ descriptor)⟩

def descriptorsAfter (calls : List SocketCall) : Descriptors :=
  calls.foldl SocketCall.after ⟨[], []⟩

theorem descriptorsAfter_concat (calls : List SocketCall) (call : SocketCall) :
    descriptorsAfter (calls ++ [call]) = call.after (descriptorsAfter calls) :=
  List.foldl_concat ..

/-- At no time is more than one descriptor open. -/
def OneAtMost (calls : List SocketCall) : Prop :=
  ∀ earlier later, calls = earlier ++ later → (descriptorsAfter earlier).opened.length ≤ 1

theorem oneAtMost_concat {calls : List SocketCall} (call : SocketCall) (before : OneAtMost calls)
    (now : (call.after (descriptorsAfter calls)).opened.length ≤ 1) :
    OneAtMost (calls ++ [call]) := by
  intro earlier later split
  rcases List.eq_nil_or_concat later with rfl | ⟨front, last, rfl⟩
  · rw [List.append_nil] at split
    rw [← split, descriptorsAfter_concat]
    exact now
  · rw [List.concat_eq_append, ← List.append_assoc] at split
    exact before earlier front (List.append_inj_left' split rfl)

end Descriptors

section Program

/-- The globals and the static flag, with the calls made so far. -/
structure OpentsdbGlobals where
  socketConnected : Int
  sock : Int
  errorFlag : Bool
  syslog : List String
  calls : List SocketCall

/-- The process when it starts: the descriptor is a zeroed global. -/
def startedGlobals : OpentsdbGlobals := ⟨0, 0, false, [], []⟩

def OpentsdbGlobals.issue (globals : OpentsdbGlobals) (call : SocketCall) : OpentsdbGlobals :=
  { globals with calls := globals.calls ++ [call] }

def OpentsdbGlobals.logged (globals : OpentsdbGlobals) (line : String) : OpentsdbGlobals :=
  { globals with syslog := globals.syslog ++ [line] }

def OpentsdbGlobals.descriptors (globals : OpentsdbGlobals) : Descriptors :=
  descriptorsAfter globals.calls

/-- What `socket` and `connect` return to an attempt to connect. -/
structure ConnectOutcome where
  socket : Int
  connect : Int

/-- `opentsdb_connect_socket`. -/
def connectSocket (outcome : ConnectOutcome) (globals : OpentsdbGlobals) : Int × OpentsdbGlobals :=
  let globals := { globals.issue (.socket outcome.socket) with sock := outcome.socket }
  if outcome.socket < 0 then (1, globals.logged "Unable to create opentsdb socket\n")
  else
    let globals := globals.issue (.connect globals.sock outcome.connect)
    if outcome.connect < 0 then
      let globals := if globals.errorFlag then globals
        else globals.logged "Unable to connect to opentsdb server 127.0.0.1 port 4242\n"
      (1, { globals with errorFlag := true }.issue (.close globals.sock))
    else
      let globals := { globals with socketConnected := 1 }
      let globals := globals.logged "Connected to opentsdb server 127.0.0.1 port 4242\n"
      (0, { globals with errorFlag := false })

/-- What a batch meets: the results of the calls it may lead to, in their order. -/
structure BatchOutcome where
  connect : ConnectOutcome
  send : Int
  reconnect : ConnectOutcome
  resend : Int

/-- The socket is closed and the flag cleared. -/
def OpentsdbGlobals.disconnected (globals : OpentsdbGlobals) : OpentsdbGlobals :=
  { globals.issue (.close globals.sock) with socketConnected := 0 }

/-- The second try of `opentsdb_simple_connect`. -/
def resendOn (outcome : BatchOutcome) (globals : OpentsdbGlobals) : Int × OpentsdbGlobals :=
  let reopened := connectSocket outcome.reconnect globals.disconnected
  if reopened.1 ≠ 0 then (1, reopened.2)
  else
    let globals := reopened.2.issue (.send reopened.2.sock outcome.resend)
    if outcome.resend < 0 then
      (1, globals.disconnected.logged "Unable to send data to opentsdb server\n")
    else (0, globals)

/-- `opentsdb_simple_connect`. -/
def simpleConnect (outcome : BatchOutcome) (globals : OpentsdbGlobals) : Int × OpentsdbGlobals :=
  let opened := if globals.socketConnected = 0 then connectSocket outcome.connect globals
    else (0, globals)
  if opened.1 ≠ 0 then (1, opened.2)
  else
    let globals := opened.2.issue (.send opened.2.sock outcome.send)
    if outcome.send < 0 then resendOn outcome globals else (0, globals)

/-- What the calls of a run return, each with the globals it leaves. -/
def simpleConnects : List BatchOutcome → OpentsdbGlobals → List (Int × OpentsdbGlobals)
  | [], _ => []
  | outcome :: rest, globals =>
      let returned := simpleConnect outcome globals
      returned :: simpleConnects rest returned.2

end Program

section Invariant

variable {globals : OpentsdbGlobals}

/-- No connection: the flag is clear and nothing is open. -/
structure OpentsdbGlobals.Idle (globals : OpentsdbGlobals) : Prop where
  flag : globals.socketConnected = 0
  none : globals.descriptors = ⟨[], []⟩
  once : OneAtMost globals.calls

/-- A connection: the flag is set, and the descriptor is the one that is open. -/
structure OpentsdbGlobals.Held (globals : OpentsdbGlobals) : Prop where
  flag : globals.socketConnected = 1
  one : globals.descriptors = ⟨[globals.sock], [globals.sock]⟩
  once : OneAtMost globals.calls

theorem issue_descriptors (globals : OpentsdbGlobals) (call : SocketCall) :
    (globals.issue call).descriptors = call.after globals.descriptors :=
  descriptorsAfter_concat _ _

theorem close_only (descriptor : Int) :
    (SocketCall.close descriptor).after ⟨[descriptor], [descriptor]⟩ = ⟨[], []⟩ := by
  simp [SocketCall.after]

theorem socket_opens (descriptor : Int) :
    ((SocketCall.socket descriptor).after ⟨[], []⟩).opened.length ≤ 1 := by
  by_cases unmade : descriptor < 0
  · have none : (SocketCall.socket descriptor).after ⟨[], []⟩ = ⟨[], []⟩ := if_pos unmade
    rw [none]
    exact Nat.zero_le 1
  · have made : (SocketCall.socket descriptor).after ⟨[], []⟩ = ⟨[descriptor], []⟩ := if_neg unmade
    rw [made]
    exact Nat.le_refl 1

theorem connect_opened (descriptor result : Int) (descriptors : Descriptors) :
    ((SocketCall.connect descriptor result).after descriptors).opened = descriptors.opened :=
  (apply_ite Descriptors.opened _ _ _).trans (ite_self _)

theorem OpentsdbGlobals.Held.sent (held : globals.Held) (result : Int) :
    (globals.issue (.send globals.sock result)).Held where
  flag := held.flag
  one := (issue_descriptors _ _).trans held.one
  once := by
    apply oneAtMost_concat _ held.once
    show globals.descriptors.opened.length ≤ 1
    rw [held.one]
    exact Nat.le_refl 1

theorem OpentsdbGlobals.Held.disconnected (held : globals.Held) : globals.disconnected.Idle where
  flag := rfl
  none := by
    have closed : globals.disconnected.descriptors = _ := issue_descriptors globals _
    rw [closed, held.one, close_only]
  once := by
    apply oneAtMost_concat _ held.once
    show ((SocketCall.close globals.sock).after globals.descriptors).opened.length ≤ 1
    rw [held.one, close_only]
    exact Nat.zero_le 1

/-- An attempt to connect opens one descriptor, and closes it where it fails. -/
theorem OpentsdbGlobals.Idle.connect (idle : globals.Idle) (outcome : ConnectOutcome) :
    (connectSocket outcome globals).1 = 0 ∧ (connectSocket outcome globals).2.Held ∨
      (connectSocket outcome globals).1 = 1 ∧ (connectSocket outcome globals).2.Idle := by
  obtain ⟨flag, none, once⟩ := idle
  obtain ⟨descriptor, result⟩ := outcome
  have asked : (globals.issue (.socket descriptor)).descriptors =
      (SocketCall.socket descriptor).after ⟨[], []⟩ := by
    rw [issue_descriptors, none]
  have first : OneAtMost (globals.calls ++ [.socket descriptor]) := by
    apply oneAtMost_concat _ once
    show ((SocketCall.socket descriptor).after globals.descriptors).opened.length ≤ 1
    rw [none]
    exact socket_opens descriptor
  unfold connectSocket
  by_cases unmade : descriptor < 0
  · rw [if_pos unmade]
    refine .inr ⟨rfl, flag, ?_, first⟩
    exact asked.trans (if_pos unmade)
  · have made : (SocketCall.socket descriptor).after ⟨[], []⟩ = ⟨[descriptor], []⟩ := if_neg unmade
    have tried : descriptorsAfter (globals.calls ++ [.socket descriptor] ++
        [.connect descriptor result]) =
          (SocketCall.connect descriptor result).after ⟨[descriptor], []⟩ := by
      rw [descriptorsAfter_concat, ← made, ← asked]
      rfl
    have second : OneAtMost (globals.calls ++ [.socket descriptor] ++
        [.connect descriptor result]) := by
      apply oneAtMost_concat _ first
      rw [← descriptorsAfter_concat, tried, connect_opened]
      exact Nat.le_refl 1
    rw [if_neg unmade]
    by_cases refused : result < 0
    · have unconnected : (SocketCall.connect descriptor result).after ⟨[descriptor], []⟩ =
          ⟨[descriptor], []⟩ := if_pos refused
      have closed : descriptorsAfter (globals.calls ++ [.socket descriptor] ++
          [.connect descriptor result] ++ [.close descriptor]) = ⟨[], []⟩ := by
        rw [descriptorsAfter_concat, tried, unconnected]
        simp [SocketCall.after]
      have third := oneAtMost_concat (.close descriptor) second (by
        rw [← descriptorsAfter_concat, closed]
        exact Nat.zero_le 1)
      simp only [if_pos refused]
      split
      · exact .inr ⟨trivial, flag, closed, third⟩
      · exact .inr ⟨trivial, flag, closed, third⟩
    · have connected : (SocketCall.connect descriptor result).after ⟨[descriptor], []⟩ =
          ⟨[descriptor], [descriptor]⟩ := if_neg refused
      simp only [if_neg refused]
      exact .inl ⟨trivial, rfl, tried.trans connected, second⟩

end Invariant

section Runs

variable {globals : OpentsdbGlobals}

/-- The last call was a send on the descriptor, and it was accepted. -/
def OpentsdbGlobals.LastAccepted (globals : OpentsdbGlobals) : Prop :=
  ∃ earlier result, globals.calls = earlier ++ [.send globals.sock result] ∧ 0 ≤ result

/-- What a call leaves: a connection where it returns 0, with what it sent accepted on it, and
none where it does not. -/
def Returned (returned : Int × OpentsdbGlobals) : Prop :=
  returned.1 = 0 ∧ returned.2.Held ∧ returned.2.LastAccepted ∨ returned.1 = 1 ∧ returned.2.Idle

theorem OpentsdbGlobals.Held.resend (held : globals.Held) (outcome : BatchOutcome) :
    Returned (resendOn outcome globals) := by
  unfold resendOn
  rcases held.disconnected.connect outcome.reconnect with ⟨returned, again⟩ | ⟨returned, idle⟩
  · have connected : ¬(connectSocket outcome.reconnect globals.disconnected).1 ≠ 0 :=
      not_not_intro returned
    simp only [if_neg connected]
    by_cases failed : outcome.resend < 0
    · rw [if_pos failed]
      obtain ⟨flag, none, once⟩ := (again.sent outcome.resend).disconnected
      exact .inr ⟨rfl, flag, none, once⟩
    · rw [if_neg failed]
      exact .inl ⟨rfl, again.sent outcome.resend, _, _, rfl, Int.not_lt.mp failed⟩
  · have refused : (connectSocket outcome.reconnect globals.disconnected).1 ≠ 0 := by
      rw [returned]
      decide
    simp only [if_pos refused]
    exact .inr ⟨rfl, idle⟩

theorem OpentsdbGlobals.Held.send (held : globals.Held) (outcome : BatchOutcome) :
    Returned (if outcome.send < 0 then
        resendOn outcome (globals.issue (.send globals.sock outcome.send))
      else (0, globals.issue (.send globals.sock outcome.send))) := by
  by_cases failed : outcome.send < 0
  · rw [if_pos failed]
    exact (held.sent outcome.send).resend outcome
  · rw [if_neg failed]
    exact .inl ⟨rfl, held.sent outcome.send, _, _, rfl, Int.not_lt.mp failed⟩

/-- One call, with a connection before it or without. -/
theorem simpleConnect_returned (outcome : BatchOutcome) (between : globals.Held ∨ globals.Idle) :
    Returned (simpleConnect outcome globals) := by
  unfold simpleConnect
  rcases between with held | idle
  · have connected : ¬globals.socketConnected = 0 := by
      rw [held.flag]
      decide
    simp only [if_neg connected]
    exact held.send outcome
  · simp only [if_pos idle.flag]
    rcases idle.connect outcome.connect with ⟨returned, held⟩ | ⟨returned, none⟩
    · have connected : ¬(connectSocket outcome.connect globals).1 ≠ 0 := not_not_intro returned
      simp only [if_neg connected]
      exact held.send outcome
    · have refused : (connectSocket outcome.connect globals).1 ≠ 0 := by
        rw [returned]
        decide
      simp only [if_pos refused]
      exact .inr ⟨rfl, none⟩

theorem simpleConnects_returned (outcomes : List BatchOutcome)
    (between : globals.Held ∨ globals.Idle) :
    ∀ returned ∈ simpleConnects outcomes globals, Returned returned := by
  induction outcomes generalizing globals with
  | nil => exact List.forall_mem_nil _
  | cons outcome outcomes ih =>
      have first := simpleConnect_returned outcome between
      refine List.forall_mem_cons.mpr ⟨first, ih ?_⟩
      rcases first with ⟨-, held, -⟩ | ⟨-, idle⟩
      · exact .inl held
      · exact .inr idle

/-- The descriptor is open and connected. -/
def OpentsdbGlobals.Connected (globals : OpentsdbGlobals) : Prop :=
  globals.sock ∈ globals.descriptors.opened ∧ globals.sock ∈ globals.descriptors.connected

/-- After each call of a run the flag is 1 exactly if the descriptor is open and connected,
no two descriptors have been open at one time, and where the call returns 0 its last send
was accepted on that descriptor. -/
theorem simpleConnects_descriptors (outcomes : List BatchOutcome) :
    ∀ returned ∈ simpleConnects outcomes startedGlobals,
      (returned.2.socketConnected = 1 ↔ returned.2.Connected) ∧ OneAtMost returned.2.calls ∧
        (returned.1 = 0 → returned.2.Connected ∧ returned.2.LastAccepted) := by
  have started : startedGlobals.Idle := by
    refine ⟨rfl, rfl, ?_⟩
    intro earlier later split
    rw [(List.append_eq_nil_iff.mp split.symm).1]
    exact Nat.zero_le 1
  intro returned member
  rcases simpleConnects_returned outcomes (.inr started) returned member with
    ⟨code, held, accepted⟩ | ⟨code, idle⟩
  · have connected : returned.2.Connected := by
      unfold OpentsdbGlobals.Connected
      rw [held.one]
      exact ⟨List.mem_cons_self, List.mem_cons_self⟩
    exact ⟨iff_of_true held.flag connected, held.once, fun _ => ⟨connected, accepted⟩⟩
  · have unconnected : ¬returned.2.Connected := by
      rintro ⟨opened, -⟩
      rw [idle.none] at opened
      exact absurd opened List.not_mem_nil
    refine ⟨iff_of_false ?_ unconnected, idle.once, fun zero => ?_⟩
    · rw [idle.flag]
      decide
    · rw [code] at zero
      exact absurd zero (by decide)

/-- A batch that is sent on a connection, and one whose send fails with no other to be had. -/
def sentBatch : BatchOutcome := ⟨⟨3, 0⟩, 10, ⟨-1, 0⟩, -1⟩
def lostBatch : BatchOutcome := ⟨⟨4, 0⟩, -1, ⟨4, -1⟩, -1⟩

theorem lost_batch_descriptors :
    let lost := simpleConnect lostBatch (simpleConnect sentBatch startedGlobals).2
    (lost.2.socketConnected = 1 ↔ lost.2.Connected) ∧ OneAtMost lost.2.calls ∧
      (lost.1 = 0 → lost.2.Connected ∧ lost.2.LastAccepted) :=
  simpleConnects_descriptors [sentBatch, lostBatch] _
    (List.mem_cons_of_mem _ (List.mem_singleton_self _))

end Runs

section Batches

variable {globals : OpentsdbGlobals} {opentsdb : Opentsdb}

/-- What an attempt comes to for the batches. -/
def ConnectOutcome.answer (outcome : ConnectOutcome) : ConnectAnswer :=
  if outcome.socket < 0 then .noSocket
  else if outcome.connect < 0 then .refused
  else .connected

/-- The outcome of the calls and the answers to a batch are the same. -/
structure BatchOutcome.Of (outcome : BatchOutcome) (call : Call) : Prop where
  connect : call.connect = outcome.connect.answer
  send : call.send = .failed ↔ outcome.send < 0
  reconnect : call.reconnect = outcome.reconnect.answer
  resend : call.resend = .failed ↔ outcome.resend < 0

/-- The globals of a process that has or has not a connection. -/
structure OpentsdbGlobals.Keeps (globals : OpentsdbGlobals) (opentsdb : Opentsdb) : Prop where
  flag : globals.socketConnected ≠ 0 ↔ opentsdb.socket.isSome = true
  error : globals.errorFlag = opentsdb.errorFlag
  syslog : globals.syslog = opentsdb.syslog

theorem OpentsdbGlobals.Keeps.connect (keeps : globals.Keeps opentsdb) (outcome : ConnectOutcome) :
    (connectSocket outcome globals).1 = (opentsdbConnectSocket outcome.answer opentsdb).1 ∧
      (connectSocket outcome globals).2.Keeps (opentsdbConnectSocket outcome.answer opentsdb).2 := by
  obtain ⟨descriptor, result⟩ := outcome
  obtain ⟨socketConnected, sock, errorFlag, syslog, calls⟩ := globals
  obtain ⟨socket, past, reported, lines⟩ := opentsdb
  obtain ⟨flag, rfl, rfl⟩ : _ ∧ errorFlag = reported ∧ syslog = lines :=
    ⟨keeps.flag, keeps.error, keeps.syslog⟩
  unfold ConnectOutcome.answer connectSocket
  by_cases unmade : descriptor < 0
  · rw [if_pos unmade, if_pos unmade]
    exact ⟨rfl, flag, rfl, rfl⟩
  · rw [if_neg unmade, if_neg unmade]
    by_cases refused : result < 0
    · rw [if_pos refused, if_pos refused]
      cases errorFlag with
      | true => exact ⟨rfl, flag, rfl, rfl⟩
      | false => exact ⟨rfl, flag, rfl, rfl⟩
    · rw [if_neg refused, if_neg refused]
      exact ⟨rfl, iff_of_true (show (1 : Int) ≠ 0 by decide) rfl, rfl, rfl⟩

theorem OpentsdbGlobals.Keeps.send (keeps : globals.Keeps opentsdb) {data : List UInt8}
    (answer : SendAnswer data) (descriptor result : Int) :
    (globals.issue (.send descriptor result)).Keeps (opentsdb.send answer).2 := by
  cases answer with
  | failed => exact ⟨keeps.flag, keeps.error, keeps.syslog⟩
  | accepted count taken fits =>
      refine ⟨keeps.flag.trans ?_, keeps.error, keeps.syslog⟩
      exact iff_of_eq (congrArg (· = true) Option.isSome_map.symm)

theorem OpentsdbGlobals.Keeps.closed (keeps : globals.Keeps opentsdb) :
    globals.disconnected.Keeps opentsdb.closed :=
  ⟨iff_of_false (not_not_intro rfl) Bool.false_ne_true, keeps.error, keeps.syslog⟩

theorem send_accepted {data : List UInt8} (opentsdb : Opentsdb) {answer : SendAnswer data}
    {result : Int} (same : answer = .failed ↔ result < 0) :
    (opentsdb.send answer).1 = true ↔ ¬result < 0 := by
  rw [← same]
  cases answer with
  | failed => exact iff_of_false Bool.false_ne_true (not_not_intro rfl)
  | accepted count taken fits => exact iff_of_true rfl nofun

/-- Both return the same, and what they leave keeps the same connection. -/
def Alike (returned : Int × OpentsdbGlobals) (delivered : Int × Opentsdb) : Prop :=
  returned.1 = delivered.1 ∧ returned.2.Keeps delivered.2

/-- A step that follows an attempt to connect. -/
theorem alike_connected {returned : Int × OpentsdbGlobals} {delivered : Int × Opentsdb}
    (alike : Alike returned delivered) (later : OpentsdbGlobals → Int × OpentsdbGlobals)
    (next : Opentsdb → Int × Opentsdb)
    (further : returned.2.Keeps delivered.2 → Alike (later returned.2) (next delivered.2)) :
    Alike (if returned.1 ≠ 0 then (1, returned.2) else later returned.2)
      (if delivered.1 ≠ 0 then (1, delivered.2) else next delivered.2) := by
  obtain ⟨code, kept⟩ := alike
  by_cases refused : returned.1 ≠ 0
  · have unconnected : delivered.1 ≠ 0 := code ▸ refused
    rw [if_pos refused, if_pos unconnected]
    exact ⟨rfl, kept⟩
  · have connected : ¬delivered.1 ≠ 0 := code ▸ refused
    rw [if_neg refused, if_neg connected]
    exact further kept

/-- A send, with what follows where it fails. -/
def sentOr (result : Int) (later : OpentsdbGlobals → Int × OpentsdbGlobals)
    (globals : OpentsdbGlobals) : Int × OpentsdbGlobals :=
  if result < 0 then later (globals.issue (.send globals.sock result))
  else (0, globals.issue (.send globals.sock result))

def Opentsdb.sentOr {data : List UInt8} (answer : SendAnswer data)
    (next : Opentsdb → Int × Opentsdb) (opentsdb : Opentsdb) : Int × Opentsdb :=
  if (opentsdb.send answer).1 then (0, (opentsdb.send answer).2)
  else next (opentsdb.send answer).2

theorem alike_sent (keeps : globals.Keeps opentsdb) {data : List UInt8} {answer : SendAnswer data}
    {result : Int} (same : answer = .failed ↔ result < 0)
    {later : OpentsdbGlobals → Int × OpentsdbGlobals} {next : Opentsdb → Int × Opentsdb}
    (further : ∀ globals opentsdb, OpentsdbGlobals.Keeps globals opentsdb →
      Alike (later globals) (next opentsdb)) :
    Alike (sentOr result later globals) (opentsdb.sentOr answer next) := by
  have accepted := send_accepted opentsdb same
  have sent := keeps.send answer globals.sock result
  unfold sentOr Opentsdb.sentOr
  by_cases failed : result < 0
  · rw [if_pos failed, if_neg (mt accepted.mp (not_not_intro failed))]
    exact further _ _ sent
  · rw [if_neg failed, if_pos (accepted.mpr failed)]
    exact ⟨rfl, sent⟩

/-- What follows the second send that fails. -/
def giveUp (globals : OpentsdbGlobals) : Int × OpentsdbGlobals :=
  (1, globals.disconnected.logged "Unable to send data to opentsdb server\n")

def Opentsdb.given (opentsdb : Opentsdb) : Int × Opentsdb :=
  (1, opentsdb.closed.logged "Unable to send data to opentsdb server\n")

theorem resendOn_keeps {outcome : BatchOutcome} {call : Call} (same : outcome.Of call)
    (keeps : globals.Keeps opentsdb) :
    Alike (resendOn outcome globals) (resendBatch call opentsdb) := by
  have opened := keeps.closed.connect outcome.reconnect
  rw [← same.reconnect] at opened
  have given (globals : OpentsdbGlobals) (opentsdb : Opentsdb) (kept : globals.Keeps opentsdb) :
      Alike (giveUp globals) opentsdb.given :=
    ⟨rfl, kept.closed.flag, kept.closed.error, congrArg (· ++ _) kept.closed.syslog⟩
  exact alike_connected opened (sentOr outcome.resend giveUp)
    (Opentsdb.sentOr call.resend Opentsdb.given) fun kept => alike_sent kept same.resend given

/-- A call returns what the delivery of its batch does, and keeps its connection or its lack
of one. -/
theorem simpleConnect_keeps (keeps : globals.Keeps opentsdb) {outcome : BatchOutcome} {call : Call}
    (same : outcome.Of call) :
    Alike (simpleConnect outcome globals) (opentsdbSimpleConnect call opentsdb) := by
  have opened : Alike (if globals.socketConnected = 0 then connectSocket outcome.connect globals
        else (0, globals)) (if opentsdb.socket.isSome then (0, opentsdb)
          else opentsdbConnectSocket call.connect opentsdb) := by
    by_cases clear : globals.socketConnected = 0
    · have none : ¬opentsdb.socket.isSome = true := fun some => keeps.flag.mpr some clear
      rw [if_pos clear, if_neg none, same.connect]
      exact keeps.connect outcome.connect
    · rw [if_neg clear, if_pos (keeps.flag.mp clear)]
      exact ⟨rfl, keeps⟩
  exact alike_connected opened (sentOr outcome.send (resendOn outcome))
    (Opentsdb.sentOr call.send (resendBatch call)) fun kept =>
      alike_sent kept same.send fun _ _ keeps => resendOn_keeps same keeps

end Batches

end SflowTool
