import SocketCpp.Data.Runs
import SocketCpp.Windows.TCPServer

namespace SocketCpp.Windows

open Data

/-! The address list of a `CTCPServer` of the Windows build, over whole runs.

The first `Listen` frees it on every way out, and every later one that has to make
the listening socket again reads it through a null pointer. -/

/-- An address list is read only while it is there. -/
def Call.ReadsLive (call : Call) (earlier : Trace) : Prop :=
  match call with
  | .readAddrInfo list => ∃ handle ∈ earlier.lists, list = some handle
  | _ => True

def Call.AvoidsLists : Call → Prop
  | .getaddrinfo .. | .freeaddrinfo _ | .readAddrInfo _ => False
  | _ => True

/-- Lists are read only while they are there, and each is freed once. -/
structure UsedOnce (trace : Trace) : Prop where
  reads : Each Call.ReadsLive trace
  disciplined : Ledger.Disciplined trace.resolutions
  counts : ∀ list, trace.resolutions.count (.release list) =
    trace.resolutions.count (.acquire list)

section Avoiding

variable {before after : Trace}
  (extended : Extends Call.AvoidsLists before after)

include extended

theorem resolutions_of_avoiding : after.resolutions = before.resolutions :=
  extended.view_eq Trace.resolutions fun call earlier avoids => by
    rw [Trace.resolutions_cons]
    cases call <;> first | exact avoids.elim | rfl

theorem reads_of_avoiding (reads : Each Call.ReadsLive before) : Each Call.ReadsLive after :=
  extended.each reads fun call earlier avoids _ => by
    cases call <;> first | exact avoids.elim | trivial

end Avoiding

theorem selectSocket_avoiding (sd : Socket) (msec : Nat) (answer : SelectAnswer) (trace : Trace) :
    Extends Call.AvoidsLists trace (selectSocket sd msec answer trace).2 := by
  have selected (timeout : Option Timeval) : Extends Call.AvoidsLists trace
      (.select (sd + 1) timeout answer.result :: .fdSet sd :: trace) :=
    ((Extends.refl _ trace).cons (.fdSet sd) trivial).cons
      (.select (sd + 1) timeout answer.result) trivial
  simp only [selectSocket]
  generalize (if 0 < msec then some _ else none : Option Timeval) = timeout
  split_ifs
  · exact selected timeout
  · exact (selected timeout).cons (.fdIsset sd) trivial
  · exact (selected timeout).cons (.fdIsset sd) trivial

namespace CTCPServer

/-- There is a listening socket afterwards. -/
def ListenOp.KeepsListener (server : CTCPServer) (op : ListenOp) : Prop :=
  (server.listenSocket = invalidSocket →
    op.answers.socket.isSome ∧ 0 ≤ op.answers.reuseAddr ∧ op.answers.bind ≠ socketError) ∧
  op.answers.listen ≠ socketError

/-- The list is there. -/
structure Holds (list : Nat) (trace : Trace) : Prop where
  reads : Each Call.ReadsLive trace
  list : trace.resolutions = [.acquire list]

/-- No `Listen` has been called. -/
structure Unused (state : State CTCPServer) : Prop where
  idle : state.self.listenSocket = invalidSocket
  list : ∃ list, state.self.pResultAddrInfo = some list ∧ Holds list state.trace

/-- The list has been freed. -/
structure Freed (state : State CTCPServer) : Prop where
  reads : Each Call.ReadsLive state.trace
  null : state.self.pResultAddrInfo = none
  list : ∃ list, state.trace.resolutions = [.release list, .acquire list]

theorem acceptClient_avoiding (server : CTCPServer) (msec : Nat) (answers : ListenAnswers)
    (trace : Trace) :
    Extends Call.AvoidsLists trace (server.acceptClient msec answers trace).trace := by
  have listening := (Extends.refl Call.AvoidsLists trace).cons
    (.listen server.listenSocket answers.listen) trivial
  have waits : Extends Call.AvoidsLists trace
      (if msec ≠ acceptWaitInfDelay then
        selectSocket server.listenSocket msec answers.select
          (.listen server.listenSocket answers.listen :: trace)
      else (1, .listen server.listenSocket answers.listen :: trace)).2 := by
    split
    · exact listening.trans (selectSocket_avoiding ..)
    · exact listening
  simp only [acceptClient]
  generalize (if msec ≠ acceptWaitInfDelay then _ else _ : Int × Trace) = selected at waits ⊢
  have accepts := waits.cons (.accept server.listenSocket
    (selected.2.newSocket answers.accept) answers.peer) trivial
  split_ifs
  · exact (Trace.oLog_extends listening _ _ trivial).cons (.closesocket server.listenSocket) trivial
  · exact Trace.oLog_extends waits _ _ trivial
  · exact Trace.oLog_extends waits _ _ trivial
  · exact Trace.oLog_extends accepts _ _ trivial
  · exact Trace.oLog_extends accepts _ _ trivial

/-- `Listen` gives its listening socket up only when `listen` fails. -/
theorem acceptClient_self (server : CTCPServer) (msec : Nat) (answers : ListenAnswers)
    (trace : Trace) :
    (server.acceptClient msec answers trace).self =
      if answers.listen = socketError then { server with listenSocket := invalidSocket }
      else server := by
  simp only [acceptClient]
  generalize (if msec ≠ acceptWaitInfDelay then _ else _ : Int × Trace) = selected
  split_ifs <;> rfl

theorem Freed.of_avoiding {state : State CTCPServer} (freed : Freed state) {self : CTCPServer}
    {trace : Trace} (null : self.pResultAddrInfo = none)
    (avoids : Extends Call.AvoidsLists state.trace trace) : Freed { self, trace } where
  reads := reads_of_avoiding avoids freed.reads
  null := null
  list := by
    rw [resolutions_of_avoiding avoids]
    exact freed.list

theorem Freed.accepts {state : State CTCPServer} (freed : Freed state) (op : ListenOp) :
    Freed (state.self.acceptClient op.msec op.answers state.trace).toState := by
  refine freed.of_avoiding ?_ (acceptClient_avoiding ..)
  rw [acceptClient_self]
  split
  · exact freed.null
  · exact freed.null

section Holding

variable {list : Nat} {before after : Trace}

theorem Holds.avoids (holds : Holds list before) (avoids : Extends Call.AvoidsLists before after) :
    Holds list after :=
  ⟨reads_of_avoiding avoids holds.reads, (resolutions_of_avoiding avoids).trans holds.list⟩

theorem Holds.read (holds : Holds list before) :
    Holds list (.readAddrInfo (some list) :: before) := by
  refine ⟨⟨⟨list, ?_, rfl⟩, holds.reads⟩, ?_⟩
  · rw [← Trace.held_resolutions, holds.list]
    exact Finset.mem_insert_self _ _
  · rw [Trace.resolutions_cons, holds.list]
    rfl

theorem Holds.frees (holds : Holds list before) {self : CTCPServer}
    (null : self.pResultAddrInfo = none)
    (avoids : Extends Call.AvoidsLists (.freeaddrinfo (some list) :: before) after) :
    Freed { self, trace := after } := by
  have freed : Trace.resolutions (.freeaddrinfo (some list) :: before) =
      [.release list, .acquire list] := by
    rw [Trace.resolutions_cons, holds.list]
    rfl
  exact ⟨reads_of_avoiding avoids ⟨trivial, holds.reads⟩, null, list,
    (resolutions_of_avoiding avoids).trans freed⟩

end Holding

/-- The first `Listen` frees the list, whether it makes a listening socket or not. -/
theorem Unused.creates {state : State CTCPServer} (unused : Unused state)
    (answers : ListenAnswers) :
    Freed (state.self.createListenSocket answers state.trace).toState ∧
      ((state.self.createListenSocket answers state.trace).value = true ↔
        answers.socket.isSome ∧ 0 ≤ answers.reuseAddr ∧ answers.bind ≠ socketError) ∧
      ((state.self.createListenSocket answers state.trace).self.listenSocket = invalidSocket ↔
        (state.self.createListenSocket answers state.trace).value = false) := by
  obtain ⟨list, named, holds⟩ := unused.list
  simp only [createListenSocket, named]
  rw [if_neg (Option.some_ne_none list)]
  have asked := holds.read
  have valid := Trace.newSocket_some_ne (.readAddrInfo (some list) :: state.trace)
  have failed : Trace.newSocket (.readAddrInfo (some list) :: state.trace) none = invalidSocket :=
    rfl
  generalize (.readAddrInfo (some list) :: state.trace : Trace) = reading at asked valid failed ⊢
  cases found : answers.socket with
  | none =>
      rw [if_pos failed]
      have created := (Extends.refl Call.AvoidsLists reading).cons (.socket answers.entry.aiFamily
        answers.entry.aiSocktype answers.entry.aiProtocol (Trace.newSocket reading none)) trivial
      refine ⟨(asked.avoids (Trace.oLog_extends created _ _ trivial)).frees rfl (Extends.refl _ _), ?_, ?_⟩
      · exact iff_of_false nofun fun creates => nomatch creates.1
      · exact iff_of_true rfl rfl
  | some socket =>
      have valid := valid socket
      generalize Trace.newSocket reading (some socket) = sd at valid ⊢
      rw [if_neg valid]
      have allowed := ((Extends.refl Call.AvoidsLists reading).cons (.socket
        answers.entry.aiFamily answers.entry.aiSocktype answers.entry.aiProtocol sd) trivial).cons
        (.setsockopt sd (.reuseAddr 1) answers.reuseAddr) trivial
      have bound := (asked.avoids allowed).read.avoids
        ((Extends.refl Call.AvoidsLists _).cons (Call.bind sd answers.entry.aiAddr answers.bind)
          trivial)
      split_ifs with disallowed unbound
      · have closed := (Trace.oLog_extends allowed state.self.eSettingsFlags
          "[TCPServer][Error] CTCPServer::Listen : Socket error in call to setsockopt." trivial).cons
          (.closesocket sd) trivial
        refine ⟨(asked.avoids closed).frees rfl (Extends.refl _ _), ?_, iff_of_true rfl rfl⟩
        exact iff_of_false nofun fun creates => absurd disallowed (Int.not_lt.mpr creates.2.1)
      · refine ⟨bound.frees rfl ((Trace.oLog_extends (Extends.refl _ _) _ _ trivial).cons (.closesocket sd)
          trivial), ?_, iff_of_true rfl rfl⟩
        exact iff_of_false nofun fun creates => creates.2.2 unbound
      · refine ⟨bound.frees rfl (Extends.refl _ _), ?_, iff_of_false valid nofun⟩
        exact iff_of_true rfl ⟨rfl, Int.not_lt.mp disallowed, unbound⟩

/-- A later one that makes a listening socket again reads through a null pointer. -/
theorem Freed.not_reads_of_creates {state : State CTCPServer} (freed : Freed state)
    (answers : ListenAnswers) :
    ¬ Each Call.ReadsLive (state.self.createListenSocket answers state.trace).trace := by
  simp only [createListenSocket, freed.null, if_true]
  rintro ⟨⟨list, -, null⟩, -⟩
  cases null

theorem Unused.step {state : State CTCPServer} (unused : Unused state) (op : ListenOp) :
    Freed (step state op) ∧
      ((CTCPServer.step state op).self.listenSocket = invalidSocket ↔
        ¬ op.KeepsListener state.self) := by
  obtain ⟨freed, created, socket⟩ := unused.creates op.answers
  simp only [CTCPServer.step, listen, ListenOp.KeepsListener, unused.idle, if_true, true_implies]
  generalize state.self.createListenSocket op.answers state.trace = result at freed created socket ⊢
  cases value : result.value with
  | false =>
      rw [value] at created socket
      rw [if_neg Bool.false_ne_true]
      refine ⟨freed, iff_of_true (socket.mpr rfl) fun keeps => ?_⟩
      cases created.mpr keeps.1
  | true =>
      rw [value] at created socket
      rw [if_pos rfl]
      refine ⟨freed.accepts op, ?_⟩
      have valid : result.self.listenSocket ≠ invalidSocket := fun none => nomatch socket.mp none
      simp only [acceptClient_self]
      by_cases deaf : op.answers.listen = socketError
      · rw [if_pos deaf]
        exact iff_of_true rfl fun keeps => keeps.2 deaf
      · rw [if_neg deaf]
        exact iff_of_false valid (not_not.mpr ⟨created.mp rfl, deaf⟩)

theorem Freed.step {state : State CTCPServer} (freed : Freed state)
    (valid : state.self.listenSocket ≠ invalidSocket) (op : ListenOp) :
    Freed (step state op) ∧
      ((CTCPServer.step state op).self.listenSocket = invalidSocket ↔
        ¬ op.KeepsListener state.self) := by
  simp only [CTCPServer.step, listen, if_neg valid]
  refine ⟨freed.accepts op, ?_⟩
  simp only [acceptClient_self]
  by_cases deaf : op.answers.listen = socketError
  · rw [if_pos deaf]
    exact iff_of_true rfl fun keeps => keeps.2 deaf
  · rw [if_neg deaf]
    exact iff_of_false valid (not_not.mpr ⟨fun none => absurd none valid, deaf⟩)

/-! Runs, and the destructor after them. -/

theorem createListenSocket_grows (server : CTCPServer) (answers : ListenAnswers)
    (trace : Trace) :
    Extends (fun _ => True) trace (server.createListenSocket answers trace).trace := by
  have asked := (Extends.refl (fun _ => True) trace).cons (.readAddrInfo server.pResultAddrInfo)
    trivial
  have created := asked.cons (.socket answers.entry.aiFamily answers.entry.aiSocktype
    answers.entry.aiProtocol (Trace.newSocket (.readAddrInfo server.pResultAddrInfo :: trace)
      answers.socket)) trivial
  simp only [createListenSocket]
  generalize Trace.newSocket _ answers.socket = sd at created ⊢
  have allowed := created.cons (.setsockopt sd (.reuseAddr 1) answers.reuseAddr) trivial
  have bound := ((allowed.cons (.readAddrInfo server.pResultAddrInfo) trivial).cons
    (.bind sd answers.entry.aiAddr answers.bind) trivial).cons
    (.freeaddrinfo server.pResultAddrInfo) trivial
  split_ifs
  · exact asked
  · exact (Trace.oLog_extends created _ _ trivial).cons _ trivial
  · exact ((Trace.oLog_extends allowed _ _ trivial).cons _ trivial).cons _ trivial
  · exact (Trace.oLog_extends bound _ _ trivial).cons _ trivial
  · exact bound

theorem acceptClient_grows (server : CTCPServer) (msec : Nat) (answers : ListenAnswers)
    (trace : Trace) :
    Extends (fun _ => True) trace (server.acceptClient msec answers trace).trace :=
  (server.acceptClient_avoiding msec answers trace).mono fun _ _ => trivial

theorem listen_grows (server : CTCPServer) (msec : Nat) (answers : ListenAnswers)
    (trace : Trace) :
    Extends (fun _ => True) trace (server.listen msec answers trace).trace := by
  simp only [listen]
  split_ifs
  · exact (server.createListenSocket_grows answers trace).trans (acceptClient_grows ..)
  · exact server.createListenSocket_grows answers trace
  · exact server.acceptClient_grows msec answers trace

theorem not_reads_foldl {state : State CTCPServer} (read : ¬ Each Call.ReadsLive state.trace)
    (operations : List ListenOp) :
    ¬ Each Call.ReadsLive (operations.foldl CTCPServer.step state).trace := by
  induction operations generalizing state with
  | nil => exact read
  | cons op rest ih =>
      apply ih
      obtain ⟨added, grown, -⟩ := state.self.listen_grows op.msec op.answers state.trace
      rw [CTCPServer.step, grown]
      exact fun reads => read (Each.of_append reads)

theorem Freed.usedOnce {state : State CTCPServer} (freed : Freed state) :
    UsedOnce (state.self.destroy state.trace).trace := by
  obtain ⟨list, resolutions⟩ := freed.list
  have destroyed : Trace.resolutions (.closesocket state.self.listenSocket :: state.trace) =
      [.release list, .acquire list] := by
    rw [Trace.resolutions_cons, resolutions]
    rfl
  refine ⟨⟨trivial, freed.reads⟩, ?_, ?_⟩
  · rw [destroy, destroyed]
    simp
  · intro other
    rw [destroy, destroyed]
    simp [List.count_cons]

theorem Freed.not_reads_of_deaf {state : State CTCPServer} (freed : Freed state)
    (deaf : state.self.listenSocket = invalidSocket) (op : ListenOp) :
    ¬ Each Call.ReadsLive (CTCPServer.step state op).trace := by
  have reads := freed.not_reads_of_creates op.answers
  simp only [CTCPServer.step, listen, if_pos deaf]
  split
  · obtain ⟨added, grown, -⟩ := acceptClient_grows
      (state.self.createListenSocket op.answers state.trace).self op.msec op.answers
      (state.self.createListenSocket op.answers state.trace).trace
    rw [grown]
    exact fun later => reads (Each.of_append later)
  · exact reads

/-- After the list is freed, the next `Listen` must find a listening socket. -/
theorem Freed.usedOnce_iff {state : State CTCPServer} (freed : Freed state)
    {operations : List ListenOp} :
    UsedOnce ((operations.foldl CTCPServer.step state).self.destroy
        (operations.foldl CTCPServer.step state).trace).trace ↔
      (state.self.listenSocket = invalidSocket → operations = []) ∧
        Runs.Steps CTCPServer.step (fun state op => op.KeepsListener state.self) state
          operations.dropLast := by
  induction operations generalizing state with
  | nil => exact iff_of_true freed.usedOnce ⟨fun _ => rfl, trivial⟩
  | cons op rest ih =>
      by_cases deaf : state.self.listenSocket = invalidSocket
      · refine iff_of_false ?_ fun needed => nomatch needed.1 deaf
        intro once
        exact not_reads_foldl (freed.not_reads_of_deaf deaf op) rest once.reads.2
      · obtain ⟨freed, lost⟩ := freed.step deaf op
        have needless : state.self.listenSocket = invalidSocket → op :: rest = [] :=
          fun none => absurd none deaf
        rw [List.foldl_cons, ih freed, Runs.steps_dropLast_cons, lost, and_iff_right needless]

theorem unused_new {strPort : String} {eSettings : SettingsFlag} {iResult : Int} {list : Nat}
    {start : State CTCPServer} (constructed : new strPort eSettings iResult list = .ok start) :
    Unused start := by
  unfold new at constructed
  split_ifs at constructed with resolved
  cases constructed
  have succeeded : iResult = 0 := not_not.mp resolved
  refine ⟨rfl, Trace.newList [] list, rfl, ⟨trivial, trivial⟩, ?_⟩
  simp [Trace.resolutions, Call.listEvents, succeeded, acquireIfAny]

/-- The address list of a server is read only while it is there, and freed exactly once by
the end of the destructor, exactly when there is a `Listen` and no `Listen` but the last
one ends without a listening socket. -/
theorem addrInfo_usedOnce_iff {strPort : String} {eSettings : SettingsFlag} {iResult : Int}
    {list : Nat} {start : State CTCPServer}
    (constructed : new strPort eSettings iResult list = .ok start)
    (operations : List ListenOp) :
    let last := operations.foldl step start
    UsedOnce (last.self.destroy last.trace).trace ↔
      operations ≠ [] ∧
        Runs.Steps step (fun state op => op.KeepsListener state.self) start
          operations.dropLast := by
  have unused := unused_new constructed
  cases operations with
  | nil =>
      refine iff_of_false ?_ fun needed => needed.1 rfl
      intro once
      obtain ⟨handle, -, holds⟩ := unused.list
      have counts := once.counts handle
      have destroyed : Trace.resolutions (.closesocket start.self.listenSocket :: start.trace) =
          [.acquire handle] := by
        rw [Trace.resolutions_cons, holds.list]
        rfl
      simp only [List.foldl_nil, destroy, destroyed] at counts
      simp at counts
  | cons op rest =>
      obtain ⟨freed, lost⟩ := unused.step op
      intro last
      rw [and_iff_right (List.cons_ne_nil op rest), Runs.steps_dropLast_cons, ← lost]
      exact freed.usedOnce_iff

def listenWith (bind : Int) : ListenOp where
  msec := acceptWaitInfDelay
  answers := {
    entry := {
      aiFamily := afInet
      aiSocktype := sockStream
      aiProtocol := ipprotoTcp
      aiAddr := { sinFamily := afInet, sinAddr := inaddrAny, sinPort := 80 } }
    socket := some 4
    reuseAddr := 0
    bind := bind
    listen := 0
    select := { result := 1, ready := true }
    accept := some 5
    peer := { sinFamily := afInet, sinAddr := 2130706433, sinPort := 50000 }
    error := 10048 }

def constructedServer : State CTCPServer where
  self := { eSettingsFlags := .noFlags, listenSocket := invalidSocket, pResultAddrInfo := some 1 }
  trace := [.getaddrinfo none "80" hints 0 (some 1)]

theorem addrInfo_usedOnce_iff_two_clients :
    let operations := [listenWith 0, listenWith 0]
    let last := operations.foldl step constructedServer
    new "80" .noFlags 0 1 = .ok constructedServer ∧
      UsedOnce (last.self.destroy last.trace).trace := by
  intro operations last
  have constructed : new "80" .noFlags 0 1 = .ok constructedServer := rfl
  have keeps : (listenWith 0).KeepsListener constructedServer.self :=
    ⟨fun _ => by decide, by decide⟩
  exact ⟨constructed, (addrInfo_usedOnce_iff constructed operations).mpr
    ⟨List.cons_ne_nil _ _, keeps, trivial⟩⟩

/-- A `Listen` whose `bind` fails cannot be retried: the next one reads the list through a
null pointer.  A server that never listens keeps its list. -/
theorem retried_listen_reads_null :
    let last := [listenWith socketError, listenWith 0].foldl step constructedServer
    let unused := (constructedServer.self.destroy constructedServer.trace).trace
    new "80" .noFlags 0 1 = .ok constructedServer ∧
      Call.readAddrInfo none ∈ last.trace ∧
      ¬ UsedOnce (last.self.destroy last.trace).trace ∧
      unused.lists = {1} ∧ ¬ UsedOnce unused := by
  intro last unused
  have read : last.trace.head? = some (.readAddrInfo none) := by decide
  refine ⟨rfl, List.mem_of_mem_head? read, ?_, by decide, ?_⟩
  · intro once
    have reads := once.reads.2
    cases calls : last.trace with
    | nil => simp [calls] at read
    | cons call earlier =>
        rw [calls] at read reads
        cases read
        obtain ⟨list, -, null⟩ := reads.1
        cases null
  · intro once
    have counts := once.counts 1
    exact absurd counts (by decide)

end CTCPServer

end SocketCpp.Windows
