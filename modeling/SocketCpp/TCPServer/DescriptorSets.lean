import SocketCpp.ASocket.Selecting
import SocketCpp.TCPServer.Listening

namespace SocketCpp

open Data

/-! Which descriptors are put into an `fd_set` and looked up in it.

`FD_SET` and `FD_ISSET` index an array of `FD_SETSIZE` bits and check nothing.
`SelectSocket` guards the lower end of the range only, and `SelectSockets` neither. -/

def Call.InRange : Call → Prop
  | .fdSet sd | .fdIsset sd => InFdSet sd
  | _ => True

/-- No set is indexed out of range, and an argument that is not `valid` is answered with
-1 before the set is touched. -/
structure Guarded (valid : Prop) (before : Trace) (value : Int) (after : Trace) : Prop where
  inRange : Extends Call.InRange before after
  answered : ¬ valid → value = -1 ∧ after = before

theorem Call.WaitsOn.inRange {sd : Socket} {call : Call} (valid : InFdSet sd)
    (waits : call.WaitsOn sd) : call.InRange := by
  cases call with
  | fdSet | fdIsset =>
      obtain rfl : _ = sd := waits
      exact valid
  | select => trivial
  | _ => exact waits.elim

theorem Call.Creates.inRange {call : Call} (creates : call.Creates) : call.InRange := by
  cases call <;> trivial

theorem selectSocket_inRange_iff (sd : Socket) (msec : Nat) (answer : SelectAnswer)
    (trace : Trace) :
    Extends Call.InRange trace (selectSocket sd msec answer trace).2 ↔ sd < fdSetSize := by
  by_cases negative : sd < 0
  · rw [selectSocket_of_neg negative]
    exact iff_of_true (Extends.refl _ trace) (Int.lt_trans negative (by decide))
  · have valid := Int.not_lt.mp negative
    have first : Extends (fun _ => True) trace (.fdSet sd :: trace) := Extends.cons_iff.mpr trivial
    have later := selectSocket_sets valid msec answer trace
    rw [first.trans_iff later, Extends.cons_iff]
    constructor
    · exact fun inRange => inRange.1.2
    · intro below
      have inside : InFdSet sd := ⟨valid, below⟩
      exact ⟨inside, later.mono fun _ => Call.WaitsOn.inRange inside⟩

theorem selectSocket_guarded_iff (sd : Socket) (msec : Nat) (answer : SelectAnswer)
    (trace : Trace) :
    Guarded (InFdSet sd) trace (selectSocket sd msec answer trace).1
        (selectSocket sd msec answer trace).2 ↔ sd < fdSetSize := by
  constructor
  · exact fun guarded => (selectSocket_inRange_iff sd msec answer trace).mp guarded.inRange
  · intro below
    refine ⟨(selectSocket_inRange_iff sd msec answer trace).mpr below, ?_⟩
    intro outside
    have negative : sd < 0 := Int.not_le.mp fun valid => outside ⟨valid, below⟩
    rw [selectSocket_of_neg negative]
    exact ⟨rfl, rfl⟩

/-- The descriptors of an array; a null pointer has none. -/
def arraySockets (pSocketsToSelect : Option (Buffer Socket)) (count : Nat) : List Socket :=
  match pSocketsToSelect with
  | none => []
  | some sockets => sockets.read 0 count

theorem selectedTrace_inRange_iff (watched : List Socket) (msec : Nat) (answer : SelectSetAnswer)
    (trace : Trace) :
    Extends Call.InRange trace (selectedTrace watched msec answer trace) ↔
      ∀ sd ∈ watched, InFdSet sd := by
  have first : Extends (fun _ => True) trace ((watched.map Call.fdSet).reverse ++ trace) :=
    Extends.append_iff.mpr fun _ _ => trivial
  have later : Extends Call.InRange ((watched.map Call.fdSet).reverse ++ trace)
      (selectedTrace watched msec answer trace) := Extends.cons_iff.mpr trivial
  rw [first.trans_iff later, Extends.append_iff, and_iff_left later]
  simp [Call.InRange]

theorem selectSockets_guarded_iff (pSocketsToSelect : Option (Buffer Socket))
    (count msec selectedIndex : Nat) (answer : SelectSetAnswer) (trace : Trace) :
    let outcome := selectSockets pSocketsToSelect count msec selectedIndex answer trace
    let sockets := arraySockets pSocketsToSelect count
    Guarded (sockets ≠ [] ∧ ∀ sd ∈ sockets, InFdSet sd) trace outcome.value outcome.trace ↔
      ∀ sd ∈ sockets, InFdSet sd := by
  intro outcome sockets
  cases pSocketsToSelect with
  | none =>
      exact iff_of_true ⟨Extends.refl _ trace, fun _ => ⟨rfl, rfl⟩⟩ (by simp [sockets, arraySockets])
  | some array =>
      by_cases empty : count = 0
      · subst empty
        exact iff_of_true ⟨Extends.refl _ trace, fun _ => ⟨rfl, rfl⟩⟩
          (by simp [sockets, arraySockets])
      · have nonempty := Nat.pos_of_ne_zero empty
        have first : Extends (fun _ => True) trace (selectedTrace sockets msec answer trace) :=
          ⟨.select _ _ _ :: (sockets.map Call.fdSet).reverse, rfl, fun _ _ => trivial⟩
        have later := @selectSockets_calls array count nonempty msec selectedIndex answer trace
        constructor
        · intro guarded
          have both := (first.trans_iff later).mp guarded.inRange
          exact (selectedTrace_inRange_iff sockets msec answer trace).mp both.1
        · intro valid
          have filled := (selectedTrace_inRange_iff sockets msec answer trace).mpr valid
          have searched : Extends Call.InRange (selectedTrace sockets msec answer trace)
              outcome.trace := later.mono fun _ tests => by
            obtain ⟨sd, member, rfl⟩ := tests
            exact valid sd member
          refine ⟨filled.trans searched, ?_⟩
          intro rejected
          have some : sockets ≠ [] :=
            List.length_pos_iff.mp (by simpa [sockets, arraySockets] using nonempty)
          exact absurd ⟨some, valid⟩ rejected

namespace CTCPServer

/-- The socket that `Listen` waits on: the one that it has, or else the one it creates. -/
def listeningSocket (server : CTCPServer) (answers : ListenAnswers) (trace : Trace) : Socket :=
  if server.listenSocket = invalidSocket then trace.newSocket answers.socket
  else server.listenSocket

/-- `Listen` comes to its call of `SelectSocket`. -/
def Waits (server : CTCPServer) (msec : Nat) (answers : ListenAnswers) : Prop :=
  (server.listenSocket = invalidSocket → answers.Creates) ∧ 0 ≤ answers.listen ∧
    msec ≠ acceptWaitInfDelay

/-- The sets of a `Listen` are not indexed out of range, and it fails if it would have to
wait on another descriptor. -/
structure ListenGuarded (server : CTCPServer) (msec : Nat) (answers : ListenAnswers)
    (trace : Trace) (outcome : Listened) : Prop where
  inRange : Extends Call.InRange trace outcome.trace
  answered : server.Waits msec answers →
    ¬ InFdSet (server.listeningSocket answers trace) → outcome.value = false

theorem acceptClient_inRange_iff (server : CTCPServer) (msec : Nat) (answers : ListenAnswers)
    (trace : Trace) :
    Extends Call.InRange trace (server.acceptClient msec answers trace).trace ↔
      (0 ≤ answers.listen → msec ≠ acceptWaitInfDelay → server.listenSocket < fdSetSize) := by
  have listens : Extends Call.InRange trace (.listen server.listenSocket answers.listen :: trace) :=
    Extends.cons_iff.mpr trivial
  simp only [acceptClient]
  by_cases fails : answers.listen < 0
  · rw [if_pos fails]
    exact iff_of_true (Trace.oLog_extends listens _ _ trivial)
      fun lower => absurd lower (Int.not_le.mpr fails)
  · rw [if_neg fails]
    generalize chosen : (if msec ≠ acceptWaitInfDelay then
      selectSocket server.listenSocket msec answers.select
        (.listen server.listenSocket answers.listen :: trace)
      else (1, .listen server.listenSocket answers.listen :: trace)) = selected
    have waited : Extends (fun _ => True) trace selected.2 ∧
        (Extends Call.InRange trace selected.2 ↔
          (msec ≠ acceptWaitInfDelay → server.listenSocket < fdSetSize)) := by
      rw [← chosen]
      by_cases limited : msec ≠ acceptWaitInfDelay
      · have waits := selectSocket_extends server.listenSocket msec answers.select
          (.listen server.listenSocket answers.listen :: trace)
        rw [if_pos limited]
        refine ⟨(listens.mono fun _ _ => trivial).trans (waits.mono fun _ _ => trivial), ?_⟩
        rw [listens.trans_iff waits, selectSocket_inRange_iff]
        exact ⟨fun both _ => both.2, fun below => ⟨listens, below limited⟩⟩
      · rw [if_neg limited]
        exact ⟨listens.mono fun _ _ => trivial,
          iff_of_true listens fun infinite => absurd infinite limited⟩
    -- every exit behind the wait leaves the sets alone
    have later {after : Trace} (rest : Extends Call.InRange selected.2 after) :
        Extends Call.InRange trace after ↔ (0 ≤ answers.listen → msec ≠ acceptWaitInfDelay →
          server.listenSocket < fdSetSize) := by
      rw [waited.1.trans_iff rest, and_iff_left rest, waited.2]
      exact ⟨fun below _ => below, fun below => below (Int.not_lt.mp fails)⟩
    have start := Extends.refl Call.InRange selected.2
    have accepted : Extends Call.InRange selected.2 (.accept server.listenSocket
        (selected.2.newSocket answers.accept) answers.peer :: selected.2) :=
      Extends.cons_iff.mpr trivial
    split_ifs
    · exact later (Trace.oLog_extends start _ _ trivial)
    · exact later (Trace.oLog_extends start _ _ trivial)
    · exact later (Trace.oLog_extends accepted _ _ trivial)
    · exact later (Trace.oLog_extends accepted _ _ trivial)

theorem acceptClient_of_neg {server : CTCPServer} (negative : server.listenSocket < 0) {msec : Nat}
    {answers : ListenAnswers} (listens : 0 ≤ answers.listen) (limited : msec ≠ acceptWaitInfDelay)
    (trace : Trace) : (server.acceptClient msec answers trace).value = false := by
  simp [acceptClient, selectSocket_of_neg negative, Int.not_lt.mpr listens, limited]

theorem createListenSocket_socket {server : CTCPServer} {answers : ListenAnswers} {trace : Trace}
    (made : (server.createListenSocket answers trace).value = true) :
    (server.createListenSocket answers trace).self.listenSocket =
      trace.newSocket answers.socket := by
  simp only [createListenSocket] at made ⊢
  split_ifs at made ⊢
  rfl

theorem listen_inRange_iff (server : CTCPServer) (msec : Nat) (answers : ListenAnswers)
    (trace : Trace) :
    Extends Call.InRange trace (server.listen msec answers trace).trace ↔
      (server.Waits msec answers → server.listeningSocket answers trace < fdSetSize) := by
  simp only [listen, listeningSocket, Waits]
  by_cases missing : server.listenSocket = invalidSocket
  · have created := (server.createListenSocket_created answers trace).calls.mono
      fun _ => Call.Creates.inRange
    have creates := (server.createListenSocket_value answers trace).1
    rw [if_pos missing, if_pos missing]
    cases value : (server.createListenSocket answers trace).value with
    | false =>
        rw [if_neg Bool.false_ne_true]
        refine iff_of_true created fun waits => ?_
        have made := creates.mpr (waits.1 missing)
        rw [value] at made
        cases made
    | true =>
        rw [if_pos rfl, created.trans_iff (acceptClient_accepts ..), and_iff_right created,
          acceptClient_inRange_iff, createListenSocket_socket value]
        have made := creates.mp value
        exact ⟨fun below waits => below waits.2.1 waits.2.2,
          fun below listens limited => below ⟨fun _ => made, listens, limited⟩⟩
  · rw [if_neg missing, if_neg missing, acceptClient_inRange_iff]
    exact ⟨fun below waits => below waits.2.1 waits.2.2,
      fun below listens limited => below ⟨fun absent => absurd absent missing, listens, limited⟩⟩

theorem listen_guarded_iff (server : CTCPServer) (msec : Nat) (answers : ListenAnswers)
    (trace : Trace) :
    server.ListenGuarded msec answers trace (server.listen msec answers trace) ↔
      (server.Waits msec answers → server.listeningSocket answers trace < fdSetSize) := by
  rw [← listen_inRange_iff server msec answers trace]
  refine ⟨fun guarded => guarded.inRange, fun inRange => ⟨inRange, ?_⟩⟩
  intro waits outside
  have below := (listen_inRange_iff server msec answers trace).mp inRange waits
  have negative : server.listeningSocket answers trace < 0 :=
    Int.not_le.mp fun valid => outside ⟨valid, below⟩
  by_cases missing : server.listenSocket = invalidSocket
  · obtain ⟨named, isNamed⟩ := Option.isSome_iff_exists.mp (waits.1 missing).1
    have valid := trace.newSocket_some_nonneg named
    rw [listeningSocket, if_pos missing, isNamed] at negative
    exact absurd negative (Int.not_lt.mpr valid)
  · rw [listeningSocket, if_neg missing] at negative
    rw [listen, if_neg missing]
    exact acceptClient_of_neg negative waits.2.1 waits.2.2 trace

end CTCPServer

/-- Descriptor sets are guarded exactly where the descriptors stay below `FD_SETSIZE`,
and in an array are none of them negative. -/
theorem descriptor_sets_guarded_iff (msec : Nat) (trace : Trace) :
    (∀ sd answer,
      Guarded (InFdSet sd) trace (selectSocket sd msec answer trace).1
        (selectSocket sd msec answer trace).2 ↔ sd < fdSetSize) ∧
    (∀ pSocketsToSelect count selectedIndex answer,
      let outcome := selectSockets pSocketsToSelect count msec selectedIndex answer trace
      let sockets := arraySockets pSocketsToSelect count
      Guarded (sockets ≠ [] ∧ ∀ sd ∈ sockets, InFdSet sd) trace outcome.value outcome.trace ↔
        ∀ sd ∈ sockets, InFdSet sd) ∧
    (∀ (server : CTCPServer) answers,
      server.ListenGuarded msec answers trace (server.listen msec answers trace) ↔
        (server.Waits msec answers → server.listeningSocket answers trace < fdSetSize)) := by
  refine ⟨?_, ?_, ?_⟩
  · exact fun sd answer => selectSocket_guarded_iff sd msec answer trace
  · exact fun pSocketsToSelect count selectedIndex answer =>
      selectSockets_guarded_iff pSocketsToSelect count msec selectedIndex answer trace
  · exact fun server answers => server.listen_guarded_iff msec answers trace

/-- A client that is not connected in an array, a descriptor 1024, and a server that gets
1024 for its listening socket. -/
theorem descriptor_sets_unguarded :
    let array : Buffer Socket := Buffer.ofList [invalidSocket, 5] 0
    let sockets := selectSockets (some array) 2 100 0 ⟨0, ∅⟩ []
    let socket := selectSocket 1024 100 ⟨0, false⟩ []
    let answers : ListenAnswers := ⟨some 1024, 0, 0, 0, ⟨0, false⟩, none, ⟨0, 0, 0⟩, ""⟩
    let server := CTCPServer.new "80" .noFlags
    let listened := server.listen 100 answers []
    (Call.fdSet invalidSocket ∈ sockets.trace ∧ ¬ InFdSet invalidSocket ∧
      ¬ Guarded (∀ sd ∈ [invalidSocket, 5], InFdSet sd) [] sockets.value sockets.trace) ∧
    (Call.fdSet 1024 ∈ socket.2 ∧ ¬ InFdSet 1024 ∧
      ¬ Guarded (InFdSet 1024) [] socket.1 socket.2) ∧
    Call.fdSet 1024 ∈ listened.trace ∧ ¬ server.ListenGuarded 100 answers [] listened := by
  intro array sockets socket answers server listened
  have negative : ¬ InFdSet invalidSocket := by decide
  have large : ¬ InFdSet 1024 := by decide
  have stale : Call.fdSet invalidSocket ∈ sockets.trace := by decide
  have high : Call.fdSet 1024 ∈ socket.2 := by decide
  have listening : Call.fdSet 1024 ∈ listened.trace := by decide
  refine ⟨⟨stale, negative, ?_⟩, ⟨high, large, ?_⟩, listening, ?_⟩
  · exact fun guarded => negative (Extends.nil_iff.mp guarded.inRange _ stale)
  · exact fun guarded => large (Extends.nil_iff.mp guarded.inRange _ high)
  · exact fun guarded => large (Extends.nil_iff.mp guarded.inRange _ listening)

end SocketCpp
