import SocketCpp.Data.Runs
import SocketCpp.TCPClient.Connecting

namespace SocketCpp.CTCPClient

open Data

/-! Which descriptor a `CTCPClient` holds, over whole runs.

The status and the descriptor are written in different places; they agree as long
as no `Connect` gives up right after the system refused the last address, since
the loop closes that descriptor and keeps its number. -/

structure OwnsDescriptor (state : State CTCPClient) : Prop where
  connected : state.self.eStatus = .connected → state.self.connectSocket ∈ state.trace.sockets
  disconnected : state.self.eStatus = .disconnected → state.self.connectSocket = invalidSocket

def SetsOwn (call : Call) (earlier : Trace) : Prop :=
  match call with
  | .setsockopt fd _ _ => fd = invalidSocket ∨ fd ∈ Trace.sockets earlier
  | _ => True

def Op.Spares : Op → Prop
  | .connect _ _ resolution => ¬ resolution.RefusedLast
  | _ => True

/-- The invariant of a run in which every operation spares the descriptor. -/
structure Tidy (state : State CTCPClient) : Prop where
  owns : OwnsDescriptor state
  sets : Each SetsOwn state.trace

theorem OwnsDescriptor.invalid_or_open {state : State CTCPClient} (owns : OwnsDescriptor state) :
    state.self.connectSocket = invalidSocket ∨
      state.self.connectSocket ∈ state.trace.sockets := by
  cases status : state.self.eStatus with
  | connected => exact .inr (owns.connected status)
  | disconnected => exact .inl (owns.disconnected status)

theorem OwnsDescriptor.of_touching {state : State CTCPClient} (owns : OwnsDescriptor state)
    {trace : Trace}
    (touches : Extends (Ledger.Touching Call.socketEvents) state.trace trace) :
    OwnsDescriptor { state with trace } := by
  have sockets : trace.sockets = state.trace.sockets := Ledger.held_of_touching touches
  refine ⟨?_, owns.disconnected⟩
  intro connected
  change state.self.connectSocket ∈ trace.sockets
  rw [sockets]
  exact owns.connected connected

theorem tidy_transfers {state : State CTCPClient} (tidy : Tidy state) {fd : Socket}
    {trace : Trace} (transfers : Extends (Call.Transfers fd) state.trace trace) :
    Tidy { state with trace } where
  owns := tidy.owns.of_touching (transfers.mono fun _ => Call.Transfers.touching)
  sets := transfers.each tidy.sets fun call _ transfers _ => by
    cases call <;> first | exact transfers.elim | trivial

theorem tidy_setTimeout {state : State CTCPClient} (tidy : Tidy state) (option : SockOption)
    (failure : String) (iErr : Int) :
    Tidy { state with trace := (setTimeout state.self.connectSocket state.self.eSettingsFlags
      option failure iErr state.trace).2 } where
  owns := tidy.owns.of_touching ((setTimeout_extends ..).mono fun _ => Call.Sets.touching)
  sets := (setTimeout_extends ..).each tidy.sets fun call earlier sets before => by
    cases call with
    | setsockopt fd _ _ =>
        have own : fd = state.self.connectSocket := sets
        have sockets : Trace.sockets earlier = state.trace.sockets :=
          Ledger.held_of_touching (before.mono fun _ => Call.Sets.touching)
        simp only [SetsOwn, own, sockets]
        exact tidy.owns.invalid_or_open
    | oLog message => trivial
    | _ => exact sets.elim

theorem sets_of_dials {before after : Trace} (sets : Each SetsOwn before)
    (dials : Extends Call.Dials before after) : Each SetsOwn after :=
  dials.each sets fun call _ dials _ => by
    cases call <;> first | exact dials.elim | trivial

theorem hangUp_invalid {state : State CTCPClient} (owns : OwnsDescriptor state) :
    (state.self.hangUp state.trace).self.connectSocket = invalidSocket := by
  have hungUp := state.self.hangUp_hungUp state.trace
  cases status : state.self.eStatus with
  | connected => exact (hungUp.closed status).1
  | disconnected =>
      rw [hungUp.idle status]
      exact owns.disconnected status

theorem owns_connect_iff {state : State CTCPClient} (owns : OwnsDescriptor state)
    (strServer strPort : String) (resolution : Resolution) :
    OwnsDescriptor (state.self.connect strServer strPort resolution state.trace).toState ↔
      ¬ resolution.RefusedLast := by
  have hungUp := state.self.hangUp_hungUp state.trace
  have invalid := hangUp_invalid owns
  have connects := state.self.connect_connects strServer strPort resolution state.trace
  generalize state.self.connect strServer strPort resolution state.trace = result at connects ⊢
  cases value : result.value with
  | true =>
      obtain ⟨status, isOpen, -⟩ := connects.connected value
      have reaches := connects.value.mp value
      constructor
      · rintro - ⟨-, none, -⟩
        obtain ⟨-, attempt, member, succeeds⟩ := reaches
        exact none attempt member succeeds
      · intro _
        refine ⟨fun _ => isOpen, ?_⟩
        intro disconnected
        rw [status] at disconnected
        cases disconnected
  | false =>
      obtain ⟨unchanged, -, refused, spared⟩ := connects.failed value
      have status : result.self.eStatus = .disconnected := unchanged.trans hungUp.status
      constructor
      · intro owned refusedLast
        have closed := owned.disconnected status
        have valid := (refused refusedLast).1
        rw [closed] at valid
        exact absurd valid (by decide)
      · intro notRefused
        refine ⟨?_, ?_⟩
        · intro connected
          rw [status] at connected
          cases connected
        · intro _
          rcases spared notRefused with same | isInvalid
          · exact same.trans invalid
          · exact isInvalid

theorem tidy_step {state : State CTCPClient} (tidy : Tidy state) {op : Op} (spares : op.Spares) :
    Tidy (step state op) := by
  cases op with
  | connect strServer strPort resolution =>
      have hungUp := state.self.hangUp_hungUp state.trace
      have connects := state.self.connect_connects strServer strPort resolution state.trace
      exact {
        owns := (owns_connect_iff tidy.owns strServer strPort resolution).mpr spares
        sets := sets_of_dials tidy.sets (hungUp.calls.trans connects.calls) }
  | disconnect =>
      cases status : state.self.eStatus with
      | disconnected =>
          have stays : step state .disconnect = state := by simp [step, disconnect, status]
          rw [stays]
          exact tidy
      | connected =>
          have closes : step state .disconnect =
              { self := { state.self with
                  eStatus := .disconnected, connectSocket := invalidSocket }
                trace := .close state.self.connectSocket :: state.trace } := by
            simp [step, disconnect, status]
          rw [closes]
          refine ⟨⟨fun connected => ?_, fun _ => rfl⟩, trivial, tidy.sets⟩
          cases connected
  | send pData uSize script => exact tidy_transfers tidy (send_calls ..)
  | receive pData uSize bReadFully script => exact tidy_transfers tidy (receive_calls ..)
  | setRcvTimeout msecTimeout iErr => exact tidy_setTimeout tidy _ _ iErr
  | setRcvTimeoutTimeval timeout iErr => exact tidy_setTimeout tidy _ _ iErr
  | setSndTimeout msecTimeout iErr => exact tidy_setTimeout tidy _ _ iErr
  | setSndTimeoutTimeval timeout iErr => exact tidy_setTimeout tidy _ _ iErr

theorem tidy_init (eSettings : SettingsFlag) : Tidy (init eSettings) where
  owns := ⟨fun connected => (by cases connected), fun _ => rfl⟩
  sets := trivial

/-- A run keeps the status and the descriptor in agreement exactly when no
`Connect` of it ends with its last address refused, and then no timeout is ever
set through a closed number. -/
theorem descriptor_owned_iff (eSettings : SettingsFlag) (operations : List Op) :
    (Runs.Always step OwnsDescriptor (init eSettings) operations ↔
      Runs.Steps step (fun _ op => op.Spares) (init eSettings) operations) ∧
    (Runs.Steps step (fun _ op => op.Spares) (init eSettings) operations →
      Each SetsOwn (operations.foldl step (init eSettings)).trace) := by
  have keeps : ∀ state op, Tidy state → Op.Spares op → Tidy (step state op) :=
    fun _ _ tidy spares => tidy_step tidy spares
  have breaks : ∀ state op, Tidy state → ¬ Op.Spares op → ¬ OwnsDescriptor (step state op) := by
    intro state op tidy refused
    cases op with
    | connect strServer strPort resolution =>
        exact fun owned =>
          refused ((owns_connect_iff tidy.owns strServer strPort resolution).mp owned)
    | _ => exact absurd trivial refused
  refine ⟨Runs.always_iff_steps (fun _ tidy => tidy.owns) keeps breaks (tidy_init eSettings), ?_⟩
  intro spares
  exact (Runs.always_of_invariant keeps (tidy_init eSettings) spares).last.sets

theorem descriptor_owned_iff_refused_then_accepted :
    ¬ Runs.Always step OwnsDescriptor (init .noFlags)
        [.connect "localhost" "80" (oneAddress (-1))] ∧
      Runs.Always step OwnsDescriptor (init .noFlags)
        [.connect "localhost" "80" (oneAddress 0), .disconnect] := by
  refine ⟨?_, ?_⟩
  · rw [(descriptor_owned_iff .noFlags _).1]
    rintro ⟨spares, -⟩
    exact spares ⟨rfl, by decide, _, rfl, by decide⟩
  · rw [(descriptor_owned_iff .noFlags _).1]
    refine ⟨?_, trivial, trivial⟩
    rintro ⟨-, none, -⟩
    exact none _ (List.mem_singleton_self _) (by decide)

/-- The only address refuses: the client is disconnected, keeps the number it has
closed, and sets a timeout through it. -/
theorem refused_connect_keeps_number :
    let state := [Op.connect "localhost" "80" (oneAddress (-1)), .setRcvTimeout 1000 0].foldl step
      (init .noFlags)
    state.self.eStatus = .disconnected ∧ state.self.connectSocket = 3 ∧
      3 ∉ state.trace.sockets ∧
      state.trace = [.setsockopt 3 (.rcvTimeo { tvSec := 1, tvUsec := 0 }) 0, .freeaddrinfo (some 1),
        .close 3, .connect 3 loopbackEntry.aiAddr (-1), .socket 2 1 0 3,
        .getaddrinfo "localhost" "80" 2 1 0 (some 1)] := by
  decide

end SocketCpp.CTCPClient
