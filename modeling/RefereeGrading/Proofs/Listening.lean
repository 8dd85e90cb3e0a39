import RefereeGrading.Capture
import RefereeGrading.Proofs.Codec

/-!
# What a listener logs

A listener appends a record for each non-empty datagram it receives, in arrival order, stamped
with its address and port and the next clock reading; empty datagrams and timeouts leave no
trace. A record is built whole before it is written, so one that cannot be built writes
nothing: the run stops with the records before it written and counted.
-/

namespace RefereeGrading

variable {pb : Protobuf}

namespace Capture

/-- The records a listener writes for stored datagrams, stamped with successive clock
readings from the `taken`-th on. -/
def Listener.stamped (listener : Listener) (clock : Nat → Int) (taken : Nat) :
    List (List UInt8) → List Datagram
  | [] => []
  | payload :: rest =>
    ⟨listener.address, listener.port, clock taken, payload⟩ ::
      listener.stamped clock (taken + 1) rest

theorem filterMap_received {keep : Option (List UInt8) → Option (List UInt8)}
    (kept : ∀ data, keep (some data) = if data.isEmpty then none else some data)
    (dropped : keep none = none) (receives : List (Option (List UInt8))) :
    receives.filterMap keep = receives.reduceOption.filter (!·.isEmpty) := by
  induction receives with
  | nil => rfl
  | cons received rest ih =>
    cases received with
    | none => simp [dropped, ih]
    | some data =>
      cases data <;> simp [kept, ih, List.reduceOption_cons_of_some]

section Store

variable {listener : Listener} {clock : Nat → Int}

theorem Session.store_cons_of_record_ok {session : Session} {taken : Nat}
    {payload : List UInt8} {rest : List (List UInt8)} {bytes : List UInt8}
    (recorded : Log.record pb ⟨listener.address, listener.port, clock taken, payload⟩ =
      .ok bytes) :
    session.store pb listener clock taken (payload :: rest) =
      Session.store pb { session with count := session.count + 1, log := session.log ++ bytes }
        listener clock (taken + 1) rest := by
  simp [Session.store, recorded]

theorem Session.store_cons_of_record_error {session : Session} {taken : Nat}
    {payload : List UInt8} {rest : List (List UInt8)} {problem : Log.WriteError}
    (refused : Log.record pb ⟨listener.address, listener.port, clock taken, payload⟩ =
      .error problem) :
    session.store pb listener clock taken (payload :: rest) = (session, some problem) := by
  simp [Session.store, refused]

/-- Storing datagrams that are all recorded appends exactly their log and counts them, and
the loop goes on with the next clock reading. -/
theorem Session.store_append (front rest : List (List UInt8)) :
    ∀ (session : Session) (taken : Nat) (log : List UInt8),
      Log.write pb (listener.stamped clock taken front) = .ok log →
      session.store pb listener clock taken (front ++ rest) =
        Session.store pb
          { session with count := session.count + front.length, log := session.log ++ log }
          listener clock (taken + front.length) rest := by
  induction front with
  | nil =>
    intro session taken log written
    simp only [Listener.stamped, Log.write, List.mapM_nil, pure_bind, List.flatten_nil] at written
    cases written
    simp
  | cons payload front ih =>
    intro session taken log written
    obtain ⟨bytes, restLog, recorded, restWritten, rfl⟩ := Log.write_cons_eq_ok written
    rw [List.cons_append, Session.store_cons_of_record_ok recorded, ih _ _ _ restWritten]
    simp [Nat.add_assoc, Nat.add_comm 1]

/-- A listener's run is its store loop over the non-empty datagrams it received: it keeps
what the loop wrote, counted and failed with, and records as received what the loop
counted. -/
theorem Session.listen_of_store {session stored : Session} (settings : Settings)
    {receives : List (Option (List UInt8))} {failure : Option Log.WriteError}
    (ran : session.store pb listener clock 0 (receives.reduceOption.filter (!·.isEmpty)) =
      (stored, failure)) :
    ∃ after, session.listen pb settings listener receives clock = (after, failure) ∧
      after.log = stored.log ∧ after.count = stored.count ∧
      after.heard.map Heard.received =
        session.heard.map Heard.received ++ [stored.count - session.count] := by
  unfold Session.listen
  rw [filterMap_received (fun _ => rfl) rfl]
  dsimp only
  rw [ran]
  exact ⟨_, rfl, rfl, rfl, by simp⟩

end Store

/-- A listener logs the datagrams it receives: every non-empty one, in arrival order, in a
record with its address and port and the next clock reading, and it counts them. When a clock
reading does not fit the record's 64-bit field, the run stops there, with the records of the
earlier datagrams written whole and counted, and nothing of the refused one. -/
theorem listen_logs_nonempty_datagrams_in_order (pb : Protobuf) (laws : pb.Lawful)
    (session : Session) (settings : Settings) (listener : Listener)
    (receives : List (Option (List UInt8))) (clock : Nat → Int) :
    ((∀ datagram ∈ listener.stamped clock 0 (receives.reduceOption.filter (!·.isEmpty)),
        datagram.Encodable ∧ ∀ bytes, datagram.encode pb = .ok bytes → bytes.length < 2 ^ 32) →
      ∃ after log, session.listen pb settings listener receives clock = (after, none) ∧
        after.log = session.log ++ log ∧
        Log.read pb log =
          ⟨listener.stamped clock 0 (receives.reduceOption.filter (!·.isEmpty)), [], none⟩ ∧
        after.count = session.count + (receives.reduceOption.filter (!·.isEmpty)).length ∧
        after.heard.map Heard.received = session.heard.map Heard.received ++
          [(receives.reduceOption.filter (!·.isEmpty)).length]) ∧
    ∀ front payload rest,
      receives.reduceOption.filter (!·.isEmpty) = front ++ payload :: rest →
      (∃ text, listener.address = Address.ofString text) → 0 ≤ listener.port →
      listener.port < 2 ^ 32 →
      (∀ datagram ∈ listener.stamped clock 0 front,
        datagram.Encodable ∧ ∀ bytes, datagram.encode pb = .ok bytes → bytes.length < 2 ^ 32) →
      ¬(0 ≤ clock front.length ∧ clock front.length < 2 ^ 64) →
      ∃ after log, session.listen pb settings listener receives clock =
          (after, some (.encode (.outOfRange (clock front.length)))) ∧
        after.log = session.log ++ log ∧
        Log.read pb log = ⟨listener.stamped clock 0 front, [], none⟩ ∧
        after.count = session.count + front.length ∧
        after.heard.map Heard.received = session.heard.map Heard.received ++ [front.length] := by
  constructor
  · intro writable
    obtain ⟨log, written, readBack⟩ := Log.read_write laws writable
    have stored := @Session.store_append pb listener clock
      (receives.reduceOption.filter (!·.isEmpty)) [] session 0 log written
    rw [List.append_nil, Session.store] at stored
    obtain ⟨after, listened, logged, counted, heard⟩ := Session.listen_of_store settings stored
    exact ⟨after, log, listened, logged, readBack, counted, by simpa using heard⟩
  · intro front payload rest split ⟨text, named⟩ portNonneg portBelow writable outside
    obtain ⟨log, written, readBack⟩ := Log.read_write laws writable
    have refused : Log.record pb ⟨listener.address, listener.port, clock (0 + front.length),
        payload⟩ = .error (.encode (.outOfRange (clock front.length))) := by
      rw [named, Nat.zero_add, Log.record,
        Datagram.encode_of_time_outside laws text payload portNonneg portBelow outside]
      rfl
    have stored := @Session.store_append pb listener clock front (payload :: rest) session 0 log
      written
    rw [Session.store_cons_of_record_error refused, ← split] at stored
    obtain ⟨after, listened, logged, counted, heard⟩ := Session.listen_of_store settings stored
    exact ⟨after, log, listened, logged, readBack, counted, by simpa using heard⟩

/-- The listener of the capture test: `224.5.23.1` on port 10010, with the default receive
size. -/
def testListener : Listener := ⟨Address.ofString "224.5.23.1", 10010, 0⟩

/-- The receives of the capture test, `first` and `second`, with a timeout and an empty datagram
between them. -/
def testReceives : List (Option (List UInt8)) :=
  [some [0x66, 0x69, 0x72, 0x73, 0x74], none, some [],
    some [0x73, 0x65, 0x63, 0x6F, 0x6E, 0x64]]

theorem testListener_writable (time : Int) (payload : List UInt8) (timeNonneg : 0 ≤ time)
    (timeBelow : time < 2 ^ 64) (payloadShort : payload.length < 2 ^ 10) :
    (⟨testListener.address, testListener.port, time, payload⟩ : Datagram).Encodable ∧
      ∀ bytes, (⟨testListener.address, testListener.port, time, payload⟩ : Datagram).encode
        Wire.proto2 = .ok bytes → bytes.length < 2 ^ 32 := by
  refine ⟨⟨⟨"224.5.23.1", rfl, by decide⟩, by simp [testListener], by simp [testListener],
    timeNonneg, timeBelow, by dsimp only; omega⟩, fun bytes encoded => ?_⟩
  have addressLength : (Text.encode "224.5.23.1").length = 10 := by decide
  have bound := Datagram.length_encode_proto2_le (by omega) (by omega) encoded
  omega

theorem listen_logs_nonempty_datagrams_in_order_ticks :
    (∃ after log, ({} : Session).listen Wire.proto2 default testListener testReceives
        (fun taken => 1000 * (taken + 1)) = (after, none) ∧ after.log = log ∧
      Log.read Wire.proto2 log =
        ⟨[⟨Address.ofString "224.5.23.1", 10010, 1000, [0x66, 0x69, 0x72, 0x73, 0x74]⟩,
          ⟨Address.ofString "224.5.23.1", 10010, 2000, [0x73, 0x65, 0x63, 0x6F, 0x6E, 0x64]⟩],
          [], none⟩ ∧
      after.count = 2) ∧
    ∃ after log, ({} : Session).listen Wire.proto2 default testListener testReceives
        (fun taken => if taken = 0 then 1000 else -1) =
          (after, some (.encode (.outOfRange (-1)))) ∧
      after.log = log ∧
      Log.read Wire.proto2 log =
        ⟨[⟨Address.ofString "224.5.23.1", 10010, 1000, [0x66, 0x69, 0x72, 0x73, 0x74]⟩], [],
          none⟩ ∧
      after.count = 1 := by
  have stored : testReceives.reduceOption.filter (!·.isEmpty) =
      [[0x66, 0x69, 0x72, 0x73, 0x74]] ++ [0x73, 0x65, 0x63, 0x6F, 0x6E, 0x64] :: [] := by
    decide
  constructor
  · obtain ⟨after, log, listened, logged, readBack, counted, -⟩ :=
      (listen_logs_nonempty_datagrams_in_order Wire.proto2 Wire.proto2_lawful {} default
        testListener testReceives (fun taken => 1000 * (taken + 1))).1 (by
          rw [stored]
          simp only [List.cons_append, List.nil_append, Listener.stamped, List.mem_cons,
            List.not_mem_nil, or_false, forall_eq_or_imp, forall_eq]
          exact ⟨testListener_writable _ _ (by decide) (by decide) (by decide),
            testListener_writable _ _ (by decide) (by decide) (by decide)⟩)
    refine ⟨after, log, listened, by simpa using logged, ?_, by simpa [stored] using counted⟩
    rw [readBack, stored]
    rfl
  · obtain ⟨after, log, listened, logged, readBack, counted, -⟩ :=
      (listen_logs_nonempty_datagrams_in_order Wire.proto2 Wire.proto2_lawful {} default
        testListener testReceives (fun taken => if taken = 0 then 1000 else -1)).2
        [[0x66, 0x69, 0x72, 0x73, 0x74]] [0x73, 0x65, 0x63, 0x6F, 0x6E, 0x64] [] stored
        ⟨"224.5.23.1", rfl⟩ (by decide) (by decide) (by
          simp only [Listener.stamped, List.mem_cons, List.not_mem_nil, or_false, forall_eq]
          exact testListener_writable _ _ (by decide) (by decide) (by decide)) (by decide)
    exact ⟨after, log, listened, by simpa using logged, readBack, by simpa using counted⟩

/-- Two captures a listener cannot log as received. At an address holding a lone surrogate
the first record cannot be built, so the run fails and writes nothing; and a datagram of
`2 ^ 31 - 1` bytes is written, but its record reads back as a warning, not a datagram. -/
theorem listen_refuses_surrogate_address_and_long_datagram :
    (∃ after, ({} : Session).listen Wire.proto2 default ⟨.text [0xD800], 1, 0⟩ [some [0x61]]
        (fun _ => 0) = (after, some (.encode (.unencodable ⟨[0xD800], 0, 1⟩))) ∧
      after.log = [] ∧ after.count = 0) ∧
    ∃ after log, ({} : Session).listen Wire.proto2 default ⟨Address.ofString "a", 1, 0⟩
        [some (List.replicate (2 ^ 31 - 1) 0)] (fun _ => 0) = (after, none) ∧
      after.log = log ∧ (Log.read Wire.proto2 log).datagrams = [] ∧
      (Log.read Wire.proto2 log).warnings.length = 1 := by
  constructor
  · have stored : ({} : Session).store Wire.proto2 ⟨.text [0xD800], 1, 0⟩ (fun _ => 0) 0
        ([some [0x61]].reduceOption.filter (!·.isEmpty)) =
        ({}, some (.encode (.unencodable ⟨[0xD800], 0, 1⟩))) :=
      Session.store_cons_of_record_error (by decide)
    obtain ⟨after, listened, logged, counted, -⟩ := Session.listen_of_store default stored
    exact ⟨after, listened, logged, counted⟩
  · -- the payload is kept abstract, so that nothing evaluates its two thousand million bytes
    generalize longIs : List.replicate (2 ^ 31 - 1) (0 : UInt8) = long
    have longLength : long.length = 2 ^ 31 - 1 := by rw [← longIs, List.length_replicate]
    obtain ⟨envelope, encoded, refused⟩ := @Datagram.decode_proto2_of_long "a" 1 0 long
      (by decide) (by decide) (by decide) (by decide) (by decide) (by omega) (by omega)
    have addressLength : (Text.encode "a").length = 1 := by decide
    have short : envelope.length < 2 ^ 32 := by
      have bound := Datagram.length_encode_proto2_le (by omega) (by omega) encoded
      omega
    obtain ⟨record, recorded, framed⟩ := Log.record_eq_ok encoded short
    have written : Log.write Wire.proto2
        (Listener.stamped ⟨Address.ofString "a", 1, 0⟩ (fun _ => 0) 0 [long]) = .ok record := by
      rw [Listener.stamped, Listener.stamped, Log.write_cons, recorded]
      exact congrArg Except.ok (List.append_nil record)
    have kept : [some long].reduceOption.filter (!·.isEmpty) = [long] := by
      have nonempty : long ≠ [] := by
        intro empty
        simp [empty] at longLength
      simp [List.reduceOption_cons_of_some, nonempty]
    have stored := Session.store_append [long] [] {} 0 _ written
    rw [List.append_nil, Session.store, ← kept] at stored
    obtain ⟨after, listened, logged, -, -⟩ :=
      @Session.listen_of_store Wire.proto2 _ _ {} _ default [some long] _ stored
    have framesRead : Log.bodies record = ([envelope], none) :=
      Log.bodies_eq_none_iff.2 (Log.frames_cons.2 ⟨record, [], framed, rfl, by simp⟩)
    refine ⟨after, record, listened, by simpa using logged, ?_, ?_⟩
    · simp [Log.read, framesRead, Log.decodeFrom, refused]
    · simp [Log.read, framesRead, Log.decodeFrom, refused]

end Capture

end RefereeGrading
