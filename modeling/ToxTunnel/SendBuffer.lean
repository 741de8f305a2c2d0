import Mathlib.Data.List.Basic

/-!
The buffers of a `ToxConnection`. The peer's acknowledgements lower the window's count
whatever is still buffered, so the buffer keeps within the window as long as they are for
bytes that have left it.
-/

namespace ToxTunnel.SendBuffer

section Model

structure ToxConnection where
  sendWindowSize : Nat
  sendBuffer : List UInt8 := []
  receiveBuffer : List UInt8 := []
  sendWindowUsed : Nat := 0

/-- No data is a null pointer. -/
def queueData (connection : ToxConnection) (data : Option (List UInt8)) : Nat × ToxConnection :=
  match data with
  | none | some [] => (0, connection)
  | some (first :: rest) =>
      let used := connection.sendWindowUsed
      if connection.sendWindowSize ≤ used then (0, connection)
      else
        let accepted := min (first :: rest).length (connection.sendWindowSize - used)
        (accepted,
          { connection with
            sendBuffer := connection.sendBuffer ++ (first :: rest).take accepted
            sendWindowUsed := used + accepted })

def getPendingData (connection : ToxConnection) (maxBytes : Nat) : List UInt8 × ToxConnection :=
  let available := min maxBytes connection.sendBuffer.length
  (connection.sendBuffer.take available,
    { connection with sendBuffer := connection.sendBuffer.drop available })

def onDataReceived (connection : ToxConnection) (data : List UInt8) : ToxConnection :=
  { connection with receiveBuffer := connection.receiveBuffer ++ data }

def readReceivedData (connection : ToxConnection) (maxBytes : Nat) :
    List UInt8 × ToxConnection :=
  let available := min maxBytes connection.receiveBuffer.length
  (connection.receiveBuffer.take available,
    { connection with receiveBuffer := connection.receiveBuffer.drop available })

/-- The loop of compare-and-set, which lowers the count in one step. -/
def onAck (connection : ToxConnection) (bytesAcked : UInt32) : ToxConnection :=
  let current := connection.sendWindowUsed
  let acked := bytesAcked.toNat
  { connection with sendWindowUsed := if acked < current then current - acked else 0 }

def clearBuffers (connection : ToxConnection) : ToxConnection :=
  { connection with sendBuffer := [], receiveBuffer := [], sendWindowUsed := 0 }

inductive Call where
  | queueData (data : Option (List UInt8))
  | getPendingData (maxBytes : Nat)
  | onDataReceived (data : List UInt8)
  | readReceivedData (maxBytes : Nat)
  | onAck (bytesAcked : UInt32)
  | clearBuffers

/-- A connection with the bytes it accepted and returned since the last clear. -/
structure Traffic where
  connection : ToxConnection
  accepted : List UInt8 := []
  returned : List UInt8 := []

def step (traffic : Traffic) : Call → Traffic
  | .queueData data =>
      let queued := queueData traffic.connection data
      { traffic with
        connection := queued.2
        accepted := traffic.accepted ++ (data.getD []).take queued.1 }
  | .getPendingData maxBytes =>
      let pending := getPendingData traffic.connection maxBytes
      { traffic with
        connection := pending.2
        returned := traffic.returned ++ pending.1 }
  | .onDataReceived data =>
      { traffic with connection := onDataReceived traffic.connection data }
  | .readReceivedData maxBytes =>
      { traffic with connection := (readReceivedData traffic.connection maxBytes).2 }
  | .onAck bytesAcked => { traffic with connection := onAck traffic.connection bytesAcked }
  | .clearBuffers => { connection := clearBuffers traffic.connection }

def start (window : Nat) : Traffic := { connection := { sendWindowSize := window } }

def run (window : Nat) (calls : List Call) : Traffic := calls.foldl step (start window)

/-- Nothing is buffered, or the acknowledged bytes are counted and have left the buffer. -/
def Earned (connection : ToxConnection) (bytesAcked : UInt32) : Prop :=
  connection.sendBuffer = [] ∨
    bytesAcked.toNat + connection.sendBuffer.length ≤ connection.sendWindowUsed

/-- Every acknowledgement of the run is earned when it comes. -/
def Paced (traffic : Traffic) : List Call → Prop
  | [] => True
  | call :: rest =>
      (∀ bytesAcked, call = .onAck bytesAcked → Earned traffic.connection bytesAcked) ∧
        Paced (step traffic call) rest

end Model

section Window
variable {traffic : Traffic} {connection : ToxConnection}

/-- What every call keeps. -/
structure Kept (window : Nat) (traffic : Traffic) : Prop where
  fixed : traffic.connection.sendWindowSize = window
  ordered : traffic.returned ++ traffic.connection.sendBuffer = traffic.accepted
  counted : traffic.connection.sendWindowUsed ≤ window

theorem queueData_cases (connection : ToxConnection) (data : Option (List UInt8)) :
    (queueData connection data = (0, connection) ∧
        (data.getD [] = [] ∨ connection.sendWindowSize ≤ connection.sendWindowUsed)) ∨
      ∃ accepted, 0 < accepted ∧
        accepted = min (data.getD []).length
          (connection.sendWindowSize - connection.sendWindowUsed) ∧
        queueData connection data = (accepted,
          { connection with
            sendBuffer := connection.sendBuffer ++ (data.getD []).take accepted
            sendWindowUsed := connection.sendWindowUsed + accepted }) := by
  cases data with
  | none => exact .inl ⟨rfl, .inl rfl⟩
  | some bytes =>
      cases bytes with
      | nil => exact .inl ⟨rfl, .inl rfl⟩
      | cons first rest =>
          by_cases exhausted : connection.sendWindowSize ≤ connection.sendWindowUsed
          · exact .inl ⟨if_pos exhausted, .inr exhausted⟩
          · refine .inr ⟨_, ?_, rfl, if_neg exhausted⟩
            simp only [Option.getD_some, List.length_cons]
            omega

theorem onAck_used (connection : ToxConnection) (bytesAcked : UInt32) :
    (onAck connection bytesAcked).sendWindowUsed =
      connection.sendWindowUsed - bytesAcked.toNat := by
  simp only [onAck]
  split <;> omega

theorem Kept.step {window : Nat} (kept : Kept window traffic) (call : Call) :
    Kept window (step traffic call) := by
  cases call with
  | queueData data =>
      rcases queueData_cases traffic.connection data with
        ⟨refused, -⟩ | ⟨accepted, -, share, taken⟩
      · simp only [SendBuffer.step, refused, List.take_zero, List.append_nil]
        exact kept
      · simp only [SendBuffer.step, taken]
        have fixed := kept.fixed
        have counted := kept.counted
        refine ⟨fixed, ?_, ?_⟩
        · rw [← List.append_assoc, kept.ordered]
        · show traffic.connection.sendWindowUsed + accepted ≤ window
          omega
  | getPendingData maxBytes =>
      refine ⟨kept.fixed, ?_, kept.counted⟩
      simp only [SendBuffer.step, getPendingData, List.append_assoc, List.take_append_drop]
      exact kept.ordered
  | onDataReceived data => exact ⟨kept.fixed, kept.ordered, kept.counted⟩
  | readReceivedData maxBytes => exact ⟨kept.fixed, kept.ordered, kept.counted⟩
  | onAck bytesAcked =>
      refine ⟨kept.fixed, kept.ordered, ?_⟩
      simp only [SendBuffer.step, onAck_used]
      exact Nat.le_trans (Nat.sub_le _ _) kept.counted
  | clearBuffers => exact ⟨kept.fixed, rfl, Nat.zero_le _⟩

/-- What is buffered is counted. -/
def Covered (connection : ToxConnection) : Prop :=
  connection.sendBuffer.length ≤ connection.sendWindowUsed

theorem Covered.step {call : Call} (covered : Covered traffic.connection)
    (earned : ∀ bytesAcked, call = .onAck bytesAcked → Earned traffic.connection bytesAcked) :
    Covered (step traffic call).connection := by
  unfold Covered at covered ⊢
  cases call with
  | queueData data =>
      rcases queueData_cases traffic.connection data with
        ⟨refused, -⟩ | ⟨accepted, -, share, taken⟩
      · simpa only [SendBuffer.step, refused] using covered
      · simp only [SendBuffer.step, taken, List.length_append, List.length_take]
        omega
  | getPendingData maxBytes =>
      simp only [SendBuffer.step, getPendingData, List.length_drop]
      omega
  | onDataReceived data => exact covered
  | readReceivedData maxBytes => exact covered
  | onAck bytesAcked =>
      simp only [SendBuffer.step, onAck_used]
      show traffic.connection.sendBuffer.length ≤ _
      rcases earned bytesAcked rfl with none | left
      · rw [none]
        exact Nat.zero_le _
      · omega
  | clearBuffers => exact Nat.zero_le _

theorem run_kept (window : Nat) (calls : List Call) : Kept window (run window calls) := by
  unfold run
  have first : Kept window (start window) := ⟨rfl, rfl, Nat.zero_le _⟩
  generalize start window = traffic at first
  induction calls generalizing traffic with
  | nil => exact first
  | cons call rest ih => exact ih _ (first.step call)

theorem Covered.run {calls : List Call} (covered : Covered traffic.connection)
    (paced : Paced traffic calls) : Covered (calls.foldl SendBuffer.step traffic).connection := by
  induction calls generalizing traffic with
  | nil => exact covered
  | cons call rest ih => exact ih (covered.step paced.1) paced.2

/-- An acknowledgement that is not earned lets the next data through past the window. -/
theorem earned_iff {window : Nat} (fixed : connection.sendWindowSize = window)
    (covered : Covered connection) (counted : connection.sendWindowUsed ≤ window)
    (bytesAcked : UInt32) :
    Earned connection bytesAcked ↔
      ∀ data, (queueData (onAck connection bytesAcked) data).2.sendBuffer.length ≤ window := by
  unfold Covered at covered
  have size : (onAck connection bytesAcked).sendWindowSize = window := fixed
  have buffer : (onAck connection bytesAcked).sendBuffer = connection.sendBuffer := rfl
  have used := onAck_used connection bytesAcked
  constructor
  · intro earned data
    have left : connection.sendBuffer.length ≤ (onAck connection bytesAcked).sendWindowUsed := by
      rcases earned with none | left
      · rw [none]
        exact Nat.zero_le _
      · omega
    rcases queueData_cases (onAck connection bytesAcked) data with
      ⟨refused, -⟩ | ⟨accepted, -, share, taken⟩
    · rw [refused, buffer]
      omega
    · rw [taken, buffer]
      simp only [List.length_append, List.length_take]
      omega
  · intro bounded
    by_contra unearned
    rw [Earned, not_or] at unearned
    obtain ⟨filled, early⟩ := unearned
    have some : 0 < connection.sendBuffer.length := List.length_pos_of_ne_nil filled
    -- A whole window of data is offered.
    have beyond := bounded (.some (List.replicate window 0))
    rcases queueData_cases (onAck connection bytesAcked) (.some (List.replicate window 0)) with
      ⟨-, nothing | full⟩ | ⟨accepted, positive, share, taken⟩
    · have none : window = 0 := by simpa using nothing
      omega
    · omega
    · rw [taken, buffer] at beyond
      simp only [List.length_append, List.length_take, Option.getD_some,
        List.length_replicate] at beyond share
      omega

/-- In every run the returned and the buffered bytes are the accepted ones, in order, and the
count is within the window. Where each acknowledgement is earned the buffer is within the
window too, and from such a state the next data stays within it exactly if the next
acknowledgement is earned. -/
theorem send_buffer_window (window : Nat) (calls : List Call) :
    let reached := run window calls
    reached.returned ++ reached.connection.sendBuffer = reached.accepted ∧
      reached.connection.sendWindowUsed ≤ window ∧
      (Paced (start window) calls →
        reached.connection.sendBuffer.length ≤ window ∧
        ∀ bytesAcked, Earned reached.connection bytesAcked ↔
          ∀ data, (queueData (onAck reached.connection bytesAcked) data).2.sendBuffer.length ≤
            window) := by
  intro reached
  have kept : Kept window reached := run_kept window calls
  refine ⟨kept.ordered, kept.counted, fun paced => ?_⟩
  have none : Covered (start window).connection := Nat.zero_le _
  have covered : Covered reached.connection := none.run paced
  exact ⟨Nat.le_trans covered kept.counted, earned_iff kept.fixed covered kept.counted⟩

/-- Three bytes are sent and acknowledged, and three more are taken. -/
theorem acknowledged_in_time :
    (run 4 [.queueData (some [1, 2, 3, 4]), .getPendingData 3, .onAck 3,
      .queueData (some [5, 6, 7])]).connection.sendBuffer.length ≤ 4 := by
  have paced : Paced (start 4) [.queueData (some [1, 2, 3, 4]), .getPendingData 3, .onAck 3,
      .queueData (some [5, 6, 7])] := by
    have quiet : ∀ data bytesAcked, Call.queueData data ≠ .onAck bytesAcked := by
      rintro data bytesAcked ⟨⟩
    have sent : ∀ bytesAcked, Call.getPendingData 3 ≠ .onAck bytesAcked := by
      rintro bytesAcked ⟨⟩
    refine ⟨fun _ same => absurd same (quiet _ _), fun _ same => absurd same (sent _), ?_,
      fun _ same => absurd same (quiet _ _), trivial⟩
    rintro bytesAcked ⟨⟩
    exact .inr (by decide)
  exact ((send_buffer_window 4 _).2.2 paced).1

/-- Four bytes are acknowledged before they have left the buffer. -/
theorem acknowledged_early :
    ¬ ∀ (window : Nat) (calls : List Call),
      (run window calls).connection.sendBuffer.length ≤ window := by
  intro bounded
  have beyond := bounded 4 [.queueData (some [1, 2, 3, 4]), .onAck 4, .queueData (some [5, 6, 7, 8])]
  revert beyond
  decide

end Window

end ToxTunnel.SendBuffer
