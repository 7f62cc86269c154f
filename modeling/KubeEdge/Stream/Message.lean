import KubeEdge.Go.Binary

set_option autoImplicit false

/-!
# Stream messages

A tunnel message is its connection ID and its type, each as a varint written
into a 16-byte scratch buffer, followed by its data. `DefaultTunnel.WriteMessage`
sends `Bytes` as one WebSocket message, and `ReadMessageFromTunnel` reads a
message from the reader over it: the two varints, then everything left. Nil and
empty data are the same list here.
-/

namespace KubeEdge.Stream

open KubeEdge.Go

def MessageTypeLogsConnect : UInt64 := 0
def MessageTypeExecConnect : UInt64 := 1
def MessageTypeMetricConnect : UInt64 := 2
def MessageTypeData : UInt64 := 3
def MessageTypeRemoveConnect : UInt64 := 4

/-- The message types the package defines. `MessageType` is a `uint64`, and a
    reader converts any value it reads to one. -/
def MessageTypes : List UInt64 :=
  [MessageTypeLogsConnect, MessageTypeExecConnect, MessageTypeMetricConnect, MessageTypeData,
    MessageTypeRemoveConnect]

structure Message where
  ConnectID : UInt64
  MessageType : UInt64
  Data : List UInt8
  deriving DecidableEq, Repr

def NewMessage (id messType : UInt64) (data : List UInt8) : Message :=
  ⟨id, messType, data⟩

/-- `Message.Bytes`: `none` where `PutUvarint` indexes past the scratch buffer. -/
def Message.Bytes (m : Message) : Option (List UInt8) := do
  let buf := List.replicate 16 (0 : UInt8)
  let offset := 0
  let (tail, n) ← PutUvarint (buf.drop offset) m.ConnectID
  let buf := buf.take offset ++ tail
  let offset := offset + n
  let (tail, n) ← PutUvarint (buf.drop offset) m.MessageType
  let buf := buf.take offset ++ tail
  let offset := offset + n
  return buf.take offset ++ m.Data

def ReadAll (r : List UInt8) : List UInt8 := r

def ReadMessageFromTunnel (r : List UInt8) : Except String Message := do
  let (connectID, r) ← ReadUvarint r
  let (messageType, r) ← ReadUvarint r
  let data := ReadAll r
  return ⟨connectID, messageType, data⟩

theorem Message.Bytes_eq (m : Message) :
    m.Bytes =
      if (Uvarint.encode m.ConnectID.toNat).length + (Uvarint.encode m.MessageType.toNat).length ≤ 16 then
        some (Uvarint.encode m.ConnectID.toNat ++ Uvarint.encode m.MessageType.toNat ++ m.Data)
      else none := by
  -- the connection ID always fits: at most ten bytes
  have hid : (Uvarint.encode m.ConnectID.toNat).length ≤ 16 := by
    have := Uvarint.encode_length_le_ten m.ConnectID.toNat_lt
    omega
  have hput : PutUvarint (List.replicate 16 (0 : UInt8)) m.ConnectID =
      some (Uvarint.encode m.ConnectID.toNat ++
        List.replicate (16 - (Uvarint.encode m.ConnectID.toNat).length) 0,
        (Uvarint.encode m.ConnectID.toNat).length) := by
    rw [PutUvarint_eq, List.length_replicate, if_pos hid, List.drop_replicate]
  simp only [Message.Bytes, List.drop_zero, hput, Option.bind_eq_bind, Option.bind_some, List.take_zero,
    List.nil_append, Nat.zero_add]
  rw [List.drop_left' rfl, PutUvarint_eq, List.length_replicate, List.drop_replicate]
  by_cases hfit :
      (Uvarint.encode m.ConnectID.toNat).length + (Uvarint.encode m.MessageType.toNat).length ≤ 16
  · rw [if_pos (by omega), if_pos hfit]
    simp only [Option.bind_some, List.take_left' rfl, List.append_assoc]
    rw [← List.append_assoc, List.take_left' List.length_append, List.append_assoc]
    rfl
  · rw [if_neg (by omega), if_neg hfit]
    rfl

theorem ReadMessageFromTunnel_Bytes {m : Message} {b : List UInt8} (h : m.Bytes = some b) :
    ReadMessageFromTunnel b = .ok m := by
  rw [Message.Bytes_eq] at h
  split at h
  · obtain rfl := Option.some.inj h
    rw [ReadMessageFromTunnel, List.append_assoc, ReadUvarint_encode]
    simp only [bind, Except.bind]
    rw [ReadUvarint_encode]
    rfl
  · cases h

/-- A message of any connection ID and any type the package defines fits the
    scratch buffer, and the reader over its bytes gets it back. -/
theorem ReadMessageFromTunnel_NewMessage_Bytes (id t : UInt64) (ht : t ∈ MessageTypes) (data : List UInt8) :
    ∃ b, (NewMessage id t data).Bytes = some b ∧ ReadMessageFromTunnel b = .ok (NewMessage id t data) := by
  -- a defined type is one byte, and a connection ID at most ten
  have htype : (Uvarint.encode t.toNat).length = 1 := by
    have hlt : t.toNat < 0x80 := by
      simp only [MessageTypes, MessageTypeLogsConnect, MessageTypeExecConnect, MessageTypeMetricConnect,
        MessageTypeData, MessageTypeRemoveConnect, List.mem_cons, List.not_mem_nil, or_false] at ht
      rcases ht with rfl | rfl | rfl | rfl | rfl <;> decide
    rw [Uvarint.encode_of_lt hlt, List.length_singleton]
  have hid := Uvarint.encode_length_le_ten id.toNat_lt
  have hb := Message.Bytes_eq (NewMessage id t data)
  rw [if_pos (by simp only [NewMessage]; omega)] at hb
  exact ⟨_, hb, ReadMessageFromTunnel_Bytes hb⟩

theorem ReadMessageFromTunnel_NewMessage_Bytes_data :
    MessageTypeData ∈ MessageTypes ∧
      ∃ b, (NewMessage 0xFFFFFFFFFFFFFFFF MessageTypeData [1, 2]).Bytes = some b ∧
        ReadMessageFromTunnel b = .ok (NewMessage 0xFFFFFFFFFFFFFFFF MessageTypeData [1, 2]) :=
  ⟨by decide, ReadMessageFromTunnel_NewMessage_Bytes _ _ (by decide) _⟩

end KubeEdge.Stream
