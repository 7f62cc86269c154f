import KubeEdge.Lib.BigEndian
import KubeEdge.Go.Io

set_option autoImplicit false

/-!
# viaduct's packer: a header before every payload

`Writer.Write` packs a ten-byte header (version, package type, flags and the
payload's length, the words big-endian) and writes it before the payload;
`Reader.Read` reads ten bytes, unpacks them and reads as many bytes as the
header's `PayloadLen` says. The writer's and the reader's streams are lists of
bytes; the underlying writer accepts every write.
-/

namespace KubeEdge.Viaduct.packer

open KubeEdge.Go

abbrev PackageType := UInt8

def Message : PackageType := 0x01
def Stream : PackageType := 0x02
def UserDefined : PackageType := 0x04

def VersionSize : Nat := 4
def PackageTypeSize : Nat := 1
def PackageFlagsSize : Nat := 1
def PayloadLenSize : Nat := 4
def HeaderSize : Nat := VersionSize + PackageTypeSize + PackageFlagsSize + PayloadLenSize

def VersionOffset : Nat := 0
def PackageTypeOffset : Nat := VersionSize
def FlagsOffset : Nat := VersionSize + PackageTypeSize
def PayloadLenOffset : Nat := VersionSize + PackageTypeSize + PackageFlagsSize

def MajorVersion : UInt8 := 1
def MinorVersion : UInt8 := 1
def FixVersion : UInt8 := 1

def makeUpVersion (major minor fix : UInt8) : UInt32 :=
  major.toUInt32 <<< 24 ||| minor.toUInt32 <<< 16 ||| fix.toUInt32 <<< 8

structure PackageHeader where
  Version : UInt32
  PackageType : PackageType
  Flags : UInt8
  PayloadLen : UInt32
  deriving DecidableEq, Repr

def NewPackageHeader (packageType : PackageType) : PackageHeader :=
  ⟨makeUpVersion MajorVersion MinorVersion FixVersion, packageType, 0, 0⟩

def PackageHeader.SetPayloadLen (h : PackageHeader) (payloadLen : UInt32) : PackageHeader :=
  { h with PayloadLen := payloadLen }

def PackageHeader.Pack (h : PackageHeader) (buffer : List UInt8) : List UInt8 :=
  buffer ++ [(h.Version >>> 24).toUInt8, (h.Version >>> 16).toUInt8, (h.Version >>> 8).toUInt8,
    h.Version.toUInt8, h.PackageType, h.Flags, (h.PayloadLen >>> 24).toUInt8,
    (h.PayloadLen >>> 16).toUInt8, (h.PayloadLen >>> 8).toUInt8, h.PayloadLen.toUInt8]

/-- `Unpack`. `header[i]` panics past the end; `Read` passes it exactly
    `HeaderSize` bytes, so the default of `getD` is never read. -/
def PackageHeader.Unpack (header : List UInt8) : PackageHeader :=
  let byte := fun i => header.getD i 0
  ⟨(byte VersionOffset).toUInt32 <<< 24 ||| (byte (VersionOffset + 1)).toUInt32 <<< 16 |||
      (byte (VersionOffset + 2)).toUInt32 <<< 8 ||| (byte (VersionOffset + 3)).toUInt32,
    byte PackageTypeOffset,
    byte FlagsOffset,
    (byte PayloadLenOffset).toUInt32 <<< 24 ||| (byte (PayloadLenOffset + 1)).toUInt32 <<< 16 |||
      (byte (PayloadLenOffset + 2)).toUInt32 <<< 8 ||| (byte (PayloadLenOffset + 3)).toUInt32⟩

def Write (data : List UInt8) (stream : List UInt8) : List UInt8 × Nat :=
  let header := (NewPackageHeader Message).SetPayloadLen (UInt32.ofNat data.length)
  let headerBuffer := header.Pack []
  (stream ++ headerBuffer ++ data, data.length)

def Read (stream : List UInt8) : Except IoError (List UInt8 × List UInt8) :=
  match ReadFull HeaderSize stream with
  | .error err => .error err
  | .ok (headerBuffer, rest) =>
    let header := PackageHeader.Unpack headerBuffer
    ReadFull header.PayloadLen.toNat rest

theorem Pack_eq (h : PackageHeader) (buffer : List UInt8) :
    h.Pack buffer = buffer ++ BigEndian.toBytes h.Version ++ [h.PackageType, h.Flags] ++
      BigEndian.toBytes h.PayloadLen := by
  simp [PackageHeader.Pack, BigEndian.toBytes]

theorem Pack_length (h : PackageHeader) : (h.Pack []).length = HeaderSize := rfl

theorem Unpack_Pack (h : PackageHeader) : PackageHeader.Unpack (h.Pack []) = h := by
  have hunpack : PackageHeader.Unpack (h.Pack []) =
      ⟨BigEndian.ofBytes (h.Version >>> 24).toUInt8 (h.Version >>> 16).toUInt8 (h.Version >>> 8).toUInt8
          h.Version.toUInt8,
        h.PackageType, h.Flags,
        BigEndian.ofBytes (h.PayloadLen >>> 24).toUInt8 (h.PayloadLen >>> 16).toUInt8
          (h.PayloadLen >>> 8).toUInt8 h.PayloadLen.toUInt8⟩ := rfl
  rw [hunpack, BigEndian.ofBytes_toBytes, BigEndian.ofBytes_toBytes]

def frameHeader (n : Nat) : PackageHeader :=
  (NewPackageHeader Message).SetPayloadLen (UInt32.ofNat n)

theorem Write_eq (data stream : List UInt8) :
    (Write data stream).1 = stream ++ (frameHeader data.length).Pack [] ++ data := rfl

theorem frameHeader_payloadLen {n : Nat} (hn : n < 2 ^ 32) : (frameHeader n).PayloadLen.toNat = n := by
  simp only [frameHeader, PackageHeader.SetPayloadLen, UInt32.toNat_ofNat']
  exact Nat.mod_eq_of_lt hn

theorem Read_header {n : Nat} (hn : n < 2 ^ 32) (rest : List UInt8) :
    Read ((frameHeader n).Pack [] ++ rest) = ReadFull n rest := by
  rw [Read, ReadFull_append (Pack_length _)]
  dsimp only
  rw [Unpack_Pack, frameHeader_payloadLen hn]

theorem Read_frame {data : List UInt8} (hlen : data.length < 2 ^ 32) (rest : List UInt8) :
    Read ((frameHeader data.length).Pack [] ++ data ++ rest) = .ok (data, rest) := by
  rw [List.append_assoc, Read_header hlen, ReadFull_append rfl]

theorem Read_cut {data : List UInt8} (hlen : data.length < 2 ^ 32) {k : Nat} (hpos : 0 < k)
    (hk : k < HeaderSize + data.length) :
    Read (((frameHeader data.length).Pack [] ++ data).take k) =
      .error (if k = HeaderSize then .EOF else .ErrUnexpectedEOF) := by
  rw [List.take_append, Pack_length]
  by_cases hhead : k < HeaderSize
  · -- the cut falls inside the header
    have hrest : k - HeaderSize = 0 := by omega
    have hcut : (((frameHeader data.length).Pack []).take k).length = k := by
      rw [List.length_take, Pack_length]
      omega
    have hne : ((frameHeader data.length).Pack []).take k ≠ [] := by
      intro h
      rw [h, List.length_nil] at hcut
      omega
    rw [hrest, List.take_zero, List.append_nil, Read, ReadFull_lt (by omega), if_neg hne, if_neg (by omega)]
  · -- the header is whole and the payload is cut
    rw [List.take_of_length_le (by rw [Pack_length]; omega), Read_header hlen,
      ReadFull_lt (by rw [List.length_take]; omega)]
    have hempty : data.take (k - HeaderSize) = [] ↔ k = HeaderSize := by
      rw [List.take_eq_nil_iff]
      constructor
      · rintro (h | h)
        · omega
        · subst h
          simp at hk
          omega
      · intro h
        exact .inl (by omega)
    by_cases hk' : k = HeaderSize
    · rw [if_pos (hempty.mpr hk'), if_pos hk']
    · rw [if_neg (mt hempty.mp hk'), if_neg hk']

def writeAll (payloads : List (List UInt8)) : List UInt8 :=
  payloads.foldl (fun stream data => (Write data stream).1) []

/-- A consumer that reads frames until `Read` fails, for at most `fuel` reads:
    the payloads it got, and the error it stopped at. -/
def readAll : Nat → List UInt8 → List (List UInt8) × Option IoError
  | 0, _ => ([], none)
  | fuel + 1, stream =>
    match Read stream with
    | .ok (payload, rest) => ((readAll fuel rest).1.cons payload, (readAll fuel rest).2)
    | .error err => ([], some err)

theorem foldl_write (payloads : List (List UInt8)) (stream : List UInt8) :
    payloads.foldl (fun stream data => (Write data stream).1) stream = stream ++ writeAll payloads := by
  induction payloads generalizing stream with
  | nil => simp [writeAll]
  | cons data rest ih =>
    simp only [List.foldl_cons, writeAll]
    rw [ih, ih ((Write data []).1), Write_eq, Write_eq]
    simp

theorem writeAll_cons (data : List UInt8) (rest : List (List UInt8)) :
    writeAll (data :: rest) = (frameHeader data.length).Pack [] ++ data ++ writeAll rest := by
  rw [writeAll, List.foldl_cons, foldl_write, Write_eq]
  simp

theorem Read_nil : Read [] = .error .EOF := by
  rw [Read, ReadFull_nil (by decide)]

theorem readAll_writeAll_append {payloads : List (List UInt8)} (hlen : ∀ p ∈ payloads, p.length < 2 ^ 32)
    (fuel : Nat) (rest : List UInt8) :
    readAll (payloads.length + fuel) (writeAll payloads ++ rest) =
      (payloads ++ (readAll fuel rest).1, (readAll fuel rest).2) := by
  induction payloads with
  | nil => simp [writeAll]
  | cons data ps ih =>
    have hdata : data.length < 2 ^ 32 := hlen data (by simp)
    have hps := ih (fun p hp => hlen p (by simp [hp]))
    rw [writeAll_cons, List.length_cons, Nat.add_right_comm, readAll, List.append_assoc, Read_frame hdata]
    simp [hps]

/-- Every header unpacks from its packing, and reading the stream of writes of
    payloads shorter than `2 ^ 32` bytes gives back the payloads in order and
    then `io.EOF`. -/
theorem readAll_writeAll :
    (∀ h : PackageHeader, PackageHeader.Unpack (h.Pack []) = h) ∧
      ∀ payloads : List (List UInt8), (∀ p ∈ payloads, p.length < 2 ^ 32) →
        readAll (payloads.length + 1) (writeAll payloads) = (payloads, some .EOF) := by
  refine ⟨Unpack_Pack, fun payloads hlen => ?_⟩
  have hall := readAll_writeAll_append hlen 1 []
  rw [List.append_nil] at hall
  rw [hall, readAll, Read_nil]
  simp

/-- A stream of whole frames followed by the first `k` bytes of one more frame
    reads as the whole frames' payloads and then `io.ErrUnexpectedEOF`, except
    when the cut falls right after the last header: then it reads as
    `io.EOF`, as a stream of whole frames does. -/
theorem readAll_writeAll_cut {payloads : List (List UInt8)} (hlen : ∀ p ∈ payloads, p.length < 2 ^ 32)
    {data : List UInt8} (hdata : data.length < 2 ^ 32) {k : Nat} (hpos : 0 < k)
    (hk : k < HeaderSize + data.length) :
    readAll (payloads.length + 1) (writeAll payloads ++ ((frameHeader data.length).Pack [] ++ data).take k) =
      (payloads, some (if k = HeaderSize then .EOF else .ErrUnexpectedEOF)) := by
  rw [readAll_writeAll_append hlen, readAll, Read_cut hdata hpos hk]
  simp

theorem readAll_writeAll_cut_afterHeader :
    readAll ([[7]].length + 1) (writeAll [[7]] ++ ((frameHeader [1, 2].length).Pack [] ++ [1, 2]).take 10) =
      ([[7]], some (if 10 = HeaderSize then .EOF else .ErrUnexpectedEOF)) :=
  @readAll_writeAll_cut [[7]] (by decide) [1, 2] (by decide) 10 (by decide) (by decide)

end KubeEdge.Viaduct.packer
