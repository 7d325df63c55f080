import EspClockSync.Sync.Packet

/-!
# Packets inside raw frames

The search compares every offset where a whole packet fits, in order, and reads the
packet at the first one that holds the magic. The magic does not overlap itself, so a
header free of it cannot shift the match, whatever bytes it ends with.
-/

namespace EspClockSync

open Machine

/-! ## Little-endian bytes -/

@[simp] theorem leBytes_length (count value : Nat) : (leBytes count value).length = count := by
  induction count generalizing value with
  | zero => rfl
  | succ count ih => simp [leBytes, ih]

/-- Little-endian bytes keep the value modulo their width. -/
theorem leValue_leBytes (count value : Nat) : leValue (leBytes count value) = value % 256 ^ count := by
  induction count generalizing value with
  | zero => simp [leBytes, leValue, Nat.mod_one]
  | succ count ih =>
    have split : value % 256 ^ (count + 1) = value % 256 + 256 * (value / 256 % 256 ^ count) := by
      rw [pow_succ', Nat.mod_mul]
    simp only [leBytes, leValue, ih, split, BitVec.toNat_ofNat]

/-- Bytes are bounded by their width. -/
theorem leValue_lt (bytes : List U8) : leValue bytes < 256 ^ bytes.length := by
  induction bytes with
  | nil => simp [leValue]
  | cons byte rest ih =>
    have range := byte.isLt
    rw [List.length_cons, pow_succ', leValue]
    omega

/-- Reading bytes and writing the value gives the bytes back. -/
theorem leBytes_leValue (bytes : List U8) : leBytes bytes.length (leValue bytes) = bytes := by
  induction bytes with
  | nil => rfl
  | cons byte rest ih =>
    have range := byte.isLt
    have low : BitVec.ofNat 8 (byte.toNat + 256 * leValue rest) = byte := by
      apply BitVec.eq_of_toNat_eq
      rw [BitVec.toNat_ofNat]
      omega
    have high : (byte.toNat + 256 * leValue rest) / 256 = leValue rest := by omega
    rw [List.length_cons, leValue, leBytes, low, high, ih]

namespace SyncPacket

/-- The magic starts at this offset. -/
abbrev MagicAt (buf : List U8) (i : Nat) : Prop := magicBytes.toList <+: buf.drop i

/-- The little-endian fields behind a magic at the start of these bytes. -/
def fields (bytes : List U8) : SyncPacket where
  magic := magicBytes
  seq := BitVec.ofNat 32 (leValue ((bytes.drop 4).take 4))
  sendUnixNs := BitVec.ofNat 128 (leValue ((bytes.drop 8).take 16))

/-! ## The codec -/

@[simp] theorem toBytes_length (packet : SyncPacket) : packet.toBytes.length = size := by
  simp [toBytes, size]

/-- `parse` reads the fields of a whole packet that starts with the magic, and nothing else. -/
theorem parse_eq_some_iff (buf : List U8) (packet : SyncPacket) :
    parse buf = some packet ↔
      (size ≤ buf.length ∧ magicBytes.toList <+: buf) ∧ packet = fields buf := by
  have magic : magicBytes.toList <+: buf ↔ buf.take 4 = magicBytes.toList := by
    rw [List.prefix_iff_eq_take, eq_comm]
    rfl
  unfold parse
  rw [magic]
  by_cases short : buf.length < size
  · rw [if_pos (Or.inl short)]
    simp only [reduceCtorEq, false_iff]
    omega
  · by_cases starts : buf.take 4 = magicBytes.toList
    · rw [if_neg (by simp [short, starts])]
      have whole : size ≤ buf.length := by omega
      simp only [whole, starts, true_and, Option.some.injEq, eq_comm, fields]
    · rw [if_pos (Or.inr starts)]
      simp [starts]

/-- The fields of a whole packet are written as its bytes. -/
theorem toBytes_fields {buf : List U8} (whole : size ≤ buf.length)
    (magic : magicBytes.toList <+: buf) : (fields buf).toBytes = buf.take size := by
  unfold size at whole
  have seqLength : ((buf.drop 4).take 4).length = 4 := by
    rw [List.length_take, List.length_drop]
    omega
  have timeLength : ((buf.drop 8).take 16).length = 16 := by
    rw [List.length_take, List.length_drop]
    omega
  have seqBound := leValue_lt ((buf.drop 4).take 4)
  have timeBound := leValue_lt ((buf.drop 8).take 16)
  have seqBytes := leBytes_leValue ((buf.drop 4).take 4)
  have timeBytes := leBytes_leValue ((buf.drop 8).take 16)
  rw [seqLength] at seqBound seqBytes
  rw [timeLength] at timeBound timeBytes
  have start : magicBytes.toList = buf.take 4 := List.prefix_iff_eq_take.mp magic
  have seq_eq := Nat.mod_eq_of_lt (show leValue ((buf.drop 4).take 4) < 2 ^ 32 from seqBound)
  have time_eq := Nat.mod_eq_of_lt (show leValue ((buf.drop 8).take 16) < 2 ^ 128 from timeBound)
  unfold toBytes fields
  rw [BitVec.toNat_ofNat, BitVec.toNat_ofNat, seq_eq, time_eq, seqBytes, timeBytes, start,
    ← List.take_add, ← List.take_add]
  rfl

/-- A packet's bytes, followed by any others, hold its fields. -/
theorem fields_toBytes_append (seq : U32) (sendUnixNs : U128) (trailer : List U8) :
    fields (toBytes ⟨magicBytes, seq, sendUnixNs⟩ ++ trailer) = ⟨magicBytes, seq, sendUnixNs⟩ := by
  have magicLength : magicBytes.toList.length = 4 := rfl
  have magicDrop : magicBytes.toList.drop 8 = [] := rfl
  have seqBytes : ((toBytes ⟨magicBytes, seq, sendUnixNs⟩ ++ trailer).drop 4).take 4 =
      leBytes 4 seq.toNat := by
    unfold toBytes
    simp [List.append_assoc, magicLength]
  have timeBytes : ((toBytes ⟨magicBytes, seq, sendUnixNs⟩ ++ trailer).drop 8).take 16 =
      leBytes 16 sendUnixNs.toNat := by
    unfold toBytes
    simp [List.append_assoc, List.drop_append, magicLength, magicDrop]
  unfold fields
  rw [seqBytes, timeBytes, leValue_leBytes, leValue_leBytes,
    Nat.mod_eq_of_lt (show seq.toNat < 256 ^ 4 from seq.isLt),
    Nat.mod_eq_of_lt (show sendUnixNs.toNat < 256 ^ 16 from sendUnixNs.isLt),
    BitVec.ofNat_toNat, BitVec.ofNat_toNat, BitVec.setWidth_eq, BitVec.setWidth_eq]

/-! ## The search -/

/-- In bounds the comparison decides a prefix, however early it stops. -/
theorem matchesAt_eq (buf expected : List U8) {i : Nat} (bound : i + expected.length ≤ buf.length) :
    matchesAt buf i expected = .ok (decide (expected <+: buf.drop i)) := by
  induction expected generalizing i with
  | nil => simp [matchesAt]
  | cons first rest ih =>
    rw [List.length_cons] at bound
    have inside : i < buf.length := by omega
    have byte : byteAt buf i = .ok buf[i] := by
      unfold byteAt
      rw [List.getElem?_eq_getElem inside]
    rw [matchesAt, byte, ok_bind, List.drop_eq_getElem_cons inside]
    by_cases same : buf[i] = first
    · rw [if_pos same, ih (by omega)]
      simp [same]
    · rw [if_neg same]
      have differs : ¬ first :: rest <+: buf[i] :: buf.drop (i + 1) :=
        fun starts => same (List.cons_prefix_cons.mp starts).1.symm
      rw [decide_eq_false differs]

/-- The search tries its offsets in order and reads the packet at the first magic. -/
theorem searchFrom_eq (buf : List U8) {i left : Nat} (bound : i + left + 23 ≤ buf.length) :
    searchFrom buf i left =
      .ok (((List.range' i left).find? fun j => decide (MagicAt buf j)).map
        fun j => fields (buf.drop j)) := by
  induction left generalizing i with
  | zero => simp [searchFrom]
  | succ left ih =>
    have compared := matchesAt_eq buf magicBytes.toList (i := i) (by
      rw [show magicBytes.toList.length = 4 from rfl]
      omega)
    rw [searchFrom, compared, ok_bind, List.range'_succ, List.find?_cons]
    by_cases found : MagicAt buf i
    · have whole : size ≤ (buf.drop i).length := by
        rw [List.length_drop]
        unfold size
        omega
      have parsed := (parse_eq_some_iff (buf.drop i) (fields (buf.drop i))).mpr ⟨⟨whole, found⟩, rfl⟩
      simp [found, parsed]
    · simp [found, ih (show i + 1 + left + 23 ≤ buf.length by omega)]

/-- `find_in_frame` never stops, and answers the first magic that a whole packet can follow. -/
theorem findInFrame_eq (buf : List U8) :
    findInFrame buf =
      .ok (((List.range' 0 (buf.length + 1 - size)).find? fun j => decide (MagicAt buf j)).map
        fun j => fields (buf.drop j)) := by
  unfold findInFrame
  by_cases short : buf.length < size
  · have none_left : buf.length + 1 - size = 0 := by omega
    rw [if_pos short, none_left]
    rfl
  · have left : buf.length - size + 1 = buf.length + 1 - size := by omega
    rw [if_neg short, left, searchFrom_eq buf (by unfold size at short ⊢; omega)]

/-- The least offset of a magic that a whole packet can follow is the one read. -/
theorem findInFrame_of_first {buf : List U8} {i : Nat} (whole : i + size ≤ buf.length)
    (found : MagicAt buf i) (first : ∀ j < i, ¬ MagicAt buf j) :
    findInFrame buf = .ok (some (fields (buf.drop i))) := by
  have least : (List.range' 0 (buf.length + 1 - size)).find? (fun j => decide (MagicAt buf j)) =
      some i := by
    rw [List.find?_range'_eq_some]
    refine ⟨decide_eq_true found, List.mem_range'_1.mpr ⟨by omega, by omega⟩, fun j _ before => ?_⟩
    simpa using first j before
  rw [findInFrame_eq, least]
  rfl

/-- Something is found exactly when a magic can be followed by a whole packet. -/
theorem findInFrame_isSome (buf : List U8) :
    (∃ packet, findInFrame buf = .ok (some packet)) ↔
      ∃ i, i + size ≤ buf.length ∧ MagicAt buf i := by
  constructor
  · rintro ⟨packet, found⟩
    rw [findInFrame_eq, Except.ok.injEq, Option.map_eq_some_iff] at found
    obtain ⟨i, first, _⟩ := found
    obtain ⟨magic, inside, _⟩ := List.find?_range'_eq_some.mp first
    have bound := (List.mem_range'_1.mp inside).2
    exact ⟨i, by omega, of_decide_eq_true magic⟩
  · rintro ⟨i, whole, magic⟩
    have least := Nat.find_spec (⟨i, whole, magic⟩ : ∃ i, i + size ≤ buf.length ∧ MagicAt buf i)
    refine ⟨_, findInFrame_of_first least.1 least.2 fun j before earlier => ?_⟩
    exact Nat.find_min _ before ⟨by omega, earlier⟩

/-- The magic has no proper overlap with itself: in a header without it followed by a
packet, no offset before the packet holds it. -/
theorem not_magicAt_of_header {header bytes : List U8} (free : ¬ magicBytes.toList <:+: header)
    {j : Nat} (before : j < header.length) :
    ¬ MagicAt (header ++ (magicBytes.toList ++ bytes)) j := by
  intro found
  rw [MagicAt, List.drop_append_of_le_length (by omega)] at found
  by_cases inside : j + 4 ≤ header.length
  · have within : magicBytes.toList <+: header.drop j := by
      apply List.prefix_of_prefix_length_le found (List.prefix_append _ _)
      rw [List.length_drop]
      exact Nat.le_sub_of_add_le (by rw [Nat.add_comm]; exact inside)
    exact free (within.isInfix.trans (List.drop_suffix j header).isInfix)
  · -- The straddling match would repeat the first byte of the magic further on.
    have index : header.length - j < magicBytes.toList.length :=
      show header.length - j < 4 by omega
    have repeated := List.prefix_iff_getElem?.mp found (header.length - j) index
    rw [List.getElem?_append_right (by rw [List.length_drop]), List.length_drop, Nat.sub_self] at repeated
    have first : magicBytes.toList[0]? = magicBytes.toList[header.length - j]? :=
      repeated.trans (List.getElem?_eq_getElem index).symm
    have straddles : header.length - j = 1 ∨ header.length - j = 2 ∨ header.length - j = 3 := by omega
    rcases straddles with one | two | three
    · rw [one] at first
      exact absurd first (by decide)
    · rw [two] at first
      exact absurd first (by decide)
    · rw [three] at first
      exact absurd first (by decide)

/-- A packet behind a header without the magic is found, whatever follows it. -/
theorem findInFrame_behind_header {header : List U8} (seq : U32) (sendUnixNs : U128)
    (trailer : List U8) (free : ¬ magicBytes.toList <:+: header) :
    findInFrame (header ++ toBytes ⟨magicBytes, seq, sendUnixNs⟩ ++ trailer) =
      .ok (some ⟨magicBytes, seq, sendUnixNs⟩) := by
  have bytes_eq : header ++ toBytes ⟨magicBytes, seq, sendUnixNs⟩ ++ trailer =
      header ++ (toBytes ⟨magicBytes, seq, sendUnixNs⟩ ++ trailer) := by
    rw [List.append_assoc]
  have magic : magicBytes.toList <+:
      toBytes ⟨magicBytes, seq, sendUnixNs⟩ ++ trailer := by
    unfold toBytes
    rw [List.append_assoc, List.append_assoc]
    exact List.prefix_append _ _
  obtain ⟨bytes, split⟩ := magic
  have at_header : MagicAt (header ++ (magicBytes.toList ++ bytes)) header.length := by
    rw [MagicAt, List.drop_left]
    exact List.prefix_append _ _
  have whole : header.length + size ≤
      (header ++ (magicBytes.toList ++ bytes)).length := by
    rw [split, List.length_append, List.length_append, toBytes_length]
    omega
  have found := findInFrame_of_first whole at_header
    (fun j before => not_magicAt_of_header free before)
  rw [List.drop_left, split, fields_toBytes_append] at found
  rw [bytes_eq, found]

end SyncPacket

/-- **Extraction.** On every frame the search returns without leaving it, finds something
exactly when the magic starts at an offset where a whole packet fits, and then the
little-endian fields at the least such offset. A packet behind any header without the
magic is found whatever follows it, and `parse` accepts exactly the buffers that start
with a packet, whose bytes it reads. -/
theorem find_in_frame_extracts :
    (∀ buf, ∃ found, SyncPacket.findInFrame buf = .ok found ∧
      (found.isSome = true ↔ ∃ i, i + SyncPacket.size ≤ buf.length ∧ SyncPacket.MagicAt buf i) ∧
      ∀ i, i + SyncPacket.size ≤ buf.length → SyncPacket.MagicAt buf i →
        (∀ j < i, ¬ SyncPacket.MagicAt buf j) →
        found = some (SyncPacket.fields (buf.drop i))) ∧
    (∀ (header : List U8) (seq : U32) (sendUnixNs : U128) (trailer : List U8),
      ¬ magicBytes.toList <:+: header →
      SyncPacket.findInFrame
          (header ++ SyncPacket.toBytes ⟨magicBytes, seq, sendUnixNs⟩ ++ trailer) =
        .ok (some ⟨magicBytes, seq, sendUnixNs⟩)) ∧
    (∀ buf, ((∃ packet, SyncPacket.parse buf = some packet) ↔
        SyncPacket.size ≤ buf.length ∧ magicBytes.toList <+: buf) ∧
      ∀ packet, SyncPacket.parse buf = some packet →
        packet = SyncPacket.fields buf ∧ packet.toBytes = buf.take SyncPacket.size) := by
  refine ⟨fun buf => ?_, fun header seq sendUnixNs trailer free => ?_, fun buf => ?_⟩
  · have some_iff := SyncPacket.findInFrame_isSome buf
    refine ⟨_, SyncPacket.findInFrame_eq buf, ?_, fun i whole magic first => ?_⟩
    · rw [← some_iff, SyncPacket.findInFrame_eq, Option.isSome_iff_exists]
      simp only [Except.ok.injEq]
    · have found := SyncPacket.findInFrame_of_first whole magic first
      rw [SyncPacket.findInFrame_eq] at found
      exact Except.ok.inj found
  · exact SyncPacket.findInFrame_behind_header seq sendUnixNs trailer free
  · refine ⟨⟨?_, fun starts => ?_⟩, fun packet parsed => ?_⟩
    · rintro ⟨packet, parsed⟩
      exact ((SyncPacket.parse_eq_some_iff buf packet).mp parsed).1
    · exact ⟨_, (SyncPacket.parse_eq_some_iff buf _).mpr ⟨starts, rfl⟩⟩
    · obtain ⟨⟨whole, magic⟩, rfl⟩ := (SyncPacket.parse_eq_some_iff buf packet).mp parsed
      exact ⟨rfl, SyncPacket.toBytes_fields whole magic⟩

end EspClockSync
