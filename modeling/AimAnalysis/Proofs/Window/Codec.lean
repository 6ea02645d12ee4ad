import AimAnalysis.Window.Codec
import Mathlib.Algebra.Ring.Nat
import Mathlib.Data.List.Basic

/-!
# Reading windows back

What encoding writes, decoding reads back: numbers from their bytes, least significant first, fields and
records from the front of what follows, and a window from all of it (`Codec.decode_encode`).

Decoding reads nothing else. Every run of four bytes is a field and every run of eight fields a record,
so the readers fail only for want of bytes, and what they read encodes to the bytes that they took
(`exists_takeFields?`, `exists_takeTicks?`). A text is therefore decided by its length and its count:

* exactly the bytes that the count asks for are the encoding of what is read from them
  (`exists_decode_of_length_eq`),
* more bytes are refused as trailing (`decode_of_length_gt`),
* fewer bytes, or no whole count, are a shortage (`exists_decode_of_length_lt`). The count is not
  multiplied out in 64 bits, so that none is great enough to look small.

**Main statement** (`Codec.window_codec`): all of this in one, for every list of ticks and every byte
string.
-/

namespace AimAnalysis

namespace Codec

/-! ### Numbers -/

@[simp] theorem length_littleEndian (count n : Nat) : (littleEndian count n).length = count := by
  induction count generalizing n with
  | zero => rfl
  | succ count ih => simp [littleEndian, ih]

/-- The bytes of a number stand for it, as far as they go. -/
theorem ofLittleEndian_littleEndian (count n : Nat) :
    ofLittleEndian (littleEndian count n) = n % 256 ^ count := by
  induction count generalizing n with
  | zero => simp [littleEndian, ofLittleEndian, Nat.mod_one]
  | succ count ih =>
      have hbyte : (UInt8.ofNat (n % 256)).toNat = n % 256 :=
        UInt8.toNat_ofNat_of_lt (Nat.mod_lt n (by decide))
      rw [littleEndian, ofLittleEndian, hbyte, ih, Nat.pow_succ', Nat.mod_mul]

/-- Bytes are those of the number that they stand for. -/
theorem littleEndian_ofLittleEndian (bytes : List UInt8) :
    littleEndian bytes.length (ofLittleEndian bytes) = bytes := by
  induction bytes with
  | nil => rfl
  | cons b rest ih =>
      have hb : b.toNat < 256 := b.toNat_lt
      have hlow : (b.toNat + 256 * ofLittleEndian rest) % 256 = b.toNat := by omega
      have hhigh : (b.toNat + 256 * ofLittleEndian rest) / 256 = ofLittleEndian rest := by omega
      rw [List.length_cons, ofLittleEndian, littleEndian, hlow, hhigh, ih, UInt8.ofNat_toNat]

theorem ofLittleEndian_lt (bytes : List UInt8) : ofLittleEndian bytes < 256 ^ bytes.length := by
  induction bytes with
  | nil => simp [ofLittleEndian]
  | cons b rest ih =>
      have hb : b.toNat < 256 := b.toNat_lt
      rw [ofLittleEndian, List.length_cons, Nat.pow_succ]
      omega

/-! ### Lengths -/

@[simp] theorem length_encodeField (x : Binary32) : (encodeField x).length = 4 :=
  length_littleEndian 4 _

theorem length_flatMap_of_forall_length {α : Type} {f : α → List UInt8} {size : Nat}
    (h : ∀ x, (f x).length = size) (xs : List α) :
    (xs.flatMap f).length = size * xs.length := by
  induction xs with
  | nil => simp
  | cons x rest ih =>
      rw [List.flatMap_cons, List.length_append, h, ih, List.length_cons, Nat.mul_succ, Nat.add_comm]

@[simp] theorem length_encodeTick (t : Tick) : (encodeTick t).length = recordLength := by
  rw [encodeTick, length_flatMap_of_forall_length length_encodeField, Tick.length_fields]
  rfl

/-- The length of a window is fixed by how many ticks it has. -/
theorem length_encode (ticks : List Tick) :
    (encode ticks).length = headerLength + recordLength * ticks.length := by
  rw [encode, List.length_append, length_littleEndian,
    length_flatMap_of_forall_length length_encodeTick]

/-! ### What was written is read -/

theorem take?_append {taken : List UInt8} {count : Nat} (h : taken.length = count)
    (rest : List UInt8) : take? count (taken ++ rest) = .ok (taken, rest) := by
  subst h
  simp [take?]

/-- A field is read back with all its bits. -/
theorem field_ofLittleEndian (x : Binary32) :
    (⟨UInt32.ofNat (ofLittleEndian (encodeField x))⟩ : Binary32) = x := by
  have hsmall : x.bits.toNat < 256 ^ 4 := x.bits.toNat_lt
  rw [encodeField, ofLittleEndian_littleEndian, Nat.mod_eq_of_lt hsmall, UInt32.ofNat_toNat]

/-- Fields are read back from the front. -/
theorem takeFields?_append (fields : List Binary32) (rest : List UInt8) :
    takeFields? fields.length (fields.flatMap encodeField ++ rest) = .ok (fields, rest) := by
  induction fields with
  | nil => rfl
  | cons x fields ih =>
      rw [List.length_cons, List.flatMap_cons, List.append_assoc]
      simp only [takeFields?, take?_append (length_encodeField x), ih, field_ofLittleEndian]

/-- A record is read back from the front. -/
theorem takeTick?_append (t : Tick) (rest : List UInt8) :
    takeTick? (encodeTick t ++ rest) = .ok (t, rest) := by
  have hfields := takeFields?_append t.fields rest
  rw [Tick.length_fields] at hfields
  simp only [takeTick?, encodeTick, hfields, Tick.ofFields?_fields, Option.getD_some]

/-- Records are read back from the front. -/
theorem takeTicks?_append (ticks : List Tick) (rest : List UInt8) :
    takeTicks? ticks.length (ticks.flatMap encodeTick ++ rest) = .ok (ticks, rest) := by
  induction ticks with
  | nil => rfl
  | cons t ticks ih =>
      rw [List.length_cons, List.flatMap_cons, List.append_assoc]
      simp only [takeTicks?, takeTick?_append, ih]

/-- **A window is read back.** -/
theorem decode_encode {ticks : List Tick} (fits : ticks.length < 256 ^ headerLength) :
    decode (encode ticks) = .ok ticks := by
  have hticks := takeTicks?_append ticks []
  rw [List.append_nil] at hticks
  simp only [decode, encode, take?_append (length_littleEndian headerLength _),
    ofLittleEndian_littleEndian, Nat.mod_eq_of_lt fits, hticks]

/-! ### What is read was written -/

/-- Bytes that are there are taken. -/
theorem exists_take? {count : Nat} {bytes : List UInt8} (enough : count ≤ bytes.length) :
    ∃ taken rest, bytes = taken ++ rest ∧ taken.length = count
      ∧ take? count bytes = .ok (taken, rest) := by
  have htaken : (bytes.take count).length = count := List.length_take_of_le enough
  refine ⟨bytes.take count, bytes.drop count, (List.take_append_drop count bytes).symm, htaken, ?_⟩
  simp [take?, enough]

/-- Bytes that are not there are missed. -/
theorem exists_take?_error {count : Nat} {bytes : List UInt8} (short : bytes.length < count) :
    ∃ detail, take? count bytes = .error (.decode detail) := by
  have htaken : bytes.take count = bytes := List.take_of_length_le (Nat.le_of_lt short)
  simp only [take?, htaken, short, if_true, CodecFault.shortage]
  exact ⟨_, rfl⟩

/-- Every four bytes are a field. -/
theorem encodeField_ofLittleEndian {bytes : List UInt8} (h : bytes.length = 4) :
    encodeField ⟨UInt32.ofNat (ofLittleEndian bytes)⟩ = bytes := by
  have hsmall : ofLittleEndian bytes < 2 ^ 32 := by
    have hlt := ofLittleEndian_lt bytes
    rwa [h] at hlt
  have hbits : (UInt32.ofNat (ofLittleEndian bytes)).toNat = ofLittleEndian bytes :=
    UInt32.toNat_ofNat_of_lt' hsmall
  rw [encodeField, hbits, ← h, littleEndian_ofLittleEndian]

/-- Fields for which there are bytes are read, and encode to these bytes. -/
theorem exists_takeFields? {count : Nat} {bytes : List UInt8} (enough : 4 * count ≤ bytes.length) :
    ∃ fields rest, bytes = fields.flatMap encodeField ++ rest ∧ fields.length = count
      ∧ takeFields? count bytes = .ok (fields, rest) := by
  induction count generalizing bytes with
  | zero => exact ⟨[], bytes, rfl, rfl, rfl⟩
  | succ count ih =>
      have hfirst : 4 ≤ bytes.length := by omega
      obtain ⟨field, later, rfl, hfield, htake⟩ := exists_take? hfirst
      rw [List.length_append] at enough
      have hlater : 4 * count ≤ later.length := by omega
      obtain ⟨fields, rest, rfl, rfl, hfields⟩ := ih hlater
      refine ⟨⟨UInt32.ofNat (ofLittleEndian field)⟩ :: fields, rest, ?_, rfl, ?_⟩
      · rw [List.flatMap_cons, encodeField_ofLittleEndian hfield, List.append_assoc]
      · simp only [takeFields?, htake, hfields]

/-- Fields for which bytes are missing are not read. -/
theorem exists_takeFields?_error {count : Nat} {bytes : List UInt8}
    (short : bytes.length < 4 * count) :
    ∃ detail, takeFields? count bytes = .error (.decode detail) := by
  induction count generalizing bytes with
  | zero => omega
  | succ count ih =>
      rcases Nat.lt_or_ge bytes.length 4 with hnone | hsome
      · obtain ⟨detail, htake⟩ := exists_take?_error hnone
        exact ⟨detail, by simp only [takeFields?, htake]⟩
      · obtain ⟨field, later, rfl, hfield, htake⟩ := exists_take? hsome
        rw [List.length_append] at short
        have hlater : later.length < 4 * count := by omega
        obtain ⟨detail, hread⟩ := ih hlater
        exact ⟨detail, by simp only [takeFields?, htake, hread]⟩

/-- Every eight fields are a record. -/
theorem exists_fields_eq {fields : List Binary32} (h : fields.length = 8) :
    ∃ t, Tick.ofFields? fields = some t ∧ t.fields = fields := by
  match fields, h with
  | [_, _, _, _, _, _, _, _], _ => exact ⟨_, rfl, rfl⟩

/-- A record for which there are bytes is read, and encodes to these bytes. -/
theorem exists_takeTick? {bytes : List UInt8} (enough : recordLength ≤ bytes.length) :
    ∃ t rest, bytes = encodeTick t ++ rest ∧ takeTick? bytes = .ok (t, rest) := by
  have height : 4 * 8 ≤ bytes.length := enough
  obtain ⟨fields, rest, rfl, hcount, hfields⟩ := exists_takeFields? height
  obtain ⟨t, hread, rfl⟩ := exists_fields_eq hcount
  exact ⟨t, rest, rfl, by simp only [takeTick?, hfields, hread, Option.getD_some]⟩

/-- A record for which bytes are missing is not read. -/
theorem exists_takeTick?_error {bytes : List UInt8} (short : bytes.length < recordLength) :
    ∃ detail, takeTick? bytes = .error (.decode detail) := by
  have height : bytes.length < 4 * 8 := short
  obtain ⟨detail, hfields⟩ := exists_takeFields?_error height
  exact ⟨detail, by simp only [takeTick?, hfields]⟩

/-- Records for which there are bytes are read, and encode to these bytes. -/
theorem exists_takeTicks? {count : Nat} {bytes : List UInt8}
    (enough : recordLength * count ≤ bytes.length) :
    ∃ ticks rest, bytes = ticks.flatMap encodeTick ++ rest ∧ ticks.length = count
      ∧ takeTicks? count bytes = .ok (ticks, rest) := by
  induction count generalizing bytes with
  | zero => exact ⟨[], bytes, rfl, rfl, rfl⟩
  | succ count ih =>
      rw [Nat.mul_succ] at enough
      have hfirst : recordLength ≤ bytes.length := by omega
      obtain ⟨t, later, rfl, htick⟩ := exists_takeTick? hfirst
      rw [List.length_append, length_encodeTick] at enough
      have hlater : recordLength * count ≤ later.length := by omega
      obtain ⟨ticks, rest, rfl, rfl, hticks⟩ := ih hlater
      refine ⟨t :: ticks, rest, ?_, rfl, ?_⟩
      · rw [List.flatMap_cons, List.append_assoc]
      · simp only [takeTicks?, htick, hticks]

/-- Records for which bytes are missing are not read. -/
theorem exists_takeTicks?_error {count : Nat} {bytes : List UInt8}
    (short : bytes.length < recordLength * count) :
    ∃ detail, takeTicks? count bytes = .error (.decode detail) := by
  induction count generalizing bytes with
  | zero => omega
  | succ count ih =>
      rcases Nat.lt_or_ge bytes.length recordLength with hnone | hsome
      · obtain ⟨detail, htick⟩ := exists_takeTick?_error hnone
        exact ⟨detail, by simp only [takeTicks?, htick]⟩
      · obtain ⟨t, later, rfl, htick⟩ := exists_takeTick? hsome
        rw [List.length_append, length_encodeTick, Nat.mul_succ] at short
        have hlater : later.length < recordLength * count := by omega
        obtain ⟨detail, hread⟩ := ih hlater
        exact ⟨detail, by simp only [takeTicks?, htick, hread]⟩

/-! ### Every byte string -/

/-- The count that a byte string begins with. -/
def statedCount (bytes : List UInt8) : Nat := ofLittleEndian (bytes.take headerLength)

/-- A byte string with a whole count is that count and what follows. -/
theorem exists_header {bytes : List UInt8} (whole : headerLength ≤ bytes.length) :
    ∃ body, bytes = littleEndian headerLength (statedCount bytes) ++ body
      ∧ take? headerLength bytes = .ok (littleEndian headerLength (statedCount bytes), body) := by
  obtain ⟨header, body, rfl, hheader, htake⟩ := exists_take? whole
  have hcount : littleEndian headerLength (statedCount (header ++ body)) = header := by
    rw [statedCount, List.take_left' hheader, ← hheader, littleEndian_ofLittleEndian]
  exact ⟨body, by rw [hcount], by rw [hcount, htake]⟩

theorem ofLittleEndian_littleEndian_statedCount (bytes : List UInt8) :
    ofLittleEndian (littleEndian headerLength (statedCount bytes)) = statedCount bytes := by
  have hsmall : statedCount bytes < 256 ^ headerLength := by
    refine Nat.lt_of_lt_of_le (ofLittleEndian_lt _) (Nat.pow_le_pow_right (by decide) ?_)
    exact List.length_take_le headerLength bytes
  rw [ofLittleEndian_littleEndian, Nat.mod_eq_of_lt hsmall]

/-- The bytes that the count asks for are a window, and the encoding of it. -/
theorem exists_decode_of_length_eq {bytes : List UInt8}
    (exact : bytes.length = headerLength + recordLength * statedCount bytes) :
    ∃ ticks, decode bytes = .ok ticks ∧ encode ticks = bytes := by
  have whole : headerLength ≤ bytes.length := by omega
  obtain ⟨body, hbytes, htake⟩ := exists_header whole
  have hcount := ofLittleEndian_littleEndian_statedCount bytes
  have hbody : body.length = recordLength * statedCount bytes := by
    have hlength := congrArg List.length hbytes
    rw [List.length_append, length_littleEndian] at hlength
    omega
  obtain ⟨ticks, rest, rfl, hticks, hread⟩ := exists_takeTicks? (Nat.le_of_eq hbody.symm)
  have hrest : rest = [] := by
    rw [List.length_append, length_flatMap_of_forall_length length_encodeTick, hticks] at hbody
    exact List.length_eq_zero_iff.mp (by omega)
  subst hrest
  refine ⟨ticks, ?_, ?_⟩
  · simp only [decode, htake, hcount, hread]
  · rw [encode, hticks, ← List.append_nil (ticks.flatMap encodeTick), ← hbytes]

/-- More bytes than the count asks for are refused, whatever they are. -/
theorem decode_of_length_gt {bytes : List UInt8}
    (more : headerLength + recordLength * statedCount bytes < bytes.length) :
    decode bytes
      = .error (.trailing (headerLength + recordLength * statedCount bytes) bytes.length) := by
  have whole : headerLength ≤ bytes.length := by omega
  obtain ⟨body, hbytes, htake⟩ := exists_header whole
  have hcount := ofLittleEndian_littleEndian_statedCount bytes
  have hlength : bytes.length = headerLength + body.length := by
    have hlength := congrArg List.length hbytes
    rwa [List.length_append, length_littleEndian] at hlength
  have enough : recordLength * statedCount bytes ≤ body.length := by omega
  obtain ⟨ticks, rest, rfl, hticks, hread⟩ := exists_takeTicks? enough
  rw [List.length_append, length_flatMap_of_forall_length length_encodeTick, hticks] at hlength
  rcases rest with _ | ⟨b, rest⟩
  · rw [List.length_nil] at hlength
    omega
  · have hconsumed : bytes.length - (b :: rest).length
        = headerLength + recordLength * statedCount bytes := by omega
    simp only [decode, htake, hcount, hread, hconsumed]

/-- Fewer bytes than the count, or than the count asks for, are a shortage. -/
theorem exists_decode_of_length_lt {bytes : List UInt8}
    (short : bytes.length < headerLength
      ∨ bytes.length < headerLength + recordLength * statedCount bytes) :
    ∃ detail, decode bytes = .error (.decode detail) := by
  rcases Nat.lt_or_ge bytes.length headerLength with hnone | hsome
  · obtain ⟨detail, htake⟩ := exists_take?_error hnone
    exact ⟨detail, by simp only [decode, htake]⟩
  · obtain ⟨body, hbytes, htake⟩ := exists_header hsome
    have hcount := ofLittleEndian_littleEndian_statedCount bytes
    have hlength := congrArg List.length hbytes
    rw [List.length_append, length_littleEndian] at hlength
    have hbody : body.length < recordLength * statedCount bytes := by omega
    obtain ⟨detail, hread⟩ := exists_takeTicks?_error hbody
    exact ⟨detail, by simp only [decode, htake, hcount, hread]⟩

/-! ### The codec -/

/-- What decoding can make of a byte string. -/
inductive Decoded (bytes : List UInt8) : Except CodecFault (List Tick) → Prop
  /-- It is the encoding of a window. -/
  | window {ticks : List Tick}
      (exact : bytes.length = headerLength + recordLength * statedCount bytes)
      (encodes : encode ticks = bytes) : Decoded bytes (.ok ticks)
  /-- It goes on after the window. -/
  | trailing (more : headerLength + recordLength * statedCount bytes < bytes.length) :
      Decoded bytes
        (.error (.trailing (headerLength + recordLength * statedCount bytes) bytes.length))
  /-- It ends within the count or the window. -/
  | shortage {detail : String}
      (short : bytes.length < headerLength
        ∨ bytes.length < headerLength + recordLength * statedCount bytes) :
      Decoded bytes (.error (.decode detail))

/-- Every byte string is decoded in one of the ways of `Decoded`. -/
theorem decoded_decode (bytes : List UInt8) : Decoded bytes (decode bytes) := by
  rcases Nat.lt_trichotomy bytes.length (headerLength + recordLength * statedCount bytes)
    with short | exact | more
  · obtain ⟨detail, hread⟩ := exists_decode_of_length_lt (.inr short)
    rw [hread]
    exact .shortage (.inr short)
  · obtain ⟨ticks, hread, encodes⟩ := exists_decode_of_length_eq exact
    rw [hread]
    exact .window exact encodes
  · rw [decode_of_length_gt more]
    exact .trailing more

/-- **Windows and byte strings.** Every window is read back from its encoding, which has a fixed length,
and which appending puts behind what a buffer held; the count of a window has eight bytes. Of the byte
strings, exactly those with as many bytes as their count asks for are read, and each of these is the
encoding of what is read; longer ones are refused with the number of bytes that the window takes, and
all others are a shortage. -/
theorem window_codec :
    (∀ ticks : List Tick, ticks.length < 2 ^ 64 → decode (encode ticks) = .ok ticks)
      ∧ (∀ ticks : List Tick, (encode ticks).length = 8 + 32 * ticks.length)
      ∧ (∀ (ticks : List Tick) (buffer : List UInt8),
          (append ticks buffer).1 = buffer ++ encode ticks
            ∧ (append ticks buffer).1.length = buffer.length + (append ticks buffer).2)
      ∧ ∀ bytes : List UInt8,
          ((∃ ticks, decode bytes = .ok ticks)
              ↔ 8 ≤ bytes.length ∧ bytes.length = 8 + 32 * statedCount bytes)
            ∧ (∀ ticks, decode bytes = .ok ticks → encode ticks = bytes)
            ∧ (∀ consumed provided, decode bytes = .error (.trailing consumed provided)
                ↔ (8 ≤ bytes.length ∧ 8 + 32 * statedCount bytes < bytes.length)
                  ∧ consumed = 8 + 32 * statedCount bytes ∧ provided = bytes.length)
            ∧ ((bytes.length < 8 ∨ bytes.length < 8 + 32 * statedCount bytes)
                ↔ ∃ detail, decode bytes = .error (.decode detail)) := by
  refine ⟨fun ticks fits => decode_encode fits, length_encode,
    fun ticks buffer => ⟨rfl, List.length_append⟩, fun bytes => ?_⟩
  have hdecoded := decoded_decode bytes
  generalize decode bytes = result at hdecoded
  cases hdecoded with
  | @window ticks exact encodes =>
      simp only [headerLength, recordLength] at exact
      refine ⟨⟨fun _ => ⟨by omega, exact⟩, fun _ => ⟨ticks, rfl⟩⟩, ?_, ?_, ?_⟩
      · rintro _ ⟨⟩
        exact encodes
      · simp
        omega
      · simp
        omega
  | trailing more =>
      simp only [headerLength, recordLength] at more ⊢
      refine ⟨?_, by simp, ?_, ?_⟩
      · simp
        omega
      · intro consumed provided
        simp only [Except.error.injEq, CodecFault.trailing.injEq]
        omega
      · simp
        omega
  | @shortage detail short =>
      simp only [headerLength, recordLength] at short
      refine ⟨?_, by simp, ?_, ⟨fun _ => ⟨detail, rfl⟩, fun _ => short⟩⟩
      · simp
        omega
      · simp
        omega

/-- A window of one tick is read back; a text that is only the greatest count of eight bytes, of which
`8 + 32 * count` bytes would exceed every word, is a shortage. -/
theorem window_codec_greatestCount :
    decode (encode [{}]) = .ok [{}]
      ∧ statedCount (List.replicate 8 255) = 2 ^ 64 - 1
      ∧ ∃ detail, decode (List.replicate 8 255) = .error (.decode detail) := by
  have hcount : statedCount (List.replicate 8 255) = 2 ^ 64 - 1 := by decide
  refine ⟨window_codec.1 [{}] (by decide), hcount, ?_⟩
  have hshort := (window_codec.2.2.2 (List.replicate 8 255)).2.2.2
  rw [hcount] at hshort
  exact hshort.mp (.inr (by decide))

end Codec

end AimAnalysis
