import HandleChallenge.Proofs.Bytes.Minimal
import HandleChallenge.Proofs.Bytes.Reader
import HandleChallenge.Proofs.Signature.Secp256k1
import HandleChallenge.Proofs.Text.Utf8
import HandleChallenge.PublicKey.Basic

/-!
# The normal form of public key records

A record is the name of the family of a key, two bytes of flags and blocks that name the parts of the
key (`Spells`), and a key is decoded from its records alone (`decode_eq_ok_iff`). One of them is the
record that is written for the key, with no flags, without zeros in front of numbers and with a
compressed point. So it is decoded again (`decode_encode`), and keys are told apart by it
(`encode_injective`).
-/

namespace HandleChallenge

/-! ### Keys and their parts -/

namespace Signature.Rsa.PublicKey

theorem ofParts_eq_ok_iff {modulus exponent : Nat} {key : PublicKey} :
    ofParts modulus exponent = .ok key ↔ key.modulus = modulus ∧ key.exponent = exponent := by
  obtain ⟨modulus', exponent', valid⟩ := key
  unfold ofParts
  constructor
  · intro h
    split at h
    · cases h
      exact ⟨rfl, rfl⟩
    · cases h
  · rintro ⟨rfl, rfl⟩
    split
    · rfl
    · rename_i herror
      cases valid.symm.trans herror

theorem exponent_bounds (key : PublicKey) : 2 ≤ key.exponent ∧ key.exponent < key.modulus := by
  have hvalid := key.valid
  simp only [keyError?] at hvalid
  split_ifs at hvalid
  omega

end Signature.Rsa.PublicKey

namespace Signature.Dsa.PublicKey

theorem ofParts?_eq_some_iff {q p g y : Nat} {key : PublicKey} :
    ofParts? q p g y = some key ↔ key.q = q ∧ key.p = p ∧ key.g = g ∧ key.y = y := by
  obtain ⟨q', p', g', y', valid⟩ := key
  unfold ofParts?
  constructor
  · intro h
    split at h
    · cases h
      exact ⟨rfl, rfl, rfl, rfl⟩
    · cases h
  · rintro ⟨rfl, rfl, rfl, rfl⟩
    exact dif_pos valid

theorem parts_ne_zero (key : PublicKey) : key.q ≠ 0 ∧ key.p ≠ 0 ∧ key.g ≠ 0 ∧ key.y ≠ 0 := by
  have hvalid := key.valid
  simp only [validKey, Bool.and_eq_true, decide_eq_true_eq, bne_iff_ne] at hvalid
  omega

end Signature.Dsa.PublicKey

namespace Signature.Ed25519.PublicKey

theorem ofBytes?_eq_some_iff {bytes : Bytes} {key : PublicKey} :
    ofBytes? bytes = some key ↔ key.bytes = bytes := by
  obtain ⟨bytes', point, named⟩ := key
  unfold ofBytes?
  constructor
  · intro h
    split at h
    · cases h
      rfl
    · cases h
  · rintro rfl
    split
    · rename_i other hother
      cases named.symm.trans hother
      rfl
    · rename_i hnone
      cases named.symm.trans hnone

theorem length_bytes (key : PublicKey) : key.bytes.length = 32 := by
  obtain ⟨_, hguard, -⟩ := Option.bind_eq_some_iff.1 key.named
  exact (Option.guard_eq_some' _).1 hguard

end Signature.Ed25519.PublicKey

namespace PublicKey

open RecordReader (fields)
open Reader (run_bind run_bind_eq_ok_iff run_bind_of_error)

/-! ### Fields of a record -/

section Fields

variable {α : Type} {reader : Reader α} {bytes rest : Bytes}

/-- What is read of a record goes on as its fields do. -/
theorem run_fields (reader : Reader α) (bytes : Bytes) :
    (fields reader).run bytes =
      ((reader.run bytes).1.mapError RecordError.layout, (reader.run bytes).2) :=
  rfl

theorem run_fields_eq_ok_iff {value : α} :
    (fields reader).run bytes = (.ok value, rest) ↔ reader.run bytes = (.ok value, rest) := by
  rw [run_fields]
  rcases reader.run bytes with ⟨error | read, left⟩
  · exact ⟨fun h => (by cases h), fun h => (by cases h)⟩
  · exact ⟨fun h => (by cases h; rfl), fun h => (by cases h; rfl)⟩

theorem run_fields_of_error {error : LayoutError} (h : reader.run bytes = (.error error, rest)) :
    (fields reader).run bytes = (.error (.layout error), rest) := by
  rw [run_fields, h]
  rfl

/-- A block is taken with the length that it announces, and the reader goes on behind it. -/
theorem run_block_bind_eq_ok_iff {next : Bytes → RecordReader α} {result : α} :
    (fields Reader.block >>= next).run bytes = (.ok result, rest) ↔
      ∃ data middle, data.length ≤ Field.maxLength ∧ bytes = (Field.block data).encode ++ middle ∧
        (next data).run middle = (.ok result, rest) := by
  simp only [run_bind_eq_ok_iff, run_fields_eq_ok_iff, Reader.run_block_eq_ok_iff, and_assoc]

/-- A number is taken from a block. -/
theorem run_number_bind_eq_ok_iff {next : Nat → RecordReader α} {result : α} :
    (numberReader >>= next).run bytes = (.ok result, rest) ↔
      ∃ data middle, data.length ≤ Field.maxLength ∧ bytes = (Field.block data).encode ++ middle ∧
        (next (Bytes.toNat data)).run middle = (.ok result, rest) := by
  rw [numberReader, bind_assoc]
  simp only [run_block_bind_eq_ok_iff, pure_bind]

end Fields

/-! ### The parts of a key -/

/-- The blocks name the parts of a key: numbers with or without leading zeros, and the points in
their forms. -/
inductive Spells : PublicKey → List Bytes → Prop
  | rsa {key : Signature.Rsa.PublicKey} {exponent modulus : Bytes}
    (hexponent : Bytes.Padded key.exponent exponent) (hmodulus : Bytes.Padded key.modulus modulus) :
    Spells (.rsa key) [exponent, modulus]
  | dsa {key : Signature.Dsa.PublicKey} {q p g y : Bytes} (hq : Bytes.Padded key.q q)
    (hp : Bytes.Padded key.p p) (hg : Bytes.Padded key.g g) (hy : Bytes.Padded key.y y) :
    Spells (.dsa key) [q, p, g, y]
  | ed25519 {key : Signature.Ed25519.PublicKey} : Spells (.ed25519 key) [key.bytes]
  | secp256k1 {key : Signature.Secp256k1.PublicKey} {point : Bytes} (hpoint : key.IsForm point) :
    Spells (.secp256k1 key) [point]

theorem spells_rsa_iff {key : Signature.Rsa.PublicKey} {exponent modulus : Bytes} :
    Spells (.rsa key) [exponent, modulus] ↔
      Signature.Rsa.PublicKey.ofParts (Bytes.toNat modulus) (Bytes.toNat exponent) = .ok key := by
  have hbounds := key.exponent_bounds
  rw [Signature.Rsa.PublicKey.ofParts_eq_ok_iff, ← Bytes.padded_iff (by omega),
    ← Bytes.padded_iff (by omega)]
  constructor
  · intro h
    cases h with
    | rsa hexponent hmodulus => exact ⟨hmodulus, hexponent⟩
  · rintro ⟨hmodulus, hexponent⟩
    exact .rsa hexponent hmodulus

theorem spells_dsa_iff {key : Signature.Dsa.PublicKey} {q p g y : Bytes} :
    Spells (.dsa key) [q, p, g, y] ↔
      Signature.Dsa.PublicKey.ofParts? (Bytes.toNat q) (Bytes.toNat p) (Bytes.toNat g)
        (Bytes.toNat y) = some key := by
  obtain ⟨hq0, hp0, hg0, hy0⟩ := key.parts_ne_zero
  rw [Signature.Dsa.PublicKey.ofParts?_eq_some_iff, ← Bytes.padded_iff hq0,
    ← Bytes.padded_iff hp0, ← Bytes.padded_iff hg0, ← Bytes.padded_iff hy0]
  constructor
  · intro h
    cases h with
    | dsa hq hp hg hy => exact ⟨hq, hp, hg, hy⟩
  · rintro ⟨hq, hp, hg, hy⟩
    exact .dsa hq hp hg hy

/-- The lengths of the blocks can be announced. -/
def Announced (blocks : List Bytes) : Prop := ∀ block ∈ blocks, block.length ≤ Field.maxLength

/-- The reader takes the parts of the keys of a family and nothing else. -/
def ReadsParts (reader : RecordReader PublicKey) (family : KeyFamily) : Prop :=
  ∀ bytes rest key, reader.run bytes = (.ok key, rest) ↔
    key.family = family ∧ ∃ blocks, Announced blocks ∧ Spells key blocks ∧
      bytes = Field.encodeAll (blocks.map .block) ++ rest

theorem encodeAll_blocks_cons (block : Bytes) (blocks : List Bytes) (rest : Bytes) :
    Field.encodeAll ((block :: blocks).map .block) ++ rest =
      (Field.block block).encode ++ (Field.encodeAll (blocks.map .block) ++ rest) := by
  simp

theorem readsParts_rsa : ReadsParts rsaReader .rsa := by
  intro bytes rest key
  simp only [rsaReader, run_number_bind_eq_ok_iff]
  constructor
  · rintro ⟨exponent, middle, hexponent, rfl, modulus, last, hmodulus, rfl, h⟩
    split at h
    · rename_i key hkey
      cases h
      refine ⟨rfl, [exponent, modulus], ?_, spells_rsa_iff.2 hkey, by simp⟩
      simp [Announced, hexponent, hmodulus]
    · cases h
  · rintro ⟨hfamily, blocks, hblocks, hspells, rfl⟩
    cases hspells with
    | rsa hexponent hmodulus =>
      simp only [Announced, List.forall_mem_cons] at hblocks
      refine ⟨_, _, hblocks.1, encodeAll_blocks_cons .., _, _, hblocks.2.1,
        encodeAll_blocks_cons .., ?_⟩
      rw [spells_rsa_iff.1 (.rsa hexponent hmodulus)]
      rfl
    | _ => cases hfamily

theorem readsParts_dsa : ReadsParts dsaReader .dsa := by
  intro bytes rest key
  simp only [dsaReader, run_number_bind_eq_ok_iff]
  constructor
  · rintro ⟨q, _, hq, rfl, p, _, hp, rfl, g, _, hg, rfl, y, _, hy, rfl, h⟩
    split at h
    · rename_i key hkey
      cases h
      refine ⟨rfl, [q, p, g, y], ?_, spells_dsa_iff.2 hkey, by simp⟩
      simp [Announced, hq, hp, hg, hy]
    · cases h
  · rintro ⟨hfamily, blocks, hblocks, hspells, rfl⟩
    cases hspells with
    | dsa hq hp hg hy =>
      simp only [Announced, List.forall_mem_cons] at hblocks
      obtain ⟨hq', hp', hg', hy', -⟩ := hblocks
      refine ⟨_, _, hq', encodeAll_blocks_cons .., _, _, hp', encodeAll_blocks_cons .., _, _, hg',
        encodeAll_blocks_cons .., _, _, hy', encodeAll_blocks_cons .., ?_⟩
      rw [spells_dsa_iff.1 (.dsa hq hp hg hy)]
      rfl
    | _ => cases hfamily

theorem readsParts_ed25519 : ReadsParts ed25519Reader .ed25519 := by
  intro bytes rest key
  simp only [ed25519Reader, run_block_bind_eq_ok_iff]
  constructor
  · rintro ⟨point, _, hpoint, rfl, h⟩
    split at h
    · cases h
    · split at h
      · rename_i key hkey
        cases h
        obtain rfl := Signature.Ed25519.PublicKey.ofBytes?_eq_some_iff.1 hkey
        refine ⟨rfl, [key.bytes], ?_, .ed25519, by simp⟩
        simp [Announced, hpoint]
      · cases h
  · rintro ⟨hfamily, blocks, hblocks, hspells, rfl⟩
    cases hspells with
    | @ed25519 key =>
      simp only [Announced, List.forall_mem_cons] at hblocks
      refine ⟨_, _, hblocks.1, encodeAll_blocks_cons .., ?_⟩
      simp only [key.length_bytes]
      rw [Signature.Ed25519.PublicKey.ofBytes?_eq_some_iff.2 rfl]
      rfl
    | _ => cases hfamily

theorem readsParts_secp256k1 : ReadsParts secp256k1Reader .secp256k1 := by
  intro bytes rest key
  simp only [secp256k1Reader, run_block_bind_eq_ok_iff]
  constructor
  · rintro ⟨point, _, hpoint, rfl, h⟩
    split at h
    · rename_i key hkey
      cases h
      refine ⟨rfl, [point], ?_, .secp256k1 ?_, by simp⟩
      · simp [Announced, hpoint]
      · exact Signature.Secp256k1.PublicKey.decode?_eq_some_iff.1 hkey
    · cases h
  · rintro ⟨hfamily, blocks, hblocks, hspells, rfl⟩
    cases hspells with
    | secp256k1 hpoint =>
      simp only [Announced, List.forall_mem_cons] at hblocks
      refine ⟨_, _, hblocks.1, encodeAll_blocks_cons .., ?_⟩
      rw [Signature.Secp256k1.PublicKey.decode?_eq_some_iff.2 hpoint]
      rfl
    | _ => cases hfamily

theorem readsParts (family : KeyFamily) : ReadsParts (partsReader family) family := by
  cases family with
  | rsa => exact readsParts_rsa
  | dsa => exact readsParts_dsa
  | ed25519 => exact readsParts_ed25519
  | secp256k1 => exact readsParts_secp256k1

/-! ### Records -/

/-- A record of the key with the given flags and blocks. -/
def record (key : PublicKey) (flags : UInt16) (blocks : List Bytes) : Bytes :=
  Field.encodeAll
    (.block (Text.Utf8.encode key.family.recordType) :: .u16 flags :: blocks.map .block)

theorem record_append (key : PublicKey) (flags : UInt16) (blocks : List Bytes) (extra : Bytes) :
    record key flags blocks ++ extra =
      (Field.block (Text.Utf8.encode key.family.recordType)).encode ++
        ((Field.u16 flags).encode ++ (Field.encodeAll (blocks.map .block) ++ extra)) := by
  simp [record]

/-- The name of a family in its records can be announced. -/
theorem length_recordType_le (family : KeyFamily) :
    (Text.Utf8.encode family.recordType).length ≤ Field.maxLength := by
  cases family <;> decide

/-- A family is found by the name in its records alone, byte by byte. -/
theorem ofRecordType?_decodeLossy_eq_some_iff {name : Bytes} {family : KeyFamily} :
    KeyFamily.ofRecordType? (Text.Utf8.decodeLossy name) = some family ↔
      name = Text.Utf8.encode family.recordType := by
  have hplain : '\ufffd' ∉ family.recordType.toList := by cases family <;> decide
  rw [← Text.Utf8.decodeLossy_eq_iff hplain]
  constructor
  · intro h
    have htype := List.find?_some h
    exact (beq_iff_eq.1 htype).symm
  · intro h
    rw [h, KeyFamily.ofRecordType?_recordType]

variable {key : PublicKey} {flags : UInt16} {blocks : List Bytes} {bytes rest extra : Bytes}

/-- Behind the blocks of a key nothing is left to do but to see that nothing is left. -/
theorem run_reader_record (hblocks : Announced blocks) (hspells : Spells key blocks)
    (extra : Bytes) :
    reader.run (record key flags blocks ++ extra) =
      (fields Reader.finish >>= fun _ => pure key : RecordReader PublicKey).run extra := by
  have hname := Reader.reads_block (length_recordType_le key.family)
  have hparts : (partsReader key.family).run (Field.encodeAll (blocks.map .block) ++ extra) =
      (.ok key, extra) := (readsParts key.family _ _ _).2 ⟨rfl, blocks, hblocks, hspells, rfl⟩
  rw [record_append, reader, run_bind (run_fields_eq_ok_iff.2 (hname _)),
    run_bind (run_fields_eq_ok_iff.2 (Reader.run_u16_eq_ok_iff.2 rfl)),
    ofRecordType?_decodeLossy_eq_some_iff.2 rfl]
  exact run_bind hparts

/-- What goes through is a record of the key. -/
theorem exists_record_of_run_reader (h : reader.run bytes = (.ok key, rest)) :
    ∃ flags blocks, Announced blocks ∧ Spells key blocks ∧ bytes = record key flags blocks := by
  obtain ⟨name, middle, -, rfl, hbehind⟩ := run_block_bind_eq_ok_iff.1 h
  obtain ⟨flags, last, hflags, hparts⟩ := run_bind_eq_ok_iff.1 hbehind
  obtain rfl := Reader.run_u16_eq_ok_iff.1 (run_fields_eq_ok_iff.1 hflags)
  split at hparts
  · cases hparts
  · rename_i family hfamily
    obtain rfl := ofRecordType?_decodeLossy_eq_some_iff.1 hfamily
    obtain ⟨key', left, hkey, hfinish⟩ := run_bind_eq_ok_iff.1 hparts
    obtain ⟨done, left', hdone, hend⟩ := run_bind_eq_ok_iff.1 hfinish
    cases hend
    obtain ⟨rfl, -⟩ := Reader.run_finish_eq_ok_iff.1 (run_fields_eq_ok_iff.1 hdone)
    obtain ⟨rfl, blocks, hblocks, hspells, rfl⟩ := (readsParts family _ _ _).1 hkey
    refine ⟨flags, blocks, hblocks, hspells, ?_⟩
    rw [← List.append_nil (record _ _ _), record_append]

/-- The records of a key are what it is decoded from. -/
theorem decode_eq_ok_iff : decode bytes = .ok key ↔
    ∃ flags blocks, Announced blocks ∧ Spells key blocks ∧ bytes = record key flags blocks := by
  constructor
  · intro h
    rcases hrun : reader.run bytes with ⟨read, rest⟩
    have hread : read = .ok key := by rw [← h, decode, hrun]
    exact exists_record_of_run_reader (hread ▸ hrun)
  · rintro ⟨flags, blocks, hblocks, hspells, rfl⟩
    rw [decode, ← List.append_nil (record _ _ _), run_reader_record hblocks hspells]
    rfl

/-- Bytes behind a record are counted. -/
theorem decode_append (h : decode bytes = .ok key) (hextra : extra ≠ []) :
    decode (bytes ++ extra) = .error (.layout (.trailing extra.length)) := by
  obtain ⟨flags, blocks, hblocks, hspells, rfl⟩ := decode_eq_ok_iff.1 h
  rw [decode, run_reader_record hblocks hspells,
    run_bind_of_error (run_fields_of_error (Reader.run_finish_of_ne_nil hextra))]

/-- The name at the front of a record is that of the key's family. -/
theorem family_of_decode (h : decode bytes = .ok key) {family : KeyFamily}
    (hfront : bytes = (Field.block (Text.Utf8.encode family.recordType)).encode ++ rest) :
    family = key.family := by
  obtain ⟨flags, blocks, -, -, hrecord⟩ := decode_eq_ok_iff.1 h
  rw [← List.append_nil (record _ _ _), record_append] at hrecord
  have hread := Reader.reads_block (length_recordType_le family) rest
  rw [← hfront, hrecord, Reader.reads_block (length_recordType_le key.family)] at hread
  have hname : Text.Utf8.encode key.family.recordType = Text.Utf8.encode family.recordType :=
    Except.ok.inj (congrArg Prod.fst hread)
  have hfamily := ofRecordType?_decodeLossy_eq_some_iff.2 hname
  rw [ofRecordType?_decodeLossy_eq_some_iff.2 rfl] at hfamily
  exact (Option.some.inj hfamily).symm

/-! ### The normal form -/

/-- The parts of a key as they are written name the key. -/
theorem spells_parts (key : PublicKey) : Spells key key.parts := by
  cases key with
  | rsa key => exact .rsa (Bytes.padded_minimal _) (Bytes.padded_minimal _)
  | dsa key =>
    exact .dsa (Bytes.padded_minimal _) (Bytes.padded_minimal _) (Bytes.padded_minimal _)
      (Bytes.padded_minimal _)
  | ed25519 key => exact .ed25519
  | secp256k1 key => exact .secp256k1 .compressed

/-- The parts of a key as they are written can be announced if they ever were. -/
theorem announced_parts (hblocks : Announced blocks) (hspells : Spells key blocks) :
    Announced key.parts := by
  have hle {n : Nat} {block : Bytes} (hpadded : Bytes.Padded n block)
      (hblock : block.length ≤ Field.maxLength) : (Bytes.minimal n).length ≤ Field.maxLength :=
    hpadded.length_minimal_le.trans hblock
  cases hspells with
  | rsa hexponent hmodulus =>
    simp only [Announced, List.forall_mem_cons] at hblocks
    simp [Announced, parts, hle hexponent hblocks.1, hle hmodulus hblocks.2.1]
  | dsa hq hp hg hy =>
    simp only [Announced, List.forall_mem_cons] at hblocks
    obtain ⟨hq', hp', hg', hy', -⟩ := hblocks
    simp [Announced, parts, hle hq hq', hle hp hp', hle hg hg', hle hy hy']
  | ed25519 => exact hblocks
  | secp256k1 hpoint =>
    simp [Announced, parts, Signature.Secp256k1.PublicKey.encode, Field.maxLength]

/-- A key that was decoded is decoded from the record that is written for it. -/
theorem decode_encode (h : decode bytes = .ok key) : decode key.encode = .ok key := by
  obtain ⟨flags, blocks, hblocks, hspells, -⟩ := decode_eq_ok_iff.1 h
  exact decode_eq_ok_iff.2 ⟨0, key.parts, announced_parts hblocks hspells, spells_parts key, rfl⟩

/-- Keys that were decoded are told apart by the records that are written for them. -/
theorem encode_injective {key other : PublicKey} {first second : Bytes}
    (h : decode first = .ok key) (hother : decode second = .ok other)
    (hencode : other.encode = key.encode) : other = key := by
  have hdecode := decode_encode hother
  rw [hencode, decode_encode h] at hdecode
  exact (Except.ok.inj hdecode).symm

/-- What a record was decoded to is decoded again from the record that is written for it. Of the
records that are decoded, those that lead to the same one have the same parts: flags, zeros in front of
numbers and the forms of points alone are forgotten. The name at the front is that of the key's family,
and nothing may stand behind a record. -/
theorem record_has_normal_form (h : decode bytes = .ok key) :
    decode key.encode = .ok key ∧
    (∀ other otherKey, decode other = .ok otherKey → (otherKey.encode = key.encode ↔
      ∃ flags blocks, Announced blocks ∧ Spells key blocks ∧ other = record key flags blocks)) ∧
    (∀ family rest, bytes = (Field.block (Text.Utf8.encode family.recordType)).encode ++ rest →
      family = key.family) ∧
    ∀ extra, extra ≠ [] →
      decode (bytes ++ extra) = .error (.layout (.trailing extra.length)) := by
  refine ⟨decode_encode h, fun other otherKey hother => ⟨fun hencode => ?_, fun hrecord => ?_⟩,
    fun family rest hfront => family_of_decode h hfront, fun extra hextra => decode_append h hextra⟩
  · obtain rfl := encode_injective h hother hencode
    exact decode_eq_ok_iff.1 hother
  · rw [decode_eq_ok_iff.2 hrecord] at hother
    rw [Except.ok.inj hother]

/-- A subgroup of order eleven modulo twenty-three. -/
def smallKey : PublicKey := .dsa ⟨11, 23, 2, 4, by decide +kernel⟩

/-- Flags are forgotten and zeros in front of two numbers. -/
theorem record_has_normal_form_of_padded :
    decode (record smallKey 0x0103 [[0, 11], [23], [0, 0, 2], [4]]) = .ok smallKey ∧
      decode smallKey.encode = .ok smallKey ∧
      decode (record smallKey 0x0103 [[0, 11], [23], [0, 0, 2], [4]] ++ [0]) =
        .error (.layout (.trailing 1)) := by
  have hdecode : decode (record smallKey 0x0103 [[0, 11], [23], [0, 0, 2], [4]]) = .ok smallKey :=
    decode_eq_ok_iff.2 ⟨_, _, by simp [Announced, Field.maxLength],
      .dsa ⟨1, by decide⟩ ⟨0, by decide⟩ ⟨2, by decide⟩ ⟨0, by decide⟩, rfl⟩
  exact ⟨hdecode, (record_has_normal_form hdecode).1,
    (record_has_normal_form hdecode).2.2.2 [0] (by decide)⟩

end PublicKey

end HandleChallenge
