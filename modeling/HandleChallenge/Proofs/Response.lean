import HandleChallenge.Proofs.Bytes.Reader
import HandleChallenge.Proofs.Checks
import HandleChallenge.Proofs.Text.Utf8
import HandleChallenge.Response

/-!
# Reading a signed response

A secret-key response has one form. A public-key response is written under the canonical name of
its hash, and read under every spelling of it. `decode_secretKey_eq_ok_iff` and
`decode_publicKey_eq_ok_iff` tell for each kind which byte strings are read as which response; what
writing and reading are to each other is read off them (`decode_inverts_encode`).
-/

namespace HandleChallenge

/-- An algorithm is the one that its code byte stands for. -/
theorem Algorithm.ofWireCode_eq_ok_iff {code : UInt8} {algorithm : Algorithm} :
    ofWireCode code = .ok algorithm ↔ algorithm.wireCode = code := by
  constructor
  · intro h
    unfold ofWireCode at h
    split at h
    · rename_i found hfound
      cases h
      have hcode := List.find?_some hfound
      exact eq_of_beq hcode
    · cases h
  · rintro rfl
    exact ofWireCode_wireCode algorithm

/-- A canonical name is short. -/
theorem Algorithm.length_encode_name (algorithm : Algorithm) :
    (Text.Utf8.encode algorithm.name).length ≤ Field.maxLength := by
  cases algorithm <;> decide

namespace SignedResponse

open Checks (bind_of_ok bind_eq_ok_iff mapError_eq_ok_iff)

variable {bytes : Bytes} {response : SignedResponse}

/-- A payload is all that comes behind the code byte. -/
theorem decode_secretKeyReader_eq_ok_iff {code : UInt8} {payload : Bytes} :
    secretKeyReader.decode bytes = .ok (code, payload) ↔ bytes = code :: payload := by
  rw [Reader.decode_eq_ok_iff]
  constructor
  · rintro ⟨rest, hrun⟩
    obtain ⟨first, middle, hfirst, hmore⟩ := Reader.run_bind_eq_ok_iff.1 hrun
    obtain ⟨behind, last, hbehind, hend⟩ := Reader.run_bind_eq_ok_iff.1 hmore
    cases hbehind
    cases hend
    exact Reader.run_u8_eq_ok_iff.1 hfirst
  · rintro rfl
    refine ⟨[], ?_⟩
    rw [secretKeyReader, Reader.run_bind (Reader.run_u8_eq_ok_iff.2 rfl)]
    rfl

/-- Name and signature are two blocks, and nothing comes behind them. -/
theorem decode_publicKeyReader_eq_ok_iff {name signature : Bytes} :
    publicKeyReader.decode bytes = .ok (name, signature) ↔
      (name.length ≤ Field.maxLength ∧ signature.length ≤ Field.maxLength) ∧
        bytes = Field.encodeAll [.block name, .block signature] := by
  rw [Reader.decode_eq_ok_iff, Field.encodeAll_cons, Field.encodeAll_cons, Field.encodeAll_nil]
  constructor
  · rintro ⟨rest, hrun⟩
    obtain ⟨first, middle, hfirst, hmore⟩ := Reader.run_bind_eq_ok_iff.1 hrun
    obtain ⟨second, behind, hsecond, hmore⟩ := Reader.run_bind_eq_ok_iff.1 hmore
    obtain ⟨done, last, hdone, hend⟩ := Reader.run_bind_eq_ok_iff.1 hmore
    cases hend
    obtain ⟨hname, rfl⟩ := Reader.run_block_eq_ok_iff.1 hfirst
    obtain ⟨hsignature, rfl⟩ := Reader.run_block_eq_ok_iff.1 hsecond
    obtain ⟨rfl, -⟩ := Reader.run_finish_eq_ok_iff.1 hdone
    exact ⟨⟨hname, hsignature⟩, rfl⟩
  · rintro ⟨⟨hname, hsignature⟩, rfl⟩
    refine ⟨[], ?_⟩
    rw [publicKeyReader, Reader.run_bind (Reader.reads_block hname _),
      Reader.run_bind (Reader.reads_block hsignature _), Reader.run_bind Reader.run_finish_nil]
    rfl

/-- A byte string is read as a secret-key response exactly if it is what is written of it, and a
payload is there. -/
theorem decode_secretKey_eq_ok_iff :
    decode .secretKey bytes = .ok response ↔
      ∃ algorithm payload, response = .secretKey algorithm payload ∧ payload ≠ [] ∧
        bytes = response.encode := by
  constructor
  · intro h
    rw [decode] at h
    obtain ⟨⟨code, payload⟩, hread, hmore⟩ := bind_eq_ok_iff.1 h
    obtain ⟨algorithm, halgorithm, hmade⟩ := bind_eq_ok_iff.1 hmore
    obtain rfl := decode_secretKeyReader_eq_ok_iff.1 (mapError_eq_ok_iff.1 hread)
    obtain rfl := Algorithm.ofWireCode_eq_ok_iff.1 halgorithm
    by_cases hpayload : payload = []
    · rw [if_pos hpayload] at hmade
      cases hmade
    · rw [if_neg hpayload] at hmade
      cases hmade
      exact ⟨algorithm, payload, rfl, hpayload, by simp [encode, Field.encode]⟩
  · rintro ⟨algorithm, payload, rfl, hpayload, rfl⟩
    have hbytes : (secretKey algorithm payload).encode = algorithm.wireCode :: payload := by
      simp [encode, Field.encode]
    rw [decode, bind_of_ok (mapError_eq_ok_iff.2 (decode_secretKeyReader_eq_ok_iff.2 hbytes))]
    simp only [Algorithm.ofWireCode_wireCode]
    rw [bind_of_ok rfl, if_neg hpayload]
    rfl

theorem ofSignature_eq_ok_iff {algorithm : Algorithm} {signature : Bytes} :
    ofSignature algorithm signature = .ok response ↔
      algorithm.isSignatureHash = true ∧ response = .publicKey algorithm signature := by
  unfold ofSignature
  split
  · rename_i hhash
    constructor
    · intro h
      cases h
      exact ⟨hhash, rfl⟩
    · rintro ⟨-, rfl⟩
      rfl
  · rename_i hhash
    constructor
    · intro h
      cases h
    · rintro ⟨h, -⟩
      exact absurd h hhash

/-- A byte string is read as a public-key response exactly if it is a name for the hash and the
signature, both as blocks. -/
theorem decode_publicKey_eq_ok_iff :
    decode .publicKey bytes = .ok response ↔
      ∃ algorithm signature name, response = .publicKey algorithm signature ∧
        algorithm.isSignatureHash = true ∧ Algorithm.resolve name = .ok algorithm ∧
          ((Text.Utf8.encode name).length ≤ Field.maxLength ∧
            signature.length ≤ Field.maxLength) ∧
          bytes = Field.encodeAll [.block (Text.Utf8.encode name), .block signature] := by
  constructor
  · intro h
    rw [decode] at h
    obtain ⟨⟨spelled, signature⟩, hread, hmore⟩ := bind_eq_ok_iff.1 h
    obtain ⟨hfits, rfl⟩ := decode_publicKeyReader_eq_ok_iff.1 (mapError_eq_ok_iff.1 hread)
    cases hname : Text.Utf8.decode? spelled with
    | none =>
      simp only [hname] at hmore
      cases hmore
    | some name =>
      simp only [hname] at hmore
      obtain rfl := Text.Utf8.decode?_eq_some_iff.1 hname
      obtain ⟨algorithm, halgorithm, hmade⟩ := bind_eq_ok_iff.1 hmore
      obtain ⟨hhash, rfl⟩ := ofSignature_eq_ok_iff.1 hmade
      exact ⟨algorithm, signature, name, rfl, hhash, halgorithm, hfits, rfl⟩
  · rintro ⟨algorithm, signature, name, rfl, hhash, halgorithm, hfits, rfl⟩
    have hread := decode_publicKeyReader_eq_ok_iff.2 ⟨hfits, rfl⟩
    rw [decode, bind_of_ok (mapError_eq_ok_iff.2 hread)]
    simp only [Text.Utf8.decode?_encode]
    rw [bind_of_ok halgorithm]
    exact ofSignature_eq_ok_iff.2 ⟨hhash, rfl⟩

/-- The responses that can be read back: a payload is there, and a signature is made with a hash
and has a length that can be announced. -/
def IsReadable : SignedResponse → Prop
  | secretKey _ payload => payload ≠ []
  | publicKey algorithm signature =>
    algorithm.isSignatureHash = true ∧ signature.length < 2 ^ 32

/-- A readable response is read back. -/
theorem decode_encode (h : response.IsReadable) :
    decode response.kind response.encode = .ok response := by
  cases response with
  | secretKey algorithm payload =>
    exact decode_secretKey_eq_ok_iff.2 ⟨algorithm, payload, rfl, h, rfl⟩
  | publicKey algorithm signature =>
    exact decode_publicKey_eq_ok_iff.2 ⟨algorithm, signature, algorithm.name, rfl, h.1,
      Algorithm.resolve_name algorithm, ⟨algorithm.length_encode_name, Nat.le_sub_one_of_lt h.2⟩,
      rfl⟩

/-- A block of bounded length is its length in four bytes and its bytes. -/
theorem encodeAll_blocks {name signature : Bytes} (hname : name.length ≤ Field.maxLength)
    (hsignature : signature.length ≤ Field.maxLength) :
    Field.encodeAll [.block name, .block signature] =
      Bytes.ofNat 4 name.length ++ name ++ (Bytes.ofNat 4 signature.length ++ signature) := by
  simp only [Field.encodeAll_cons, Field.encodeAll_nil, Field.encode, Field.lengthBytes,
    Nat.min_eq_left hname, Nat.min_eq_left hsignature, List.append_nil]

/-- Writing and reading are inverse to each other. A readable response is read back. What is read
as a secret-key response is what is written of it. What is read as a public-key response is a name
for its hash and its signature, each behind its length and with nothing behind them, and the
response is also read from what is written of it. -/
theorem decode_inverts_encode :
    (∀ response : SignedResponse, response.IsReadable →
      decode response.kind response.encode = .ok response) ∧
    (∀ bytes response, decode .secretKey bytes = .ok response →
      (response.kind = .secretKey ∧ response.IsReadable) ∧ response.encode = bytes) ∧
    ∀ bytes response, decode .publicKey bytes = .ok response →
      (response.kind = .publicKey ∧ response.IsReadable) ∧
        (∃ name, Algorithm.resolve name = .ok response.algorithm ∧
          (Text.Utf8.encode name).length < 2 ^ 32 ∧
          bytes = Bytes.ofNat 4 (Text.Utf8.encode name).length ++ Text.Utf8.encode name ++
            (Bytes.ofNat 4 response.payload.length ++ response.payload)) ∧
        decode .publicKey response.encode = .ok response := by
  refine ⟨fun response => decode_encode, fun bytes response h => ?_, fun bytes response h => ?_⟩
  · obtain ⟨algorithm, payload, rfl, hpayload, rfl⟩ := decode_secretKey_eq_ok_iff.1 h
    exact ⟨⟨rfl, hpayload⟩, rfl⟩
  · obtain ⟨algorithm, signature, name, rfl, hhash, halgorithm, ⟨hname, hsignature⟩, rfl⟩ :=
      decode_publicKey_eq_ok_iff.1 h
    have hreadable : (publicKey algorithm signature).IsReadable :=
      ⟨hhash, Nat.lt_of_le_of_lt hsignature (by decide)⟩
    exact ⟨⟨rfl, hreadable⟩,
      ⟨name, halgorithm, Nat.lt_of_le_of_lt hname (by decide), encodeAll_blocks hname hsignature⟩,
      decode_encode hreadable⟩

/-- A signature under the name `sha_256` is read, and written under the name `SHA-256`. -/
theorem spelledHash_read_back :
    decode .secretKey (secretKey .sha1 [7]).encode = .ok (secretKey .sha1 [7]) ∧
      decode .publicKey (publicKey .sha256 [1]).encode = .ok (publicKey .sha256 [1]) ∧
        (publicKey .sha256 [1]).encode ≠
          Field.encodeAll [.block (Text.Utf8.encode "sha_256"), .block [1]] := by
  have hspelled : decode .publicKey
      (Field.encodeAll [.block (Text.Utf8.encode "sha_256"), .block [1]]) =
        .ok (publicKey .sha256 [1]) :=
    decode_publicKey_eq_ok_iff.2 ⟨.sha256, [1], "sha_256", rfl, rfl, rfl, by decide, rfl⟩
  have hsecret : (secretKey .sha1 [7]).IsReadable := List.cons_ne_nil 7 []
  obtain ⟨hread, hwritten, hspelling⟩ := decode_inverts_encode
  exact ⟨hread _ hsecret, (hspelling _ _ hspelled).2.2, by decide⟩

end SignedResponse

end HandleChallenge
