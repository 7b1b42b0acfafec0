import HandleChallenge.Hash.Hmac
import Mathlib.Data.List.Basic

/-!
# Keys of one HMAC

Two keys give one HMAC of a message if their blocks are equal, which is to say that they differ by
zero bytes at the end once a long one is hashed (`blockKey_eq_iff`). If the blocks differ, so do
the inputs of the outer hash, and where the HMACs are equal all the same these inputs are a
collision (`hmac_eq_iff`).
-/

namespace HandleChallenge.Hash

/-- A key as it enters its block: one that is longer than the block is hashed. -/
def shortKey (hash : Bytes → Bytes) (key : Bytes) : Bytes :=
  if hmacBlock < key.length then hash key else key

/-- Two keys that fill one block: they differ by zero bytes at the end. -/
def SameKey (hash : Bytes → Bytes) (key other : Bytes) : Prop :=
  ∃ m n, shortKey hash key ++ List.replicate m 0 = shortKey hash other ++ List.replicate n 0

/-- Two different messages with one hash. -/
def Collides (hash : Bytes → Bytes) (message other : Bytes) : Prop :=
  message ≠ other ∧ hash message = hash other

/-- What the outer hash is taken of. -/
def outerInput (hash : Bytes → Bytes) (key message : Bytes) : Bytes :=
  (blockKey hash key).map (· ^^^ 0x5c) ++
    hash ((blockKey hash key).map (· ^^^ 0x36) ++ message)

theorem hmac_eq_hash (hash : Bytes → Bytes) (key message : Bytes) :
    hmac hash key message = hash (outerInput hash key message) :=
  rfl

theorem SameKey.refl (hash : Bytes → Bytes) (key : Bytes) : SameKey hash key key := ⟨0, 0, rfl⟩

/-- Keys that are short are the same if they differ by zero bytes at the end. -/
theorem sameKey_append_zeros {hash : Bytes → Bytes} {key : Bytes} {n : Nat}
    (h : key.length + n ≤ hmacBlock) : SameKey hash key (key ++ List.replicate n 0) := by
  have hkey : shortKey hash key = key := if_neg (by omega)
  have hlonger : shortKey hash (key ++ List.replicate n 0) = key ++ List.replicate n 0 :=
    if_neg (by simpa using h)
  refine ⟨n, 0, ?_⟩
  rw [hkey, hlonger, List.replicate_zero, List.append_nil]

/-- A key without zero bytes at its end is what is left of it with zero bytes behind it. -/
theorem dropWhile_reverse_append_zeros {key : Bytes} (h : key.getLast? ≠ some 0) (n : Nat) :
    (key ++ List.replicate n 0).reverse.dropWhile (· == 0) = key.reverse := by
  have hzeros : ∀ b ∈ List.replicate n (0 : UInt8), (b == 0) = true := by
    intro b hb
    rw [List.eq_of_mem_replicate hb]
    rfl
  rw [List.reverse_append, List.reverse_replicate, List.dropWhile_append_of_pos hzeros]
  cases hcases : key.reverse with
  | nil => rfl
  | cons last rest =>
    rw [← List.head?_reverse, hcases] at h
    exact List.dropWhile_cons_of_neg (by simpa using h)

/-- Keys that fit in the block and do not end with a zero byte are the same only if they are
equal. -/
theorem sameKey_iff_eq {hash : Bytes → Bytes} {key other : Bytes} (hkey : key.length ≤ hmacBlock)
    (hother : other.length ≤ hmacBlock) (hlast : key.getLast? ≠ some 0)
    (hotherLast : other.getLast? ≠ some 0) : SameKey hash key other ↔ key = other := by
  constructor
  · rintro ⟨m, n, h⟩
    rw [shortKey, if_neg (by omega), shortKey, if_neg (by omega)] at h
    have hreverse := congrArg (fun bytes : Bytes => bytes.reverse.dropWhile (· == 0)) h
    simp only [dropWhile_reverse_append_zeros hlast,
      dropWhile_reverse_append_zeros hotherLast] at hreverse
    exact List.reverse_injective hreverse
  · rintro rfl
    exact .refl hash key

section

variable {hash : Bytes → Bytes} (hlength : ∀ bytes, (hash bytes).length ≤ hmacBlock)

include hlength

/-- A short key fits in its block. -/
theorem length_shortKey_le (key : Bytes) : (shortKey hash key).length ≤ hmacBlock := by
  unfold shortKey
  split
  · exact hlength key
  · exact Nat.le_of_not_lt ‹_›

theorem length_blockKey (key : Bytes) : (blockKey hash key).length = hmacBlock := by
  show (shortKey hash key ++ List.replicate (hmacBlock - (shortKey hash key).length) 0).length = _
  rw [List.length_append, List.length_replicate,
    Nat.add_sub_cancel' (length_shortKey_le hlength key)]

/-- A block is the front of its key with enough zero bytes behind it, and more make no
difference. -/
theorem take_shortKey (key : Bytes) (m : Nat) :
    (shortKey hash key ++ List.replicate (m + hmacBlock) 0).take hmacBlock = blockKey hash key := by
  have hle := length_shortKey_le hlength key
  have hzeros : m + hmacBlock =
      (hmacBlock - (shortKey hash key).length) + (m + (shortKey hash key).length) := by omega
  rw [hzeros, ← List.replicate_append_replicate, ← List.append_assoc]
  exact List.take_left' (length_blockKey hlength key)

/-- Two keys fill one block if they differ by zero bytes at the end. -/
theorem blockKey_eq_iff {key other : Bytes} :
    blockKey hash key = blockKey hash other ↔ SameKey hash key other := by
  constructor
  · intro h
    exact ⟨_, _, h⟩
  · rintro ⟨m, n, h⟩
    rw [← take_shortKey hlength key m, ← take_shortKey hlength other n,
      ← List.replicate_append_replicate, ← List.replicate_append_replicate, ← List.append_assoc,
      ← List.append_assoc, h]

/-- The input of the outer hash begins with the block of the key. -/
theorem blockKey_eq_of_outerInput_eq {key other message : Bytes}
    (h : outerInput hash key message = outerInput hash other message) :
    blockKey hash key = blockKey hash other := by
  have hblocks := List.append_inj_left h (by
    rw [List.length_map, List.length_map, length_blockKey hlength, length_blockKey hlength])
  have hxor : ∀ a b : UInt8, a ^^^ 0x5c = b ^^^ 0x5c → a = b := fun a b h =>
    (UInt8.xor_left_inj 0x5c).1 h
  exact (List.map_inj_right hxor).1 hblocks

/-- Keys that give one HMAC of a message are the same, or show a collision of the hash. -/
theorem hmac_eq_iff {key other message : Bytes} :
    hmac hash key message = hmac hash other message ↔
      SameKey hash key other ∨
        Collides hash (outerInput hash key message) (outerInput hash other message) := by
  rw [← blockKey_eq_iff hlength, hmac_eq_hash, hmac_eq_hash]
  constructor
  · intro h
    by_cases hsame : blockKey hash key = blockKey hash other
    · exact .inl hsame
    · exact .inr ⟨fun hinput => hsame (blockKey_eq_of_outerInput_eq hlength hinput), h⟩
  · rintro (hsame | hcollision)
    · exact hmac_eq_of_blockKey_eq hsame message
    · exact hcollision.2

end

end HandleChallenge.Hash
