import HandleChallenge.Bytes.Basic

/-!
# Values of a handle

A handle's record is a collection of typed values, each under an index. Types form families: a
type belongs to the family of each of its beginnings that ends before a dot. The two kinds of
credential are the families `HS_SECKEY` and `HS_PUBKEY`.
-/

namespace HandleChallenge

/-- What a credential holds. -/
inductive CredentialKind where
  | secretKey
  | publicKey
  deriving DecidableEq

namespace CredentialKind

/-- The type of a value that holds such a credential. -/
def tag : CredentialKind → String
  | secretKey => "HS_SECKEY"
  | publicKey => "HS_PUBKEY"

/-- The kind with the given tag; capitals matter. -/
def ofTag? (tag : String) : Option CredentialKind :=
  if tag = "HS_SECKEY" then some secretKey
  else if tag = "HS_PUBKEY" then some publicKey
  else none

@[simp] theorem ofTag?_tag (kind : CredentialKind) : ofTag? kind.tag = some kind := by
  cases kind <;> rfl

theorem ofTag?_eq_some_iff {tag : String} {kind : CredentialKind} :
    ofTag? tag = some kind ↔ tag = kind.tag := by
  constructor
  · unfold ofTag?
    split
    · rintro ⟨⟩
      assumption
    · split
      · rintro ⟨⟩
        assumption
      · intro h
        cases h
  · rintro rfl
    exact ofTag?_tag kind

end CredentialKind

/-- One typed value of a handle. -/
structure Value where
  index : UInt32
  type : String
  data : Bytes
  deriving DecidableEq

namespace Value

/-- Whether a type belongs to a family: it is the family's name, or goes on with a dot. -/
def typeInFamily (family type : String) : Bool :=
  family.toList.isPrefixOf type.toList &&
    (type.toList.drop family.toList.length).head?.all (· == '.')

/-- Whether a value's type belongs to a family. -/
def inFamily (value : Value) (family : String) : Bool := typeInFamily family value.type

end Value

end HandleChallenge
