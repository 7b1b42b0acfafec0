import HandleChallenge.Bytes.Lemmas
import HandleChallenge.Proofs.Number.Primality
import HandleChallenge.Signature.Secp256k1

/-!
# Forms of points of secp256k1

A point is named by its `x` and the parity of its `y` (`lift?_eq_some_iff`): modulo a prime, a number
has only two roots, one even and one odd, and no point has the root zero. So a key is read from its
compressed form and its two other forms, and from nothing else (`PublicKey.decode?_eq_some_iff`).
-/

namespace HandleChallenge.Signature.Secp256k1

/-! ### The field's modulus is prime -/

theorem prime_of_58_bits : Nat.Prime 173378833005251801 :=
  Modular.prime_of_root 6 [2, 2, 2, 5, 5, 2621, 24809, 13331831] (by decide) (by norm_num)
    (by decide +kernel) (by decide +kernel)

theorem prime_of_75_bits : Nat.Prime 22149492674086928081353 :=
  Modular.prime_of_root 5 [2, 2, 2, 3, 5323, 173378833005251801] (by decide)
    (by simp [prime_of_58_bits]; norm_num) (by decide +kernel) (by decide +kernel)

theorem prime_of_77_bits : Nat.Prime 132896956044521568488119 :=
  Modular.prime_of_root 6 [2, 3, 22149492674086928081353] (by decide)
    (by simp [prime_of_75_bits]; norm_num) (by decide +kernel) (by decide +kernel)

theorem prime_of_128_bits : Nat.Prime 255515944373312847190720520512484175977 :=
  Modular.prime_of_root 3
    [2, 2, 2, 7, 7, 11, 1627, 2657, 4423, 41201, 96557, 7240687, 107590001] (by decide)
    (by norm_num) (by decide +kernel) (by decide +kernel)

theorem prime_of_237_bits :
    Nat.Prime 205115282021455665897114700593932402728804164701536103180137503955397371 :=
  Modular.prime_of_root 10
    [2, 3, 5, 29, 29, 31, 7723, 132896956044521568488119, 255515944373312847190720520512484175977]
    (by decide) (by simp [prime_of_77_bits, prime_of_128_bits]; norm_num) (by decide +kernel)
    (by decide +kernel)

/-- The field's modulus is prime. -/
theorem prime_p : p.Prime :=
  Modular.prime_of_root 3
    [2, 3, 7, 13441, 205115282021455665897114700593932402728804164701536103180137503955397371]
    (by decide) (by simp [prime_of_237_bits]; norm_num) (by decide +kernel) (by decide +kernel)

instance : Fact p.Prime := ⟨prime_p⟩

/-! ### Roots modulo the prime -/

theorem natCast_eq_iff {m n : Nat} : (m : ZMod p) = n ↔ m % p = n % p :=
  ZMod.natCast_eq_natCast_iff' m n p

/-- The number that the square of a `y` is for an `x`. -/
def curveSquare (x : Nat) : Nat := x * x * x + 7

theorem onCurve_iff {a : Affine} :
    onCurve a = true ↔ a.x < p ∧ a.y < p ∧ (a.y : ZMod p) * a.y = curveSquare a.x := by
  rw [← Nat.cast_mul, natCast_eq_iff]
  simp [onCurve, curveSquare, and_assoc]

/-- The root of a square, as it is computed. -/
def root (x : Nat) : Nat := Modular.pow p (curveSquare x) ((p + 1) / 4)

theorem root_lt (x : Nat) : root x < p := by
  rw [root, Modular.pow_eq]
  exact Nat.mod_lt _ prime_p.pos

/-- The computed root of the square of a number is the number or its opposite. -/
theorem root_eq_or_eq_neg {x y : Nat} (h : (y : ZMod p) * y = curveSquare x) :
    (root x : ZMod p) = y ∨ (root x : ZMod p) = -y := by
  have hroot : (root x : ZMod p) = (curveSquare x : ZMod p) ^ ((p + 1) / 4) := by
    rw [← Nat.cast_pow, natCast_eq_iff, root, Modular.pow_eq, Nat.mod_mod]
  have hexponent : 2 * ((p + 1) / 4) * 2 = p + 1 := by decide
  have hsquare : (root x : ZMod p) * root x = y * y := by
    calc (root x : ZMod p) * root x
        = (y : ZMod p) ^ (2 * ((p + 1) / 4) * 2) := by
          rw [hroot, ← h, ← pow_two, ← pow_two, ← pow_mul, ← pow_mul, ← Nat.mul_assoc]
      _ = y * y := by rw [hexponent, pow_succ, ZMod.pow_card]
  exact mul_self_eq_mul_self_iff.1 hsquare

/-- The opposite of seven is no cube. -/
theorem cube_add_seven_ne_zero (x : ZMod p) : x ^ 3 + 7 ≠ 0 := by
  intro hzero
  have hcube : x ^ 3 = ((p - 7 : Nat) : ZMod p) := by
    rw [Nat.cast_sub (by decide), CharP.cast_eq_zero, zero_sub, eq_neg_iff_add_eq_zero]
    exact_mod_cast hzero
  have hne : x ≠ 0 := by
    rintro rfl
    rw [zero_pow (by decide), eq_comm, ZMod.natCast_eq_zero_iff] at hcube
    exact absurd hcube (by decide)
  have hone : ((p - 7 : Nat) : ZMod p) ^ ((p - 1) / 3) = 1 := by
    rw [← hcube, ← pow_mul, Nat.mul_div_cancel' (by decide), ZMod.pow_card_sub_one_eq_one hne]
  rw [Modular.natCast_pow_eq_one_iff prime_p.one_lt] at hone
  exact absurd hone (by decide +kernel)

/-- No point has the root zero. -/
theorem y_ne_zero {a : Affine} (h : onCurve a = true) : a.y ≠ 0 := by
  intro hy
  obtain ⟨-, -, hsquare⟩ := onCurve_iff.1 h
  refine cube_add_seven_ne_zero (a.x : ZMod p) ?_
  rw [hy, Nat.cast_zero, mul_zero, curveSquare] at hsquare
  push_cast at hsquare
  rw [hsquare]
  ring

/-- Of a root and its opposite one is computed. -/
theorem root_eq_or_add {a : Affine} (h : onCurve a = true) :
    root a.x = a.y ∨ root a.x + a.y = p := by
  obtain ⟨-, hy, hsquare⟩ := onCurve_iff.1 h
  have hlt := root_lt a.x
  rcases root_eq_or_eq_neg hsquare with hroot | hroot
  · rw [natCast_eq_iff, Nat.mod_eq_of_lt hlt, Nat.mod_eq_of_lt hy] at hroot
    exact .inl hroot
  · have hdvd : p ∣ root a.x + a.y := by
      rw [← ZMod.natCast_eq_zero_iff, Nat.cast_add, hroot, neg_add_cancel]
    have hpositive := Nat.pos_of_ne_zero (y_ne_zero h)
    exact .inr (Nat.eq_of_dvd_of_lt_two_mul (by omega) hdvd (by omega))

/-! ### Points by their `x` -/

theorem odd_p : p % 2 = 1 := by decide

theorem sub_zero_eq {y : Nat} (hpositive : 0 < y) (hlt : y < p) : Modular.sub p 0 y = p - y := by
  rw [Modular.sub, Nat.mod_eq_of_lt hlt, Nat.mod_eq_of_lt (by omega)]
  omega

/-- The `y` of two opposite ones that has the parity. -/
def rootOf (x parity : Nat) : Nat :=
  if root x % 2 = parity then root x else Modular.sub p 0 (root x)

theorem lift?_eq (x parity : Nat) :
    lift? x parity = if onCurve ⟨x, rootOf x parity⟩ then some ⟨x, rootOf x parity⟩ else none := rfl

/-- Of a point's `y` and its opposite only one has its parity. -/
theorem rootOf_parity {a : Affine} (h : onCurve a = true) : rootOf a.x (a.y % 2) = a.y := by
  have hodd := odd_p
  have hpositive := Nat.pos_of_ne_zero (y_ne_zero h)
  obtain ⟨-, hy, -⟩ := onCurve_iff.1 h
  rcases root_eq_or_add h with hroot | hroot
  · rw [rootOf, hroot, if_pos rfl]
  · -- the modulus is odd, so that a number and its opposite differ in their parity
    rw [rootOf, if_neg (by omega), sub_zero_eq (by omega) (root_lt _)]
    omega

/-- The `y` that is found for a point has the parity. -/
theorem rootOf_mod_two {x parity : Nat} (hparity : parity < 2)
    (h : onCurve ⟨x, rootOf x parity⟩ = true) : rootOf x parity % 2 = parity := by
  have hodd := odd_p
  have hne : rootOf x parity ≠ 0 := y_ne_zero h
  by_cases hroot : root x % 2 = parity
  · rwa [rootOf, if_pos hroot]
  · rw [rootOf, if_neg hroot] at hne ⊢
    have hpositive : 0 < root x := Nat.pos_of_ne_zero fun hzero => hne (by rw [hzero]; decide)
    have hlt := root_lt x
    rw [sub_zero_eq hpositive hlt]
    omega

/-- A point is found by its `x` and the parity of its `y`. -/
theorem lift?_eq_some_iff {x parity : Nat} (hparity : parity < 2) {a : Affine} :
    lift? x parity = some a ↔ onCurve a = true ∧ a.x = x ∧ a.y % 2 = parity := by
  rw [lift?_eq]
  constructor
  · intro h
    split at h
    · rename_i hon
      cases h
      exact ⟨hon, rfl, rootOf_mod_two hparity hon⟩
    · cases h
  · rintro ⟨hon, rfl, rfl⟩
    rw [rootOf_parity hon, if_pos hon]

/-! ### Keys by their forms -/

namespace PublicKey

theorem ofPoint?_eq_some_iff {a : Affine} {key : PublicKey} :
    ofPoint? a = some key ↔ key.point = a := by
  obtain ⟨point, valid⟩ := key
  constructor
  · intro h
    unfold ofPoint? at h
    split at h
    · cases h
      rfl
    · cases h
  · rintro rfl
    exact dif_pos valid

/-- The forms of a key: compressed, with the parity of `y` in the tag; uncompressed; or `x` alone if
`y` is even. -/
inductive IsForm (key : PublicKey) : Bytes → Prop
  | compressed : IsForm key key.encode
  | uncompressed :
    IsForm key (4 :: (Bytes.ofNat 32 key.point.x ++ Bytes.ofNat 32 key.point.y))
  | even (h : key.point.y % 2 = 0) : IsForm key (5 :: Bytes.ofNat 32 key.point.x)

/-- Coordinates fit thirty-two bytes. -/
theorem toNat_coordinate {n : Nat} (h : n < p) : Bytes.toNat (Bytes.ofNat 32 n) = n :=
  Bytes.toNat_ofNat (Nat.lt_trans h (by decide))

/-- Thirty-two bytes are the coordinate that they are read as. -/
theorem eq_ofNat_iff {bytes : Bytes} {n : Nat} (hlength : bytes.length = 32) (hn : n < p) :
    bytes = Bytes.ofNat 32 n ↔ n = Bytes.toNat bytes := by
  constructor
  · intro h
    rw [h, toNat_coordinate hn]
  · intro h
    rw [h, ← hlength, Bytes.ofNat_toNat]

/-- Behind the tag of one coordinate stands the `x` of a point whose `y` has the tag's parity. -/
theorem decode?_x_eq_some_iff {tag : UInt8} {coordinates : Bytes} {key : PublicKey}
    (hlength : coordinates.length = 32) (htag : tag = 2 ∨ tag = 3 ∨ tag = 5) :
    decode? (tag :: coordinates) = some key ↔
      coordinates = Bytes.ofNat 32 key.point.x ∧
        key.point.y % 2 = if tag = 3 then 1 else 0 := by
  have hparity : (if tag = 3 then 1 else 0) < 2 := by split <;> decide
  have hx : key.point.x < p := (onCurve_iff.1 key.valid).1
  simp only [decode?, hlength, htag, and_self, if_true, List.take_of_length_le hlength.le,
    Option.bind_eq_some_iff, lift?_eq_some_iff hparity, ofPoint?_eq_some_iff,
    eq_ofNat_iff hlength hx]
  constructor
  · rintro ⟨a, ⟨-, hax, hay⟩, rfl⟩
    exact ⟨hax, hay⟩
  · rintro ⟨hkx, hky⟩
    exact ⟨key.point, ⟨key.valid, hkx, hky⟩, rfl⟩

/-- Behind the tag of two coordinates they stand one after the other. -/
theorem decode?_xy_eq_some_iff {coordinates : Bytes} {key : PublicKey}
    (hlength : coordinates.length = 64) :
    decode? (4 :: coordinates) = some key ↔
      coordinates = Bytes.ofNat 32 key.point.x ++ Bytes.ofNat 32 key.point.y := by
  obtain ⟨hx, hy, -⟩ := onCurve_iff.1 key.valid
  have hfirst : (coordinates.take 32).length = 32 := by
    rw [List.length_take, hlength]
    rfl
  have hsecond : (coordinates.drop 32).length = 32 := by rw [List.length_drop, hlength]
  have hsplit : coordinates = Bytes.ofNat 32 key.point.x ++ Bytes.ofNat 32 key.point.y ↔
      coordinates.take 32 = Bytes.ofNat 32 key.point.x ∧
        coordinates.drop 32 = Bytes.ofNat 32 key.point.y := by
    constructor
    · intro h
      rw [h]
      exact ⟨List.take_left' (Bytes.length_ofNat _ _), List.drop_left' (Bytes.length_ofNat _ _)⟩
    · rintro ⟨htake, hdrop⟩
      rw [← htake, ← hdrop, List.take_append_drop]
  have hdecode : decode? (4 :: coordinates) =
      ofPoint? ⟨Bytes.toNat (coordinates.take 32), Bytes.toNat (coordinates.drop 32)⟩ := by
    simp [decode?, hlength]
  rw [hsplit, eq_ofNat_iff hfirst hx, eq_ofNat_iff hsecond hy, hdecode, ofPoint?_eq_some_iff]
  constructor
  · intro h
    rw [h]
    exact ⟨rfl, rfl⟩
  · rintro ⟨hkx, hky⟩
    rw [← hkx, ← hky]

/-- The tag of a compressed form. -/
theorem encode_eq (key : PublicKey) :
    key.encode = (if key.point.y % 2 = 0 then 2 else 3) :: Bytes.ofNat 32 key.point.x := by
  rw [encode]
  rcases Nat.mod_two_eq_zero_or_one key.point.y with hparity | hparity <;> rw [hparity] <;> rfl

/-- A key is read from its forms and from nothing else. -/
theorem decode?_eq_some_iff {bytes : Bytes} {key : PublicKey} :
    decode? bytes = some key ↔ IsForm key bytes := by
  constructor
  · intro h
    obtain _ | ⟨tag, coordinates⟩ := bytes
    · cases h
    by_cases hshort : coordinates.length = 32 ∧ (tag = 2 ∨ tag = 3 ∨ tag = 5)
    · obtain ⟨hlength, htag⟩ := hshort
      obtain ⟨hx, hparity⟩ := (decode?_x_eq_some_iff hlength htag).1 h
      have hencode := encode_eq key
      rw [hx]
      rcases htag with rfl | rfl | rfl
      · rw [if_pos (by rw [hparity]; decide)] at hencode
        exact hencode ▸ .compressed
      · rw [if_neg (by rw [hparity]; decide)] at hencode
        exact hencode ▸ .compressed
      · exact .even hparity
    · by_cases hlong : coordinates.length = 64 ∧ tag = 4
      · obtain ⟨hlength, rfl⟩ := hlong
        rw [(decode?_xy_eq_some_iff hlength).1 h]
        exact .uncompressed
      · simp only [decode?, if_neg hshort, if_neg hlong] at h
        cases h
  · intro h
    have hlength : (Bytes.ofNat 32 key.point.x).length = 32 := Bytes.length_ofNat _ _
    cases h with
    | compressed =>
      rw [encode_eq]
      by_cases hparity : key.point.y % 2 = 0
      · rw [if_pos hparity]
        exact (decode?_x_eq_some_iff hlength (.inl rfl)).2 ⟨rfl, hparity⟩
      · rw [if_neg hparity]
        exact (decode?_x_eq_some_iff hlength (.inr (.inl rfl))).2
          ⟨rfl, Nat.mod_two_ne_zero.1 hparity⟩
    | uncompressed => exact (decode?_xy_eq_some_iff (by simp)).2 rfl
    | even hparity => exact (decode?_x_eq_some_iff hlength (.inr (.inr rfl))).2 ⟨rfl, hparity⟩

end PublicKey

end HandleChallenge.Signature.Secp256k1
