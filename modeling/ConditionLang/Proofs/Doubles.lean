import Mathlib
import ConditionLang.Number.Binary

/-!
# Doubles and their bits

A double that is not NaN is given by its 64 bits. So the doubles without a sign are those with at most the bits of infinity
(`isUnsigned_iff`), their parts can be read off the bits, and those that compare as equal are the same (`eq_of_beq`).
-/

namespace ConditionLang

namespace Number

open Float.Model Float.Model.UnpackedFloat

/-! ## Packing what was unpacked -/

section

/-- Bits put before others count for more. -/
theorem toNat_append {m n : Nat} (x : BitVec m) (y : BitVec n) : (x ++ y).toNat = x.toNat * 2 ^ n + y.toNat := by
  rw [BitVec.toNat_append, ← Nat.shiftLeft_add_eq_or_of_lt y.isLt, Nat.shiftLeft_eq]

variable (b : BitVec Format.binary64.numBits)

/-- The mantissa stands in the lowest 52 bits. -/
theorem toNat_unpackMantissa : (unpackMantissa b).toNat = b.toNat % 2 ^ 52 := by
  simp [unpackMantissa, BitVec.extractLsb, Format.binary64]

theorem toNat_unpackExponent : (unpackExponent b).toNat = b.toNat / 2 ^ 52 % 2 ^ 11 := by
  simp [unpackExponent, Format.binary64, Nat.shiftRight_eq_div_pow]

theorem toNat_unpackSign : (unpackSign b).toNat = b.toNat / 2 ^ 63 % 2 := by
  simp [unpackSign, Format.binary64, Nat.shiftRight_eq_div_pow]

/-- Bits are a sign, an exponent and a mantissa. -/
theorem packComponents_unpack :
    packComponents Format.binary64 (Sign.ofBitVec (unpackSign b)) (unpackExponent b) (unpackMantissa b) = b := by
  have hsign : (Sign.ofBitVec (unpackSign b)).toBitVec = unpackSign b := by
    unfold Sign.ofBitVec
    split
    · rename_i h
      exact h.symm
    · rename_i h
      exact ((BitVec.eq_zero_or_eq_one _).resolve_left h).symm
  apply BitVec.eq_of_toNat_eq
  rw [packComponents, hsign, toNat_append, toNat_append, toNat_unpackSign, toNat_unpackExponent, toNat_unpackMantissa]
  have hlt : b.toNat < 2 ^ 64 := b.isLt
  show (b.toNat / 2 ^ 63 % 2 * 2 ^ 11 + b.toNat / 2 ^ 52 % 2 ^ 11) * 2 ^ 52 + b.toNat % 2 ^ 52 = b.toNat
  omega

/-- The bits of a normal number are packed as they were unpacked. -/
theorem pack_unpack_of_normal (hones : unpackExponent b ≠ -1#_) (hzero : unpackExponent b ≠ 0#_) :
    UnpackedFloat.pack Format.binary64 (UnpackedFloat.unpack Format.binary64 b) = b := by
  have hb := packComponents_unpack b
  have hlt : (unpackMantissa b).toNat < 2 ^ 52 := (unpackMantissa b).isLt
  have hlow : (1#1 ++ unpackMantissa b).toNat = 2 ^ 52 + (unpackMantissa b).toNat := toNat_append _ _
  have hlog : (1#1 ++ unpackMantissa b).toNat.log2 = 52 := by
    rw [hlow, Nat.log2_eq_iff (by omega)]
    omega
  have hexponent : BitVec.ofNat 11 ((unpackExponent b).toNat - (Format.binary64.exponentBias + 52 : Int) +
      Format.binary64.exponentBias + 52).toNat = unpackExponent b := by
    have hsum : (unpackExponent b).toNat - (Format.binary64.exponentBias + 52 : Int) +
        Format.binary64.exponentBias + 52 = (unpackExponent b).toNat := by omega
    rw [hsum, Int.toNat_natCast, BitVec.ofNat_toNat]
    exact BitVec.setWidth_eq _
  have hmantissa : BitVec.ofNat 52 (1#1 ++ unpackMantissa b).toNat = unpackMantissa b := by
    apply BitVec.eq_of_toNat_eq
    rw [BitVec.toNat_ofNat, hlow, Nat.add_mod_left, Nat.mod_eq_of_lt hlt]
  simp only [UnpackedFloat.unpack, if_neg hones, if_neg hzero, UnpackedFloat.pack]
  rw [if_neg, if_pos]
  · show packComponents Format.binary64 _ (BitVec.ofNat 11 _) (BitVec.ofNat 52 _) = b
    rw [hmantissa]
    exact (congrArg (packComponents Format.binary64 _ · _) hexponent).trans hb
  · rw [hlog]
    rfl
  · have hmax : (unpackExponent b).toNat ≠ 2047 := fun hmax => hones (BitVec.eq_of_toNat_eq hmax)
    have hltmax : (unpackExponent b).toNat < 2048 := (unpackExponent b).isLt
    have hbits : Format.binary64.mantissaBitsWithoutImplicit = 52 := rfl
    show ¬2048 ≤ _ + 1
    omega

/-- The bits of a number with the least exponent are packed as they were unpacked. -/
theorem pack_unpack_of_subnormal (hones : unpackExponent b ≠ -1#_) (hzero : unpackExponent b = 0#_)
    (hmantissa : unpackMantissa b ≠ 0#_) :
    UnpackedFloat.pack Format.binary64 (UnpackedFloat.unpack Format.binary64 b) = b := by
  have hb := packComponents_unpack b
  have hne : (unpackMantissa b).toNat ≠ 0 := fun h0 => hmantissa (BitVec.eq_of_toNat_eq h0)
  have hlog : (unpackMantissa b).toNat.log2 < 52 := (Nat.log2_lt hne).mpr (unpackMantissa b).isLt
  simp only [UnpackedFloat.unpack, if_neg hones, if_pos hzero, dif_neg hmantissa, UnpackedFloat.pack]
  rw [hzero] at hb ⊢
  rw [if_neg, if_neg, BitVec.ofNat_toNat, BitVec.setWidth_eq]
  · exact hb
  · show ¬_ = 53
    omega
  · decide

/-- Bits that do not stand for NaN are packed as they were unpacked. -/
theorem pack_unpack (h : unpackExponent b = -1#_ → unpackMantissa b = 0#_) :
    UnpackedFloat.pack Format.binary64 (UnpackedFloat.unpack Format.binary64 b) = b := by
  have hb := packComponents_unpack b
  by_cases hones : unpackExponent b = -1#_
  · simp only [UnpackedFloat.unpack, if_pos hones, if_pos (h hones), UnpackedFloat.pack, packedInfinity]
    rw [hones, h hones] at hb
    exact hb
  by_cases hzero : unpackExponent b = 0#_
  · by_cases hmantissa : unpackMantissa b = 0#_
    · simp only [UnpackedFloat.unpack, if_neg hones, if_pos hzero, dif_pos hmantissa, UnpackedFloat.pack, packedZero]
      rw [hzero, hmantissa] at hb
      exact hb
    · exact pack_unpack_of_subnormal b hones hzero hmantissa
  · exact pack_unpack_of_normal b hones hzero

end

/-! ## Bits of doubles -/

/-- Bits whose magnitude is at most that of infinity do not stand for NaN. -/
theorem unpackMantissa_of_le {b : BitVec Format.binary64.numBits} (h : b.toNat % 2 ^ 63 ≤ infinityBits)
    (hones : unpackExponent b = -1#_) : unpackMantissa b = 0#_ := by
  have hexp := toNat_unpackExponent b
  rw [hones] at hexp
  replace hexp : 2047 = b.toNat / 2 ^ 52 % 2 ^ 11 := hexp
  refine BitVec.eq_of_toNat_eq ((toNat_unpackMantissa b).trans ?_)
  show b.toNat % 2 ^ 52 = 0
  unfold infinityBits at h
  omega

/-- A double whose magnitude is at most that of infinity is given back by its bits. -/
theorem toBits_ofBits {bits : UInt64} (h : bits.toNat % 2 ^ 63 ≤ infinityBits) : (Float.ofBits bits).toBits = bits :=
  congrArg UInt64.ofBitVec (pack_unpack bits.toBitVec (unpackMantissa_of_le h))

/-- A double is determined by its bits. -/
theorem eq_of_toBits_eq {x y : Float} (h : x.toBits = y.toBits) : x = y := by
  obtain ⟨⟨bits, valid⟩⟩ := x
  obtain ⟨⟨bits', valid'⟩⟩ := y
  cases h
  rfl

/-- The bits that a double without a sign is made of are its bits. -/
theorem toBits_ofMagnitude {bits : Nat} (h : bits ≤ infinityBits) : (ofMagnitude false bits).toBits.toNat = bits := by
  have hlt : bits < 2 ^ 63 := Nat.lt_of_le_of_lt h (by decide)
  have hnat : (UInt64.ofNat bits).toNat = bits := UInt64.toNat_ofNat_of_lt' (Nat.lt_trans hlt (by decide))
  rw [ofMagnitude, if_neg Bool.false_ne_true, toBits_ofBits, hnat]
  rw [hnat, Nat.mod_eq_of_lt hlt]
  exact h

/-- A double without a sign has the parts of the bits it is made of. -/
theorem parts_ofMagnitude {bits : Nat} (h : bits ≤ infinityBits) :
    parts (ofMagnitude false bits) = partsOfBits false bits := by
  have hlt : bits < 2 ^ 63 := Nat.lt_of_le_of_lt h (by decide)
  rw [parts, toBits_ofMagnitude h, Nat.mod_eq_of_lt hlt, decide_eq_false (Nat.not_le.mpr hlt)]

/-- The bits that a double with a sign is made of are its bits below the sign. -/
theorem toBits_ofMagnitude_true {bits : Nat} (h : bits ≤ infinityBits) :
    (ofMagnitude true bits).toBits.toNat = 2 ^ 63 + bits := by
  have hlt : bits < 2 ^ 63 := Nat.lt_of_le_of_lt h (by decide)
  have hsize : 2 ^ 63 + bits < UInt64.size := Nat.add_lt_add_left hlt (2 ^ 63)
  have hnat : (UInt64.ofNat (2 ^ 63 + bits)).toNat = 2 ^ 63 + bits := UInt64.toNat_ofNat_of_lt' hsize
  rw [ofMagnitude, if_pos rfl]
  refine (congrArg UInt64.toNat (toBits_ofBits ?_)).trans hnat
  rw [hnat, Nat.add_mod_left, Nat.mod_eq_of_lt hlt]
  exact h

/-- The parts of a double with a sign and at most the bits of infinity. -/
theorem parts_ofMagnitude_of_sign (negative : Bool) {bits : Nat} (h : bits ≤ infinityBits) :
    parts (ofMagnitude negative bits) = partsOfBits negative bits := by
  cases negative with
  | false => exact parts_ofMagnitude h
  | true =>
    have hlt : bits < 2 ^ 63 := Nat.lt_of_le_of_lt h (by decide)
    rw [parts, toBits_ofMagnitude_true h, Nat.add_mod_left, Nat.mod_eq_of_lt hlt, decide_eq_true (Nat.le_add_right _ _)]

/-! ## Numbers without a sign -/

/-- What has no sign: neither a negative number nor the negative zero nor NaN. -/
def Parts.IsUnsigned : Parts → Prop
  | .finite negative _ _ | .infinite negative => negative = false
  | .nan => False

/-- A number that is not negative, not the negative zero and not NaN. -/
def IsUnsigned (x : Float) : Prop :=
  (parts x).IsUnsigned

/-- The parts of bits below the sign are those of no negative number and of no NaN if they do not pass infinity. -/
theorem isUnsigned_partsOfBits {negative : Bool} {bits : Nat} (h : bits < 2 ^ 63) :
    (partsOfBits negative bits).IsUnsigned ↔ negative = false ∧ bits ≤ infinityBits := by
  simp only [partsOfBits, infinityBits]
  split
  · split
    · exact (and_iff_left (by omega)).symm
    · exact iff_of_false id fun hle => by omega
  · split
    · exact (and_iff_left (by omega)).symm
    · exact (and_iff_left (by omega)).symm

/-- The numbers without a sign are those with at most the bits of infinity. -/
theorem isUnsigned_iff {x : Float} : IsUnsigned x ↔ ∃ bits ≤ infinityBits, x = ofMagnitude false bits := by
  constructor
  · intro h
    obtain ⟨hsign, hle⟩ := (isUnsigned_partsOfBits (Nat.mod_lt _ (by decide))).mp h
    rw [decide_eq_false_iff_not, Nat.not_le] at hsign
    rw [Nat.mod_eq_of_lt hsign] at hle
    refine ⟨x.toBits.toNat, hle, eq_of_toBits_eq (UInt64.toNat_inj.mp ?_)⟩
    rw [toBits_ofMagnitude hle]
  · rintro ⟨bits, hle, rfl⟩
    rw [IsUnsigned, parts_ofMagnitude hle]
    exact (isUnsigned_partsOfBits (Nat.lt_of_le_of_lt hle (by decide))).mpr ⟨rfl, hle⟩

/-! ## Equality -/

/-- Unpacked numbers that compare as equal are the same, apart from the sign of zero. -/
theorem eq_or_zeros_of_compare {x y : UnpackedFloat} (h : x.compare y = some .eq) :
    x = y ∨ ∃ s t, x = .zero s ∧ y = .zero t := by
  cases x with
  | infinity s =>
    cases y with
    | infinity t =>
      cases s <;> cases t
      case negative.negative | positive.positive => exact .inl rfl
      case negative.positive | positive.negative => cases h
    | zero t | finite t m e hm => cases s <;> cases h
    | notANumber => cases h
  | notANumber => cases h
  | zero s =>
    cases y with
    | zero t => exact .inr ⟨s, t, rfl, rfl⟩
    | infinity t | finite t m e hm => cases t <;> cases h
    | notANumber => cases h
  | finite s m e hm =>
    cases y with
    | finite t m' e' hm' => cases s <;> cases t <;> simp_all [UnpackedFloat.compare]
    | infinity t => cases s <;> cases t <;> cases h
    | zero t => cases s <;> cases h
    | notANumber => cases h

/-- The sign of a zero is its highest bit. -/
theorem sign_of_unpack_eq_zero {b : BitVec Format.binary64.numBits} {s : Sign}
    (h : UnpackedFloat.unpack Format.binary64 b = .zero s) : s = Sign.ofBitVec (unpackSign b) := by
  simp only [UnpackedFloat.unpack] at h
  split at h
  · split at h <;> cases h
  · split at h
    · split at h
      · exact (UnpackedFloat.zero.inj h).symm
      · cases h
    · cases h

/-- Numbers without a sign that compare as equal are the same. -/
theorem eq_of_beq {x y : Float} (hx : IsUnsigned x) (hy : IsUnsigned y) (h : (x == y) = true) : x = y := by
  have hcompare : (UnpackedFloat.unpack Format.binary64 x.toBits.toBitVec).compare
      (UnpackedFloat.unpack Format.binary64 y.toBits.toBitVec) = some .eq := beq_iff_eq.mp h
  have hunsigned : ∀ z, IsUnsigned z → z.toBits.toNat ≤ infinityBits ∧ z.toBits.toNat < 2 ^ 63 := by
    intro z hz
    obtain ⟨bits, hle, rfl⟩ := isUnsigned_iff.mp hz
    rw [toBits_ofMagnitude hle]
    exact ⟨hle, Nat.lt_of_le_of_lt hle (by decide)⟩
  have hpack : ∀ z, IsUnsigned z →
      UnpackedFloat.pack Format.binary64 (UnpackedFloat.unpack Format.binary64 z.toBits.toBitVec) = z.toBits.toBitVec := by
    intro z hz
    refine pack_unpack _ (unpackMantissa_of_le ?_)
    exact (Nat.mod_eq_of_lt (hunsigned z hz).2).symm ▸ (hunsigned z hz).1
  have hsign : ∀ z s, IsUnsigned z → UnpackedFloat.unpack Format.binary64 z.toBits.toBitVec = .zero s → s = .positive := by
    intro z s hz hzero
    have hbit : _ = z.toBits.toNat / 2 ^ 63 % 2 := toNat_unpackSign z.toBits.toBitVec
    rw [Nat.div_eq_of_lt (hunsigned z hz).2] at hbit
    rw [sign_of_unpack_eq_zero hzero, Sign.ofBitVec, if_pos (BitVec.eq_of_toNat_eq hbit)]
  have hunpack : UnpackedFloat.unpack Format.binary64 x.toBits.toBitVec =
      UnpackedFloat.unpack Format.binary64 y.toBits.toBitVec := by
    rcases eq_or_zeros_of_compare hcompare with heq | ⟨s, t, hs, ht⟩
    · exact heq
    · rw [hs, ht, hsign x s hx hs, hsign y t hy ht]
  refine eq_of_toBits_eq (UInt64.toBitVec_inj.mp ?_)
  rw [← hpack x hx, hunpack, hpack y hy]

end Number

end ConditionLang
