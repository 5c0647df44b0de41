import HttpMux.Proofs.Text.Encoding
import Mathlib.Tactic.IntervalCases

/-!
# `HttpMux.Proofs.Text.Lossy`: decoding bytes that spell a text

Decoding byte by byte puts replacement characters in place of what spells nothing. Where the bytes
are the encoding of a text, there is nothing of that kind, and the text comes back.

* `Bytes.lead_two`, `Bytes.lead_three` and `Bytes.lead_four`: what the first byte of an encoding
  begins.
* `Bytes.Partial.next_eq`: what a later byte adds.
* `Bytes.lossyChars_encoded`: an encoding is read as its character.
* `Bytes.lossyText_ofText`: the text comes back.
-/

set_option autoImplicit false

namespace HttpMux.Bytes

/-! ### First bytes -/

/-- A byte below 128 is a character. -/
theorem lead_one {n : Nat} (h : n ≤ 127) : lead (UInt8.ofNat n) = .whole (Char.ofNat n) := by
  have hb : (UInt8.ofNat n).toNat = n := UInt8.toNat_ofNat_of_lt (Nat.lt_of_le_of_lt h (by decide))
  rw [lead, if_pos, hb]
  rw [UInt8.lt_iff_toNat_lt, hb]
  exact Nat.lt_succ_of_le h

/-- A byte that begins an encoding of two carries five bits. -/
theorem lead_two {n : Nat} (hlow : 2 ≤ n) (hhigh : n < 32) :
    lead (UInt8.ofNat (n + 192)) = .more ⟨n, 1, 0x80, 0xBF⟩ := by
  interval_cases n <;> rfl

/-- A byte that begins an encoding of three carries four bits. -/
theorem lead_three {n : Nat} (h : n < 16) :
    lead (UInt8.ofNat (n + 224))
      = .more ⟨n, 2, if n = 0 then 0xA0 else 0x80, if n = 13 then 0x9F else 0xBF⟩ := by
  interval_cases n <;> rfl

/-- A byte that begins an encoding of four carries three bits, with values up to four. -/
theorem lead_four {n : Nat} (h : n < 5) :
    lead (UInt8.ofNat (n + 240))
      = .more ⟨n, 3, if n = 0 then 0x90 else 0x80, if n = 4 then 0x8F else 0xBF⟩ := by
  interval_cases n <;> rfl

/-! ### Later bytes -/

/-- A later byte carries six bits. With the last one that is missing, the character is there. -/
theorem Partial.next_eq {p : Partial} {n : Nat} (h : n < 64) (hleast : p.least.toNat ≤ n + 128)
    (hgreatest : n + 128 ≤ p.greatest.toNat) :
    p.next (UInt8.ofNat (n + 128))
      = if p.missing ≤ 1 then .whole (Char.ofNat (p.code * 64 + n))
        else .more ⟨p.code * 64 + n, p.missing - 1, 0x80, 0xBF⟩ := by
  have hb : (UInt8.ofNat (n + 128)).toNat = n + 128 :=
    UInt8.toNat_ofNat_of_lt (show n + 128 < 256 by omega)
  rw [next, if_pos, hb, Nat.add_sub_cancel]
  · rw [UInt8.le_iff_toNat_le, UInt8.le_iff_toNat_le, hb]
    exact ⟨hleast, hgreatest⟩

variable {bs : Bytes} {b : UInt8}

/-- A byte that is a character by itself is read as it. -/
theorem lossyChars_lead {c : Char} (h : lead b = .whole c) :
    lossyChars none (b :: bs) = c :: lossyChars none bs := by
  rw [lossyChars, progress, h]

/-- A byte that begins a longer encoding is kept for the bytes behind it. -/
theorem lossyChars_begin {p : Partial} (h : lead b = .more p) :
    lossyChars none (b :: bs) = lossyChars (some p) bs := by
  rw [lossyChars, progress, h]

/-- The last byte that is missing. -/
theorem lossyChars_last {p : Partial} (hmissing : p.missing = 1) {n : Nat} (h : n < 64)
    (hleast : p.least.toNat ≤ n + 128) (hgreatest : n + 128 ≤ p.greatest.toNat) :
    lossyChars (some p) (UInt8.ofNat (n + 128) :: bs)
      = Char.ofNat (p.code * 64 + n) :: lossyChars none bs := by
  rw [lossyChars, progress, Partial.next_eq h hleast hgreatest, if_pos hmissing.le]

/-- A byte after which others are still missing. -/
theorem lossyChars_more {p : Partial} (hmissing : 1 < p.missing) {n : Nat} (h : n < 64)
    (hleast : p.least.toNat ≤ n + 128) (hgreatest : n + 128 ≤ p.greatest.toNat) :
    lossyChars (some p) (UInt8.ofNat (n + 128) :: bs)
      = lossyChars (some ⟨p.code * 64 + n, p.missing - 1, 0x80, 0xBF⟩) bs := by
  rw [lossyChars, progress, Partial.next_eq h hleast hgreatest, if_neg (Nat.not_le.mpr hmissing)]

/-! ### Whole encodings -/

/-- An encoding is read as its character, whatever follows. -/
theorem lossyChars_encoded (c : Char) (bs : Bytes) :
    lossyChars none (String.utf8EncodeChar c ++ bs) = c :: lossyChars none bs := by
  have hvalid : c.val.toNat < 0xD800 ∨ 0xDFFF < c.val.toNat ∧ c.val.toNat < 0x110000 := c.valid
  have hofNat : Char.ofNat c.val.toNat = c := Char.ofNat_toNat c
  rw [String.utf8EncodeChar]
  generalize c.val.toNat = v at hvalid hofNat ⊢
  -- One case for each length of an encoding. The code is put together from the bits of its bytes.
  split_ifs with hone htwo hthree
  · show lossyChars none (UInt8.ofNat v :: bs) = _
    rw [lossyChars_lead (lead_one hone), hofNat]
  · show lossyChars none (UInt8.ofNat (v / 64 % 32 + 192) :: UInt8.ofNat (v % 64 + 128) :: bs) = _
    rw [lossyChars_begin (lead_two (by omega) (by omega)),
      lossyChars_last rfl (by omega) (by simp) (by simp; omega)]
    have hcode : v / 64 % 32 * 64 + v % 64 = v := by omega
    rw [hcode, hofNat]
  · show lossyChars none (UInt8.ofNat (v / 4096 % 16 + 224) :: UInt8.ofNat (v / 64 % 64 + 128)
      :: UInt8.ofNat (v % 64 + 128) :: bs) = _
    -- The second byte is in the range that leaves out overlong forms and surrogates.
    have hleast : (if v / 4096 % 16 = 0 then 0xA0 else 0x80 : UInt8).toNat ≤ v / 64 % 64 + 128 := by
      split <;> simp
      omega
    have hgreatest :
        v / 64 % 64 + 128 ≤ (if v / 4096 % 16 = 13 then 0x9F else 0xBF : UInt8).toNat := by
      split <;> simp <;> omega
    rw [lossyChars_begin (lead_three (by omega)),
      lossyChars_more (by simp) (by omega) hleast hgreatest,
      lossyChars_last rfl (by omega) (by simp) (by simp; omega)]
    have hcode : (v / 4096 % 16 * 64 + v / 64 % 64) * 64 + v % 64 = v := by omega
    rw [hcode, hofNat]
  · show lossyChars none (UInt8.ofNat (v / 262144 % 8 + 240) :: UInt8.ofNat (v / 4096 % 64 + 128)
      :: UInt8.ofNat (v / 64 % 64 + 128) :: UInt8.ofNat (v % 64 + 128) :: bs) = _
    -- The second byte is in the range that leaves out overlong forms and what is past the end.
    have hleast :
        (if v / 262144 % 8 = 0 then 0x90 else 0x80 : UInt8).toNat ≤ v / 4096 % 64 + 128 := by
      split <;> simp
      omega
    have hgreatest :
        v / 4096 % 64 + 128 ≤ (if v / 262144 % 8 = 4 then 0x8F else 0xBF : UInt8).toNat := by
      split <;> simp <;> omega
    rw [lossyChars_begin (lead_four (by omega)),
      lossyChars_more (by simp) (by omega) hleast hgreatest,
      lossyChars_more (by simp) (by omega) (by simp) (by simp; omega),
      lossyChars_last rfl (by omega) (by simp) (by simp; omega)]
    have hcode : ((v / 262144 % 8 * 64 + v / 4096 % 64) * 64 + v / 64 % 64) * 64 + v % 64 = v := by
      omega
    rw [hcode, hofNat]

/-- Encoded characters are read as they were. -/
theorem lossyChars_ofChars (cs : List Char) : lossyChars none (ofChars cs) = cs := by
  induction cs with
  | nil => rfl
  | cons c cs ih => rw [ofChars_cons, lossyChars_encoded, ih]

/-- Decoding the encoding of a text gives the text back. -/
theorem lossyText_ofText (s : String) : lossyText (ofText s) = s := by
  rw [lossyText, ofText_eq, lossyChars_ofChars, String.ofList_toList]

end HttpMux.Bytes
