import HttpMux.Base64

/-!
# `HttpMux.Proofs.Base64`: each byte sequence is spelled in one way

Decoding wants the padding, and zeros in the bits that are left over, so no two texts spell the same
bytes. The proof goes by groups: three bytes and four characters, and a shorter group at the end.

* `value?_symbol` and `symbol_value?`: characters and the six bits they stand for.
* `decode?_encode`: decoding gives the encoded bytes back.
* `encode_of_decode?`: only the encoding of bytes is decoded to them.
* `decode?_eq_some_iff`: both in one statement.
-/

set_option autoImplicit false

namespace HttpMux.Base64

/-! ### Six bits -/

/-- The character of six bits stands for them. All of them are checked. -/
theorem value?_symbol : ∀ n < 64, value? (symbol n) = some n := by decide +kernel

/-- The padding stands for no bits. -/
theorem symbol_ne_padding {n : Nat} (hn : n < 64) : symbol n ≠ '=' := by
  intro heq
  have hvalue := value?_symbol n hn
  have hnone : value? '=' = none := by decide
  rw [heq, hnone] at hvalue
  cases hvalue

/-- Six bits have only one character. -/
theorem symbol_value? {c : Char} {n : Nat} (h : value? c = some n) : n < 64 ∧ symbol n = c := by
  -- One case for each range of the alphabet, and one for each of the two signs behind them.
  simp only [value?] at h
  split at h
  · cases h
    refine ⟨by omega, ?_⟩
    rw [symbol, if_pos (by omega), show 0x41 + (c.toNat - 0x41) = c.toNat by omega,
      Char.ofNat_toNat]
  · split at h
    · cases h
      refine ⟨by omega, ?_⟩
      rw [symbol, if_neg (by omega), if_pos (by omega),
        show 0x61 + (c.toNat - 0x61 + 26 - 26) = c.toNat by omega, Char.ofNat_toNat]
    · split at h
      · cases h
        refine ⟨by omega, ?_⟩
        rw [symbol, if_neg (by omega), if_neg (by omega), if_pos (by omega),
          show 0x30 + (c.toNat - 0x30 + 52 - 52) = c.toNat by omega, Char.ofNat_toNat]
      · split at h
        · cases h
          rename_i hplus
          exact ⟨by decide, hplus.symm⟩
        · split at h
          · cases h
            rename_i hslash
            exact ⟨by decide, hslash.symm⟩
          · cases h

/-! ### Groups of bytes -/

/-- A number that is a byte is converted to this byte. -/
theorem toUInt8_eq {n : Nat} {b : UInt8} (h : n = b.toNat) : n.toUInt8 = b := by
  rw [h]
  exact UInt8.ofNat_toNat

/-- A number below 256 is kept in a byte. -/
theorem toNat_toUInt8 {n : Nat} (hn : n < 256) : n.toUInt8.toNat = n := by
  rw [Nat.toUInt8, UInt8.toNat_ofNat', Nat.mod_eq_of_lt hn]

/-- Without padding at the end of a group, the group stands for three bytes. -/
theorem decode?_group {a b c d : Char} (hd : d ≠ '=') (rest : List Char) :
    decode? (a :: b :: c :: d :: rest) = (do
      let a ← value? a
      let b ← value? b
      let c ← value? c
      let d ← value? d
      let bytes ← decode? rest
      some ((a * 4 + b / 16).toUInt8 :: (b % 16 * 16 + c / 4).toUInt8 :: (c % 4 * 64 + d).toUInt8 ::
        bytes)) := by
  rw [decode?]
  · rintro - rfl -
    exact hd rfl
  · rintro rfl -
    exact hd rfl

/-- Decoding gives the encoded bytes back. -/
theorem decode?_encode (bs : Bytes) : decode? (encode bs) = some bs := by
  -- Groups of three bytes are decoded one by one, and one or two bytes may be left for the last
  -- group.
  fun_induction encode bs with
  | case1 => rfl
  | case2 a =>
    have ha := a.toNat_lt
    rw [decode?, value?_symbol _ (by omega), value?_symbol _ (by omega)]
    simp only [Option.bind_eq_bind, Option.bind_some]
    rw [if_pos (by omega), toUInt8_eq (b := a) (by omega)]
  | case3 a b =>
    have ha := a.toNat_lt
    have hb := b.toNat_lt
    have hlast := symbol_ne_padding (n := b.toNat % 16 * 4) (by omega)
    rw [decode?, value?_symbol _ (by omega), value?_symbol _ (by omega),
      value?_symbol _ (by omega)]
    · simp only [Option.bind_eq_bind, Option.bind_some]
      rw [if_pos (by omega), toUInt8_eq (b := a) (by omega), toUInt8_eq (b := b) (by omega)]
    · exact hlast
  | case4 a b c rest ih =>
    have ha := a.toNat_lt
    have hb := b.toNat_lt
    have hc := c.toNat_lt
    rw [decode?_group (symbol_ne_padding (by omega)), value?_symbol _ (by omega),
      value?_symbol _ (by omega), value?_symbol _ (by omega), value?_symbol _ (by omega), ih]
    simp only [Option.bind_eq_bind, Option.bind_some]
    rw [toUInt8_eq (b := a) (by omega), toUInt8_eq (b := b) (by omega),
      toUInt8_eq (b := c) (by omega)]

/-- Only the encoding of bytes is decoded to them. -/
theorem encode_of_decode? {cs : List Char} {bs : Bytes} (h : decode? cs = some bs) :
    encode bs = cs := by
  -- Each group of characters gives its bits back, as the bits that are left over are zeros.
  fun_induction decode? cs generalizing bs with
  | case1 =>
    cases h
    rfl
  | case2 a b =>
    simp only [Option.bind_eq_bind, Option.bind_eq_some_iff] at h
    obtain ⟨x, hx, y, hy, h⟩ := h
    obtain ⟨hx, rfl⟩ := symbol_value? hx
    obtain ⟨hy, rfl⟩ := symbol_value? hy
    split at h
    · cases h
      have hfirst : (x * 4 + y / 16) / 4 = x := by omega
      have hsecond : (x * 4 + y / 16) % 4 * 16 = y := by omega
      rw [encode, toNat_toUInt8 (by omega), hfirst, hsecond]
    · cases h
  | case3 a b c hc =>
    simp only [Option.bind_eq_bind, Option.bind_eq_some_iff] at h
    obtain ⟨x, hx, y, hy, z, hz, h⟩ := h
    obtain ⟨hx, rfl⟩ := symbol_value? hx
    obtain ⟨hy, rfl⟩ := symbol_value? hy
    obtain ⟨hz, rfl⟩ := symbol_value? hz
    split at h
    · cases h
      have hfirst : (x * 4 + y / 16) / 4 = x := by omega
      have hsecond : (x * 4 + y / 16) % 4 * 16 + (y % 16 * 16 + z / 4) / 16 = y := by omega
      have hthird : (y % 16 * 16 + z / 4) % 16 * 4 = z := by omega
      rw [encode, toNat_toUInt8 (by omega), toNat_toUInt8 (by omega), hfirst, hsecond, hthird]
    · cases h
  | case4 a b c d rest hpadding hpadding' ih =>
    simp only [Option.bind_eq_bind, Option.bind_eq_some_iff] at h
    obtain ⟨x, hx, y, hy, z, hz, w, hw, bytes, hbytes, h⟩ := h
    obtain ⟨hx, rfl⟩ := symbol_value? hx
    obtain ⟨hy, rfl⟩ := symbol_value? hy
    obtain ⟨hz, rfl⟩ := symbol_value? hz
    obtain ⟨hw, rfl⟩ := symbol_value? hw
    cases h
    have hfirst : (x * 4 + y / 16) / 4 = x := by omega
    have hsecond : (x * 4 + y / 16) % 4 * 16 + (y % 16 * 16 + z / 4) / 16 = y := by omega
    have hthird : (y % 16 * 16 + z / 4) % 16 * 4 + (z % 4 * 64 + w) / 64 = z := by omega
    have hfourth : (z % 4 * 64 + w) % 64 = w := by omega
    rw [encode, toNat_toUInt8 (by omega), toNat_toUInt8 (by omega), toNat_toUInt8 (by omega),
      hfirst, hsecond, hthird, hfourth, ih hbytes]
  | case5 => cases h

/-- A text is decoded to bytes exactly if it is their encoding. -/
theorem decode?_eq_some_iff {cs : List Char} {bs : Bytes} :
    decode? cs = some bs ↔ cs = encode bs := by
  constructor
  · intro h
    exact (encode_of_decode? h).symm
  · rintro rfl
    exact decode?_encode bs

end HttpMux.Base64
