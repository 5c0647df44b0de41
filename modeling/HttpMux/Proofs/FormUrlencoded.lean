import HttpMux.FormUrlencoded
import HttpMux.Proofs.Text.Lossy
import Mathlib.Tactic.IntervalCases

/-!
# `HttpMux.Proofs.FormUrlencoded`: a query keeps its pairs

Encoded names and values consist of ASCII letters, digits and a few signs. None of them is one of
the signs that separate pairs, names from values, or a query from what surrounds it. So an encoded
list of pairs can be cut again where it was joined.

* `FormUrlencoded.unescape_escapeByte`: one byte, whatever follows.
* `FormUrlencoded.decodePart_encodePart`: a name or a value.
* `FormUrlencoded.decode_encode`: a list of pairs.
* `FormUrlencoded.text`: an encoded list of pairs as a text, and the signs that are not in it.
-/

set_option autoImplicit false

namespace HttpMux.FormUrlencoded

/-! ### Bytes -/

/-- A capital hexadecimal digit is read as its number, and is written as it is. -/
theorem hexDigit_spec {n : UInt8} (h : n.toNat < 16) :
    hexDigit? (hexDigit n) = some n ∧ isSafe (hexDigit n) := by
  rw [← UInt8.ofNat_toNat (x := n)]
  generalize n.toNat = m at h ⊢
  interval_cases m <;> decide

/-- The higher half of a byte is a hexadecimal digit. -/
theorem toNat_high_lt (b : UInt8) : (b / 16).toNat < 16 := by
  have hb := b.toNat_lt
  rw [UInt8.toNat_div]
  exact Nat.div_lt_of_lt_mul hb

/-- The lower half of a byte is a hexadecimal digit. -/
theorem toNat_low_lt (b : UInt8) : (b % 16).toNat < 16 := by
  rw [UInt8.toNat_mod]
  exact Nat.mod_lt _ (by decide)

/-- A byte from the numbers of its two digits. -/
theorem high_low_eq (b : UInt8) : b / 16 * 16 + b % 16 = b := by
  have hb := b.toNat_lt
  rw [← UInt8.toNat_inj, UInt8.toNat_add, UInt8.toNat_mul, UInt8.toNat_div, UInt8.toNat_mod]
  show (b.toNat / 16 * 16 % 256 + b.toNat % 16) % 256 = b.toNat
  omega

/-- A byte that is no percent sign stands for one byte. -/
theorem unescape_cons {b : UInt8} (h : b ≠ 0x25) (bs : Bytes) :
    unescape (b :: bs) = (if b = 0x2B then 0x20 else b) :: unescape bs := by
  match bs with
  | [] => rfl
  | [_] => rfl
  | _ :: _ :: _ => rw [unescape, if_neg h]

/-- A percent sign with two digits stands for the byte that they spell. -/
theorem unescape_percent {c d x y : UInt8} (hc : hexDigit? c = some x) (hd : hexDigit? d = some y)
    (bs : Bytes) : unescape (0x25 :: c :: d :: bs) = (x * 16 + y) :: unescape bs := by
  rw [unescape, if_pos rfl, hc, hd]

/-- A byte that is written as it is is none of the signs that mean something else. -/
theorem ne_of_isSafe {b : UInt8} (h : isSafe b) : b ≠ 0x25 ∧ b ≠ 0x2B := by
  constructor <;> rintro rfl <;> exact absurd h (by decide)

/-- The way in which a byte is written is read as the byte, whatever follows. -/
theorem unescape_escapeByte (b : UInt8) (bs : Bytes) :
    unescape (escapeByte b ++ bs) = b :: unescape bs := by
  -- A byte is written as it is, as a plus, or as a percent sign and two digits.
  rw [escapeByte]
  split
  · rename_i hsafe
    obtain ⟨hpercent, hplus⟩ := ne_of_isSafe hsafe
    rw [List.singleton_append, unescape_cons hpercent, if_neg hplus]
  · split
    · rename_i hspace
      rw [List.singleton_append, unescape_cons (by decide), if_pos rfl, hspace]
    · show unescape (0x25 :: hexDigit (b / 16) :: hexDigit (b % 16) :: bs) = _
      rw [unescape_percent (hexDigit_spec (toNat_high_lt b)).1 (hexDigit_spec (toNat_low_lt b)).1,
        high_low_eq]

/-! ### Names and values -/

/-- Bytes that were written one by one are read one by one. -/
theorem unescape_flatMap (bs : Bytes) : unescape (bs.flatMap escapeByte) = bs := by
  induction bs with
  | nil => rfl
  | cons b bs ih => rw [List.flatMap_cons, unescape_escapeByte, ih]

/-- Decoding a name or a value gives back what was encoded. -/
theorem decodePart_encodePart (s : String) : decodePart (encodePart s) = s := by
  rw [decodePart, encodePart, unescape_flatMap, Bytes.lossyText_ofText]

/-- What encoded names and values consist of. -/
def IsPlain (b : UInt8) : Prop := isSafe b ∨ b = 0x2B ∨ b = 0x25

/-- A byte is written with plain bytes. -/
theorem isPlain_of_mem_escapeByte {b x : UInt8} (h : x ∈ escapeByte b) : IsPlain x := by
  rw [escapeByte] at h
  split at h
  · rename_i hsafe
    exact .inl (List.mem_singleton.mp h ▸ hsafe)
  · split at h
    · exact .inr (.inl (List.mem_singleton.mp h))
    · simp only [List.mem_cons, List.not_mem_nil, or_false] at h
      rcases h with rfl | rfl | rfl
      · exact .inr (.inr rfl)
      · exact .inl (hexDigit_spec (toNat_high_lt b)).2
      · exact .inl (hexDigit_spec (toNat_low_lt b)).2

/-- An encoded name or value consists of plain bytes. -/
theorem isPlain_of_mem_encodePart {s : String} {b : UInt8} (h : b ∈ encodePart s) : IsPlain b := by
  obtain ⟨x, -, hx⟩ := List.mem_flatMap.mp h
  exact isPlain_of_mem_escapeByte hx

/-! ### Pairs -/

/-- The sign between a name and its value is not plain. -/
theorem not_isPlain_equals : ¬ IsPlain 0x3D := by
  rintro (h | h | h) <;> exact absurd h (by decide)

/-- The sign between pairs is not plain. -/
theorem not_isPlain_ampersand : ¬ IsPlain 0x26 := by
  rintro (h | h | h) <;> exact absurd h (by decide)

/-- A pair is cut at the sign between its parts. -/
theorem decodePair_encodePair (p : String × String) : decodePair (encodePair p) = p := by
  -- The first equals sign is the one that was put between the parts.
  have hbefore : ∀ b ∈ encodePart p.1, decide (b ≠ 0x3D) = true := fun b hb =>
    decide_eq_true fun heq => not_isPlain_equals (isPlain_of_mem_encodePart (heq ▸ hb))
  rw [decodePair, encodePair, List.takeWhile_append_of_pos hbefore,
    List.dropWhile_append_of_pos hbefore]
  simp [decodePart_encodePart]

/-- An encoded pair is not empty, even if both its parts are. -/
theorem encodePair_ne_nil (p : String × String) : encodePair p ≠ [] := by
  simp [encodePair]

/-- An encoded pair consists of plain bytes and equals signs. -/
theorem isPlain_of_mem_encodePair {p : String × String} {b : UInt8} (h : b ∈ encodePair p) :
    IsPlain b ∨ b = 0x3D := by
  rw [encodePair, List.mem_append, List.mem_cons] at h
  rcases h with h | h | h
  · exact .inl (isPlain_of_mem_encodePart h)
  · exact .inr h
  · exact .inl (isPlain_of_mem_encodePart h)

/-- The sign between pairs is in no encoded pair. -/
theorem ampersand_not_mem_encodePair (p : String × String) : 0x26 ∉ encodePair p := by
  intro h
  rcases isPlain_of_mem_encodePair h with h | h
  · exact not_isPlain_ampersand h
  · exact absurd h (by decide)

/-- Decoding the query of a list of pairs gives back the pairs, in their order. -/
theorem decode_encode (pairs : List (String × String)) : decode (encode pairs) = pairs := by
  cases pairs with
  | nil => rfl
  | cons p pairs =>
    -- The query is cut where the pairs were joined, as no pair has the sign in it.
    have hpieces : (encode (p :: pairs)).splitOn 0x26 = (p :: pairs).map encodePair := by
      refine List.splitOn_intercalate 0x26 (fun piece hpiece => ?_) (by simp)
      obtain ⟨q, -, rfl⟩ := List.mem_map.mp hpiece
      exact ampersand_not_mem_encodePair q
    -- Decoding passes over empty pieces, and there are none.
    have hnonempty : ∀ piece ∈ (p :: pairs).map encodePair, (!piece.isEmpty) = true := by
      intro piece hpiece
      obtain ⟨q, -, rfl⟩ := List.mem_map.mp hpiece
      simp [encodePair_ne_nil q]
    rw [decode, hpieces, List.filter_eq_self.mpr hnonempty, List.map_map]
    exact (List.map_congr_left fun q _ => decodePair_encodePair q).trans (List.map_id _)

/-! ### As a text -/

/-- The query of a list of pairs as a text. -/
def text (pairs : List (String × String)) : String :=
  String.ofList ((encode pairs).map fun b => Char.ofNat b.toNat)

/-- The query of several pairs begins with the first one and the sign between pairs. -/
theorem encode_cons_cons (p q : String × String) (pairs : List (String × String)) :
    encode (p :: q :: pairs) = encodePair p ++ 0x26 :: encode (q :: pairs) := by
  rw [encode, List.map_cons, List.map_cons, List.intercalate_cons_cons, List.append_assoc]
  rfl

/-- Between the encoded names and values there are only the two signs that separate them. -/
theorem isPlain_of_mem_encode {pairs : List (String × String)} {b : UInt8} (h : b ∈ encode pairs) :
    IsPlain b ∨ b = 0x3D ∨ b = 0x26 := by
  -- The last pair has no sign behind it, so it is a case of its own.
  induction pairs with
  | nil => cases h
  | cons p pairs ih =>
    cases pairs with
    | nil =>
      rw [encode, List.map_singleton, List.intercalate_singleton] at h
      exact (isPlain_of_mem_encodePair h).imp_right .inl
    | cons q pairs =>
      rw [encode_cons_cons, List.mem_append, List.mem_cons] at h
      rcases h with h | rfl | h
      · exact (isPlain_of_mem_encodePair h).imp_right .inl
      · exact .inr (.inr rfl)
      · exact ih h

/-- A query that was encoded is ASCII. -/
theorem isAscii_of_mem_encode {pairs : List (String × String)} {b : UInt8}
    (h : b ∈ encode pairs) : b.toNat < 128 := by
  have hsafe : ∀ b, isSafe b → b.toNat < 128 := by
    intro b hb
    simp only [isSafe, Bool.or_eq_true, Bool.and_eq_true, decide_eq_true_eq,
      UInt8.le_iff_toNat_le, ← UInt8.toNat_inj] at hb
    simp at hb
    omega
  rcases isPlain_of_mem_encode h with (h | rfl | rfl) | rfl | rfl
  · exact hsafe b h
  all_goals decide

/-- The text of a query has the bytes of the query. -/
theorem ofText_text (pairs : List (String × String)) :
    Bytes.ofText (text pairs) = encode pairs := by
  rw [text, Bytes.ofText_ofList, Bytes.ofChars_map_ofNat fun b hb => isAscii_of_mem_encode hb]

/-- The sign that begins a fragment is not in a query that was encoded. -/
theorem hash_not_mem_text (pairs : List (String × String)) : '#' ∉ (text pairs).toList := by
  rw [← Bytes.mem_ofChars_iff (by decide), ← Bytes.ofText_eq, ofText_text]
  intro h
  rcases isPlain_of_mem_encode h with (h | h | h) | h | h <;> exact absurd h (by decide)

end HttpMux.FormUrlencoded
