import HttpMux.Bytes
import Mathlib.Data.List.TakeWhile
import Mathlib.Data.String.Basic

/-!
# `HttpMux.Proofs.Text.Encoding`: ASCII bytes in encoded texts

A byte below 0x80 in the encoding of a text is a character of its own. So a text can be cut at such
a byte, and both parts are texts again.

* `Bytes.mem_encoded_iff`: an ASCII byte is in the encoding of its own character alone.
* `Bytes.exists_of_ofChars_eq`: cutting the encoding at an ASCII byte is cutting the text at its
  character.
* `Bytes.exists_of_ofChars_eq_append` and `Bytes.exists_of_takeWhile`: what follows a text inside a
  text is a text, and so is a piece that ends in front of an ASCII byte.
-/

set_option autoImplicit false

namespace HttpMux.Bytes

/-- The encoding of a list of characters. -/
def ofChars (cs : List Char) : Bytes := cs.flatMap String.utf8EncodeChar

/-- The bytes of a text are those of its characters. -/
theorem ofText_eq (s : String) : ofText s = ofChars s.toList := by
  have hbytes : s.toByteArray = s.toList.utf8Encode := by
    rw [← String.toByteArray_ofList, String.ofList_toList]
  rw [ofText, hbytes, List.utf8Encode, ofChars]
  simp

/-- The bytes of a text that is put together from characters are those of the characters. -/
@[simp]
theorem ofText_ofList (cs : List Char) : ofText (String.ofList cs) = ofChars cs := by
  rw [ofText_eq, String.toList_ofList]

/-- No characters have no bytes. -/
@[simp]
theorem ofChars_nil : ofChars [] = [] := rfl

/-- The bytes of the first character come first. -/
@[simp]
theorem ofChars_cons (c : Char) (cs : List Char) :
    ofChars (c :: cs) = String.utf8EncodeChar c ++ ofChars cs := rfl

/-- The bytes of two lists of characters in a row are in a row. -/
@[simp]
theorem ofChars_append (cs ds : List Char) : ofChars (cs ++ ds) = ofChars cs ++ ofChars ds :=
  List.flatMap_append

/-- Texts with the same bytes are the same. -/
theorem ofText_injective {s t : String} (h : ofText s = ofText t) : s = t := by
  have hs := text?_ofText s
  rw [h, text?_ofText] at hs
  exact (Option.some.inj hs).symm

/-- Lists of characters with the same bytes are the same. -/
theorem ofChars_injective : Function.Injective ofChars := by
  intro cs ds h
  rw [← ofText_ofList, ← ofText_ofList] at h
  exact String.ofList_injective (ofText_injective h)

/-! ### ASCII characters -/

/-- The byte of an ASCII character. -/
def ascii (c : Char) : UInt8 := UInt8.ofNat c.toNat

/-- An ASCII character is encoded by its own byte. -/
theorem encoded_of_ascii {c : Char} (hc : c.toNat < 128) :
    String.utf8EncodeChar c = [ascii c] := by
  have hle : c.val.toNat ≤ 127 := Nat.le_of_lt_succ hc
  simp only [String.utf8EncodeChar, if_pos hle]
  rfl

/-- An ASCII byte is the encoding of its character. -/
theorem encoded_ofNat {b : UInt8} (hb : b.toNat < 128) :
    String.utf8EncodeChar (Char.ofNat b.toNat) = [b] := by
  have htoNat : (Char.ofNat b.toNat).toNat = b.toNat := by
    rw [Char.ofNat, dif_pos (.inl (by omega))]
    rfl
  rw [encoded_of_ascii (by rwa [htoNat]), ascii, htoNat, UInt8.ofNat_toNat]

/-- Bytes that are ASCII are the encoding of as many characters. -/
theorem ofChars_map_ofNat {bs : Bytes} (h : ∀ b ∈ bs, b.toNat < 128) :
    ofChars (bs.map fun b => Char.ofNat b.toNat) = bs := by
  induction bs with
  | nil => rfl
  | cons b bs ih =>
    rw [List.map_cons, ofChars_cons, encoded_ofNat (h b List.mem_cons_self),
      ih fun x hx => h x (List.mem_cons_of_mem b hx), List.singleton_append]

/-- Every byte of a character that is not ASCII has its highest bit set. -/
theorem le_of_mem_encoded {c : Char} (hc : ¬ c.toNat < 128) {b : UInt8}
    (hb : b ∈ String.utf8EncodeChar c) : 128 ≤ b.toNat := by
  have hlt : ¬ c.val.toNat ≤ 127 := fun h => hc (Nat.lt_succ_of_le h)
  simp only [String.utf8EncodeChar, if_neg hlt] at hb
  -- Two, three or four bytes, by the number of the character.
  split at hb
  · simp only [List.mem_cons, List.not_mem_nil, or_false] at hb
    rcases hb with rfl | rfl <;> rw [UInt8.toNat_ofNat'] <;> omega
  · split at hb
    · simp only [List.mem_cons, List.not_mem_nil, or_false] at hb
      rcases hb with rfl | rfl | rfl <;> rw [UInt8.toNat_ofNat'] <;> omega
    · simp only [List.mem_cons, List.not_mem_nil, or_false] at hb
      rcases hb with rfl | rfl | rfl | rfl <;> rw [UInt8.toNat_ofNat'] <;> omega

/-- The byte of an ASCII character has the number of the character. -/
theorem toNat_ascii {c : Char} (hc : c.toNat < 128) : (ascii c).toNat = c.toNat := by
  rw [ascii, UInt8.toNat_ofNat']
  omega

/-- An ASCII byte is in the encoding of its own character alone. -/
theorem mem_encoded_iff {c d : Char} (hc : c.toNat < 128) :
    ascii c ∈ String.utf8EncodeChar d ↔ d = c := by
  constructor
  · intro h
    by_cases hd : d.toNat < 128
    · rw [encoded_of_ascii hd, List.mem_singleton] at h
      have htoNat : c.toNat = d.toNat := by rw [← toNat_ascii hc, h, toNat_ascii hd]
      exact (Char.toNat_inj.mp htoNat).symm
    · have hle := le_of_mem_encoded hd h
      rw [toNat_ascii hc] at hle
      omega
  · rintro rfl
    rw [encoded_of_ascii hc]
    exact List.mem_singleton.mpr rfl

/-- The byte of an ASCII character is in the encoding of a text if the character is in the text. -/
theorem mem_ofChars_iff {c : Char} (hc : c.toNat < 128) {cs : List Char} :
    ascii c ∈ ofChars cs ↔ c ∈ cs := by
  simp only [ofChars, List.mem_flatMap, mem_encoded_iff hc, exists_eq_right]

/-- Cutting the encoding of a text at an ASCII byte is cutting the text at its character. -/
theorem exists_of_ofChars_eq {c : Char} (hc : c.toNat < 128) {cs : List Char} {xs ys : Bytes}
    (h : ofChars cs = xs ++ ascii c :: ys) :
    ∃ before after, cs = before ++ c :: after ∧ ofChars before = xs ∧ ofChars after = ys := by
  -- Induction on the text: what is in front of the byte gets shorter by the first character.
  induction cs generalizing xs with
  | nil => simp at h
  | cons d cs ih =>
    rw [ofChars_cons, List.append_eq_append_iff] at h
    -- Either the first character ends before the byte, or the byte is one of its bytes.
    rcases h with ⟨zs, rfl, hzs⟩ | ⟨zs, hd, hzs⟩
    · obtain ⟨before, after, rfl, rfl, rfl⟩ := ih hzs
      exact ⟨d :: before, after, rfl, rfl, rfl⟩
    · cases zs with
      | nil =>
        rw [List.append_nil] at hd
        obtain ⟨before, after, rfl, hbefore, rfl⟩ :=
          ih (show _ = [] ++ ascii c :: ys from hzs.symm)
        refine ⟨d :: before, after, rfl, ?_, rfl⟩
        rw [ofChars_cons, hbefore, hd, List.append_nil]
      | cons b zs =>
        rw [List.cons_append, List.cons.injEq] at hzs
        obtain ⟨rfl, rfl⟩ := hzs
        have hmem : ascii c ∈ String.utf8EncodeChar d := by
          rw [hd]
          exact List.mem_append_right _ List.mem_cons_self
        obtain rfl := (mem_encoded_iff hc).mp hmem
        -- The encoding is this one byte, so nothing of it stands before or behind.
        rw [encoded_of_ascii hc, eq_comm, List.append_eq_singleton_iff] at hd
        rcases hd with ⟨rfl, hzs⟩ | ⟨-, hzs⟩
        · obtain ⟨-, rfl⟩ := List.cons.inj hzs
          exact ⟨[], cs, rfl, rfl, rfl⟩
        · cases hzs

/-! ### Pieces of texts -/

/-- What follows characters in a valid encoding is a valid encoding. -/
theorem isValidUTF8_of_ofChars_append (cs : List Char) {bs : Bytes}
    (h : ByteArray.IsValidUTF8 ⟨(ofChars cs ++ bs).toArray⟩) :
    ByteArray.IsValidUTF8 ⟨bs.toArray⟩ := by
  induction cs with
  | nil => exact h
  | cons c cs ih =>
    have hfirst : (⟨(ofChars (c :: cs) ++ bs).toArray⟩ : ByteArray)
        = [c].utf8Encode ++ ⟨(ofChars cs ++ bs).toArray⟩ := by
      ext1
      simp [List.utf8Encode]
    rw [hfirst, ByteArray.isValidUTF8_utf8Encode_singleton_append_iff] at h
    exact ih h

/-- What follows a text inside a text is a text. -/
theorem exists_of_ofChars_eq_append {cs ds : List Char} {bs : Bytes}
    (h : ofChars cs = ofChars ds ++ bs) : ∃ es, cs = ds ++ es ∧ bs = ofChars es := by
  have hvalid : ByteArray.IsValidUTF8 ⟨(ofChars ds ++ bs).toArray⟩ := by
    rw [← h, ← ofText_ofList]
    exact (String.ofList cs).isValidUTF8
  -- What is left is valid, so there is a text that it encodes.
  have htext : text? bs = some (String.fromUTF8 _ (isValidUTF8_of_ofChars_append ds hvalid)) :=
    dif_pos _
  have hbs := ofText_of_text? htext
  rw [ofText_eq] at hbs
  rw [← hbs, ← ofChars_append] at h
  exact ⟨_, ofChars_injective h, hbs.symm⟩

/-- Dropping as many members as were taken leaves what was not taken. -/
theorem drop_length_takeWhile {α : Type} (p : α → Bool) (xs : List α) :
    xs.drop (xs.takeWhile p).length = xs.dropWhile p := by
  calc xs.drop (xs.takeWhile p).length
    _ = (xs.takeWhile p ++ xs.dropWhile p).drop (xs.takeWhile p).length := by
      rw [List.takeWhile_append_dropWhile]
    _ = xs.dropWhile p := List.drop_left

/-- If nothing but ASCII ends a piece of a text, then the piece and what follows are texts. -/
theorem exists_of_takeWhile {p : UInt8 → Bool}
    (hp : ∀ b, p b = false → ∃ c : Char, c.toNat < 128 ∧ ascii c = b) (cs : List Char) :
    ∃ before after, cs = before ++ after ∧ (ofChars cs).takeWhile p = ofChars before
      ∧ (ofChars cs).dropWhile p = ofChars after := by
  have hsplit := List.takeWhile_append_dropWhile (p := p) (l := ofChars cs)
  have hfirst := List.head?_dropWhile_not p (ofChars cs)
  -- Either the piece is the whole text, or it ends in front of an ASCII byte.
  cases hrest : (ofChars cs).dropWhile p with
  | nil =>
    rw [hrest, List.append_nil] at hsplit
    exact ⟨cs, [], (List.append_nil cs).symm, hsplit, rfl⟩
  | cons b bs =>
    rw [hrest] at hfirst hsplit
    obtain ⟨c, hc, rfl⟩ := hp b hfirst
    obtain ⟨before, after, rfl, hbefore, hafter⟩ := exists_of_ofChars_eq hc hsplit.symm
    refine ⟨before, c :: after, rfl, hbefore.symm, ?_⟩
    rw [ofChars_cons, encoded_of_ascii hc, hafter]
    rfl

end HttpMux.Bytes
