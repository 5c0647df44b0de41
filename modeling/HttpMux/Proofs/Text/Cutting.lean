import HttpMux.Text.Blank
import HttpMux.Text.Split
import Mathlib.Data.List.DropRight
import Mathlib.Data.String.Basic

/-!
# `HttpMux.Proofs.Text.Cutting`: trimming, words, lines and cuts at a character

* `Text.Trimmed`: no blank at either end. Trimming makes a text so, and keeps one that is.
* `Text.wordsOf_concat_blank` and `Text.wordsOf_append_blank`: a blank at the end makes no word, and
  a text without blanks is a word in front of one.
* `Text.lineChars_append_feed` and `Text.lineChars_of_not_mem`: the lines of a text from its front.
* `Text.splitFirstChars?_append`: the first occurrence of a character.
* `Text.splitFirst?_eq_some_iff` and `Text.dropStart?_eq_some_iff`: what the two parts of a cut text
  are, and what follows a start.
-/

set_option autoImplicit false

namespace HttpMux.Text

/-! ### Trimming -/

/-- Neither the first nor the last character is blank. -/
structure Trimmed (s : String) : Prop where
  front : ∀ c ∈ s.toList.head?, isBlank c = false
  back : ∀ c ∈ s.toList.getLast?, isBlank c = false

/-- Trimming takes the blanks off the front, then off the back. -/
theorem trimChars_eq (cs : List Char) :
    trimChars cs = (cs.dropWhile isBlank).rdropWhile isBlank := rfl

/-- A blank in front makes no difference to the trimmed text. -/
theorem trimChars_cons_blank {c : Char} (hc : isBlank c) (cs : List Char) :
    trimChars (c :: cs) = trimChars cs := by
  rw [trimChars_eq, List.dropWhile_cons_of_pos hc, trimChars_eq]

/-- A blank at the end makes no difference to the trimmed text. -/
theorem trimChars_concat_blank {c : Char} (hc : isBlank c) (cs : List Char) :
    trimChars (cs ++ [c]) = trimChars cs := by
  rw [trimChars_eq, List.dropWhile_append, trimChars_eq]
  split
  · -- All of `cs` is blank, so nothing is left on either side.
    rename_i hempty
    rw [List.isEmpty_iff.mp hempty, List.dropWhile_cons_of_pos hc]
    rfl
  · exact List.rdropWhile_concat_pos isBlank _ c hc

/-- What is left in front is a piece of what was there. -/
theorem trimChars_within (cs : List Char) : trimChars cs <:+: cs :=
  (List.rdropWhile_prefix isBlank _).isInfix.trans (List.dropWhile_suffix isBlank).isInfix

/-- A trimmed text has no characters of its own. -/
theorem mem_of_mem_trim {cs : List Char} {c : Char} (h : c ∈ (trim (String.ofList cs)).toList) :
    c ∈ cs := by
  rw [trim, String.toList_ofList, String.toList_ofList] at h
  exact (trimChars_within cs).subset h

/-- A text that was trimmed has no blank at either end. -/
theorem trimmed_trim (s : String) : Trimmed (trim s) := by
  rw [trim]
  constructor <;> intro c hc <;> rw [String.toList_ofList] at hc
  · -- The first character is the first one that is not blank.
    obtain ⟨rest, hrest⟩ := List.rdropWhile_prefix isBlank (s.toList.dropWhile isBlank)
    have hhead : (s.toList.dropWhile isBlank).head? = some c := by
      rw [← hrest, List.head?_append, ← trimChars_eq, Option.mem_def.mp hc]
      rfl
    have hnot := List.head?_dropWhile_not isBlank s.toList
    rwa [hhead] at hnot
  · -- The last character is the one at which dropping from the back has stopped.
    have hne : trimChars s.toList ≠ [] := by
      intro hnil
      rw [hnil] at hc
      cases hc
    have hlast : (trimChars s.toList).getLast hne = c := by
      rw [List.getLast?_eq_some_getLast hne] at hc
      exact Option.some.inj hc
    have hnot := List.rdropWhile_last_not isBlank (s.toList.dropWhile isBlank) hne
    rw [← hlast]
    exact Bool.eq_false_iff.mpr hnot

/-- A text that trimming leaves alone has no blank at either end. -/
theorem trimmed_of_trim_eq {s : String} (h : trim s = s) : Trimmed s := h ▸ trimmed_trim s

/-- Trimming leaves a text alone that has no blank at either end. -/
theorem trim_eq_self {s : String} (h : Trimmed s) : trim s = s := by
  have hfront : s.toList.dropWhile isBlank = s.toList := by
    cases hs : s.toList with
    | nil => rfl
    | cons c cs =>
      have hc := h.front c (by rw [hs]; rfl)
      exact List.dropWhile_cons_of_neg (by rw [hc]; exact Bool.false_ne_true)
  have hback : s.toList.rdropWhile isBlank = s.toList := by
    rw [List.rdropWhile_eq_self_iff]
    intro hne
    rw [h.back _ (List.getLast?_eq_some_getLast hne)]
    exact Bool.false_ne_true
  rw [trim, trimChars_eq, hfront, hback, String.ofList_toList]

/-! ### Words -/

/-- A text without blanks, by a test that can be run. -/
theorem not_blank_of_all {cs : List Char} (h : cs.all (!isBlank ·) = true) :
    ∀ c ∈ cs, isBlank c = false := fun c hc => by
  simpa using List.all_eq_true.mp h c hc

/-- The pieces between the members that satisfy `p` have no such members. -/
theorem not_of_mem_splitOnP {α : Type} {p : α → Bool} {xs ys : List α} (h : ys ∈ xs.splitOnP p) :
    ∀ y ∈ ys, p y = false := by
  -- A member at the front either ends an empty piece or is put in front of the first piece.
  induction xs generalizing ys with
  | nil =>
    rw [List.splitOnP_nil, List.mem_singleton] at h
    subst h
    intro y hy
    cases hy
  | cons x xs ih =>
    rw [List.splitOnP_cons_eq_if_modifyHead] at h
    split at h
    · rcases List.mem_cons.mp h with rfl | h
      · intro y hy
        cases hy
      · exact ih h
    · rename_i hx
      cases hpieces : xs.splitOnP p with
      | nil => exact absurd hpieces (List.splitOnP_ne_nil p xs)
      | cons piece pieces =>
        rw [hpieces, List.modifyHead_cons] at h
        rcases List.mem_cons.mp h with rfl | h
        · intro y hy
          rcases List.mem_cons.mp hy with rfl | hy
          · exact Bool.eq_false_iff.mpr hx
          · exact ih (hpieces ▸ List.mem_cons_self) y hy
        · exact ih (hpieces ▸ List.mem_cons_of_mem piece h)

/-- No blank is in a word. -/
theorem not_blank_of_mem_words {s w : String} (h : w ∈ words s) :
    ∀ c ∈ w.toList, isBlank c = false := by
  rw [words, List.mem_map] at h
  obtain ⟨cs, hcs, rfl⟩ := h
  rw [String.toList_ofList]
  exact not_of_mem_splitOnP (List.mem_filter.mp hcs).1

/-- A blank at the end makes no word. -/
theorem wordsOf_concat_blank {c : Char} (hc : isBlank c) (cs : List Char) :
    wordsOf (cs ++ [c]) = wordsOf cs := by
  rw [wordsOf, List.splitOnP_append_cons cs [] hc, List.splitOnP_nil, List.filter_append, wordsOf]
  exact List.append_nil _

/-- A text without blanks is one word in front of a blank. -/
theorem wordsOf_append_blank {c : Char} (hc : isBlank c) {w : List Char} (hne : w ≠ [])
    (hw : ∀ c ∈ w, isBlank c = false) (cs : List Char) :
    wordsOf (w ++ c :: cs) = w :: wordsOf cs := by
  rw [wordsOf, List.splitOnP_append_cons_of_forall_mem hw c hc, List.filter_cons_of_pos, wordsOf]
  simpa using hne

/-- A text without blanks is one word, if it is not empty. -/
theorem wordsOf_of_not_blank {w : List Char} (hne : w ≠ [])
    (hw : ∀ c ∈ w, isBlank c = false) : wordsOf w = [w] := by
  rw [wordsOf, List.splitOnP_eq_singleton hw, List.filter_cons_of_pos, List.filter_nil]
  simpa using hne

/-! ### Lines -/

/-- A text without line feeds is one line, if it is not empty. -/
theorem lineChars_of_not_mem {cs : List Char} (h : '\n' ∉ cs) (hne : cs ≠ []) :
    lineChars cs = [cs] := by
  rw [lineChars, List.splitOn_eq_singleton h]
  simpa using hne

/-- The characters in front of the first line feed are a line, without a carriage return at their
end. -/
theorem lineChars_append_feed {cs : List Char} (h : '\n' ∉ cs) (ds : List Char) :
    lineChars (cs ++ '\n' :: ds) = dropReturn cs :: lineChars ds := by
  rw [lineChars, List.splitOn_append_cons_self_of_not_mem h, List.reverse_cons, lineChars]
  -- The last piece of the text is treated apart: it is no line if nothing is behind the last line
  -- feed.
  cases hpieces : (ds.splitOn '\n').reverse with
  | nil => exact absurd (List.reverse_eq_nil_iff.mp hpieces) (List.splitOn_ne_nil '\n' ds)
  | cons last before =>
    simp only [List.cons_append, List.reverse_append, List.reverse_cons, List.reverse_nil,
      List.nil_append, List.map_cons]
    split <;> rfl

/-- A carriage return at the end of a line is dropped. -/
theorem dropReturn_concat (cs : List Char) : dropReturn (cs ++ ['\r']) = cs := by
  simp [dropReturn]

/-- Any other line stays as it is. -/
theorem dropReturn_of_ne {cs : List Char} (h : cs.getLast? ≠ some '\r') : dropReturn cs = cs :=
  if_neg h

/-! ### Cuts at a character -/

/-- The first occurrence of a character is the one with none before it. -/
theorem splitFirstChars?_append {x : Char} {before : List Char} (h : x ∉ before)
    (after : List Char) : splitFirstChars? x (before ++ x :: after) = some (before, after) := by
  induction before with
  | nil => exact if_pos rfl
  | cons c before ih =>
    have hc : c ≠ x := fun hc => h (hc ▸ List.mem_cons_self)
    rw [List.cons_append, splitFirstChars?, if_neg hc,
      ih fun hmem => h (List.mem_cons_of_mem c hmem)]
    rfl

/-- The parts of a text that was cut at a character, with the character between them, are the text,
and the character is not in the first part. -/
theorem eq_append_of_splitFirstChars? {x : Char} {cs before after : List Char}
    (h : splitFirstChars? x cs = some (before, after)) :
    cs = before ++ x :: after ∧ x ∉ before := by
  -- The first part grows by one with every character that is not the one looked for.
  induction cs generalizing before with
  | nil => cases h
  | cons c cs ih =>
    rw [splitFirstChars?] at h
    split at h
    · rename_i hc
      cases h
      exact ⟨hc ▸ rfl, List.not_mem_nil⟩
    · rename_i hc
      rw [Option.map_eq_some_iff] at h
      obtain ⟨⟨front, back⟩, hcut, heq⟩ := h
      cases heq
      obtain ⟨rfl, hnot⟩ := ih hcut
      refine ⟨rfl, fun hmem => ?_⟩
      rcases List.mem_cons.mp hmem with heq | hmem
      · exact hc heq.symm
      · exact hnot hmem

/-- A text without the character is not cut. -/
theorem splitFirstChars?_eq_none {x : Char} {cs : List Char} (h : x ∉ cs) :
    splitFirstChars? x cs = none := by
  cases hcut : splitFirstChars? x cs with
  | none => rfl
  | some cut =>
    obtain ⟨before, after⟩ := cut
    obtain ⟨heq, -⟩ := eq_append_of_splitFirstChars? hcut
    exact absurd (heq ▸ List.mem_append_right _ List.mem_cons_self) h

/-- A text is cut at the first occurrence exactly if there is none in the text before. -/
theorem splitFirst?_eq_some_iff {x : Char} {s before after : String} :
    splitFirst? x s = some (before, after)
      ↔ s = before ++ String.singleton x ++ after ∧ x ∉ before.toList := by
  have htext : s = before ++ String.singleton x ++ after
      ↔ s.toList = before.toList ++ x :: after.toList := by
    rw [← String.toList_inj]
    simp
  rw [splitFirst?, Option.map_eq_some_iff, htext]
  constructor
  · rintro ⟨⟨front, back⟩, hcut, heq⟩
    cases heq
    simpa using eq_append_of_splitFirstChars? hcut
  · rintro ⟨heq, hnot⟩
    refine ⟨(before.toList, after.toList), ?_, by simp⟩
    rw [heq, splitFirstChars?_append hnot]

/-- The text after a start is what follows it. -/
theorem dropStart?_eq_some_iff {start s rest : String} :
    dropStart? start s = some rest ↔ s = start ++ rest := by
  rw [dropStart?, Option.map_eq_some_iff, ← String.toList_inj, String.toList_append]
  constructor
  · rintro ⟨cs, hcs, rfl⟩
    rw [String.toList_ofList, List.isPrefixOf?_eq_some_iff_append_eq.mp hcs]
  · intro heq
    refine ⟨rest.toList, List.isPrefixOf?_eq_some_iff_append_eq.mpr heq.symm, ?_⟩
    rw [String.ofList_toList]

end HttpMux.Text
