import HttpMux.Layers.Caching
import HttpMux.Proofs.Text.Cutting
import Mathlib.Data.List.Infix

/-!
# `HttpMux.Proofs.Layers.TagList`: lists of entity tags

A client lists the tags that it has, each in double quotes, with commas between them. A tag may hold
every visible character but a double quote, so it may hold commas. The list is cut at every comma,
whether it stands between quotes or not. A tag with commas therefore comes in pieces. None of its
pieces can be taken for another tag, because a tag has two quotes in it and a piece has one or none.
But a piece can be an asterisk, which stands for all tags.

* `TagEntry` and `TagEntry.list`: entries of a list, and how they are written.
* `meansTag_trim_iff`: when a piece stands for a tag.
* `TagEntry.any_meansTag_iff`: when one of the pieces of an entry does.
* `any_meansTag_list_iff`: when one of the pieces of a list does.
-/

set_option autoImplicit false

namespace HttpMux

/-! ### Trimming characters -/

namespace Text

/-- Dropping blanks from the front leaves as many of another character. -/
theorem count_dropWhile {c : Char} (hc : isBlank c = false) (cs : List Char) :
    (cs.dropWhile isBlank).count c = cs.count c := by
  have hnone : (cs.takeWhile isBlank).count c = 0 := by
    refine List.count_eq_zero_of_not_mem fun hmem => ?_
    rw [List.mem_takeWhile_imp hmem] at hc
    cases hc
  have hsplit := congrArg (List.count c) (List.takeWhile_append_dropWhile (p := isBlank) (l := cs))
  rw [List.count_append, hnone] at hsplit
  omega

/-- Trimming drops nothing but blanks. -/
theorem count_trimChars {c : Char} (hc : isBlank c = false) (cs : List Char) :
    (trimChars cs).count c = cs.count c := by
  rw [trimChars, List.count_reverse, count_dropWhile hc, List.count_reverse, count_dropWhile hc]

/-- Trimming leaves a text alone that has no blank at either end. -/
theorem trimChars_eq_self {cs : List Char} (hfront : ∀ c ∈ cs.head?, isBlank c = false)
    (hback : ∀ c ∈ cs.getLast?, isBlank c = false) : trimChars cs = cs := by
  have htrimmed : Trimmed (String.ofList cs) := by
    constructor
    · simpa using hfront
    · simpa using hback
  have htrim := trim_eq_self htrimmed
  rw [trim, String.toList_ofList] at htrim
  exact String.ofList_injective htrim

/-- Trimming leaves a text alone that has no blank at all. -/
theorem trimChars_of_not_blank {cs : List Char} (h : ∀ c ∈ cs, isBlank c = false) :
    trimChars cs = cs :=
  trimChars_eq_self (fun c hc => h c (List.mem_of_mem_head? hc))
    fun c hc => h c (List.mem_of_getLast? hc)

/-- Blanks around a text are dropped. -/
theorem trimChars_between_blanks {before after : List Char}
    (hbefore : ∀ c ∈ before, isBlank c = true) (hafter : ∀ c ∈ after, isBlank c = true)
    (cs : List Char) : trimChars (before ++ cs ++ after) = trimChars cs := by
  -- The blanks behind are dropped from the end, one by one, then those in front from the beginning.
  have hback : trimChars (before ++ cs ++ after) = trimChars (before ++ cs) := by
    induction after using List.reverseRecOn with
    | nil => rw [List.append_nil]
    | append_singleton after c ih =>
      rw [← List.append_assoc, trimChars_concat_blank (hafter c (by simp))]
      exact ih fun c hc => hafter c (by simp [hc])
  rw [hback]
  clear hback
  induction before with
  | nil => rfl
  | cons c before ih =>
    rw [List.cons_append, trimChars_cons_blank (hbefore c List.mem_cons_self)]
    exact ih fun c hc => hbefore c (List.mem_cons_of_mem _ hc)

end Text

namespace Layers

open Text

/-! ### Lists of tags -/

/-- An entry of a list of tags: what stands between its quotes, the mark of a weak tag in front of
them, and blanks around. -/
structure TagEntry where
  before : List Char
  weak : Bool
  text : List Char
  after : List Char

namespace TagEntry

/-- The mark in front of the quotes. -/
def mark (e : TagEntry) : List Char := if e.weak then ['W', '/'] else []

/-- The text in its quotes. -/
def quoted (e : TagEntry) : List Char := '"' :: (e.text ++ ['"'])

/-- How the entry is written. -/
def chars (e : TagEntry) : List Char := e.before ++ (e.mark ++ e.quoted) ++ e.after

/-- The text has no double quotes and no blanks in it, and there are only blanks around. -/
structure Valid (e : TagEntry) : Prop where
  before : ∀ c ∈ e.before, isBlank c = true
  text : ∀ c ∈ e.text, c ≠ '"' ∧ isBlank c = false
  after : ∀ c ∈ e.after, isBlank c = true

/-- Whether an entry is valid can be tested character by character. -/
theorem valid_iff {e : TagEntry} : e.Valid
    ↔ e.before.all isBlank ∧ (e.text.all fun c => c ≠ '"' && !isBlank c) ∧ e.after.all isBlank := by
  constructor
  · intro he
    exact ⟨by simpa using he.before, by simpa using he.text, by simpa using he.after⟩
  · rintro ⟨hbefore, htext, hafter⟩
    exact ⟨by simpa using hbefore, by simpa using htext, by simpa using hafter⟩

instance (e : TagEntry) : Decidable e.Valid := decidable_of_iff _ valid_iff.symm

/-- Whether there is an asterisk between two commas in the text. -/
def HidesAsterisk (e : TagEntry) : Prop := [',', '*', ','] <:+: e.text

instance (e : TagEntry) : Decidable e.HidesAsterisk := inferInstanceAs (Decidable (_ <:+: _))

/-- How a list is written: its entries with commas between them. -/
def list (es : List TagEntry) : String := String.ofList ([','].intercalate (es.map chars))

end TagEntry

/-! ### Pieces that stand for a tag -/

/-- Marks of a weak tag are all that is left out. -/
theorem count_withoutWeakMarks {c : Char} (hmark : c ≠ 'W') (hmark' : c ≠ '/') (cs : List Char) :
    (withoutWeakMarks cs).count c = cs.count c := by
  fun_induction withoutWeakMarks cs with
  | case1 cs ih => rw [ih, List.count_cons_of_ne hmark.symm, List.count_cons_of_ne hmark'.symm]
  | case2 cs => rfl

/-- A tag has two quotes and no comma in it. -/
structure IsTag (tag : String) : Prop where
  quotes : tag.toList.count '"' = 2
  noComma : ',' ∉ tag.toList

variable {tag : String} {piece : List Char}

/-- A piece of a list stands for a tag if it is an asterisk, or the tag with marks in front. -/
theorem meansTag_trim_iff : meansTag tag (trim (String.ofList piece)) = true
    ↔ trimChars piece = ['*'] ∨ withoutWeakMarks (trimChars piece) = tag.toList := by
  have hasterisk : trim (String.ofList piece) = "*" ↔ trimChars piece = ['*'] := by
    rw [trim, String.toList_ofList, ← String.toList_inj, String.toList_ofList]
    rfl
  have htag : String.ofList (withoutWeakMarks (trim (String.ofList piece)).toList) = tag
      ↔ withoutWeakMarks (trimChars piece) = tag.toList := by
    rw [trim, String.toList_ofList, String.toList_ofList, ← String.toList_inj,
      String.toList_ofList]
  rw [meansTag, Bool.or_eq_true, decide_eq_true_iff, decide_eq_true_iff, hasterisk, htag]

/-- A piece with another number of quotes can only be an asterisk. -/
theorem meansTag_trim_iff_of_count (htag : IsTag tag) (hcount : piece.count '"' ≠ 2) :
    meansTag tag (trim (String.ofList piece)) = true ↔ trimChars piece = ['*'] := by
  rw [meansTag_trim_iff, or_iff_left]
  intro heq
  -- Neither trimming nor dropping marks changes the number of quotes, and a tag has two.
  have hquotes := congrArg (List.count '"') heq
  rw [count_withoutWeakMarks (by decide) (by decide), count_trimChars (by decide), htag.quotes]
    at hquotes
  exact hcount hquotes

/-- A piece with one quote stands for no tag. -/
theorem not_meansTag_of_count (htag : IsTag tag) (hcount : piece.count '"' = 1) :
    meansTag tag (trim (String.ofList piece)) = false := by
  rw [Bool.eq_false_iff, Ne, meansTag_trim_iff_of_count htag (by omega)]
  intro heq
  have hquotes := congrArg (List.count '"') heq
  rw [count_trimChars (by decide), hcount] at hquotes
  cases hquotes

/-! ### Asterisks between commas -/

/-- An asterisk between commas begins at the first comma or behind it. -/
theorem infix_skip {front rest : List Char} (hfront : ',' ∉ front) :
    [',', '*', ','] <:+: front ++ ',' :: rest ↔ [',', '*', ','] <:+: ',' :: rest := by
  induction front with
  | nil => rfl
  | cons c front ih =>
    rw [List.mem_cons, not_or] at hfront
    rw [List.cons_append, List.infix_cons_iff, ih hfront.2, or_iff_right]
    intro hprefix
    exact hfront.1 (List.cons_prefix_cons.mp hprefix).1

/-- Between two commas there is an asterisk right behind the first one, or further back. -/
theorem infix_comma {front rest : List Char} (hfront : ',' ∉ front) :
    [',', '*', ','] <:+: ',' :: (front ++ ',' :: rest)
      ↔ front = ['*'] ∨ [',', '*', ','] <:+: ',' :: rest := by
  rw [List.infix_cons_iff, infix_skip hfront, List.cons_prefix_cons]
  refine or_congr_left ?_
  match front with
  | [] => simp
  | [c] => simp [eq_comm]
  | c :: d :: front =>
    have hd : ',' ≠ d := by
      rintro rfl
      exact hfront (by simp)
    simp [List.cons_prefix_cons, hd]

/-- With one comma there is no asterisk between two. -/
theorem not_infix_of_not_mem {cs : List Char} (h : ',' ∉ cs) :
    ¬ [',', '*', ','] <:+: ',' :: cs := by
  intro hbetween
  have hone : (',' :: cs).count ',' = 1 := by
    rw [List.count_cons_self, List.count_eq_zero_of_not_mem h]
  have htwo : [',', '*', ','].count ',' = 2 := by decide
  have hcount := hbetween.sublist.count_le ','
  omega

/-! ### Pieces of entries -/

/-- A character that is no blank is not among blanks. -/
theorem not_mem_of_blank {cs : List Char} (h : ∀ c ∈ cs, isBlank c = true) {c : Char}
    (hc : isBlank c = false) : c ∉ cs := by
  intro hmem
  rw [h c hmem] at hc
  cases hc

/-- Behind a comma in a tag, the pieces up to its last one have no quotes, and the last one has the
quote at the end of the tag. -/
theorem any_meansTag_tail (htag : IsTag tag) {rest after : List Char}
    (hrest : ∀ c ∈ rest, c ≠ '"' ∧ isBlank c = false) (hafter : ∀ c ∈ after, isBlank c = true) :
    (((rest ++ '"' :: after).splitOn ',').any fun piece =>
        meansTag tag (trim (String.ofList piece))) = true
      ↔ [',', '*', ','] <:+: ',' :: rest := by
  -- Induction on the length of what is left of the tag: each comma in it cuts off a piece without
  -- quotes.
  induction hn : rest.length using Nat.strong_induction_on generalizing rest with
  | _ n ih =>
    by_cases hcomma : ',' ∈ rest
    · obtain ⟨front, back, rfl, hfront⟩ := List.eq_append_cons_of_mem hcomma
      have hfrontChars : ∀ c ∈ front, c ≠ '"' ∧ isBlank c = false :=
        fun c hc => hrest c (by simp [hc])
      have hbackChars : ∀ c ∈ back, c ≠ '"' ∧ isBlank c = false :=
        fun c hc => hrest c (by simp [hc])
      have hcount : front.count '"' = 0 :=
        List.count_eq_zero_of_not_mem fun hmem => (hfrontChars _ hmem).1 rfl
      have hshorter : back.length < n := by
        rw [List.length_append, List.length_cons] at hn
        omega
      have hback := ih back.length hshorter hbackChars rfl
      rw [List.append_assoc, List.cons_append, List.splitOn_append_cons_self_of_not_mem hfront,
        List.any_cons, Bool.or_eq_true, hback, infix_comma hfront,
        meansTag_trim_iff_of_count htag (by omega),
        trimChars_of_not_blank fun c hc => (hfrontChars c hc).2]
    · -- The last piece.
      have hafterComma : ',' ∉ after := not_mem_of_blank hafter (by decide)
      have hafterQuote : '"' ∉ after := not_mem_of_blank hafter (by decide)
      have hquote : '"' ∉ rest := fun hmem => (hrest _ hmem).1 rfl
      have hcount : (rest ++ '"' :: after).count '"' = 1 := by
        rw [List.count_append, List.count_cons_self, List.count_eq_zero_of_not_mem hquote,
          List.count_eq_zero_of_not_mem hafterQuote]
      rw [List.splitOn_eq_singleton (by simp [hcomma, hafterComma]), List.any_cons, List.any_nil,
        Bool.or_false, not_meansTag_of_count htag hcount]
      simp [not_infix_of_not_mem hcomma]

namespace TagEntry

variable {e : TagEntry}

/-- Without commas an entry is one piece. Trimmed, it is the mark and the quoted text. -/
theorem withoutWeakMarks_trimChars (he : e.Valid) :
    trimChars e.chars = e.mark ++ e.quoted ∧ withoutWeakMarks (e.mark ++ e.quoted) = e.quoted := by
  rw [chars, trimChars_between_blanks he.before he.after]
  -- Neither the first nor the last character of a tag is a blank, so blanks go only around it.
  have hlast : (e.mark ++ e.quoted).getLast? = some '"' := by
    rw [quoted, ← List.cons_append, ← List.append_assoc, List.getLast?_concat]
  have hW : isBlank 'W' = false := by decide
  have hquote : isBlank '"' = false := by decide
  refine ⟨trimChars_eq_self ?_ ?_, ?_⟩
  · rw [mark, quoted]
    cases e.weak with
    | true => simp [hW]
    | false => simp [hquote]
  · rw [hlast]
    simp [hquote]
  · rw [mark, quoted]
    cases e.weak with
    | true => simp [withoutWeakMarks]
    | false => simp [withoutWeakMarks]

/-- One of the pieces of an entry stands for a tag exactly if the entry is this tag, or has an
asterisk between commas in it. -/
theorem any_meansTag_iff (htag : IsTag tag) (he : e.Valid) :
    (e.chars.splitOn ',').any (fun piece => meansTag tag (trim (String.ofList piece))) = true
      ↔ e.quoted = tag.toList ∨ e.HidesAsterisk := by
  have hbefore : ',' ∉ e.before := not_mem_of_blank he.before (by decide)
  have hbefore' : '"' ∉ e.before := not_mem_of_blank he.before (by decide)
  have hmark : ',' ∉ e.mark ∧ '"' ∉ e.mark := by
    rw [mark]
    cases e.weak <;> decide
  -- With a comma in its text the entry comes in pieces and is not the tag. Without one it is a
  -- single piece and hides no asterisk.
  by_cases hcomma : ',' ∈ e.text
  · obtain ⟨front, rest, htext, hfront⟩ := List.eq_append_cons_of_mem hcomma
    have hquote : '"' ∉ front := by
      intro hmem
      exact (he.text '"' (by rw [htext]; simp [hmem])).1 rfl
    -- The first piece has the quote at the front of the tag.
    have hchars : e.chars
        = (e.before ++ e.mark ++ '"' :: front) ++ ',' :: (rest ++ '"' :: e.after) := by
      simp [chars, quoted, htext]
    have hfirst : ',' ∉ e.before ++ e.mark ++ '"' :: front := by
      simp [hbefore, hmark.1, hfront]
    have hcount : (e.before ++ e.mark ++ '"' :: front).count '"' = 1 := by
      rw [List.count_append, List.count_append, List.count_cons_self,
        List.count_eq_zero_of_not_mem hbefore', List.count_eq_zero_of_not_mem hmark.2,
        List.count_eq_zero_of_not_mem hquote]
    have hother : e.quoted ≠ tag.toList := by
      intro heq
      refine htag.noComma (heq ▸ ?_)
      simp [quoted, hcomma]
    rw [hchars, List.splitOn_append_cons_self_of_not_mem hfirst, List.any_cons,
      not_meansTag_of_count htag hcount, Bool.false_or,
      any_meansTag_tail htag (fun c hc => he.text c (by rw [htext]; simp [hc])) he.after,
      HidesAsterisk, htext, infix_skip hfront, or_iff_right hother]
  · have hafter : ',' ∉ e.after := not_mem_of_blank he.after (by decide)
    have hnone : ',' ∉ e.chars := by
      simp [chars, quoted, hbefore, hmark.1, hcomma, hafter]
    have hhidden : ¬ e.HidesAsterisk := fun hbetween => hcomma (hbetween.subset List.mem_cons_self)
    obtain ⟨htrim, hunmarked⟩ := withoutWeakMarks_trimChars he
    have hasterisk : e.mark ++ e.quoted ≠ ['*'] := by
      intro heq
      have hmem : '"' ∈ e.mark ++ e.quoted := by simp [quoted]
      rw [heq] at hmem
      exact absurd hmem (by decide)
    rw [List.splitOn_eq_singleton hnone, List.any_cons, List.any_nil, Bool.or_false,
      meansTag_trim_iff, htrim, hunmarked, or_iff_right hasterisk, or_iff_left hhidden]

end TagEntry

/-- One of the pieces of a list stands for a tag exactly if the list has this tag, or one with an
asterisk between commas in it. -/
theorem any_meansTag_list_iff (htag : IsTag tag) {es : List TagEntry} (hes : ∀ e ∈ es, e.Valid) :
    ((pieces ',' (TagEntry.list es)).map trim).any (meansTag tag) = true
      ↔ (∃ e ∈ es, e.quoted = tag.toList) ∨ ∃ e ∈ es, e.HidesAsterisk := by
  simp only [pieces, TagEntry.list, String.toList_ofList, List.any_map, Function.comp_def]
  -- Induction on the list: the comma between two entries is where the pieces of the first one end.
  induction es with
  | nil =>
    have hempty : meansTag tag (trim (String.ofList [])) = false := by
      rw [Bool.eq_false_iff, Ne, meansTag_trim_iff_of_count htag (by decide)]
      decide
    simp [hempty]
  | cons e es ih =>
    have he := TagEntry.any_meansTag_iff htag (hes e List.mem_cons_self)
    cases es with
    | nil => simpa using he
    | cons e' es =>
      rw [List.map_cons, List.map_cons, List.intercalate_cons_cons, ← List.map_cons,
        List.append_assoc, List.singleton_append, List.splitOn_append_cons_self, List.any_append,
        Bool.or_eq_true, he, ih fun e he => hes e (List.mem_cons_of_mem _ he)]
      simp only [List.exists_mem_cons_iff]
      exact or_or_or_comm

end Layers

end HttpMux
