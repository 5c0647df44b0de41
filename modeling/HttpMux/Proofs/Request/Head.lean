import HttpMux.Proofs.Request.Layout
import HttpMux.Proofs.Text.Cutting
import HttpMux.Proofs.Text.Encoding
import Mathlib.Data.List.Forall2

/-!
# `HttpMux.Proofs.Request.Head`: the head of a message as text

The reader decodes the head and cuts the text into lines. The layout cuts the bytes into lines
first. The lines are the same.

* `exists_lineChars_eq`: the lines of a text that begins with given lines in bytes.
* `Layout.reads_head`: the text of the head has the lines in front of the first empty one.
* `Layout.exists_reads_head`: so it has in a mixed message, and behind them nothing that the reader
  takes for a header.
* `Layout.exists_head`: where the lines are texts, the head is a text.

A carriage return may stand behind the last line: the one of its line end, where the empty line is
a line feed alone.
-/

set_option autoImplicit false

namespace HttpMux.Request

open Text Bytes

/-- The same line, or with a carriage return behind it. -/
def SameLine (line read : List Char) : Prop := read = line ∨ read = line ++ ['\r']

/-- Lines of which none is read as a header: there are none, the first one is empty, or a carriage
return stands alone. -/
inductive Spent : List (List Char) → Prop
  | none : Spent []
  | empty (ls : List (List Char)) : Spent ([] :: ls)
  | lone : Spent [['\r']]

/-- Only an empty text has no bytes. -/
theorem ofChars_eq_nil {cs : List Char} (h : ofChars cs = []) : cs = [] := ofChars_injective h

/-- A text whose bytes are without line feeds has no line feed. -/
theorem feed_not_mem {cs : List Char} (h : 0x0A ∉ ofChars cs) : '\n' ∉ cs :=
  fun hmem => h ((mem_ofChars_iff (c := '\n') (by decide)).mpr hmem)

/-- Bytes of a text are cut at a line feed where the text is. -/
theorem exists_of_ofChars_feed {cs : List Char} {xs ys : Bytes}
    (h : ofChars cs = xs ++ 0x0A :: ys) :
    ∃ before after, cs = before ++ '\n' :: after ∧ ofChars before = xs ∧ ofChars after = ys :=
  exists_of_ofChars_eq (c := '\n') (by decide) h

/-- Bytes of a text that end in a carriage return are those of a text that does. -/
theorem exists_of_ofChars_return {cs : List Char} {xs : Bytes} (h : ofChars cs = xs ++ [0x0D]) :
    ∃ before, cs = before ++ ['\r'] ∧ ofChars before = xs := by
  obtain ⟨before, after, rfl, hbefore, hafter⟩ :=
    exists_of_ofChars_eq (c := '\r') (by decide) h
  rw [ofChars_eq_nil hafter]
  exact ⟨before, rfl, hbefore⟩

/-- The first line of a text that begins with a line in bytes. -/
theorem exists_lineChars_cons {k : Line} (hk : k.Valid) {cs : List Char} {xs : Bytes}
    (h : ofChars cs = k.bytes ++ xs) :
    ∃ line ds, ofChars line = k.content ∧ ofChars ds = xs
      ∧ lineChars cs = line :: lineChars ds := by
  obtain ⟨content, ending⟩ := k
  have hfeed : 0x0A ∉ content := hk.noFeed
  cases ending with
  | feed =>
    rw [Line.bytes, List.append_assoc] at h
    obtain ⟨line, ds, rfl, hline, hds⟩ := exists_of_ofChars_feed h
    refine ⟨line, ds, hline, hds, ?_⟩
    -- A carriage return at the end would belong to the line end.
    have hlast : line.getLast? ≠ some '\r' := by
      intro hlast
      obtain ⟨front, rfl⟩ := List.getLast?_eq_some_iff.mp hlast
      rw [ofChars_append] at hline
      exact hk.noReturn rfl (by rw [← hline, List.getLast?_append]; rfl)
    rw [lineChars_append_feed (feed_not_mem (hline ▸ hfeed)), dropReturn_of_ne hlast]
  | returnFeed =>
    have h : ofChars cs = (content ++ [0x0D]) ++ 0x0A :: xs := by
      rw [h, Line.bytes]
      simp [LineEnd.bytes]
    -- The text is cut at the line feed, and the carriage return is dropped from the piece in front.
    obtain ⟨before, ds, rfl, hbefore, hds⟩ := exists_of_ofChars_feed h
    have hnot : '\n' ∉ before := feed_not_mem (by simp [hbefore, hfeed])
    obtain ⟨line, rfl, hline⟩ := exists_of_ofChars_return hbefore
    exact ⟨line, ds, hline, hds, by rw [lineChars_append_feed hnot, dropReturn_concat]⟩

/-- A text that begins with lines in bytes has these lines, and then those of what follows. -/
theorem exists_lineChars_eq {ks : List Line} (hks : ∀ k ∈ ks, k.Valid) {cs : List Char}
    {xs : Bytes} (h : ofChars cs = ks.flatMap Line.bytes ++ xs) :
    ∃ texts ds, texts.map ofChars = ks.map Line.content ∧ ofChars ds = xs
      ∧ lineChars cs = texts ++ lineChars ds := by
  -- Line by line: what is left of the text begins with the lines that are left.
  induction ks generalizing cs with
  | nil => exact ⟨[], cs, rfl, h, rfl⟩
  | cons k ks ih =>
    rw [List.flatMap_cons, List.append_assoc] at h
    obtain ⟨line, es, hline, hes, hlines⟩ := exists_lineChars_cons (hks k List.mem_cons_self) h
    obtain ⟨texts, ds, htexts, hds, hrest⟩ :=
      ih (fun k hk => hks k (List.mem_cons_of_mem _ hk)) hes
    refine ⟨line :: texts, ds, ?_, hds, ?_⟩
    · rw [List.map_cons, List.map_cons, hline, htexts]
    · rw [hlines, hrest, List.cons_append]

/-- Nothing at the front of an empty line is read as a header. -/
theorem spent_of_prefix {ds : List Char} {ending : LineEnd} {rest : Bytes}
    (h : ofChars ds <+: ending.bytes ++ rest) : Spent (lineChars ds) := by
  obtain ⟨ys, hys⟩ := h
  -- How much of the empty line is in front: nothing, its line feed, or its carriage return with or
  -- without the line feed.
  cases hds : ofChars ds with
  | nil =>
    rw [ofChars_eq_nil hds]
    exact .none
  | cons b xs =>
    rw [hds] at hys
    cases ending with
    | feed =>
      obtain ⟨rfl, -⟩ := List.cons.inj hys
      obtain ⟨before, after, rfl, hbefore, -⟩ :=
        exists_of_ofChars_feed (show _ = [] ++ 0x0A :: xs from hds)
      rw [lineChars_append_feed (by simp [ofChars_eq_nil hbefore]), ofChars_eq_nil hbefore]
      exact .empty _
    | returnFeed =>
      obtain ⟨rfl, hxs⟩ := List.cons.inj hys
      cases xs with
      | nil =>
        -- Only the carriage return of the empty line is in the head.
        obtain ⟨before, rfl, hbefore⟩ := exists_of_ofChars_return (show _ = [] ++ [0x0D] from hds)
        rw [ofChars_eq_nil hbefore]
        exact .lone
      | cons c xs =>
        obtain ⟨rfl, -⟩ := List.cons.inj hxs
        obtain ⟨before, after, rfl, hbefore, -⟩ :=
          exists_of_ofChars_feed (show _ = [0x0D] ++ 0x0A :: _ from hds)
        obtain ⟨front, rfl, hfront⟩ := exists_of_ofChars_return (show _ = [] ++ [0x0D] from hbefore)
        rw [lineChars_append_feed (by simp [ofChars_eq_nil hfront]), ofChars_eq_nil hfront]
        exact .empty _

/-- The lines of a text are those in front of the first empty line of the layout, and then some
more. -/
def Layout.Reads (l : Layout) (cs : List Char) (extra : List (List Char)) : Prop :=
  ∃ texts lines, texts.map ofChars = l.contents ∧ List.Forall₂ SameLine texts lines
    ∧ lineChars cs = lines ++ extra

namespace Layout

variable {l : Layout} {cs : List Char}

/-- Every line is the same as itself. -/
theorem sameLine_self (texts : List (List Char)) : List.Forall₂ SameLine texts texts :=
  List.forall₂_same.mpr fun _ _ => .inl rfl

/-- Where the head goes on into the empty line, nothing more is read. -/
theorem reads_into_blank (hl : l.Valid) {ending : LineEnd} {rest xs : Bytes}
    (hremainder : l.remainder = .blank ending rest)
    (h : ofChars cs = l.lines.flatMap Line.bytes ++ xs) (hxs : xs <+: l.remainder.bytes) :
    ∃ extra, Spent extra ∧ l.Reads cs extra := by
  obtain ⟨texts, ds, htexts, rfl, hlines⟩ :=
    exists_lineChars_eq (fun k hk => (hl.lines k hk).1) h
  rw [hremainder] at hxs
  refine ⟨lineChars ds, spent_of_prefix hxs, texts, texts, ?_, sameLine_self texts, hlines⟩
  rw [htexts, contents, hremainder, Remainder.lastLine, List.append_nil]

/-- Without an empty line, every line is read. -/
theorem reads_unended (hl : l.Valid) {last : Bytes} (hremainder : l.remainder = .unended last)
    (h : ofChars cs = l.bytes) : l.Reads cs [] := by
  rw [bytes, hremainder] at h
  obtain ⟨texts, ds, htexts, hds, hlines⟩ :=
    exists_lineChars_eq (fun k hk => (hl.lines k hk).1) h
  have hnot : '\n' ∉ ds := feed_not_mem (hds ▸ hl.last last hremainder)
  rw [Reads, contents, hremainder]
  -- A piece without a line end is a line of its own, unless it is empty.
  by_cases hempty : ds = []
  · subst hempty
    obtain rfl : [] = last := hds
    exact ⟨texts, texts, by simp [htexts, Remainder.lastLine], sameLine_self texts, hlines⟩
  · have hne : last ≠ [] := fun h => hempty (ofChars_eq_nil (hds.trans h))
    refine ⟨texts ++ [ds], texts ++ [ds], ?_, sameLine_self _, ?_⟩
    · rw [List.map_append, htexts, Remainder.lastLine, if_neg hne, List.map_singleton, hds]
      rfl
    · rw [hlines, lineChars_of_not_mem hnot hempty, List.append_nil]

/-- In front of an empty line that the reader sees, every line is read, the last one without its
line end or without the line feed of it. -/
theorem reads_before_blank (hl : l.Valid) {ks : List Line} {k : Line} {ending : LineEnd}
    {rest : Bytes} (hks : l.lines = ks ++ [k]) (hremainder : l.remainder = .blank ending rest)
    (h : ofChars cs = ks.flatMap Line.bytes
      ++ (k.content ++ if k.ending = ending then [] else [0x0D])) : l.Reads cs [] := by
  have hvalid := hks ▸ hl.lines
  have hk := hvalid k (List.mem_append_right _ (List.mem_singleton.mpr rfl))
  obtain ⟨texts, ds, htexts, hds, hlines⟩ :=
    exists_lineChars_eq (fun k hk => (hvalid k (List.mem_append_left _ hk)).1) h
  -- What is read for the last line is the line, with or without a carriage return.
  obtain ⟨line, hline, hread⟩ : ∃ line, ofChars line = k.content ∧ SameLine line ds := by
    split at hds
    · exact ⟨ds, by rw [hds, List.append_nil], .inl rfl⟩
    · obtain ⟨line, rfl, hline⟩ := exists_of_ofChars_return hds
      exact ⟨line, hline, .inr rfl⟩
  have hne : ds ≠ [] := by
    rintro rfl
    rcases hread with hread | hread
    · exact hk.2 (by rw [← hline, ← hread]; rfl)
    · simp at hread
  have hnot : '\n' ∉ ds := by
    have hnot : '\n' ∉ line := feed_not_mem (hline ▸ hk.1.noFeed)
    rcases hread with rfl | rfl
    · exact hnot
    · simp [hnot]
  refine ⟨texts ++ [line], texts ++ [ds], ?_, ?_, ?_⟩
  · rw [List.map_append, htexts, List.map_singleton, hline, contents, hremainder, hks]
    simp [Remainder.lastLine]
  · exact List.rel_append (sameLine_self texts) (.cons hread .nil)
  · rw [hlines, lineChars_of_not_mem hnot hne, List.append_nil]

/-- The head of a message that is not mixed has the lines in front of the first empty one. -/
theorem reads_head (hl : l.Valid) (hnot : ¬ l.Mixed) (hne : l.contents ≠ [])
    (h : ofChars cs = (splitHead l.bytes).1) : l.Reads cs [] := by
  rcases splitHead_cases hl hnot hne with
    ⟨last, hremainder, hsplit⟩ | ⟨ks, k, ending, rest, hks, hremainder, hsplit⟩
  · rw [hsplit] at h
    exact reads_unended hl hremainder h
  · rw [hsplit] at h
    exact reads_before_blank hl hks hremainder h

/-- The head of every message has the lines in front of the first empty one, and behind them
nothing that is read as a header. -/
theorem exists_reads_head (hl : l.Valid) (h : ofChars cs = (splitHead l.bytes).1) :
    ∃ extra, Spent extra ∧ l.Reads cs extra := by
  -- A mixed message is read past its first empty line; any other one is read up to it.
  by_cases hmixed : l.Mixed
  · obtain ⟨rest, hremainder⟩ := Remainder.eq_blank_of_ending? hmixed.2
    rw [splitHead_mixed hl hmixed] at h
    exact reads_into_blank hl hremainder h (splitHead_isFront _)
  · by_cases hne : l.contents = []
    · have hnil : l.lines = [] := List.map_eq_nil_iff.mp (List.append_eq_nil_iff.mp hne).1
      have hbytes : l.bytes = l.remainder.bytes := by
        rw [bytes, hnil]
        rfl
      cases hremainder : l.remainder with
      | unended last =>
        rw [splitHead_unended hl hremainder] at h
        exact ⟨[], .none, reads_unended hl hremainder h⟩
      | blank ending rest =>
        rw [hbytes] at h
        exact reads_into_blank hl hremainder (by rw [h, hnil]; rfl) (splitHead_isFront _)
    · exact ⟨[], .none, reads_head hl hmixed hne h⟩

/-- Lines that are texts, each with its line end, are a text together. -/
theorem exists_ofChars_lines {ks : List Line}
    (h : ∀ k ∈ ks, ∃ line, ofChars line = k.content) :
    ∃ cs, ofChars cs = ks.flatMap Line.bytes := by
  induction ks with
  | nil => exact ⟨[], rfl⟩
  | cons k ks ih =>
    obtain ⟨line, hline⟩ := h k List.mem_cons_self
    obtain ⟨cs, hcs⟩ := ih fun k hk => h k (List.mem_cons_of_mem _ hk)
    refine ⟨line ++ k.ending.text.toList ++ cs, ?_⟩
    rw [ofChars_append, ofChars_append, ← ofText_eq, LineEnd.ofText_text, hline, hcs,
      List.flatMap_cons, Line.bytes]

/-- Where the lines are texts, the head of a message that is not mixed is a text. -/
theorem exists_head (hl : l.Valid) (hnot : ¬ l.Mixed) (hne : l.contents ≠ [])
    (h : ∀ content ∈ l.contents, ∃ line, ofChars line = content) :
    ∃ cs, ofChars cs = (splitHead l.bytes).1 := by
  have hlines : ∀ k ∈ l.lines, ∃ line, ofChars line = k.content := fun k hk =>
    h k.content (List.mem_append_left _ (List.mem_map_of_mem hk))
  rcases splitHead_cases hl hnot hne with
    ⟨last, hremainder, hsplit⟩ | ⟨ks, k, ending, rest, hks, hremainder, hsplit⟩
  · -- Without an empty line the head is the whole message, and the last line may be empty.
    obtain ⟨cs, hcs⟩ := exists_ofChars_lines hlines
    obtain ⟨ds, hds⟩ : ∃ ds, ofChars ds = last := by
      by_cases hempty : last = []
      · exact ⟨[], hempty ▸ rfl⟩
      · refine h last (List.mem_append_right _ ?_)
        rw [hremainder, Remainder.lastLine, if_neg hempty]
        exact List.mem_singleton.mpr rfl
    refine ⟨cs ++ ds, ?_⟩
    rw [hsplit, ofChars_append, hcs, hds, bytes, hremainder]
    rfl
  · rw [hks] at hlines
    obtain ⟨cs, hcs⟩ := exists_ofChars_lines fun k hk => hlines k (List.mem_append_left _ hk)
    obtain ⟨line, hline⟩ := hlines k (List.mem_append_right _ (List.mem_singleton.mpr rfl))
    refine ⟨cs ++ (line ++ if k.ending = ending then [] else ['\r']), ?_⟩
    rw [hsplit, ofChars_append, ofChars_append, hcs, hline]
    split <;> rfl

end Layout

end HttpMux.Request
