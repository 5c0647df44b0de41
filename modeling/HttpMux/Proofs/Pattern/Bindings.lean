import HttpMux.Proofs.Dict
import HttpMux.Proofs.Pattern.Filling
import Mathlib.Data.List.Forall2
import Mathlib.Data.List.Nodup

/-!
# `HttpMux.Proofs.Pattern.Bindings`: what a matching path binds

A matching path binds the name of every placeholder to the value that stands in its place, and the
asterisk at the end of a pattern to the rest. The reader refuses a pattern in which two placeholders
have the same name. It does not refuse a placeholder that is named like the asterisk. In a pattern
with an asterisk at its end, both are then bound under one key, and the asterisk, which is bound
last, wins.

* `Placeholder.bindings`: a binding for each placeholder, and one for the asterisk.
* `Placeholder.Overwrites`: the asterisk takes the binding of a placeholder.
* `Placeholder.nodup_names`: no two placeholders have the same name.
* `Placeholder.perm_bound`: what is bound, for values that come in any way.
* `Placeholder.bindings_of_match`: what a matching path binds. Nothing is lost but the one binding
  that the asterisk overwrites.
-/

set_option autoImplicit false

namespace HttpMux.Placeholder

open Bytes (ofText)

/-- Each name with its value, and the asterisk with the rest if there is one in the pattern. -/
def bindings (p : Placeholder) (values : List String) (rest : String) : List (String × String) :=
  p.names.zip values ++ if p.openEnded then [(Context.restParam, rest)] else []

/-- The pattern has an asterisk at its end and a placeholder of the same name. -/
def Overwrites (p : Placeholder) : Prop := p.openEnded = true ∧ Context.restParam ∈ p.names

/-- No two placeholders have the same name. -/
theorem nodup_names {raw : String} {p : Placeholder} (h : parse raw = .ok p) : p.names.Nodup := by
  obtain ⟨-, -, -, hruns, -⟩ := of_parse h
  have hbytes : (p.names.map ofText).Nodup := by
    rw [names, List.map_map]
    exact hruns ▸ ((exists_parse_iff raw).mp ⟨p, h⟩).2
  exact List.Nodup.of_map ofText hbytes

/-- There is one value for each name. -/
theorem Admits.length_values {p : Placeholder} {values : List String} {rest : String}
    (h : p.Admits values rest) : values.length = p.names.length := by
  rw [names, List.length_map]
  exact h.values.length_eq.symm

/-- What the parameters of a placeholder pattern are bound to is sorted by name. -/
theorem sorted_of_match? {p : Placeholder} {path : String} {captured : Dict String}
    (h : p.match? path = some captured) : captured.Sorted := by
  rw [match?, Option.map_eq_some_iff] at h
  obtain ⟨spans, -, rfl⟩ := h
  simp only
  split
  · exact (Dict.sorted_ofList _).insert _ _
  · exact Dict.sorted_ofList _

variable {p : Placeholder} {values : List String}

/-- Each name stands once in front of the values. -/
theorem map_fst_zip_names (hvalues : values.length = p.names.length) :
    (p.names.zip values).map Prod.fst = p.names :=
  List.map_fst_zip hvalues.ge

/-- What is bound: each name with its value, and the asterisk in place of a placeholder of the same
name. -/
theorem perm_bound (hnames : p.names.Nodup) (hvalues : values.length = p.names.length)
    (rest : String) :
    (p.bound values rest).entries.Perm
      (if p.openEnded then
        (Context.restParam, rest) :: (p.names.zip values).filter (·.1 ≠ Context.restParam)
      else p.names.zip values) := by
  have hkeys : (p.names.zip values).Pairwise (·.1 ≠ ·.1) := by
    rw [← map_fst_zip_names hvalues] at hnames
    exact List.pairwise_map.mp hnames
  have hnamed := Dict.perm_ofList hkeys
  rw [bound]
  split
  · exact ((Dict.sorted_ofList _).perm_insert _ _).trans ((hnamed.filter _).cons _)
  · exact hnamed

/-- Without the name of the asterisk there is one placeholder less. -/
theorem length_filter_names (hnames : p.names.Nodup) (hvalues : values.length = p.names.length)
    (hmem : Context.restParam ∈ p.names) :
    ((p.names.zip values).filter (·.1 ≠ Context.restParam)).length + 1 = p.names.length := by
  have hfst : ((p.names.zip values).filter (·.1 ≠ Context.restParam)).map Prod.fst
      = p.names.erase Context.restParam := by
    rw [hnames.erase_eq_filter]
    conv => rhs; rw [← map_fst_zip_names hvalues]
    rw [List.filter_map]
    congr 1
    exact List.filter_congr fun e _ => by
      rw [Function.comp_apply, bne, decide_not, Bool.beq_eq_decide_eq]
  rw [← List.length_map Prod.fst, hfst, List.length_erase_of_mem hmem]
  exact Nat.sub_add_cancel (List.length_pos_of_mem hmem)

/-- Take a pattern and a path that it matches. The path is the pattern with values in place of its
names and a rest behind it, and these are what is captured. Unless the pattern has both an asterisk
at its end and a placeholder of that name, there is exactly one binding for each placeholder, of its
name to its value, and one more of the asterisk to the rest if the pattern ends in one. Otherwise
exactly one binding is lost, that of the placeholder which is named like the asterisk. -/
theorem bindings_of_match {raw : String} {p : Placeholder} (hp : parse raw = .ok p) {path : String}
    {params : Dict String} (h : p.match? path = some params) :
    ∃ values tail, path = p.fill values tail ∧ p.Admits values tail
      ∧ let rest := keptRest p.openEnded p.last tail
        let bindings := p.bindings values rest
        p.captured? path = some (values, rest)
          ∧ bindings.length = p.names.length + (if p.openEnded then 1 else 0)
          ∧ (¬ p.Overwrites →
              params.entries.Perm bindings ∧ ∀ e ∈ bindings, params.get? e.1 = some e.2)
          ∧ (p.Overwrites →
              params.entries.Perm
                  ((Context.restParam, rest)
                    :: (p.names.zip values).filter (·.1 ≠ Context.restParam))
                ∧ params.size + 1 = bindings.length) := by
  obtain ⟨-, -, -, -, hchained⟩ := of_parse hp
  have hnames := nodup_names hp
  have haccepts : p.accepts path := by
    rw [match?, Option.map_eq_some_iff] at h
    obtain ⟨c, hc, -⟩ := h
    exact Option.isSome_iff_exists.mpr ⟨c, hc⟩
  obtain ⟨values, tail, hpath, hadmits⟩ := exists_fill_of_accepts hchained haccepts
  refine ⟨values, tail, hpath, hadmits, ?_⟩
  intro rest bindings
  have hvalues := hadmits.length_values
  have hcaptured : p.captured? path = some (values, rest) := by
    rw [hpath]
    exact captured?_fill hchained hadmits
  have hparams : params = p.bound values rest := by
    rw [match?_eq, hcaptured, Option.map_some] at h
    exact (Option.some.inj h).symm
  have hsorted : params.Sorted := sorted_of_match? h
  have hperm := perm_bound hnames hvalues rest
  rw [← hparams] at hperm
  have hlength : bindings.length = p.names.length + (if p.openEnded then 1 else 0) := by
    show (p.bindings values rest).length = _
    rw [Placeholder.bindings, List.length_append, List.length_zip, hvalues, Nat.min_self]
    split <;> rfl
  refine ⟨hcaptured, hlength, fun hkept => ?_, fun hover => ?_⟩
  · have hall : params.entries.Perm bindings := by
      refine hperm.trans ?_
      show List.Perm _ (p.bindings values rest)
      rw [Placeholder.bindings]
      split
      · rename_i hopen
        -- No placeholder has the name of the asterisk, so none is left out.
        have hfilter : (p.names.zip values).filter (·.1 ≠ Context.restParam)
            = p.names.zip values := by
          refine List.filter_eq_self.mpr fun e he => decide_eq_true fun heq => hkept ⟨hopen, ?_⟩
          rw [← heq, ← map_fst_zip_names hvalues]
          exact List.mem_map_of_mem he
        rw [hfilter]
        exact (List.perm_append_singleton _ _).symm
      · rw [List.append_nil]
    exact ⟨hall, fun e he => hsorted.get?_eq_some_iff.mpr (hall.mem_iff.mpr he)⟩
  · -- The asterisk has replaced the binding of that placeholder, so there is one binding less.
    rw [if_pos hover.1] at hperm
    refine ⟨hperm, ?_⟩
    rw [hlength, if_pos hover.1, Dict.size, hperm.length_eq, List.length_cons,
      length_filter_names hnames hvalues hover.2]

/-- Two placeholders and the asterisk are bound, each to its own part of the path. -/
theorem bindings_of_openSample :
    let params : Dict String := ⟨[("*", "/é/"), ("b", "z"), ("é", "x y")]⟩
    parse "/a/:é.:b*" = .ok openSample ∧ openSample.match? "/a/x y.z/é/" = some params
      ∧ ∃ values rest, params.entries.Perm (openSample.bindings values rest) := by
  intro params
  have hparse : parse "/a/:é.:b*" = .ok openSample := by decide +kernel
  have hmatch : openSample.match? "/a/x y.z/é/" = some params := by with_unfolding_all rfl
  obtain ⟨values, tail, -, -, -, -, hkept, -⟩ := bindings_of_match hparse hmatch
  exact ⟨hparse, hmatch, values, _, (hkept fun hover => absurd hover.2 (by decide)).1⟩

/-- A placeholder that is named like the asterisk. -/
def asteriskSample : Placeholder := ⟨"/:*/*", [⟨"/", "*", slash⟩], "/", true⟩

/-- Of the placeholder that is named like the asterisk, the value is captured but not bound. -/
theorem binding_lost_asteriskSample :
    ∃ params, parse "/:*/*" = .ok asteriskSample ∧ asteriskSample.match? "/a/b" = some params
      ∧ asteriskSample.captured? "/a/b" = some (["a"], "/b")
      ∧ asteriskSample.bindings ["a"] "/b" = [("*", "a"), ("*", "/b")]
      ∧ params.entries = [("*", "/b")]
      ∧ ¬ params.entries.Perm (asteriskSample.bindings ["a"] "/b") := by
  refine ⟨⟨[("*", "/b")]⟩, by decide +kernel, by with_unfolding_all rfl, by decide +kernel, rfl,
    rfl, ?_⟩
  exact fun hperm => absurd hperm.length_eq (by decide)

end HttpMux.Placeholder
