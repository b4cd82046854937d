import Mathlib.Tactic.Common
import Rwl.Lib.Fitting
import Rwl.Theory.StatusMarkup

/-!
# Where the characters of the status come from

* `located`: the characters of a text with the bytes where they stand;
* `status_sources`: the characters that the markup leaves, with the bytes of the joined status where
  they stand; `keep`, as many as there is room for;
* `sources`: the characters of the parsed text with where they come from;
* `sources_text`, `sources_sublist`: they are the parsed text, and a part of the joined status;
* `sources_of_plain`: all of it, if there is no markup and the status is not too long.
-/

namespace Compositor

open ByteScan Fitting Marks

open azoth_render (Tok)

/-- The characters of a text with the bytes where they stand, from `pos` on. -/
def located (pos : ℕ) (t : Text) : List (Char × ℕ) := laid Char.utf8Size pos t

/-- The characters that the markup leaves, with the bytes where they stand. -/
def status_sources (pos : ℕ) : Text → List (Char × ℕ)
  | [] => []
  | c :: t =>
    if c = '^' then
      match t with
      | [] => []
      | d :: u =>
        if d = '^' then ('^', pos) :: status_sources (pos + 2) u
        else
          match _h : command (d :: u) with
          | some (_, _, rest) => status_sources (pos + 1 + (len (d :: u) - len rest)) rest
          | none => status_sources (pos + 1) (d :: u)
    else (c, pos) :: status_sources (pos + c.utf8Size) t
  termination_by t => t.length
  decreasing_by
    · simp only [List.length_cons]
      omega
    · have := (command_consumes _h).2.2
      simp only [List.length_cons] at this ⊢
      omega
    · simp only [List.length_cons]
      omega
    · simp only [List.length_cons]
      omega

/-- The characters for which there is room in front of them. -/
def keep : ℕ → List (Char × ℕ) → List (Char × ℕ)
  | _, [] => []
  | 0, _ :: _ => []
  | room + 1, m :: l => m :: keep (room + 1 - m.1.utf8Size) l

/-- The characters of the parsed text, with the bytes of the status where they stand. -/
def sources (cfg : MarkupConfig) (text : Text) : List (Char × ℕ) :=
  if cfg.status_commands then keep (TEXT_MAX - 1) (status_sources 0 text)
  else (located 0 text).take (TEXT_MAX - 1)

/-! ### Places -/

theorem span_utf8Size (t : Text) : span Char.utf8Size t = len t := by
  induction t with
  | nil => rfl
  | cons c t ih => rw [span_cons, ih, len_cons]

theorem located_cons (pos : ℕ) (c : Char) (t : Text) :
    located pos (c :: t) = (c, pos) :: located (pos + c.utf8Size) t := rfl

theorem located_append (pos : ℕ) (u v : Text) :
    located pos (u ++ v) = located pos u ++ located (pos + len u) v := by
  rw [← span_utf8Size]
  exact laid_append pos u v

/-- The characters of a text stand between its ends. -/
theorem located_bounds {pos : ℕ} {t : Text} {m : Char × ℕ} (h : m ∈ located pos t) :
    pos ≤ m.2 ∧ m.2 < pos + len t := by
  have hpos := m.1.utf8Size_pos
  have hbounds := laid_bounds h
  rw [span_utf8Size] at hbounds
  omega

/-! ### The markup -/

section

variable (pos : ℕ)

@[simp] theorem status_sources_nil : status_sources pos [] = [] := by
  rw [status_sources]

theorem status_sources_char {c : Char} (hc : c ≠ '^') (t : Text) :
    status_sources pos (c :: t) = (c, pos) :: status_sources (pos + c.utf8Size) t := by
  rw [status_sources.eq_def]
  exact if_neg hc

theorem status_sources_last : status_sources pos ['^'] = [] := by
  unfold status_sources
  exact if_pos rfl

theorem status_sources_pair (t : Text) :
    status_sources pos ('^' :: '^' :: t) = ('^', pos) :: status_sources (pos + 2) t := by
  rw [status_sources, if_pos rfl]
  simp only [if_true]

theorem status_sources_command {d : Char} (hd : d ≠ '^') {t cmd arg rest : Text}
    (h : command (d :: t) = some (cmd, arg, rest)) : status_sources pos ('^' :: d :: t) =
      status_sources (pos + 1 + (len (d :: t) - len rest)) rest := by
  rw [status_sources, if_pos rfl]
  simp only [if_neg hd]
  split
  · rename_i h'
    rw [h] at h'
    cases h'
    rfl
  · rename_i h'
    rw [h] at h'
    cases h'

theorem status_sources_stray {d : Char} (hd : d ≠ '^') {t : Text}
    (h : command (d :: t) = none) :
    status_sources pos ('^' :: d :: t) = status_sources (pos + 1) (d :: t) := by
  rw [status_sources, if_pos rfl]
  simp only [if_neg hd]
  split
  · rename_i h'
    rw [h] at h'
    cases h'
  · rfl

end

theorem letters_command_toks (cfg : MarkupConfig) (cmd arg : Text) :
    letters (command_toks cfg cmd arg) = [] := by
  have h : letters (((command_color cfg cmd arg 0).map fun tc => (tc.color, tc.is_bg)).map
      (Item.mark (α := Char))) = [] := letters_map_mark _
  rw [List.map_map] at h
  exact h

/-- A text as the scanner reads it. -/
theorem scan_induction {P : Text → Prop} (hnil : P []) (hlast : P ['^'])
    (hchar : ∀ c t, c ≠ '^' → P t → P (c :: t)) (hpair : ∀ t, P t → P ('^' :: '^' :: t))
    (hcommand : ∀ d t cmd arg rest, d ≠ '^' → command (d :: t) = some (cmd, arg, rest) →
      P rest → P ('^' :: d :: t))
    (hstray : ∀ d t, d ≠ '^' → command (d :: t) = none → P (d :: t) → P ('^' :: d :: t))
    (t : Text) : P t := by
  induction hn : t.length using Nat.strong_induction_on generalizing t with
  | _ n ih =>
    subst hn
    match t with
    | [] => exact hnil
    | c :: t =>
      by_cases hc : c = '^'
      · subst hc
        match t with
        | [] => exact hlast
        | d :: t =>
          by_cases hd : d = '^'
          · subst hd
            exact hpair t (ih _ (by simp only [List.length_cons]; omega) t rfl)
          · cases hcmd : command (d :: t) with
            | none => exact hstray d t hd hcmd (ih _ (by simp) _ rfl)
            | some x =>
              obtain ⟨cmd, arg, rest⟩ := x
              have hlt := (command_consumes hcmd).2.2
              refine hcommand d t cmd arg rest hd hcmd (ih _ ?_ rest rfl)
              simp only [List.length_cons] at hlt ⊢
              omega
      · exact hchar c t hc (ih _ (by simp) t rfl)

/-- The characters that the markup leaves are those of its tokens. -/
theorem map_fst_status_sources (cfg : MarkupConfig) (t : Text) (pos : ℕ) :
    (status_sources pos t).map Prod.fst = letters (status_tokens cfg t) := by
  induction t using scan_induction generalizing pos with
  | hnil => rw [status_sources_nil, status_tokens_nil]; rfl
  | hlast => rw [status_sources_last, status_tokens_last]; rfl
  | hchar c t hc ih =>
    rw [status_sources_char pos hc, status_tokens_char cfg hc, List.map_cons, ih]
    rfl
  | hpair t ih =>
    rw [status_sources_pair, status_tokens_pair, List.map_cons, ih]
    rfl
  | hcommand d t cmd arg rest hd h ih =>
    rw [status_sources_command pos hd h, status_tokens_command cfg hd h, ih, letters_append,
      letters_command_toks, List.nil_append]
  | hstray d t hd h ih =>
    rw [status_sources_stray pos hd h, status_tokens_stray cfg hd h, ih]

/-- They are characters of the text, where they stand. -/
theorem status_sources_sublist (t : Text) (pos : ℕ) :
    (status_sources pos t).Sublist (located pos t) := by
  have hcaret : '^'.utf8Size = 1 := by decide
  induction t using scan_induction generalizing pos with
  | hnil => rw [status_sources_nil]; exact List.nil_sublist _
  | hlast => rw [status_sources_last]; exact List.nil_sublist _
  | hchar c t hc ih =>
    rw [status_sources_char pos hc, located_cons]
    exact (ih _).cons_cons _
  | hpair t ih =>
    rw [status_sources_pair, located_cons, located_cons, hcaret]
    exact ((ih _).cons _).cons_cons _
  | hcommand d t cmd arg rest hd h ih =>
    have hsplit := (command_consumes h).2.1
    rw [status_sources_command pos hd h, located_cons, hcaret, hsplit, located_append, len_append,
      Nat.add_sub_cancel]
    exact ((ih _).trans (List.sublist_append_right _ _)).cons _
  | hstray d t hd h ih =>
    rw [status_sources_stray pos hd h, located_cons, hcaret]
    exact (ih _).cons _

theorem prefix_keep (room : ℕ) (l : List (Char × ℕ)) : keep room l <+: l := by
  induction l generalizing room with
  | nil => exact List.prefix_refl _
  | cons m l ih =>
    cases room with
    | zero => exact List.nil_prefix
    | succ room => exact (List.prefix_cons_inj m).2 (ih _)

/-- The characters kept are those of the tokens kept. -/
theorem map_fst_keep (room : ℕ) {l : List (Char × ℕ)} {toks : List Tok}
    (h : l.map Prod.fst = letters toks) :
    (keep room l).map Prod.fst = letters (cut room toks) := by
  induction toks generalizing room l with
  | nil =>
    obtain rfl : l = [] := List.map_eq_nil_iff.1 h
    rfl
  | cons x toks ih =>
    cases room with
    | zero =>
      rw [cut_zero]
      cases l <;> rfl
    | succ room =>
      cases x with
      | mark b => exact ih (room + 1) h
      | letter c =>
        cases l with
        | nil => cases h
        | cons m l =>
          obtain ⟨hc, hl⟩ := List.cons.inj h
          show m.1 :: (keep (room + 1 - m.1.utf8Size) l).map Prod.fst =
            c :: letters (cut (room + 1 - c.utf8Size) toks)
          rw [show m.1 = c from hc, ih _ hl]

theorem status_sources_of_plain {t : Text} (h : '^' ∉ t) (pos : ℕ) :
    status_sources pos t = located pos t := by
  induction t generalizing pos with
  | nil => exact status_sources_nil pos
  | cons c t ih =>
    have hc : c ≠ '^' := fun hc => h (hc ▸ List.mem_cons_self)
    rw [status_sources_char pos hc, ih (fun ht => h (List.mem_cons_of_mem _ ht)), located_cons]

theorem keep_of_le {room : ℕ} {pos : ℕ} {t : Text} (h : len t ≤ room) :
    keep room (located pos t) = located pos t := by
  induction t generalizing room pos with
  | nil => rfl
  | cons c t ih =>
    have hpos := c.utf8Size_pos
    rw [len_cons] at h
    obtain ⟨room, rfl⟩ := Nat.exists_eq_add_of_le' (show 1 ≤ room by omega)
    rw [located_cons]
    show (c, pos) :: keep (room + 1 - c.utf8Size) _ = _
    rw [ih (by omega)]

/-- A text without markup, and not too long, is its own source. -/
theorem sources_of_plain {cfg : MarkupConfig} {text : Text} (h : '^' ∉ text)
    (hlen : len text < TEXT_MAX) : sources cfg text = located 0 text := by
  unfold sources
  rw [status_sources_of_plain h, keep_of_le (by omega)]
  split_ifs
  · rfl
  · refine List.take_of_length_le ?_
    have hle := length_le_len text
    rw [← List.length_map Prod.fst, located, map_fst_laid]
    omega

/-- The parsed text has the characters of the sources. -/
theorem sources_text {cfg : MarkupConfig} {text : Text} {r : CustomText}
    (h : parse_into_customtext text cfg = some r) : (sources cfg text).map Prod.fst = r.text := by
  unfold sources
  by_cases hon : cfg.status_commands = true
  · rw [parse_enabled text hon] at h
    cases h
    rw [if_pos hon]
    exact map_fst_keep _ (map_fst_status_sources cfg text 0)
  · unfold parse_into_customtext at h
    rw [if_neg hon] at h ⊢
    cases h
    rw [List.map_take, located, map_fst_laid]

/-- The sources are a part of the joined status. -/
theorem sources_sublist (cfg : MarkupConfig) (text : Text) :
    (sources cfg text).Sublist (located 0 text) := by
  unfold sources
  split_ifs
  · exact (prefix_keep _ _).sublist.trans (status_sources_sublist text 0)
  · exact List.take_sublist _ _

end Compositor
