import Mathlib.Tactic.Common
import Mathlib.Data.List.Chain
import Rwl.Core.Prompt
import Rwl.Lib.Run

/-!
# Editing the run prompt

* `find_prefix`: of sorted commands the first that starts with one of them is this one;
* `WellKept`: what holds of every prompt, of its history and its commands; `wellKept_step`;
* `Away`, `restores`: the arrow keys, and the text they come back to;
* `Typist`: a prompt with the text last typed, and the text last typed or recalled from history;
* `Lawful`: what Enter runs and what Tab fills in; `Fresh`, the keys for which this holds;
* `editing_kept`: the whole law, in the runs whose keys are all fresh.
-/

namespace Compositor

open Transition

/-! ### Sorted commands -/

namespace Text

theorem starts_with_iff {t p : Text} : starts_with t p = true ↔ p <+: t :=
  List.isPrefixOf_iff_prefix

theorem le_iff {a b : Char} {s t : Text} :
    le (a :: s) (b :: t) = true ↔ a.toNat < b.toNat ∨ a = b ∧ le s t = true := by
  simp [le]

theorem le_total (s t : Text) : le s t = true ∨ le t s = true := by
  induction s generalizing t with
  | nil => exact .inl rfl
  | cons a s ih =>
    cases t with
    | nil => exact .inr rfl
    | cons b t =>
      rw [le_iff, le_iff]
      rcases Nat.lt_trichotomy a.toNat b.toNat with h | h | h
      · exact .inl (.inl h)
      · have hab : a = b := Char.toNat_inj.1 h
        exact (ih t).imp (fun h => .inr ⟨hab, h⟩) fun h => .inr ⟨hab.symm, h⟩
      · exact .inr (.inl h)

theorem le_trans {s t u : Text} (h : le s t = true) (h' : le t u = true) : le s u = true := by
  induction s generalizing t u with
  | nil => rfl
  | cons a s ih =>
    cases t with
    | nil => cases h
    | cons b t =>
      cases u with
      | nil => cases h'
      | cons c u =>
        rw [le_iff] at h h' ⊢
        rcases h with h | ⟨rfl, h⟩
        · rcases h' with h' | ⟨rfl, -⟩
          · exact .inl (by omega)
          · exact .inl h
        · exact h'.imp_right fun h' => ⟨h'.1, ih h h'.2⟩

/-- A text is in front of all that start with it. -/
theorem eq_of_prefix_of_le {s t : Text} (h : s <+: t) (hle : le t s = true) : t = s := by
  induction s generalizing t with
  | nil =>
    cases t with
    | nil => rfl
    | cons b t => cases hle
  | cons a s ih =>
    obtain ⟨u, rfl⟩ := h
    rw [List.cons_append, le_iff] at hle
    rcases hle with hle | ⟨-, hle⟩
    · omega
    · rw [List.cons_append, ih (List.prefix_append s u) hle]

end Text

/-- Of sorted commands the first that starts with one of them is this one. -/
theorem find_prefix {l : List Text} {s : Text} (hl : l.Pairwise fun a b => Text.le a b = true)
    (h : s ∈ l) : (l.find? fun c => Text.starts_with c s) = some s := by
  induction l with
  | nil => cases h
  | cons c l ih =>
    obtain ⟨hc, hl⟩ := List.pairwise_cons.1 hl
    by_cases hp : Text.starts_with c s = true
    · have hcs : c = s := by
        rcases List.mem_cons.1 h with rfl | h
        · rfl
        · exact Text.eq_of_prefix_of_le (Text.starts_with_iff.1 hp) (hc s h)
      rw [← hcs] at hp ⊢
      exact List.find?_cons_of_pos (p := fun x => Text.starts_with x c) hp
    · rcases List.mem_cons.1 h with rfl | h
      · exact absurd (Text.starts_with_iff.2 (List.prefix_refl s)) hp
      · exact (List.find?_cons_of_neg (p := fun x => Text.starts_with x s) hp).trans (ih hl h)

theorem sorted_scan (names : List FileName) :
    (scan_path_commands names).Pairwise fun a b => Text.le a b = true := by
  have htotal : Std.Total fun a b : Text => Text.le a b = true := ⟨Text.le_total⟩
  have htrans : IsTrans Text fun a b => Text.le a b = true := ⟨fun _ _ _ => Text.le_trans⟩
  exact List.pairwise_insertionSort _ _

theorem mem_scan {names : List FileName} {c : Text} (h : c ∈ scan_path_commands names) :
    c ≠ [] := by
  rw [scan_path_commands, List.mem_insertionSort, List.mem_dedup, List.mem_map] at h
  obtain ⟨name, -, rfl⟩ := h
  exact name.2

theorem nth_completion_mem {commands : List Text} {query c : Text} {index : ℕ}
    (h : nth_completion commands query index = some c) : c ∈ commands ∧ query <+: c := by
  have hmem := List.mem_of_getElem? h
  rw [List.mem_filter, Text.starts_with_iff] at hmem
  exact hmem

namespace Prompt

/-! ### The history -/

/-- What holds of the history and of the commands. -/
structure WellKept (p : Prompt) : Prop where
  indexed : ∀ h ∈ p.history_index, h < p.prompt_history.length
  capped : p.prompt_history.length ≤ PROMPT_HISTORY_CAP
  varied : p.prompt_history.IsChain (· ≠ ·)
  sorted : p.prompt_commands.Pairwise fun a b => Text.le a b = true
  named : ∀ c ∈ p.prompt_commands, c ≠ []

theorem length_push_history {history : List Text} (h : history.length ≤ PROMPT_HISTORY_CAP)
    (cmd : Text) : (push_history history cmd).length ≤ PROMPT_HISTORY_CAP := by
  unfold push_history
  simp only
  split_ifs with hlast hcap
  · exact h
  · rw [List.length_drop]
    omega
  · omega

theorem varied_push_history {history : List Text} (h : history.IsChain (· ≠ ·)) (cmd : Text) :
    (push_history history cmd).IsChain (· ≠ ·) := by
  unfold push_history
  simp only
  have hsnoc (hlast : history.getLast? ≠ some cmd) : (history ++ [cmd]).IsChain (· ≠ ·) := by
    refine h.append (List.isChain_singleton cmd) fun x hx y hy hxy => hlast ?_
    obtain rfl : y = cmd := (Option.some.inj hy).symm
    rw [← hxy]
    exact hx
  split_ifs with hlast hcap
  · exact h
  · exact (hsnoc hlast).suffix (List.drop_suffix _ _)
  · exact hsnoc hlast

variable {p : Prompt}

theorem wellKept_up (h : p.WellKept) : p.up.WellKept := by
  unfold up
  split_ifs with hne
  · exact h
  · have hpos : 0 < p.prompt_history.length := List.length_pos_iff.2 hne
    cases hidx : p.history_index with
    | none =>
      refine ⟨fun i hi => ?_, h.capped, h.varied, h.sorted, h.named⟩
      obtain rfl := Option.some.inj hi
      show p.prompt_history.length - 1 < p.prompt_history.length
      omega
    | some h_idx =>
      have hlt := h.indexed h_idx hidx
      simp only
      split_ifs with hzero
      · refine ⟨fun i hi => ?_, h.capped, h.varied, h.sorted, h.named⟩
        obtain rfl := Option.some.inj hi
        show h_idx - 1 < p.prompt_history.length
        omega
      · exact h

theorem wellKept_down (h : p.WellKept) : p.down.WellKept := by
  unfold down
  cases hidx : p.history_index with
  | none => exact h
  | some h_idx =>
    simp only
    split_ifs with hlt
    · refine ⟨fun i hi => ?_, h.capped, h.varied, h.sorted, h.named⟩
      obtain rfl := Option.some.inj hi
      exact hlt
    · exact ⟨fun _ hi => (nomatch hi), h.capped, h.varied, h.sorted, h.named⟩

theorem wellKept_enter (h : p.WellKept) : p.enter.1.WellKept := by
  unfold enter
  refine ⟨fun _ hi => (nomatch hi), ?_, ?_, List.Pairwise.nil, fun _ hc => (nomatch hc)⟩
  · simp only
    split_ifs
    · exact h.capped
    · exact length_push_history h.capped _
  · simp only
    split_ifs
    · exact h.varied
    · exact varied_push_history h.varied _

theorem wellKept_key (h : p.WellKept) (key : ℕ) : (p.handle_key_input key).1.WellKept := by
  unfold handle_key_input
  split_ifs
  · exact ⟨fun _ hi => (nomatch hi), h.capped, h.varied, List.Pairwise.nil,
      fun _ hc => (nomatch hc)⟩
  · exact wellKept_enter h
  · exact ⟨fun _ hi => (nomatch hi), h.capped, h.varied, h.sorted, h.named⟩
  · unfold tab
    split_ifs
    · exact h
    · exact ⟨h.indexed, h.capped, h.varied, h.sorted, h.named⟩
    · exact ⟨h.indexed, h.capped, h.varied, h.sorted, h.named⟩
  · exact wellKept_up h
  · exact wellKept_down h
  · unfold type_key
    cases key_char key with
    | none => exact ⟨h.indexed, h.capped, h.varied, h.sorted, h.named⟩
    | some c => exact ⟨fun _ hi => (nomatch hi), h.capped, h.varied, h.sorted, h.named⟩

theorem wellKept_step (h : p.WellKept) (e : PromptEvent) : (p.step e).WellKept := by
  cases e with
  | open_prompt names =>
    exact ⟨fun _ hi => (nomatch hi), h.capped, h.varied, sorted_scan names, fun c => mem_scan⟩
  | key code =>
    show (p.key_event code).1.WellKept
    unfold key_event
    split_ifs
    · exact wellKept_key h code
    · exact h

/-- Enter on a command that neither begins nor ends with white space runs this command. -/
theorem enter_runs (h : p.WellKept) (hmem : p.prompt_buffer ∈ p.prompt_commands)
    (htrim : Text.trim p.prompt_buffer = p.prompt_buffer) : p.enter.2 = some p.prompt_buffer := by
  have hne : p.prompt_buffer ≠ [] := h.named _ hmem
  have hghost : p.prompt_ghost = [] := by
    unfold prompt_ghost
    rw [if_neg hne, find_prefix h.sorted hmem, Option.map_some, Option.getD_some, List.drop_length]
  unfold enter
  simp only [hghost, List.append_nil, htrim, if_neg hne]

/-! ### The arrow keys -/

/-- The keys Up and Down. -/
def upKey : PromptEvent := .key 103

def downKey : PromptEvent := .key 108

/-- The prompt shows `text`, or an entry of the history from which at most `n` times Down lead back
to it. -/
def Away (text : Text) (n : ℕ) (p : Prompt) : Prop :=
  p.is_prompt_active = true ∧
    ((p.history_index = none ∧ p.prompt_buffer = text) ∨
      p.history_temp_buffer = text ∧ ∃ h, p.history_index = some h ∧
        h < p.prompt_history.length ∧ p.prompt_history.length ≤ h + n)

theorem step_upKey (h : p.is_prompt_active = true) : p.step upKey = p.up := by
  show (p.key_event 103).1 = p.up
  unfold key_event
  rw [if_pos h]
  rfl

theorem step_downKey (h : p.is_prompt_active = true) : p.step downKey = p.down := by
  show (p.key_event 108).1 = p.down
  unfold key_event
  rw [if_pos h]
  rfl

theorem away_upKey {text : Text} {n : ℕ} (h : Away text n p) :
    Away text (n + 1) (p.step upKey) := by
  obtain ⟨hact, h⟩ := h
  rw [step_upKey hact]
  unfold up
  split_ifs with hne
  · refine ⟨hact, h.imp_right fun ⟨htemp, i, hi, hlt, hle⟩ => ⟨htemp, i, hi, hlt, by omega⟩⟩
  · have hpos : 0 < p.prompt_history.length := List.length_pos_iff.2 hne
    rcases h with ⟨hidx, hbuf⟩ | ⟨htemp, i, hi, hlt, hle⟩
    · rw [hidx]
      refine ⟨hact, .inr ⟨hbuf, _, rfl, ?_, ?_⟩⟩
      · show p.prompt_history.length - 1 < p.prompt_history.length
        omega
      · show p.prompt_history.length ≤ p.prompt_history.length - 1 + (n + 1)
        omega
    · rw [hi]
      simp only
      split_ifs with hzero
      · refine ⟨hact, .inr ⟨htemp, _, rfl, ?_, ?_⟩⟩
        · show i - 1 < p.prompt_history.length
          omega
        · show p.prompt_history.length ≤ i - 1 + (n + 1)
          omega
      · exact ⟨hact, .inr ⟨htemp, i, hi, hlt, by omega⟩⟩

theorem away_downKey {text : Text} {n : ℕ} (h : Away text n p) :
    Away text (n - 1) (p.step downKey) := by
  obtain ⟨hact, h⟩ := h
  rw [step_downKey hact]
  unfold down
  rcases h with ⟨hidx, hbuf⟩ | ⟨htemp, i, hi, hlt, hle⟩
  · rw [hidx]
    exact ⟨hact, .inl ⟨hidx, hbuf⟩⟩
  · rw [hi]
    simp only
    split_ifs with hnext
    · refine ⟨hact, .inr ⟨htemp, _, rfl, hnext, ?_⟩⟩
      show p.prompt_history.length ≤ i + 1 + (n - 1)
      omega
    · exact ⟨hact, .inl ⟨rfl, htemp⟩⟩

theorem away_downKeys {text : Text} {n : ℕ} (h : Away text n p) (k : ℕ) :
    Away text (n - k) (run step p (List.replicate k downKey)) := by
  induction k generalizing p n with
  | zero => exact h
  | succ k ih =>
    rw [List.replicate_succ, run_cons, ← Nat.sub_sub, Nat.sub_right_comm]
    exact ih (away_downKey h)

theorem away_arrows {text : Text} {n : ℕ} (h : Away text n p) {es : List PromptEvent}
    (hes : ∀ e ∈ es, e = upKey ∨ e = downKey) :
    Away text (n + es.count upKey) (run step p es) := by
  induction es generalizing p n with
  | nil => exact h
  | cons e es ih =>
    have hes' : ∀ e ∈ es, e = upKey ∨ e = downKey := fun e he => hes e (List.mem_cons_of_mem _ he)
    rcases hes e List.mem_cons_self with rfl | rfl
    · rw [List.count_cons_self, run_cons, Nat.add_comm (es.count upKey), ← Nat.add_assoc]
      exact ih (away_upKey h) hes'
    · have hne : (downKey == upKey) = false := rfl
      rw [List.count_cons, hne, run_cons]
      -- a Down among them leads back earlier than counted
      obtain ⟨hact, hback⟩ := ih (away_downKey h) hes'
      refine ⟨hact, hback.imp_right ?_⟩
      rintro ⟨htemp, i, hi, hlt, hle⟩
      exact ⟨htemp, i, hi, hlt, by simp only [Bool.false_eq_true, if_false]; omega⟩

/-- From the text that is typed, any arrow keys and then as many times Down as there were Ups lead
back to it. -/
def Restores (p : Prompt) : Prop :=
  p.is_prompt_active = true → p.history_index = none → ∀ es : List PromptEvent,
    (∀ e ∈ es, e = upKey ∨ e = downKey) →
      (run step p (es ++ List.replicate (es.count upKey) downKey)).prompt_buffer = p.prompt_buffer

theorem restores (p : Prompt) : p.Restores := by
  intro hact hidx es hes
  have hstart : Away p.prompt_buffer 0 p := ⟨hact, .inl ⟨hidx, rfl⟩⟩
  have hend := away_downKeys (away_arrows hstart hes) (es.count upKey)
  rw [← run_append, Nat.zero_add, Nat.sub_self] at hend
  rcases hend.2 with ⟨-, hbuf⟩ | ⟨-, i, -, hlt, hle⟩
  · exact hbuf
  · omega

end Prompt

/-! ### The text last typed or recalled -/

/-- A prompt, the text last typed, and the text last typed or recalled from history. -/
structure Typist where
  prompt : Prompt
  typed : Text
  said : Text

namespace Typist

def start : Typist := ⟨.new, [], []⟩

/-- What a key makes of the text last typed or recalled: `p` is the prompt after it. A recall is
seen by the entry that is recalled; at its end the text last typed is back. -/
def follow_key (t : Typist) (code : ℕ) (p : Prompt) : Typist :=
  if code = 1 ∨ code = 28 then ⟨p, [], []⟩
  else if code = 103 ∨ code = 108 then
    if p.history_index = t.prompt.history_index then ⟨p, t.typed, t.said⟩
    else ⟨p, t.typed, if p.history_index = none then t.typed else p.prompt_buffer⟩
  else if code = 14 ∨ (code ≠ 15 ∧ Prompt.key_char code ≠ none) then
    ⟨p, p.prompt_buffer, p.prompt_buffer⟩
  else ⟨p, t.typed, t.said⟩

def follow (t : Typist) (e : PromptEvent) : Typist :=
  match e with
  | .open_prompt _ => ⟨t.prompt.step e, [], []⟩
  | .key code =>
      if t.prompt.is_prompt_active then t.follow_key code (t.prompt.step e) else t

/-- What Enter and Tab do: Enter on a command runs it, and Tab fills in a command that starts with
the text last typed or recalled. -/
def Lawful (t : Typist) (e : PromptEvent) : Prop :=
  t.prompt.is_prompt_active = true →
    (e = .key 28 → t.prompt.prompt_buffer ∈ t.prompt.prompt_commands →
      (t.prompt.key_event 28).2 = some t.prompt.prompt_buffer) ∧
    (e = .key 15 → (t.prompt.step e).prompt_buffer ≠ t.prompt.prompt_buffer →
      (t.prompt.step e).prompt_buffer ∈ t.prompt.prompt_commands ∧
        t.said <+: (t.prompt.step e).prompt_buffer)

/-- Enter does not meet a command that begins or ends with white space, and Tab does not go on with
the completion of a text that is no longer the one last typed or recalled. -/
def Fresh (t : Typist) (e : PromptEvent) : Prop :=
  (e = .key 28 → t.prompt.prompt_buffer ∈ t.prompt.prompt_commands →
    Text.trim t.prompt.prompt_buffer = t.prompt.prompt_buffer) ∧
  (e = .key 15 → ∀ query ∈ t.prompt.autocomplete_query, t.said <+: query)

theorem lawfulBEq_text : LawfulBEq Text := inferInstance

instance decidableLawful (t : Typist) (e : PromptEvent) : Decidable (t.Lawful e) := by
  haveI := lawfulBEq_text
  unfold Lawful; infer_instance

instance decidableFresh (t : Typist) (e : PromptEvent) : Decidable (t.Fresh e) := by
  haveI := lawfulBEq_text
  unfold Fresh; infer_instance

/-- The text shown goes on from the one last typed or recalled. -/
structure Grown (t : Typist) : Prop where
  kept : t.prompt.WellKept
  shown : t.said <+: t.prompt.prompt_buffer
  told : t.prompt.history_index = none → t.said = t.typed
  saved : t.prompt.history_index ≠ none → t.typed <+: t.prompt.history_temp_buffer

variable {t : Typist}

theorem follow_prompt (t : Typist) (e : PromptEvent) :
    (t.follow e).prompt = t.prompt.step e := by
  cases e with
  | open_prompt names => rfl
  | key code =>
    unfold follow
    simp only
    split_ifs with hact
    · unfold follow_key
      split_ifs <;> rfl
    · show t.prompt = (t.prompt.key_event code).1
      unfold Prompt.key_event
      rw [if_neg hact]

/-- What Tab shows afterwards: the text there was, or a command that starts with the query. -/
theorem tab_cases (p : Prompt) : p.tab.prompt_buffer = p.prompt_buffer ∨
    (p.tab.prompt_buffer ∈ p.prompt_commands ∧
      p.autocomplete_query.getD p.prompt_buffer <+: p.tab.prompt_buffer) := by
  unfold Prompt.tab
  split_ifs with hempty
  · exact .inl rfl
  all_goals
    simp only
    cases hc : nth_completion p.prompt_commands (p.autocomplete_query.getD p.prompt_buffer) _ with
    | none => exact .inl rfl
    | some c => exact .inr (nth_completion_mem hc)

theorem tab_fields (p : Prompt) : p.tab.history_index = p.history_index ∧
    p.tab.history_temp_buffer = p.history_temp_buffer := by
  unfold Prompt.tab
  split_ifs
  · exact ⟨rfl, rfl⟩
  · exact ⟨rfl, rfl⟩
  · exact ⟨rfl, rfl⟩

/-- Up does nothing, or recalls an entry and keeps the text from before the first recall. -/
theorem up_cases (p : Prompt) : p.up = p ∨
    (p.up.history_index ≠ none ∧ p.up.history_index ≠ p.history_index ∧
      p.up.history_temp_buffer =
        if p.history_index = none then p.prompt_buffer else p.history_temp_buffer) := by
  unfold Prompt.up
  by_cases hne : p.prompt_history = []
  · rw [if_pos hne]
    exact .inl rfl
  · rw [if_neg hne]
    cases hidx : p.history_index with
    | none => exact .inr ⟨Option.some_ne_none _, Option.some_ne_none _, rfl⟩
    | some h_idx =>
      by_cases hpos : 0 < h_idx
      · simp only [if_pos hpos]
        refine .inr ⟨Option.some_ne_none _, fun heq => ?_, rfl⟩
        have := Option.some.inj heq
        omega
      · simp only [if_neg hpos]
        exact .inl trivial

/-- Down does nothing, recalls an entry, or brings back the text from before the first recall. -/
theorem down_cases (p : Prompt) : p.down = p ∨
    (p.history_index ≠ none ∧ p.down.history_index ≠ p.history_index ∧
      p.down.history_temp_buffer = p.history_temp_buffer ∧
      (p.down.history_index = none → p.down.prompt_buffer = p.history_temp_buffer)) := by
  unfold Prompt.down
  cases hidx : p.history_index with
  | none => exact .inl rfl
  | some h_idx =>
    simp only
    split_ifs with hlt
    · refine .inr ⟨Option.some_ne_none _, fun heq => ?_, rfl, fun h => (nomatch h)⟩
      have := Option.some.inj heq
      omega
    · exact .inr ⟨Option.some_ne_none _, fun h => (nomatch h), rfl, fun _ => rfl⟩

theorem grown_start : start.Grown :=
  ⟨⟨fun _ hi => (nomatch hi), Nat.zero_le _, List.isChain_nil, List.Pairwise.nil,
    fun _ hc => (nomatch hc)⟩, List.prefix_refl _, fun _ => rfl, fun h => absurd rfl h⟩

/-! ### One key -/

/-- A text that was just typed. -/
theorem grown_typed {p : Prompt} {s : Text} (hp : p.WellKept) (hs : s <+: p.prompt_buffer)
    (hidx : p.history_index = none) : Grown ⟨p, s, s⟩ :=
  ⟨hp, hs, fun _ => rfl, fun h => absurd hidx h⟩

theorem grown_up (h : t.Grown) (hp : t.prompt.up.WellKept) :
    (t.follow_key 103 t.prompt.up).Grown := by
  show Grown (if _ then _ else _)
  rcases up_cases t.prompt with hup | ⟨hsome, hne, htemp⟩
  · rw [hup, if_pos rfl]
    exact ⟨h.kept, h.shown, h.told, h.saved⟩
  · rw [if_neg hne, if_neg hsome]
    refine ⟨hp, List.prefix_refl _, fun hnone => absurd hnone hsome, fun _ => ?_⟩
    show t.typed <+: t.prompt.up.history_temp_buffer
    rw [htemp]
    split_ifs with hidx
    · rw [← h.told hidx]
      exact h.shown
    · exact h.saved hidx

theorem grown_down (h : t.Grown) (hp : t.prompt.down.WellKept) :
    (t.follow_key 108 t.prompt.down).Grown := by
  show Grown (if _ then _ else _)
  rcases down_cases t.prompt with hdown | ⟨hsome, hne, htemp, hback⟩
  · rw [hdown, if_pos rfl]
    exact ⟨h.kept, h.shown, h.told, h.saved⟩
  · rw [if_neg hne]
    refine ⟨hp, ?_, fun hnone => if_pos hnone, fun _ => ?_⟩
    · show (if _ then _ else _) <+: t.prompt.down.prompt_buffer
      split_ifs with hnone
      · rw [hback hnone]
        exact h.saved hsome
      · exact List.prefix_refl _
    · show t.typed <+: t.prompt.down.history_temp_buffer
      rw [htemp]
      exact h.saved hsome

theorem grown_tab (h : t.Grown) (hp : t.prompt.tab.WellKept)
    (hf : ∀ query ∈ t.prompt.autocomplete_query, t.said <+: query) :
    t.said <+: t.prompt.tab.prompt_buffer ∧ (t.follow_key 15 t.prompt.tab).Grown := by
  have hshown : t.said <+: t.prompt.tab.prompt_buffer := by
    rcases tab_cases t.prompt with hsame | ⟨-, hquery⟩
    · rw [hsame]
      exact h.shown
    · refine List.IsPrefix.trans ?_ hquery
      cases hq : t.prompt.autocomplete_query with
      | none => exact h.shown
      | some query => exact hf query hq
  obtain ⟨hidx, htemp⟩ := tab_fields t.prompt
  refine ⟨hshown, hp, hshown, fun hnone => h.told (hidx ▸ hnone), fun hsome => ?_⟩
  show t.typed <+: t.prompt.tab.history_temp_buffer
  rw [htemp]
  exact h.saved (hidx ▸ hsome)

theorem grown_type_key (h : t.Grown) {code : ℕ} (hp : (t.prompt.type_key code).WellKept)
    (hcode : code ≠ 1 ∧ code ≠ 28 ∧ code ≠ 14 ∧ code ≠ 15 ∧ code ≠ 103 ∧ code ≠ 108) :
    (t.follow_key code (t.prompt.type_key code)).Grown := by
  obtain ⟨h1, h28, h14, h15, h103, h108⟩ := hcode
  unfold follow_key
  rw [if_neg (by omega), if_neg (by omega)]
  cases hchar : Prompt.key_char code with
  | none =>
    have hsame : t.prompt.type_key code = { t.prompt with autocomplete_query := none } := by
      unfold Prompt.type_key
      rw [hchar]
    rw [if_neg fun hor => hor.elim h14 fun hand => hand.2 rfl]
    rw [hsame] at hp ⊢
    exact ⟨hp, h.shown, h.told, h.saved⟩
  | some c =>
    rw [if_pos (.inr ⟨h15, Option.some_ne_none c⟩)]
    refine grown_typed hp (List.prefix_refl _) ?_
    unfold Prompt.type_key
    rw [hchar]

/-- A fresh key keeps the text shown and the text said together. -/
theorem grown_follow (h : t.Grown) (e : PromptEvent) (hf : t.Fresh e) : (t.follow e).Grown := by
  have hstep : (t.prompt.step e).WellKept := Prompt.wellKept_step h.kept e
  cases e with
  | open_prompt names => exact grown_typed hstep List.nil_prefix rfl
  | key code =>
    unfold follow
    simp only
    split_ifs with hact
    · have hkey : t.prompt.step (.key code) = (t.prompt.handle_key_input code).1 := by
        show (t.prompt.key_event code).1 = _
        unfold Prompt.key_event
        rw [if_pos hact]
      rw [hkey] at hstep ⊢
      unfold Prompt.handle_key_input at hstep ⊢
      split_ifs at hstep ⊢ with h1 h28 h14 h15 h103 h108
      · subst h1
        exact grown_typed hstep List.nil_prefix rfl
      · subst h28
        exact grown_typed hstep List.nil_prefix rfl
      · subst h14
        exact grown_typed hstep (List.prefix_refl _) rfl
      · subst h15
        exact (grown_tab h hstep (hf.2 rfl)).2
      · subst h103
        exact grown_up h hstep
      · subst h108
        exact grown_down h hstep
      · exact grown_type_key h hstep ⟨h1, h28, h14, h15, h103, h108⟩
    · exact h

theorem lawful_of_fresh (h : t.Grown) (e : PromptEvent) (hf : t.Fresh e) : t.Lawful e := by
  intro hact
  constructor
  · rintro rfl hmem
    unfold Prompt.key_event
    rw [if_pos hact]
    exact Prompt.enter_runs h.kept hmem (hf.1 rfl hmem)
  · rintro rfl hchanged
    have hkey : t.prompt.step (.key 15) = t.prompt.tab := by
      show (t.prompt.key_event 15).1 = _
      unfold Prompt.key_event
      rw [if_pos hact]
      rfl
    have htab : t.prompt.tab.WellKept := hkey ▸ Prompt.wellKept_step h.kept (.key 15)
    rw [hkey] at hchanged ⊢
    refine ⟨?_, (grown_tab h htab (hf.2 rfl)).1⟩
    exact (tab_cases t.prompt).elim (fun hsame => absurd hsame hchanged) And.left

/-! ### Whole runs -/

/-- What the history is at any time, and that the arrow keys come back to the typed text. -/
def Sound (t : Typist) : Prop :=
  (∀ h ∈ t.prompt.history_index, h < t.prompt.prompt_history.length) ∧
    t.prompt.prompt_history.length ≤ PROMPT_HISTORY_CAP ∧
    t.prompt.prompt_history.IsChain (· ≠ ·) ∧ t.prompt.Restores

/-- The history is sound in every run. -/
theorem always_sound (es : List PromptEvent) : Always follow Sound start es := by
  have hkept : Always follow (fun t => t.prompt.WellKept) start es :=
    by
    refine always_of_step (I := fun t : Typist => t.prompt.WellKept) (fun t e h => ?_) grown_start.kept es
    rw [follow_prompt]
    exact Prompt.wellKept_step h e
  exact hkept.mono fun t h => ⟨h.indexed, h.capped, h.varied, t.prompt.restores⟩

/-- All along a run whose keys are fresh, the history is sound and Enter and Tab are lawful. -/
theorem editing_kept (es : List PromptEvent) (h : Guarded follow Fresh start es) :
    Always follow Sound start es ∧ Guarded follow Lawful start es :=
  ⟨always_sound es, h.of_inv (fun _ e h => grown_follow h e) (fun _ e h => lawful_of_fresh h e)
    grown_start⟩

/-! ### A completion that outlives a recall -/

/-- Four commands. -/
def fourNames : List FileName :=
  [⟨"foot".toList, by decide⟩, ⟨"firefox".toList, by decide⟩, ⟨"ls".toList, by decide⟩,
    ⟨"lsblk".toList, by decide⟩]

/-- The prompt is opened, and `ls` is typed and run. -/
def runsLs : List PromptEvent := [.open_prompt fourNames, .key 38, .key 31, .key 28]

/-- The prompt is opened again and `f` is completed twice; `ls` is recalled and typed on. -/
theorem editing_kept_twice :
    Always follow Sound start (runsLs ++ [.open_prompt fourNames, .key 33, .key 15, .key 15,
      .key 103, .key 48, .key 15, .key 28]) ∧
    Guarded follow Lawful start (runsLs ++ [.open_prompt fourNames, .key 33, .key 15, .key 15,
      .key 103, .key 48, .key 15, .key 28]) :=
  editing_kept _ (by decide +kernel)

/-- `f` is completed to `firefox`, `ls` is recalled, and the next Tab makes it `foot`. -/
theorem not_editing_kept : ¬ ∀ es : List PromptEvent,
    Always follow Sound start es ∧ Guarded follow Lawful start es := by
  intro h
  have hlaw := (h (runsLs ++ [.open_prompt fourNames, .key 33, .key 15, .key 103, .key 15])).2
  revert hlaw
  decide +kernel

end Typist

end Compositor
