import IdigestHub.Foundation.Shrinking
import IdigestHub.Legal.Documents

/-! Which texts the normalization of a legal document leaves as they are, and what saving them again does. -/

set_option autoImplicit false

namespace IdigestHub.Legal

open Foundation Foundation.Text

section Weight

/-- Every rewrite of the normalization makes this smaller, where it finds something to do: bars weigh most, newlines
least, and a bar right behind a word weighs more than behind a newline. -/
def charWeight (c : Char) : Nat := if c = '|' then 6 else if c = '\n' then 1 else 3

def glued (before c : Char) : Nat := if c = '|' && before != '|' && !isSpace before then 3 else 0

def weightBehind : Char → List Char → Nat
  | _, [] => 0
  | before, c :: rest => charWeight c + glued before c + weightBehind c rest

def weight (text : List Char) : Nat := weightBehind '\n' text

variable {before c : Char} {text rest : List Char}

@[simp] theorem weightBehind_nil : weightBehind before [] = 0 := rfl

@[simp] theorem weightBehind_cons :
    weightBehind before (c :: rest) = charWeight c + glued before c + weightBehind c rest := rfl

theorem glued_of_ne (different : c ≠ '|') : glued before c = 0 := by simp [glued, different]

theorem glued_of_space (space : isSpace before = true) : glued before c = 0 := by simp [glued, space]

@[simp] theorem glued_bar : glued '|' c = 0 := by simp [glued]

@[simp] theorem glued_newline : glued '\n' c = 0 := glued_of_space (by decide)

theorem charWeight_pos (c : Char) : 0 < charWeight c := by
  unfold charWeight
  split
  · decide
  · split <;> decide

theorem weightBehind_append (before : Char) (first second : List Char) :
    weightBehind before (first ++ second) = weightBehind before first + weightBehind (first.getLastD before) second := by
  induction first generalizing before with
  | nil => simp
  | cons c rest ih => rw [List.cons_append, weightBehind_cons, weightBehind_cons, ih, List.getLastD_cons,
    Nat.add_assoc (charWeight c + glued before c)]

theorem weightBehind_of_head (text_first : text.head? ≠ some '|') (a b : Char) : weightBehind a text = weightBehind b text := by
  cases text with
  | nil => rfl
  | cons c rest =>
    have different : c ≠ '|' := by simpa using text_first
    rw [weightBehind_cons, weightBehind_cons, glued_of_ne different, glued_of_ne different]

theorem weightBehind_of_space (space : isSpace before = true) : weightBehind before text = weight text := by
  cases text with
  | nil => rfl
  | cons c rest => rw [weight, weightBehind_cons, weightBehind_cons, glued_of_space space, glued_newline]

theorem weightBehind_pos (nonempty : text ≠ []) : 0 < weightBehind before text := by
  cases text with
  | nil => contradiction
  | cons c rest =>
    have positive := charWeight_pos c
    rw [weightBehind_cons]
    omega

theorem weightBehind_heavy (nonempty : text ≠ []) (other : text ≠ ['\n']) : 1 < weightBehind before text := by
  cases text with
  | nil => contradiction
  | cons c rest =>
    rw [weightBehind_cons]
    cases rest with
    | nil =>
      have not_newline : c ≠ '\n' := fun same => other (by rw [same])
      have heavy : 1 < charWeight c := by
        unfold charWeight
        split
        · decide
        · decide
      omega
    | cons next rest =>
      have first := charWeight_pos c
      have second : 0 < weightBehind c (next :: rest) := weightBehind_pos (List.cons_ne_nil next rest)
      omega

theorem shrunk_cons {other : List Char} (shrunk : Shrunk (weightBehind c) other rest) :
    Shrunk (weightBehind before) (c :: other) (c :: rest) := by
  rcases shrunk with rfl | smaller
  · exact .refl _
  · right
    rw [weightBehind_cons, weightBehind_cons]
    omega

theorem getLastD_of_ne_nil (nonempty : text ≠ []) :
    ∃ last ∈ text, text.getLast? = some last ∧ ∀ c, text.getLastD c = last := by
  cases text with
  | nil => contradiction
  | cons first rest =>
    exact ⟨rest.getLastD first, List.getLastD_mem_cons, by rw [List.getLast?_cons, List.getLastD_eq_getLast?],
      fun _ => List.getLastD_cons ..⟩

end Weight

section Rewrites

theorem singleBars_shrunk (text : List Char) (before : Char) :
    Shrunk (weightBehind before) (singleBars (before == '|') text) text := by
  induction text generalizing before with
  | nil => exact .refl _
  | cons c rest ih =>
    rw [singleBars]
    split
    · -- a bar behind a bar goes
      rename_i both
      obtain ⟨behind, bar⟩ := Bool.and_eq_true_iff.mp both
      obtain rfl := beq_iff_eq.mp behind
      obtain rfl := beq_iff_eq.mp bar
      right
      have shrunk := (ih '|').le
      rw [beq_self_eq_true] at shrunk
      have bar_weight : charWeight '|' = 6 := rfl
      rw [weightBehind_cons]
      omega
    · exact shrunk_cons (ih c)

theorem quoteBehind_some {rest line after : List Char} (quote : quoteBehind rest = some (line, after)) :
    ∃ blanks, rest = blanks ++ (line ++ after) ∧ blanks ≠ [] ∧ (∀ c ∈ blanks, isSpace c = true) ∧ line ≠ [] ∧
      ∀ c ∈ line, c ≠ '|' ∧ c ≠ '\n' := by
  obtain ⟨n, member, found⟩ := List.exists_of_findSome?_eq_some quote
  rw [List.mem_reverse, List.mem_range] at member
  dsimp only at found
  split at found
  · rename_i both
    obtain ⟨line_eq, after_eq⟩ := Prod.mk.inj (Option.some.inj found)
    obtain ⟨nonempty, _⟩ := Bool.and_eq_true_iff.mp both
    rw [line_eq] at nonempty after_eq
    refine ⟨rest.take (n + 1), ?_, ?_, ?_, bne_iff_ne.mp nonempty, ?_⟩
    · have whole : line ++ after = rest.drop (n + 1) := by
        rw [← after_eq, ← line_eq]
        exact List.prefix_iff_eq_append.mp (List.takeWhile_prefix _)
      rw [whole, List.take_append_drop]
    · intro empty
      rw [List.take_eq_nil_iff] at empty
      rcases empty with zero | none_left
      · omega
      · rw [none_left] at member
        exact absurd member (Nat.not_lt_zero n)
    · intro c taken
      have sub : rest.take (n + 1) <+: rest.takeWhile isSpace :=
        List.prefix_of_prefix_length_le (List.take_prefix _ _) (List.takeWhile_prefix _) (by
          rw [List.length_take]
          omega)
      exact List.mem_takeWhile_imp (sub.subset taken)
    · intro c member
      rw [← line_eq] at member
      have kept := List.mem_takeWhile_imp member
      simpa using kept
  · contradiction

theorem barQuotes_shrunk (fuel : Nat) (text : List Char) (before : Char) :
    Shrunk (weightBehind before) (barQuotes fuel (before == '\n') text) text := by
  induction fuel generalizing text before with
  | zero => exact .refl _
  | succ fuel ih =>
    cases text with
    | nil => exact .refl _
    | cons c rest =>
      rw [barQuotes]
      split
      · rename_i line after quote
        split at quote
        · rename_i both
          obtain ⟨behind, bar⟩ := Bool.and_eq_true_iff.mp both
          obtain rfl := beq_iff_eq.mp behind
          obtain rfl := beq_iff_eq.mp bar
          obtain ⟨blanks, rfl, blank, spaces, text, plain⟩ := quoteBehind_some quote
          obtain ⟨last, last_member, _, last_of⟩ := getLastD_of_ne_nil text
          have goes_on : Shrunk (weightBehind last) (barQuotes fuel false after) after := by
            have inside : (last == '\n') = false := beq_eq_false_iff_ne.mpr (plain last last_member).2
            exact inside ▸ ih after last
          have no_bar : line.head? ≠ some '|' := fun first => (plain '|' (List.mem_of_mem_head? first)).1 rfl
          have same := weightBehind_of_head no_bar ' ' (blanks.getLastD '|')
          have longer := goes_on.le
          have some_blank : 0 < weightBehind '|' blanks := weightBehind_pos blank
          have bar : charWeight '|' = 6 := rfl
          have quote_sign : charWeight '>' = 3 := rfl
          have blank_sign : charWeight ' ' = 3 := rfl
          right
          rw [List.cons_append, List.cons_append, weightBehind_cons, weightBehind_cons, weightBehind_cons, weightBehind_append,
            weightBehind_append, weightBehind_append, last_of, last_of, glued_of_ne (by decide), glued_of_ne (by decide)]
          omega
        · contradiction
      · exact shrunk_cons (ih rest c)

theorem startsTable_head {text : List Char} (table : startsTable text = true) : text.head? = some '|' := by
  unfold startsTable at table
  split at table
  · rfl
  · contradiction

/-- What is stripped from the end of a line weighs as much as three newlines, and a word at its end is not glued to the
bar any more. -/
theorem rstrip_weight {text table : List Char} (text_last : text.getLast? ≠ some '|') (nonempty : text ≠ [])
    (no_newline : '\n' ∉ text) (bar : table.head? = some '|') :
    weight (rstrip text) + 2 + weight table < weight (text ++ table) := by
  have whole : rstrip text ++ text.rtakeWhile isSpace = text := List.rdropWhile_append_rtakeWhile ..
  obtain ⟨rest, rfl⟩ := List.head?_eq_some_iff.mp bar
  cases blanks : text.rtakeWhile isSpace with
  | nil =>
    -- nothing is stripped, and the word is no longer glued to the bar
    rw [blanks, List.append_nil] at whole
    have word := List.rtakeWhile_eq_nil_iff.mp blanks nonempty
    obtain ⟨last, _, its, last_of⟩ := getLastD_of_ne_nil nonempty
    rw [its] at text_last
    rw [List.getLast?_eq_some_getLast nonempty, Option.some.injEq] at its
    rw [its] at word
    have glue : glued last '|' = 3 := by simp_all [glued]
    rw [whole]
    simp only [weight]
    rw [weightBehind_append, last_of, weightBehind_cons, weightBehind_cons, glue, glued_newline]
    omega
  | cons c more =>
    have member : c ∈ text.rtakeWhile isSpace := blanks ▸ List.mem_cons_self
    have spaces : ∀ d ∈ c :: more, isSpace d = true := fun d inside => List.mem_rtakeWhile_imp (blanks ▸ inside)
    obtain ⟨last, last_member, _, last_of⟩ := getLastD_of_ne_nil (List.cons_ne_nil c more)
    have heavy : charWeight c = 3 := by
      have not_newline : c ≠ '\n' := fun same =>
        no_newline (same ▸ (List.rtakeWhile_suffix _ _).subset member)
      have not_bar : c ≠ '|' := fun same => by simpa [same, isSpace] using spaces c List.mem_cons_self
      simp [charWeight, not_newline, not_bar]
    have behind : weightBehind last ('|' :: rest) = weight ('|' :: rest) := weightBehind_of_space (spaces last last_member)
    conv_rhs => rw [← whole, blanks, List.append_assoc, weight, weightBehind_append, weightBehind_append, last_of, behind,
      weightBehind_cons, heavy]
    rw [weight]
    omega

theorem splitGlued_shrunk {line : List Char} (no_newline : '\n' ∉ line) : Shrunk weight (splitGlued line) line := by
  unfold splitGlued
  dsimp only
  split
  · exact .refl _
  · rename_i n first
    have place := List.mem_of_mem_head? first
    obtain ⟨member, fits⟩ := List.mem_filter.mp place
    obtain ⟨no_bar, table⟩ := Bool.and_eq_true_iff.mp fits
    rw [List.mem_reverse, List.mem_range] at member
    split
    · exact .refl _
    · right
      have split_line : line.take (n + 1) ++ line.drop (n + 1) = line := List.take_append_drop ..
      have some_text : line.take (n + 1) ≠ [] := by
        rw [Ne, List.take_eq_nil_iff, not_or]
        exact ⟨Nat.succ_ne_zero n, List.ne_nil_of_length_pos (Nat.zero_lt_of_lt member)⟩
      have last : (line.take (n + 1)).getLast? ≠ some '|' := by
        rw [List.getLast?_take, if_neg (Nat.succ_ne_zero n)]
        simp only [List.head?_drop, List.getElem?_eq_getElem member, Option.any_some] at no_bar
        simpa [List.getElem?_eq_getElem member] using no_bar
      have lighter := rstrip_weight last some_text (fun inside => no_newline (List.mem_of_mem_take inside))
        (startsTable_head table)
      rw [split_line] at lighter
      refine lt_of_eq_of_lt ?_ lighter
      have newline : charWeight '\n' = 1 := rfl
      rw [weight, List.append_assoc, weightBehind_append, List.cons_append, List.cons_append, List.nil_append, weightBehind_cons,
        weightBehind_cons, newline, glued_of_ne (by decide), glued_newline, weight, weight]
      omega

theorem weight_line (line rest : List Char) : weight (line ++ '\n' :: rest) = weight line + 1 + weight rest := by
  have newline : charWeight '\n' = 1 := rfl
  rw [weight, weightBehind_append, weightBehind_cons, newline, glued_of_ne (by decide), weight, weight]
  omega

theorem intercalate_shrunk {lines : List (List Char)} (no_newline : ∀ line ∈ lines, '\n' ∉ line) :
    Shrunk weight (['\n'].intercalate (lines.map splitGlued)) (['\n'].intercalate lines) := by
  induction lines with
  | nil => exact .refl _
  | cons line rest ih =>
    have first := splitGlued_shrunk (no_newline line List.mem_cons_self)
    have others := ih fun line member => no_newline line (List.mem_cons_of_mem _ member)
    cases rest with
    | nil => simpa [List.intercalate] using first
    | cons next rest =>
      simp only [List.map_cons] at others ⊢
      rw [List.intercalate_cons_cons, List.intercalate_cons_cons, List.append_assoc, List.append_assoc, List.singleton_append]
      rcases first with same | lighter
      · rw [same]
        rcases others with all | fewer
        · rw [all]
          exact .refl _
        · right
          rw [weight_line, List.singleton_append, weight_line]
          omega
      · right
        have below := others.le
        rw [weight_line, List.singleton_append, weight_line]
        omega

theorem not_mem_splitOn {c : Char} {text line : List Char} (member : line ∈ text.splitOn c) : c ∉ line := by
  induction text generalizing line with
  | nil =>
    obtain rfl := List.mem_singleton.mp member
    exact List.not_mem_nil
  | cons first rest ih =>
    rw [List.splitOn_eq_splitOnP, List.splitOnP_cons_eq_if_modifyHead] at member
    split at member
    · rcases List.mem_cons.mp member with rfl | later
      · exact List.not_mem_nil
      · exact ih later
    · rename_i other
      cases lines : rest.splitOnP (· == c) with
      | nil => exact absurd lines (List.splitOnP_ne_nil _ _)
      | cons line' lines' =>
        rw [lines, List.modifyHead_cons] at member
        have of_rest : rest.splitOn c = line' :: lines' := lines
        rcases List.mem_cons.mp member with rfl | later
        · intro inside
          rcases List.mem_cons.mp inside with rfl | inside
          · exact other (beq_self_eq_true _)
          · exact ih (of_rest ▸ List.mem_cons_self) inside
        · exact ih (of_rest ▸ List.mem_cons_of_mem _ later)

theorem splitTables_shrunk (text : List Char) : Shrunk weight (splitTables text) text := by
  have shrunk := @intercalate_shrunk (text.splitOn '\n') fun _ member => not_mem_splitOn member
  rwa [List.intercalate_splitOn] at shrunk

theorem splitRows_shrunk (fuel : Nat) (text : List Char) (before : Char) :
    Shrunk (weightBehind before) (splitRows fuel text) text := by
  induction fuel generalizing text before with
  | zero => exact .refl _
  | succ fuel ih =>
    cases text with
    | nil => exact .refl _
    | cons c rest =>
      rw [splitRows]
      split
      · rename_i blank blanks after some_blank bar_next
        have whole : rest = (blank :: blanks) ++ '|' :: after := by
          rw [← some_blank, ← bar_next, List.takeWhile_append_dropWhile]
        have spaces (d : Char) (member : d ∈ blank :: blanks) : isSpace d = true :=
          List.mem_takeWhile_imp (some_blank ▸ member)
        split
        · rename_i bar
          obtain rfl := beq_iff_eq.mp bar
          obtain ⟨last, last_member, _, last_of⟩ := getLastD_of_ne_nil (List.cons_ne_nil blank blanks)
          have row := ih after '|'
          have bar_weight : charWeight '|' = 6 := rfl
          have newline_weight : charWeight '\n' = 1 := rfl
          by_cases newline : blank :: blanks = ['\n']
          · -- the row ends as it should
            rw [whole, newline]
            exact shrunk_cons (shrunk_cons (shrunk_cons row))
          · right
            have longer := row.le
            have heavy : 1 < weightBehind '|' (blank :: blanks) := weightBehind_heavy (List.cons_ne_nil blank blanks) newline
            rw [whole]
            rw [weightBehind_cons] at heavy
            simp only [weightBehind_cons, weightBehind_append, last_of, glued_of_space (spaces last last_member)]
            have behind_bar : glued '|' '\n' = 0 := rfl
            have behind_newline : glued '\n' '|' = 0 := rfl
            omega
        · exact shrunk_cons (ih rest c)
      · exact shrunk_cons (ih rest c)

/-- What is cut off behind a newline, or from the end, had its own weight. -/
theorem weight_cut {front back : List Char} (nonempty : front ≠ []) (space : ∀ c, isSpace (front.getLastD c) = true) :
    weight back < weight (front ++ back) := by
  have some_weight : 0 < weightBehind '\n' front := weightBehind_pos nonempty
  rw [weight, weight, weightBehind_append, weightBehind_of_space (space '\n'), weight]
  omega

theorem shrunk_end {front back : List Char} : Shrunk weight front (front ++ back) := by
  by_cases empty : back = []
  · rw [empty, List.append_nil]
    exact .refl _
  · right
    have some_weight : 0 < weightBehind (front.getLastD '\n') back := weightBehind_pos empty
    rw [weight, weight, weightBehind_append]
    omega

theorem rstrip_shrunk (text : List Char) : Shrunk weight (rstrip text) text := by
  have whole : rstrip text ++ text.rtakeWhile isSpace = text := List.rdropWhile_append_rtakeWhile ..
  conv => rhs; rw [← whole]
  exact shrunk_end

theorem dropSpace_shrunk (text : List Char) : Shrunk weight (text.dropWhile isSpace) text := by
  cases blanks : text.takeWhile isSpace with
  | nil =>
    left
    conv_rhs => rw [← List.takeWhile_append_dropWhile (p := isSpace) (l := text), blanks, List.nil_append]
  | cons blank rest =>
    right
    obtain ⟨last, member, _, last_of⟩ := getLastD_of_ne_nil (List.cons_ne_nil blank rest)
    have cut := @weight_cut (blank :: rest) (text.dropWhile isSpace) (List.cons_ne_nil blank rest) fun c => by
      rw [last_of]
      exact List.mem_takeWhile_imp (blanks ▸ member)
    rwa [← blanks, List.takeWhile_append_dropWhile] at cut

theorem trimBoth_shrunk (text : List Char) : Shrunk weight (trimBoth isSpace text) text :=
  (rstrip_shrunk _).trans (dropSpace_shrunk text)

theorem getLastD_append {back : List Char} {last : Char} (ends : ∀ c, back.getLastD c = last) (front : List Char) (c : Char) :
    (front ++ back).getLastD c = last := by
  induction front generalizing c with
  | nil => exact ends c
  | cons first rest ih => rw [List.cons_append, List.getLastD_cons, ih]

theorem dropNewline_some {text rest : List Char} (dropped : dropNewline text = some rest) :
    ∃ front, text = front ++ rest ∧ front ≠ [] ∧ ∀ c, front.getLastD c = '\n' := by
  unfold dropNewline at dropped
  split at dropped
  · obtain rfl := Option.some.inj dropped
    exact ⟨['\r', '\n'], rfl, by decide, fun _ => rfl⟩
  · obtain rfl := Option.some.inj dropped
    exact ⟨['\n'], rfl, by decide, fun _ => rfl⟩
  · contradiction

theorem afterPrefix_some {front text rest : List Char} (found : afterPrefix front text = some rest) : text = front ++ rest := by
  unfold afterPrefix at found
  split at found
  · rename_i starts
    obtain rfl := Option.some.inj found
    exact (List.prefix_iff_eq_append.mp (List.isPrefixOf_iff_prefix.mp starts)).symm
  · contradiction

theorem fenceBody_some {text body : List Char} (fence : fenceBody text = some body) :
    ∃ line, text = line ++ body ∧ line ≠ [] ∧ ∀ c, line.getLastD c = '\n' := by
  obtain ⟨rest, ticks, found⟩ := Option.bind_eq_some_iff.mp fence
  obtain ⟨word, _, found⟩ := List.exists_of_findSome?_eq_some found
  obtain ⟨behind, named, dropped⟩ := Option.bind_eq_some_iff.mp found
  obtain ⟨newline, rfl, _, newline_last⟩ := dropNewline_some dropped
  obtain rfl := afterPrefix_some named
  refine ⟨['`', '`', '`'] ++ (word ++ newline), ?_, by simp, fun c => ?_⟩
  · rw [afterPrefix_some ticks, List.append_assoc, List.append_assoc]
  · exact getLastD_append (getLastD_append newline_last _) _ c

theorem beforeFence_some {body inner : List Char} (fence : beforeFence body = some inner) : ∃ line, body = inner ++ line := by
  unfold beforeFence at fence
  split at fence
  · rename_i rest ends
    obtain rfl := Option.some.inj fence
    exact ⟨_, by rw [← List.reverse_reverse body, ends]; simp; rfl⟩
  · rename_i rest _ ends
    obtain rfl := Option.some.inj fence
    exact ⟨_, by rw [← List.reverse_reverse body, ends]; simp; rfl⟩
  · contradiction

theorem unfenced_lighter {text body : List Char} (fence : fenceBody text = some body) : weight (unfenced text) < weight text := by
  obtain ⟨line, rfl, nonempty, last⟩ := fenceBody_some fence
  have cut := @weight_cut line body nonempty fun c => by rw [last]; rfl
  have inside : Shrunk weight ((beforeFence body).getD (rstrip body)) body := by
    cases closed : beforeFence body with
    | none => exact rstrip_shrunk body
    | some inner =>
      obtain ⟨tail, rfl⟩ := beforeFence_some closed
      exact shrunk_end
  rw [unfenced, fence]
  exact inside.le.trans_lt cut

theorem unfenced_shrunk (text : List Char) : Shrunk weight (unfenced text) text := by
  cases fence : fenceBody text with
  | none => exact .inl (by rw [unfenced, fence])
  | some body => exact .inr (unfenced_lighter fence)

theorem unfenced_eq_self_iff (text : List Char) : unfenced text = text ↔ fenceBody text = none := by
  constructor
  · intro same
    cases fence : fenceBody text with
    | none => rfl
    | some body => exact absurd (same ▸ unfenced_lighter fence) (lt_irrefl _)
  · intro fence
    rw [unfenced, fence]

end Rewrites

section Normal

def rewritten (body : List Char) : List Char :=
  let body := singleBars false (unfenced body)
  let body := splitTables (barQuotes body.length true body)
  splitTables (splitRows body.length body)

theorem normalize_toList (text : String) : (normalizeAgreementMarkdown text).toList =
    if trimBoth isSpace text.toList = [] then [] else rewritten (trimBoth isSpace text.toList) := by
  unfold normalizeAgreementMarkdown
  have stripped : (Text.strip text).toList = trimBoth isSpace text.toList := String.toList_ofList
  rw [stripped]
  dsimp only
  split
  · rfl
  · exact String.toList_ofList

structure Settled (text : List Char) : Prop where
  stripped : trimBoth isSpace text = text
  unfenced : fenceBody text = none
  bars : singleBars false text = text
  quotes : barQuotes text.length true text = text
  tables : splitTables text = text
  rows : splitRows text.length text = text

theorem settled_nil : Settled [] := ⟨rfl, rfl, rfl, rfl, rfl, rfl⟩

theorem bars_shrunk (text : List Char) : Shrunk weight (singleBars false text) text := singleBars_shrunk text '\n'

theorem quotes_shrunk (text : List Char) : Shrunk weight (barQuotes text.length true text) text :=
  barQuotes_shrunk text.length text '\n'

theorem rows_shrunk (text : List Char) : Shrunk weight (splitTables (splitRows text.length text)) text :=
  (splitTables_shrunk _).trans (splitRows_shrunk text.length text '\n')

theorem tables_shrunk (text : List Char) :
    Shrunk weight (splitTables (splitRows (splitTables text).length (splitTables text))) text :=
  (rows_shrunk _).trans (splitTables_shrunk text)

def retabled (text : List Char) : List Char :=
  let body := splitTables (barQuotes text.length true text)
  splitTables (splitRows body.length body)

theorem retabled_shrunk (text : List Char) : Shrunk weight (retabled text) text := (tables_shrunk _).trans (quotes_shrunk text)

theorem retabled_eq_self_iff (text : List Char) : retabled text = text ↔
    barQuotes text.length true text = text ∧ splitTables text = text ∧ splitRows text.length text = text := by
  have quotes := Shrunk.comp_eq_self_iff tables_shrunk quotes_shrunk text
  have tables := Shrunk.comp_eq_self_iff rows_shrunk splitTables_shrunk text
  have rows := Shrunk.comp_eq_self_iff splitTables_shrunk (fun text => splitRows_shrunk text.length text '\n') text
  refine Iff.trans quotes (and_congr_right fun _ => ?_)
  rw [tables, rows, and_comm (a := splitRows _ _ = _), ← and_assoc, and_self]

theorem rewritten_shrunk (text : List Char) : Shrunk weight (rewritten text) text :=
  (retabled_shrunk _).trans ((bars_shrunk _).trans (unfenced_shrunk text))

theorem rewritten_eq_self_iff (text : List Char) : rewritten text = text ↔
    fenceBody text = none ∧ singleBars false text = text ∧ barQuotes text.length true text = text ∧
      splitTables text = text ∧ splitRows text.length text = text := by
  have fence := Shrunk.comp_eq_self_iff (fun text => (retabled_shrunk _).trans (bars_shrunk text)) unfenced_shrunk text
  have bars := Shrunk.comp_eq_self_iff retabled_shrunk bars_shrunk text
  refine Iff.trans fence ?_
  rw [unfenced_eq_self_iff, bars, retabled_eq_self_iff]

theorem normalize_shrunk (text : String) :
    Shrunk (fun text : String => weight text.toList) (normalizeAgreementMarkdown text) text := by
  have shrunk : Shrunk weight (normalizeAgreementMarkdown text).toList text.toList := by
    rw [normalize_toList]
    split
    · rename_i blank
      have stripped := trimBoth_shrunk text.toList
      rwa [blank] at stripped
    · exact (rewritten_shrunk _).trans (trimBoth_shrunk text.toList)
  exact shrunk.imp_left String.toList_inj.mp

/-- A text is left as it is when each of the rewrites leaves it: one cannot undo what another has done. -/
theorem normalize_eq_self_iff (text : String) : normalizeAgreementMarkdown text = text ↔ Settled text.toList := by
  rw [← String.toList_inj, normalize_toList]
  constructor
  · intro same
    split at same
    · rw [← same]
      exact settled_nil
    · have rewriting := Shrunk.comp_eq_self_iff rewritten_shrunk trimBoth_shrunk text.toList
      obtain ⟨stripped, rewritten⟩ := rewriting.mp same
      obtain ⟨fence, bars, quotes, tables, rows⟩ := (rewritten_eq_self_iff _).mp rewritten
      exact ⟨stripped, fence, bars, quotes, tables, rows⟩
  · intro settled
    rw [settled.stripped]
    split
    · exact Eq.symm ‹_›
    · exact (rewritten_eq_self_iff _).mpr ⟨settled.unfenced, settled.bars, settled.quotes, settled.tables, settled.rows⟩

end Normal

section Saving

/-- A patch of a document that gives back the stored texts, of all languages or of some. -/
structure Resubmission (document : LegalDocument) where
  patch : TextPatch
  en : patch.en = none ∨ patch.en = some document.texts.en
  ru : patch.ru = none ∨ patch.ru = some document.texts.ru
  es : patch.es = none ∨ patch.es = some document.texts.es

/-- The patch changes neither the texts nor the version, and no user has anything else to accept than before. -/
structure NoOp (document : LegalDocument) (patch : TextPatch) : Prop where
  texts : (document.patched patch).texts = document.texts
  version : (document.patched patch).version = document.version
  pending : ∀ accepted, (document.patched patch).pending accepted = document.pending accepted

/-- The text of a language: nothing is stored, or a text that is not empty and settled. -/
def SettledText (stored : Option String) : Prop := ∀ text, stored = some text → text ≠ "" ∧ Settled text.toList

structure SettledTexts (texts : Texts) : Prop where
  en : SettledText texts.en
  ru : SettledText texts.ru
  es : SettledText texts.es

/-- A text that is given back, or left out, is normalized once more. -/
theorem patchedText_resubmitted {stored : Option String} {field : Option (Option String)}
    (same : field = none ∨ field = some stored) :
    patchedText stored field = (stored.map normalizeAgreementMarkdown).getD "" := by
  have again (text : String) : normalizeAgreementMarkdown (Text.strip text) = normalizeAgreementMarkdown text := by
    rw [normalizeAgreementMarkdown, Text.strip_strip, normalizeAgreementMarkdown]
  rcases same with rfl | rfl
  · cases stored with
    | none => rfl
    | some text => rw [patchedText, again, Option.map_some, Option.getD_some]
  · cases stored with
    | none => rfl
    | some text => rw [patchedText, again, Option.map_some, Option.getD_some]

theorem nonEmpty_iff {text other : String} : nonEmpty (some text) = some other ↔ text = other ∧ other ≠ "" := by
  unfold nonEmpty
  split
  · rename_i empty
    rw [Option.some.inj empty]
    exact iff_of_false (fun none => nomatch none) fun both => both.2 both.1.symm
  · rename_i not_empty
    rw [Option.some.injEq]
    exact ⟨fun same => ⟨same, fun empty => not_empty (by rw [same, empty])⟩, And.left⟩

theorem settledText_iff (stored : Option String) :
    nonEmpty (some ((stored.map normalizeAgreementMarkdown).getD "")) = stored ↔ SettledText stored := by
  cases stored with
  | none => exact iff_of_true rfl fun _ none => nomatch none
  | some text =>
    rw [Option.map_some, Option.getD_some, nonEmpty_iff, normalize_eq_self_iff, and_comm]
    constructor
    · rintro both other same
      exact Option.some.inj same ▸ both
    · exact fun settled => settled text rfl

theorem stripped_of_settled {stored : Option String} (settled : SettledText stored) :
    (stored.map normalizeAgreementMarkdown).getD "" = stripped stored := by
  cases stored with
  | none => rfl
  | some text =>
    have its := (settled text rfl).2
    rw [Option.map_some, Option.getD_some, (normalize_eq_self_iff text).mpr its, stripped, Option.getD_some, Text.strip,
      its.stripped, String.ofList_toList]

theorem noOp_of_texts {document : LegalDocument} {patch : TextPatch} (texts : (document.patched patch).texts = document.texts)
    (version : (document.patched patch).version = document.version) : NoOp document patch := by
  have alike : Alike (document.patched patch) document := ⟨texts, version⟩
  exact ⟨texts, version, fun accepted => alike.pending accepted⟩

/-- Giving back the stored texts changes nothing exactly when each of them is settled. -/
theorem noOp_iff {document : LegalDocument} (again : Resubmission document) :
    NoOp document again.patch ↔ SettledTexts document.texts := by
  have values : document.patchedTexts again.patch =
      document.texts.map fun stored => (stored.map normalizeAgreementMarkdown).getD "" := by
    rw [LegalDocument.patchedTexts, Localized.zipWith, patchedText_resubmitted again.en, patchedText_resubmitted again.ru,
      patchedText_resubmitted again.es]
    rfl
  have texts_iff : (document.patched again.patch).texts = document.texts ↔ SettledTexts document.texts := by
    rw [patched_texts, values]
    constructor
    · intro same
      exact ⟨(settledText_iff _).mp (congrArg Localized.en same), (settledText_iff _).mp (congrArg Localized.ru same),
        (settledText_iff _).mp (congrArg Localized.es same)⟩
    · intro settled
      have en := (settledText_iff _).mpr settled.en
      have ru := (settledText_iff _).mpr settled.ru
      have es := (settledText_iff _).mpr settled.es
      simp only [Localized.map, en, ru, es]
  constructor
  · exact fun nothing => texts_iff.mp nothing.texts
  · intro settled
    refine noOp_of_texts (texts_iff.mpr settled) (patched_same ?_).1
    -- the patch finds the values that it had
    rw [LegalDocument.changedBy, decide_eq_false_iff_not, not_not, values, Localized.map, stripped_of_settled settled.en,
      stripped_of_settled settled.ru, stripped_of_settled settled.es]
    rfl

structure Normalization : Prop where
  settled : ∀ text, normalizeAgreementMarkdown text = text ↔ Settled text.toList
  idempotent : ∀ text, normalizeAgreementMarkdown (normalizeAgreementMarkdown text) = normalizeAgreementMarkdown text ↔
    Settled (normalizeAgreementMarkdown text).toList
  settles : ∀ text, ∃ saves ≤ weight text.toList, Settled (Nat.iterate normalizeAgreementMarkdown saves text).toList
  resubmission : ∀ (document : LegalDocument) (again : Resubmission document),
    NoOp document again.patch ↔ SettledTexts document.texts

theorem agreement_normalization : Normalization where
  settled := normalize_eq_self_iff
  idempotent _ := normalize_eq_self_iff _
  settles text := by
    obtain ⟨saves, few, rests⟩ := Shrunk.settles normalize_shrunk text
    exact ⟨saves, few, (normalize_eq_self_iff _).mp rests⟩
  resubmission _ := noOp_iff

/-- Terms between two fences, one inside the other: normalizing takes one off. -/
def nestedFence : String := "```\n```\nTerms\n```\n```"

def fencedTerms : LegalDocument := ⟨⟨some (normalizeAgreementMarkdown nestedFence), none, none⟩, 1, true⟩

/-- A patch of the untouched document makes a second version of it, which a user of the first has to accept. -/
theorem nested_fence_changes :
    normalizeAgreementMarkdown (normalizeAgreementMarkdown nestedFence) ≠ normalizeAgreementMarkdown nestedFence ∧
      (fencedTerms.patched ⟨none, some none, none⟩).version = 2 ∧
      fencedTerms.pending (some 1) = false ∧ (fencedTerms.patched ⟨none, some none, none⟩).pending (some 1) = true := by
  decide +kernel

end Saving

end IdigestHub.Legal
