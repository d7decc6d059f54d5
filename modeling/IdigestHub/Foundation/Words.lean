import IdigestHub.Foundation.Text
import Mathlib.Data.List.DropRight
import Mathlib.Data.List.SplitBy

/-! What trimming leaves, words and their joins, and that numbers are told apart by their digits. -/

set_option autoImplicit false

namespace Foundation.Text

section Trimming

variable {outer : Char → Bool}

theorem trimBoth_eq (text : List Char) : trimBoth outer text = (text.dropWhile outer).rdropWhile outer := rfl

theorem dropWhile_trimBoth (text : List Char) : (trimBoth outer text).dropWhile outer = trimBoth outer text := by
  rw [trimBoth_eq, List.dropWhile_eq_self_iff]
  intro nonempty trimmed
  have before := List.rdropWhile_prefix outer (text.dropWhile outer)
  have longer : 0 < (text.dropWhile outer).length := lt_of_lt_of_le nonempty before.length_le
  rw [before.getElem] at trimmed
  exact List.dropWhile_get_zero_not outer text longer trimmed

theorem trimBoth_trimBoth (text : List Char) : trimBoth outer (trimBoth outer text) = trimBoth outer text := by
  conv_lhs => rw [trimBoth_eq, dropWhile_trimBoth, trimBoth_eq, List.rdropWhile_idempotent]
  rfl

theorem trimBoth_eq_nil_iff (text : List Char) : trimBoth outer text = [] ↔ ∀ c ∈ text, outer c = true := by
  rw [trimBoth_eq, List.rdropWhile_eq_nil_iff]
  constructor
  · intro all c member
    rw [← List.takeWhile_append_dropWhile (p := outer) (l := text)] at member
    rcases List.mem_append.mp member with before | after
    · exact List.mem_takeWhile_imp before
    · exact all c after
  · intro all c member
    exact all c ((List.dropWhile_suffix outer).subset member)

theorem trimBoth_sublist (text : List Char) : (trimBoth outer text).Sublist text :=
  (List.rdropWhile_prefix outer _).sublist.trans (List.dropWhile_suffix outer).sublist

theorem trimBoth_of_length {text : List Char} (long : text.length ≤ (trimBoth outer text).length) : trimBoth outer text = text :=
  (trimBoth_sublist text).eq_of_length_le long

theorem trimBoth_eq_self_iff (text : List Char) : trimBoth outer text = text ↔
    (∀ c ∈ text.head?, outer c = false) ∧ ∀ c ∈ text.getLast?, outer c = false := by
  rw [trimBoth_eq]
  constructor
  · intro same
    have before : text.dropWhile outer = text := by
      refine (List.dropWhile_suffix outer).eq_of_length_le ?_
      conv => lhs; rw [← same]
      exact (List.rdropWhile_prefix outer _).length_le
    rw [before] at same
    refine ⟨fun c first => ?_, fun c last => ?_⟩
    · obtain ⟨rest, rfl⟩ := List.head?_eq_some_iff.mp first
      by_contra trimmed
      rw [List.dropWhile_cons_of_pos (by simpa using trimmed)] at before
      have shorter := (List.dropWhile_suffix outer (l := rest)).length_le
      rw [before, List.length_cons] at shorter
      omega
    · obtain ⟨rest, rfl⟩ := List.getLast?_eq_some_iff.mp last
      by_contra trimmed
      rw [List.rdropWhile_concat_pos _ _ _ (by simpa using trimmed)] at same
      have shorter := (List.rdropWhile_prefix outer rest).length_le
      rw [same, List.length_append, List.length_singleton] at shorter
      omega
  · rintro ⟨first, last⟩
    have before : text.dropWhile outer = text := by
      cases text with
      | nil => rfl
      | cons c rest => exact List.dropWhile_cons_of_neg (by simp [first c rfl])
    rw [before]
    rcases List.eq_nil_or_concat text with rfl | ⟨rest, c, rfl⟩
    · rfl
    · rw [List.concat_eq_append] at last ⊢
      have kept : outer c = false := last c List.getLast?_concat
      exact List.rdropWhile_concat_neg _ _ _ (by simp [kept])

theorem trimBoth_of_kept {text : List Char} (kept : ∀ c ∈ text, outer c = false) : trimBoth outer text = text :=
  (trimBoth_eq_self_iff text).mpr
    ⟨fun c first => kept c (List.mem_of_mem_head? first), fun c last => kept c (List.mem_of_mem_getLast? last)⟩

/-- A character that is not trimmed holds what surrounds it apart. -/
theorem trimBoth_around {front back : List Char} {mark : Char} (kept : outer mark = false) :
    trimBoth outer (front ++ mark :: back) = front.dropWhile outer ++ mark :: back.rdropWhile outer := by
  have stops : ¬ outer mark = true := by simp [kept]
  have before : (front ++ mark :: back).dropWhile outer = front.dropWhile outer ++ mark :: back := by
    rw [List.dropWhile_append]
    split
    · rename_i blank
      rw [List.isEmpty_iff.mp blank, List.dropWhile_cons_of_neg stops]
      rfl
    · rfl
  have after : (back.reverse ++ mark :: (front.dropWhile outer).reverse).dropWhile outer =
      back.reverse.dropWhile outer ++ mark :: (front.dropWhile outer).reverse := by
    rw [List.dropWhile_append]
    split
    · rename_i blank
      rw [List.isEmpty_iff.mp blank, List.dropWhile_cons_of_neg stops]
      rfl
    · rfl
  rw [trimBoth_eq, before, List.rdropWhile, List.reverse_append, List.reverse_cons, List.append_assoc,
    List.singleton_append, after]
  simp [List.rdropWhile]

end Trimming

@[simp] theorem strip_strip (text : String) : strip (strip text) = strip text := by
  simp [strip, trimBoth_trimBoth]

theorem toString_injective {n m : Nat} (same : toString n = toString m) : n = m := by
  have digits : Nat.toDigits 10 n = Nat.toDigits 10 m := by
    rw [← Nat.toList_repr, ← Nat.toList_repr]
    exact congrArg String.toList same
  rw [← Nat.ofDigitChars_ten_toDigits (n := n), digits, Nat.ofDigitChars_ten_toDigits]

@[simp] theorem strip_empty : strip "" = "" := by rfl

section Joining

/-- A word has no whitespace, and something else. -/
def IsWord (word : List Char) : Prop := word ≠ [] ∧ ∀ c ∈ word, isSpace c = false

theorem isWord_of_mem_words {text word : List Char} (member : word ∈ words text) : IsWord word := by
  obtain ⟨piece, mixed⟩ := List.mem_filter.mp member
  have same : word.Pairwise fun a b => isSpace a = isSpace b :=
    ((List.isChain_of_mem_splitBy piece).imp fun a b same => by simpa using same).pairwise
  refine ⟨List.ne_nil_of_mem_splitBy piece, fun c its => ?_⟩
  simp only [Bool.not_eq_true', List.all_eq_false, Bool.not_eq_true] at mixed
  obtain ⟨other, there, plain⟩ := mixed
  have symmetric : Std.Symm fun a b : Char => isSpace a = isSpace b := ⟨fun _ _ => Eq.symm⟩
  rw [same.forall_of_forall (R := fun a b => isSpace a = isSpace b) (fun _ _ => rfl) its there, plain]

theorem IsWord.chain {word : List Char} (isWord : IsWord word) : word.IsChain fun a b => isSpace a == isSpace b := by
  refine (List.pairwise_iff_forall_sublist.mpr fun {a b} sub => ?_).isChain
  rw [isWord.2 a (sub.subset (by simp)), isWord.2 b (sub.subset (by simp))]
  rfl

theorem head_join {word : List Char} (isWord : IsWord word) (pieces : List (List Char)) :
    ∀ c ∈ (List.intercalate [' '] (word :: pieces)).head?, isSpace c = false := by
  intro c first
  obtain ⟨a, rest, rfl⟩ := List.exists_cons_of_ne_nil isWord.1
  have starts : (List.intercalate [' '] ((a :: rest) :: pieces)).head? = some a := by
    cases pieces <;> simp [List.intercalate]
  obtain rfl : a = c := Option.some.inj (starts.symm.trans first)
  exact isWord.2 a List.mem_cons_self

theorem last_join {pieces : List (List Char)} (all : ∀ word ∈ pieces, IsWord word) :
    ∀ c ∈ (List.intercalate [' '] pieces).getLast?, isSpace c = false := by
  induction pieces with
  | nil => simp
  | cons word pieces ih =>
    have isWord := all word List.mem_cons_self
    cases pieces with
    | nil =>
      intro c last
      rw [show List.intercalate [' '] [word] = word by simp [List.intercalate]] at last
      exact isWord.2 c (List.mem_of_mem_getLast? last)
    | cons next pieces =>
      have rest := ih fun other member => all other (List.mem_cons_of_mem _ member)
      have joined : List.intercalate [' '] (word :: next :: pieces) =
        word ++ ' ' :: List.intercalate [' '] (next :: pieces) := rfl
      have nonempty : List.intercalate [' '] (next :: pieces) ≠ [] := by
        intro none
        obtain ⟨a, tail, same⟩ := List.exists_cons_of_ne_nil (all next (by simp)).1
        cases pieces <;> simp [List.intercalate, same] at none
      intro c last
      rw [joined, List.getLast?_append_of_ne_nil _ (List.cons_ne_nil _ _), List.getLast?_cons_of_ne_nil nonempty] at last
      exact rest c last

theorem words_join {pieces : List (List Char)} (all : ∀ word ∈ pieces, IsWord word) :
    words (List.intercalate [' '] pieces) = pieces := by
  have kept {word : List Char} (isWord : IsWord word) : word.all isSpace = false := by
    obtain ⟨c, rest, rfl⟩ := List.exists_cons_of_ne_nil isWord.1
    simp [isWord.2 c List.mem_cons_self]
  induction pieces with
  | nil => rfl
  | cons word pieces ih =>
    have isWord := all word List.mem_cons_self
    cases pieces with
    | nil =>
      rw [show List.intercalate [' '] [word] = word by simp [List.intercalate]]
      simp [words, List.splitBy_of_isChain isWord.1 isWord.chain, kept isWord]
    | cons next pieces =>
      have joined : List.intercalate [' '] (word :: next :: pieces) =
        word ++ ' ' :: List.intercalate [' '] (next :: pieces) := rfl
      have ends : ∀ c ∈ word.getLast?, (isSpace c == isSpace ' ') = false := by
        intro c last
        rw [isWord.2 c (List.mem_of_mem_getLast? last)]
        rfl
      have begins : ∀ a ∈ [' '].getLast?, ∀ c ∈ (List.intercalate [' '] (next :: pieces)).head?,
        (isSpace a == isSpace c) = false := by
        intro a last c first
        obtain rfl : ' ' = a := by simpa using last
        rw [head_join (all next (by simp)) pieces c first]
        rfl
      have rest := ih fun other member => all other (List.mem_cons_of_mem _ member)
      rw [joined, words, List.splitBy_append_cons _ ends, List.splitBy_of_isChain isWord.1 isWord.chain,
        ← List.singleton_append (x := ' '), List.splitBy_append begins]
      have blank : ([' '].splitBy fun a b => isSpace a == isSpace b).filter (fun word => !word.all isSpace) = [] := by decide
      rw [words] at rest
      rw [List.filter_append, List.filter_append, rest, blank]
      simp [kept isWord]

theorem trimBoth_join {pieces : List (List Char)} (all : ∀ word ∈ pieces, IsWord word) :
    trimBoth isSpace (List.intercalate [' '] pieces) = List.intercalate [' '] pieces := by
  have first : (List.intercalate [' '] pieces).dropWhile isSpace = List.intercalate [' '] pieces := by
    refine List.dropWhile_eq_self_iff.mpr fun nonempty space => ?_
    cases pieces with
    | nil => simp at nonempty
    | cons word pieces =>
      have starts := head_join (all word List.mem_cons_self) pieces _ (List.head?_eq_getElem? ▸ List.getElem?_eq_getElem nonempty)
      rw [starts] at space
      contradiction
  rw [trimBoth_eq, first]
  refine List.rdropWhile_eq_self_iff.mpr fun nonempty space => ?_
  rw [last_join all _ (List.getLast?_eq_some_getLast nonempty)] at space
  contradiction

theorem squeeze_strip_squeeze (text : String) : squeeze (strip (squeeze text)) = squeeze text := by
  have all : ∀ word ∈ words text.toList, IsWord word := fun word => isWord_of_mem_words
  simp [squeeze, strip, trimBoth_join all, words_join all]

end Joining

end Foundation.Text
