import IdigestHub.Foundation.Urls
import Mathlib.Data.Nat.Digits.Defs

/-! The host and the port in a `netloc`. They are read when they are asked for, so that a URL that is parsed may still have no
port that reads. -/

set_option autoImplicit false

namespace Foundation.Urls

/-- `_hostinfo`: the host, and the text behind its colon. -/
def hostAndPort (netloc : List Char) : List Char × List Char :=
  if (hostinfo netloc).contains '[' then
    ((cut ']' (cut '[' (hostinfo netloc)).2).1, (cut ':' (cut ']' (cut '[' (hostinfo netloc)).2).2).2)
  else cut ':' (hostinfo netloc)

/-- The zone of a scoped address keeps its letters. -/
def hostname (lower : List Char → List Char) (netloc : List Char) : Option (List Char) :=
  if (hostAndPort netloc).1.isEmpty then none
  else some (lower ((hostAndPort netloc).1.takeWhile (· != '%')) ++ (hostAndPort netloc).1.dropWhile (· != '%'))

def digitsValue (digits : List Char) : Nat := Nat.ofDigits 10 (digits.map fun c => c.toNat - '0'.toNat).reverse

/-- `none` is the `ValueError` of a port that is no number, is too long for `int`, or is out of range. -/
def port (netloc : List Char) : Option (Option Nat) :=
  let digits := (hostAndPort netloc).2
  if digits.isEmpty then some none
  else if digits.all Char.isDigit && digits.length ≤ 4300 && digitsValue digits ≤ 65535 then some (some (digitsValue digits))
  else none

theorem hostAndPort_sublist (netloc : List Char) : (hostAndPort netloc).1.Sublist netloc := by
  have info : (hostinfo netloc).Sublist netloc := by
    rw [hostinfo, rpartition, ← List.reverse_sublist, List.reverse_reverse]
    exact (List.takeWhile_prefix _).sublist
  rw [hostAndPort]
  split
  · exact ((cut_fst_sublist _).trans (cut_snd_sublist _)).trans info
  · exact (cut_fst_sublist _).trans info

theorem host_safe (text : List Char) : ∀ c ∈ (hostAndPort (parts text).netloc).1, netlocEnd c = false := fun c member =>
  (wellFormed_parts text).netloc c ((hostAndPort_sublist _).subset member)

theorem hostname_safe {lower : List Char → List Char}
    (lowered : ∀ text c, netlocEnd c = true → c ∈ lower text → c ∈ text) {text host : List Char}
    (named : hostname lower (parts text).netloc = some host) : ∀ c ∈ host, netlocEnd c = false := by
  intro c member
  have safe := host_safe text
  rw [hostname] at named
  split at named
  · contradiction
  · cases named
    by_contra ends
    have ends : netlocEnd c = true := by simpa using ends
    have inside : c ∈ (hostAndPort (parts text).netloc).1 := by
      rcases List.mem_append.mp member with before | zone
      · exact (List.takeWhile_prefix _).subset (lowered _ c ends before)
      · exact (List.dropWhile_suffix _).subset zone
    exact Bool.false_ne_true ((safe c inside).symm.trans ends)

/-- A text whose first colon follows something else than a scheme, and that starts with no slash, has no `netloc`. -/
theorem netloc_unlabelled {first : Char} {label : List Char} (visible : c0OrSpace first = false) (slash : first ≠ '/')
    (safe : ∀ c ∈ first :: label, unsafeChar c = false) (outside : ':' ∉ first :: label)
    (foreign : (first :: label).all schemeChar = false) (rest : List Char) :
    (parts (first :: label ++ ':' :: rest)).netloc = [] := by
  have clean : sanitize (first :: label ++ ':' :: rest) = first :: label ++ ':' :: rest.filter fun c => !unsafeChar c := by
    have kept : (first :: label).filter (fun c => !unsafeChar c) = first :: label :=
      List.filter_eq_self.mpr fun c member => by rw [safe c member]; rfl
    rw [sanitize, List.cons_append, List.dropWhile_cons_of_neg (by simp [visible]), ← List.cons_append, List.filter_append, kept,
      List.filter_cons_of_pos (by decide)]
  have unread : splitScheme (first :: label ++ ':' :: rest.filter fun c => !unsafeChar c) =
      ([], first :: label ++ ':' :: rest.filter fun c => !unsafeChar c) := by
    rw [splitScheme, cut_append outside]
    simp only [foreign, Bool.and_false, Bool.false_eq_true, if_false]
  have start : "//".toList.isPrefixOf (first :: label ++ ':' :: rest.filter fun c => !unsafeChar c) = false := by
    have double : "//".toList = ['/', '/'] := rfl
    rw [double, List.cons_append, List.isPrefixOf_cons_cons, beq_false_of_ne (Ne.symm slash), Bool.false_and]
  rw [parts, clean, unread, splitNetloc, start]
  rfl

end Foundation.Urls
