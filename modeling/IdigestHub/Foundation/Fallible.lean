import Mathlib.Data.List.Basic

/-! Programs that fail with a value: what a result says about the steps that led to it. -/

set_option autoImplicit false

namespace Foundation.Fallible

variable {E F A B : Type}

theorem bind_ok {first : Except E A} {next : A → Except E B} {result : B} :
    (first >>= next) = .ok result ↔ ∃ value, first = .ok value ∧ next value = .ok result := by
  cases first with
  | error failure => simp [bind, Except.bind]
  | ok value => simp [bind, Except.bind]

theorem mapError_ok {program : Except E A} {f : E → F} {result : A} :
    program.mapError f = .ok result ↔ program = .ok result := by
  cases program with
  | error failure => simp [Except.mapError]
  | ok value => simp [Except.mapError]

theorem map_ok {program : Except E A} {f : A → B} {result : B} :
    program.map f = .ok result ↔ ∃ value, program = .ok value ∧ f value = result := by
  cases program with
  | error failure => simp [Except.map]
  | ok value => simp [Except.map]

theorem guard_ok {condition : Bool} {failure : E} {next : Except E A} {result : A} :
    (if condition then .error failure else next) = .ok result ↔ condition = false ∧ next = .ok result := by
  cases condition with
  | false => simp
  | true => simp

/-- What each turn of a loop keeps, the loop keeps, by induction on the items that are left. -/
theorem foldlM_keeps {S I : Type} {turn : S → I → Option S} {P : S → Prop} {items : List I}
    (kept : ∀ s, P s → ∀ item ∈ items, ∀ next, turn s item = some next → P next) {s last : S} (start : P s)
    (ran : items.foldlM turn s = some last) : P last := by
  induction items generalizing s with
  | nil =>
    obtain rfl : s = last := Option.some.inj ran
    exact start
  | cons item rest ih =>
    rw [List.foldlM_cons] at ran
    obtain ⟨next, turned, onwards⟩ := Option.bind_eq_some_iff.mp ran
    have held : P next := kept s start item (List.mem_cons_self ..) next turned
    exact ih (fun s holds other member => kept s holds other (List.mem_cons_of_mem item member)) held onwards

/-- A loop whose every turn succeeds comes to its end, with what is kept about the items that are done. -/
theorem foldlM_along {S I : Type} {turn : S → I → Option S} {P : List I → S → Prop} {items : List I}
    (kept : ∀ done item rest s, items = done ++ item :: rest → P done s → ∃ next, turn s item = some next ∧
      P (done ++ [item]) next)
    {s : S} (start : P [] s) : ∃ last, items.foldlM turn s = some last ∧ P items last := by
  suffices onwards : ∀ rest done s, items = done ++ rest → P done s → ∃ last, rest.foldlM turn s = some last ∧ P items last from
    onwards items [] s rfl start
  intro rest
  induction rest with
  | nil =>
    intro done s place held
    rw [List.append_nil] at place
    exact ⟨s, rfl, place ▸ held⟩
  | cons item rest ih =>
    intro done s place held
    obtain ⟨next, turned, later⟩ := kept done item rest s place held
    obtain ⟨last, ran, final⟩ := ih (done ++ [item]) next (by rw [place, List.append_assoc]; rfl) later
    refine ⟨last, ?_, final⟩
    rw [List.foldlM_cons, turned]
    exact ran

theorem foldlM_map {S I V : Type} {value : I → Option V} {turn : S → I → V → S} {items : List I} {s last : S}
    (ran : items.foldlM (fun s item => (value item).map (turn s item)) s = some last) (default : V) :
    (∀ item ∈ items, (value item).isSome = true) ∧ last = items.foldl
      (fun s item => turn s item ((value item).getD default)) s := by
  induction items generalizing s with
  | nil => exact ⟨fun item member => absurd member List.not_mem_nil, (Option.some.inj ran).symm⟩
  | cons item rest ih =>
    rw [List.foldlM_cons] at ran
    obtain ⟨next, turned, onwards⟩ := Option.bind_eq_some_iff.mp ran
    obtain ⟨its, asked, rfl⟩ := Option.map_eq_some_iff.mp turned
    obtain ⟨all, same⟩ := ih onwards
    refine ⟨?_, ?_⟩
    · rintro other (_ | ⟨_, member⟩)
      · rw [asked]
        rfl
      · exact all other member
    · rw [List.foldl_cons, asked]
      exact same

end Foundation.Fallible
