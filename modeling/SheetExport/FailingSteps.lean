/-!
# Computations that may fail

The library's steps run in `Except`: a step gives a value, or it stops the whole computation with
an error. The lemmas here take a finished computation apart without unfolding `bind`. A
computation that succeeded succeeded at each of its steps (`bind_eq_ok`); one that failed failed
at its first step or at a later one (`bind_eq_error`). A mapping over a list succeeds when every
item does (`exists_mapM_eq_ok`), and one that failed failed at one of its items, with that item's
error (`exists_of_mapM_eq_error`).
-/

namespace SheetExport

section Steps

variable {ε α β : Type}

theorem bind_eq_ok {x : Except ε α} {f : α → Except ε β} {result : β} :
    x >>= f = .ok result ↔ ∃ value, x = .ok value ∧ f value = .ok result := by
  cases x <;> simp [bind, Except.bind]

theorem bind_eq_error {x : Except ε α} {f : α → Except ε β} {failure : ε} :
    x >>= f = .error failure ↔
      x = .error failure ∨ ∃ value, x = .ok value ∧ f value = .error failure := by
  cases x <;> simp [bind, Except.bind]

theorem map_eq_ok {f : α → β} {x : Except ε α} {result : β} :
    x.map f = .ok result ↔ ∃ value, x = .ok value ∧ f value = result := by
  cases x <;> simp [Except.map]

/-- A mapping over a list with a first item succeeds when that item and then the rest do. -/
theorem mapM_cons_eq_ok {g : α → Except ε β} {item : α} {rest : List α} {results : List β} :
    (item :: rest).mapM g = .ok results ↔
      ∃ value values, g item = .ok value ∧ rest.mapM g = .ok values ∧
        results = value :: values := by
  rw [List.mapM_cons, bind_eq_ok]
  constructor
  · rintro ⟨value, first, mapped⟩
    obtain ⟨values, later, built⟩ := bind_eq_ok.mp mapped
    exact ⟨value, values, first, later, (Except.ok.inj built).symm⟩
  · rintro ⟨value, values, first, later, rfl⟩
    exact ⟨value, first, bind_eq_ok.mpr ⟨values, later, rfl⟩⟩

theorem exists_mapM_eq_ok {g : α → Except ε β} :
    ∀ {items : List α}, (∀ item ∈ items, ∃ value, g item = .ok value) →
      ∃ values, items.mapM g = .ok values
  | [], _ => ⟨[], rfl⟩
  | item :: rest, each => by
      obtain ⟨value, first⟩ := each item List.mem_cons_self
      obtain ⟨values, later⟩ := exists_mapM_eq_ok fun other member =>
        each other (List.mem_cons_of_mem item member)
      exact ⟨value :: values, mapM_cons_eq_ok.mpr ⟨value, values, first, later, rfl⟩⟩

theorem exists_of_mapM_eq_error {g : α → Except ε β} {failure : ε} :
    ∀ {items : List α}, items.mapM g = .error failure → ∃ item ∈ items, g item = .error failure
  | [], failed => by simp [pure, Except.pure] at failed
  | item :: rest, failed => by
      rw [List.mapM_cons] at failed
      rcases bind_eq_error.mp failed with first | ⟨value, -, mapped⟩
      · exact ⟨item, List.mem_cons_self, first⟩
      · rcases bind_eq_error.mp mapped with later | ⟨values, -, built⟩
        · obtain ⟨other, member, refused⟩ := exists_of_mapM_eq_error later
          exact ⟨other, List.mem_cons_of_mem item member, refused⟩
        · cases built

end Steps

end SheetExport
