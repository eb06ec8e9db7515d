import Mathlib.Data.List.Forall2
import NoteQuery.Proofs.Note.RoundTrip

/-!
# Errors outside a class

A computation of several steps fails with the error of its first step that fails, and so does
one over a list. What is followed here are the errors outside a class that callers know how to
deal with.
-/
namespace NoteQuery

variable {ε α β : Type} {caught : ε → Prop}

/-- Whether a computation fails with an error outside a class. -/
def Escapes (caught : ε → Prop) (x : Except ε α) : Prop := ∃ e, x = .error e ∧ ¬caught e

theorem escapes_error {e : ε} : Escapes caught (.error e : Except ε α) ↔ ¬caught e := by
  constructor
  · rintro ⟨_, h, he⟩
    cases h
    exact he
  · exact fun he => ⟨e, rfl, he⟩

theorem not_escapes_ok (a : α) : ¬Escapes caught (.ok a : Except ε α) := by
  rintro ⟨_, h, -⟩
  cases h

instance [DecidablePred caught] : (x : Except ε α) → Decidable (Escapes caught x)
  | .error _ => decidable_of_iff _ escapes_error.symm
  | .ok a => .isFalse (not_escapes_ok a)

theorem escapes_map {x : Except ε α} (f : α → β) : Escapes caught (x.map f) ↔ Escapes caught x := by
  cases x with
  | error e => exact escapes_error.trans escapes_error.symm
  | ok a => exact iff_of_false (not_escapes_ok _) (not_escapes_ok a)

theorem escapes_bind {x : Except ε α} {f : α → Except ε β} :
    Escapes caught (x >>= f) ↔ Escapes caught x ∨ ∃ a, x = .ok a ∧ Escapes caught (f a) := by
  cases x with
  | error e =>
    have herror : Escapes caught ((Except.error e : Except ε α) >>= f) ↔ ¬caught e := escapes_error
    rw [herror, escapes_error]
    exact ⟨Or.inl, fun h => h.elim id fun ⟨a, ha, _⟩ => nomatch ha⟩
  | ok a =>
    constructor
    · exact fun h => Or.inr ⟨a, rfl, h⟩
    · rintro (h | ⟨_, ha, h⟩)
      · exact absurd h (not_escapes_ok a)
      · cases ha
        exact h

theorem bind_eq_ok_iff {x : Except ε α} {f : α → Except ε β} {b : β} :
    x >>= f = .ok b ↔ ∃ a, x = .ok a ∧ f a = .ok b := by
  refine ⟨exists_of_bind_eq_ok, ?_⟩
  rintro ⟨a, rfl, h⟩
  exact h

theorem mapM_eq_ok_iff {f : α → Except ε β} {items : List α} {results : List β} :
    items.mapM f = .ok results ↔ List.Forall₂ (fun a b => f a = .ok b) items results := by
  induction items generalizing results with
  | nil =>
    rw [List.mapM_nil, List.forall₂_nil_left_iff]
    constructor
    · rintro h
      cases h
      rfl
    · rintro rfl
      rfl
  | cons a items ih =>
    rw [List.mapM_cons, bind_eq_ok_iff, List.forall₂_cons_left_iff]
    constructor
    · rintro ⟨b, hb, h⟩
      obtain ⟨rest, hrest, h⟩ := bind_eq_ok_iff.mp h
      cases h
      exact ⟨b, rest, hb, ih.mp hrest, rfl⟩
    · rintro ⟨b, rest, hb, hrest, rfl⟩
      exact ⟨b, hb, bind_eq_ok_iff.mpr ⟨rest, ih.mpr hrest, rfl⟩⟩

/-- A list escapes at its first item that fails. -/
theorem escapes_mapM {f : α → Except ε β} {items : List α} :
    Escapes caught (items.mapM f) ↔ ∃ before item after, items = before ++ item :: after ∧
      (∀ a ∈ before, ∃ b, f a = .ok b) ∧ Escapes caught (f item) := by
  induction items with
  | nil =>
    refine iff_of_false (not_escapes_ok []) ?_
    rintro ⟨before, item, after, h, -⟩
    cases before <;> cases h
  | cons a items ih =>
    rw [List.mapM_cons, escapes_bind]
    constructor
    · rintro (h | ⟨b, hb, h⟩)
      · exact ⟨[], a, items, rfl, nofun, h⟩
      · rcases escapes_bind.mp h with h | ⟨rest, -, h⟩
        · obtain ⟨before, item, after, rfl, hbefore, hitem⟩ := ih.mp h
          exact ⟨a :: before, item, after, rfl, List.forall_mem_cons.mpr ⟨⟨b, hb⟩, hbefore⟩, hitem⟩
        · exact absurd h (not_escapes_ok _)
    · rintro ⟨before, item, after, h, hbefore, hitem⟩
      cases before with
      | nil =>
        cases h
        exact Or.inl hitem
      | cons c before =>
        cases h
        obtain ⟨⟨b, hb⟩, hbefore⟩ := List.forall_mem_cons.mp hbefore
        exact Or.inr ⟨b, hb, escapes_bind.mpr
          (Or.inl (ih.mpr ⟨before, item, after, rfl, hbefore, hitem⟩))⟩

end NoteQuery
