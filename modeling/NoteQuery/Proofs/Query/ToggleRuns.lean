import Mathlib.Algebra.Ring.Parity
import Mathlib.Data.List.Induction
import NoteQuery.Proofs.Query.Toggling

/-!
# Runs of property toggles

Properties that are toggled one after the other, from an empty query on, leave those that
were toggled an odd number of times, in the order in which they were added last. The query
is the text of these properties after every step.
-/
namespace NoteQuery

namespace Toggle

def run (toggles : List Toggle) : Text := toggles.foldl (fun raw t => (t.update raw).query) []

def kept (toggles : List Toggle) : List Toggle := toggles.foldl flip []

def AddsAt (toggles : List Toggle) (t : Toggle) (i : Nat) : Prop :=
  toggles[i]? = some t ∧ (t.update (run (toggles.take i))).action = .added

def IsLatestAddition (toggles : List Toggle) (t : Toggle) (i : Nat) : Prop :=
  AddsAt toggles t i ∧ ∀ u j, i < j → AddsAt toggles u j → u.pair ≠ t.pair

theorem run_concat (toggles : List Toggle) (t : Toggle) :
    run (toggles ++ [t]) = (t.update (run toggles)).query := by
  rw [run, List.foldl_concat, run]

theorem kept_concat (toggles : List Toggle) (t : Toggle) :
    kept (toggles ++ [t]) = flip (kept toggles) t := by
  rw [kept, List.foldl_concat, kept]

/-- The query is the text of the properties that are there. -/
theorem run_eq (toggles : List Toggle) : run toggles = written (kept toggles) := by
  induction toggles using List.reverseRecOn with
  | nil => rfl
  | append_singleton toggles t ih =>
    rw [run_concat, kept_concat, ih]
    exact (update_written (kept toggles) t).1

theorem action_eq_added_iff (toggles : List Toggle) (t : Toggle) :
    (t.update (run toggles)).action = .added ↔ ∀ u ∈ kept toggles, u.pair ≠ t.pair := by
  rw [run_eq]
  exact (update_written (kept toggles) t).2

theorem AddsAt.lt_length {toggles : List Toggle} {t : Toggle} {i : Nat} (h : AddsAt toggles t i) :
    i < toggles.length :=
  (List.getElem?_eq_some_iff.mp h.1).1

/-- One more step adds a property if that is not there, and changes no step before it. -/
theorem addsAt_concat_iff (toggles : List Toggle) (t u : Toggle) (i : Nat) :
    AddsAt (toggles ++ [t]) u i ↔
      AddsAt toggles u i ∨
        (i = toggles.length ∧ u = t ∧ ∀ v ∈ kept toggles, v.pair ≠ t.pair) := by
  rcases Nat.lt_trichotomy i toggles.length with hlt | rfl | hgt
  · rw [AddsAt, List.getElem?_append_left hlt, List.take_append_of_le_length hlt.le]
    exact ⟨Or.inl, fun h => h.resolve_right fun h => absurd h.1 hlt.ne⟩
  · rw [AddsAt, List.getElem?_concat_length, List.take_left, ← action_eq_added_iff]
    constructor
    · rintro ⟨hu, hadded⟩
      cases hu
      exact Or.inr ⟨rfl, rfl, hadded⟩
    · rintro (h | ⟨-, rfl, hadded⟩)
      · exact absurd h.lt_length (Nat.lt_irrefl _)
      · exact ⟨rfl, hadded⟩
  · have hlength : (toggles ++ [t]).length ≤ i := by
      rw [List.length_append, List.length_singleton]
      exact hgt
    refine iff_of_false (fun h => ?_) ?_
    · exact absurd h.lt_length (Nat.not_lt.mpr hlength)
    · rintro (h | ⟨rfl, -⟩)
      · exact absurd h.lt_length (Nat.lt_asymm hgt)
      · exact Nat.lt_irrefl _ hgt

/-- A step that adds another property, or none, is no later addition of a property. -/
theorem isLatestAddition_concat_iff {toggles : List Toggle} {t u : Toggle}
    (h : u.pair ≠ t.pair ∨ ¬∀ v ∈ kept toggles, v.pair ≠ t.pair) (i : Nat) :
    IsLatestAddition (toggles ++ [t]) u i ↔ IsLatestAddition toggles u i := by
  have hnone : ∀ v j, v.pair = u.pair →
      ¬(j = toggles.length ∧ v = t ∧ ∀ x ∈ kept toggles, x.pair ≠ t.pair) := by
    rintro v j hv ⟨-, rfl, hadded⟩
    rcases h with h | h
    · exact h hv.symm
    · exact h hadded
  have hadds : ∀ v j, v.pair = u.pair → (AddsAt (toggles ++ [t]) v j ↔ AddsAt toggles v j) := by
    intro v j hv
    rw [addsAt_concat_iff, or_iff_left (hnone v j hv)]
  constructor
  · rintro ⟨hi, hlater⟩
    refine ⟨(hadds u i rfl).mp hi, fun v j hj hv hpair => ?_⟩
    exact hlater v j hj ((hadds v j hpair).mpr hv) hpair
  · rintro ⟨hi, hlater⟩
    refine ⟨(hadds u i rfl).mpr hi, fun v j hj hv hpair => ?_⟩
    exact hlater v j hj ((hadds v j hpair).mp hv) hpair

/-- A property that was just added was added last in the last step. -/
theorem isLatestAddition_concat_self_iff {toggles : List Toggle} {t : Toggle}
    (h : ∀ v ∈ kept toggles, v.pair ≠ t.pair) (i : Nat) :
    IsLatestAddition (toggles ++ [t]) t i ↔ i = toggles.length := by
  have hself : AddsAt (toggles ++ [t]) t toggles.length :=
    (addsAt_concat_iff toggles t t _).mpr (Or.inr ⟨rfl, rfl, h⟩)
  have hbound : ∀ u j, AddsAt (toggles ++ [t]) u j → j ≤ toggles.length := by
    intro u j hj
    have hlt := hj.lt_length
    rw [List.length_append, List.length_singleton] at hlt
    omega
  constructor
  · rintro ⟨hi, hlater⟩
    by_contra hne
    have hlt : i < toggles.length := Nat.lt_of_le_of_ne (hbound t i hi) hne
    exact hlater t toggles.length hlt hself rfl
  · rintro rfl
    refine ⟨hself, fun u j hj hu => ?_⟩
    exact absurd (hbound u j hu) (Nat.not_le.mpr hj)

structure IsKept (toggles ts : List Toggle) : Prop where
  nodup : (ts.map pair).Nodup
  mem_iff : ∀ p, p ∈ ts.map pair ↔ Odd ((toggles.map pair).count p)
  added : ∀ t ∈ ts, ∃ i, IsLatestAddition toggles t i
  ordered : ts.Pairwise fun t u =>
    ∀ i j, IsLatestAddition toggles t i → IsLatestAddition toggles u j → i < j

theorem isKept_nil : IsKept [] [] where
  nodup := List.nodup_nil
  mem_iff _ := iff_of_false List.not_mem_nil Nat.not_odd_zero
  added := nofun
  ordered := List.Pairwise.nil

theorem odd_count_concat_iff (toggles : List Toggle) (t : Toggle) (p : Text × Option Text) :
    Odd (((toggles ++ [t]).map pair).count p) ↔
      if p = t.pair then ¬Odd ((toggles.map pair).count p)
      else Odd ((toggles.map pair).count p) := by
  rw [List.map_append, List.count_append, List.map_singleton]
  by_cases hp : p = t.pair
  · rw [if_pos hp, hp, List.count_singleton_self, Nat.odd_add_one]
  · have hcount : [t.pair].count p = 0 :=
      List.count_eq_zero.mpr fun hmem => hp (List.mem_singleton.mp hmem)
    rw [if_neg hp, hcount, Nat.add_zero]

/-- A step that adds a property. -/
theorem IsKept.add {toggles : List Toggle} (h : IsKept toggles (kept toggles)) {t : Toggle}
    (hnone : ∀ v ∈ kept toggles, v.pair ≠ t.pair) :
    IsKept (toggles ++ [t]) (kept toggles ++ [t]) := by
  have hnew : t.pair ∉ (kept toggles).map pair := by
    rintro hmem
    obtain ⟨v, hv, hpair⟩ := List.mem_map.mp hmem
    exact hnone v hv hpair
  have hold : ∀ u ∈ kept toggles, ∀ i,
      IsLatestAddition (toggles ++ [t]) u i ↔ IsLatestAddition toggles u i :=
    fun u hu i => isLatestAddition_concat_iff (Or.inl (hnone u hu)) i
  refine ⟨?_, fun p => ?_, fun u hu => ?_, ?_⟩
  · have hperm : ((kept toggles ++ [t]).map pair).Perm (t.pair :: (kept toggles).map pair) := by
      rw [List.map_append, List.map_singleton]
      exact List.perm_append_singleton _ _
    exact hperm.nodup_iff.mpr (List.nodup_cons.mpr ⟨hnew, h.nodup⟩)
  · rw [odd_count_concat_iff, ← h.mem_iff, List.map_append, List.mem_append, List.map_singleton,
      List.mem_singleton]
    by_cases hp : p = t.pair
    · rw [if_pos hp, hp]
      exact iff_of_true (Or.inr rfl) hnew
    · rw [if_neg hp]
      exact or_iff_left hp
  · rcases List.mem_append.mp hu with hu | hu
    · obtain ⟨i, hi⟩ := h.added u hu
      exact ⟨i, (hold u hu i).mpr hi⟩
    · rw [List.mem_singleton.mp hu]
      exact ⟨_, (isLatestAddition_concat_self_iff hnone _).mpr rfl⟩
  · refine List.pairwise_append.mpr ⟨?_, List.pairwise_singleton _ _, ?_⟩
    · refine h.ordered.imp_of_mem fun {u v} hu hv horder i j hi hj => ?_
      exact horder i j ((hold u hu i).mp hi) ((hold v hv j).mp hj)
    · intro u hu v hv i j hi hj
      rw [List.mem_singleton.mp hv, isLatestAddition_concat_self_iff hnone] at hj
      rw [hj]
      exact ((hold u hu i).mp hi).1.lt_length

/-- A step that removes a property. -/
theorem IsKept.remove {toggles front back : List Toggle} {u t : Toggle}
    (h : IsKept toggles (kept toggles)) (hkept : kept toggles = front ++ u :: back)
    (hu : u.pair = t.pair) : IsKept (toggles ++ [t]) (front ++ back) := by
  have hthere : ¬∀ v ∈ kept toggles, v.pair ≠ t.pair :=
    fun hnone => hnone u (by rw [hkept]; simp) hu
  have hsub : (front ++ back).Sublist (kept toggles) := by
    rw [hkept]
    exact (List.sublist_cons_self u back).append_left front
  have hold : ∀ v i, IsLatestAddition (toggles ++ [t]) v i ↔ IsLatestAddition toggles v i :=
    fun v i => isLatestAddition_concat_iff (Or.inr hthere) i
  have hpairs : ((kept toggles).map pair).Perm (t.pair :: (front ++ back).map pair) := by
    rw [hkept, ← hu]
    exact (List.perm_middle.map pair)
  have hnodup := hpairs.nodup_iff.mp h.nodup
  refine ⟨(List.nodup_cons.mp hnodup).2, fun p => ?_, fun v hv => ?_, ?_⟩
  · rw [odd_count_concat_iff, ← h.mem_iff, hpairs.mem_iff, List.mem_cons]
    by_cases hp : p = t.pair
    · rw [if_pos hp, hp]
      exact iff_of_false (List.nodup_cons.mp hnodup).1 (fun hnot => hnot (Or.inl rfl))
    · rw [if_neg hp]
      exact (or_iff_right hp).symm
  · obtain ⟨i, hi⟩ := h.added v (hsub.subset hv)
    exact ⟨i, (hold v i).mpr hi⟩
  · refine (h.ordered.sublist hsub).imp fun {v w} horder i j hi hj => ?_
    exact horder i j ((hold v i).mp hi) ((hold w j).mp hj)

theorem isKept_kept (toggles : List Toggle) : IsKept toggles (kept toggles) := by
  induction toggles using List.reverseRecOn with
  | nil => exact isKept_nil
  | append_singleton toggles t ih =>
    rw [kept_concat]
    rcases flip_cases (kept toggles) t with ⟨hnone, hflip⟩ | ⟨front, u, back, hkept, hu, -, hflip⟩
    · rw [hflip]
      exact ih.add hnone
    · rw [hflip]
      exact ih.remove hkept hu

/-- After any toggles, of whatever properties and with whatever connectives, the query is
empty or pure. Its terms are the properties that were toggled an odd number of times, each
once and none of them negated, in the order of their latest addition; properties and
connectives take turns in its text. -/
theorem parseAt_run (conventions : Conventions) (now : Moment) (toggles : List Toggle) :
    ∃ (q : Query) (ts : List Toggle), Query.parseAt conventions now (run toggles) = .ok q ∧
      (run toggles = [] ∨ q.mode = .pure) ∧ q.root.leaves = ts.map term ∧
      (ts.map pair).Nodup ∧ (∀ p, p ∈ ts.map pair ↔ Odd ((toggles.map pair).count p)) ∧
      (∀ t ∈ ts, ∃ i, IsLatestAddition toggles t i) ∧
      (ts.Pairwise fun t u =>
        ∀ i j, IsLatestAddition toggles t i → IsLatestAddition toggles u j → i < j) ∧
      (Token.tokenize (run toggles)).map (·.kind) =
        List.intersperse .connector (ts.map fun _ => .property) := by
  have hkept := isKept_kept toggles
  rw [run_eq]
  obtain ⟨q, hparse, hpure, hleaves⟩ := parseAt_toggles conventions now (kept toggles)
  refine ⟨q, kept toggles, hparse, ?_, hleaves, hkept.nodup, hkept.mem_iff, hkept.added,
    hkept.ordered, kinds_written _⟩
  by_cases hnil : kept toggles = []
  · exact Or.inl (by rw [hnil]; rfl)
  · exact Or.inr (hpure hnil)

/-- A property in the middle is removed by a key in capitals, and comes back at the end. -/
example :
    let property (key : String) (value : Option Text) (operator : Operator)
        (h : ∃ c ∈ key.toList, Text.isBlank c = false) : Toggle := ⟨key.toList, value, operator, h⟩
    let a := property "a" none .and ⟨'a', by decide, by decide⟩
    let b := property "b" (some "x y".toList) .or ⟨'b', by decide, by decide⟩
    let c := property "c" none .and ⟨'c', by decide, by decide⟩
    let capital := property " B " (some "x y".toList) .or ⟨'B', by decide, by decide⟩
    run [a, b, c] = ".a OR .b=\"x y\" AND .c".toList ∧ run [a, b, c, capital] = ".a AND .c".toList ∧
      run [a, b, c, capital, capital] = ".a AND .c OR .B=\"x y\"".toList := by
  decide

end Toggle

end NoteQuery
