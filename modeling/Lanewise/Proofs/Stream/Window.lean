import Lanewise.Basic
import Lanewise.Packer
import Mathlib.Data.List.FinRange
import Mathlib.Tactic.IntervalCases

namespace Lanewise

-- The units behind one block: up to eight that are packed, or a tail that is sampled.
inductive Window (U : Type) where
  | packed (units : List U) (fits : units.length ≤ 8)
  | sampled (tail : List U) (nonempty : 0 < tail.length)

namespace Window

variable {U V : Type}

def map (f : U → V) : Window U → Window V
  | packed units fits => packed (units.map f) (by simpa using fits)
  | sampled tail nonempty => sampled (tail.map f) (by simpa using nonempty)

-- The units that the block shows: all packed ones, and the first, the middle and the last one
-- of a sample.
def looked : Window U → List U
  | packed units _ => units
  | sampled tail _ => [tail[0], tail[tail.length / 2], tail[tail.length - 1]]

@[simp] theorem looked_packed (units : List U) (fits : units.length ≤ 8) :
    (packed units fits).looked = units :=
  rfl

@[simp] theorem looked_map (f : U → V) (window : Window U) :
    (window.map f).looked = window.looked.map f := by
  cases window <;> simp [map, looked]

-- The block of a window: packed units are narrowed to bytes, sampled ones are widened.
def word (narrow : U → UInt8) (widen : U → UInt64) : Window U → UInt64
  | packed units _ => Word.ofBytes (units.map narrow)
  | sampled tail _ =>
    Packer.sampleWord (widen tail[0]) (widen tail[tail.length / 2]) (widen tail[tail.length - 1])

theorem word_map (f : V → U) (narrow : U → UInt8) (widen : U → UInt64) (window : Window V) :
    (window.map f).word narrow widen = window.word (narrow ∘ f) (widen ∘ f) := by
  cases window <;> simp [map, word]

end Window

def tailWindows {U : Type} (tail : List U) : List (Window U) :=
  (if 4 ≤ tail.length then [.packed (tail.take 4) (by simp)] else []) ++
    (if h : 0 < tail.length then [.sampled tail h] else [])

-- The windows of a string, by positions: eight units each as far as they go, then the tail.
def windows {U : Type} (units : List U) : List (Window U) :=
  (List.range (units.length / 8)).map
      (fun i => .packed ((units.drop (8 * i)).take 8) (by simp)) ++
    tailWindows (units.drop (8 * (units.length / 8)))

-- Whether no block of a string of the given length shows the unit at a position.
def Unsampled (length position : Nat) : Prop :=
  (length % 8 = 6 ∧ position = 8 * (length / 8) + 4) ∨
    (length % 8 = 7 ∧
      (position = 8 * (length / 8) + 4 ∨ position = 8 * (length / 8) + 5))

instance (length position : Nat) : Decidable (Unsampled length position) :=
  inferInstanceAs (Decidable (_ ∨ _))

section Windows

variable {U V : Type}

theorem tailWindows_map (f : U → V) (tail : List U) :
    tailWindows (tail.map f) = (tailWindows tail).map (Window.map f) := by
  simp only [tailWindows, List.length_map, List.map_append]
  congr 1
  · split <;> simp [Window.map]
  · split <;> simp [Window.map]

theorem windows_map (f : U → V) (units : List U) :
    windows (units.map f) = (windows units).map (Window.map f) := by
  simp only [windows, List.length_map, List.map_append, List.map_map, ← List.map_drop,
    tailWindows_map]
  congr 1
  simp [Window.map, Function.comp_def]

theorem windows_of_short {units : List U} (h : units.length < 8) :
    windows units = tailWindows units := by
  simp [windows, Nat.div_eq_of_lt h]

theorem windows_append {group : List U} (hgroup : group.length = 8) (rest : List U) :
    windows (group ++ rest) = .packed group hgroup.le :: windows rest := by
  have hdiv : (group ++ rest).length / 8 = rest.length / 8 + 1 := by
    rw [List.length_append, hgroup]
    omega
  have hdrop (i : Nat) : (group ++ rest).drop (8 * (i + 1)) = rest.drop (8 * i) := by
    rw [Nat.mul_succ, Nat.add_comm, ← List.drop_drop, ← hgroup, List.drop_left]
  simp only [windows, hdiv, List.range_succ_eq_map, List.map_cons, List.map_map, hdrop,
    List.cons_append, Function.comp_def]
  congr 2
  simp [← hgroup]

theorem length_windows (units : List U) :
    (windows units).length =
      units.length / 8 + (if 4 ≤ units.length % 8 then 1 else 0) +
        (if 0 < units.length % 8 then 1 else 0) := by
  have hrest : units.length - 8 * (units.length / 8) = units.length % 8 := by omega
  simp only [windows, tailWindows, List.length_append, List.length_map, List.length_range,
    List.length_drop, hrest]
  split <;> split <;> rfl

-- A string is its first group and the rest, or is shorter than a group.
theorem group_induction {motive : List U → Prop}
    (short : ∀ units, units.length < 8 → motive units)
    (group : ∀ (head : Vector U 8) rest, motive rest → motive (head.toList ++ rest))
    (units : List U) : motive units := by
  induction hn : units.length using Nat.strongRecOn generalizing units with
  | ind n ih =>
    by_cases h : units.length < 8
    · exact short units h
    · have hhead : (units.take 8).toArray.size = 8 := by simp; omega
      have hrest := ih (units.drop 8).length (by simp; omega) _ rfl
      have := group ⟨(units.take 8).toArray, hhead⟩ _ hrest
      simpa using this

-- The positions that the blocks of a string show are all but the unsampled ones.
theorem exists_looked_range_iff (n position : Nat) :
    (∃ window ∈ windows (List.range n), position ∈ window.looked) ↔
      position < n ∧ ¬ Unsampled n position := by
  induction hq : n / 8 generalizing n position with
  | zero =>
    have hn : n < 8 := by omega
    rw [windows_of_short (by simpa using hn)]
    interval_cases n <;>
      simp [tailWindows, List.range_succ, Window.looked, Unsampled] <;> omega
  | succ q ih =>
    obtain ⟨rest, rfl⟩ : ∃ rest, n = 8 + rest := ⟨n - 8, by omega⟩
    have hih := fun position => ih rest position (by omega)
    rw [List.range_add, windows_append List.length_range, windows_map]
    simp only [List.exists_mem_cons_iff, Window.looked_packed, List.mem_range, List.mem_map,
      exists_exists_and_eq_and, Window.looked_map]
    constructor
    · rintro (hfirst | ⟨window, hwindow, later, hlater, rfl⟩)
      · exact ⟨by omega, by unfold Unsampled; omega⟩
      · have hlater := (hih later).mp ⟨window, hwindow, hlater⟩
        unfold Unsampled at hlater ⊢
        omega
    · rintro ⟨hbound, hshown⟩
      by_cases hfirst : position < 8
      · exact .inl hfirst
      · have hlater : position - 8 < rest ∧ ¬ Unsampled rest (position - 8) := by
          unfold Unsampled at hshown ⊢
          omega
        obtain ⟨window, hwindow, hposition⟩ := (hih (position - 8)).mpr hlater
        exact .inr ⟨window, hwindow, position - 8, hposition, by omega⟩

example : (List.range 15).filter (Unsampled 15 ·) = [12, 13] := by decide

theorem exists_looked_finRange_iff {n : Nat} (i : Fin n) :
    (∃ window ∈ windows (List.finRange n), i ∈ window.looked) ↔ ¬ Unsampled n i := by
  have hrange := exists_looked_range_iff n i
  rw [← List.map_coe_finRange_eq_range, windows_map] at hrange
  simpa [Window.looked_map, Fin.val_inj] using hrange

theorem windows_eq_map_finRange {n : Nat} (units : List U) (hn : units.length = n) :
    windows units = (windows (List.finRange n)).map (Window.map fun i => units[i]) := by
  subst hn
  rw [← windows_map]
  congr 1
  exact (List.map_getElem_finRange units).symm

theorem exists_looked_iff (units : List U) (p : U → Prop) :
    (∃ window ∈ windows units, ∃ unit ∈ window.looked, p unit) ↔
      ∃ i : Fin units.length, p units[i] ∧ ¬ Unsampled units.length i := by
  rw [windows_eq_map_finRange units rfl]
  simp only [List.mem_map, exists_exists_and_eq_and, Window.looked_map]
  constructor
  · rintro ⟨window, hwindow, i, hi, hp⟩
    exact ⟨i, hp, (exists_looked_finRange_iff i).mp ⟨window, hwindow, hi⟩⟩
  · rintro ⟨i, hp, hshown⟩
    obtain ⟨window, hwindow, hi⟩ := (exists_looked_finRange_iff i).mpr hshown
    exact ⟨window, hwindow, i, hi, hp⟩

theorem looked_map_eq_iff {n : Nat} (f g : Fin n → U) :
    (∀ window ∈ windows (List.finRange n), window.looked.map f = window.looked.map g) ↔
      ∀ i : Fin n, ¬ Unsampled n i → f i = g i := by
  simp only [List.map_inj_left]
  constructor
  · intro h i hshown
    obtain ⟨window, hwindow, hi⟩ := (exists_looked_finRange_iff i).mpr hshown
    exact h window hwindow i hi
  · intro h window hwindow i hi
    exact h i ((exists_looked_finRange_iff i).mp ⟨window, hwindow, hi⟩)

end Windows

end Lanewise
