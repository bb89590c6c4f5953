import Lanewise.Basic
import Mathlib.Algebra.Order.Group.Nat

namespace Lanewise.Text

theorem hexDigit_eq_iff {m n : Nat} (hm : m < 16) (hn : n < 16) :
    hexDigit m = hexDigit n ↔ m = n := by
  have hdigits : ∀ m < 16, ∀ n < 16, hexDigit m = hexDigit n → m = n := by decide
  exact ⟨hdigits m hm n hn, congrArg hexDigit⟩

@[simp] theorem length_hexDigits (width n : Nat) : (hexDigits width n).length = width := by
  induction width generalizing n with
  | zero => rfl
  | succ width ih => rw [hexDigits, List.length_append, ih, List.length_singleton]

-- Digits tell numbers apart as far as they reach.
theorem hexDigits_eq_iff {width m n : Nat} :
    hexDigits width m = hexDigits width n ↔ m % 16 ^ width = n % 16 ^ width := by
  induction width generalizing m n with
  | zero => simp [hexDigits, Nat.mod_one]
  | succ width ih =>
    have hm : m % 16 < 16 := Nat.mod_lt m (by decide)
    have hn : n % 16 < 16 := Nat.mod_lt n (by decide)
    have hlast : hexDigits (width + 1) m = hexDigits (width + 1) n ↔
        hexDigits width (m / 16) = hexDigits width (n / 16) ∧
          hexDigit (m % 16) = hexDigit (n % 16) := by
      simp only [hexDigits]
      constructor
      · intro h
        obtain ⟨hhigh, hlow⟩ := List.append_inj h (by simp)
        exact ⟨hhigh, List.singleton_inj.mp hlow⟩
      · rintro ⟨hhigh, hlow⟩
        rw [hhigh, hlow]
    rw [hlast, ih, hexDigit_eq_iff hm hn, Nat.pow_succ', Nat.mod_mul, Nat.mod_mul]
    omega

theorem fixedHex_eq_iff {width m n : Nat} (hm : m < 16 ^ width) (hn : n < 16 ^ width) :
    fixedHex width m = fixedHex width n ↔ m = n := by
  rw [fixedHex, fixedHex, String.ofList_inj, hexDigits_eq_iff, Nat.mod_eq_of_lt hm,
    Nat.mod_eq_of_lt hn]

@[simp] theorem length_fixedHex (width n : Nat) : (fixedHex width n).length = width := by
  rw [fixedHex, String.length_ofList, length_hexDigits]

theorem append_inj {head other rest others : String} (h : head ++ rest = other ++ others)
    (hlength : head.length = other.length) : head = other ∧ rest = others := by
  have hchars : head.toList ++ rest.toList = other.toList ++ others.toList := by
    rw [← String.toList_append, h, String.toList_append]
  rw [← String.length_toList, ← String.length_toList] at hlength
  obtain ⟨hhead, hrest⟩ := List.append_inj hchars hlength
  exact ⟨String.toList_inj.mp hhead, String.toList_inj.mp hrest⟩

-- Items of one width stand at places of their own, whatever is put between them.
theorem eq_of_intercalate_eq {separator : String} {width : Nat} {items others : List String}
    (hlength : items.length = others.length) (hitems : ∀ item ∈ items, item.length = width)
    (hothers : ∀ item ∈ others, item.length = width)
    (h : separator.intercalate items = separator.intercalate others) : items = others := by
  induction items generalizing others with
  | nil => exact (List.length_eq_zero_iff.mp hlength.symm).symm
  | cons item items ih =>
    obtain ⟨other, others, rfl⟩ := List.exists_cons_of_length_eq_add_one hlength.symm
    simp only [List.forall_mem_cons] at hitems hothers
    have hwidth : item.length = other.length := hitems.1.trans hothers.1.symm
    have htail : items.length = others.length := Nat.succ.inj hlength
    cases items with
    | nil =>
      obtain rfl := List.length_eq_zero_iff.mp htail.symm
      rwa [String.intercalate_singleton, String.intercalate_singleton, ← List.singleton_inj] at h
    | cons next items =>
      obtain ⟨follower, others, rfl⟩ := List.exists_cons_of_length_eq_add_one htail.symm
      rw [String.intercalate_cons_cons, String.intercalate_cons_cons, String.append_assoc,
        String.append_assoc] at h
      obtain ⟨hitem, hrest⟩ := append_inj h hwidth
      rw [hitem, ih htail hitems.2 hothers.2 ((String.append_right_inj separator).mp hrest)]

theorem bracketed_eq_iff {width : Nat} {items others : List String}
    (hlength : items.length = others.length) (hitems : ∀ item ∈ items, item.length = width)
    (hothers : ∀ item ∈ others, item.length = width) :
    bracketed items = bracketed others ↔ items = others := by
  constructor
  · intro h
    simp only [bracketed, String.append_left_inj, String.append_right_inj] at h
    exact eq_of_intercalate_eq hlength hitems hothers h
  · rintro rfl
    rfl

end Lanewise.Text
