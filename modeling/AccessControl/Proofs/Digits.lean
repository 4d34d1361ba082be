import AccessControl.Digits
import AccessControl.Hex
import Mathlib.Algebra.Group.Nat.Defs
import Mathlib.Data.List.TakeWhile

/-!
# Digits are read back

What writing a number in decimal or hexadecimal digits gives is what reading them takes.

* `Digits.exactly?_padded` : a number of few digits, written with a fixed width;
* `Digits.dropTrailingZeros_append` : the zeros that a fraction loses at its end;
* `Hex.value?_padded` : hexadecimal digits of any width.
-/

namespace AccessControl

/-! ## decimal digits -/

namespace Digits

theorem isDigit_of_mem_toDigits {n : Nat} {c : Char} (h : c ∈ Nat.toDigits 10 n) :
    isDigit c = true :=
  Nat.isDigit_of_mem_toDigits (by decide) (by decide) h

theorem value_toDigits (n : Nat) : value (Nat.toDigits 10 n) = n := by
  have h := Nat.ofDigitChars_ten_toDigits (n := n)
  rw [Nat.ofDigitChars_eq_foldl] at h
  exact h

/-- no number but zero is written with a zero in front -/
theorem head?_toDigits {n : Nat} (h : (Nat.toDigits 10 n).head? = some '0') : n = 0 := by
  induction n using Nat.strongRecOn with
  | ind n ih =>
    by_cases hn : n < 10
    · rw [Nat.toDigits_of_lt_base hn] at h
      simpa using h
    · have hlt : n / 10 < n := by omega
      rw [Nat.toDigits_of_base_le (by decide) (by omega), List.head?_append,
        List.head?_eq_some_head Nat.toDigits_ne_nil, Option.some_or] at h
      have h0 := ih _ hlt (by rw [List.head?_eq_some_head Nat.toDigits_ne_nil, h])
      omega

theorem value_zeros_append (k : Nat) (ds : List Char) :
    value (List.replicate k '0' ++ ds) = value ds := by
  induction k with
  | zero => rfl
  | succ k ih => exact ih

theorem value_padded (width n : Nat) : value (padded width n) = n := by
  unfold padded
  rw [value_zeros_append, value_toDigits]

theorem isDigit_of_mem_padded {width n : Nat} {c : Char} (h : c ∈ padded width n) :
    isDigit c = true := by
  unfold padded at h
  rcases List.mem_append.mp h with h | h
  · rw [List.eq_of_mem_replicate h]
    rfl
  · exact isDigit_of_mem_toDigits h

theorem length_padded {width n : Nat} (hw : 0 < width) (h : n < 10 ^ width) :
    (padded width n).length = width := by
  have hle : (Nat.toDigits 10 n).length ≤ width :=
    (Nat.length_toDigits_le_iff (by decide) hw).mpr h
  unfold padded
  rw [List.length_append, List.length_replicate]
  omega

/-- digits are taken as far as they go -/
theorem split_append {ds rest : List Char} (hds : ∀ c ∈ ds, isDigit c = true)
    (hrest : ∀ c ∈ rest.head?, isDigit c = false) : split (ds ++ rest) = (ds, rest) := by
  have hstop : rest.takeWhile isDigit = [] ∧ rest.dropWhile isDigit = rest := by
    cases rest with
    | nil => exact ⟨rfl, rfl⟩
    | cons c rest =>
      have hc : isDigit c = false := hrest c rfl
      simp [hc]
  unfold split
  rw [List.takeWhile_append_of_pos hds, List.dropWhile_append_of_pos hds, hstop.1, hstop.2,
    List.append_nil]

theorem exactly?_append {n : Nat} {ds : List Char} (hlen : ds.length = n)
    (hds : ∀ c ∈ ds, isDigit c = true) (rest : List Char) :
    exactly? n (ds ++ rest) = some (value ds, rest) := by
  have hall : ds.all isDigit = true := List.all_eq_true.mpr hds
  subst hlen
  unfold exactly?
  simp [hall]

theorem exactly?_padded {width n : Nat} (hw : 0 < width) (h : n < 10 ^ width)
    (rest : List Char) : exactly? width (padded width n ++ rest) = some (n, rest) := by
  rw [exactly?_append (length_padded hw h) (fun _ hc => isDigit_of_mem_padded hc), value_padded]

/-! ### zeros at the end -/

/-- the zeros that are dropped can be put back -/
theorem dropTrailingZeros_append (ds : List Char) :
    ∃ k, dropTrailingZeros ds ++ List.replicate k '0' = ds := by
  refine ⟨(ds.reverse.takeWhile (· = '0')).length, ?_⟩
  have hzeros : ds.reverse.takeWhile (· = '0')
      = List.replicate (ds.reverse.takeWhile (· = '0')).length '0' := by
    apply List.eq_replicate_of_mem
    intro c hc
    simpa using List.mem_takeWhile_imp hc
  have h := congrArg List.reverse
    (List.takeWhile_append_dropWhile (p := fun c : Char => decide (c = '0')) (l := ds.reverse))
  rw [List.reverse_append, List.reverse_reverse, hzeros, List.reverse_replicate] at h
  exact h

theorem mem_of_mem_dropTrailingZeros {ds : List Char} {c : Char}
    (h : c ∈ dropTrailingZeros ds) : c ∈ ds := by
  obtain ⟨k, hk⟩ := dropTrailingZeros_append ds
  rw [← hk]
  exact List.mem_append_left _ h

/-- only zeros have nothing left -/
theorem dropTrailingZeros_ne_nil {ds : List Char} (h : value ds ≠ 0) :
    dropTrailingZeros ds ≠ [] := by
  intro hnil
  obtain ⟨k, hk⟩ := dropTrailingZeros_append ds
  rw [hnil, List.nil_append] at hk
  apply h
  rw [← hk]
  simpa [value] using value_zeros_append k []

/-- a row that was filled up with zeros again and cut to its old length -/
theorem take_dropTrailingZeros {n : Nat} {ds : List Char} (hlen : ds.length = n) :
    (dropTrailingZeros ds ++ List.replicate n '0').take n = ds := by
  obtain ⟨k, hk⟩ := dropTrailingZeros_append ds
  have hkn : k ≤ n := by
    have hl := congrArg List.length hk
    rw [List.length_append, List.length_replicate] at hl
    omega
  have hsplit : List.replicate n '0' = List.replicate k '0' ++ List.replicate (n - k) '0' := by
    rw [List.replicate_append_replicate, Nat.add_sub_cancel' hkn]
  rw [hsplit, ← List.append_assoc, hk, ← hlen, List.take_left]

end Digits

/-! ## hexadecimal digits -/

namespace Hex

theorem digit?_digitChar {d : Nat} (h : d < 16) : digit? (Nat.digitChar d) = some d := by
  have hall : ∀ d < 16, digit? (Nat.digitChar d) = some d := by decide
  exact hall d h

theorem value?_concat {ds : List Char} {c : Char} {n d : Nat} (hds : value? ds = some n)
    (hc : digit? c = some d) : value? (ds ++ [c]) = some (16 * n + d) := by
  unfold value? at hds ⊢
  obtain ⟨ns, hns, rfl⟩ := Option.map_eq_some_iff.mp hds
  simp [List.mapM_append, hns, hc]

theorem value?_digits (n : Nat) : value? (digits n) = some n := by
  unfold digits
  induction n using Nat.strongRecOn with
  | ind n ih =>
    by_cases hn : n < 16
    · rw [Nat.toDigits_of_lt_base hn]
      unfold value?
      simp [digit?_digitChar hn]
    · have hlt : n / 16 < n := by omega
      rw [Nat.toDigits_of_base_le (by decide) (by omega),
        value?_concat (ih _ hlt) (digit?_digitChar (Nat.mod_lt n (by decide)))]
      congr 1
      omega

theorem value?_zero_cons (ds : List Char) : value? ('0' :: ds) = value? ds := by
  have h0 : digit? '0' = some 0 := rfl
  unfold value?
  cases h : ds.mapM digit? with
  | none => simp [h0, h]
  | some ns => simp [h0, h]

theorem value?_padded (width n : Nat) : value? (padded width n) = some n := by
  unfold padded
  induction width - (digits n).length with
  | zero => exact value?_digits n
  | succ k ih =>
    rw [List.replicate_succ, List.cons_append, value?_zero_cons]
    exact ih

theorem length_padded {width n : Nat} (hw : 0 < width) (h : n < 16 ^ width) :
    (padded width n).length = width := by
  have hle : (digits n).length ≤ width := (Nat.length_toDigits_le_iff (by decide) hw).mpr h
  unfold padded
  rw [List.length_append, List.length_replicate]
  omega

/-- a row that has a value starts with a digit -/
theorem digit?_head {c : Char} {ds : List Char} {n : Nat} (h : value? (c :: ds) = some n) :
    ∃ d, digit? c = some d := by
  unfold value? at h
  cases hc : digit? c with
  | none => simp [hc] at h
  | some d => exact ⟨d, rfl⟩

end Hex
end AccessControl
