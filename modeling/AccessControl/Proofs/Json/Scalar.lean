import AccessControl.Identifier
import AccessControl.Proofs.Json.Text
import AccessControl.Timestamp.Rfc3339

/-!
# Identities and dates are read back

* `Id.ofText?_text` : an identity of 128 bits;
* `Timestamp.ofText?_text?` : a date that can be written, to the nanosecond and with its offset.
-/

namespace AccessControl

/-! ## identities -/

namespace Id

/-- the digits between hyphens are all there, in their order -/
theorem hyphensRemoved?_hyphenated {ds : List Char} (h : ds.length = 32) :
    hyphensRemoved? (hyphenated ds) = some ds := by
  -- the five groups of digits
  obtain ⟨a, b, c, d, e, rfl, ha, hb, hc, hd, he⟩ : ∃ a b c d e : List Char,
      ds = a ++ (b ++ (c ++ (d ++ e))) ∧ a.length = 8 ∧ b.length = 4 ∧ c.length = 4
        ∧ d.length = 4 ∧ e.length = 12 := by
    refine ⟨ds.take 8, (ds.drop 8).take 4, (ds.drop 12).take 4, (ds.drop 16).take 4, ds.drop 20,
      ?_, ?_, ?_, ?_, ?_, ?_⟩
    · have h16 := List.take_append_drop 4 (ds.drop 16)
      have h12 := List.take_append_drop 4 (ds.drop 12)
      have h8 := List.take_append_drop 4 (ds.drop 8)
      rw [List.drop_drop] at h16 h12 h8
      rw [h16, h12, h8, List.take_append_drop]
    all_goals simp [h]
  have hyphens : hyphenated (a ++ (b ++ (c ++ (d ++ e))))
      = a ++ ('-' :: (b ++ ('-' :: (c ++ ('-' :: (d ++ ('-' :: e))))))) := by
    simp (disch := omega) [hyphenated, List.drop_append, List.drop_eq_nil_of_le, ha, hb, hc]
  rw [hyphens]
  unfold hyphensRemoved?
  simp (disch := omega) [List.drop_append, List.drop_eq_nil_of_le, List.getElem?_append_right,
    List.getElem?_cons, ha, hb, hc, hd, he]

/-- an identity of 128 bits is read back from its text -/
theorem ofText?_text {id : Id} (h : id.number < 2 ^ 128) : ofText? id.text = some id := by
  have hlen : (Hex.padded 32 id.number).length = 32 :=
    Hex.length_padded (by decide) (by omega)
  have hvalue := Hex.value?_padded 32 id.number
  have hremoved := hyphensRemoved?_hyphenated hlen
  -- the text starts with a digit, so it is in none of the other forms
  obtain ⟨c, cs, hhead, d, hd⟩ : ∃ c cs, hyphenated (Hex.padded 32 id.number) = c :: cs
      ∧ ∃ d, Hex.digit? c = some d := by
    cases hp : Hex.padded 32 id.number with
    | nil =>
      rw [hp] at hlen
      cases hlen
    | cons c cs =>
      rw [hp] at hvalue
      exact ⟨c, _, rfl, Hex.digit?_head hvalue⟩
  have hu : c ≠ 'u' := by
    rintro rfl
    cases hd
  have hb : c ≠ '\x7b' := by
    rintro rfl
    cases hd
  have hdigits : digits? (c :: cs) = some (Hex.padded 32 id.number) := by
    unfold digits?
    split
    · rename_i heq
      cases heq
      exact absurd rfl hu
    · rename_i heq
      cases heq
      exact absurd rfl hb
    · have h36 : (c :: cs).length ≠ 32 := by
        intro h32
        rw [← hhead] at h32
        simp [hyphenated, hlen] at h32
      rw [if_neg h36, ← hhead, hremoved]
  unfold ofText? text
  rw [String.toList_ofList, hhead, hdigits]
  simp [hvalue]

theorem decode?_encode {id : Id} (h : id.number < 2 ^ 128) : decode? id.encode = some id := by
  simp only [decode?, encode, Json.string?, Option.bind_some, ofText?_text h]

end Id

/-! ## dates -/

namespace Timestamp

theorem exactly?_twoDigits {n : Nat} (h : n < 100) (rest : List Char) :
    Digits.exactly? 2 (twoDigits n ++ rest) = some (n, rest) :=
  Digits.exactly?_padded (by decide) h rest

/-- a fraction is read back to the nanosecond -/
theorem fraction?_fractionText {n : Nat} (h : n < 1000000000) {rest : List Char}
    (hdigit : ∀ c ∈ rest.head?, Digits.isDigit c = false) (hpoint : rest.head? ≠ some '.') :
    fraction? (fractionText n ++ rest) = some (n, rest) := by
  unfold fractionText
  by_cases hn : n = 0
  · rw [if_pos hn, List.nil_append, hn]
    unfold fraction?
    split
    · exact absurd rfl hpoint
    · rfl
  · have hvalue : Digits.value (Digits.padded 9 n) = n := Digits.value_padded 9 n
    have hne : Digits.dropTrailingZeros (Digits.padded 9 n) ≠ [] :=
      Digits.dropTrailingZeros_ne_nil (by rw [hvalue]; exact hn)
    have hall : ∀ c ∈ Digits.dropTrailingZeros (Digits.padded 9 n), Digits.isDigit c = true :=
      fun c hc => Digits.isDigit_of_mem_padded (Digits.mem_of_mem_dropTrailingZeros hc)
    have hlength : (Digits.padded 9 n).length = 9 := Digits.length_padded (by decide) h
    have hfull := Digits.take_dropTrailingZeros hlength
    rw [if_neg hn, List.cons_append, fraction?, Digits.split_append hall hdigit]
    simp only [List.isEmpty_iff, hne, hfull, hvalue, if_false]

theorem offset?_signed {c : Char} {sign : Int} (hsign : ∀ cs, sign? (c :: cs) = some (sign, cs))
    {hours minutes : Nat} (hh : hours < 24) (hm : minutes < 60) :
    offset? (c :: (twoDigits hours ++ ':' :: twoDigits minutes))
      = some (sign * ((hours * 60 + minutes) * 60), []) := by
  have hhours := exactly?_twoDigits (n := hours) (by omega) (':' :: twoDigits minutes)
  have hminutes := exactly?_twoDigits (n := minutes) (by omega) []
  rw [List.append_nil] at hminutes
  unfold offset?
  split
  · rename_i heq
    cases heq
    cases hsign []
  · rename_i heq
    cases heq
    cases hsign []
  · simp [hsign, hhours, hminutes, literal?, hh, hm]

/-- an offset of whole minutes below a day is read back -/
theorem offset?_offsetText {offset : Int} (hday : offset.natAbs < 86400)
    (hminute : offset % 60 = 0) : offset? (offsetText offset) = some (offset, []) := by
  unfold offsetText
  by_cases h0 : offset = 0
  · rw [if_pos h0, h0]
    rfl
  · have hh : offset.natAbs / 60 / 60 < 24 := by omega
    have hm : offset.natAbs / 60 % 60 < 60 := by omega
    rw [if_neg h0]
    by_cases hneg : offset < 0
    · rw [if_pos hneg, List.cons_append, offset?_signed (fun _ => rfl) hh hm]
      congr 2
      omega
    · rw [if_neg hneg, List.cons_append, offset?_signed (fun _ => rfl) hh hm]
      congr 2
      omega

/-- the text of an offset ends a fraction -/
theorem offsetText_head (offset : Int) :
    (∀ c ∈ (offsetText offset).head?, Digits.isDigit c = false)
      ∧ (offsetText offset).head? ≠ some '.' := by
  unfold offsetText
  by_cases h0 : offset = 0
  · simp [h0, Digits.isDigit]
  · by_cases hneg : offset < 0
    · simp [h0, hneg, Digits.isDigit]
    · simp [h0, hneg, Digits.isDigit]

/-- a date is read back from its text -/
theorem ofText?_text? {t : Timestamp} {s : String} (h : t.text? = some s) :
    ofText? s = some t := by
  obtain ⟨hlow, hhigh, hmonth0, hmonth, hday0, hday, hhour, hminute, hsecond, hnano, -⟩ := t.valid
  unfold text? at h
  by_cases hw : t.IsWritable
  · rw [if_pos hw, Option.some.injEq] at h
    obtain ⟨hyear, hoffset, hwhole⟩ := hw
    have hday31 : t.reading.day < 100 := by
      have : ClockReading.monthLength t.reading.year t.reading.month ≤ 31 := by
        unfold ClockReading.monthLength
        split <;> split <;> omega
      omega
    obtain ⟨hdigit, hpoint⟩ := offsetText_head t.reading.offset
    have h1 : ∀ rest, Digits.exactly? 4 (Digits.padded 4 t.reading.year.toNat ++ rest)
        = some (t.reading.year.toNat, rest) := Digits.exactly?_padded (by decide) (by omega)
    have h2 := exactly?_twoDigits (n := t.reading.month) (by omega)
    have h3 := exactly?_twoDigits hday31
    have h4 := exactly?_twoDigits (n := t.reading.hour) (by omega)
    have h5 := exactly?_twoDigits (n := t.reading.minute) (by omega)
    have h6 := exactly?_twoDigits (n := t.reading.second) (by omega)
    have h7 := fraction?_fractionText hnano hdigit hpoint
    have h8 := offset?_offsetText hoffset hwhole
    have hseparator : ∀ cs, separator? ('T' :: cs) = some cs := fun _ => rfl
    have hback : (t.reading.year.toNat : Int) = t.reading.year := Int.toNat_of_nonneg hyear
    have hfields : ofFields? t.reading = some t := by
      unfold ofFields? ofReading?
      rw [if_neg (by omega), dif_pos t.valid]
    rw [← h]
    unfold ofText?
    simp only [String.toList_ofList, List.append_assoc, List.cons_append, h1, h2, h3, h4, h5, h6,
      h7, h8, hseparator, literal?, hback, Option.bind_eq_bind, Option.bind_some, if_true,
      List.isEmpty_nil]
    exact hfields
  · rw [if_neg hw] at h
    cases h

end Timestamp
end AccessControl
