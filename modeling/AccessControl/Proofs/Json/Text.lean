import AccessControl.Json.Text
import AccessControl.Proofs.Digits

/-!
# Written values are read back

A value without real numbers and unreadable parts, whose integers have 64 bits, is `Plain`.  The
text that is written for it is the text of this value and of no other.

* `Json.parse?_render` : reading the text of a plain value gives the value;
* `Json.render_injective` : plain values with the same text are the same.
-/

namespace AccessControl.Json

/-- the value is nested at most this deep and all of it can be written and read back -/
inductive Plain : Nat → Json → Prop where
  | null {depth : Nat} : Plain depth .null
  | bool {depth : Nat} (b : Bool) : Plain depth (.bool b)
  | integer {depth : Nat} {n : Int} (low : Int64.minValue.toInt ≤ n) (high : n < UInt64.size) :
    Plain depth (.integer n)
  | string {depth : Nat} (s : String) : Plain depth (.string s)
  | array {depth : Nat} {items : List Json} (h : ∀ x ∈ items, Plain depth x) :
    Plain (depth + 1) (.array items)
  | object {depth : Nat} {members : List (String × Json)} (h : ∀ m ∈ members, Plain depth m.2) :
    Plain (depth + 1) (.object members)

theorem Plain.isReadable {depth : Nat} {j : Json} (h : j.Plain depth) :
    j.isReadable depth = true := by
  induction h with
  | @null depth => cases depth <;> rfl
  | @bool depth => cases depth <;> rfl
  | @integer depth => cases depth <;> rfl
  | @string depth => cases depth <;> rfl
  | array _ ih =>
    rw [Json.isReadable, List.all_eq_true]
    exact ih
  | object _ ih =>
    rw [Json.isReadable, List.all_eq_true]
    exact ih

/-! ## strings -/

/-- a character that is not escaped -/
theorem pieces?_plain {c : Char} (hq : c ≠ '"') (hb : c ≠ '\\') (hc : ¬ c.toNat < 0x20)
    (rest : List Char) :
    pieces? (c :: rest) = (pieces? rest).map fun p => (.char c :: p.1, p.2) := by
  have hno : ¬ (c = '\\' ∨ c.toNat < 0x20) := by
    intro h
    rcases h with h | h
    · exact hb h
    · exact hc h
  rw [pieces?.eq_def]
  split
  · simp_all
  · simp_all
  · simp_all
  · simp_all
  · rename_i heq
    cases heq
    rw [if_neg hno]
    cases pieces? rest with
    | none => rfl
    | some p => rfl

theorem pieces?_short {e c : Char} (h : shortEscape? e = some c) (rest : List Char) :
    pieces? ('\\' :: e :: rest) = (pieces? rest).map fun p => (.char c :: p.1, p.2) := by
  have hu : e ≠ 'u' := by
    rintro rfl
    cases h
  rw [pieces?.eq_def]
  split
  · simp_all
  · simp_all
  · simp_all
  · rename_i heq
    cases heq
    rw [h]
    cases pieces? rest with
    | none => rfl
    | some p => rfl
  · rename_i hnone heq
    cases heq
    exact absurd rfl (hnone e rest rfl)

theorem pieces?_hex {ds : List Char} {u : Nat} (hlen : ds.length = 4)
    (hu : Hex.value? ds = some u) (rest : List Char) :
    pieces? ('\\' :: 'u' :: (ds ++ rest)) = (pieces? rest).map fun p => (.unit u :: p.1, p.2) := by
  match ds, hlen with
  | [a, b, c, d], _ =>
    simp only [List.cons_append, List.nil_append, pieces?, hu]
    cases pieces? rest with
    | none => rfl
    | some p => rfl

theorem joinPieces?_unit {u : Nat} (hu : u < 0x20) (ps : List Piece) :
    joinPieces? (.unit u :: ps) = (joinPieces? ps).map (Char.ofNat u :: ·) := by
  have hhigh : isHighSurrogate u = false := by
    unfold isHighSurrogate
    simp
    omega
  have hlow : isLowSurrogate u = false := by
    unfold isLowSurrogate
    simp
    omega
  cases ps with
  | nil => simp [joinPieces?, hhigh, hlow]
  | cons p ps =>
    cases p with
    | char c => simp [joinPieces?, hhigh, hlow]
    | unit v => simp [joinPieces?, hhigh, hlow]

/-- what is written for a character is one piece, and the piece stands for the character -/
theorem pieces?_escapeChar (c : Char) :
    ∃ p, (∀ rest, pieces? (escapeChar c ++ rest) = (pieces? rest).map fun q => (p :: q.1, q.2))
      ∧ ∀ ps, joinPieces? (p :: ps) = (joinPieces? ps).map (c :: ·) := by
  unfold escapeChar
  split
  · exact ⟨.char '"', pieces?_short rfl, fun _ => by rw [joinPieces?]⟩
  · exact ⟨.char '\\', pieces?_short rfl, fun _ => by rw [joinPieces?]⟩
  · exact ⟨.char '\x08', pieces?_short rfl, fun _ => by rw [joinPieces?]⟩
  · exact ⟨.char '\x0c', pieces?_short rfl, fun _ => by rw [joinPieces?]⟩
  · exact ⟨.char '\n', pieces?_short rfl, fun _ => by rw [joinPieces?]⟩
  · exact ⟨.char '\r', pieces?_short rfl, fun _ => by rw [joinPieces?]⟩
  · exact ⟨.char '\t', pieces?_short rfl, fun _ => by rw [joinPieces?]⟩
  · rename_i hq hb _ _ _ _ _
    by_cases hc : c.toNat < 0x20
    · rw [if_pos hc]
      have hlen : (Hex.padded 4 c.toNat).length = 4 :=
        Hex.length_padded (by decide) (by omega)
      refine ⟨.unit c.toNat, pieces?_hex hlen (Hex.value?_padded 4 c.toNat), fun ps => ?_⟩
      rw [joinPieces?_unit hc, Char.ofNat_toNat]
    · rw [if_neg hc]
      exact ⟨.char c, pieces?_plain hq hb hc, fun _ => by rw [joinPieces?]⟩

theorem pieces?_escaped (cs rest : List Char) :
    ∃ ps, pieces? (cs.flatMap escapeChar ++ '"' :: rest) = some (ps, rest)
      ∧ joinPieces? ps = some cs := by
  induction cs with
  | nil => exact ⟨[], rfl, rfl⟩
  | cons c cs ih =>
    obtain ⟨ps, hps, hjoin⟩ := ih
    obtain ⟨p, hp, hc⟩ := pieces?_escapeChar c
    refine ⟨p :: ps, ?_, ?_⟩
    · rw [List.flatMap_cons, List.append_assoc, hp, hps]
      rfl
    · rw [hc, hjoin]
      rfl

/-- a string is read up to its closing quote -/
theorem quoted?_escaped (s : String) (rest : List Char) :
    quoted? (s.toList.flatMap escapeChar ++ '"' :: rest) = some (some s, rest) := by
  obtain ⟨ps, hps, hjoin⟩ := pieces?_escaped s.toList rest
  unfold quoted?
  rw [hps]
  simp [hjoin]

theorem toList_quote (s : String) :
    (quote s).toList = '"' :: (s.toList.flatMap escapeChar ++ ['"']) := by
  unfold quote
  simp

/-! ## numbers -/

/-- what stands after a value: nothing, or a mark that ends it -/
def Ends (rest : List Char) : Prop := ∀ c ∈ rest.head?, c = ',' ∨ c = ']' ∨ c = '}'

theorem Ends.nil : Ends [] := by
  intro c hc
  cases hc

theorem Ends.not_digit {rest : List Char} (h : Ends rest) :
    ∀ c ∈ rest.head?, Digits.isDigit c = false := by
  intro c hc
  rcases h c hc with rfl | rfl | rfl <;> rfl

/-- a mark that ends a number is neither a point nor an exponent -/
theorem fractionDigits?_ends {rest : List Char} (h : Ends rest) :
    fractionDigits? rest = some ([], rest) := by
  cases rest with
  | nil => rfl
  | cons c rest =>
    rcases h c rfl with rfl | rfl | rfl <;> rfl

theorem exponent?_ends {rest : List Char} (h : Ends rest) :
    exponent? rest = some (none, rest) := by
  cases rest with
  | nil => rfl
  | cons c rest =>
    rcases h c rfl with rfl | rfl | rfl <;> rfl

theorem wholeDigits?_toDigits (n : Nat) {rest : List Char} (h : Ends rest) :
    wholeDigits? (Nat.toDigits 10 n ++ rest) = some (Nat.toDigits 10 n, rest) := by
  unfold wholeDigits?
  split
  · rename_i tail heq
    have hne : Nat.toDigits 10 n ≠ [] := Nat.toDigits_ne_nil
    have hhead : (Nat.toDigits 10 n).head? = some '0' := by
      have hcongr := congrArg List.head? heq
      rw [List.head?_append, List.head?_eq_some_head hne, Option.some_or] at hcongr
      rw [List.head?_eq_some_head hne, hcongr]
      rfl
    -- only zero starts with a zero, and it has no further digit
    have h0 := Digits.head?_toDigits hhead
    subst h0
    rw [Nat.toDigits_zero] at heq ⊢
    cases heq
    have hstop : (rest.head?.map Digits.isDigit).getD false = false := by
      cases hc : rest.head? with
      | none => rfl
      | some c => exact h.not_digit c hc
    simp [hstop]
  · rw [Digits.split_append (fun _ hc => Digits.isDigit_of_mem_toDigits hc) h.not_digit]
    simp [Nat.toDigits_ne_nil]

/-- a row of digits after an optional sign is a whole number -/
theorem number?_toDigits (n : Nat) {rest : List Char} (h : Ends rest) :
    number? (Nat.toDigits 10 n ++ rest) = some (ofWhole false n, rest)
      ∧ number? ('-' :: (Nat.toDigits 10 n ++ rest)) = some (ofWhole true n, rest) := by
  have hsign : ∀ r, Nat.toDigits 10 n ++ rest ≠ '-' :: r := by
    intro r heq
    cases hd : Nat.toDigits 10 n with
    | nil => exact Nat.toDigits_ne_nil hd
    | cons c cs =>
      rw [hd] at heq
      cases heq
      have hdigit : Digits.isDigit '-' = true :=
        Digits.isDigit_of_mem_toDigits (hd ▸ List.mem_cons_self)
      cases hdigit
  constructor
  · unfold number?
    split
    rename_i hmatch
    split at hmatch
    · rename_i heq
      exact absurd heq (hsign _)
    · cases hmatch
      simp [wholeDigits?_toDigits n h, fractionDigits?_ends h, exponent?_ends h,
        Digits.value_toDigits]
  · unfold number?
    simp [wholeDigits?_toDigits n h, fractionDigits?_ends h, exponent?_ends h,
      Digits.value_toDigits]

theorem toList_toString (n : Int) :
    (toString n).toList = if 0 ≤ n then Nat.toDigits 10 n.toNat
      else '-' :: Nat.toDigits 10 (-n).toNat := by
  rw [Int.toString_eq_repr, Int.repr_eq_if]
  split
  · exact Nat.toList_repr
  · rw [String.toList_append, Nat.toList_repr]
    rfl

theorem number?_toString {n : Int} (low : Int64.minValue.toInt ≤ n) (high : n < UInt64.size)
    {rest : List Char} (h : Ends rest) :
    number? ((toString n).toList ++ rest) = some (.integer n, rest) := by
  rw [toList_toString]
  by_cases hn : 0 ≤ n
  · have hlt : n.toNat < UInt64.size := by omega
    rw [if_pos hn, (number?_toDigits n.toNat h).1]
    simp [ofWhole, hlt, Int.toNat_of_nonneg hn]
  · have hneg : ¬ ((-n).toNat = 0 ∨ -((-n).toNat : Int) < Int64.minValue.toInt) := by omega
    have hback : -((-n).toNat : Int) = n := by omega
    rw [if_neg hn, List.cons_append, (number?_toDigits (-n).toNat h).2]
    unfold ofWhole
    rw [if_neg hneg, hback]
    rfl

/-! ## values -/

theorem skipBlanks_cons {c : Char} (h : isBlank c = false) (cs : List Char) :
    skipBlanks (c :: cs) = c :: cs := by
  unfold skipBlanks
  simp [h]

/-- the first character of a number -/
def IsNumeric (c : Char) : Prop := c = '-' ∨ Digits.isDigit c = true

theorem IsNumeric.ne {c d : Char} (hc : IsNumeric c) (hd : d ≠ '-')
    (hdigit : Digits.isDigit d = false) : c ≠ d := by
  rintro rfl
  rcases hc with rfl | hc
  · exact hd rfl
  · rw [hc] at hdigit
    cases hdigit

theorem IsNumeric.not_blank {c : Char} (hc : IsNumeric c) : isBlank c = false := by
  have h1 : c ≠ ' ' := hc.ne (by decide) rfl
  have h2 : c ≠ '\t' := hc.ne (by decide) rfl
  have h3 : c ≠ '\n' := hc.ne (by decide) rfl
  have h4 : c ≠ '\r' := hc.ne (by decide) rfl
  simp [isBlank, h1, h2, h3, h4]

/-- a value that starts with a sign or a digit is a number -/
theorem value?_number {c : Char} (hc : IsNumeric c) (fuel : Nat) (cs : List Char) :
    value? (fuel + 1) (c :: cs) = number? (c :: cs) := by
  rw [value?, skipBlanks_cons hc.not_blank]
  split
  · rename_i heq
    cases heq
    exact absurd rfl (hc.ne (d := 'n') (by decide) rfl)
  · rename_i heq
    cases heq
    exact absurd rfl (hc.ne (d := 't') (by decide) rfl)
  · rename_i heq
    cases heq
    exact absurd rfl (hc.ne (d := 'f') (by decide) rfl)
  · rename_i heq
    cases heq
    exact absurd rfl (hc.ne (d := '"') (by decide) rfl)
  · rename_i heq
    cases heq
    exact absurd rfl (hc.ne (d := '[') (by decide) rfl)
  · rename_i heq
    cases heq
    exact absurd rfl (hc.ne (d := '\x7b') (by decide) rfl)
  · rfl

theorem toString_head (n : Int) :
    ∃ c cs, (toString n).toList = c :: cs ∧ IsNumeric c := by
  rw [toList_toString]
  by_cases hn : 0 ≤ n
  · rw [if_pos hn]
    cases hd : Nat.toDigits 10 n.toNat with
    | nil => exact absurd hd Nat.toDigits_ne_nil
    | cons c cs =>
      exact ⟨c, cs, rfl, .inr (Digits.isDigit_of_mem_toDigits (hd ▸ List.mem_cons_self))⟩
  · rw [if_neg hn]
    exact ⟨_, _, rfl, .inl rfl⟩

theorem value?_toString {n : Int} (low : Int64.minValue.toInt ≤ n) (high : n < UInt64.size)
    (fuel : Nat) {rest : List Char} (h : Ends rest) :
    value? (fuel + 1) ((toString n).toList ++ rest) = some (.integer n, rest) := by
  obtain ⟨c, cs, heq, hc⟩ := toString_head n
  have hnumber := number?_toString low high h
  rw [heq, List.cons_append] at hnumber ⊢
  rw [value?_number hc, hnumber]

/-! ## arrays and objects -/

/-- the text of a value is read back as the value, with as much fuel as it has characters -/
def Reads (j : Json) : Prop :=
  ∀ fuel rest, (render j).toList.length ≤ fuel → Ends rest →
    value? fuel ((render j).toList ++ rest) = some (j, rest)

/-- texts with a comma before each -/
def following (texts : List (List Char)) : List Char := texts.flatMap (',' :: ·)

theorem toList_intercalate_cons (t : String) (ts : List String) :
    (",".intercalate (t :: ts)).toList = t.toList ++ following (ts.map String.toList) := by
  induction ts generalizing t with
  | nil => simp [following]
  | cons u ts ih =>
    rw [String.intercalate_cons_cons, String.toList_append, String.toList_append, ih u]
    simp [following]

theorem following_nil : following [] = [] := rfl

theorem following_cons (t : List Char) (ts : List (List Char)) :
    following (t :: ts) = ',' :: (t ++ following ts) := rfl

theorem ends_following (texts : List (List Char)) {close : Char} (rest : List Char)
    (h : close = ']' ∨ close = '}') : Ends (following texts ++ close :: rest) := by
  intro c hc
  cases texts with
  | nil =>
    cases hc
    exact .inr h
  | cons t ts =>
    cases hc
    exact .inl rfl

theorem renderItems_eq (items : List Json) : renderItems items = items.map render := by
  induction items with
  | nil => rw [renderItems, List.map_nil]
  | cons x xs ih => rw [renderItems, ih, List.map_cons]

/-- the text of a member -/
def memberText (m : String × Json) : String := quote m.1 ++ ":" ++ render m.2

theorem renderMembers_eq (members : List (String × Json)) :
    renderMembers members = members.map memberText := by
  induction members with
  | nil => rw [renderMembers, List.map_nil]
  | cons m ms ih =>
    obtain ⟨name, x⟩ := m
    rw [renderMembers, ih, List.map_cons, memberText]

theorem toList_render_array (x : Json) (xs : List Json) :
    (render (.array (x :: xs))).toList
      = '[' :: ((render x).toList ++ (following (xs.map fun y => (render y).toList) ++ [']'])) := by
  rw [render, renderItems_eq, List.map_cons, String.toList_append, String.toList_append,
    toList_intercalate_cons, List.map_map]
  simp [Function.comp_def]

theorem toList_render_object (m : String × Json) (ms : List (String × Json)) :
    (render (.object (m :: ms))).toList
      = '\x7b' :: ((memberText m).toList
          ++ (following (ms.map fun n => (memberText n).toList) ++ ['\x7d'])) := by
  rw [render, renderMembers_eq, List.map_cons, String.toList_append, String.toList_append,
    toList_intercalate_cons, List.map_map]
  simp [Function.comp_def]

/-- a text starts with neither a blank nor a bracket that closes -/
theorem render_head {depth : Nat} {j : Json} (hj : j.Plain depth) :
    ∃ c cs, (render j).toList = c :: cs ∧ isBlank c = false ∧ c ≠ ']' := by
  cases hj with
  | null => exact ⟨'n', _, rfl, rfl, by decide⟩
  | bool b =>
    cases b with
    | false => exact ⟨'f', _, rfl, rfl, by decide⟩
    | true => exact ⟨'t', _, rfl, rfl, by decide⟩
  | @integer _ n _ _ =>
    obtain ⟨c, cs, heq, hc⟩ := toString_head n
    refine ⟨c, cs, by rw [render, heq], ?_, ?_⟩
    · exact hc.not_blank
    · exact hc.ne (by decide) rfl
  | string s =>
    exact ⟨'"', _, by rw [render, toList_quote], rfl, by decide⟩
  | @array _ items _ =>
    have h : (render (.array items)).toList
        = '[' :: ((",".intercalate (renderItems items)).toList ++ "]".toList) := by
      rw [render, String.toList_append, String.toList_append]
      rfl
    exact ⟨'[', _, h, rfl, by decide⟩
  | @object _ members _ =>
    have h : (render (.object members)).toList
        = '\x7b' :: ((",".intercalate (renderMembers members)).toList ++ "\x7d".toList) := by
      rw [render, String.toList_append, String.toList_append]
      rfl
    exact ⟨'\x7b', _, h, rfl, by decide⟩

theorem items?_render {x : Json} {xs : List Json} (hxs : ∀ y ∈ x :: xs, Reads y) (fuel : Nat)
    (rest : List Char)
    (hfuel : ((render x).toList ++ following (xs.map fun y => (render y).toList)).length < fuel) :
    items? fuel ((render x).toList
        ++ (following (xs.map fun y => (render y).toList) ++ ']' :: rest))
      = some (x :: xs, rest) := by
  induction xs generalizing x fuel with
  | nil =>
    cases fuel with
    | zero => cases hfuel
    | succ fuel =>
      have hlen : (render x).toList.length ≤ fuel := by
        rw [List.length_append] at hfuel
        omega
      have hx := hxs x List.mem_cons_self fuel (']' :: rest) hlen (ends_following [] rest (.inl rfl))
      rw [List.map_nil, following_nil, List.nil_append, items?, hx]
      rfl
  | cons y ys ih =>
    cases fuel with
    | zero => cases hfuel
    | succ fuel =>
      rw [List.map_cons, following_cons] at hfuel ⊢
      rw [List.length_append, List.length_cons] at hfuel
      have hx := hxs x List.mem_cons_self fuel
        (following (((render y).toList) :: ys.map fun z => (render z).toList) ++ ']' :: rest)
        (by omega) (ends_following _ rest (.inl rfl))
      have hys := ih (fun z hz => hxs z (List.mem_cons_of_mem x hz)) fuel (by omega)
      rw [following_cons, List.cons_append, List.append_assoc] at hx
      rw [List.cons_append, List.append_assoc, items?, hx]
      show (items? fuel _).bind _ = _
      rw [hys]
      rfl

theorem toList_memberText (m : String × Json) (cs : List Char) :
    (memberText m).toList ++ cs
      = '"' :: (m.1.toList.flatMap escapeChar ++ '"' :: ':' :: ((render m.2).toList ++ cs)) := by
  unfold memberText
  simp [toList_quote]

/-- a member is read up to the mark that follows its value -/
theorem members?_succ {m : String × Json} (hm : Reads m.2) {fuel : Nat} {cs : List Char}
    (hfuel : (memberText m).toList.length ≤ fuel) (hcs : Ends cs) :
    members? (fuel + 1) ((memberText m).toList ++ cs)
      = match skipBlanks cs with
        | ',' :: rest => do
          let (ms, rest) ← members? fuel rest
          return (ms.map (m :: ·), rest)
        | '\x7d' :: rest => some (some [m], rest)
        | _ => none := by
  have hlen : (render m.2).toList.length ≤ fuel := by
    have h := congrArg List.length (toList_memberText m [])
    simp only [List.append_nil, List.length_cons, List.length_append] at h
    omega
  have hvalue := hm fuel cs hlen hcs
  have hstart := skipBlanks_cons (c := '"') rfl
    (m.1.toList.flatMap escapeChar ++ '"' :: ':' :: ((render m.2).toList ++ cs))
  have hcolon := skipBlanks_cons (c := ':') rfl ((render m.2).toList ++ cs)
  rw [toList_memberText, members?, hstart]
  simp only [quoted?_escaped, hcolon, hvalue, Option.bind_eq_bind, Option.bind_some]
  rfl

theorem members?_render {m : String × Json} {ms : List (String × Json)}
    (hms : ∀ n ∈ m :: ms, Reads n.2) (fuel : Nat) (rest : List Char)
    (hfuel : ((memberText m).toList
      ++ following (ms.map fun n => (memberText n).toList)).length < fuel) :
    members? fuel ((memberText m).toList
        ++ (following (ms.map fun n => (memberText n).toList) ++ '\x7d' :: rest))
      = some (some (m :: ms), rest) := by
  induction ms generalizing m fuel with
  | nil =>
    cases fuel with
    | zero => cases hfuel
    | succ fuel =>
      have hlen : (memberText m).toList.length ≤ fuel := by
        rw [List.length_append] at hfuel
        omega
      rw [List.map_nil,
        members?_succ (hms m List.mem_cons_self) hlen (ends_following [] rest (.inr rfl))]
      rfl
  | cons n ns ih =>
    cases fuel with
    | zero => cases hfuel
    | succ fuel =>
      rw [List.map_cons, following_cons] at hfuel ⊢
      rw [List.length_append, List.length_cons] at hfuel
      have hns := ih (fun k hk => hms k (List.mem_cons_of_mem m hk)) fuel (by omega)
      have hends := ends_following ((memberText n).toList :: ns.map fun k => (memberText k).toList)
        rest (.inr rfl : '\x7d' = ']' ∨ '\x7d' = '\x7d')
      rw [following_cons, List.cons_append, List.append_assoc] at hends
      rw [List.cons_append, List.append_assoc,
        members?_succ (hms m List.mem_cons_self) (by omega) hends]
      show (members? fuel _).bind _ = _
      rw [hns]
      rfl

/-! ## whole texts -/

/-- no text is empty, so there is fuel for the first step -/
theorem Plain.exists_fuel {depth : Nat} {j : Json} (h : j.Plain depth) {fuel : Nat}
    (hfuel : (render j).toList.length ≤ fuel) : ∃ k, fuel = k + 1 := by
  obtain ⟨c, cs, heq, -⟩ := render_head h
  rw [heq, List.length_cons] at hfuel
  exact ⟨fuel - 1, by omega⟩

theorem Plain.reads {depth : Nat} {j : Json} (h : j.Plain depth) : Reads j := by
  induction h with
  | null =>
    intro fuel rest hfuel _
    obtain ⟨k, rfl⟩ := (Plain.null : Plain 0 .null).exists_fuel hfuel
    rfl
  | bool b =>
    intro fuel rest hfuel _
    obtain ⟨k, rfl⟩ := (Plain.bool b : Plain 0 (.bool b)).exists_fuel hfuel
    cases b <;> rfl
  | integer low high =>
    intro fuel rest hfuel hrest
    obtain ⟨k, rfl⟩ := (Plain.integer low high : Plain 0 _).exists_fuel hfuel
    rw [render]
    exact value?_toString low high k hrest
  | string s =>
    intro fuel rest hfuel _
    obtain ⟨k, rfl⟩ := (Plain.string s : Plain 0 (.string s)).exists_fuel hfuel
    rw [render, toList_quote, List.cons_append, List.append_assoc, value?,
      skipBlanks_cons rfl]
    show Option.map _ (quoted? _) = _
    rw [List.singleton_append, quoted?_escaped]
    rfl
  | @array _ items h ih =>
    intro fuel rest hfuel _
    obtain ⟨k, rfl⟩ := (Plain.array h).exists_fuel hfuel
    cases items with
    | nil => rfl
    | cons x xs =>
      obtain ⟨c, cs, heq, hblank, hclose⟩ := render_head (h x List.mem_cons_self)
      have hitems := items?_render ih k rest (by
        rw [toList_render_array] at hfuel
        simp only [List.length_cons, List.length_append, List.length_nil] at hfuel ⊢
        omega)
      rw [toList_render_array, List.cons_append, List.append_assoc, List.append_assoc,
        List.singleton_append, value?, skipBlanks_cons rfl]
      rw [heq, List.cons_append] at hitems ⊢
      simp only [skipBlanks_cons hblank]
      split
      · rename_i heq
        cases heq
        exact absurd rfl hclose
      · rw [hitems]
        rfl
  | @object _ members h ih =>
    intro fuel rest hfuel _
    obtain ⟨k, rfl⟩ := (Plain.object h).exists_fuel hfuel
    cases members with
    | nil => rfl
    | cons m ms =>
      have hmembers := members?_render ih k rest (by
        rw [toList_render_object] at hfuel
        simp only [List.length_cons, List.length_append, List.length_nil] at hfuel ⊢
        omega)
      rw [toList_render_object, List.cons_append, List.append_assoc, List.append_assoc,
        List.singleton_append, value?, skipBlanks_cons rfl]
      rw [toList_memberText] at hmembers ⊢
      simp only [skipBlanks_cons (c := '"') rfl]
      rw [hmembers]
      rfl

/-- the text of a plain value has this value -/
theorem parse?_render {depth : Nat} {j : Json} (h : j.Plain depth) : parse? (render j) = some j := by
  have hread := h.reads ((render j).toList.length + 1) [] (by omega) Ends.nil
  rw [List.append_nil] at hread
  unfold parse?
  simp only [hread, Option.bind_eq_bind, Option.bind_some]
  rfl

theorem render_injective {m n : Nat} {i j : Json} (hi : i.Plain m) (hj : j.Plain n)
    (h : render i = render j) : i = j := by
  have hi := parse?_render hi
  rw [h, parse?_render hj] at hi
  exact (Option.some.inj hi).symm

end AccessControl.Json
