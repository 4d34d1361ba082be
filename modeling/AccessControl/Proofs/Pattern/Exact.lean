import AccessControl.Pattern.Escape
import AccessControl.Proofs.Contents.Basic
import AccessControl.Proofs.Pattern.Choice

/-!
# Patterns that match one name

`Pattern.exactly` puts the escaped characters of a name between the two ends of a text.  Such a pattern
is found in that name and in no other, whatever meta characters the name has (`finds_exactly`).

* `Reader.run_escape`    every escaped character is read as itself;
* `tree_exactly`, `node_exactly`   the pattern is a sequence of literals between assertions;
* `weight_exactNode`     its weight grows with the bytes of the name, and nothing but its weight can be
                         wrong with it (`ofText?_exactly`);
* `ends_spelled`         that sequence matches from a position on if the rest of the text is the name.
-/

namespace AccessControl.Pattern

/-! ## reading escaped characters -/

theorem escaped_of_isMeta {c : Char} (hc : isMeta c = true) (rest : List Char) :
    escaped false (c :: rest) = some (.literal ⟨c, false⟩, rest) := by
  simp only [isMeta, List.contains_eq_mem, List.mem_cons, List.not_mem_nil, or_false,
    decide_eq_true_eq] at hc
  rcases hc with rfl | rfl | rfl | rfl | rfl | rfl | rfl | rfl | rfl | rfl | rfl | rfl | rfl | rfl
    | rfl | rfl | rfl | rfl <;> rfl

def letters (cs : List Char) : List Tree := cs.map fun c => .literal ⟨c, false⟩

namespace Reader

/-- a character without a meaning of its own -/
theorem step_plain (r : Reader) {c : Char} (hc : isMeta c = false) (rest : List Char) :
    r.step c rest = some (r.add (.literal ⟨c, false⟩), rest) := by
  unfold step
  split
  all_goals first | rfl | cases hc

theorem run_succ {r : Reader} (hr : r.extended = false) (fuel : Nat) (c : Char) (rest : List Char) :
    r.run (fuel + 1) (c :: rest) = (r.step c rest).bind fun (r, rest) => r.run fuel rest := by
  rw [run, hr]
  rfl

/-- an escaped character is read in one step -/
theorem run_escapeChar {r : Reader} (hr : r.extended = false) (fuel : Nat) (c : Char)
    (rest : List Char) : r.run (fuel + 1) (escapeChar c ++ rest)
      = (r.add (.literal ⟨c, false⟩)).run fuel rest := by
  unfold escapeChar
  split
  · rename_i hc
    have hstep : r.step '\\' (c :: rest) = some (r.add (.literal ⟨c, false⟩), rest) := by
      show (escaped r.extended (c :: rest)).map _ = _
      rw [hr, escaped_of_isMeta hc]
      rfl
    rw [List.cons_append, List.cons_append, List.nil_append, run_succ hr, hstep]
    rfl
  · rename_i hc
    rw [List.cons_append, List.nil_append, run_succ hr, r.step_plain (Bool.not_eq_true _ ▸ hc)]
    rfl

def addAll (r : Reader) (trees : List Tree) : Reader :=
  { r with group := { r.group with items := trees.reverse ++ r.group.items } }

theorem run_escape {r : Reader} (hr : r.extended = false) (fuel : Nat) (cs rest : List Char) :
    r.run (fuel + cs.length) (escape cs ++ rest) = (r.addAll (letters cs)).run fuel rest := by
  induction cs generalizing r with
  | nil => rfl
  | cons c cs ih =>
    have happend : escape (c :: cs) ++ rest = escapeChar c ++ (escape cs ++ rest) := by
      rw [escape, List.flatMap_cons, List.append_assoc]
      rfl
    have hadd : (r.add (.literal ⟨c, false⟩)).addAll (letters cs) = r.addAll (letters (c :: cs)) := by
      simp [addAll, letters, add, OpenGroup.add]
    have hnext : (r.add (.literal ⟨c, false⟩)).extended = false := hr
    rw [happend, List.length_cons, ← Nat.add_assoc, run_escapeChar hr, ih hnext, hadd]

end Reader

theorem length_escape_le (cs : List Char) : cs.length ≤ (escape cs).length := by
  induction cs with
  | nil => exact Nat.le_refl _
  | cons c cs ih =>
    have hc : 1 ≤ (escapeChar c).length := by
      unfold escapeChar
      split
      · exact Nat.le_succ 1
      · exact Nat.le_refl 1
    show _ ≤ (escapeChar c ++ escape cs).length
    rw [List.length_append, List.length_cons]
    omega

/-! ## the pattern as it is read -/

theorem heights_letters (cs : List Char) :
    Tree.heights (letters cs ++ [.assertion .lineEnd]) = 0 := by
  induction cs with
  | nil => rfl
  | cons c cs ih =>
    show max 0 (Tree.heights (letters cs ++ [.assertion .lineEnd])) = 0
    rw [ih]
    rfl

theorem tree_exactly (name : String) : Tree.ofText? (exactly name).toList
    = some (.sequence (.assertion .lineStart :: (letters name.toList ++ [.assertion .lineEnd]))) := by
  let cs := name.toList
  have htext : (exactly name).toList = '^' :: (escape cs ++ ['$']) := String.toList_ofList ..
  -- a step for every character of the name, and one for either end
  obtain ⟨spare, hspare⟩ := Nat.exists_eq_add_of_le (length_escape_le cs)
  have hfuel : ('^' :: (escape cs ++ ['$'])).length + 1 = spare + 1 + 1 + cs.length + 1 := by
    rw [List.length_cons, List.length_append, hspare]
    show _ + 1 + 1 + 1 = _
    omega
  let r : Reader := Reader.start.add (.assertion .lineStart)
  have hrun : Reader.start.run (('^' :: (escape cs ++ ['$'])).length + 1) ('^' :: (escape cs ++ ['$']))
      = some (.sequence (.assertion .lineStart :: (letters cs ++ [.assertion .lineEnd]))) := by
    rw [hfuel]
    calc Reader.start.run (spare + 1 + 1 + cs.length + 1) ('^' :: (escape cs ++ ['$']))
        = r.run (spare + 1 + 1 + cs.length) (escape cs ++ ['$']) := rfl
      _ = (r.addAll (letters cs)).run (spare + 1 + 1) ['$'] := Reader.run_escape rfl _ cs ['$']
      _ = ((r.addAll (letters cs)).add (.assertion .lineEnd)).finish? := rfl
      _ = some (Tree.ofItems (.assertion .lineEnd
            :: ((letters cs).reverse ++ [.assertion .lineStart])).reverse) := rfl
      _ = some (Tree.ofItems (.assertion .lineStart :: (letters cs ++ [.assertion .lineEnd]))) := by
        simp
      _ = _ := by
        cases cs with
        | nil => rfl
        | cons c cs => rfl
  unfold Tree.ofText?
  rw [htext, hrun, Option.filter_some, if_pos]
  show decide (max 0 (Tree.heights (letters cs ++ _)) + 1 ≤ greatestHeight) = true
  rw [heights_letters]
  rfl

/-- the characters one after the other, up to the end of the text -/
def spelled : List Char → Node
  | [] => .look .textEnd
  | c :: cs => .seq (.chars (.singleton c)) (spelled cs)

/-- their nodes, one by one -/
def letterNodes (cs : List Char) : List Node :=
  cs.map (fun c => .chars (.singleton c)) ++ [.look .textEnd]

theorem nodes_letters (cs : List Char) :
    Tree.nodes? {} (letters cs ++ [.assertion .lineEnd]) = some (letterNodes cs, {}) := by
  induction cs with
  | nil => rfl
  | cons c cs ih =>
    show (Tree.nodes? {} (letters cs ++ [.assertion .lineEnd])).bind
      (fun n => some (.chars (.singleton c) :: n.1, n.2)) = _
    rw [ih]
    rfl

theorem join_letterNodes (cs : List Char) : Node.join .seq (letterNodes cs) = spelled cs := by
  induction cs with
  | nil => rfl
  | cons c cs ih =>
    calc Node.join .seq (letterNodes (c :: cs))
        = .seq (.chars (.singleton c)) (Node.join .seq (letterNodes cs)) := Node.join_cons _ _ (by simp)
      _ = spelled (c :: cs) := by rw [ih, spelled]

theorem filter_letterNodes (cs : List Char) :
    (letterNodes cs).filter (fun n => !n.isEmpty) = letterNodes cs := by
  refine List.filter_eq_self.mpr fun n hn => ?_
  rcases List.mem_append.mp hn with hn | hn
  · obtain ⟨c, -, rfl⟩ := List.mem_map.mp hn
    rfl
  · rw [List.mem_singleton.mp hn]
    rfl

/-- the name between both ends -/
def exactNode (name : String) : Node := .seq (.look .textStart) (spelled name.toList)

theorem node_exactly (name : String) :
    (Tree.sequence (.assertion .lineStart :: (letters name.toList ++ [.assertion .lineEnd]))).node? {}
      = some (exactNode name, {}) := by
  have hnodes : Tree.nodes? {} (.assertion .lineStart :: (letters name.toList ++ [.assertion .lineEnd]))
      = some (.look .textStart :: letterNodes name.toList, {}) := by
    show (Tree.nodes? {} (letters name.toList ++ _)).bind
      (fun n => some (.look .textStart :: n.1, n.2)) = _
    rw [nodes_letters]
    rfl
  have hjoin : Node.sequence (.look .textStart :: letterNodes name.toList) = exactNode name := by
    calc Node.sequence (.look .textStart :: letterNodes name.toList)
        = Node.join .seq (.look .textStart :: letterNodes name.toList) := by
          rw [Node.sequence, List.filter_cons_of_pos rfl, filter_letterNodes]
      _ = .seq (.look .textStart) (Node.join .seq (letterNodes name.toList)) :=
          Node.join_cons _ _ (by simp [letterNodes])
      _ = exactNode name := by rw [join_letterNodes, exactNode]
  show (Tree.nodes? {} _).map (fun n => (Node.sequence n.1, n.2)) = _
  rw [hnodes, Option.map_some, hjoin]

theorem ofText?_exactly (name : String) : ofText? (exactly name)
    = if weightLimit < (exactNode name).weight then none else some ⟨exactly name, exactNode name⟩ := by
  unfold ofText?
  rw [tree_exactly]
  show ((Tree.node? {} _).bind _ : Option Pattern) = _
  rw [node_exactly]
  show (if weightLimit < (exactNode name).weight then _ else _) = _
  split <;> rfl

/-! ## its weight -/

theorem length_utf8Bytes (c : Char) : (utf8Bytes c.toNat).length = c.utf8Size := by
  have hlt (n : Nat) (m : UInt32) (h : n = m.toNat + 1) : c.toNat < n ↔ c.val ≤ m := by
    rw [h, Nat.lt_succ_iff]
    exact UInt32.le_iff_toNat_le.symm
  unfold utf8Bytes Char.utf8Size
  rw [apply_ite List.length, apply_ite List.length, apply_ite List.length]
  simp only [hlt 0x80 0x7f rfl, hlt 0x800 0x7ff rfl, hlt 0x10000 0xffff rfl]
  rfl

theorem weight_spelled (cs : List Char) :
    (spelled cs).weight = stateSize * ((String.ofList cs).utf8ByteSize + 1) := by
  induction cs with
  | nil => rfl
  | cons c cs ih =>
    have hchar : classWeight (.singleton c) = stateSize * c.utf8Size := by
      have hcode : (CharSet.singleton c).code? = some c.toNat := if_pos rfl
      rw [classWeight, hcode, ← length_utf8Bytes]
    have hsize : (String.ofList (c :: cs)).utf8ByteSize
        = c.utf8Size + (String.ofList cs).utf8ByteSize := by
      rw [← List.singleton_append, String.ofList_append, String.utf8ByteSize_append,
        ← String.singleton_eq_ofList, String.utf8ByteSize_singleton]
    show classWeight (.singleton c) + (spelled cs).weight = _
    rw [hchar, ih, hsize, ← Nat.mul_add, Nat.add_assoc]

theorem weight_exactNode (name : String) :
    (exactNode name).weight = stateSize * (name.utf8ByteSize + 2) := by
  show stateSize + (spelled name.toList).weight = _
  rw [weight_spelled, String.ofList_toList, Nat.mul_add, Nat.mul_add]
  omega

/-! ## what it is found in -/

theorem contains_singleton {c d : Char} : (CharSet.singleton c).contains d = true ↔ d = c := by
  have hrange : (CharSet.singleton c).contains d = true ↔ c.toNat ≤ d.toNat ∧ d.toNat ≤ c.toNat := by
    simp [CharSet.contains, CharSet.singleton]
  rw [hrange, ← Char.toNat_inj]
  omega

theorem ends_spelled_nil (text : Array Char) (cs : List Char) : (spelled cs).ends text [] = [] := by
  induction cs with
  | nil => rfl
  | cons c cs ih => exact ih

/-- from a position on, the characters are the rest of the text or do not match -/
theorem ends_spelled (text : Array Char) (cs : List Char) {i : Nat} (hi : i ≤ text.size) :
    (spelled cs).ends text [i] ≠ [] ↔ text.toList.drop i = cs := by
  induction cs generalizing i with
  | nil =>
    have hends : (spelled []).ends text [i] = if text[i]?.isNone then [i] else [] := by
      show [i].filter (Look.textEnd.holds text) = _
      rw [List.filter_singleton, cond_eq_ite]
      rfl
    rw [hends, List.drop_eq_nil_iff]
    simp
  | cons c cs ih =>
    have hstep : (spelled (c :: cs)).ends text [i]
        = (spelled cs).ends text (if text[i]?.any (CharSet.singleton c).contains then [i + 1] else []) := by
      show (spelled cs).ends text (([i].filter _).map (· + 1)) = _
      rw [List.filter_singleton, cond_eq_ite]
      split <;> rfl
    rw [hstep]
    by_cases hend : i < text.size
    · have hdrop : text.toList.drop i = text[i] :: text.toList.drop (i + 1) :=
        List.drop_eq_getElem_cons hend
      have hchar : text[i]?.any (CharSet.singleton c).contains = true ↔ text[i] = c := by
        rw [Array.getElem?_eq_getElem hend]
        exact contains_singleton
      rw [hdrop, List.cons.injEq]
      by_cases hc : text[i] = c
      · rw [if_pos (hchar.mpr hc), ih hend]
        exact (and_iff_right hc).symm
      · rw [if_neg (mt hchar.mp hc), ends_spelled_nil]
        exact ⟨fun h => absurd rfl h, fun h => absurd h.1 hc⟩
    · have hnone : text[i]? = none := Array.getElem?_eq_none (Nat.le_of_not_lt hend)
      have hdrop : text.toList.drop i = [] := List.drop_eq_nil_iff.mpr (Nat.le_of_not_lt hend)
      rw [hnone, hdrop]
      exact ⟨fun h => absurd (ends_spelled_nil text cs) h, fun h => by cases h⟩

/-- a text begins nowhere but before its first character -/
theorem ends_textStart (text : Array Char) :
    (Node.look .textStart).ends text (List.range (text.size + 1)) = [0] := by
  show (List.range (text.size + 1)).filter (Look.textStart.holds text) = _
  rw [List.range_succ_eq_map, List.filter_cons_of_pos rfl, List.filter_eq_nil_iff.mpr]
  intro i hi hstart
  obtain ⟨j, hj, rfl⟩ := List.mem_map.mp hi
  have hj : j < text.size := List.mem_range.mp hj
  have hnone : text[j]?.isNone = true := hstart
  rw [Array.getElem?_eq_getElem hj] at hnone
  cases hnone

theorem isFoundIn_exactNode (name text : String) :
    (exactNode name).isFoundIn text.toList.toArray = true ↔ text = name := by
  let chars := text.toList.toArray
  calc (exactNode name).isFoundIn chars = true
      ↔ (spelled name.toList).ends chars [0] ≠ [] := by
        show (!((spelled name.toList).ends chars
          ((Node.look .textStart).ends chars (List.range (chars.size + 1)))).isEmpty) = true ↔ _
        rw [ends_textStart]
        simp
    _ ↔ text.toList = name.toList := ends_spelled chars name.toList (Nat.zero_le _)
    _ ↔ text = name := String.toList_inj

theorem finds_exactly {name : String} (h : (ofText? (exactly name)).isSome = true) (text : String) :
    finds (exactly name) text = true ↔ text = name := by
  have hread := ofText?_exactly name
  split at hread
  · rw [hread] at h
    cases h
  · unfold finds
    rw [hread]
    exact isFoundIn_exactNode name text

end AccessControl.Pattern
