import AccessControl.Pattern.Node
import Mathlib.Data.List.Basic

/-!
# Sequences and choices of nodes

The nodes of a sequence match one after the other (`ends_sequence`), and a choice matches where one of
its nodes does (`mem_ends_choice`): a choice that is made one class holds the same characters.

* `CharSet.contains_unions`   a union of sets, whose ranges are put in order and joined;
* `mem_ends_join`             a choice that stays as it is;
* `sets_of_mapM`              nodes that are classes.
-/

namespace AccessControl

/-! ## unions of sets -/

namespace CharSet

/-- one of the ranges has the code point -/
def Covers (ranges : List (Nat × Nat)) (code : Nat) : Prop := ∃ r ∈ ranges, r.1 ≤ code ∧ code ≤ r.2

theorem contains_iff {s : CharSet} {c : Char} : s.contains c = true ↔ Covers s.ranges c.toNat := by
  simp [contains, Covers]

theorem covers_cons {r : Nat × Nat} {rs : List (Nat × Nat)} {code : Nat} :
    Covers (r :: rs) code ↔ (r.1 ≤ code ∧ code ≤ r.2) ∨ Covers rs code :=
  List.exists_mem_cons_iff _ r rs

/-- joining ranges neither adds a code point nor takes one away, as the ranges begin in order -/
theorem covers_coalesce {lo hi code : Nat} {rest : List (Nat × Nat)} (hlo : ∀ r ∈ rest, lo ≤ r.1)
    (hrest : rest.Pairwise fun a b => a.1 ≤ b.1) :
    Covers (coalesce lo hi rest) code ↔ (lo ≤ code ∧ code ≤ hi) ∨ Covers rest code := by
  induction rest generalizing lo hi with
  | nil => exact covers_cons
  | cons r rest ih =>
    obtain ⟨a, b⟩ := r
    have hrest := List.pairwise_cons.mp hrest
    have ha : lo ≤ a := hlo _ List.mem_cons_self
    unfold coalesce
    split
    · rename_i hjoined
      rw [ih (fun r hr => hlo r (List.mem_cons_of_mem _ hr)) hrest.2, covers_cons, ← or_assoc]
      refine or_congr_left ?_
      show lo ≤ code ∧ code ≤ max hi b ↔ (lo ≤ code ∧ code ≤ hi) ∨ a ≤ code ∧ code ≤ b
      omega
    · rw [covers_cons, ih (fun r hr => hrest.1 r hr) hrest.2, covers_cons]

theorem covers_ofRanges {rs : List (Nat × Nat)} {code : Nat} :
    Covers (ofRanges rs).ranges code ↔ Covers rs code := by
  let sorted := rs.mergeSort fun a b => a.1 ≤ b.1
  have hsorted : sorted.Pairwise fun a b => a.1 ≤ b.1 := by
    refine (List.pairwise_mergeSort (fun a b c hab hbc => ?_) (fun a b => ?_) rs).imp of_decide_eq_true
    · simp only [decide_eq_true_eq] at hab hbc ⊢
      omega
    · simp only [Bool.or_eq_true, decide_eq_true_eq]
      omega
  have hsame : Covers sorted code ↔ Covers rs code := by
    unfold Covers
    simp only [sorted, List.mem_mergeSort]
  rw [← hsame]
  show Covers (ofSorted sorted).ranges code ↔ _
  cases hs : sorted with
  | nil => rfl
  | cons r rest =>
    obtain ⟨hfirst, hrest⟩ := List.pairwise_cons.mp (hs ▸ hsorted)
    exact (covers_coalesce hfirst hrest).trans covers_cons.symm

theorem contains_unions {sets : List CharSet} {c : Char} :
    (unions sets).contains c = true ↔ ∃ s ∈ sets, s.contains c = true := by
  simp only [contains_iff]
  rw [unions, covers_ofRanges]
  unfold Covers
  simp only [List.mem_flatMap]
  exact ⟨fun ⟨r, ⟨s, hs, hr⟩, hc⟩ => ⟨s, hs, r, hr, hc⟩, fun ⟨s, hs, r, hr, hc⟩ => ⟨r, ⟨s, hs, hr⟩, hc⟩⟩

end CharSet

namespace Pattern.Node
variable {text : Array Char} {s : List Nat} {i : Nat}

/-! ## sequences -/

theorem join_cons (pair : Node → Node → Node) (n : Node) {ns : List Node} (h : ns ≠ []) :
    join pair (n :: ns) = pair n (join pair ns) := by
  cases ns with
  | nil => exact absurd rfl h
  | cons => rfl

theorem ends_join_seq (ns : List Node) :
    (join .seq ns).ends text s = ns.foldl (fun s n => n.ends text s) s := by
  induction ns generalizing s with
  | nil => rfl
  | cons n ns ih =>
    by_cases hlast : ns = []
    · rw [hlast]
      rfl
    · rw [join_cons _ _ hlast, List.foldl_cons, ← ih]
      rfl

theorem ends_of_isEmpty {n : Node} (h : n.isEmpty = true) : n.ends text s = s := by
  cases n <;> first | rfl | cases h

theorem ends_sequence (ns : List Node) :
    (sequence ns).ends text s = ns.foldl (fun s n => n.ends text s) s := by
  rw [sequence, ends_join_seq]
  induction ns generalizing s with
  | nil => rfl
  | cons n ns ih =>
    by_cases hempty : n.isEmpty = true
    · rw [List.filter_cons_of_neg (by simp [hempty]), ih, List.foldl_cons, ends_of_isEmpty hempty]
    · rw [List.filter_cons_of_pos (by simp [hempty]), List.foldl_cons, ih, List.foldl_cons]

/-! ## choices -/

theorem mem_mergePositions {as bs : List Nat} : i ∈ mergePositions as bs ↔ i ∈ as ∨ i ∈ bs := by
  unfold mergePositions
  rw [List.mem_merge, List.mem_filter]
  by_cases has : i ∈ as
  · simp [has]
  · simp [has]

theorem mem_ends_join {ns : List Node} (h : ns ≠ []) :
    i ∈ (join .alt ns).ends text s ↔ ∃ n ∈ ns, i ∈ n.ends text s := by
  induction ns with
  | nil => exact absurd rfl h
  | cons n ns ih =>
    by_cases hlast : ns = []
    · rw [hlast]
      show i ∈ n.ends text s ↔ _
      simp
    · rw [join_cons _ _ hlast, List.exists_mem_cons_iff, ← ih hlast]
      exact mem_mergePositions

theorem mem_ends_chars {set : CharSet} : i ∈ (Node.chars set).ends text s
    ↔ ∃ j ∈ s, ∃ c, text[j]? = some c ∧ set.contains c = true ∧ j + 1 = i := by
  show i ∈ (s.filter _).map (· + 1) ↔ _
  simp only [List.mem_map, List.mem_filter, Option.any_eq_true]
  exact ⟨fun ⟨j, ⟨hj, c, hc, hset⟩, hi⟩ => ⟨j, hj, c, hc, hset, hi⟩,
    fun ⟨j, hj, c, hc, hset, hi⟩ => ⟨j, ⟨hj, c, hc, hset⟩, hi⟩⟩

theorem sets_of_mapM {ns : List Node} {sets : List CharSet} (h : ns.mapM set? = some sets) :
    ns = sets.map .chars := by
  induction ns generalizing sets with
  | nil =>
    cases h
    rfl
  | cons n ns ih =>
    rw [List.mapM_cons] at h
    obtain ⟨set, hset, h⟩ := Option.bind_eq_some_iff.mp h
    obtain ⟨rest, hrest, h⟩ := Option.bind_eq_some_iff.mp h
    cases h
    rw [List.map_cons, ← ih hrest]
    cases n <;> cases hset
    rfl

/-- one class for the choice matches what its classes match -/
theorem mem_ends_unions {sets : List CharSet} : i ∈ (Node.chars (.unions sets)).ends text s
    ↔ ∃ n ∈ sets.map Node.chars, i ∈ n.ends text s := by
  rw [mem_ends_chars]
  constructor
  · rintro ⟨j, hj, c, hc, hunion, hi⟩
    obtain ⟨set, hset, hcontains⟩ := CharSet.contains_unions.mp hunion
    exact ⟨_, List.mem_map_of_mem hset, mem_ends_chars.mpr ⟨j, hj, c, hc, hcontains, hi⟩⟩
  · rintro ⟨n, hn, hi⟩
    obtain ⟨set, hset, rfl⟩ := List.mem_map.mp hn
    obtain ⟨j, hj, c, hc, hcontains, hi⟩ := mem_ends_chars.mp hi
    exact ⟨j, hj, c, hc, CharSet.contains_unions.mpr ⟨set, hset, hcontains⟩, hi⟩

/-- A choice matches where one of its nodes does, whether it is made one class or not. -/
theorem mem_ends_choice (ns : List Node) :
    i ∈ (choice ns).ends text s ↔ ∃ n ∈ ns, i ∈ n.ends text s := by
  unfold choice
  cases hsets : ns.mapM set? with
  | none =>
    refine mem_ends_join ?_
    rintro rfl
    cases hsets
  | some sets =>
    rw [sets_of_mapM hsets]
    show i ∈ (if _ then _ else _ : Node).ends text s ↔ _
    split
    · exact mem_ends_unions
    · rename_i hmixed
      refine mem_ends_join fun hnone => hmixed ?_
      rw [List.map_eq_nil_iff.mp hnone]
      rfl

/-- eight characters in a row are a class of one range -/
example : choice ("abcdefgh".toList.map fun c => .chars (.singleton c)) = .chars (.range 'a' 'h') := by
  cbv

end Pattern.Node
end AccessControl
