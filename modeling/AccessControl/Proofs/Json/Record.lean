import AccessControl.Json.Record
import AccessControl.Proofs.Json.Scalar
import AccessControl.Resource.Encoding
import Mathlib.Data.List.Nodup

/-!
# Fields are read back

What the encoders put into a value, one field or one member at a time, and what the decoders make of
it.

* `Json.option?_ofOption`, `Json.list?_ofList` : values that may be unset, and lists of values;
* `Record.ofJson?_object` : an object with some of the fields, in their order;
* `Record.slot_ofMembers` : what such a record says about a field;
* `Record.required_bind` and its siblings : a decoder goes on with the value that was written.
-/

namespace AccessControl

/-! ## values -/

namespace Json

@[simp] theorem string?_string (s : String) : (Json.string s).string? = some s := rfl

@[simp] theorem bool?_bool (b : Bool) : (Json.bool b).bool? = some b := rfl

theorem below?_ofNat {bound n : Nat} (h : n < bound) : (ofNat n).below? bound = some n := by
  have hin : 0 ≤ (n : Int) ∧ (n : Int) < bound := by omega
  show (if 0 ≤ (n : Int) ∧ (n : Int) < bound then some (n : Int).toNat else none) = some n
  rw [if_pos hin, Int.toNat_natCast]

@[simp] theorem word32?_ofNat (w : UInt32) : (ofNat w.toNat).word32? = some w := by
  unfold word32?
  rw [below?_ofNat w.toNat_lt, Option.map_some, UInt32.ofNat_toNat]

theorem byte?_ofNat (b : UInt8) : (ofNat b.toNat).byte? = some b := by
  unfold byte?
  rw [below?_ofNat b.toNat_lt, Option.map_some, UInt8.ofNat_toNat]

theorem list?_ofList {α : Type} {item : α → Json} {read : Json → Option α} {xs : List α}
    (h : ∀ x ∈ xs, read (item x) = some x) : (ofList item xs).list? read = some xs := by
  show (xs.map item).mapM read = some xs
  induction xs with
  | nil => rfl
  | cons x xs ih =>
    rw [List.map_cons, List.mapM_cons, h x List.mem_cons_self,
      ih fun y hy => h y (List.mem_cons_of_mem x hy)]
    rfl

/-- a list whose items may fail to be written -/
theorem list?_written {α : Type} {write : α → Option Json} {read : Json → Option α}
    {xs : List α} {js : List Json} (h : ∀ x ∈ xs, ∀ j, write x = some j → read j = some x)
    (hjs : xs.mapM write = some js) : (array js).list? read = some xs := by
  show js.mapM read = some xs
  induction xs generalizing js with
  | nil =>
    cases hjs
    rfl
  | cons x xs ih =>
    simp only [List.mapM_cons, Option.bind_eq_bind, Option.bind_eq_some_iff, Option.pure_def,
      Option.some.injEq] at hjs
    obtain ⟨j, hj, js, hjs, rfl⟩ := hjs
    rw [List.mapM_cons, h x List.mem_cons_self j hj,
      ih (fun y hy => h y (List.mem_cons_of_mem x hy)) hjs]
    rfl

theorem exists_of_written {α : Type} {write : α → Option Json} {xs : List α} {js : List Json}
    (hjs : xs.mapM write = some js) : ∀ j ∈ js, ∃ x ∈ xs, write x = some j := by
  induction xs generalizing js with
  | nil =>
    cases hjs
    simp
  | cons x xs ih =>
    simp only [List.mapM_cons, Option.bind_eq_bind, Option.bind_eq_some_iff, Option.pure_def,
      Option.some.injEq] at hjs
    obtain ⟨j, hj, js, hjs, rfl⟩ := hjs
    intro i hi
    rcases List.mem_cons.mp hi with rfl | hi
    · exact ⟨x, List.mem_cons_self, hj⟩
    · obtain ⟨y, hy, hw⟩ := ih hjs i hi
      exact ⟨y, List.mem_cons_of_mem x hy, hw⟩

theorem written_isSome {α : Type} {write : α → Option Json} {xs : List α} :
    (xs.mapM write).isSome = true ↔ ∀ x ∈ xs, (write x).isSome = true := by
  induction xs with
  | nil => simp
  | cons x xs ih =>
    rw [List.mapM_cons, List.forall_mem_cons, ← ih]
    cases write x with
    | none => simp
    | some j => cases xs.mapM write <;> simp

@[simp] theorem list?_strings (xs : List String) :
    (ofList .string xs).list? string? = some xs :=
  list?_ofList fun _ _ => rfl

@[simp] theorem bytes?_ofBytes (bytes : List UInt8) : (ofBytes bytes).bytes? = some bytes :=
  list?_ofList fun b _ => byte?_ofNat b

/-- a value that is not `null` is set -/
theorem option?_of_ne_null {α : Type} {j : Json} {read : Json → Option α} (h : j ≠ .null) :
    j.option? read = (read j).map some := by
  unfold option?
  split
  · exact absurd rfl h
  · rfl

theorem option?_ofOption {α : Type} {value : α → Json} {read : Json → Option α}
    (hnull : ∀ a, value a ≠ .null) (hread : ∀ a, read (value a) = some a) (o : Option α) :
    (ofOption value o).option? read = some o := by
  cases o with
  | none => rfl
  | some a =>
    rw [ofOption, option?_of_ne_null (hnull a), hread]
    rfl

@[simp] theorem option?_string (o : Option String) :
    (ofOption .string o).option? string? = some o := by
  have hnull : ∀ s, Json.string s ≠ .null := by simp
  exact option?_ofOption hnull (fun _ => rfl) o

@[simp] theorem option?_bytes (o : Option (List UInt8)) :
    (ofOption ofBytes o).option? bytes? = some o :=
  option?_ofOption (by simp [ofBytes, ofList]) bytes?_ofBytes o

/-! ### what is written is plain -/

attribute [simp] Plain.null Plain.bool Plain.string

section
variable {depth : Nat} {α : Type} {value : α → Json}

theorem plain_ofOption (h : ∀ a, (value a).Plain depth) (o : Option α) :
    (ofOption value o).Plain depth := by
  cases o with
  | none => exact .null
  | some a => exact h a

theorem plain_ofList {xs : List α} (h : ∀ x ∈ xs, (value x).Plain depth) :
    (ofList value xs).Plain (depth + 1) := by
  apply Plain.array
  intro x hx
  obtain ⟨a, ha, rfl⟩ := List.mem_map.mp hx
  exact h a ha

end

theorem plain_ofNat {depth n : Nat} (h : n < UInt64.size) : (ofNat n).Plain depth :=
  .integer (Int.le_trans (by decide) (Int.natCast_nonneg n)) (by omega)

@[simp] theorem plain_word32 {depth : Nat} (w : UInt32) : (ofNat w.toNat).Plain depth :=
  plain_ofNat (Nat.lt_trans w.toNat_lt (by decide))

@[simp] theorem plain_ofBytes {depth : Nat} (bytes : List UInt8) : (ofBytes bytes).Plain (depth + 1) :=
  plain_ofList fun b _ => plain_ofNat (Nat.lt_trans b.toNat_lt (by decide))

@[simp] theorem plain_strings {depth : Nat} (xs : List String) :
    (ofList .string xs).Plain (depth + 1) :=
  plain_ofList fun s _ => .string s

@[simp] theorem plain_option_string {depth : Nat} (o : Option String) :
    (ofOption .string o).Plain depth :=
  plain_ofOption .string o

@[simp] theorem plain_option_bytes {depth : Nat} (o : Option (List UInt8)) :
    (ofOption ofBytes o).Plain (depth + 1) :=
  plain_ofOption plain_ofBytes o

@[simp] theorem plain_unlessNone {depth : Nat} (name : String) (o : Option String) :
    (memberUnlessNone name o).Forall fun m => m.2.Plain depth := by
  cases o with
  | none => simp [memberUnlessNone]
  | some s => simp [memberUnlessNone]

/-- an object whose members are plain -/
theorem plain_object {depth : Nat} {members : List (String × Json)}
    (h : members.Forall fun m => m.2.Plain depth) : (object members).Plain (depth + 1) :=
  .object (List.forall_iff_forall_mem.mp h)

end Json

@[simp] theorem Id.plain_encode {depth : Nat} (id : Id) : id.encode.Plain depth := .string _

@[simp] theorem TokenType.plain_encode {depth : Nat} (t : TokenType) : t.encode.Plain depth :=
  .string _

@[simp] theorem KeyType.plain_encode {depth : Nat} (t : KeyType) : t.encode.Plain depth :=
  .string _

@[simp] theorem KeyUsage.plain_encode {depth : Nat} (u : KeyUsage) : u.encode.Plain depth :=
  .string _

@[simp] theorem TokenType.decode?_encode (t : TokenType) : decode? t.encode = some t := by
  cases t <;> rfl

@[simp] theorem TokenType.decodeWhole?_encode (t : TokenType) :
    decodeWhole? t.encode = some t := by
  cases t <;> rfl

@[simp] theorem KeyType.decode?_encode (t : KeyType) : decode? t.encode = some t := by
  cases t <;> rfl

@[simp] theorem KeyUsage.decode?_encode (u : KeyUsage) : decode? u.encode = some u := by
  cases u <;> rfl

@[simp] theorem ResourceKind.decode?_encode (k : ResourceKind) : decode? k.encode = some k := by
  cases k <;> rfl

namespace Timestamp

/-- a date that may be unset, if it could be written -/
theorem decodeOption?_encodeOption? {o : Option Timestamp} {j : Json}
    (h : encodeOption? o = some j) : decodeOption? j = some o := by
  cases o with
  | none =>
    cases h
    rfl
  | some t =>
    obtain ⟨s, hs, rfl⟩ := Option.map_eq_some_iff.mp h
    simp only [decodeOption?, Json.option?, decode?, Json.string?_string, Option.bind_some,
      ofText?_text? hs, Option.map_some]

theorem plain_encodeOption? {depth : Nat} {o : Option Timestamp} {j : Json}
    (h : encodeOption? o = some j) : j.Plain depth := by
  cases o with
  | none =>
    cases h
    exact .null
  | some t =>
    obtain ⟨s, -, rfl⟩ := Option.map_eq_some_iff.mp h
    exact .string s

theorem text?_isSome (t : Timestamp) : t.text?.isSome = true ↔ t.IsWritable := by
  unfold text?
  by_cases h : t.IsWritable <;> simp [h]

theorem encodeOption?_isSome (o : Option Timestamp) :
    (encodeOption? o).isSome = true ↔ ∀ t ∈ o.toList, t.IsWritable := by
  cases o with
  | none => simp [encodeOption?]
  | some t => simp [encodeOption?, encode?, ← text?_isSome]

/-- a value with two dates can be written if both of them can -/
theorem encodeOption?_both {α : Type} (a b : Option Timestamp) (f : Json → Json → α) :
    (do return f (← encodeOption? a) (← encodeOption? b)).isSome = true
      ↔ ∀ t ∈ a.toList ++ b.toList, t.IsWritable := by
  have ha := encodeOption?_isSome a
  have hb := encodeOption?_isSome b
  rw [List.forall_mem_append, ← ha, ← hb]
  cases encodeOption? a with
  | none => simp
  | some _ =>
    cases encodeOption? b with
    | none => simp
    | some _ => simp

end Timestamp

/-! ## records -/

namespace Record

/-- the record of an object with these members -/
def ofMembers (names : List String) (members : List (String × Json)) : Record :=
  names.map fun name => (name, ofMember members name)

theorem ofJson?_object {names : List String} {members : List (String × Json)}
    (hnames : names.Nodup) (h : (members.map (·.1)).Sublist names) :
    ofJson? names (.object members) = some (ofMembers names members) := by
  have honce : repeats names members = false := by
    unfold repeats
    rw [List.any_eq_false]
    intro name _
    have hcount : (members.map (·.1)).count name ≤ 1 :=
      List.nodup_iff_count_le_one.mp (hnames.sublist h) name
    simpa using hcount
  unfold ofJson?
  simp only [honce]
  rfl

@[simp] theorem slot_ofMembers {names : List String} {name : String} (h : name ∈ names)
    (members : List (String × Json)) :
    (ofMembers names members).slot name = ofMember members name := by
  unfold slot ofMembers
  induction names with
  | nil => cases h
  | cons n names ih =>
    rw [List.map_cons, List.lookup_cons]
    by_cases hn : name = n
    · simp [hn]
    · have htail : name ∈ names := by
        rcases List.mem_cons.mp h with h | h
        · exact absurd h hn
        · exact h
      have hbeq : (name == n) = false := by simpa using hn
      rw [hbeq]
      exact ih htail

@[simp] theorem ofMember_cons (name : String) (m : String × Json) (ms : List (String × Json)) :
    ofMember (m :: ms) name = if name = m.1 then .given m.2 else ofMember ms name := by
  unfold ofMember
  rw [List.lookup_cons]
  by_cases h : name = m.1
  · simp [h]
  · have hbeq : (name == m.1) = false := by simpa using h
    simp [h, hbeq]

/-- a member that is left out leaves the field to the members that follow -/
@[simp] theorem ofMember_unlessNone (name field : String) (o : Option String)
    (ms : List (String × Json)) :
    ofMember (Json.memberUnlessNone field o ++ ms) name
      = if name = field then o.elim (ofMember ms name) (fun s => .given (.string s))
        else ofMember ms name := by
  cases o with
  | none => simp [Json.memberUnlessNone]
  | some s =>
    rw [Json.memberUnlessNone, List.singleton_append, ofMember_cons]
    rfl

theorem sublist_unlessNone {field : String} {o : Option String} {ms : List (String × Json)}
    {names : List String} (h : (ms.map (·.1)).Sublist names) :
    ((Json.memberUnlessNone field o ++ ms).map (·.1)).Sublist (field :: names) := by
  cases o with
  | none => exact h.cons field
  | some s => exact h.cons_cons field

/-! ### reading the fields one after the other -/

section
variable {α β : Type} {b : β} {r : Record} {name : String} {j : Json} {read : Json → Option α}

theorem ofJson?_bind {names : List String} {members : List (String × Json)}
    {f : Record → Option β} (hnames : names.Nodup) (hsub : (members.map (·.1)).Sublist names)
    (h : f (ofMembers names members) = some b) :
    (ofJson? names (.object members) >>= f) = some b := by
  rw [ofJson?_object hnames hsub]
  exact h

theorem required_bind {a : α} {f : α → Option β} (hslot : r.slot name = .given j)
    (hread : read j = some a) (h : f a = some b) :
    (r.required name read >>= f) = some b := by
  unfold required
  rw [hslot]
  show (read j).bind f = some b
  rw [hread]
  exact h

theorem optional_bind {a : Option α} {f : Option α → Option β} (hslot : r.slot name = .given j)
    (hread : j.option? read = some a) (h : f a = some b) :
    (r.optional name read >>= f) = some b := by
  unfold optional
  rw [hslot]
  show (j.option? read).bind f = some b
  rw [hread]
  exact h

theorem defaulted_bind {default a : α} {f : α → Option β} (hslot : r.slot name = .given j)
    (hread : read j = some a) (h : f a = some b) :
    (r.defaulted name default read >>= f) = some b := by
  unfold defaulted
  rw [hslot]
  show (read j).bind f = some b
  rw [hread]
  exact h

/-- a field whose member is left out when it is unset -/
theorem unlessNone_bind {o : Option String} {f : Option String → Option β}
    (hslot : r.slot name = o.elim .absent fun s => .given (.string s)) (h : f o = some b) :
    (r.optional name Json.string? >>= f) = some b := by
  unfold optional
  rw [hslot]
  cases o with
  | none => exact h
  | some s => exact h

end

end Record
end AccessControl
